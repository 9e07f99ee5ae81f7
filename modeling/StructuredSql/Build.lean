-- The build of one statement. A build is told the number of its first placeholder
-- and gives what it makes together with what it binds, in order. It neither sees
-- nor changes what was bound before it.
import StructuredSql.Fault
import StructuredSql.Value.View

namespace StructuredSql

/-- One thing that a build binds. -/
inductive Binding
  /-- A value under the next placeholder. -/
  | fresh (param : Param)
  /-- A binding that a fragment brings under its own key. -/
  | given (key : String) (param : Param)

namespace Binding

def isFresh : Binding → Bool
  | fresh _ => true
  | given _ _ => false

/-- How many placeholders are made. -/
def countFresh (bound : List Binding) : Nat := bound.countP isFresh

/-- Every binding under its key. Placeholders are numbered on from `n`. -/
def entriesFrom (n : Nat) : List Binding → List (String × Param)
  | [] => []
  | fresh param :: rest => (placeholderKey n, param) :: entriesFrom (n + 1) rest
  | given key param :: rest => (key, param) :: entriesFrom n rest

/-- The bindings of a whole statement. A key that is bound again keeps its place
and takes the later value. -/
def params (bound : List Binding) : Params := Entries.ofPairs (entriesFrom 0 bound)

end Binding

/-- A build that may stop at a fault. -/
def Build (α : Type) : Type := Nat → Except Fault (α × List Binding)

namespace Build

/-- Nothing is bound for a value that is there already. -/
def ready {α : Type} (a : α) : Build α := fun _ => .ok (a, [])

/-- One build, and behind it one that may depend on its result. -/
def andThen {α β : Type} (x : Build α) (f : α → Build β) : Build β := fun n =>
  match x n with
  | .error fault => .error fault
  | .ok (a, bound) =>
    match f a (n + Binding.countFresh bound) with
    | .error fault => .error fault
    | .ok (b, more) => .ok (b, bound ++ more)

instance : Monad Build where
  pure := ready
  bind := andThen

/-- A result that binds nothing, or its fault. -/
def ofExcept {α : Type} (result : Except Fault α) : Build α := fun _ =>
  match result with
  | .ok a => .ok (a, [])
  | .error fault => .error fault

instance : MonadLift (Except Fault) Build := ⟨ofExcept⟩

def fail {α : Type} (fault : Fault) : Build α := fun _ => .error fault

/-- A fresh placeholder bound to the parameter. -/
def placeholder (param : Param) : Build Sql := fun n => .ok ([.placeholder n], [.fresh param])

/-- A scalar under its own kind. -/
def scalar (v : Value) : Build Sql :=
  match v with
  | .array _ => fail (.scalarExpected v.type)
  | .object _ => fail (.scalarExpected v.type)
  | .raw _ => fail .fragmentBound
  | v => placeholder (.natural v)

/-- A text under the kind of texts. -/
def text (s : String) : Build Sql := placeholder ⟨.string s, .string⟩

/-- A numeric value as a whole number, or else as a float. -/
def number (v : Value) : Build Sql :=
  match v with
  | .int i => placeholder ⟨.int i, .int⟩
  | .float x => placeholder ⟨.float x, .float⟩
  | v =>
    match Text.readInt64? (Text.trim v.toText.toList) with
    | some i => placeholder ⟨.int i, .int⟩
    | none => placeholder ⟨.float (v.toDouble?.getD (Double.zero false)), .float⟩

/-- The bindings of a fragment, as they are given. -/
def merge (params : Params) : Build Unit := fun _ =>
  .ok ((), params.map fun e => .given e.1 e.2)

/-- One part, and behind it the others. -/
def cons {α : Type} (first : Build α) (rest : Build (List α)) : Build (List α) :=
  return (← first) :: (← rest)

/-- One build after the other, and their results in order. -/
def each {α : Type} (f : α → Build Sql) : List α → Build (List Sql)
  | [] => pure []
  | a :: rest => cons (f a) (each f rest)

end Build
end StructuredSql
