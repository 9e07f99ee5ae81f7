-- JSON documents. Whole numbers within 64 bits are kept apart from other
-- numbers, and the members of an object keep their order. A view gives something when
-- the document has the shape that is asked for.
import StructuredSql.Entries
import StructuredSql.Double.Basic

namespace StructuredSql

inductive Json
  | null
  | bool (b : Bool)
  | int (i : Int)
  | float (x : Double)
  | string (s : String)
  | array (items : List Json)
  | object (members : List (String × Json))
deriving Inhabited

namespace Json

/-! ## Views -/

def text? : Json → Option String
  | string s => some s
  | _ => none

def bool? : Json → Option Bool
  | bool b => some b
  | _ => none

def int? : Json → Option Int
  | int i => some i
  | _ => none

/-- A whole number that is not negative. -/
def nat? : Json → Option Nat
  | int (.ofNat n) => some n
  | _ => none

def elements? : Json → Option (List Json)
  | array items => some items
  | _ => none

/-- The first member of the name. -/
def member? (j : Json) (name : String) : Option Json :=
  match j with
  | object members => Entries.get? members name
  | _ => none

/-- What a member reads as. One that is absent or null reads as nothing, and one
that cannot be read spoils the document. -/
def optional? {α : Type} (read : Json → Option α) (j : Json) (name : String) :
    Option (Option α) :=
  match j.member? name with
  | none => some none
  | some null => some none
  | some member => (read member).map some

/-- What a member reads as, or what stands for it when it is absent. -/
def default? {α : Type} (read : Json → Option α) (j : Json) (name : String) (absent : α) :
    Option α :=
  match j.member? name with
  | none => some absent
  | some member => read member

/-- What a member reads as. -/
def required? {α : Type} (read : Json → Option α) (j : Json) (name : String) : Option α :=
  (j.member? name).bind read

/-- What the items of a list read as. -/
def list? {α : Type} (read : Json → Option α) (j : Json) : Option (List α) :=
  j.elements?.bind fun items => items.mapM read

end Json

end StructuredSql
