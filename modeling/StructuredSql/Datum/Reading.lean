-- How types are read out of data. A record is a map under field names or a list
-- in field order; a case is its bare name or a map of one entry. `room` is how
-- many more lists and maps may be opened; the one-entry map of a case is free.
import StructuredSql.Datum.Basic
import StructuredSql.Text.Numeral
import StructuredSql.Text.Utf8

namespace StructuredSql

/-- The format that data came from. -/
inductive Source
  | json
  | messagePack
  | toml
  /-- Any format, when the data was held back until more of it was known. -/
  | held
deriving DecidableEq, Repr

namespace Source

/-- Fields and cases may also be given by their position. -/
def indexed : Source → Bool
  | messagePack => true
  | held => true
  | _ => false

/-- The forms in which a position may be given. Data that was held back keeps fewer
of them. -/
def takesForm : Source → WholeForm → Bool
  | messagePack, .middle => true
  | _, _ => false

/-- The content of a case that carries nothing, when it is given as a map. -/
def isUnit : Source → Datum → Bool
  | toml, .list [] => true
  | toml, .map [] => true
  | toml, _ => false
  | _, .null => true
  | _, _ => false

end Source

namespace Datum

/-! ## Scalars -/

/-- A text, also as octets that spell one. -/
def text? : Datum → Option String
  | .string s => some s
  | .bytes bs => Text.Utf8.decode? bs
  | _ => none

def bool? : Datum → Option Bool
  | .bool b => some b
  | _ => none

/-- A whole number in any form. -/
def whole? : Datum → Option Int
  | .int i => some i
  | .formed _ i => some i
  | _ => none

def int64? (d : Datum) : Option Int64 :=
  d.whole?.bind fun i => if Text.fitsInt64 i then some (Int64.ofInt i) else none

/-- A whole number from zero up to the bound, which is excluded. -/
def natBelow? (bound : Nat) (d : Datum) : Option Nat :=
  d.whole?.bind fun i => if 0 ≤ i ∧ i < bound then some i.toNat else none

/-- A float, also as a whole number. -/
def double? : Datum → Option Double
  | .float x => some x
  | d => d.whole?.map Double.ofInt

/-- The items of a list that may still be opened, with the room inside. No octets
are a list of nothing, and take no room. -/
def list? (room : Nat) : Datum → Option (Nat × List Datum)
  | .list items =>
    match room with
    | 0 => none
    | room + 1 => some (room, items)
  | .bytes [] => some (room, [])
  | _ => none

/-- Octets, plain or as a list of numbers. -/
def octets? (room : Nat) : Datum → Option (List UInt8)
  | .bytes bs => some bs
  | d => (d.list? room).bind fun (_, items) =>
    items.mapM fun i => (i.natBelow? 256).map UInt8.ofNat

/-- A list of texts. -/
def texts? (room : Nat) (d : Datum) : Option (List String) :=
  (d.list? room).bind fun (_, items) => items.mapM text?

/-! ## Names -/

/-- The position of the name that a key gives: `none` for what cannot be a key,
`some none` for an unknown name. -/
def position? (src : Source) (names : List String) : Datum → Option (Option Nat)
  | .string s => some (names.idxOf? s)
  | .bytes bs => some ((Text.Utf8.decode? bs).bind names.idxOf?)
  | .garbled => some none
  | .int i => if src.indexed ∧ 0 ≤ i then some (known i) else none
  | .formed form i => if src.takesForm form then some (known i) else none
  | _ => none
where
  known (i : Int) : Option Nat := if i.toNat < names.length then some i.toNat else none

/-- The known name that a key gives. -/
def name? (src : Source) (names : List String) (key : Datum) : Option String :=
  match position? src names key with
  | some (some i) => names[i]?
  | _ => none

/-! ## Cases -/

/-- The case and its content, if it has any. -/
def case? (src : Source) (names : List String) : Datum → Option (String × Option Datum)
  | .map [(key, content)] => (name? src names key).map fun n => (n, some content)
  | d => (name? src names d).map fun n => (n, none)

/-- Nothing, or what the format writes for nothing. -/
def isUnit (src : Source) : Option Datum → Bool
  | none => true
  | some d => src.isUnit d

/-- One of several plain names. -/
def choice? {α : Type} (src : Source) (names : List (String × α)) (d : Datum) : Option α :=
  match case? src (names.map (·.1)) d with
  | some (n, content) => if isUnit src content then names.lookup n else none
  | none => none

/-! ## Records -/

/-- The entries of a map, put into the slots of their fields. A field that comes
again is refused, and so is an unknown one when `closed`. -/
def fill (src : Source) (names : List String) (closed : Bool) (room : Nat) :
    List (Datum × Datum) → List (Option Datum) → Option (List (Option Datum))
  | [], slots => some slots
  | (key, d) :: rest, slots =>
    match position? src names key with
    | none => none
    | some none =>
      if closed || decide (room < d.depth) then none
      else fill src names closed room rest slots
    | some (some i) =>
      match slots[i]? with
      | some none => fill src names closed room rest (slots.set i (some d))
      | _ => none

/-- The fields of a record, in order, with the room inside. No octets are a record
of nothing. -/
def record? (src : Source) (names : List String) (closed : Bool) (room : Nat) (d : Datum) :
    Option (Nat × List (Option Datum)) :=
  match room, d with
  | room, .bytes [] => some (room, names.map fun _ => none)
  | 0, _ => none
  | room + 1, d =>
    match d with
    | .map entries =>
      (fill src names closed room entries (names.map fun _ => none)).map fun slots =>
        (room, slots)
    | .list items =>
      if items.length ≤ names.length then
        some (room, items.map some ++ List.replicate (names.length - items.length) none)
      else none
    | _ => none

/-- A field that may be absent or null. -/
def optional? {α : Type} (read : Datum → Option α) : Option Datum → Option (Option α)
  | none => some none
  | some .null => some none
  | some d => (read d).map some

/-- A field that has a value of its own when it is absent. -/
def default? {α : Type} (a : α) (read : Datum → Option α) : Option Datum → Option α
  | none => some a
  | some d => read d

end Datum
end StructuredSql
