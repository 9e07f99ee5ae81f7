-- Values as data: each one under the name of its shape, so that a byte string
-- is never taken for a text, nor a whole float for an integer.
import StructuredSql.Value.Basic
import StructuredSql.Datum.Reading

namespace StructuredSql

namespace ScalarKind

/-- Every kind under its name. -/
def table : List (String × ScalarKind) :=
  [("Null", null), ("Int", int), ("Float", float), ("Bool", bool), ("String", string),
    ("Blob", blob)]

def name : ScalarKind → String
  | null => "Null"
  | int => "Int"
  | float => "Float"
  | bool => "Bool"
  | string => "String"
  | blob => "Blob"

def toDatum (k : ScalarKind) : Datum := .string k.name

def ofDatum? (src : Source) (d : Datum) : Option ScalarKind := Datum.choice? src table d

end ScalarKind

/-! ## Writing -/

namespace Value

mutual

def toDatum : Value → Datum
  | .null => .string "Null"
  | .bool b => .tagged "Bool" (.bool b)
  | .int i => .tagged "Int" (.int i.toInt)
  | .float x => .tagged "Float" (.float x)
  | .string s => .tagged "String" (.string s)
  | .bytes bs => .tagged "Bytes" (.list (bs.map fun b => .int b.toNat))
  | .array items => .tagged "Array" (.list (itemsToData items))
  | .object fields => .tagged "Object" (.map (fieldsToData fields))
  | .raw ⟨sql, params⟩ =>
    .tagged "Raw" (.record [("sql", .string sql), ("params", .list (paramsToData params))])
termination_by structural v => v

def itemsToData : List Value → List Datum
  | [] => []
  | v :: rest => v.toDatum :: itemsToData rest
termination_by structural items => items

def fieldsToData : List (String × Value) → List (Datum × Datum)
  | [] => []
  | (k, v) :: rest => (.string k, v.toDatum) :: fieldsToData rest
termination_by structural fields => fields

/-- Bindings are a list of pairs, in order. -/
def paramsToData : List (String × Bound Value) → List Datum
  | [] => []
  | (k, ⟨v, kind⟩) :: rest =>
    .list [.string k, .record [("value", v.toDatum), ("kind", kind.toDatum)]] ::
      paramsToData rest
termination_by structural params => params

end

end Value

/-- The entries of an object, without the name of its shape. -/
def Fields.toDatum (fields : Fields) : Datum := .map (Value.fieldsToData fields)

def Params.toDatum (params : Params) : Datum := .list (Value.paramsToData params)

def Raw.toDatum (raw : Raw) : Datum :=
  .record [("sql", .string raw.sql), ("params", Params.toDatum raw.params)]

/-! ## Reading -/

namespace Bound

/-- A bound value and its kind. The value is read with the room inside. -/
def ofDatum? (src : Source) (room : Nat) (value? : Datum → Option Value) (d : Datum) :
    Option Param := do
  let (_, slots) ← Datum.record? src ["value", "kind"] false room d
  match slots with
  | [some v, some kind] => return ⟨← value? v, ← ScalarKind.ofDatum? src kind⟩
  | _ => none

/-- A placeholder with what is bound to it. -/
def entryOfDatum? (src : Source) (room : Nat) (value? : Datum → Option Value) (d : Datum) :
    Option (String × Param) := do
  let (room, items) ← d.list? room
  match items with
  | [k, p] => return (← k.text?, ← ofDatum? src room value? p)
  | _ => none

/-- Bindings in the order and number in which they are written. Values stand
three lists and maps further in. -/
def listOfDatum? (src : Source) (room : Nat) (value? : Datum → Option Value) (d : Datum) :
    Option Params := do
  let (room, items) ← d.list? room
  items.mapM (entryOfDatum? src room value?)

end Bound

/-- A fragment. Values of its bindings stand four lists and maps further in. -/
def Fragment.ofDatum? (src : Source) (room : Nat) (value? : Datum → Option Value) (d : Datum) :
    Option Raw := do
  let (room, slots) ← Datum.record? src ["sql", "params"] false room d
  match slots with
  | [some sql, params] =>
    return ⟨← sql.text?, ← Datum.default? [] (Bound.listOfDatum? src room value?) params⟩
  | _ => none

namespace Value

/-- The names of the shapes. -/
def shapeNames : List String :=
  ["Null", "Bool", "Int", "Float", "String", "Bytes", "Array", "Object", "Raw"]

/-- The entry of an object. -/
def entryOfDatum? (value? : Datum → Option Value) (e : Datum × Datum) :
    Option (String × Value) := do
  return (← e.1.text?, ← value? e.2)

/-- The entries of an object, a repeated key overwriting in place. -/
def fieldsOf? (value? : Datum → Option Value) : Datum → Option Fields
  | .map entries => (entries.mapM (entryOfDatum? value?)).map Entries.ofPairs
  | _ => none

/-- The value that data spells. -/
def ofDatum? (src : Source) (room : Nat) (d : Datum) : Option Value :=
  match Datum.case? src shapeNames d with
  | some ("Null", content) => if Datum.isUnit src content then some .null else none
  | some ("Bool", some d) => d.bool?.map .bool
  | some ("Int", some d) => d.int64?.map .int
  | some ("Float", some d) => d.double?.map .float
  | some ("String", some d) => d.text?.map .string
  | some ("Bytes", some d) => (d.octets? room).map .bytes
  | some ("Array", some (.bytes [])) => some (.array [])
  | some ("Array", some (.list items)) =>
    match room with
    | 0 => none
    | room + 1 => (items.mapM (ofDatum? src room)).map .array
  | some ("Object", some d) =>
    match room with
    | 0 => none
    | room + 1 => (fieldsOf? (ofDatum? src room) d).map .object
  | some ("Raw", some d) =>
    match room with
    | 0 | 1 | 2 | 3 => (Fragment.ofDatum? src room (fun _ => none) d).map .raw
    | room + 4 => (Fragment.ofDatum? src (room + 4) (ofDatum? src room) d).map .raw
  | _ => none
termination_by structural room

end Value

/-- The entries of an object that stands without the name of its shape. -/
def Fields.ofDatum? (src : Source) (room : Nat) (d : Datum) : Option Fields :=
  match room with
  | 0 => none
  | room + 1 => Value.fieldsOf? (Value.ofDatum? src room) d

def Params.ofDatum? (src : Source) (room : Nat) (d : Datum) : Option Params :=
  Bound.listOfDatum? src room (Value.ofDatum? src (room - 3)) d

def Raw.ofDatum? (src : Source) (room : Nat) (d : Datum) : Option Raw :=
  Fragment.ofDatum? src room (Value.ofDatum? src (room - 4)) d

end StructuredSql
