-- Transcripts are JSON documents that write down what went in and out of a
-- session, exactly: a float by its bits, octets in hexadecimal, an object as a
-- list of pairs, a fragment with its bindings. This module has the values.
import StructuredSql.Value.Datum
import StructuredSql.Json.Basic
import StructuredSql.Octets
import StructuredSql.Text.Hex

namespace StructuredSql.Transcript

/-! ## Writing -/

def optional {α : Type} (write : α → Json) : Option α → Json
  | some a => write a
  | none => .null

def texts (ss : List String) : Json := .array (ss.map .string)

def octets (bs : List UInt8) : Json := .string (Text.Hex.encode bs)

/-- A float by its bits. What is no number has one form only. -/
def double (x : Double) : Json :=
  let bits := if x.isNaN then .string "nan" else octets (Octets.big 8 x.bits.toNat)
  .object [("$f", bits)]

mutual

def value : Value → Json
  | .null => .null
  | .bool b => .bool b
  | .int i => .int i.toInt
  | .float x => double x
  | .string s => .string s
  | .bytes bs => .object [("$b", octets bs)]
  | .array items => .array (values items)
  | .object fields => .object [("$o", .array (pairs fields))]
  | .raw ⟨sql, params⟩ => .object [("$r", .string sql), ("$p", .array (bindings params))]
termination_by structural v => v

def values : List Value → List Json
  | [] => []
  | v :: rest => value v :: values rest
termination_by structural vs => vs

def pairs : List (String × Value) → List Json
  | [] => []
  | (k, v) :: rest => .array [.string k, value v] :: pairs rest
termination_by structural ps => ps

def bindings : List (String × Bound Value) → List Json
  | [] => []
  | (k, ⟨v, kind⟩) :: rest => .array [.string k, value v, .string kind.name] :: bindings rest
termination_by structural ps => ps

end

def fields (m : Fields) : Json := value (.object m)

def params (ps : Params) : Json := .array (bindings ps)

def raw (r : Raw) : Json := value (.raw r)

/-- An absent value is told apart from null. -/
def maybe : Option Value → Json
  | some v => .object [("some", value v)]
  | none => .string "none"

/-! ## Reading -/

def octets? (j : Json) : Option (List UInt8) := j.text?.bind Text.Hex.decode?

/-- Octets in parts, some of them repeated. -/
def bytes? : Json → Option (List UInt8)
  | .array parts => do
    let part (p : Json) : Option (List UInt8) := do
      match p with
      | .array [s, n] => return (List.replicate (← n.nat?) (← octets? s)).flatten
      | p => octets? p
    return (← parts.mapM part).flatten
  | j => octets? j

def double? (s : String) : Option Double :=
  if s = "nan" then some Double.nan
  else (Text.Hex.decode? s).map fun bs => ⟨UInt64.ofNat (Octets.ofBig bs)⟩

mutual

/-- A value. Keys that are repeated keep their first place and their last
content. -/
def value? : Json → Option Value
  | .null => some .null
  | .bool b => some (.bool b)
  | .int i => some (.int (Int64.ofInt i))
  | .string s => some (.string s)
  | .array items => (values? items).map .array
  | .object [("$f", .string bits)] => (double? bits).map .float
  | .object [("$b", bs)] => (octets? bs).map .bytes
  | .object [("$o", .array ps)] => (pairs? ps).map fun ps => .object (Entries.ofPairs ps)
  | .object [("$r", .string sql)] => some (.raw ⟨sql, []⟩)
  | .object [("$r", .string sql), ("$p", .array ps)] =>
    (bindings? ps).map fun ps => .raw ⟨sql, Entries.ofPairs ps⟩
  | .object [("$p", .array ps), ("$r", .string sql)] =>
    (bindings? ps).map fun ps => .raw ⟨sql, Entries.ofPairs ps⟩
  | _ => none
termination_by j => sizeOf j

def values? : List Json → Option (List Value)
  | [] => some []
  | j :: rest => do return (← value? j) :: (← values? rest)
termination_by js => sizeOf js

def pairs? : List Json → Option (List (String × Value))
  | [] => some []
  | .array [.string k, j] :: rest => do return (k, ← value? j) :: (← pairs? rest)
  | _ => none
termination_by js => sizeOf js

/-- Bindings. One without a kind has the value's own. -/
def bindings? : List Json → Option (List (String × Param))
  | [] => some []
  | .array [.string k, j] :: rest => do return (k, .natural (← value? j)) :: (← bindings? rest)
  | .array [.string k, j, .string kind] :: rest => do
    return (k, ⟨← value? j, ← ScalarKind.table.lookup kind⟩) :: (← bindings? rest)
  | _ => none
termination_by js => sizeOf js

end

/-- A value with or without a kind. -/
def param? : List Json → Option Param
  | [j] => (value? j).map .natural
  | [j, .string kind] => do return ⟨← value? j, ← ScalarKind.table.lookup kind⟩
  | _ => none

def params? (j : Json) : Option Params := (j.elements?.bind bindings?).map Entries.ofPairs

def fields? (j : Json) : Option Fields := (value? j).bind Value.object?

def raw? (j : Json) : Option Raw :=
  match value? j with
  | some (.raw r) => some r
  | _ => none

/-- A value, told apart from an absent one. -/
def maybe? : Json → Option (Option Value)
  | .string "none" => some none
  | .object [("some", j)] => (value? j).map some
  | _ => none

/-- A member that may be absent; null is a value. -/
def memberValue? (j : Json) (name : String) : Option (Option Value) :=
  match j.member? name with
  | none => some none
  | some j => (value? j).map some

/-- Bindings that may be absent. -/
def memberParams? (j : Json) (name : String) : Option Params := j.default? params? name []

end StructuredSql.Transcript
