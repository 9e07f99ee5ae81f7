-- The values that descriptors, bindings and result rows are made of, and the
-- bindings of placeholders to values.
import StructuredSql.Entries
import StructuredSql.Double.Basic

namespace StructuredSql

/-- How a bound value is handed to the engine. -/
inductive ScalarKind
  | null
  | int
  | float
  | bool
  | string
  | blob
deriving DecidableEq, Repr, Inhabited

/-- A bound value and its declared kind. -/
structure Bound (α : Type) where
  value : α
  kind : ScalarKind

/-- A piece of SQL written by the caller, with bindings of its own. -/
structure Fragment (α : Type) where
  sql : String
  params : List (String × Bound α)

/-- One datum. Objects keep their entries in order, because descriptors read
their keys in order; a raw fragment may stand wherever a value may. -/
inductive Value
  | null
  | bool (b : Bool)
  | int (i : Int64)
  | float (x : Double)
  | string (s : String)
  | bytes (bs : List UInt8)
  | array (items : List Value)
  | object (fields : List (String × Value))
  | raw (fragment : Fragment Value)
deriving Inhabited

/-- The entries of an object. -/
abbrev Fields := Entries Value

/-- A bound value. -/
abbrev Param := Bound Value

/-- Bindings of placeholders, keyed with their leading colon. -/
abbrev Params := Entries Param

/-- A caller's fragment. -/
abbrev Raw := Fragment Value

/-- The nine shapes of a value. -/
inductive ValueType
  | null
  | bool
  | int
  | float
  | string
  | bytes
  | array
  | object
  | raw
deriving DecidableEq, Repr

def ValueType.name : ValueType → String
  | .null => "Null"
  | .bool => "Bool"
  | .int => "Int"
  | .float => "Float"
  | .string => "String"
  | .bytes => "Bytes"
  | .array => "Array"
  | .object => "Object"
  | .raw => "Raw"

namespace Value

def type : Value → ValueType
  | null => .null
  | bool _ => .bool
  | int _ => .int
  | float _ => .float
  | string _ => .string
  | bytes _ => .bytes
  | array _ => .array
  | object _ => .object
  | raw _ => .raw

def isNull : Value → Bool
  | null => true
  | _ => false

def isRaw : Value → Bool
  | raw _ => true
  | _ => false

/-- Arrays and objects hold other values. -/
def isContainer : Value → Bool
  | array _ => true
  | object _ => true
  | _ => false

def string? : Value → Option String
  | string s => some s
  | _ => none

def array? : Value → Option (List Value)
  | array items => some items
  | _ => none

def object? : Value → Option Fields
  | object fields => some fields
  | _ => none

/-- The kind under which a value is bound when no other is asked for. What is
no scalar is bound as text, after it has been encoded. -/
def kind : Value → ScalarKind
  | null => .null
  | bool _ => .bool
  | int _ => .int
  | float _ => .float
  | bytes _ => .blob
  | _ => .string

end Value

/-- A value bound under its own kind. -/
def Bound.natural (v : Value) : Param := ⟨v, v.kind⟩

namespace Fragment

def plain (sql : String) : Raw := ⟨sql, []⟩

/-- The key with its leading colon. -/
def placeholderKey (key : String) : String :=
  if key.toList.head? = some ':' then key else ":" ++ key

/-- The fragment with one more binding, under the value's own kind. -/
def bind (raw : Raw) (key : String) (v : Value) : Raw :=
  { raw with params := Entries.insert raw.params (placeholderKey key) (.natural v) }

end Fragment
end StructuredSql
