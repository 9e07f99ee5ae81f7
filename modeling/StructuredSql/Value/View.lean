-- The ways in which a value is read: as a number, as a truth value, as text.
import StructuredSql.Value.Json
import StructuredSql.Text.Utf8

namespace StructuredSql.Value

/-- The finite number that a text writes, blank space around it aside. -/
def numericText? (s : String) : Option Double :=
  match Text.readDouble? (Text.trim s.toList) with
  | some x => if x.isFinite then some x else none
  | none => none

/-- Whole numbers, floats, and texts that write a finite number. -/
def isNumeric : Value → Bool
  | int _ => true
  | float _ => true
  | string s => (numericText? s).isSome
  | _ => false

/-- The whole number that a value stands for: itself, a float without fraction,
the number that a text writes, or 1 and 0 for true and false. -/
def toInt64? : Value → Option Int64
  | int i => some i
  | float x => if x.isWhole then some x.toInt64 else none
  | string s => Text.readInt64? (Text.trim s.toList)
  | bool b => some (if b then 1 else 0)
  | _ => none

/-- The floating-point number that a value stands for. -/
def toDouble? : Value → Option Double
  | int i => some (Double.ofInt64 i)
  | float x => some x
  | string s => Text.readDouble? (Text.trim s.toList)
  | bool b => some (Double.ofInt (if b then 1 else 0))
  | _ => none

/-- False are null, false, zero, the empty text, the text `0` and what is
empty. -/
def isTruthy : Value → Bool
  | null => false
  | bool b => b
  | int i => i != 0
  | float x => !x.isZero
  | string s => !(s == "" || s == "0")
  | bytes bs => !bs.isEmpty
  | array items => !items.isEmpty
  | object fields => !fields.isEmpty
  | raw _ => true

/-- The text of a value. Null is the empty text, a fragment its SQL, and a
container its JSON text. -/
def toText : Value → String
  | null => ""
  | bool b => if b then "1" else "0"
  | int i => toString i.toInt
  | float x => x.toText
  | string s => s
  | bytes bs => Text.Utf8.decodeLossy bs
  | raw fragment => fragment.sql
  | v => v.jsonText

end StructuredSql.Value
