-- How bound values reach an SQLite engine, and how its cells are read back.
import StructuredSql.Value.View

namespace StructuredSql

/-- What an SQLite engine keeps in a cell. -/
inductive SqlCell
  | null
  | integer (i : Int64)
  | real (x : Double)
  | text (s : String)
  | blob (bs : List UInt8)

namespace SqlCell

/-- The name of the cell's type in SQL. -/
def typeName : SqlCell → String
  | null => "null"
  | integer _ => "integer"
  | real _ => "real"
  | text _ => "text"
  | blob _ => "blob"

/-- A float as a cell. What is no number is kept as null. -/
def ofDouble (x : Double) : SqlCell := if x.isNaN then null else real x

/-- The cell of a value under its declared kind. What has no number of the kind
goes in as text. -/
def ofBound (p : Param) : SqlCell :=
  match p.kind, p.value with
  | .null, _ => null
  | _, .null => null
  | .bool, v => integer (if v.isTruthy then 1 else 0)
  | .int, v =>
    match v.toInt64? with
    | some i => integer i
    | none => text v.toText
  | .float, v =>
    match v.toDouble? with
    | some x => ofDouble x
    | none => text v.toText
  | .blob, .bytes bs => blob bs
  | .blob, v => blob (Text.Utf8.encode v.toText)
  | .string, v => text v.toText

/-- The value that a cell is read as. -/
def value : SqlCell → Value
  | null => .null
  | integer i => .int i
  | real x => .float x
  | text s => .string s
  | blob bs => .bytes bs

end SqlCell
end StructuredSql
