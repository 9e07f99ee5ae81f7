-- Cells that are stored. A container is stored as one text: as JSON when the
-- key of its column asks for it, else as structured text.
import StructuredSql.Stored.Structured
import StructuredSql.Marker

namespace StructuredSql.Cell

/-- The mark at the end of a key that asks for JSON. -/
def jsonMarker : String := "[JSON]"

/-- What stands before the tail, if the text ends in it. -/
def beforeTail? (tail s : List Char) : Option (List Char) :=
  if tail.reverse.isPrefixOf s.reverse then some (s.take (s.length - tail.length)) else none

def wantsJson (key : String) : Bool := (beforeTail? jsonMarker.toList key.toList).isSome

/-- The key without the mark and the blank space before it. -/
def column (key : String) : String :=
  match beforeTail? jsonMarker.toList key.toList with
  | some s => String.ofList (Text.trimEnd s)
  | none => key

/-- The text of a container under the key of its column. -/
def encode (key : String) (v : Value) : String :=
  if wantsJson key then v.jsonText else Structured.print v

/-- The SQL of a stored cell: fragments as they are, containers as text, and
scalars under their own kind. -/
def store (key : String) (v : Value) : Build Sql :=
  match v with
  | .raw raw => Build.fragment raw
  | .array _ => Build.text (encode key v)
  | .object _ => Build.text (encode key v)
  | v => Build.scalar v

end StructuredSql.Cell
