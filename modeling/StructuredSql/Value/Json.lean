-- Values as JSON documents and back.
import StructuredSql.Value.Basic
import StructuredSql.Json.Printer
import StructuredSql.Json.Parser
import StructuredSql.Text.Base64

namespace StructuredSql.Value

mutual

/-- The document of a value: bytes become base64 text, a fragment its SQL, and
a float that is not finite becomes null. -/
def toJson : Value → Json
  | .null => .null
  | .bool b => .bool b
  | .int i => .int i.toInt
  | .float x => if x.isFinite then .float x else .null
  | .string s => .string s
  | .bytes bs => .string (Text.Base64.encode bs)
  | .array items => .array (itemsToJson items)
  | .object fields => .object (fieldsToJson fields)
  | .raw ⟨sql, _⟩ => .string sql
termination_by structural v => v

def itemsToJson : List Value → List Json
  | [] => []
  | v :: rest => v.toJson :: itemsToJson rest
termination_by structural items => items

def fieldsToJson : List (String × Value) → List (String × Json)
  | [] => []
  | (k, v) :: rest => (k, v.toJson) :: fieldsToJson rest
termination_by structural fields => fields

end

mutual

/-- The value of a document. Whole numbers beyond 64 signed bits are floats, and
a member that is named again replaces the earlier one in its place. -/
def ofJson : Json → Value
  | .null => .null
  | .bool b => .bool b
  | .int i => if Text.fitsInt64 i then .int (Int64.ofInt i) else .float (Double.ofInt i)
  | .float x => .float x
  | .string s => .string s
  | .array items => .array (itemsOfJson items)
  | .object members => .object (Entries.ofPairs (fieldsOfJson members))
termination_by structural j => j

def itemsOfJson : List Json → List Value
  | [] => []
  | j :: rest => ofJson j :: itemsOfJson rest
termination_by structural items => items

def fieldsOfJson : List (String × Json) → List (String × Value)
  | [] => []
  | (k, j) :: rest => (k, ofJson j) :: fieldsOfJson rest
termination_by structural members => members

end

def jsonText (v : Value) : String := v.toJson.print

end StructuredSql.Value
