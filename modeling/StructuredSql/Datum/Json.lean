-- Data as JSON documents and back.
import StructuredSql.Datum.Basic
import StructuredSql.Json.Printer

namespace StructuredSql

mutual

/-- The data of a document. -/
def Json.toDatum : Json → Datum
  | .null => .null
  | .bool b => .bool b
  | .int i => .int i
  | .float x => .float x
  | .string s => .string s
  | .array items => .list (Json.itemsToData items)
  | .object members => .map (Json.membersToData members)
termination_by structural j => j

def Json.itemsToData : List Json → List Datum
  | [] => []
  | j :: rest => j.toDatum :: Json.itemsToData rest
termination_by structural items => items

def Json.membersToData : List (String × Json) → List (Datum × Datum)
  | [] => []
  | (k, j) :: rest => (.string k, j.toDatum) :: Json.membersToData rest
termination_by structural members => members

end

mutual

/-- The document of data. What JSON has no form for is null, and an entry whose
key is no text is left out. -/
def Datum.toJson : Datum → Json
  | .null => .null
  | .bool b => .bool b
  | .int i => .int i
  | .formed _ i => .int i
  | .float x => .float x
  | .string s => .string s
  | .bytes _ => .null
  | .garbled => .null
  | .list items => .array (Datum.itemsToJson items)
  | .map entries => .object (Datum.entriesToJson entries)
  | .extension => .null
termination_by structural d => d

def Datum.itemsToJson : List Datum → List Json
  | [] => []
  | d :: rest => d.toJson :: Datum.itemsToJson rest
termination_by structural items => items

def Datum.entriesToJson : List (Datum × Datum) → List (String × Json)
  | [] => []
  | (.string k, d) :: rest => (k, d.toJson) :: Datum.entriesToJson rest
  | _ :: rest => Datum.entriesToJson rest
termination_by structural entries => entries

end

end StructuredSql
