-- Commands as data: a case under its name with a record of its parts. Unknown
-- parts are refused.
import StructuredSql.Command.Basic
import StructuredSql.Query.Datum

namespace StructuredSql

namespace Property

/-- Every property under its name. -/
def table : List (String × Property) :=
  [("Engine", engine), ("Prefix", tablePrefix), ("Error", error), ("ErrorInfo", errorInfo),
    ("QueryString", queryString), ("Logging", logging), ("DryRun", dryRun),
    ("DebugLog", debugLog)]

def name : Property → String
  | engine => "Engine"
  | tablePrefix => "Prefix"
  | error => "Error"
  | errorInfo => "ErrorInfo"
  | queryString => "QueryString"
  | logging => "Logging"
  | dryRun => "DryRun"
  | debugLog => "DebugLog"

def toDatum (p : Property) : Datum := .string p.name

def ofDatum? (src : Source) (d : Datum) : Option Property := Datum.choice? src table d

end Property

namespace Command

/-! ## Writing -/

/-- A case with a record of its parts. -/
def parts (case : String) (fields : List (String × Datum)) : Datum :=
  .tagged case (.record fields)

def textPart (name s : String) : List (String × Datum) := [(name, .string s)]

def valuePart? (name : String) (v : Option Value) : List (String × Datum) :=
  Datum.field? name (v.map Value.toDatum)

def toDatum : Command → Datum
  | select q => parts "Select" [("query", q.toDatum)]
  | get q => parts "Get" [("query", q.toDatum)]
  | rand q => parts "Rand" [("query", q.toDatum)]
  | has q => parts "Has" [("query", q.toDatum)]
  | aggregate f q => parts "Aggregate" [("function", f.toDatum), ("query", q.toDatum)]
  | insert t rows => parts "Insert" [("table", .string t), ("rows", rows.toDatum)]
  | update t data conditions =>
    parts "Update" ([("table", .string t), ("data", Fields.toDatum data)]
      ++ valuePart? "conditions" conditions)
  | delete t conditions =>
    parts "Delete" (textPart "table" t ++ valuePart? "conditions" conditions)
  | replace t columns conditions =>
    parts "Replace" ([("table", .string t), ("columns", Fields.toDatum columns)]
      ++ valuePart? "conditions" conditions)
  | create t columns options =>
    parts "Create" ([("table", .string t), ("columns", columns.toDatum)]
      ++ valuePart? "options" options)
  | drop t => parts "Drop" (textPart "table" t)
  | query raw => parts "Query" [("raw", Raw.toDatum raw)]
  | exec sql params => parts "Exec" [("sql", .string sql), ("params", Params.toDatum params)]
  | importFile path => parts "Import" (textPart "path" path)
  | begin => .string "Begin"
  | commit => .string "Commit"
  | rollback => .string "Rollback"
  | id sequence => parts "Id" (Datum.field? "name" (sequence.map .string))
  | info => .string "Info"
  | last => .string "Last"
  | log => .string "Log"
  | debugLog => .string "DebugLog"
  | property p => parts "Property" [("name", p.toDatum)]
  | ping => .string "Ping"

/-! ## Reading -/

def caseNames : List String :=
  ["Select", "Get", "Rand", "Has", "Aggregate", "Insert", "Update", "Delete", "Replace",
    "Create", "Drop", "Query", "Exec", "Import", "Begin", "Commit", "Rollback", "Id", "Info",
    "Last", "Log", "DebugLog", "Property", "Ping"]

/-- The parts of a case, with the room inside. -/
def parts? (src : Source) (names : List String) (room : Nat) (d : Datum) :
    Option (Nat × List (Option Datum)) :=
  Datum.record? src names true room d

/-- The query that is a command's only part. -/
def queryPart? (src : Source) (room : Nat) (d : Datum) : Option Query := do
  let (room, slots) ← parts? src ["query"] room d
  match slots with
  | [some q] => Query.ofDatum? src room q
  | _ => none

/-- The text that is a command's only part. -/
def textPart? (src : Source) (name : String) (room : Nat) (d : Datum) : Option String := do
  let (_, slots) ← parts? src [name] room d
  match slots with
  | [some s] => s.text?
  | _ => none

/-- A table, something about it, and perhaps a value. -/
def tablePart? {α : Type} (src : Source) (names : List String) (read : Nat → Datum → Option α)
    (room : Nat) (d : Datum) : Option (String × α × Option Value) := do
  let (room, slots) ← parts? src names room d
  match slots with
  | [some t, some a, v] =>
    return (← t.text?, ← read room a, ← Datum.optional? (Value.ofDatum? src room) v)
  | _ => none

def aggregatePart? (src : Source) (room : Nat) (d : Datum) : Option Command := do
  let (room, slots) ← parts? src ["function", "query"] room d
  match slots with
  | [some f, some q] =>
    return aggregate (← Aggregate.ofDatum? src f) (← Query.ofDatum? src room q)
  | _ => none

def insertPart? (src : Source) (room : Nat) (d : Datum) : Option Command := do
  let (room, slots) ← parts? src ["table", "rows"] room d
  match slots with
  | [some t, some rows] => return insert (← t.text?) (← Value.ofDatum? src room rows)
  | _ => none

def deletePart? (src : Source) (room : Nat) (d : Datum) : Option Command := do
  let (room, slots) ← parts? src ["table", "conditions"] room d
  match slots with
  | [some t, v] => return delete (← t.text?) (← Datum.optional? (Value.ofDatum? src room) v)
  | _ => none

def queryRawPart? (src : Source) (room : Nat) (d : Datum) : Option Command := do
  let (room, slots) ← parts? src ["raw"] room d
  match slots with
  | [some raw] => return query (← Raw.ofDatum? src room raw)
  | _ => none

def execPart? (src : Source) (room : Nat) (d : Datum) : Option Command := do
  let (room, slots) ← parts? src ["sql", "params"] room d
  match slots with
  | [some sql, params] =>
    return exec (← sql.text?) (← Datum.default? [] (Params.ofDatum? src room) params)
  | _ => none

def idPart? (src : Source) (room : Nat) (d : Datum) : Option Command := do
  let (_, slots) ← parts? src ["name"] room d
  match slots with
  | [s] => return id (← Datum.optional? Datum.text? s)
  | _ => none

def propertyPart? (src : Source) (room : Nat) (d : Datum) : Option Command := do
  let (_, slots) ← parts? src ["name"] room d
  match slots with
  | [some p] => return property (← Property.ofDatum? src p)
  | _ => none

/-- The command of a case that carries nothing. -/
def plain? : String → Option Command
  | "Begin" => some begin
  | "Commit" => some commit
  | "Rollback" => some rollback
  | "Info" => some info
  | "Last" => some last
  | "Log" => some log
  | "DebugLog" => some debugLog
  | "Ping" => some ping
  | _ => none

/-- The command of a case that carries parts. -/
def ofParts? (src : Source) (room : Nat) (case : String) (d : Datum) : Option Command :=
  match case with
  | "Select" => (queryPart? src room d).map select
  | "Get" => (queryPart? src room d).map get
  | "Rand" => (queryPart? src room d).map rand
  | "Has" => (queryPart? src room d).map has
  | "Aggregate" => aggregatePart? src room d
  | "Insert" => insertPart? src room d
  | "Update" =>
    (tablePart? src ["table", "data", "conditions"] (Fields.ofDatum? src) room d).map
      fun (t, data, v) => update t data v
  | "Delete" => deletePart? src room d
  | "Replace" =>
    (tablePart? src ["table", "columns", "conditions"] (Fields.ofDatum? src) room d).map
      fun (t, columns, v) => replace t columns v
  | "Create" =>
    (tablePart? src ["table", "columns", "options"] (Value.ofDatum? src) room d).map
      fun (t, columns, v) => create t columns v
  | "Drop" => (textPart? src "table" room d).map drop
  | "Query" => queryRawPart? src room d
  | "Exec" => execPart? src room d
  | "Import" => (textPart? src "path" room d).map importFile
  | "Id" => idPart? src room d
  | "Property" => propertyPart? src room d
  | _ => none

def ofDatum? (src : Source) (room : Nat) (d : Datum) : Option Command :=
  match Datum.case? src caseNames d with
  | none => none
  | some (case, content) =>
    match plain? case with
    | some cmd => if Datum.isUnit src content then some cmd else none
    | none => content.bind (ofParts? src room case)

end Command
end StructuredSql
