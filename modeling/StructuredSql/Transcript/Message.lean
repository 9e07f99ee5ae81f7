-- Commands, their answers, and messages in transcripts.
import StructuredSql.Message
import StructuredSql.Datum.Json
import StructuredSql.Transcript.Error

namespace StructuredSql.Transcript

/-! ## Queries -/

def query (q : Query) : Json :=
  .object ([("table", .string q.table)]
    ++ (q.join.map fun m => ("join", fields m)).toList
    ++ (q.columns.map fun v => ("columns", value v)).toList
    ++ (q.conditions.map fun v => ("conditions", value v)).toList
    ++ (q.aggregate.map fun a => ("aggregate", .string a.name)).toList)

def aggregate? (j : Json) : Option Aggregate := j.text?.bind fun s => Aggregate.table.lookup s

def query? (j : Json) : Option Query := do
  let q := Query.ofTable (← j.required? Json.text? "table")
  let part (change : Query → Value → Query) (name : String) (q : Query) : Option Query := do
    match ← memberValue? j name with
    | some v => return change q v
    | none => return q
  let q ← part Query.withJoin "join" q
  let q ← part Query.withColumns "columns" q
  let q ← part Query.filter "conditions" q
  return { q with aggregate := ← j.optional? aggregate? "aggregate" }

/-! ## Commands -/

/-- A value under its name, if there is one. -/
def part (name : String) (v : Option Value) : List (String × Json) :=
  (v.map fun v => (name, value v)).toList

/-- What a command says beside its name. -/
def arguments : Command → List (String × Json)
  | .select q | .get q | .rand q | .has q => [("query", query q)]
  | .aggregate f q => [("function", .string f.name), ("query", query q)]
  | .insert t rows => [("table", .string t), ("rows", value rows)]
  | .update t data v => [("table", .string t), ("data", fields data)] ++ part "conditions" v
  | .delete t v => ("table", .string t) :: part "conditions" v
  | .replace t columns v =>
    [("table", .string t), ("columns", fields columns)] ++ part "conditions" v
  | .create t columns v => [("table", .string t), ("columns", value columns)] ++ part "options" v
  | .drop t => [("table", .string t)]
  | .query r => [("raw", raw r)]
  | .exec sql ps => [("sql", .string sql), ("params", params ps)]
  | .importFile path => [("path", .string path)]
  | .id sequence => [("name", optional .string sequence)]
  | .property p => [("name", .string p.name)]
  | _ => []

def command (c : Command) : Json := .object (("cmd", .string c.name) :: arguments c)

/-- The command of a name, with its arguments in the document. -/
def commandNamed? (name : String) (j : Json) : Option Command := do
  let table := j.required? Json.text? "table"
  let q := j.required? query? "query"
  match name with
  | "select" => return .select (← q)
  | "get" => return .get (← q)
  | "rand" => return .rand (← q)
  | "has" => return .has (← q)
  | "aggregate" => return .aggregate (← j.required? aggregate? "function") (← q)
  | "insert" => return .insert (← table) (← j.required? value? "rows")
  | "update" =>
    return .update (← table) (← j.required? fields? "data") (← memberValue? j "conditions")
  | "delete" => return .delete (← table) (← memberValue? j "conditions")
  | "replace" =>
    let columns ← j.required? fields? "columns"
    return .replace (← table) columns (← memberValue? j "conditions")
  | "create" =>
    return .create (← table) (← j.required? value? "columns") (← memberValue? j "options")
  | "drop" => return .drop (← table)
  | "query" => return .query (← j.required? raw? "raw")
  | "exec" => return .exec (← j.required? Json.text? "sql") (← memberParams? j "params")
  | "import" => return .importFile (← j.required? Json.text? "path")
  | "begin" => return .begin
  | "commit" => return .commit
  | "rollback" => return .rollback
  | "id" => return .id (← text? j "name")
  | "info" => return .info
  | "last" => return .last
  | "log" => return .log
  | "debug_log" => return .debugLog
  | "property" =>
    return .property (← (← j.required? Json.text? "name") |> Property.table.lookup)
  | "ping" => return .ping
  | _ => none

def command? (j : Json) : Option Command := do
  commandNamed? (← j.required? Json.text? "cmd") j

/-! ## Answers -/

def rows (rs : List Fields) : Json := .array (rs.map fields)

def rowSet (r : RowSet) : Json :=
  .object [("columns", texts r.columns), ("rows", rows r.rows), ("affected", .int r.affected)]

def executed (e : Executed) : Json :=
  .object [("query_string", .string e.sql), ("columns", texts e.columns), ("rows", rows e.rows),
    ("affected_rows", .int e.affected)]

def info (i : EngineInfo) : Json := i.toDatum.toJson

def output : Output → Json
  | .unit => .string "Unit"
  | .value v => .object [("Value", value v)]
  | .maybe v => .object [("Maybe", maybe v)]
  | .bool b => .object [("Bool", .bool b)]
  | .statement e => .object [("Statement", optional executed e)]
  | .info i => .object [("Info", info i)]
  | .text s => .object [("Text", optional .string s)]
  | .texts ss => .object [("Texts", texts ss)]
  | .pong version => .object [("Pong", .string version)]

def texts? (j : Json) : Option (List String) := j.list? Json.text?

/-- A result set, of which every part may be absent. -/
def rowSet? (j : Json) : Option RowSet := do
  return ⟨← j.default? texts? "columns" [], ← j.default? (Json.list? fields?) "rows" [],
    ← j.default? Json.nat? "affected" 0⟩

def executed? (j : Json) : Option Executed := do
  return ⟨← textOrEmpty? j "query_string", ← j.required? texts? "columns",
    ← j.required? (Json.list? fields?) "rows", ← j.required? Json.nat? "affected_rows"⟩

/-- What an engine says about itself; what is absent is empty. -/
def info? (j : Json) : Option EngineInfo := do
  return ⟨← textOrEmpty? j "server", ← textOrEmpty? j "driver", ← textOrEmpty? j "client",
    ← textOrEmpty? j "version", ← textOrEmpty? j "connection", ← textOrEmpty? j "dsn"⟩

/-- Null reads as nothing. -/
def nullable? {α : Type} (read : Json → Option α) : Json → Option (Option α)
  | .null => some none
  | j => (read j).map some

def output? : Json → Option Output
  | .string "Unit" => some .unit
  | .object [("Value", j)] => (value? j).map .value
  | .object [("Maybe", j)] => (maybe? j).map .maybe
  | .object [("Bool", j)] => j.bool?.map .bool
  | .object [("Statement", j)] => (nullable? executed? j).map .statement
  | .object [("Info", j)] => (info? j).map .info
  | .object [("Text", j)] => (nullable? Json.text? j).map .text
  | .object [("Texts", j)] => (texts? j).map .texts
  | .object [("Pong", j)] => j.text?.map .pong
  | _ => none

/-! ## Messages -/

/-- Options have one form as documents, in transcripts and elsewhere. -/
def options (o : Options) : Json := o.toDatum.toJson

def options? (j : Json) : Option Options := Options.ofDatum? .json messageRoom j.toDatum

def isolation? (j : Json) : Option Isolation := Isolation.ofDatum? .json messageRoom j.toDatum

def request : Request → Json
  | .configure o => .object [("configure", options o)]
  | .call c => .object [("call", command c)]

def request? : Json → Option Request
  | .object [("configure", j)] => (options? j).map .configure
  | .object [("call", j)] => (command? j).map .call
  | _ => none

def response : Response → Json
  | .ready => .string "ready"
  | .success o => .object [("success", output o)]
  | .failure f => .object [("failure", failure f)]

def response? : Json → Option Response
  | .string "ready" => some .ready
  | .object [("success", j)] => (output? j).map .success
  | .object [("failure", j)] => (failure? j).map .failure
  | _ => none

end StructuredSql.Transcript
