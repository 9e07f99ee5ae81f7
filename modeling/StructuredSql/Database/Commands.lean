-- Commands carried out on a database. Where a command runs a statement, a
-- failure that the engine left behind becomes the error of the command.
import StructuredSql.Database.Statements
import StructuredSql.Database.Transaction
import StructuredSql.Command.Basic
import StructuredSql.CallError
import StructuredSql.Output

namespace StructuredSql

/-- Code and message as an object. -/
def SoftError.value (e : SoftError) : Value :=
  .object [("code", (e.code.map Value.string).getD .null), ("message", .string e.message)]

namespace Database

variable {σ α : Type}

/-- The version that a database reports as its host's. -/
def hostVersion : String := "0.1.0"

/-! ## Properties -/

def property (db : Database σ) : Property → Option Value
  | .engine => some (.string db.options.engine.name)
  | .tablePrefix => some (.string db.options.tablePrefix)
  | .error => db.error?.map .string
  | .errorInfo => db.softError.map SoftError.value
  | .queryString => db.queryString.map .string
  | .logging => some (.bool db.options.logging)
  | .dryRun => some (.bool db.options.dryRun)
  | .debugLog => some (.bool db.options.debugLog)

/-! ## One command -/

/-- An operation whose result is put into an answer. -/
def answering (wrap : α → Output) (op : Op σ (Except Error α)) :
    Op σ (Except CallError Output) :=
  fun db =>
    let (r, db) := op db
    (match r with
      | .ok a => .ok (wrap a)
      | .error e => .error (.ofError e), db)

/-- An answer that leaves the database alone. -/
def telling (o : Output) : Op σ (Except CallError Output) := fun db => (.ok o, db)

/-- The operation that a command names. -/
def answer (E : Engine σ) (files : FileTree) (cmd : Command) : Op σ (Except CallError Output) :=
  fun db =>
    match cmd with
    | .select q => answering .value (select E q) db
    | .get q => answering .value (get E q) db
    | .rand q => answering .value (rand E q) db
    | .has q => answering .bool (has E q) db
    | .aggregate f q => answering .maybe (aggregate E f q) db
    | .insert table rows => answering .statement (insert E table rows) db
    | .update table data conditions => answering .statement (update E table data conditions) db
    | .delete table conditions => answering .statement (delete E table conditions) db
    | .replace table columns conditions =>
      answering .statement (replace E table columns conditions) db
    | .create table columns options => answering .statement (create E table columns options) db
    | .drop table => answering .statement (drop E table) db
    | .query raw => answering .statement (query E raw) db
    | .exec sql params => answering .statement (always (exec E sql params)) db
    | .importFile path => answering .bool (importFile E files path) db
    | .begin => answering (fun _ => .unit) (begin E) db
    | .commit => answering (fun _ => .unit) (commit E) db
    | .rollback => answering (fun _ => .unit) (rollback E) db
    | .id sequence => answering .maybe (id E sequence) db
    | .info => telling (.info (db.info E)) db
    | .last => telling (.text db.last) db
    | .log => telling (.texts db.log) db
    | .debugLog => answering .texts (always takeCollected) db
    | .property p => telling (.maybe (db.property p)) db
    | .ping => telling (.pong hostVersion) db

/-- The command that failed, and the statement that it ran. -/
def trace (db : Database σ) (name : String) : String :=
  match db.last with
  | some sql => name ++ ": " ++ sql
  | none => name

/-- The failure that the engine left behind a command. -/
def leftBehind (db : Database σ) (cmd : Command) : Option CallError :=
  if cmd.executesStatement then
    db.softError.map fun e => .engine e.message e.code (some (db.trace cmd.name))
  else none

/-- One command. -/
def execute (E : Engine σ) (files : FileTree) (cmd : Command) :
    Op σ (Except CallError Output) := fun db =>
  match answer E files cmd db with
  | (.error e, db) => (.error e, db)
  | (.ok output, db) =>
    match db.leftBehind cmd with
    | some e => (.error e, db)
    | none => (.ok output, db)

/-- One command after the other, whatever they answer. -/
def executeAll (E : Engine σ) (files : FileTree) :
    List Command → Op σ (List (Except CallError Output))
  | [], db => ([], db)
  | cmd :: rest, db =>
    let (r, db) := execute E files cmd db
    let (rs, db) := executeAll E files rest db
    (r :: rs, db)

end Database
end StructuredSql
