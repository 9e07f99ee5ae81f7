-- A database: options, perhaps an engine, and what its statements left behind.
-- A failure of the engine is no failure of the operation: it is kept beside the
-- log, and the operation gives nothing.
import StructuredSql.Engine.Memory
import StructuredSql.Options.Basic
import StructuredSql.Readable

namespace StructuredSql

/-- The failure that the last statement left behind. -/
structure SoftError where
  code : Option String
  message : String
deriving DecidableEq, Repr

namespace SoftError

/-- Only an engine gives codes. -/
def ofError (e : Error) : SoftError := ⟨e.code?, e.message⟩

def toError (e : SoftError) : Error := .engine e.message e.code

end SoftError

structure Database (σ : Type) where
  options : Options
  /-- The engine's state. A dry run has no engine. -/
  engine : Option σ
  /-- The statements that were handed to the engine, or only the last of them. -/
  statements : List Compiled
  /-- The last statement of a dry run. -/
  queryString : Option String
  /-- Statements collected instead of run. -/
  collected : List String
  softError : Option SoftError
  /-- A transaction was begun and not ended. -/
  inTransaction : Bool

namespace Database

variable {σ α β : Type}

/-- An operation answers and changes the database. -/
abbrev Op (σ α : Type) := Database σ → α × Database σ

/-! ## Opening -/

/-- A database in which nothing has happened. -/
def ofOptions (o : Options) (engine : Option σ) : Database σ :=
  ⟨o, engine, [], none, [], none, false⟩

/-- The statements that are run first, up to the first that fails. -/
def runInit (E : Engine σ) : List String → EngineCall σ Unit
  | [], s => (.ok (), s)
  | sql :: rest, s =>
    match E.batch sql s with
    | (.ok (), s) => runInit E rest s
    | (.error e, s) => (.error e, s)

/-- A database over an engine, once the first statements have been run. -/
def withEngine (E : Engine σ) (o : Options) : EngineCall σ (Database σ) := fun s =>
  match runInit E o.initCommands s with
  | (.ok (), s) => (.ok (ofOptions o (some s)), s)
  | (.error e, s) => (.error e, s)

/-- The engine has no session in this library. -/
def notBundled (d : Dialect) : Error :=
  .validation
    s!"no bundled engine session for {d.name}; open it with Database::with_session"

/-- A database over the bundled engine, or over none for a dry run. -/
def openBundled (o : Options) : Except Error (Database Memory) :=
  if o.dryRun then .ok (ofOptions o none)
  else match o.engine with
    | .sqlite => (withEngine Engine.memory o (Memory.ofPath o.database)).1
    | d => .error (notBundled d)

/-! ## Statements -/

/-- The compiler of the database's dialect and prefix. -/
def compiler (db : Database σ) : Compiler := ⟨db.options.engine, db.options.tablePrefix⟩

/-- A call on the engine, if there is one. -/
def ask (call : EngineCall σ α) : Op σ (Except Error α) := fun db =>
  match db.engine with
  | none => (.error (.engine "no engine session" none), db)
  | some s =>
    let (answer, next) := call s
    (answer, { db with engine := some next })

/-- The statement enters the log. Without `logging` only the last one is kept. -/
def keep (c : Compiled) (db : Database σ) : Database σ :=
  { db with statements := (if db.options.logging then db.statements else []) ++ [c] }

/-- A statement with its readable text: recorded under a dry run, collected under
the debug log, and else handed to the engine and kept in the log. -/
def attempt (text : String) (c : Compiled) (call : EngineCall σ α) : Op σ (Option α) :=
  fun db =>
    let db := { db with softError := none }
    if db.options.dryRun then (none, { db with queryString := some text })
    else if db.options.debugLog then (none, { db with collected := db.collected ++ [text] })
    else
      let (answer, db) := ask call db
      let db := keep c db
      match answer with
      | .ok a => (some a, db)
      | .error e => (none, { db with softError := some (.ofError e) })

/-- One compiled statement. -/
def run (E : Engine σ) (c : Compiled) : Op σ (Option RowSet) := fun db =>
  attempt (db.compiler.readable c) c (E.execute c.sql c.params) db

/-- One compiled statement, answered with its text. -/
def runExecuted (E : Engine σ) (c : Compiled) : Op σ (Option Executed) := fun db =>
  let (r, db) := run E c db
  (r.map (Executed.ofRowSet c.sql), db)

/-- A script. Its text is readable as it is. -/
def runScript (E : Engine σ) (sql : String) : Op σ Bool := fun db =>
  let (r, db) := attempt sql ⟨sql, []⟩ (E.batch sql) db
  (r.isSome, db)

/-- What is done with a good result. A bad one leaves the database alone. -/
def onOk (r : Except Error α) (next : α → Op σ (Except Error β)) : Op σ (Except Error β) :=
  fun db =>
    match r with
    | .ok a => next a db
    | .error e => (.error e, db)

/-- An operation that cannot fail in itself. -/
def always (op : Op σ α) : Op σ (Except Error α) := fun db =>
  let (a, db) := op db
  (.ok a, db)

/-! ## What is remembered -/

/-- The readable text of the last statement. -/
def last (db : Database σ) : Option String := db.statements.getLast?.map db.compiler.readable

/-- The readable texts of the statements in the log. -/
def log (db : Database σ) : List String := db.statements.map db.compiler.readable

/-- The collected statements, which are forgotten by that. -/
def takeCollected : Op σ (List String) := fun db => (db.collected, { db with collected := [] })

/-- The message of the failure that the last statement left behind. -/
def error? (db : Database σ) : Option String := db.softError.map (·.message)

/-- The failure that the last statement left behind, as an error. -/
def engineError? (db : Database σ) : Option Error := db.softError.map SoftError.toError

/-- What the engine says about itself; without one, what the options say. -/
def info (E : Engine σ) (db : Database σ) : EngineInfo :=
  match db.engine with
  | some s =>
    let i := E.info s
    if i.dsn = "" then { i with dsn := db.options.dsn } else i
  | none => ⟨"", db.options.engine.name, "", "", "", db.options.dsn⟩

/-- The identifier that the last insert made. -/
def id (E : Engine σ) (sequence : Option String) : Op σ (Except Error (Option Value)) :=
  fun db =>
    match db.engine with
    | none => (.ok none, db)
    | some s =>
      let (answer, next) := E.lastId sequence s
      (answer.map some, { db with engine := some next })

end Database
end StructuredSql
