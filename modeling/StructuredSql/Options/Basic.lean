-- How a database is to be opened: the engine, where its data is, how statements
-- are treated, and where the host runs.
import StructuredSql.Dialect

namespace StructuredSql

/-- Where the host of a database runs. -/
inductive Isolation
  | thread
  /-- A process of its own, running the worker program at the path if one is
  given. -/
  | process (worker : Option String)
deriving DecidableEq, Repr

structure Options where
  engine : Dialect
  /-- The name of the database, or the path of its file. -/
  database : String
  host : Option String
  port : Option Nat
  username : Option String
  password : Option String
  charset : Option String
  collation : Option String
  /-- Put before every table name. -/
  tablePrefix : String
  /-- Every statement is kept in the log, not only the last. -/
  logging : Bool
  /-- Statements are only compiled. -/
  dryRun : Bool
  /-- Statements are collected instead of run. -/
  debugLog : Bool
  /-- Statements that are run when a session opens. -/
  commands : List String
  /-- How long a host may take to close, in milliseconds. -/
  closeTimeout : Nat
  isolation : Isolation
deriving DecidableEq, Repr

namespace Options

/-- The name of a private database in memory. -/
def memoryDatabase : String := ":memory:"

def defaultCloseTimeout : Nat := 10000

/-- The options of an engine with nothing else said. -/
def ofEngine (engine : Dialect) : Options where
  engine := engine
  database := memoryDatabase
  host := none
  port := none
  username := none
  password := none
  charset := none
  collation := none
  tablePrefix := ""
  logging := false
  dryRun := false
  debugLog := false
  commands := []
  closeTimeout := defaultCloseTimeout
  isolation := .thread

def default : Options := ofEngine .sqlite

/-! ## Changes -/

/-- A host and its port; a port from before is dropped. -/
def withHost (o : Options) (host : String) (port : Option Nat) : Options :=
  { o with host := some host, port := port }

def withCredentials (o : Options) (username password : String) : Options :=
  { o with username := some username, password := some password }

/-- A character set and its collation; a collation from before is dropped. -/
def withCharset (o : Options) (charset : String) (collation : Option String) : Options :=
  { o with charset := some charset, collation := collation }

/-- One more statement to run when a session opens. -/
def addCommand (o : Options) (sql : String) : Options :=
  { o with commands := o.commands ++ [sql] }

/-- A bound on closing, in seconds. Milliseconds stay within 64 bits. -/
def withCloseSeconds (o : Options) (seconds : Nat) : Options :=
  { o with closeTimeout := min (seconds * 1000) (Nat.pow 2 64 - 1) }

/-! ## What follows from them -/

/-- Statements that make the engine take the compiler's quoting. -/
def quotingCommands : Dialect → List String
  | .mysql => ["SET SQL_MODE=ANSI_QUOTES"]
  | .mssql => ["SET QUOTED_IDENTIFIER ON", "SET ANSI_NULLS ON"]
  | _ => []

/-- The engine takes `SET NAMES`. -/
def takesCharset : Dialect → Bool
  | .mysql => true
  | .pgsql => true
  | .sybase => true
  | .mssql => true
  | _ => false

/-- The statement that sets the character set, where there is one. Only MySQL
takes a collation with it. -/
def charsetCommand (o : Options) : List String :=
  match o.charset with
  | none => []
  | some charset =>
    if takesCharset o.engine then
      let collate := match o.engine, o.collation with
        | .mysql, some c => " COLLATE '" ++ c ++ "'"
        | _, _ => ""
      ["SET NAMES '" ++ charset ++ "'" ++ collate]
    else []

/-- What is run when a session opens, in order. -/
def initCommands (o : Options) : List String :=
  quotingCommands o.engine ++ o.charsetCommand ++ o.commands

/-- The driver's name in a data source name. -/
def driver : Dialect → String
  | .mysql => "mysql"
  | .pgsql => "pgsql"
  | .sqlite => "sqlite"
  | .sybase => "dblib"
  | .oracle => "oci"
  | .mssql => "sqlsrv"

/-- The data source name: the driver, and either a path or attributes. -/
def dsn (o : Options) : String :=
  match o.engine with
  | .sqlite => "sqlite:" ++ o.database
  | engine =>
    let host := (o.host.map fun h => "host=" ++ h).toList
    let port := (o.port.map fun p => "port=" ++ toString p).toList
    driver engine ++ ":" ++ ";".intercalate (host ++ port ++ ["dbname=" ++ o.database])

end Options
end StructuredSql
