-- Options as data: a record of the fields that are set. Unknown fields are
-- refused, and fields with a value of their own may be left out.
import StructuredSql.Options.Basic
import StructuredSql.Datum.Reading

namespace StructuredSql

/-! ## The engine's name -/

namespace Dialect

def names : List String := ["mysql", "pgsql", "sqlite", "mssql", "oracle", "sybase"]

/-- Other names under which an engine is read. -/
def aliases : List String := ["mariadb", "postgres", "postgresql", "sqlsrv"]

/-- The engine of a name, which may be an alias but has no other case. -/
def ofDatum? (src : Source) (d : Datum) : Option Dialect :=
  match (Datum.case? src names d).or (Datum.case? .json aliases d) with
  | some (n, content) => if Datum.isUnit src content then ofAlias? n else none
  | none => none

end Dialect

/-! ## Where the host runs -/

namespace Isolation

def toDatum : Isolation → Datum
  | thread => .record [("mode", .string "thread")]
  | process worker =>
    .record ([("mode", .string "process")] ++ Datum.field? "worker" (worker.map .string))

/-- The key that says which mode the other entries belong to. -/
def isMode (key : Datum) : Bool := key.text? == some "mode"

/-- The other entries of a mode, which were held back until the mode was known. A
thread has none, and ignores what is there. -/
def ofMode? (room : Nat) (mode : String) (rest : Datum) : Option Isolation :=
  match mode with
  | "thread" =>
    match rest with
    | .list (_ :: _) => none
    | _ => some thread
  | "process" =>
    match Datum.record? .held ["worker"] false room rest with
    | some (_, [worker]) => (Datum.optional? Datum.text? worker).map process
    | _ => none
  | _ => none

/-- A map with exactly one entry for the mode, or a list that begins with it. -/
def ofDatum? (src : Source) (room : Nat) (d : Datum) : Option Isolation :=
  if room < d.depth then none
  else match d with
    | .map entries =>
      match entries.filter (fun e => isMode e.1) with
      | [(_, mode)] =>
        (Datum.name? src ["thread", "process"] mode).bind fun m =>
          ofMode? room m (.map (entries.filter fun e => !isMode e.1))
      | _ => none
    | .list (mode :: rest) =>
      (Datum.name? src ["thread", "process"] mode).bind fun m =>
        ofMode? room m (.list rest)
    | _ => none

end Isolation

/-! ## Options -/

namespace Options

def toDatum (o : Options) : Datum :=
  .record ([("engine", .string o.engine.name), ("database", .string o.database)]
    ++ Datum.field? "host" (o.host.map .string)
    ++ Datum.field? "port" (o.port.map fun p => .int p)
    ++ Datum.field? "username" (o.username.map .string)
    ++ Datum.field? "password" (o.password.map .string)
    ++ Datum.field? "charset" (o.charset.map .string)
    ++ Datum.field? "collation" (o.collation.map .string)
    ++ [("prefix", .string o.tablePrefix), ("logging", .bool o.logging),
      ("dry_run", .bool o.dryRun), ("debug_log", .bool o.debugLog),
      ("commands", .list (o.commands.map .string)),
      ("close_timeout_ms", .int o.closeTimeout), ("isolation", o.isolation.toDatum)])

def fieldNames : List String :=
  ["engine", "database", "host", "port", "username", "password", "charset", "collation",
    "prefix", "logging", "dry_run", "debug_log", "commands", "close_timeout_ms", "isolation"]

def ofDatum? (src : Source) (room : Nat) (d : Datum) : Option Options := do
  let (room, slots) ← Datum.record? src fieldNames true room d
  match slots with
  | [engine, database, host, port, username, password, charset, collation, tablePrefix,
      logging, dryRun, debugLog, commands, closeTimeout, isolation] =>
    return {
      engine := ← Datum.default? default.engine (Dialect.ofDatum? src) engine
      database := ← Datum.default? default.database Datum.text? database
      host := ← Datum.optional? Datum.text? host
      port := ← Datum.optional? (Datum.natBelow? (Nat.pow 2 16)) port
      username := ← Datum.optional? Datum.text? username
      password := ← Datum.optional? Datum.text? password
      charset := ← Datum.optional? Datum.text? charset
      collation := ← Datum.optional? Datum.text? collation
      tablePrefix := ← Datum.default? default.tablePrefix Datum.text? tablePrefix
      logging := ← Datum.default? default.logging Datum.bool? logging
      dryRun := ← Datum.default? default.dryRun Datum.bool? dryRun
      debugLog := ← Datum.default? default.debugLog Datum.bool? debugLog
      commands := ← Datum.default? default.commands (Datum.texts? room) commands
      closeTimeout :=
        ← Datum.default? default.closeTimeout (Datum.natBelow? (Nat.pow 2 64)) closeTimeout
      isolation := ← Datum.default? default.isolation (Isolation.ofDatum? src room) isolation }
  | _ => none

end Options
end StructuredSql
