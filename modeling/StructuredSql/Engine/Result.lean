-- What an engine gives back: the rows of a statement, and what it says about
-- itself.
import StructuredSql.Value.Datum

namespace StructuredSql

/-- The outcome of one statement. -/
structure RowSet where
  columns : List String
  rows : List Fields
  affected : Nat

namespace RowSet

def empty : RowSet := ⟨[], [], 0⟩

/-- The first column of the first row. -/
def first? (r : RowSet) : Option Value :=
  match r.rows with
  | ((_, v) :: _) :: _ => some v
  | _ => none

end RowSet

/-- A statement that was run, with its outcome. -/
structure Executed where
  /-- The text with its placeholders. -/
  sql : String
  columns : List String
  rows : List Fields
  affected : Nat

namespace Executed

def ofRowSet (sql : String) (r : RowSet) : Executed := ⟨sql, r.columns, r.rows, r.affected⟩

def toDatum (e : Executed) : Datum :=
  .record [("query_string", .string e.sql), ("columns", .list (e.columns.map .string)),
    ("rows", .list (e.rows.map Fields.toDatum)), ("affected_rows", .int e.affected)]

def rows? (src : Source) (room : Nat) (d : Datum) : Option (List Fields) :=
  (d.list? room).bind fun (room, items) => items.mapM (Fields.ofDatum? src room)

def ofDatum? (src : Source) (room : Nat) (d : Datum) : Option Executed := do
  let (room, slots) ←
    Datum.record? src ["query_string", "columns", "rows", "affected_rows"] false room d
  match slots with
  | [some sql, some columns, some rows, some affected] =>
    return ⟨← sql.text?, ← columns.texts? room, ← rows? src room rows,
      ← affected.natBelow? (Nat.pow 2 64)⟩
  | _ => none

end Executed

/-- What an engine says about itself. -/
structure EngineInfo where
  server : String
  driver : String
  client : String
  version : String
  connection : String
  dsn : String
deriving DecidableEq, Repr

namespace EngineInfo

def toDatum (i : EngineInfo) : Datum :=
  .record [("server", .string i.server), ("driver", .string i.driver),
    ("client", .string i.client), ("version", .string i.version),
    ("connection", .string i.connection), ("dsn", .string i.dsn)]

def ofDatum? (src : Source) (room : Nat) (d : Datum) : Option EngineInfo := do
  let (_, slots) ← Datum.record? src
    ["server", "driver", "client", "version", "connection", "dsn"] false room d
  match slots with
  | [some server, some driver, some client, some version, some connection, some dsn] =>
    return ⟨← server.text?, ← driver.text?, ← client.text?, ← version.text?,
      ← connection.text?, ← dsn.text?⟩
  | _ => none

end EngineInfo
end StructuredSql
