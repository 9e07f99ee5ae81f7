-- The bundled engine as far as a database uses it that only records statements:
-- a private SQLite database in which nothing was ever stored.
import StructuredSql.Engine.Basic

namespace StructuredSql

structure Memory where
  /-- The name under which it was opened. -/
  path : String
  /-- A transaction is open in it. -/
  inTransaction : Bool
deriving DecidableEq, Repr

namespace Memory

/-- The version of the bundled library. -/
def version : String := "3.46.0"

def ofPath (path : String) : Memory := ⟨path, false⟩

/-- A statement that the engine refuses in general terms. -/
def refusal (message : String) : Error := .engine message (some "1")

def begin (m : Memory) : Except Error Unit × Memory :=
  if m.inTransaction then
    (.error (refusal "cannot start a transaction within a transaction"), m)
  else (.ok (), { m with inTransaction := true })

def commit (m : Memory) : Except Error Unit × Memory :=
  if m.inTransaction then (.ok (), { m with inTransaction := false })
  else (.error (refusal "cannot commit - no transaction is active"), m)

def rollback (m : Memory) : Except Error Unit × Memory :=
  if m.inTransaction then (.ok (), { m with inTransaction := false })
  else (.error (refusal "cannot rollback - no transaction is active"), m)

def info (m : Memory) : EngineInfo where
  server := ""
  driver := "sqlite"
  client := version
  version := version
  connection := ""
  dsn := "sqlite:" ++ m.path

end Memory

def Engine.memory : Engine Memory where
  execute _ _ m := (.ok .empty, m)
  batch _ m := (.ok (), m)
  begin := Memory.begin
  commit := Memory.commit
  rollback := Memory.rollback
  lastId _ m := (.ok (.int 0), m)
  info := Memory.info

end StructuredSql
