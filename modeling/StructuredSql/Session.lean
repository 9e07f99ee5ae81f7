-- A session: a database whose transactions are begun and ended in turn. What
-- does not fit is refused before the engine hears of it.
import StructuredSql.Database.Commands

namespace StructuredSql

structure Session (σ : Type) where
  database : Database σ
  /-- A transaction was begun and not ended. -/
  inTransaction : Bool

namespace Session

variable {σ : Type}

def ofDatabase (db : Database σ) : Session σ := ⟨db, false⟩

/-- A command handed on to the database. -/
def pass (E : Engine σ) (files : FileTree) (cmd : Command) (s : Session σ) :
    Except CallError Output × Session σ :=
  let (r, db) := s.database.execute E files cmd
  (r, { s with database := db })

/-- One command. A transaction counts as ended even when the engine fails to end
it. -/
def execute (E : Engine σ) (files : FileTree) (cmd : Command) (s : Session σ) :
    Except CallError Output × Session σ :=
  match cmd with
  | .begin =>
    if s.inTransaction then (.error .transactionOpen, s)
    else match s.pass E files .begin with
      | (.ok output, s) => (.ok output, { s with inTransaction := true })
      | (.error e, s) => (.error e, s)
  | .commit =>
    if s.inTransaction then { s with inTransaction := false }.pass E files .commit
    else (.error .noTransaction, s)
  | .rollback =>
    if s.inTransaction then { s with inTransaction := false }.pass E files .rollback
    else (.error .noTransaction, s)
  | cmd => s.pass E files cmd

/-- Commands one after the other. -/
def run (E : Engine σ) (files : FileTree) :
    List Command → Session σ → List (Except CallError Output) × Session σ
  | [], s => ([], s)
  | cmd :: rest, s =>
    let (r, s) := s.execute E files cmd
    let (rs, s) := run E files rest s
    (r :: rs, s)

/-- Commands that pass by the session, whatever its transaction. -/
def passAll (E : Engine σ) (files : FileTree) (cmds : List Command) (s : Session σ) :
    List (Except CallError Output) × Session σ :=
  let (rs, db) := s.database.executeAll E files cmds
  (rs, { s with database := db })

/-- The database that is left when the session goes away: an open transaction is
rolled back, with or without success. -/
def close (E : Engine σ) (s : Session σ) : Database σ :=
  if s.inTransaction then (s.database.rollback E).2 else s.database

end Session
end StructuredSql
