-- Transactions of a database. A transaction no longer counts as open once the
-- engine is asked to end it, whether or not the engine does.
import StructuredSql.Database.Basic

namespace StructuredSql.Database

variable {σ : Type}

/-- A transaction begins. Without an engine nothing does. -/
def begin (E : Engine σ) : Op σ (Except Error Unit) := fun db =>
  match db.engine with
  | none => (.ok (), db)
  | some s =>
    match E.begin s with
    | (.ok (), s) => (.ok (), { db with engine := some s, inTransaction := true })
    | (.error e, s) => (.error e, { db with engine := some s })

/-- The transaction ends by a call on the engine, if there is one. -/
def finish (call : EngineCall σ Unit) : Op σ (Except Error Unit) := fun db =>
  match db.engine with
  | none => (.ok (), { db with inTransaction := false })
  | some s =>
    let (answer, next) := call s
    (answer, { db with engine := some next, inTransaction := false })

def commit (E : Engine σ) : Op σ (Except Error Unit) := finish E.commit

def rollback (E : Engine σ) : Op σ (Except Error Unit) := finish E.rollback

/-- Anything inside a transaction. The value false rolls back, any other commits;
an error rolls back and is given on. -/
def action (E : Engine σ) (f : Op σ (Except Error Value)) : Op σ (Except Error Unit) := fun db =>
  match begin E db with
  | (.error e, db) => (.error e, db)
  | (.ok (), db) =>
    match f db with
    | (.ok (.bool false), db) => rollback E db
    | (.ok _, db) => commit E db
    | (.error e, db) => (.error e, (rollback E db).2)

/-! ## Text with bindings -/

/-- A statement given as text. -/
def exec (E : Engine σ) (sql : String) (params : Params) : Op σ (Option Executed) :=
  runExecuted E ⟨sql, params⟩

/-- A statement whose bindings a hook may amend. Both share a transaction of
their own, which is rolled back when the statement fails; inside an open one, or
without an engine, they begin none. -/
def execWith (E : Engine σ) (sql : String) (params : Params) (hook : Params → Params) :
    Op σ (Except Error (Option Executed)) := fun db =>
  if db.engine.isNone || db.inTransaction then always (exec E sql (hook params)) db
  else match begin E db with
    | (.error e, db) => (.error e, db)
    | (.ok (), db) =>
      let (executed, db) := exec E sql (hook params) db
      let (ended, db) := if db.softError.isSome then rollback E db else commit E db
      (ended.map fun _ => executed, db)

end StructuredSql.Database
