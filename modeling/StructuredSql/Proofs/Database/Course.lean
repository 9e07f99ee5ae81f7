-- A course of a database: one thing done after the other, each chosen by what the ones before
-- gave. What a caller does inside of a transaction is a course too, and with the transaction
-- around it it still is one. Watching the engine changes no answer of a course.
import StructuredSql.Proofs.Database.Reachable

namespace StructuredSql

variable {σ α β γ : Type}

/-! ## Deeds -/

/-- The database without the state of its engine. -/
def Database.hidden (db : Database σ) : Database Unit :=
  ⟨db.options, db.engine.map fun _ => (), db.statements, db.queryString, db.collected,
    db.softError, db.inTransaction⟩

/-- One thing that is done with a database, by what it gives. -/
inductive Deed : Type → Type 1
  | operation {α : Type} (op : Operation α) : Deed (Except Error α)
  | run (c : Compiled) : Deed (Option RowSet)
  | exec (sql : String) (params : Params) : Deed (Option Executed)
  | execWith (sql : String) (params : Params) (hook : Params → Params) :
      Deed (Except Error (Option Executed))
  | begin : Deed (Except Error Unit)
  | commit : Deed (Except Error Unit)
  | rollback : Deed (Except Error Unit)
  | id (sequence : Option String) : Deed (Except Error (Option Value))
  | takeCollected : Deed (List String)
  | info : Deed EngineInfo
  /-- Anything that is read off the database. -/
  | look {α : Type} (f : Database Unit → α) : Deed α

def Deed.perform (E : Engine σ) (files : FileTree) : Deed α → Database.Op σ α
  | operation op => op.perform E files
  | run c => Database.run E c
  | exec sql params => Database.exec E sql params
  | execWith sql params hook => Database.execWith E sql params hook
  | begin => Database.begin E
  | commit => Database.commit E
  | rollback => Database.rollback E
  | id sequence => Database.id E sequence
  | takeCollected => Database.takeCollected
  | info => fun db => (db.info E, db)
  | look f => fun db => (f db.hidden, db)

/-! ## Courses -/

/-- Deeds one after the other, and what is given in the end. -/
inductive Course (β : Type) : Type 1
  | done (b : β)
  | deed {α : Type} (d : Deed α) (next : α → Course β)

namespace Course

def run (E : Engine σ) (files : FileTree) : Course β → Database.Op σ β
  | done b => fun db => (b, db)
  | deed d next => fun db =>
    (next (d.perform E files db).1).run E files (d.perform E files db).2

/-- One course after the other. -/
def bind (next : α → Course β) : Course α → Course β
  | done a => next a
  | deed d inner => deed d fun x => (inner x).bind next

/-- How a transaction ends around what was done inside. -/
def ending : Except Error Value → Course (Except Error Unit)
  | .ok (.bool false) => deed .rollback done
  | .ok _ => deed .commit done
  | .error e => deed .rollback fun _ => done (.error e)

/-- What follows when a transaction was to begin. -/
def begun (inner : Course (Except Error Value)) : Except Error Unit → Course (Except Error Unit)
  | .error e => done (.error e)
  | .ok () => inner.bind ending

/-- A course inside of a transaction. -/
def action (inner : Course (Except Error Value)) : Course (Except Error Unit) :=
  deed .begin (begun inner)

variable {E : Engine σ} {files : FileTree}

theorem run_bind (course : Course α) (next : α → Course β) (db : Database σ) :
    (course.bind next).run E files db =
      (next (course.run E files db).1).run E files (course.run E files db).2 := by
  induction course generalizing db with
  | done a => rfl
  | deed d inner ih => exact ih _ _

theorem run_action (inner : Course (Except Error Value)) (db : Database σ) :
    (action inner).run E files db = Database.action E (inner.run E files) db := by
  show (begun inner (Database.begin E db).1).run E files (Database.begin E db).2 = _
  unfold Database.action
  rcases Database.begin E db with ⟨e | _, began⟩
  · rfl
  · dsimp only [begun]
    rw [run_bind]
    rcases inner.run E files began with ⟨e | v, after⟩
    · rfl
    · cases v with
      | bool b => cases b <;> rfl
      | _ => rfl

end Course

/-! ## What was done -/

/-- A deed, and the database that it was done with. -/
structure Done (σ : Type) : Type 1 where
  {α : Type}
  deed : Deed α
  before : Database σ

namespace Done

def after (E : Engine σ) (files : FileTree) (d : Done σ) : Database σ :=
  (d.deed.perform E files d.before).2

end Done

/-- The deeds of a course, in order. -/
def Course.trail (E : Engine σ) (files : FileTree) : Course β → Database σ → List (Done σ)
  | done _, _ => []
  | deed d next, db =>
    ⟨d, db⟩ :: (next (d.perform E files db).1).trail E files (d.perform E files db).2

/-! ## Watching -/

namespace Database

theorem mirrors_execWith (E : Engine σ) (sql : String) (params : Params)
    (hook : Params → Params) :
    Mirrors (execWith E.watched sql params hook) (execWith E sql params hook) := by
  intro db
  have hnone : db.unwatched.engine.isNone = db.engine.isNone := by
    simp [unwatched]
  unfold execWith
  rw [hnone]
  show (if (db.engine.isNone || db.inTransaction) = true then _ else _) = _
  split
  · exact (mirrors_runExecuted E ⟨sql, hook params⟩).always db
  · rw [mirrors_begin E db]
    rcases begin E.watched db with ⟨e | _, began⟩
    · rfl
    · have hexec : Mirrors (exec E.watched sql (hook params)) (exec E sql (hook params)) :=
        mirrors_runExecuted E ⟨sql, hook params⟩
      have hrollback : Mirrors (rollback E.watched) (rollback E) :=
        mirrors_finish .rollback E.rollback
      have hcommit : Mirrors (commit E.watched) (commit E) := mirrors_finish .commit E.commit
      dsimp only
      rw [hexec began]
      rcases exec E.watched sql (hook params) began with ⟨executed, after⟩
      dsimp only
      rw [hrollback after, hcommit after]
      have hsoft : after.unwatched.softError = after.softError := rfl
      rw [hsoft]
      cases after.softError with
      | none => rfl
      | some e => rfl

end Database

theorem Deed.mirrors_perform (E : Engine σ) (files : FileTree) (d : Deed α) :
    Database.Mirrors (d.perform E.watched files) (d.perform E files) := by
  cases d with
  | operation op => exact Database.mirrors_perform E files op
  | run c => exact Database.mirrors_run E c
  | exec sql params => exact Database.mirrors_runExecuted E ⟨sql, params⟩
  | execWith sql params hook => exact Database.mirrors_execWith E sql params hook
  | begin => exact Database.mirrors_begin E
  | commit => exact Database.mirrors_finish .commit E.commit
  | rollback => exact Database.mirrors_finish .rollback E.rollback
  | id sequence => exact Database.mirrors_id E sequence
  | takeCollected => exact Database.mirrors_takeCollected
  | info =>
    intro db
    show (db.unwatched.info E, db.unwatched) = _
    rw [← Database.info_watched]
    rfl
  | look f =>
    intro db
    have hhidden : db.unwatched.hidden = db.hidden := by
      simp [Database.unwatched, Database.hidden, Function.comp_def]
    show (f db.unwatched.hidden, db.unwatched) = _
    rw [hhidden]
    rfl

theorem Course.mirrors_run (E : Engine σ) (files : FileTree) (course : Course β) :
    Database.Mirrors (course.run E.watched files) (course.run E files) := by
  induction course with
  | done b => exact fun _ => rfl
  | deed d next ih =>
    intro db
    show (next (d.perform E files db.unwatched).1).run E files
      (d.perform E files db.unwatched).2 = _
    rw [d.mirrors_perform E files db]
    exact ih _ _

end StructuredSql
