-- An engine that is watched: it answers as it would alone, and beside its state stands
-- every call that it was given, with the error that it gave. Watching changes no answer
-- of a database or of a session. A begin that succeeds opens a transaction, and the next
-- commit or rollback ends it, whether the engine can do that or not. Calls are bracketed
-- when begin comes while no transaction is open, and commit and rollback while one is.
import StructuredSql.Engine.Basic
import StructuredSql.Session
import Mathlib.Data.List.Induction

namespace StructuredSql

/-- A call on an engine, and the error that it gave, if any. -/
structure Heard where
  request : EngineRequest
  error : Option Error

/-- The statement that the engine was given in the call, if it was given one. -/
def Heard.statement? (h : Heard) : Option Compiled :=
  match h.request with
  | .execute sql params => some ⟨sql, params⟩
  | .batch sql => some ⟨sql, []⟩
  | _ => none

/-- The engine was given a statement and failed. -/
def Heard.FailedStatement (h : Heard) (c : Compiled) (e : Error) : Prop :=
  h.statement? = some c ∧ h.error = some e

namespace Engine

variable {σ α : Type}

def error? : Except Error α → Option Error
  | .ok _ => none
  | .error e => some e

/-- A call that is put on record with what it gave. -/
def watch (r : EngineRequest) (call : EngineCall σ α) : EngineCall (σ × List Heard) α := fun s =>
  ((call s.1).1, ((call s.1).2, s.2 ++ [⟨r, error? (call s.1).1⟩]))

/-- The engine with a record of its calls, oldest first. -/
def watched (E : Engine σ) : Engine (σ × List Heard) where
  execute sql params := watch (.execute sql params) (E.execute sql params)
  batch sql := watch (.batch sql) (E.batch sql)
  begin := watch .begin E.begin
  commit := watch .commit E.commit
  rollback := watch .rollback E.rollback
  lastId sequence := watch (.lastId sequence) (E.lastId sequence)
  info s := E.info s.1

end Engine

namespace Database

variable {σ α β : Type}

/-- The database over the watched engine, before any call. -/
def watched (db : Database σ) : Database (σ × List Heard) :=
  ⟨db.options, db.engine.map (·, []), db.statements, db.queryString, db.collected, db.softError,
    db.inTransaction⟩

/-- The database without the record. -/
def unwatched (db : Database (σ × List Heard)) : Database σ :=
  ⟨db.options, db.engine.map (·.1), db.statements, db.queryString, db.collected, db.softError,
    db.inTransaction⟩

/-- The calls on the engine so far. -/
def heard (db : Database (σ × List Heard)) : List Heard := (db.engine.map (·.2)).getD []

theorem unwatched_watched (db : Database σ) : db.watched.unwatched = db := by
  obtain ⟨o, engine, _, _, _, _, _⟩ := db
  cases engine <;> rfl

/-! ## Operations that cannot tell -/

/-- Over the watched engine an operation does what it does over the engine. -/
def Mirrors (watching : Op (σ × List Heard) α) (op : Op σ α) : Prop :=
  ∀ db, op db.unwatched = ((watching db).1, (watching db).2.unwatched)

theorem mirrors_ask (r : EngineRequest) (call : EngineCall σ α) :
    Mirrors (ask (Engine.watch r call)) (ask call) := by
  rintro ⟨o, engine, _, _, _, _, _⟩
  cases engine <;> rfl

theorem mirrors_attempt (text : String) (c : Compiled) (r : EngineRequest)
    (call : EngineCall σ α) :
    Mirrors (attempt text c (Engine.watch r call)) (attempt text c call) := by
  intro db
  have hask := mirrors_ask r call { db with softError := none }
  unfold attempt
  dsimp only [unwatched] at hask ⊢
  split
  · rfl
  · split
    · rfl
    · rw [hask]
      dsimp only
      split <;> rfl

theorem mirrors_run (E : Engine σ) (c : Compiled) : Mirrors (run E.watched c) (run E c) :=
  fun db => mirrors_attempt (db.compiler.readable c) c _ (E.execute c.sql c.params) db

theorem mirrors_runExecuted (E : Engine σ) (c : Compiled) :
    Mirrors (runExecuted E.watched c) (runExecuted E c) := by
  intro db
  unfold runExecuted
  rw [mirrors_run E c db]

theorem mirrors_runScript (E : Engine σ) (sql : String) :
    Mirrors (runScript E.watched sql) (runScript E sql) := by
  intro db
  unfold runScript
  rw [mirrors_attempt sql ⟨sql, []⟩ (.batch sql) (E.batch sql) db]
  rfl

theorem Mirrors.onOk {r : Except Error α} {watching : α → Op (σ × List Heard) (Except Error β)}
    {next : α → Op σ (Except Error β)} (h : ∀ a, Mirrors (watching a) (next a)) :
    Mirrors (Database.onOk r watching) (Database.onOk r next) := by
  intro db
  cases r with
  | ok a => exact h a db
  | error e => rfl

theorem Mirrors.always {watching : Op (σ × List Heard) α} {op : Op σ α} (h : Mirrors watching op) :
    Mirrors (Database.always watching) (Database.always op) := by
  intro db
  unfold Database.always
  rw [h db]

theorem mirrors_aggregate (E : Engine σ) (f : Aggregate) (q : Query) :
    Mirrors (aggregate E.watched f q) (aggregate E f q) := by
  intro db
  refine Mirrors.onOk (fun c db => ?_) db
  rw [mirrors_run E c db]

theorem mirrors_allRows (E : Engine σ) (q : Query) (c : Compiled) :
    Mirrors (allRows E.watched q c) (allRows E q c) := by
  refine Mirrors.onOk fun shape db => ?_
  rw [mirrors_run E c db]

theorem mirrors_select (E : Engine σ) (q : Query) : Mirrors (select E.watched q) (select E q) := by
  intro db
  unfold select
  split
  · rw [mirrors_aggregate E _ q db]
  · exact Mirrors.onOk (mirrors_allRows E q) db

theorem mirrors_get (E : Engine σ) (q : Query) : Mirrors (get E.watched q) (get E q) := by
  intro db
  refine Mirrors.onOk (fun shape => Mirrors.onOk fun c db => ?_) db
  rw [mirrors_run E c db]

theorem mirrors_rand (E : Engine σ) (q : Query) : Mirrors (rand E.watched q) (rand E q) :=
  fun db => Mirrors.onOk (mirrors_allRows E q) db

theorem mirrors_has (E : Engine σ) (q : Query) : Mirrors (has E.watched q) (has E q) := by
  intro db
  refine Mirrors.onOk (fun c db => ?_) db
  rw [mirrors_run E c db]

theorem mirrors_write (E : Engine σ) (r : Except Error Compiled) :
    Mirrors (write E.watched r) (write E r) :=
  Mirrors.onOk fun c => (mirrors_runExecuted E c).always

/-- What is compiled depends on no engine. -/
theorem mirrors_compiled (E : Engine σ) (compile : Compiler → Except Error Compiled) :
    Mirrors (fun db => write E.watched (compile db.compiler) db)
      (fun db => write E (compile db.compiler) db) :=
  fun db => mirrors_write E (compile db.compiler) db

theorem mirrors_importFile (E : Engine σ) (files : FileTree) (path : String) :
    Mirrors (importFile E.watched files path) (importFile E files path) := by
  intro db
  unfold importFile
  cases files.readText path with
  | ok script => exact (mirrors_runScript E script).always db
  | error e => cases e <;> rfl

theorem mirrors_begin (E : Engine σ) : Mirrors (begin E.watched) (begin E) := by
  rintro ⟨o, engine, _, _, _, _, _⟩
  cases engine with
  | none => rfl
  | some s =>
    show begin E ⟨o, some s.1, _, _, _, _, _⟩ = _
    unfold begin
    dsimp only [Engine.watched, Engine.watch]
    rcases E.begin s.1 with ⟨_ | _, next⟩ <;> rfl

theorem mirrors_finish (r : EngineRequest) (call : EngineCall σ Unit) :
    Mirrors (finish (Engine.watch r call)) (finish call) := by
  rintro ⟨o, engine, _, _, _, _, _⟩
  cases engine <;> rfl

theorem mirrors_id (E : Engine σ) (sequence : Option String) :
    Mirrors (id E.watched sequence) (id E sequence) := by
  rintro ⟨o, engine, _, _, _, _, _⟩
  cases engine <;> rfl

theorem info_watched (E : Engine σ) (db : Database (σ × List Heard)) :
    db.info E.watched = db.unwatched.info E := by
  obtain ⟨o, engine, _, _, _, _, _⟩ := db
  cases engine <;> rfl

theorem mirrors_takeCollected : Mirrors (takeCollected (σ := σ × List Heard)) takeCollected :=
  fun _ => rfl

/-! ## Commands -/

theorem Mirrors.answering {wrap : α → Output} {watching : Op (σ × List Heard) (Except Error α)}
    {op : Op σ (Except Error α)} (h : Mirrors watching op) :
    Mirrors (Database.answering wrap watching) (Database.answering wrap op) := by
  intro db
  unfold Database.answering
  rw [h db]

theorem mirrors_answer (E : Engine σ) (files : FileTree) (cmd : Command) :
    Mirrors (answer E.watched files cmd) (answer E files cmd) := by
  intro db
  cases cmd with
  | select q => exact (mirrors_select E q).answering db
  | get q => exact (mirrors_get E q).answering db
  | rand q => exact (mirrors_rand E q).answering db
  | has q => exact (mirrors_has E q).answering db
  | aggregate f q => exact (mirrors_aggregate E f q).answering db
  | insert table rows => exact (mirrors_compiled E fun c => c.insert table rows).answering db
  | update table data conditions =>
    exact (mirrors_compiled E fun c => c.update table data conditions).answering db
  | delete table conditions =>
    exact (mirrors_compiled E fun c => c.delete table conditions).answering db
  | replace table columns conditions =>
    exact (mirrors_compiled E fun c => c.replace table columns conditions).answering db
  | create table columns options =>
    exact (mirrors_compiled E fun c => c.create table columns options).answering db
  | drop table => exact (mirrors_compiled E fun c => c.drop table).answering db
  | query raw => exact (mirrors_compiled E fun c => c.fragment raw).answering db
  | exec sql params => exact (mirrors_runExecuted E ⟨sql, params⟩).always.answering db
  | importFile path => exact (mirrors_importFile E files path).answering db
  | begin => exact (mirrors_begin E).answering db
  | commit => exact (mirrors_finish .commit E.commit).answering db
  | rollback => exact (mirrors_finish .rollback E.rollback).answering db
  | id sequence => exact (mirrors_id E sequence).answering db
  | debugLog => exact mirrors_takeCollected.always.answering db
  | info =>
    show (Except.ok (Output.info (db.unwatched.info E)), db.unwatched) = _
    rw [← info_watched]
    rfl
  | last => rfl
  | log => rfl
  | property p => cases p <;> rfl
  | ping => rfl

theorem leftBehind_unwatched (db : Database (σ × List Heard)) (cmd : Command) :
    db.unwatched.leftBehind cmd = db.leftBehind cmd := rfl

theorem mirrors_execute (E : Engine σ) (files : FileTree) (cmd : Command) :
    Mirrors (execute E.watched files cmd) (execute E files cmd) := by
  intro db
  unfold execute
  rw [mirrors_answer E files cmd db]
  rcases answer E.watched files cmd db with ⟨e | output, next⟩
  · rfl
  · dsimp only
    rw [leftBehind_unwatched]
    split <;> rfl

theorem mirrors_executeAll (E : Engine σ) (files : FileTree) (cmds : List Command) :
    Mirrors (executeAll E.watched files cmds) (executeAll E files cmds) := by
  induction cmds with
  | nil => exact fun _ => rfl
  | cons cmd rest ih =>
    intro db
    unfold executeAll
    rw [mirrors_execute E files cmd db]
    dsimp only
    rw [ih]

end Database

/-! ## Sessions -/

namespace Session

variable {σ : Type}

/-- The session without the record. -/
def unwatched (s : Session (σ × List Heard)) : Session σ :=
  ⟨s.database.unwatched, s.inTransaction⟩

theorem pass_unwatched (E : Engine σ) (files : FileTree) (cmd : Command)
    (s : Session (σ × List Heard)) :
    s.unwatched.pass E files cmd =
      ((s.pass E.watched files cmd).1, (s.pass E.watched files cmd).2.unwatched) := by
  unfold pass unwatched
  dsimp only
  rw [Database.mirrors_execute E files cmd s.database]

theorem execute_unwatched (E : Engine σ) (files : FileTree) (cmd : Command)
    (s : Session (σ × List Heard)) :
    s.unwatched.execute E files cmd =
      ((s.execute E.watched files cmd).1, (s.execute E.watched files cmd).2.unwatched) := by
  obtain ⟨db, inTransaction⟩ := s
  unfold execute
  split
  · cases inTransaction with
    | true => rfl
    | false =>
      have hpass := pass_unwatched E files .begin ⟨db, false⟩
      dsimp only [unwatched] at hpass ⊢
      rw [hpass]
      rcases pass E.watched files .begin ⟨db, false⟩ with ⟨e | output, next⟩ <;> rfl
  · cases inTransaction with
    | true => exact pass_unwatched E files .commit ⟨db, false⟩
    | false => rfl
  · cases inTransaction with
    | true => exact pass_unwatched E files .rollback ⟨db, false⟩
    | false => rfl
  · exact pass_unwatched E files _ ⟨db, inTransaction⟩

theorem run_unwatched (E : Engine σ) (files : FileTree) (cmds : List Command)
    (s : Session (σ × List Heard)) :
    s.unwatched.run E files cmds =
      ((s.run E.watched files cmds).1, (s.run E.watched files cmds).2.unwatched) := by
  induction cmds generalizing s with
  | nil => rfl
  | cons cmd rest ih =>
    unfold run
    rw [execute_unwatched]
    dsimp only
    rw [ih]

end Session

/-! ## Open and closed -/

/-- The call begins or ends a transaction. -/
def EngineRequest.isBracket : EngineRequest → Bool
  | .begin => true
  | .commit => true
  | .rollback => true
  | _ => false

/-- A transaction is open after the call. -/
def Heard.leavesOpen (wasOpen : Bool) (h : Heard) : Bool :=
  match h.request with
  | .begin => wasOpen || h.error.isNone
  | .commit => false
  | .rollback => false
  | _ => wasOpen

/-- A transaction is open after the calls. None was before. -/
def openAfter (calls : List Heard) : Bool := calls.foldl Heard.leavesOpen false

/-- The call may come where a transaction is open, or where none is. -/
def Heard.Fits (isOpen : Bool) (h : Heard) : Prop :=
  match h.request with
  | .begin => isOpen = false
  | .commit => isOpen = true
  | .rollback => isOpen = true
  | _ => True

/-- Every call comes where it may. -/
def Bracketed (calls : List Heard) : Prop :=
  ∀ before h after, calls = before ++ h :: after → h.Fits (openAfter before)

/-! ## One more call -/

theorem openAfter_concat (calls : List Heard) (h : Heard) :
    openAfter (calls ++ [h]) = h.leavesOpen (openAfter calls) := by
  unfold openAfter
  rw [List.foldl_append]
  rfl

theorem bracketed_nil : Bracketed [] := by
  intro before h after heq
  exact absurd heq.symm (List.append_ne_nil_of_right_ne_nil before (List.cons_ne_nil h after))

theorem Bracketed.concat {calls : List Heard} (hcalls : Bracketed calls) {h : Heard}
    (hfits : h.Fits (openAfter calls)) : Bracketed (calls ++ [h]) := by
  intro before other after heq
  rcases List.eq_nil_or_concat after with rfl | ⟨rest, last, rfl⟩
  · obtain ⟨rfl, hlast⟩ := List.append_inj' heq rfl
    cases hlast
    exact hfits
  · have hsplit : calls ++ [h] = (before ++ other :: rest) ++ [last] := by
      rw [heq, List.concat_eq_append, List.append_assoc, List.cons_append]
    obtain ⟨hinit, -⟩ := List.append_inj' hsplit rfl
    exact hcalls before other rest hinit

/-! ## Calls that are no brackets -/

theorem leavesOpen_of_not_bracket {h : Heard} (hplain : h.request.isBracket = false)
    (wasOpen : Bool) : h.leavesOpen wasOpen = wasOpen := by
  unfold Heard.leavesOpen
  split <;> simp_all [EngineRequest.isBracket]

theorem fits_of_not_bracket {h : Heard} (hplain : h.request.isBracket = false)
    (isOpen : Bool) : h.Fits isOpen := by
  unfold Heard.Fits
  split <;> simp_all [EngineRequest.isBracket]

variable {calls more : List Heard}

theorem openAfter_plain (hmore : ∀ h ∈ more, h.request.isBracket = false) :
    openAfter (calls ++ more) = openAfter calls := by
  induction more using List.reverseRecOn with
  | nil => rw [List.append_nil]
  | append_singleton rest h ih =>
    have hrest := ih fun x hx => hmore x (List.mem_append_left _ hx)
    have hplain := hmore h (List.mem_append_right _ (List.mem_singleton_self h))
    rw [← List.append_assoc, openAfter_concat, hrest, leavesOpen_of_not_bracket hplain]

theorem Bracketed.plain (hcalls : Bracketed calls)
    (hmore : ∀ h ∈ more, h.request.isBracket = false) : Bracketed (calls ++ more) := by
  induction more using List.reverseRecOn with
  | nil => rwa [List.append_nil]
  | append_singleton rest h ih =>
    have hrest := ih fun x hx => hmore x (List.mem_append_left _ hx)
    have hplain := hmore h (List.mem_append_right _ (List.mem_singleton_self h))
    rw [← List.append_assoc]
    exact hrest.concat (fits_of_not_bracket hplain _)

/-! ## What a database asks for -/

namespace Database

variable {σ α : Type}

/-- A transaction is begun by one call, and the flag rises when the call succeeds. -/
theorem begin_heard (E : Engine σ) {db : Database (σ × List Heard)}
    (hengine : db.engine.isSome = true) :
    (begin E.watched db).2.heard =
        db.heard ++ [⟨.begin, Engine.error? (begin E.watched db).1⟩] ∧
      (begin E.watched db).2.engine.isSome = true ∧
      (begin E.watched db).2.inTransaction =
        (db.inTransaction || (Engine.error? (begin E.watched db).1).isNone) := by
  obtain ⟨o, engine, _, _, _, _, inTransaction⟩ := db
  obtain ⟨s, rfl⟩ := Option.isSome_iff_exists.1 hengine
  unfold begin
  dsimp only [Engine.watched, Engine.watch]
  rcases E.begin s.1 with ⟨e | u, next⟩
  · exact ⟨rfl, rfl, (Bool.or_false _).symm⟩
  · exact ⟨rfl, rfl, (Bool.or_true _).symm⟩

/-- A transaction is ended by one call. The flag falls whatever comes of it. -/
theorem finish_heard (r : EngineRequest) (call : EngineCall σ Unit)
    {db : Database (σ × List Heard)} (hengine : db.engine.isSome = true) :
    (finish (Engine.watch r call) db).2.heard =
        db.heard ++ [⟨r, Engine.error? (finish (Engine.watch r call) db).1⟩] ∧
      (finish (Engine.watch r call) db).2.engine.isSome = true ∧
      (finish (Engine.watch r call) db).2.inTransaction = false := by
  obtain ⟨o, engine, _, _, _, _, _⟩ := db
  obtain ⟨s, rfl⟩ := Option.isSome_iff_exists.1 hengine
  exact ⟨rfl, rfl, rfl⟩

end Database
end StructuredSql
