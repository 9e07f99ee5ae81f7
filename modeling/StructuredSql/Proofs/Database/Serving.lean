-- What a database does for a command: a command that executes a statement is refused
-- before the engine hears of it, or runs one statement or one script, or asks for a script
-- that is not there. No command changes the options, and none takes the engine away.
import StructuredSql.Session

namespace StructuredSql.Database

variable {σ ε α β : Type}

/-! ## One statement at most -/

/-- The outcome of an operation that runs at most one compiled statement: it fails and
leaves the database alone, or it leaves the database as the statement does. -/
inductive Runs (E : Engine σ) (db : Database σ) : Except ε α × Database σ → Prop
  | refused (e : ε) : Runs E db (.error e, db)
  | ran (c : Compiled) (a : α) : Runs E db (.ok a, (run E c db).2)

section
variable {E : Engine σ} {db : Database σ}

theorem runs_onOk {r : Except Error α} {next : α → Op σ (Except Error β)}
    (h : ∀ a, Runs E db (next a db)) : Runs E db (onOk r next db) := by
  cases r with
  | ok a => exact h a
  | error e => exact .refused e

theorem Runs.map {result : Except ε α × Database σ} (h : Runs E db result) (f : α → β) :
    Runs E db (result.1.map f, result.2) := by
  cases h with
  | refused e => exact .refused e
  | ran c a => exact .ran c (f a)

theorem runs_aggregate (f : Aggregate) (q : Query) : Runs E db (aggregate E f q db) :=
  runs_onOk fun c => .ran c _

theorem runs_allRows (q : Query) (c : Compiled) : Runs E db (allRows E q c db) :=
  runs_onOk fun _ => .ran c _

theorem runs_select (q : Query) : Runs E db (select E q db) := by
  unfold select
  split
  · exact (runs_aggregate _ q).map _
  · exact runs_onOk fun c => runs_allRows q c

theorem runs_get (q : Query) : Runs E db (get E q db) :=
  runs_onOk fun _ => runs_onOk fun c => .ran c _

theorem runs_rand (q : Query) : Runs E db (rand E q db) := runs_onOk fun c => runs_allRows q c

theorem runs_has (q : Query) : Runs E db (has E q db) :=
  runs_onOk fun c => .ran c _

theorem runs_write (r : Except Error Compiled) : Runs E db (write E r db) :=
  runs_onOk fun c => .ran c _

end

/-! ## One command -/

/-- A script is to be run that is not there. -/
def ImportsMissing (files : FileTree) : Command → Prop
  | .importFile path => files.readText path = .error .notFound
  | _ => False

/-- The outcome of a command that executes a statement. -/
inductive Served (E : Engine σ) (files : FileTree) (db : Database σ) :
    Command → Except CallError Output × Database σ → Prop
  | refused (cmd : Command) (h : ¬ ImportsMissing files cmd) (e : Error) :
      Served E files db cmd (.error (.ofError e), db)
  | ran (cmd : Command) (h : ¬ ImportsMissing files cmd) (c : Compiled) (output : Output) :
      Served E files db cmd (.ok output, (run E c db).2)
  | script {path sql : String} (h : files.readText path = .ok sql) :
      Served E files db (.importFile path)
        (.ok (.bool (runScript E sql db).1), (runScript E sql db).2)
  | missing {path : String} (h : files.readText path = .error .notFound) :
      Served E files db (.importFile path) (.ok (.bool false), db)

theorem Runs.served {E : Engine σ} {files : FileTree} {db : Database σ} {wrap : α → Output}
    {op : Op σ (Except Error α)} (h : Runs E db (op db)) (cmd : Command)
    (hcmd : ¬ ImportsMissing files cmd) :
    Served E files db cmd (Database.answering wrap op db) := by
  unfold Database.answering
  generalize op db = result at h ⊢
  cases h with
  | refused e => exact .refused cmd hcmd e
  | ran c a => exact .ran cmd hcmd c (wrap a)

/-- What is compiled is the one statement. -/
theorem served_compiled {E : Engine σ} {files : FileTree} {db : Database σ} (cmd : Command)
    (hcmd : ¬ ImportsMissing files cmd) (compile : Compiler → Except Error Compiled) :
    Served E files db cmd
      (Database.answering .statement (fun db => write E (compile db.compiler) db) db) :=
  Runs.served (runs_write (compile db.compiler)) cmd hcmd

theorem served_answer (E : Engine σ) (files : FileTree) {cmd : Command}
    (h : cmd.executesStatement = true) (db : Database σ) :
    Served E files db cmd (answer E files cmd db) := by
  cases cmd with
  | select q => exact (runs_select q).served _ not_false
  | get q => exact (runs_get q).served _ not_false
  | rand q => exact (runs_rand q).served _ not_false
  | has q => exact (runs_has q).served _ not_false
  | aggregate f q => exact (runs_aggregate f q).served _ not_false
  | insert table rows =>
    exact served_compiled (.insert table rows) not_false fun c => c.insert table rows
  | update table data conditions =>
    exact served_compiled (.update table data conditions) not_false fun c =>
      c.update table data conditions
  | delete table conditions =>
    exact served_compiled (.delete table conditions) not_false fun c =>
      c.delete table conditions
  | replace table columns conditions =>
    exact served_compiled (.replace table columns conditions) not_false fun c =>
      c.replace table columns conditions
  | create table columns options =>
    exact served_compiled (.create table columns options) not_false fun c =>
      c.create table columns options
  | drop table =>
    exact served_compiled (.drop table) not_false fun c => c.drop table
  | query raw => exact served_compiled (.query raw) not_false fun c => c.fragment raw
  | exec sql params =>
    exact .ran (.exec sql params) not_false ⟨sql, params⟩ _
  | importFile path =>
    show Served E files db _ (answering .bool (importFile E files path) db)
    unfold importFile
    cases hread : files.readText path with
    | ok sql => exact .script hread
    | error e =>
      have hother (he : e ≠ .notFound) : ¬ ImportsMissing files (.importFile path) :=
        fun hmissing => he (Except.error.inj (hread.symm.trans hmissing))
      cases e with
      | notFound => exact .missing hread
      | _ => exact .refused _ (hother nofun) (.validation _)
  | _ => cases h

/-! ## What a command leaves as it was -/

/-- The options are the same, and there is an engine where there was one. -/
def Kept (db db' : Database σ) : Prop :=
  db'.options = db.options ∧ db'.engine.isSome = db.engine.isSome

theorem kept_refl (db : Database σ) : Kept db db := ⟨rfl, rfl⟩

theorem Kept.trans {db db' db'' : Database σ} (h : Kept db db') (h' : Kept db' db'') :
    Kept db db'' :=
  ⟨h'.1.trans h.1, h'.2.trans h.2⟩

theorem kept_attempt (text : String) (c : Compiled) (call : EngineCall σ α) (db : Database σ) :
    Kept db (attempt text c call db).2 := by
  obtain ⟨o, engine, _, _, _, _, _⟩ := db
  unfold attempt
  dsimp only
  split
  · exact ⟨rfl, rfl⟩
  · split
    · exact ⟨rfl, rfl⟩
    · unfold ask
      cases engine with
      | none => exact ⟨rfl, rfl⟩
      | some s =>
        dsimp only
        rcases call s with ⟨_ | _, next⟩ <;> exact ⟨rfl, rfl⟩

theorem kept_begin (E : Engine σ) (db : Database σ) : Kept db (begin E db).2 := by
  obtain ⟨o, engine, _, _, _, _, _⟩ := db
  unfold begin
  cases engine with
  | none => exact ⟨rfl, rfl⟩
  | some s =>
    dsimp only
    rcases E.begin s with ⟨_ | _, next⟩ <;> exact ⟨rfl, rfl⟩

theorem kept_finish (call : EngineCall σ Unit) (db : Database σ) : Kept db (finish call db).2 := by
  obtain ⟨o, engine, _, _, _, _, _⟩ := db
  cases engine <;> exact ⟨rfl, rfl⟩

theorem kept_id (E : Engine σ) (sequence : Option String) (db : Database σ) :
    Kept db (id E sequence db).2 := by
  obtain ⟨o, engine, _, _, _, _, _⟩ := db
  cases engine <;> exact ⟨rfl, rfl⟩

theorem Served.kept {E : Engine σ} {files : FileTree} {db : Database σ} {cmd : Command}
    {result : Except CallError Output × Database σ} (h : Served E files db cmd result) :
    Kept db result.2 := by
  cases h with
  | refused => exact kept_refl db
  | ran _ _ c => exact kept_attempt _ c _ db
  | script h => exact kept_attempt _ _ _ db
  | missing h => exact kept_refl db

theorem kept_answer (E : Engine σ) (files : FileTree) (cmd : Command) (db : Database σ) :
    Kept db (answer E files cmd db).2 := by
  by_cases h : cmd.executesStatement = true
  · exact (served_answer E files h db).kept
  · cases cmd with
    | begin => exact kept_begin E db
    | commit => exact kept_finish E.commit db
    | rollback => exact kept_finish E.rollback db
    | id sequence => exact kept_id E sequence db
    | info | last | log | debugLog | property | ping => exact ⟨rfl, rfl⟩
    | _ => exact absurd rfl h

/-- Reading what was left behind changes nothing more. -/
theorem execute_snd (E : Engine σ) (files : FileTree) (cmd : Command) (db : Database σ) :
    (execute E files cmd db).2 = (answer E files cmd db).2 := by
  unfold execute
  rcases answer E files cmd db with ⟨e | output, next⟩
  · rfl
  · dsimp only
    split <;> rfl

theorem kept_execute (E : Engine σ) (files : FileTree) (cmd : Command) (db : Database σ) :
    Kept db (execute E files cmd db).2 := by
  rw [execute_snd]
  exact kept_answer E files cmd db

theorem kept_executeAll (E : Engine σ) (files : FileTree) (cmds : List Command)
    (db : Database σ) : Kept db (executeAll E files cmds db).2 := by
  induction cmds generalizing db with
  | nil => exact kept_refl db
  | cons cmd rest ih => exact (kept_execute E files cmd db).trans (ih _)

/-! ## Databases that can run statements -/

/-- Only a dry run goes without an engine. -/
def Equipped (db : Database σ) : Prop := db.options.dryRun = false → db.engine.isSome = true

theorem Kept.equipped {db db' : Database σ} (h : Kept db db') (hdb : Equipped db) :
    Equipped db' := by
  unfold Equipped
  rw [h.1, h.2]
  exact hdb

theorem withEngine_equipped {E : Engine σ} {o : Options} {s : σ} {db : Database σ}
    (h : (withEngine E o s).1 = .ok db) : Equipped db := by
  unfold withEngine at h
  rcases hinit : runInit E o.initCommands s with ⟨_ | _, next⟩
  · rw [hinit] at h
    cases h
  · rw [hinit] at h
    cases h
    exact fun _ => rfl

theorem openBundled_equipped {o : Options} {db : Database Memory} (h : openBundled o = .ok db) :
    Equipped db := by
  unfold openBundled at h
  split at h
  · rename_i hdry
    cases h
    intro hrun
    exact absurd hdry (hrun ▸ Bool.false_ne_true)
  · split at h
    · exact withEngine_equipped h
    · cases h

end StructuredSql.Database

/-! ## Sessions -/

namespace StructuredSql.Session

variable {σ : Type}

/-- A session refuses a command, or hands it on to its database. -/
theorem kept_execute (E : Engine σ) (files : FileTree) (cmd : Command) (s : Session σ) :
    Database.Kept s.database (s.execute E files cmd).2.database := by
  have hpass (cmd : Command) (s : Session σ) :
      Database.Kept s.database (s.pass E files cmd).2.database :=
    Database.kept_execute E files cmd s.database
  unfold execute
  split
  · split
    · exact Database.kept_refl _
    · have hbegin := hpass .begin s
      split
      · rename_i h
        rw [h] at hbegin
        exact hbegin
      · rename_i h
        rw [h] at hbegin
        exact hbegin
  · split
    · exact hpass .commit { s with inTransaction := false }
    · exact Database.kept_refl _
  · split
    · exact hpass .rollback { s with inTransaction := false }
    · exact Database.kept_refl _
  · exact hpass _ s

theorem kept_run (E : Engine σ) (files : FileTree) (cmds : List Command) (s : Session σ) :
    Database.Kept s.database (s.run E files cmds).2.database := by
  induction cmds generalizing s with
  | nil => exact Database.kept_refl _
  | cons cmd rest ih => exact (kept_execute E files cmd s).trans (ih _)

/-- A command that executes a statement is no matter of the session's transaction. -/
theorem execute_statement (E : Engine σ) (files : FileTree) {cmd : Command}
    (h : cmd.executesStatement = true) (s : Session σ) :
    s.execute E files cmd = s.pass E files cmd := by
  cases cmd with
  | begin | commit | rollback => cases h
  | _ => rfl

end StructuredSql.Session
