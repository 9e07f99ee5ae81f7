-- The log of a database is the record of its engine: of the calls since it was opened, the
-- statements and the scripts, in order and with those that failed. Without logging only the last
-- of them stands there, and under a dry run or the debug log none.
import Mathlib
import StructuredSql.Proofs.Database.Rejections

namespace StructuredSql.Database

variable {σ α : Type}

/-- The statements and scripts among the calls. -/
def handed (calls : List Heard) : List Compiled := calls.filterMap Heard.statement?

/-- What stands in the log when these were handed to the engine. -/
def logged (o : Options) (statements : List Compiled) : List Compiled :=
  if o.dryRun = true ∨ o.debugLog = true then []
  else if o.logging = true then statements
  else statements.getLast?.toList

theorem handed_append (calls more : List Heard) :
    handed (calls ++ more) = handed calls ++ handed more :=
  List.filterMap_append

theorem handed_statement {h : Heard} {c : Compiled} (hc : h.statement? = some c)
    (calls : List Heard) : handed (calls ++ [h]) = handed calls ++ [c] := by
  rw [handed_append]
  simp [handed, hc]

theorem handed_other {h : Heard} (hnone : h.statement? = none) (calls : List Heard) :
    handed (calls ++ [h]) = handed calls := by
  rw [handed_append]
  simp [handed, hnone]

/-- One statement more, where statements are run. -/
theorem logged_concat {o : Options} (hmode : o.dryRun = false ∧ o.debugLog = false)
    (statements : List Compiled) (c : Compiled) :
    logged o (statements ++ [c]) = (if o.logging then logged o statements else []) ++ [c] := by
  obtain ⟨hdry, hdebug⟩ := hmode
  by_cases hlogging : o.logging = true
  · simp [logged, hdry, hdebug, hlogging]
  · simp [logged, hdry, hdebug, hlogging]

theorem logged_nil (o : Options) : logged o [] = [] := by
  unfold logged
  split
  · rfl
  · split
    · rfl
    · rfl

/-! ## One step -/

/-- The log is what was handed to the engine, which can run statements unless it is a dry run. -/
structure Exact (o : Options) (db : Database (σ × List Heard)) : Prop where
  options : db.options = o
  equipped : Equipped db
  statements : db.statements = logged o (handed db.heard)

theorem Opened.exact {E : Engine σ} {o : Options} {start : Database σ} (h : Opened E o start) :
    Exact o start.watched := by
  obtain ⟨engine, rfl⟩ := h.eq_ofOptions
  refine ⟨rfl, equipped_watched h.equipped, ?_⟩
  have hheard : (ofOptions o engine).watched.heard = [] := by cases engine <;> rfl
  rw [hheard]
  exact (logged_nil o).symm

section
variable {o : Options} {db : Database (σ × List Heard)}

/-- A step that hands nothing to the engine and leaves the log alone. -/
theorem Exact.of_silent {db' : Database (σ × List Heard)} (hdb : Exact o db) (hkept : Kept db db')
    (hhanded : handed db'.heard = handed db.heard) (hlog : db'.statements = db.statements) :
    Exact o db' :=
  ⟨hkept.1.trans hdb.options, hkept.equipped hdb.equipped,
    by rw [hlog, hdb.statements, hhanded]⟩

theorem Attempted.exact {c : Compiled} {result : Option α × Database (σ × List Heard)}
    (h : Attempted c db result) (hdb : Exact o db) (hkept : Kept db result.2) :
    Exact o result.2 := by
  cases h with
  | aside hmode hheard hsoft hlog =>
    exact hdb.of_silent hkept (congrArg handed hheard) hlog
  | asked h hc hmode hheard hsoft hlog hnone =>
    rw [hdb.options] at hmode hlog
    refine ⟨hkept.1.trans hdb.options, hkept.equipped hdb.equipped, ?_⟩
    rw [hlog, hheard, handed_statement hc, logged_concat hmode, hdb.statements]

theorem handed_begin (E : Engine σ) (db : Database (σ × List Heard)) :
    handed (begin E.watched db).2.heard = handed db.heard ∧
      (begin E.watched db).2.statements = db.statements := by
  obtain ⟨o, engine, _, _, _, _, _⟩ := db
  cases engine with
  | none => exact ⟨rfl, rfl⟩
  | some s =>
    unfold begin
    dsimp only [Engine.watched, Engine.watch]
    rcases E.begin s.1 with ⟨e | _, next⟩
    · exact ⟨handed_other rfl s.2, rfl⟩
    · exact ⟨handed_other rfl s.2, rfl⟩

theorem handed_finish (r : EngineRequest) (hr : ∀ error, (⟨r, error⟩ : Heard).statement? = none)
    (call : EngineCall σ Unit) (db : Database (σ × List Heard)) :
    handed (finish (Engine.watch r call) db).2.heard = handed db.heard ∧
      (finish (Engine.watch r call) db).2.statements = db.statements := by
  obtain ⟨o, engine, _, _, _, _, _⟩ := db
  cases engine with
  | none => exact ⟨rfl, rfl⟩
  | some s => exact ⟨handed_other (hr _) s.2, rfl⟩

theorem handed_id (E : Engine σ) (sequence : Option String) (db : Database (σ × List Heard)) :
    handed (id E.watched sequence db).2.heard = handed db.heard ∧
      (id E.watched sequence db).2.statements = db.statements := by
  obtain ⟨o, engine, _, _, _, _, _⟩ := db
  cases engine with
  | none => exact ⟨rfl, rfl⟩
  | some s => exact ⟨handed_other rfl s.2, rfl⟩

theorem Act.exact {E : Engine σ} {files : FileTree} {db' : Database (σ × List Heard)}
    (h : Act E.watched files db db') (hdb : Exact o db) : Exact o db' := by
  have hkept := h.kept
  cases h with
  | operation op =>
    have houtcome := op.outcome E.watched files db
    generalize op.perform E.watched files db = result at houtcome hkept ⊢
    cases houtcome with
    | rejected => exact hdb
    | @ran _ c => exact (attempted_run E hdb.equipped c).exact hdb hkept
    | @script _ sql =>
      obtain ⟨r, hattempted, -⟩ := attempted_script E hdb.equipped sql
      exact hattempted.exact hdb hkept
    | missing => exact hdb
  | run c => exact (attempted_run E hdb.equipped c).exact hdb hkept
  | begin =>
    obtain ⟨hhanded, hlog⟩ := handed_begin E db
    exact hdb.of_silent hkept hhanded hlog
  | commit =>
    obtain ⟨hhanded, hlog⟩ := handed_finish .commit (fun _ => rfl) E.commit db
    exact hdb.of_silent hkept hhanded hlog
  | rollback =>
    obtain ⟨hhanded, hlog⟩ := handed_finish .rollback (fun _ => rfl) E.rollback db
    exact hdb.of_silent hkept hhanded hlog
  | id sequence =>
    obtain ⟨hhanded, hlog⟩ := handed_id E sequence db
    exact hdb.of_silent hkept hhanded hlog
  | takeCollected => exact hdb.of_silent hkept rfl rfl

end

/-! ## Any number of steps -/

theorem Leads.exact {E : Engine σ} {files : FileTree} {o : Options}
    {db db' : Database (σ × List Heard)} (h : Leads E.watched files db db') (hdb : Exact o db) :
    Exact o db' := by
  induction h with
  | refl => exact hdb
  | tail _ hact ih => exact hact.exact ih

/-- Whatever is done with a database, its log holds what was handed to the engine since it was
opened, as far as the options keep that, and the texts that it gives are those of the log. -/
theorem the_log_is_what_was_handed_over (E : Engine σ) (files : FileTree) {o : Options}
    {start : Database σ} (hopen : Opened E o start) {db : Database (σ × List Heard)}
    (h : Leads E.watched files start.watched db) :
    db.unwatched.statements = logged o (handed db.heard) ∧
      db.unwatched.log =
        (logged o (handed db.heard)).map (Compiler.readable ⟨o.engine, o.tablePrefix⟩) ∧
      db.unwatched.last =
        (logged o (handed db.heard)).getLast?.map (Compiler.readable ⟨o.engine, o.tablePrefix⟩) ∧
      Leads E files start db.unwatched := by
  have hexact := Leads.exact h hopen.exact
  have hcompiler : db.unwatched.compiler = ⟨o.engine, o.tablePrefix⟩ := by
    rw [← hexact.options]
    rfl
  have hstatements : db.unwatched.statements = logged o (handed db.heard) := hexact.statements
  have hstart := Leads.unwatched h
  rw [unwatched_watched] at hstart
  refine ⟨hstatements, ?_, ?_, hstart⟩
  · unfold log
    rw [hcompiler, hstatements]
  · unfold last
    rw [hcompiler, hstatements]

/-- A script that stands in the working directory. -/
def scriptTree : FileTree := ⟨[(["s"], .file (Text.Utf8.encode "DROP TABLE t"))]⟩

theorem readText_script : scriptTree.readText "s" = .ok "DROP TABLE t" := by
  have hnames : FileTree.names "s" = ["s"] := by cbv
  unfold FileTree.readText FileTree.read FileTree.locate
  rw [hnames]
  rfl

theorem perform_script (E : Engine σ) (db : Database σ) :
    (Operation.importFile "s").perform E scriptTree db =
      always (runScript E "DROP TABLE t") db := by
  show importFile E scriptTree "s" db = _
  unfold importFile
  rw [readText_script]

def loggingOptions : Options := { Options.default with logging := true }

/-- An engine that fails at the first statement. -/
def failingOnce : Script := ⟨[.error lockedError], [], .ok .null, ⟨"", "", "", "", "", ""⟩⟩

/-- A transaction around a statement that fails, a name that is rejected, and a script. -/
theorem failed_statement_stays_in_the_log :
    ∃ db : Database (Script × List Heard),
      Leads Engine.scripted scriptTree (ofOptions loggingOptions (some failingOnce))
        db.unwatched ∧
      db.heard.length = 4 ∧ db.unwatched.log = ["SELECT 1", "DROP TABLE t"] ∧
      db.unwatched.last = some "DROP TABLE t" := by
  have hopen : Opened Engine.scripted loggingOptions
      (ofOptions loggingOptions (some failingOnce)) := .session (s := failingOnce) rfl
  have hbegin : Leads Engine.scripted.watched scriptTree
      (ofOptions loggingOptions (some failingOnce)).watched _ := .single .begin
  have hrun := hbegin.tail (.run ⟨"SELECT 1", []⟩)
  have hdrop := hrun.tail (.operation (.drop "a b"))
  have himport := hdrop.tail (.operation (.importFile "s"))
  rw [perform_script] at himport
  have hcommit := himport.tail .commit
  obtain ⟨-, hlog, hlast, hleads⟩ :=
    the_log_is_what_was_handed_over Engine.scripted scriptTree hopen hcommit
  exact ⟨_, hleads, rfl, hlog, hlast⟩

end StructuredSql.Database
