-- Rejected input leaves no trace: whatever was done with a database before, an operation fails
-- only when the compiler or the projector rejects its input or its script cannot be read, and
-- then nothing has changed and the engine was not called. Any other operation succeeds, and a
-- failure of the engine is what it leaves behind.
import StructuredSql.Proofs.Database.Reachable

namespace StructuredSql.Database

variable {σ α : Type}

/-! ## One statement -/

/-- What became of a statement: it was put aside, or it was the one call that the engine got, and
entered the log, and the failure of that call is left behind. -/
inductive Attempted (c : Compiled) (db : Database (σ × List Heard)) :
    Option α × Database (σ × List Heard) → Prop
  | aside {db' : Database (σ × List Heard)}
      (hmode : db.options.dryRun = true ∨ db.options.debugLog = true)
      (hheard : db'.heard = db.heard) (hsoft : db'.softError = none)
      (hlog : db'.statements = db.statements) : Attempted c db (none, db')
  | asked {a : Option α} {db' : Database (σ × List Heard)} (h : Heard)
      (hc : h.statement? = some c)
      (hmode : db.options.dryRun = false ∧ db.options.debugLog = false)
      (hheard : db'.heard = db.heard ++ [h])
      (hsoft : db'.softError = h.error.map SoftError.ofError)
      (hlog : db'.statements = (if db.options.logging then db.statements else []) ++ [c])
      (hnone : h.error.isSome = true → a = none) : Attempted c db (a, db')

theorem attempted {db : Database (σ × List Heard)} (hdb : Equipped db) {c : Compiled}
    {r : EngineRequest} (hr : (⟨r, none⟩ : Heard).statement? = some c) (text : String)
    (call : EngineCall σ α) : Attempted c db (attempt text c (Engine.watch r call) db) := by
  obtain ⟨o, engine, statements, queryString, collected, softError, inTransaction⟩ := db
  unfold attempt
  dsimp only
  by_cases hdry : o.dryRun = true
  · rw [if_pos hdry]
    exact .aside (.inl hdry) rfl rfl rfl
  by_cases hdebug : o.debugLog = true
  · rw [if_neg hdry, if_pos hdebug]
    exact .aside (.inr hdebug) rfl rfl rfl
  rw [if_neg hdry, if_neg hdebug]
  have hmode : o.dryRun = false ∧ o.debugLog = false := by simp_all
  cases engine with
  | none => exact absurd (hdb hmode.1) Bool.false_ne_true
  | some s =>
    unfold ask Engine.watch
    dsimp only
    rcases call s.1 with ⟨e | a, next⟩
    · exact .asked ⟨r, some e⟩ hr hmode rfl rfl rfl fun _ => rfl
    · exact .asked ⟨r, none⟩ hr hmode rfl rfl rfl nofun

theorem attempted_run (E : Engine σ) {db : Database (σ × List Heard)} (hdb : Equipped db)
    (c : Compiled) : Attempted c db (run E.watched c db) :=
  attempted hdb rfl _ (E.execute c.sql c.params)

theorem attempted_script (E : Engine σ) {db : Database (σ × List Heard)} (hdb : Equipped db)
    (sql : String) :
    ∃ r : Option Unit, Attempted ⟨sql, []⟩ db (r, (runScript E.watched sql db).2) ∧
      (runScript E.watched sql db).1 = r.isSome :=
  ⟨_, attempted hdb rfl sql (E.batch sql), rfl⟩

/-! ## One operation -/

/-- What comes of an operation that is not rejected: there is no script to run; or the statement
is put aside; or it is the one call that the engine gets, and what the call failed with is left
behind, and then the operation gives nothing. -/
inductive Answers (files : FileTree) (op : Operation α) (db : Database (σ × List Heard)) :
    α → Database (σ × List Heard) → Prop
  | missing (hmisses : op.Misses files db.compiler) : Answers files op db op.nothing db
  | aside {db' : Database (σ × List Heard)}
      (hmode : db.options.dryRun = true ∨ db.options.debugLog = true)
      (hheard : db'.heard = db.heard) (hsoft : db'.softError = none) :
      Answers files op db op.nothing db'
  | asked {a : α} {db' : Database (σ × List Heard)} {c : Compiled}
      (hasks : op.Asks files db.compiler c) (h : Heard) (hc : h.statement? = some c)
      (hheard : db'.heard = db.heard ++ [h])
      (hsoft : db'.softError = h.error.map SoftError.ofError)
      (hnothing : h.error.isSome = true → a = op.nothing) : Answers files op db a db'

theorem Attempted.answers {β : Type} {c : Compiled} {db : Database (σ × List Heard)}
    {result : Option β × Database (σ × List Heard)} (h : Attempted c db result)
    {files : FileTree} {op : Operation α} (hasks : op.Asks files db.compiler c)
    (present : Option β → α) (hnothing : present none = op.nothing) :
    Answers files op db (present result.1) result.2 := by
  cases h with
  | aside hmode hheard hsoft hlog =>
    rw [hnothing]
    exact .aside hmode hheard hsoft
  | asked h hc hmode hheard hsoft hlog hnone =>
    refine .asked hasks h hc hheard hsoft fun herror => ?_
    rw [hnone herror, hnothing]

/-- Whatever was done with a database before, an operation fails only when its input is rejected,
and then everything is as it was and the engine was not called. It fails whenever its input is
rejected. Any other time it succeeds, after one call on the engine at most, leaves behind what
that call failed with, and gives nothing when it failed. -/
theorem rejected_operations_leave_no_trace (E : Engine σ) (files : FileTree) {o : Options}
    {start : Database σ} (hopen : Opened E o start) {db : Database (σ × List Heard)}
    (h : Leads E.watched files start.watched db) (op : Operation α) :
    (∀ e, (op.perform E.watched files db).1 = .error e →
      op.Rejected files db.compiler e ∧ (op.perform E.watched files db).2 = db) ∧
    (∀ a, (op.perform E.watched files db).1 = .ok a →
      op.Accepted files db.compiler ∧
        Answers files op db a (op.perform E.watched files db).2) ∧
    op.perform E files db.unwatched =
      ((op.perform E.watched files db).1, (op.perform E.watched files db).2.unwatched) := by
  have hdb : Equipped db := (Leads.kept h).equipped (equipped_watched hopen.equipped)
  have houtcome := op.outcome E.watched files db
  refine ⟨?_, ?_, mirrors_perform E files op db⟩
  · intro e he
    generalize op.perform E.watched files db = result at houtcome he ⊢
    cases houtcome with
    | rejected hrejected =>
      cases he
      exact ⟨hrejected, rfl⟩
    | ran | script | missing => cases he
  · intro a ha
    generalize op.perform E.watched files db = result at houtcome ha ⊢
    cases houtcome with
    | rejected => cases ha
    | @ran haccepted c hc present hnothing =>
      cases ha
      exact ⟨haccepted, (attempted_run E hdb c).answers (.inl hc) present hnothing⟩
    | @script haccepted sql hsql present hnothing =>
      cases ha
      obtain ⟨r, hattempted, hr⟩ := attempted_script E hdb sql
      rw [hr]
      exact ⟨haccepted,
        hattempted.answers (.inr ⟨sql, hsql, rfl⟩) (fun r => present r.isSome) hnothing⟩
    | missing haccepted hmisses =>
      cases ha
      exact ⟨haccepted, .missing hmisses⟩

/-- A database whose engine fails twice. -/
def lockedStart : Database Script :=
  ofOptions Options.default (some
    ⟨[.error lockedError, .error lockedError], [], .ok .null, ⟨"", "", "", "", "", ""⟩⟩)

theorem lockedStart_opened : Opened Engine.scripted Options.default lockedStart :=
  .session (s := ⟨[.error lockedError, .error lockedError], [], .ok .null,
    ⟨"", "", "", "", "", ""⟩⟩) rfl

/-- The database when its engine has failed once. -/
def lockedOnce : Database (Script × List Heard) :=
  (run Engine.scripted.watched ⟨"SELECT 1", []⟩ lockedStart.watched).2

/-- A name with a blank is rejected, and the earlier failure still stands; a question that the
engine fails at is answered with no. -/
theorem lockedOnce_rejects_a_name :
    ((Operation.drop "a b").perform Engine.scripted.watched FileTree.empty lockedOnce).2 =
        lockedOnce ∧
      lockedOnce.softError = some (.ofError lockedError) ∧
      Answers FileTree.empty (.has (.ofTable "t")) lockedOnce false
        ((Operation.has (.ofTable "t")).perform Engine.scripted.watched FileTree.empty
          lockedOnce).2 := by
  have hleads : Leads Engine.scripted.watched FileTree.empty lockedStart.watched lockedOnce :=
    .single (.run ⟨"SELECT 1", []⟩)
  have hdrop : ((Operation.drop "a b").perform Engine.scripted.watched FileTree.empty
      lockedOnce).1 = .error (.validation "Incorrect table name: a b") := rfl
  have hhas : ((Operation.has (.ofTable "t")).perform Engine.scripted.watched FileTree.empty
      lockedOnce).1 = .ok false := rfl
  have hrejected := (rejected_operations_leave_no_trace Engine.scripted FileTree.empty
    lockedStart_opened hleads (.drop "a b")).1 _ hdrop
  have hanswered := (rejected_operations_leave_no_trace Engine.scripted FileTree.empty
    lockedStart_opened hleads (.has (.ofTable "t"))).2.1 _ hhas
  exact ⟨hrejected.2, rfl, hanswered.2⟩

end StructuredSql.Database
