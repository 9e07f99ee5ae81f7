-- A statement with a hook in a transaction of its own. Where an engine has no transaction open,
-- one begin comes before it and one commit or one rollback behind it, as the statement left a
-- failure behind or not; when the begin is refused, neither hook nor statement is run. Without an
-- engine, or inside of a transaction, hook and statement are run and no transaction is touched.
import StructuredSql.Proofs.Database.Aside

namespace StructuredSql.Database

variable {σ τ : Type}

/-! ## Hooks that do more -/

/-- A statement whose hook changes something of its own beside the bindings. -/
def execWithOwn (E : Engine σ) (sql : String) (params : Params) (hook : Params → τ → Params × τ)
    (own : τ) (db : Database σ) : (Except Error (Option Executed) × Database σ) × τ :=
  if db.engine.isNone || db.inTransaction then
    let (params, own) := hook params own
    (always (exec E sql params) db, own)
  else match begin E db with
    | (.error e, db) => ((.error e, db), own)
    | (.ok (), db) =>
      let (params, own) := hook params own
      let (executed, db) := exec E sql params db
      let (ended, db) := if db.softError.isSome then rollback E db else commit E db
      ((ended.map fun _ => executed, db), own)

section
variable {E : Engine σ} {sql : String} {params : Params} {hook : Params → τ → Params × τ} {own : τ}
  {db began : Database σ}

/-- To the statement and the database a hook is what it makes of the bindings. -/
theorem execWithOwn_fst : (execWithOwn E sql params hook own db).1 =
    execWith E sql params (fun params => (hook params own).1) db := by
  unfold execWithOwn execWith
  split
  · rfl
  · rcases begin E db with ⟨e | _, began⟩ <;> rfl

theorem execWithOwn_joined (h : db.engine = none ∨ db.inTransaction = true) :
    execWithOwn E sql params hook own db =
      (always (exec E sql (hook params own).1) db, (hook params own).2) := by
  have hjoined : (db.engine.isNone || db.inTransaction) = true := by
    rw [Bool.or_eq_true, Option.isNone_iff_eq_none]
    exact h
  unfold execWithOwn
  rw [hjoined]
  rfl

theorem isNone_or_inTransaction (hengine : db.engine.isSome = true)
    (hout : db.inTransaction = false) : (db.engine.isNone || db.inTransaction) = false := by
  rw [hout, Bool.or_false, ← Option.not_isSome, hengine]
  rfl

theorem execWithOwn_refused {e : Error} (hengine : db.engine.isSome = true)
    (hout : db.inTransaction = false) (hbegin : begin E db = (.error e, began)) :
    execWithOwn E sql params hook own db = ((.error e, began), own) := by
  unfold execWithOwn
  rw [isNone_or_inTransaction hengine hout, hbegin]
  rfl

theorem execWithOwn_begun (hengine : db.engine.isSome = true) (hout : db.inTransaction = false)
    (hbegin : begin E db = (.ok (), began)) : execWithOwn E sql params hook own db =
      (let (executed, mid) := exec E sql (hook params own).1 began
       let (ended, after) := if mid.softError.isSome then rollback E mid else commit E mid
       (ended.map fun _ => executed, after), (hook params own).2) := by
  unfold execWithOwn
  rw [isNone_or_inTransaction hengine hout, hbegin]
  rfl

end

/-! ## The statement -/

/-- The one run of a statement: it is put aside, or the engine is given it, or there is none to
give it to. -/
inductive Once (c : Compiled) (db : Database (σ × List Heard)) :
    Option Executed × Database (σ × List Heard) → List Heard → Prop
  | aside (h : db.options.dryRun = true ∨ db.options.debugLog = true) :
      Once c db (none, putAside (db.compiler.readable c) db) []
  | given {executed : Option Executed} {next : Database (σ × List Heard)} {error : Option Error}
      (h : db.options.dryRun = false ∧ db.options.debugLog = false)
      (hengine : db.engine.isSome = true) (hlog : next.statements = (keep c db).statements)
      (hsoft : next.softError = error.map .ofError) (hgives : executed.isSome = error.isNone) :
      Once c db (executed, next) [⟨.execute c.sql c.params, error⟩]
  | nowhere (h : db.options.dryRun = false ∧ db.options.debugLog = false)
      (hengine : db.engine = none) :
      Once c db (none, { keep c db with
        softError := some (.ofError (.engine "no engine session" none)) }) []

/-- The statement was run once, by these calls on the engine. -/
structure Ran (c : Compiled) (db : Database (σ × List Heard))
    (after : Option Executed × Database (σ × List Heard)) (calls : List Heard) : Prop where
  once : Once c db after calls
  heard : after.2.heard = db.heard ++ calls
  flag : after.2.inTransaction = db.inTransaction
  equipped : after.2.engine.isSome = db.engine.isSome

theorem ran_aside {c : Compiled} {db : Database (σ × List Heard)}
    (hmode : db.options.dryRun = true ∨ db.options.debugLog = true) :
    Ran c db (none, putAside (db.compiler.readable c) db) [] := by
  refine ⟨.aside hmode, ?heard, ?flag, ?equipped⟩
  case heard =>
    rw [List.append_nil]
    unfold putAside
    split <;> rfl
  case flag =>
    unfold putAside
    split <;> rfl
  case equipped =>
    unfold putAside
    split <;> rfl

theorem exec_nowhere (E : Engine σ) {db : Database σ} (sql : String) (params : Params)
    (h : db.options.dryRun = false ∧ db.options.debugLog = false) (hengine : db.engine = none) :
    exec E sql params db = (none, { keep ⟨sql, params⟩ db with
      softError := some (.ofError (.engine "no engine session" none)) }) := by
  obtain ⟨o, engine, _, _, _, _, _⟩ := db
  cases hengine
  unfold exec runExecuted run attempt
  dsimp only at h ⊢
  simp only [h.1, h.2, Bool.false_eq_true, if_false]
  rfl

theorem exec_given (E : Engine σ) {db : Database σ} (sql : String) (params : Params)
    (h : db.options.dryRun = false ∧ db.options.debugLog = false) {s : σ}
    (hengine : db.engine = some s) :
    exec E sql params db = match E.execute sql params s with
      | (.ok r, next) => (some (.ofRowSet sql r),
          { keep ⟨sql, params⟩ db with engine := some next, softError := none })
      | (.error e, next) => (none,
          { keep ⟨sql, params⟩ db with engine := some next, softError := some (.ofError e) }) := by
  obtain ⟨o, engine, _, _, _, _, _⟩ := db
  cases hengine
  unfold exec runExecuted run attempt
  dsimp only at h ⊢
  simp only [h.1, h.2, Bool.false_eq_true, if_false]
  rcases hcall : E.execute sql params s with ⟨e | r, next⟩
  · simp only [ask, hcall]
    rfl
  · simp only [ask, hcall]
    rfl

theorem ran_exec (E : Engine σ) (c : Compiled) (db : Database (σ × List Heard)) :
    ∃ calls, Ran c db (exec E.watched c.sql c.params db) calls := by
  by_cases hmode : db.options.dryRun = true ∨ db.options.debugLog = true
  · rw [exec_aside hmode]
    exact ⟨[], ran_aside hmode⟩
  have hruns : db.options.dryRun = false ∧ db.options.debugLog = false := by simpa using hmode
  rcases hengine : db.engine with _ | s
  · rw [exec_nowhere E.watched c.sql c.params hruns hengine]
    exact ⟨[], .nowhere hruns hengine, (List.append_nil _).symm, rfl, rfl⟩
  · have hthere : db.engine.isSome = true := by rw [hengine]; rfl
    have hheard : db.heard = s.2 := by unfold heard; rw [hengine]; rfl
    rw [exec_given E.watched c.sql c.params hruns hengine]
    dsimp only [Engine.watched, Engine.watch]
    rcases E.execute c.sql c.params s.1 with ⟨e | r, next⟩
    · refine ⟨[⟨_, some e⟩], .given hruns hthere rfl rfl rfl, ?_, rfl, hthere.symm⟩
      rw [hheard]
      rfl
    · refine ⟨[⟨_, none⟩], .given hruns hthere rfl rfl rfl, ?_, rfl, hthere.symm⟩
      rw [hheard]
      rfl

theorem Once.no_bracket {c : Compiled} {db : Database (σ × List Heard)}
    {after : Option Executed × Database (σ × List Heard)} {calls : List Heard}
    (h : Once c db after calls) : ∀ call ∈ calls, call.request.isBracket = false := by
  cases h with
  | given => exact List.forall_mem_singleton.2 rfl
  | _ => exact nofun

/-! ## The transaction around it -/

theorem begin_refused {E : Engine σ} {db began : Database σ} {e : Error}
    (h : begin E db = (.error e, began)) : began = { db with engine := began.engine } := by
  unfold begin at h
  split at h
  · cases h
  · split at h <;> cases h
    rfl

theorem begin_done {E : Engine σ} {db began : Database σ} (hengine : db.engine.isSome = true)
    (h : begin E db = (.ok (), began)) :
    began = { db with engine := began.engine, inTransaction := true } := by
  unfold begin at h
  split at h
  · rename_i hnone
    rw [hnone] at hengine
    cases hengine
  · split at h <;> cases h
    rfl

theorem finish_eq (call : EngineCall σ Unit) (db : Database σ) :
    (finish call db).2 =
      { db with engine := (finish call db).2.engine, inTransaction := false } := by
  obtain ⟨_, engine, _, _, _, _, _⟩ := db
  cases engine <;> rfl

/-- The call that ends the transaction around a statement. -/
theorem finish_either (E : Engine σ) (db : Database (σ × List Heard)) :
    (if db.softError.isSome then rollback E.watched db else commit E.watched db) =
      finish (Engine.watch (if db.softError.isSome then .rollback else .commit)
        (if db.softError.isSome then E.rollback else E.commit)) db := by
  cases db.softError.isSome <;> rfl

/-- The statement was run in a transaction of its own: that began, it was committed or, when the
statement left a failure behind, rolled back, and nothing else was asked about transactions. -/
inductive Enclosed (c : Compiled) (db : Database (σ × List Heard)) :
    Except Error (Option Executed) × Database (σ × List Heard) → Prop
  | run {began mid after : Database (σ × List Heard)} {executed : Option Executed}
      {calls : List Heard} {ended : Except Error Unit}
      (hbegan : began = { db with engine := began.engine, inTransaction := true })
      (hran : Ran c began (executed, mid) calls)
      (hplain : ∀ call ∈ calls, call.request.isBracket = false)
      (hafter : after = { mid with engine := after.engine, inTransaction := false })
      (hheard : after.heard = db.heard ++ ⟨.begin, none⟩ :: calls ++
        [⟨if mid.softError.isSome then .rollback else .commit, Engine.error? ended⟩]) :
      Enclosed c db (ended.map fun _ => executed, after)

theorem Enclosed.flag {c : Compiled} {db : Database (σ × List Heard)}
    {after : Except Error (Option Executed) × Database (σ × List Heard)}
    (h : Enclosed c db after) : after.2.inTransaction = false := by
  cases h with
  | run _ _ _ hafter _ => rw [hafter]

theorem enclosed_of_begun (E : Engine σ) {c : Compiled} {db began : Database (σ × List Heard)}
    (hengine : db.engine.isSome = true) (hbegun : begin E.watched db = (.ok (), began)) :
    Enclosed c db
      (let (executed, mid) := exec E.watched c.sql c.params began
       let (ended, after) := if mid.softError.isSome then rollback E.watched mid
         else commit E.watched mid
       (ended.map fun _ => executed, after)) := by
  obtain ⟨hheard, hequipped, -⟩ := begin_heard E hengine
  rw [hbegun] at hheard hequipped
  obtain ⟨calls, hran⟩ := ran_exec E c began
  generalize exec E.watched c.sql c.params began = run at hran ⊢
  obtain ⟨executed, mid⟩ := run
  have hmid : mid.engine.isSome = true := hran.equipped.trans hequipped
  have hsofar : mid.heard = db.heard ++ ⟨.begin, none⟩ :: calls := by
    rw [show mid.heard = began.heard ++ calls from hran.heard, hheard, List.append_assoc]
    rfl
  dsimp only
  rw [finish_either]
  refine .run (begin_done hengine hbegun) hran hran.once.no_bracket (finish_eq _ mid) ?_
  rw [← hsofar]
  exact (finish_heard _ _ hmid).1

/-- Where an engine has no transaction open, a statement with a hook leaves none open, whatever
fails: either the begin was refused, and that is all that happened, or hook and statement were run
once, between the begin and one commit, or one rollback when the statement left a failure behind.
Without an engine, or in an open transaction, hook and statement are run once and no transaction
begins or ends. The hook may do more than amend bindings, and watching changes nothing. -/
theorem statements_with_hooks_bracket_themselves (E : Engine σ) (sql : String) (params : Params)
    (hook : Params → τ → Params × τ) (own : τ) (db : Database (σ × List Heard)) :
    let c : Compiled := ⟨sql, (hook params own).1⟩
    let after := execWithOwn E.watched sql params hook own db
    (db.engine.isSome = true → db.inTransaction = false →
      after.1.2.inTransaction = false ∧
      ((∃ e, after = ((.error e, { db with engine := after.1.2.engine }), own) ∧
          after.1.2.heard = db.heard ++ [⟨.begin, some e⟩]) ∨
        (Enclosed c db after.1 ∧ after.2 = (hook params own).2))) ∧
    (db.engine = none ∨ db.inTransaction = true →
      after.1.2.inTransaction = db.inTransaction ∧ after.2 = (hook params own).2 ∧
      ∃ executed calls, after.1.1 = .ok executed ∧ Ran c db (executed, after.1.2) calls ∧
        ∀ call ∈ calls, call.request.isBracket = false) ∧
    after.1 = execWith E.watched sql params (fun params => (hook params own).1) db ∧
    execWith E sql params (fun params => (hook params own).1) db.unwatched =
      (after.1.1, after.1.2.unwatched) := by
  intro c after
  refine ⟨fun hengine hout => ?_, fun hjoined => ?_, execWithOwn_fst, ?_⟩
  · rcases hbegin : begin E.watched db with ⟨e | _, began⟩
    · have hafter : after = ((.error e, began), own) := execWithOwn_refused hengine hout hbegin
      have hheard := (begin_heard E hengine).1
      rw [hbegin] at hheard
      rw [hafter]
      refine ⟨?_, .inl ⟨e, ?_, hheard⟩⟩
      · rw [begin_refused hbegin]
        exact hout
      · exact congrArg (fun db => ((_, db), own)) (begin_refused hbegin)
    · have henclosed := enclosed_of_begun E (c := c) hengine hbegin
      have hafter : after = (_, (hook params own).2) := execWithOwn_begun hengine hout hbegin
      rw [hafter]
      exact ⟨henclosed.flag, .inr ⟨henclosed, rfl⟩⟩
  · have hafter : after = (always (exec E.watched c.sql c.params) db, (hook params own).2) :=
      execWithOwn_joined hjoined
    obtain ⟨calls, hran⟩ := ran_exec E c db
    rw [hafter]
    exact ⟨hran.flag, rfl, _, calls, rfl, hran, hran.once.no_bracket⟩
  · have hfst : after.1 = execWith E.watched sql params (fun params => (hook params own).1) db :=
      execWithOwn_fst
    rw [hfst]
    exact mirrors_execWith E sql params _ db

/-- An engine that begins, fails at the statement, and then cannot roll back. -/
def failingTwice : Database Script :=
  ofOptions Options.default (some ⟨[.error (.engine "no such table: t" (some "1"))],
    [.ok (), .error (.engine "disk I/O error" (some "10"))], .ok .null, ⟨"", "", "", "", "", ""⟩⟩)

/-- A hook that binds a value, and counts its runs. -/
def countingHook (params : Params) (runs : Nat) : Params × Nat :=
  (Entries.insert params ":id" ⟨.int 7, .int⟩, runs + 1)

theorem failing_statement_brackets_itself :
    let bound : Params := [(":id", ⟨.int 7, .int⟩)]
    let alone := execWithOwn Engine.scripted.watched "DELETE FROM t WHERE id = :id" []
      countingHook 0 failingTwice.watched
    let joined := execWithOwn Engine.scripted.watched "DELETE FROM t WHERE id = :id" []
      countingHook 0 { failingTwice.watched with inTransaction := true }
    alone.1.1 = .error (.engine "disk I/O error" (some "10")) ∧
      alone.1.2.heard = [⟨.begin, none⟩,
        ⟨.execute "DELETE FROM t WHERE id = :id" bound,
          some (.engine "no such table: t" (some "1"))⟩,
        ⟨.rollback, some (.engine "disk I/O error" (some "10"))⟩] ∧
      alone.1.2.inTransaction = false ∧ alone.2 = 1 ∧
      joined.1.2.inTransaction = true ∧ joined.2 = 1 ∧ joined.1.2.heard.length = 1 := by
  intro bound alone joined
  obtain ⟨hown, -⟩ := statements_with_hooks_bracket_themselves Engine.scripted
    "DELETE FROM t WHERE id = :id" [] countingHook 0 failingTwice.watched
  obtain ⟨-, hopen, -⟩ := statements_with_hooks_bracket_themselves Engine.scripted
    "DELETE FROM t WHERE id = :id" [] countingHook 0
    { failingTwice.watched with inTransaction := true }
  obtain ⟨hkept, hruns, -⟩ := hopen (.inr rfl)
  exact ⟨rfl, rfl, (hown rfl rfl).1, rfl, hkept, hruns, rfl⟩

end StructuredSql.Database
