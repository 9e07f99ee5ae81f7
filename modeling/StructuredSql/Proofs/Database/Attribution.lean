-- Whose failure an answer tells of: over a watched engine, the trace of an answer names
-- the command that was served and the statement that the engine refused while it was,
-- and a refused statement is always answered so. One command stands out: the import of a
-- script that is not there runs nothing, and answers with the failure from before.
import StructuredSql.Engine.Scripted
import StructuredSql.Proofs.Database.Serving
import StructuredSql.Proofs.Engine.Watched
import StructuredSql.Proofs.Turns

namespace StructuredSql

/-- The engine refused a statement, and the trace says which. -/
def Traced (answer : Except CallError Output) : Prop :=
  ∃ reason code trace, answer = .error (.engine reason code (some trace))

/-- The answer to a command whose statement the engine refused. -/
def refusal (name : String) (statement : String) (e : Error) : Except CallError Output :=
  .error (.engine e.message e.code? (some (name ++ ": " ++ statement)))

namespace Database

variable {σ α : Type}

/-! ## What was asked for one statement -/

/-- The statement was put aside and nothing is left behind, or it was the one call that
the engine got: what the call failed with is left behind, and the log ends in it. -/
def Asked (c : Compiled) (db : Database (σ × List Heard)) (calls : List Heard)
    (db' : Database (σ × List Heard)) : Prop :=
  db'.heard = db.heard ++ calls ∧
    ((calls = [] ∧ db'.softError = none) ∨
      ∃ h, calls = [h] ∧ h.statement? = some c ∧ db'.softError = h.error.map SoftError.ofError ∧
        db'.last = some (db.compiler.readable c))

theorem last_keep (c : Compiled) (db : Database σ) :
    (keep c db).last = some (db.compiler.readable c) := by
  unfold last keep
  rw [List.getLast?_concat]
  rfl

theorem asked_attempt {db : Database (σ × List Heard)} (hdb : Equipped db) {c : Compiled}
    {r : EngineRequest} (hr : (⟨r, none⟩ : Heard).statement? = some c) (text : String)
    (call : EngineCall σ α) :
    ∃ calls, Asked c db calls (attempt text c (Engine.watch r call) db).2 := by
  obtain ⟨o, engine, statements, queryString, collected, softError, inTransaction⟩ := db
  unfold attempt
  dsimp only
  split
  · exact ⟨[], (List.append_nil _).symm, .inl ⟨rfl, rfl⟩⟩
  · rename_i hrun
    split
    · exact ⟨[], (List.append_nil _).symm, .inl ⟨rfl, rfl⟩⟩
    · cases engine with
      | none => exact absurd (hdb (Bool.eq_false_iff.mpr hrun)) Bool.false_ne_true
      | some s =>
        unfold ask Engine.watch
        dsimp only
        refine ⟨[⟨r, Engine.error? (call s.1).1⟩], ?_⟩
        rcases call s.1 with ⟨e | a, next⟩
        · exact ⟨rfl, .inr ⟨_, rfl, hr, rfl, last_keep c _⟩⟩
        · exact ⟨rfl, .inr ⟨_, rfl, hr, rfl, last_keep c _⟩⟩

/-! ## One command -/

/-- A script is to be run that is not there, while an earlier failure still stands. -/
def Stale (files : FileTree) (cmd : Command) (db : Database σ) : Prop :=
  ImportsMissing files cmd ∧ db.softError.isSome = true

/-- The answer is traced when, and only when, the engine refused a statement in one of
the calls, and then it is the refusal of that statement under the command's name. -/
def Attributed (db : Database σ) (cmd : Command) (answer : Except CallError Output)
    (calls : List Heard) : Prop :=
  (Traced answer ↔ ∃ h ∈ calls, ∃ c e, h.FailedStatement c e) ∧
    ∀ h ∈ calls, ∀ c e, h.FailedStatement c e →
      answer = refusal cmd.name (db.compiler.readable c) e

/-- No call was made, and the answer tells of the failure that stood before. -/
def Misattributed (db : Database σ) (cmd : Command) (answer : Except CallError Output)
    (calls : List Heard) : Prop :=
  calls = [] ∧ ∃ e, db.softError = some e ∧
    answer = .error (.engine e.message e.code (some (db.trace cmd.name)))

/-- What was left behind a command that executes a statement decides about its answer. -/
def settled (db : Database σ) (cmd : Command) (output : Output) : Except CallError Output :=
  match db.softError with
  | some e => .error (.engine e.message e.code (some (db.trace cmd.name)))
  | none => .ok output

theorem execute_of_error {E : Engine σ} {files : FileTree} {cmd : Command}
    {db db' : Database σ} {e : CallError} (h : answer E files cmd db = (.error e, db')) :
    execute E files cmd db = (.error e, db') := by
  unfold execute
  rw [h]

theorem execute_of_ok {E : Engine σ} {files : FileTree} {cmd : Command}
    (hcmd : cmd.executesStatement = true) {db db' : Database σ} {output : Output}
    (h : answer E files cmd db = (.ok output, db')) :
    execute E files cmd db = (settled db' cmd output, db') := by
  unfold execute settled leftBehind
  rw [h]
  dsimp only
  rw [if_pos hcmd]
  cases db'.softError <;> rfl

theorem not_traced_ofError (e : Error) : ¬ Traced (.error (.ofError e)) := by
  rintro ⟨reason, code, trace, h⟩
  cases e <;> cases h

theorem not_traced_ok (output : Output) : ¬ Traced (.ok output) := by
  rintro ⟨reason, code, trace, h⟩
  cases h

theorem attributed_nil {db : Database σ} {cmd : Command} {answer : Except CallError Output}
    (h : ¬ Traced answer) : Attributed db cmd answer [] :=
  ⟨⟨fun ht => absurd ht h, fun ⟨_, hmem, _⟩ => absurd hmem List.not_mem_nil⟩,
    fun _ hmem => absurd hmem List.not_mem_nil⟩

theorem Asked.attributed {c : Compiled} {db db' : Database (σ × List Heard)} {calls : List Heard}
    (h : Asked c db calls db') (cmd : Command) (output : Output) :
    Attributed db cmd (settled db' cmd output) calls := by
  obtain ⟨-, ⟨rfl, hnone⟩ | ⟨⟨r, error⟩, rfl, hc, hsoft, hlast⟩⟩ := h
  · unfold settled
    rw [hnone]
    exact attributed_nil (not_traced_ok output)
  · cases error with
    | none =>
      have hanswer : settled db' cmd output = .ok output := by
        unfold settled
        rw [hsoft]
        rfl
      have hfine (c : Compiled) (e : Error) : ¬ (⟨r, none⟩ : Heard).FailedStatement c e :=
        fun hf => nomatch hf.2
      rw [hanswer]
      refine ⟨⟨fun ht => absurd ht (not_traced_ok output), ?_⟩, ?_⟩
      · rintro ⟨h, hmem, c, e, hf⟩
        rw [List.mem_singleton.mp hmem] at hf
        exact absurd hf (hfine c e)
      · intro h hmem c e hf
        rw [List.mem_singleton.mp hmem] at hf
        exact absurd hf (hfine c e)
    | some e =>
      have hanswer : settled db' cmd output = refusal cmd.name (db.compiler.readable c) e := by
        unfold settled trace
        rw [hsoft, hlast]
        rfl
      rw [hanswer]
      refine ⟨⟨fun _ => ⟨_, List.mem_singleton_self _, c, e, hc, rfl⟩, fun _ => ⟨_, _, _, rfl⟩⟩, ?_⟩
      intro h hmem c' e' hf
      rw [List.mem_singleton.mp hmem] at hf
      obtain ⟨hc', he'⟩ := hf
      rw [Option.some.inj (hc.symm.trans hc'), Option.some.inj he']

/-- The calls that were made while a command was served, and the answer that tells of
them: rightly, but for a stale one. -/
def Accounts (files : FileTree) (cmd : Command) (start : Database (σ × List Heard))
    (answer : Except CallError Output) (after : Database (σ × List Heard)) : Prop :=
  ∃ calls, after.heard = start.heard ++ calls ∧
    (¬ Stale files cmd start → Attributed start cmd answer calls) ∧
    (Stale files cmd start → Misattributed start cmd answer calls)

/-- One command that executes a statement, served on a database that can run it. -/
theorem execute_accounts (E : Engine σ) (files : FileTree) {cmd : Command}
    (hcmd : cmd.executesStatement = true) {db : Database (σ × List Heard)} (hdb : Equipped db) :
    Accounts files cmd db (execute E.watched files cmd db).1
      (execute E.watched files cmd db).2 := by
  have hserved := served_answer E.watched files hcmd db
  generalize hresult : answer E.watched files cmd db = result at hserved
  cases hserved with
  | refused _ hcmd e =>
    rw [execute_of_error hresult]
    exact ⟨[], (List.append_nil _).symm, fun _ => attributed_nil (not_traced_ofError e),
      fun hstale => absurd hstale.1 hcmd⟩
  | ran _ hthere c output =>
    rw [execute_of_ok hcmd hresult]
    obtain ⟨calls, h⟩ := asked_attempt hdb (r := .execute c.sql c.params) rfl _
      (E.execute c.sql c.params)
    exact ⟨calls, h.1, fun _ => h.attributed cmd _, fun hstale => absurd hstale.1 hthere⟩
  | @script path sql hread =>
    rw [execute_of_ok hcmd hresult]
    obtain ⟨calls, h⟩ := asked_attempt hdb (r := .batch sql) rfl sql (E.batch sql)
    exact ⟨calls, h.1, fun _ => h.attributed _ _, fun hstale => nomatch hread.symm.trans hstale.1⟩
  | @missing path hread =>
    rw [execute_of_ok hcmd hresult]
    refine ⟨[], (List.append_nil _).symm, ?_⟩
    unfold Stale settled
    cases hsoft : db.softError with
    | none =>
      exact ⟨fun _ => attributed_nil (not_traced_ok _), fun hstale => nomatch hstale.2⟩
    | some e =>
      exact ⟨fun hfresh => absurd ⟨hread, rfl⟩ hfresh, fun _ => ⟨rfl, e, hsoft, rfl⟩⟩

end Database

/-! ## Commands one after the other -/

namespace Session

variable {σ : Type}

/-- The session over the watched engine, before any call. -/
def watched (s : Session σ) : Session (σ × List Heard) := ⟨s.database.watched, s.inTransaction⟩

theorem unwatched_watched (s : Session σ) : s.watched.unwatched = s := by
  unfold watched unwatched
  rw [Database.unwatched_watched]

end Session

open Database

variable {σ : Type}

theorem equipped_watched {db : Database σ} (h : Equipped db) : Equipped db.watched := by
  obtain ⟨o, engine, _, _, _, _, _⟩ := db
  cases engine <;> exact h

/-- Commands carried out on a database. -/
theorem executeAll_accounts (E : Engine σ) (files : FileTree) {db : Database σ} (hdb : Equipped db)
    {cmds : List Command} {i : Nat} {cmd : Command} (hi : cmds[i]? = some cmd)
    (hcmd : cmd.executesStatement = true) :
    ∃ answer, (executeAll E files cmds db).1[i]? = some answer ∧
      Accounts files cmd (executeAll E.watched files (cmds.take i) db.watched).2 answer
        (executeAll E.watched files (cmds.take (i + 1)) db.watched).2 := by
  have hanswers : (executeAll E files cmds db).1 =
      (executeAll E.watched files cmds db.watched).1 := by
    have h := mirrors_executeAll E files cmds db.watched
    rw [unwatched_watched] at h
    rw [h]
  have hstart : Equipped (executeAll E.watched files (cmds.take i) db.watched).2 :=
    (kept_executeAll E.watched files _ _).equipped (equipped_watched hdb)
  have haccounts := execute_accounts E files hcmd hstart
  rw [hanswers]
  simp only [executeAll_eq_turns] at haccounts ⊢
  rw [turns_take_succ _ hi]
  exact ⟨_, turns_getElem? _ hi _, haccounts⟩

/-- Commands carried out in a session. -/
theorem run_accounts (E : Engine σ) (files : FileTree) {s : Session σ} (hs : Equipped s.database)
    {cmds : List Command} {i : Nat} {cmd : Command} (hi : cmds[i]? = some cmd)
    (hcmd : cmd.executesStatement = true) :
    ∃ answer, (s.run E files cmds).1[i]? = some answer ∧
      Accounts files cmd (s.watched.run E.watched files (cmds.take i)).2.database answer
        (s.watched.run E.watched files (cmds.take (i + 1))).2.database := by
  have hanswers : (s.run E files cmds).1 = (s.watched.run E.watched files cmds).1 := by
    have h := Session.run_unwatched E files cmds s.watched
    rw [Session.unwatched_watched] at h
    rw [h]
  have hstart : Equipped (s.watched.run E.watched files (cmds.take i)).2.database :=
    (Session.kept_run E.watched files _ _).equipped (equipped_watched hs)
  have haccounts := execute_accounts E files hcmd hstart
  rw [hanswers]
  simp only [Session.run_eq_turns] at haccounts ⊢
  rw [turns_take_succ _ hi, Session.execute_statement E.watched files hcmd]
  refine ⟨_, turns_getElem? _ hi _, ?_⟩
  rw [Session.execute_statement E.watched files hcmd]
  exact haccounts

/-- Commands are carried out one after the other, on a database or in a session. The answer
to one that executes a statement is traced exactly when the engine was given a statement
and failed while that command was served, and the trace names the command and the
statement. Only the import of a script that is not there, while an earlier failure still
stands, is answered with that failure, though it makes no call. -/
theorem refusals_name_their_command (E : Engine σ) (files : FileTree) {s : Session σ}
    (hs : Equipped s.database) {cmds : List Command} {i : Nat} {cmd : Command}
    (hi : cmds[i]? = some cmd) (hcmd : cmd.executesStatement = true) :
    (∃ answer, (executeAll E files cmds s.database).1[i]? = some answer ∧
      Accounts files cmd (executeAll E.watched files (cmds.take i) s.database.watched).2 answer
        (executeAll E.watched files (cmds.take (i + 1)) s.database.watched).2) ∧
    (∃ answer, (s.run E files cmds).1[i]? = some answer ∧
      Accounts files cmd (s.watched.run E.watched files (cmds.take i)).2.database answer
        (s.watched.run E.watched files (cmds.take (i + 1))).2.database) :=
  ⟨executeAll_accounts E files hs hi hcmd, run_accounts E files hs hi hcmd⟩

def lockedError : Error := .engine "database is locked" (some "5")

/-- A session whose engine refuses the first statement. -/
def lockedSession : Session Script :=
  .ofDatabase (.ofOptions Options.default
    (some ⟨[.error lockedError], [], .ok .null, ⟨"", "", "", "", "", ""⟩⟩))

theorem lockedSession_names_exec :
    (lockedSession.run Engine.scripted FileTree.empty [.ping, .exec "SELECT 1" []]).1[1]? =
      some (refusal "exec" "SELECT 1" lockedError) := by
  have hexec : [Command.ping, .exec "SELECT 1" []][1]? = some (.exec "SELECT 1" []) := rfl
  obtain ⟨-, answer, hanswer, calls, hheard, hfresh, -⟩ :=
    refusals_name_their_command Engine.scripted FileTree.empty (s := lockedSession)
      (fun _ => rfl) hexec rfl
  have hcalls : calls = [⟨.execute "SELECT 1" [], some lockedError⟩] := hheard.symm
  rw [hanswer, (hfresh fun h => h.1).2 _ (hcalls ▸ List.mem_singleton_self _) ⟨"SELECT 1", []⟩
    lockedError ⟨rfl, rfl⟩]
  rfl

/-- No file has the empty path. Its import makes no call, and is answered with the failure
of the statement before it. -/
theorem absent_script_is_blamed :
    (lockedSession.run Engine.scripted FileTree.empty [.exec "SELECT 1" [], .importFile ""]).1[1]? =
      some (refusal "import" "SELECT 1" lockedError) ∧
    (lockedSession.watched.run Engine.scripted.watched FileTree.empty
        [.exec "SELECT 1" [], .importFile ""]).2.database.heard =
      [⟨.execute "SELECT 1" [], some lockedError⟩] :=
  ⟨rfl, rfl⟩

end StructuredSql
