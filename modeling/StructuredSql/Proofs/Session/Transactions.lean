-- Transactions of a session: whatever commands it carries out and whatever the engine makes
-- of them, begin is asked for only while no transaction is open, commit and rollback only
-- while one is, both flags tell whether one is open, and a session that goes away rolls
-- back exactly what it left open.
import StructuredSql.Proofs.Database.Attribution
import StructuredSql.Proofs.Engine.Watched

namespace StructuredSql

namespace Database

variable {σ α : Type}

/-! ## Commands that are no matter of transactions -/

/-- The engine was given calls that are no brackets, and the flag stayed. -/
def Aside (db db' : Database (σ × List Heard)) : Prop :=
  db'.inTransaction = db.inTransaction ∧
    ∃ calls, db'.heard = db.heard ++ calls ∧ ∀ h ∈ calls, h.request.isBracket = false

theorem aside_refl (db : Database (σ × List Heard)) : Aside db db :=
  ⟨rfl, [], (List.append_nil _).symm, fun _ hmem => absurd hmem List.not_mem_nil⟩

theorem aside_attempt (text : String) (c : Compiled) {r : EngineRequest}
    (hr : r.isBracket = false) (call : EngineCall σ α) (db : Database (σ × List Heard)) :
    Aside db (attempt text c (Engine.watch r call) db).2 := by
  obtain ⟨o, engine, statements, queryString, collected, softError, inTransaction⟩ := db
  unfold attempt
  dsimp only
  split
  · exact aside_refl _
  split
  · exact aside_refl _
  unfold ask
  cases engine with
  | none => exact aside_refl _
  | some s =>
    have hplain : ∀ h ∈ [(⟨r, Engine.error? (call s.1).1⟩ : Heard)],
        h.request.isBracket = false := by simpa using hr
    dsimp only [Engine.watch]
    rcases hcall : (call s.1).1 with e | a
    · rw [hcall] at hplain
      exact ⟨rfl, _, rfl, hplain⟩
    · rw [hcall] at hplain
      exact ⟨rfl, _, rfl, hplain⟩

theorem aside_id (E : Engine σ) (sequence : Option String) (db : Database (σ × List Heard)) :
    Aside db (id E.watched sequence db).2 := by
  obtain ⟨o, engine, _, _, _, _, _⟩ := db
  cases engine with
  | none => exact aside_refl _
  | some s => exact ⟨rfl, [_], rfl, by simp [EngineRequest.isBracket]⟩

theorem Served.aside {E : Engine σ} {files : FileTree} {db : Database (σ × List Heard)}
    {cmd : Command} {result : Except CallError Output × Database (σ × List Heard)}
    (h : Served E.watched files db cmd result) : Aside db result.2 := by
  cases h with
  | refused => exact aside_refl db
  | ran _ _ c => exact aside_attempt _ c rfl _ db
  | script h => exact aside_attempt _ _ rfl _ db
  | missing h => exact aside_refl db

end Database

/-- The command begins or ends a transaction. -/
def Command.isControl : Command → Bool
  | .begin => true
  | .commit => true
  | .rollback => true
  | _ => false

theorem Database.aside_execute {σ : Type} (E : Engine σ) (files : FileTree) {cmd : Command}
    (hcmd : cmd.isControl = false) (db : Database (σ × List Heard)) :
    Aside db (execute E.watched files cmd db).2 := by
  rw [execute_snd]
  by_cases hstatement : cmd.executesStatement = true
  · exact (served_answer E.watched files hstatement db).aside
  · cases cmd with
    | begin | commit | rollback => cases hcmd
    | id sequence => exact aside_id E sequence db
    | info | last | log | debugLog | property | ping => exact aside_refl db
    | _ => exact absurd rfl hstatement

namespace Session

variable {σ : Type}

/-! ## What holds between commands -/

/-- There is an engine, its calls so far are bracketed, and both flags tell whether they
left a transaction open. -/
structure Tracks (s : Session (σ × List Heard)) : Prop where
  engine : s.database.engine.isSome = true
  bracketed : Bracketed s.database.heard
  session : s.inTransaction = openAfter s.database.heard
  database : s.database.inTransaction = openAfter s.database.heard

/-- What a command is answered with that does not fit the open transaction, or the lack of
one. -/
def misplaced? (isOpen : Bool) : Command → Option CallError
  | .begin => if isOpen then some .transactionOpen else none
  | .commit => if isOpen then none else some .noTransaction
  | .rollback => if isOpen then none else some .noTransaction
  | _ => none

/-- The call that a command of transactions comes to. -/
def bracket? : Command → Option EngineRequest
  | .begin => some .begin
  | .commit => some .commit
  | .rollback => some .rollback
  | _ => none

/-- The answer that tells whether the engine could do it. -/
def told (error : Option Error) : Except CallError Output :=
  match error with
  | none => .ok .unit
  | some e => .error (.ofError e)

/-- How a command is served after some calls, and the calls after it. A command that does
not fit is refused without a call. One that fits comes to one call, and its answer tells
what came of it. Any other command asks for no bracket. -/
def Turned (calls : List Heard) (cmd : Command) (answer : Except CallError Output)
    (calls' : List Heard) : Prop :=
  match misplaced? (openAfter calls) cmd, bracket? cmd with
  | some e, _ => answer = .error e ∧ calls' = calls
  | none, some r => ∃ error, answer = told error ∧ calls' = calls ++ [⟨r, error⟩]
  | none, none => ∃ more, calls' = calls ++ more ∧ ∀ h ∈ more, h.request.isBracket = false

/-- A session has turned to a command, and still keeps what holds between commands. -/
def Turns (s : Session (σ × List Heard)) (cmd : Command)
    (result : Except CallError Output × Session (σ × List Heard)) : Prop :=
  Turned s.database.heard cmd result.1 result.2.database.heard ∧ result.2.Tracks

/-! ## One command -/

variable (E : Engine σ) (files : FileTree)

/-- Beginning and ending are no statements: what the engine says is the answer. -/
theorem pass_control (op : Database.Op (σ × List Heard) (Except Error Unit)) {cmd : Command}
    (hcmd : cmd.executesStatement = false)
    (h : ∀ db, Database.answer E.watched files cmd db = Database.answering (fun _ => .unit) op db)
    (s : Session (σ × List Heard)) :
    s.pass E.watched files cmd =
      (told (Engine.error? (op s.database).1), { s with database := (op s.database).2 }) := by
  unfold pass Database.execute
  rw [h]
  unfold Database.answering Database.leftBehind
  dsimp only
  rcases op s.database with ⟨e | u, db⟩
  · rfl
  · dsimp only
    rw [if_neg (by rw [hcmd]; exact Bool.false_ne_true)]
    rfl

/-- One more call that may come there, told by both flags. -/
theorem Tracks.after {s : Session (σ × List Heard)} (hs : s.Tracks)
    {db : Database (σ × List Heard)} {h : Heard} (hheard : db.heard = s.database.heard ++ [h])
    (hengine : db.engine.isSome = true) (hfits : h.Fits (openAfter s.database.heard))
    {flag : Bool} (hsession : flag = h.leavesOpen (openAfter s.database.heard))
    (hdatabase : db.inTransaction = h.leavesOpen (openAfter s.database.heard)) :
    Tracks ⟨db, flag⟩ := by
  constructor
  · exact hengine
  · rw [hheard]
    exact hs.bracketed.concat hfits
  · rw [hheard, openAfter_concat]
    exact hsession
  · rw [hheard, openAfter_concat]
    exact hdatabase

theorem turns_begin {s : Session (σ × List Heard)} (hs : s.Tracks) :
    s.Turns .begin (s.execute E.watched files .begin) := by
  have hsession := hs.session
  have hdatabase := hs.database
  obtain ⟨hheard, hengine, hflag⟩ := Database.begin_heard E hs.engine
  unfold Turns Turned execute misplaced?
  dsimp only
  rcases hopen : openAfter s.database.heard with _ | _
  · rw [hopen] at hsession hdatabase
    rw [hdatabase] at hflag
    rw [hsession, if_neg Bool.false_ne_true, if_neg Bool.false_ne_true,
      pass_control E files (Database.begin E.watched) rfl fun _ => rfl]
    rcases herror : Engine.error? (Database.begin E.watched s.database).1 with _ | e
    · rw [herror] at hheard hflag
      refine ⟨⟨none, rfl, hheard⟩, hs.after hheard hengine hopen ?_ ?_⟩
      · rw [hopen]
        rfl
      · rw [hopen]
        exact hflag
    · rw [herror] at hheard hflag
      refine ⟨⟨some e, rfl, hheard⟩, hs.after hheard hengine hopen ?_ ?_⟩
      · rw [hopen]
        exact hsession
      · rw [hopen]
        exact hflag
  · rw [hopen] at hsession
    rw [if_pos hsession, if_pos rfl]
    exact ⟨⟨rfl, rfl⟩, hs⟩

/-- Commit and rollback end a transaction alike. -/
theorem turns_finish {cmd : Command} {r : EngineRequest} {call : EngineCall σ Unit}
    (hcmd : cmd.executesStatement = false)
    (hanswer : ∀ db, Database.answer E.watched files cmd db =
      Database.answering (fun _ => .unit) (Database.finish (Engine.watch r call)) db)
    (hexecute : ∀ s : Session (σ × List Heard), s.execute E.watched files cmd =
      if s.inTransaction then { s with inTransaction := false }.pass E.watched files cmd
      else (.error .noTransaction, s))
    (hmisplaced : ∀ isOpen, misplaced? isOpen cmd = if isOpen then none else some .noTransaction)
    (hbracket : bracket? cmd = some r) (hfits : ∀ e, (⟨r, e⟩ : Heard).Fits true)
    (hends : ∀ e, (⟨r, e⟩ : Heard).leavesOpen true = false)
    {s : Session (σ × List Heard)} (hs : s.Tracks) :
    s.Turns cmd (s.execute E.watched files cmd) := by
  have hsession := hs.session
  obtain ⟨hheard, hengine, hflag⟩ := Database.finish_heard r call hs.engine
  unfold Turns Turned
  rw [hexecute, hmisplaced, hbracket]
  rcases hopen : openAfter s.database.heard with _ | _
  · rw [hopen] at hsession
    rw [hsession, if_neg Bool.false_ne_true, if_neg Bool.false_ne_true]
    exact ⟨⟨rfl, rfl⟩, hs⟩
  · rw [hopen] at hsession
    rw [if_pos hsession, if_pos rfl, pass_control E files _ hcmd hanswer]
    refine ⟨⟨_, rfl, hheard⟩, hs.after hheard hengine ?_ ?_ ?_⟩
    · rw [hopen]
      exact hfits _
    · rw [hopen, hends]
    · rw [hopen, hends]
      exact hflag

theorem turns_other {cmd : Command} (hcmd : cmd.isControl = false)
    {s : Session (σ × List Heard)} (hs : s.Tracks) :
    s.Turns cmd (s.execute E.watched files cmd) := by
  have hpass : s.execute E.watched files cmd = s.pass E.watched files cmd := by
    cases cmd with
    | begin | commit | rollback => cases hcmd
    | _ => rfl
  have hnone : misplaced? (openAfter s.database.heard) cmd = none ∧ bracket? cmd = none := by
    cases cmd with
    | begin | commit | rollback => cases hcmd
    | _ => exact ⟨rfl, rfl⟩
  obtain ⟨hflag, calls, hheard, hplain⟩ := Database.aside_execute E files hcmd s.database
  have hkept := Database.kept_execute E.watched files cmd s.database
  unfold Turns Turned
  rw [hnone.1, hnone.2, hpass]
  refine ⟨⟨calls, hheard, hplain⟩, ?_⟩
  constructor
  · exact hkept.2.trans hs.engine
  · show Bracketed (Database.execute E.watched files cmd s.database).2.heard
    rw [hheard]
    exact hs.bracketed.plain hplain
  · show s.inTransaction = openAfter (Database.execute E.watched files cmd s.database).2.heard
    rw [hheard, openAfter_plain hplain]
    exact hs.session
  · show (Database.execute E.watched files cmd s.database).2.inTransaction = _
    rw [hflag, hs.database]
    show _ = openAfter (Database.execute E.watched files cmd s.database).2.heard
    rw [hheard, openAfter_plain hplain]

/-- One command, whatever it is. -/
theorem turns_execute (cmd : Command) {s : Session (σ × List Heard)} (hs : s.Tracks) :
    s.Turns cmd (s.execute E.watched files cmd) := by
  by_cases hcmd : cmd.isControl = true
  · cases cmd with
    | begin => exact turns_begin E files hs
    | commit =>
      exact turns_finish E files (r := .commit) rfl (fun _ => rfl) (fun _ => rfl) (fun _ => rfl)
        rfl (fun _ => rfl) (fun _ => rfl) hs
    | rollback =>
      exact turns_finish E files (r := .rollback) rfl (fun _ => rfl) (fun _ => rfl) (fun _ => rfl)
        rfl (fun _ => rfl) (fun _ => rfl) hs
    | _ => cases hcmd
  · exact turns_other E files (Bool.eq_false_iff.mpr hcmd) hs

/-! ## Commands one after the other, and the end -/

theorem tracks_run (cmds : List Command) {s : Session (σ × List Heard)} (hs : s.Tracks) :
    (s.run E.watched files cmds).2.Tracks := by
  induction cmds generalizing s with
  | nil => exact hs
  | cons cmd rest ih => exact ih (turns_execute E files cmd hs).2

/-- A session that goes away ends what is open. -/
theorem close_heard {s : Session (σ × List Heard)} (hs : s.Tracks) :
    Bracketed (s.close E.watched).heard ∧
      ∃ error, (s.close E.watched).heard = s.database.heard ++
        if openAfter s.database.heard then [⟨.rollback, error⟩] else [] := by
  have hsession := hs.session
  obtain ⟨hheard, -, -⟩ := Database.finish_heard .rollback E.rollback hs.engine
  unfold close
  rcases hopen : openAfter s.database.heard with _ | _
  · rw [hopen] at hsession
    rw [hsession, if_neg Bool.false_ne_true]
    exact ⟨hs.bracketed, none, (List.append_nil _).symm⟩
  · rw [hopen] at hsession
    rw [if_pos hsession]
    refine ⟨?_, _, hheard⟩
    show Bracketed (Database.finish (Engine.watch .rollback E.rollback) s.database).2.heard
    rw [hheard]
    exact hs.bracketed.concat hopen

/-- The calls that an engine is given while a session carries out commands. -/
def callsIn (cmds : List Command) (s : Session σ) : List Heard :=
  (s.watched.run E.watched files cmds).2.database.heard

/-- The calls that an engine is given while a session carries out commands and goes away. -/
def callsThrough (cmds : List Command) (s : Session σ) : List Heard :=
  ((s.watched.run E.watched files cmds).2.close E.watched).heard

theorem tracks_ofDatabase {db : Database σ} (hengine : db.engine.isSome = true)
    (hidle : db.inTransaction = false) : (ofDatabase db).watched.Tracks := by
  obtain ⟨o, engine, _, _, _, _, inTransaction⟩ := db
  obtain ⟨s, rfl⟩ := Option.isSome_iff_exists.1 hengine
  exact ⟨rfl, bracketed_nil, rfl, hidle⟩

/-- A session takes over a database that has an engine and no open transaction, carries out
commands, and goes away. The engine is asked to begin only while no transaction is open, to
commit and to roll back only while one is, and at the end to roll back exactly when one is.
Between commands both flags tell whether one is open. A command that does not fit is refused
without a call, and one that fits comes to one call. -/
theorem transactions_are_bracketed {db : Database σ} (hengine : db.engine.isSome = true)
    (hidle : db.inTransaction = false) (cmds : List Command) :
    Bracketed ((ofDatabase db).callsThrough E files cmds) ∧
    (∃ error, (ofDatabase db).callsThrough E files cmds =
      (ofDatabase db).callsIn E files cmds ++
        if openAfter ((ofDatabase db).callsIn E files cmds) then [⟨.rollback, error⟩] else []) ∧
    (∀ i, ((ofDatabase db).run E files (cmds.take i)).2.inTransaction =
        openAfter ((ofDatabase db).callsIn E files (cmds.take i)) ∧
      ((ofDatabase db).run E files (cmds.take i)).2.database.inTransaction =
        openAfter ((ofDatabase db).callsIn E files (cmds.take i))) ∧
    ∀ i cmd, cmds[i]? = some cmd →
      ∃ answer, ((ofDatabase db).run E files cmds).1[i]? = some answer ∧
        Turned ((ofDatabase db).callsIn E files (cmds.take i)) cmd answer
          ((ofDatabase db).callsIn E files (cmds.take (i + 1))) := by
  have hstart := tracks_ofDatabase hengine hidle
  have hplain (cmds : List Command) : (ofDatabase db).run E files cmds =
      (((ofDatabase db).watched.run E.watched files cmds).1,
        ((ofDatabase db).watched.run E.watched files cmds).2.unwatched) := by
    have h := run_unwatched E files cmds (ofDatabase db).watched
    rwa [unwatched_watched] at h
  obtain ⟨hbracketed, hend⟩ := close_heard E (tracks_run E files cmds hstart)
  refine ⟨hbracketed, hend, fun i => ?_, fun i cmd hi => ?_⟩
  · have hi := tracks_run E files (cmds.take i) hstart
    rw [hplain]
    exact ⟨hi.session, hi.database⟩
  · have hturns := turns_execute E files cmd (tracks_run E files (cmds.take i) hstart)
    have hanswer := turns_getElem? (execute E.watched files) hi (ofDatabase db).watched
    have hnext := turns_take_succ (execute E.watched files) hi (ofDatabase db).watched
    rw [← run_eq_turns, ← run_eq_turns] at hanswer hnext
    rw [hplain]
    refine ⟨_, hanswer, ?_⟩
    show Turned _ cmd _ (run E.watched files (cmds.take (i + 1)) _).2.database.heard
    rw [hnext]
    exact hturns.1

def busyError : Error := .engine "database is locked" (some "5")

/-- A database whose engine takes the first begin, fails the commit and takes what follows. -/
def busyAtCommit : Database Script :=
  .ofOptions Options.default (some ⟨[], [.ok (), .error busyError], .ok .null,
    ⟨"", "", "", "", "", ""⟩⟩)

/-- After a commit that fails the session counts no transaction as open: the rollback behind it
is refused, and only the transaction that is begun then is left for the end. -/
theorem busyAtCommit_is_bracketed :
    let cmds := [Command.begin, .begin, .commit, .rollback, .begin]
    let calls := (ofDatabase busyAtCommit).callsThrough Engine.scripted FileTree.empty cmds
    Bracketed calls ∧
      calls = [⟨.begin, none⟩, ⟨.commit, some busyError⟩, ⟨.begin, none⟩, ⟨.rollback, none⟩] ∧
      ((ofDatabase busyAtCommit).run Engine.scripted FileTree.empty cmds).1[3]? =
        some (.error .noTransaction) := by
  obtain ⟨hbracketed, -, -, hturned⟩ := transactions_are_bracketed Engine.scripted
    FileTree.empty (show busyAtCommit.engine.isSome = true from rfl) rfl
      [.begin, .begin, .commit, .rollback, .begin]
  obtain ⟨answer, hanswer, hrefused, -⟩ := hturned 3 .rollback rfl
  refine ⟨hbracketed, rfl, ?_⟩
  rw [hanswer, hrefused]

end Session
end StructuredSql
