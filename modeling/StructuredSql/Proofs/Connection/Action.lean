-- Anything inside a transaction, on a database and on a connection: once the begin has
-- succeeded, an error comes back only behind a rollback that was tried, or from a commit that
-- failed, behind which nothing is tried any more; and success comes back only behind one
-- commit or one rollback that succeeded.
import StructuredSql.Engine.Scripted
import StructuredSql.Proofs.Engine.Watched
import StructuredSql.Proofs.Transport.Watched
import StructuredSql.Transport.Basic

namespace StructuredSql

namespace Database

variable {σ : Type}

/-! ## On a database -/

/-- The engine, if there is one, was given one call more, which gave the answer. The database
no longer counts a transaction as open. -/
def Issued (r : EngineRequest) (db db' : Database (σ × List Heard))
    (answer : Except Error Unit) : Prop :=
  db'.inTransaction = false ∧
    match db.engine with
    | some _ => db'.heard = db.heard ++ [⟨r, Engine.error? answer⟩]
    | none => db'.heard = db.heard ∧ answer = .ok ()

theorem issued_finish (r : EngineRequest) (call : EngineCall σ Unit)
    (db : Database (σ × List Heard)) :
    Issued r db (finish (Engine.watch r call) db).2 (finish (Engine.watch r call) db).1 := by
  obtain ⟨o, engine, _, _, _, _, _⟩ := db
  cases engine with
  | none => exact ⟨rfl, rfl, rfl⟩
  | some s => exact ⟨rfl, rfl⟩

/-- What was done inside is to be kept: it went well, and did not say false. -/
def Keeps (inner : Except Error Value) : Prop := ∃ v, inner = .ok v ∧ v ≠ .bool false

/-- How a transaction ends around what gave `inner` and left the first database. An error
comes back behind a rollback, or it is the error of the commit, and then that is the last
call; success comes back behind the one call that was due. -/
def Settled (inner : Except Error Value) (db : Database (σ × List Heard))
    (outcome : Except Error Unit × Database (σ × List Heard)) : Prop :=
  (∀ e, outcome.1 = .error e →
    (∃ answer, Issued .rollback db outcome.2 answer ∧
      (inner = .error e ∨ inner = .ok (.bool false) ∧ answer = .error e)) ∨
    (Keeps inner ∧ Issued .commit db outcome.2 (.error e))) ∧
  (outcome.1 = .ok () →
    (Keeps inner ∧ Issued .commit db outcome.2 (.ok ())) ∨
    (inner = .ok (.bool false) ∧ Issued .rollback db outcome.2 (.ok ())))

theorem settled_of_error {e : Error} {db db' : Database (σ × List Heard)}
    {answer : Except Error Unit} (h : Issued .rollback db db' answer) :
    Settled (.error e) db (.error e, db') := by
  refine ⟨fun e' he => ?_, nofun⟩
  cases he
  exact .inl ⟨answer, h, .inl rfl⟩

theorem settled_of_false {db : Database (σ × List Heard)}
    {outcome : Except Error Unit × Database (σ × List Heard)}
    (h : Issued .rollback db outcome.2 outcome.1) : Settled (.ok (.bool false)) db outcome := by
  refine ⟨fun e he => ?_, fun hok => ?_⟩
  · exact .inl ⟨_, h, .inr ⟨rfl, he⟩⟩
  · rw [hok] at h
    exact .inr ⟨rfl, h⟩

theorem settled_of_keeps {inner : Except Error Value} (hinner : Keeps inner)
    {db : Database (σ × List Heard)} {outcome : Except Error Unit × Database (σ × List Heard)}
    (h : Issued .commit db outcome.2 outcome.1) : Settled inner db outcome := by
  refine ⟨fun e he => ?_, fun hok => ?_⟩
  · rw [he] at h
    exact .inr ⟨hinner, h⟩
  · rw [hok] at h
    exact .inl ⟨hinner, h⟩

/-- What went well inside is committed, unless it said false. -/
theorem action_of_keeps {τ : Type} {E : Engine τ} {f : Op τ (Except Error Value)}
    {db began db' : Database τ} {v : Value} (hbegin : begin E db = (.ok (), began))
    (hinner : f began = (.ok v, db')) (hv : v ≠ .bool false) : action E f db = commit E db' := by
  unfold action
  rw [hbegin]
  dsimp only
  rw [hinner]
  split
  · rename_i heq
    cases heq
    exact absurd rfl hv
  · rename_i heq
    cases heq
    rfl
  · rename_i heq
    cases heq

theorem action_of_false {τ : Type} {E : Engine τ} {f : Op τ (Except Error Value)}
    {db began db' : Database τ} (hbegin : begin E db = (.ok (), began))
    (hinner : f began = (.ok (.bool false), db')) : action E f db = rollback E db' := by
  unfold action
  rw [hbegin]
  dsimp only
  rw [hinner]

theorem action_of_error {τ : Type} {E : Engine τ} {f : Op τ (Except Error Value)}
    {db began db' : Database τ} {e : Error} (hbegin : begin E db = (.ok (), began))
    (hinner : f began = (.error e, db')) :
    action E f db = (.error e, (rollback E db').2) := by
  unfold action
  rw [hbegin]
  dsimp only
  rw [hinner]

theorem settled_action (E : Engine σ) (f : Op (σ × List Heard) (Except Error Value))
    {db began : Database (σ × List Heard)} (hbegin : begin E.watched db = (.ok (), began)) :
    Settled (f began).1 (f began).2 (action E.watched f db) := by
  rcases hinner : f began with ⟨e | v, db'⟩
  · rw [action_of_error hbegin hinner]
    exact settled_of_error (issued_finish .rollback E.rollback db')
  · by_cases hfalse : v = .bool false
    · subst hfalse
      rw [action_of_false hbegin hinner]
      exact settled_of_false (issued_finish .rollback E.rollback db')
    · have hkeeps : Keeps (.ok v) := ⟨v, rfl, hfalse⟩
      rw [action_of_keeps hbegin hinner hfalse]
      exact settled_of_keeps hkeeps (issued_finish .commit E.commit db')

end Database

namespace Connection

variable {τ : Type}

/-! ## On a connection -/

/-- What an output is to a caller who wants none. -/
def done (cmd : Command) : Output → Except CallError Unit
  | .unit => .ok ()
  | output => .error (mismatch cmd.name output)

/-- The command was given to the connection, and that is the answer. It went out, unless the
connection takes no command any more: it was closed, its host is gone, or a call was cut off. -/
def Tried (T : Transport τ) (cmd : Command) (c c' : Connection (τ × List Posted))
    (answer : Answer Unit) : Prop :=
  ∃ output, Given T cmd c c' output ∧ answer = output.map fun r => r.bind (done cmd)

theorem tried_ask (T : Transport τ) (now : Nat) (cmd : Command)
    (c : Connection (τ × List Posted)) :
    Tried T cmd c (ask T.watched now unit? cmd c).2 (ask T.watched now unit? cmd c).1 := by
  refine ⟨_, given_call T now cmd c, ?_⟩
  unfold ask
  dsimp only
  congr 1
  funext r
  congr 1
  funext output
  cases output <;> rfl

/-- What was tried and went well was sent and done. -/
theorem Tried.succeeded {T : Transport τ} {cmd : Command} {c c' : Connection (τ × List Posted)}
    (h : Tried T cmd c c' (some (.ok ()))) : Succeeded cmd c c' := by
  obtain ⟨output, hgiven, hanswer⟩ := h
  rcases output with _ | e | output
  · cases hanswer
  · cases hanswer
  · cases output with
    | unit => exact hgiven.succeeded rfl
    | _ => cases hanswer

/-- What was done inside is to be kept: it went well, and did not say false. -/
def Keeps (inner : Answer Value) : Prop := ∃ v, inner = some (.ok v) ∧ v ≠ .bool false

/-- How a transaction ends around what gave `inner` and left the first connection. An error
comes back behind a rollback that was tried, or it is the error of the commit, and then that
is the last command; success comes back behind the one command that was due. -/
def Settled (T : Transport τ) (inner : Answer Value) (c : Connection (τ × List Posted))
    (outcome : Answer Unit × Connection (τ × List Posted)) : Prop :=
  (∀ e, outcome.1 = some (.error e) →
    (∃ answer, Tried T .rollback c outcome.2 (some answer) ∧
      (inner = some (.error e) ∨ inner = some (.ok (.bool false)) ∧ answer = .error e)) ∨
    (Keeps inner ∧ Tried T .commit c outcome.2 (some (.error e)))) ∧
  (outcome.1 = some (.ok ()) →
    (Keeps inner ∧ Succeeded .commit c outcome.2) ∨
    (inner = some (.ok (.bool false)) ∧ Succeeded .rollback c outcome.2))

variable {T : Transport τ} {inner : Answer Value} {c : Connection (τ × List Posted)}
  {outcome : Answer Unit × Connection (τ × List Posted)}

theorem settled_of_never (h : outcome.1 = none) : Settled T inner c outcome := by
  refine ⟨fun e he => ?_, fun hok => ?_⟩
  · cases h.symm.trans he
  · cases h.symm.trans hok

theorem settled_of_error {e : CallError} {c' : Connection (τ × List Posted)}
    {answer : Except CallError Unit} (h : Tried T .rollback c c' (some answer)) :
    Settled T (some (.error e)) c (some (.error e), c') := by
  refine ⟨fun e' he => ?_, fun hok => ?_⟩
  · cases he
    exact .inl ⟨answer, h, .inl rfl⟩
  · cases hok

theorem settled_of_false (h : Tried T .rollback c outcome.2 outcome.1) :
    Settled T (some (.ok (.bool false))) c outcome := by
  refine ⟨fun e he => ?_, fun hok => ?_⟩
  · rw [he] at h
    exact .inl ⟨_, h, .inr ⟨rfl, rfl⟩⟩
  · rw [hok] at h
    exact .inr ⟨rfl, h.succeeded⟩

theorem settled_of_keeps (hinner : Keeps inner) (h : Tried T .commit c outcome.2 outcome.1) :
    Settled T inner c outcome := by
  refine ⟨fun e he => ?_, fun hok => ?_⟩
  · rw [he] at h
    exact .inr ⟨hinner, h⟩
  · rw [hok] at h
    exact .inl ⟨hinner, h.succeeded⟩

theorem settled_action (T : Transport τ) (now : Nat) (f : Op (τ × List Posted) Value)
    {began : Connection (τ × List Posted)}
    (hbegin : begin T.watched now c = (some (.ok ()), began)) :
    Settled T (f began).1 (f began).2 (action T.watched now f c) := by
  unfold action
  rw [hbegin]
  dsimp only
  rcases hinner : f began with ⟨_ | e | v, c'⟩
  · exact settled_of_never rfl
  · have htried : Tried T .rollback c' (rollback T.watched now c').2
        (rollback T.watched now c').1 := tried_ask T now .rollback c'
    dsimp only
    generalize rollback T.watched now c' = rolled at htried
    rcases rolled with ⟨_ | answer, after⟩
    · exact settled_of_never rfl
    · exact settled_of_error htried
  · by_cases hfalse : v = .bool false
    · subst hfalse
      exact settled_of_false (tried_ask T now .rollback c')
    · have hkeeps : Keeps (some (.ok v)) := ⟨v, rfl, hfalse⟩
      have hcommit := settled_of_keeps hkeeps (tried_ask T now .commit c')
      dsimp only
      split
      · rename_i heq
        cases heq
      · rename_i heq
        cases heq
        exact absurd rfl hfalse
      · rename_i heq
        cases heq
        exact hcommit
      · rename_i heq
        cases heq

end Connection

/-- Once the begin of a transaction has succeeded, on a database or on a connection, whatever
is done inside and whatever fails: an error comes back behind a rollback that was tried, or it
is the error of the one commit; success comes back behind one commit or one rollback that
succeeded. -/
theorem actions_settle_their_transactions {σ τ : Type} (E : Engine σ) (T : Transport τ)
    (now : Nat) :
    (∀ (f : Database.Op (σ × List Heard) (Except Error Value)) db began,
      Database.begin E.watched db = (.ok (), began) →
      Database.Settled (f began).1 (f began).2 (Database.action E.watched f db)) ∧
    (∀ (f : Connection.Op (τ × List Posted) Value) c began,
      Connection.begin T.watched now c = (some (.ok ()), began) →
      Connection.Settled T (f began).1 (f began).2 (Connection.action T.watched now f c)) := by
  constructor
  · intro f db began hbegin
    exact Database.settled_action E f hbegin
  · intro f c began hbegin
    exact Connection.settled_action T now f hbegin

/-- An engine that begins, and is locked when it comes to the commit. -/
def lockedAtCommit : Database Script :=
  .ofOptions Options.default (some ⟨[], [.ok (), .error (.engine "database is locked" (some "5"))],
    .ok .null, ⟨"", "", "", "", "", ""⟩⟩)

/-- The same database behind a host that replies as it would. -/
def lockedHost : Replies :=
  ⟨[.response (.success .unit), .response (.failure (.ofError
    (.engine "database is locked" (some "5") none) none))], [], true, []⟩

/-- Over both, the error of the commit comes back. -/
theorem locked_commits_settle :
    let nothing := fun db => (.ok .null, db)
    let link := Link.ofTransport 0 (lockedHost, [])
    let outcome := Database.action Engine.scripted.watched nothing lockedAtCommit.watched
    let proxied := Connection.action Transport.scripted.watched 0
      (fun c => (some (.ok .null), c)) ⟨Options.default, .connected link⟩
    outcome.1 = .error (.engine "database is locked" (some "5")) ∧
      outcome.2.heard = [⟨.begin, none⟩,
        ⟨.commit, some (.engine "database is locked" (some "5"))⟩] ∧
      Database.Settled (.ok .null)
        (Database.begin Engine.scripted.watched lockedAtCommit.watched).2 outcome ∧
      proxied.1 = some (.error (.engine "database is locked" (some "5") none)) ∧
      Connection.Settled Transport.scripted (some (.ok .null))
        (Connection.begin Transport.scripted.watched 0 ⟨Options.default, .connected link⟩).2
        proxied := by
  obtain ⟨hdatabase, hconnection⟩ :=
    actions_settle_their_transactions Engine.scripted Transport.scripted 0
  refine ⟨rfl, rfl, ?_, rfl, ?_⟩
  · exact hdatabase (fun db => (.ok .null, db)) _ _ rfl
  · exact hconnection (fun c => (some (.ok .null), c)) _ _ rfl

/-- A rollback does not stand behind every error: when a commit fails nothing more is asked of
the engine, which may still have the transaction open. -/
theorem locked_commit_is_not_rolled_back :
    ¬ ∀ (f : Database.Op (Script × List Heard) (Except Error Value))
        (db began : Database (Script × List Heard)) (e : Error),
      Database.begin Engine.scripted.watched db = (.ok (), began) →
      (Database.action Engine.scripted.watched f db).1 = .error e →
      ∃ h ∈ (Database.action Engine.scripted.watched f db).2.heard, h.request = .rollback := by
  intro hclaim
  obtain ⟨h, hmem, hrollback⟩ := hclaim (fun db => (.ok .null, db)) lockedAtCommit.watched _
    (.engine "database is locked" (some "5")) rfl rfl
  have hheard : h ∈ [(⟨.begin, none⟩ : Heard),
      ⟨.commit, some (.engine "database is locked" (some "5"))⟩] := hmem
  simp only [List.mem_cons, List.not_mem_nil, or_false] at hheard
  rcases hheard with rfl | rfl
  · cases hrollback
  · cases hrollback

end StructuredSql
