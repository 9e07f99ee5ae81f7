-- A transport that is watched: it carries what it would carry alone, and beside its state
-- stands every request that it was given, with what came of it. A call on a connection is
-- refused before it gets there, or it is one request more, or it waits for the call that is
-- inside.
import StructuredSql.Connection.Calls

namespace StructuredSql

/-- A request that was given to a transport, and what came of it. -/
abbrev Posted := Request × Trip

/-- What a caller gets who waits for the end, if there is one. -/
def Trip.answer? : Trip → Answer Response
  | .atOnce r => some r
  | .later r => some r
  | .never => none

variable {τ : Type}

/-- The transport with a record of its requests, oldest first. -/
def Transport.watched (T : Transport τ) : Transport (τ × List Posted) where
  roundTrip r t :=
    let (trip, next) := T.roundTrip r t.1
    (trip, (next, t.2 ++ [(r, trip)]))
  shutdown milliseconds t :=
    let (how, next) := T.shutdown milliseconds t.1
    (how, (next, t.2))
  isAlive t := T.isAlive t.1

namespace Link

variable {T : Transport τ} {now : Nat} {r : Request} {l : Link τ}

theorem exchange_held (h : l.held = true) : l.exchange T now r = (none, l) := by
  unfold exchange
  rw [if_pos h]

theorem exchange_refused {e : CallError} (hheld : l.held = false) (h : l.refusal? T = some e) :
    l.exchange T now r = (some (.error e), l) := by
  unfold exchange start
  rw [hheld, if_neg Bool.false_ne_true, h]

/-- An exchange that is let in gives what came of the trip. -/
theorem exchange_of_none (hheld : l.held = false) (h : l.refusal? T = none) (now : Nat)
    (r : Request) :
    (l.exchange T now r).1 = (T.roundTrip r l.transport).1.answer? ∧
      (l.exchange T now r).2.transport = (T.roundTrip r l.transport).2 := by
  unfold exchange start depart
  rw [hheld, if_neg Bool.false_ne_true, h]
  rcases T.roundTrip r l.transport with ⟨_ | _ | _, t⟩ <;>
    exact ⟨by simp only [Trip.answer?], rfl⟩

/-- The link without the record. -/
def unwatched (l : Link (τ × List Posted)) : Link τ :=
  ⟨l.transport.1, l.inFlight, l.closed, l.lastUsed, l.held⟩

theorem exchange_unwatched (T : Transport τ) (now : Nat) (r : Request)
    (l : Link (τ × List Posted)) :
    l.unwatched.exchange T now r =
      ((l.exchange T.watched now r).1, (l.exchange T.watched now r).2.unwatched) := by
  have hrefusal : l.unwatched.refusal? T = l.refusal? T.watched := rfl
  have hcarried : T.watched.roundTrip r l.transport =
      ((T.roundTrip r l.transport.1).1, ((T.roundTrip r l.transport.1).2,
        l.transport.2 ++ [(r, (T.roundTrip r l.transport.1).1)])) := rfl
  cases hheld : l.held with
  | true =>
    rw [exchange_held hheld, exchange_held (T := T) (l := l.unwatched) hheld]
  | false =>
    unfold exchange start depart
    rw [hheld, show l.unwatched.held = false from hheld, hrefusal, hcarried,
      show l.unwatched.transport = l.transport.1 from rfl]
    rcases l.refusal? T.watched with _ | e
    · rcases T.roundTrip r l.transport.1 with ⟨_ | _ | _, t⟩ <;> rfl
    · rfl

end Link

namespace Connection

/-- The connection without the record. -/
def unwatched (c : Connection (τ × List Posted)) : Connection τ where
  options := c.options
  stage :=
    match c.stage with
    | .unconnected => .unconnected
    | .connecting link => .connecting link.unwatched
    | .connected link => .connected link.unwatched
    | .closed link => .closed (link.map Link.unwatched)

/-- Over the watched transport a command is answered as over the transport. -/
theorem call_unwatched (T : Transport τ) (now : Nat) (cmd : Command)
    (c : Connection (τ × List Posted)) :
    call T now cmd c.unwatched =
      ((call T.watched now cmd c).1, (call T.watched now cmd c).2.unwatched) := by
  obtain ⟨o, stage⟩ := c
  cases stage with
  | connected link =>
    have hexchange := Link.exchange_unwatched T now (.call cmd) link
    dsimp only [call, unwatched, Link.call]
    rw [hexchange]
  | unconnected => rfl
  | connecting link => rfl
  | closed link => rfl

/-- Why no command can go out, if none can. -/
def refusal? (T : Transport τ) (c : Connection τ) : Option CallError :=
  match c.stage with
  | .connected link => link.refusal? T
  | stage => some (notConnected stage)

/-- The requests that went out so far. -/
def posted (c : Connection (τ × List Posted)) : List Posted :=
  (c.stage.link?.map fun link => link.transport.2).getD []

/-- A call is inside, and keeps the others out. -/
def isBusy (c : Connection τ) : Bool :=
  match c.stage with
  | .connected link => link.held
  | _ => false

/-- What became of a command that was given to a connection, with the answer to it. -/
inductive Given (T : Transport τ) (cmd : Command) (c : Connection (τ × List Posted)) :
    Connection (τ × List Posted) → Answer Output → Prop
  /-- It was refused, and nothing went out. -/
  | refused (e : CallError) (hfree : c.isBusy = false) (h : c.refusal? T.watched = some e) :
      Given T cmd c c (some (.error e))
  /-- It went out as one request more. -/
  | sent (trip : Trip) (c' : Connection (τ × List Posted)) (hfree : c.isBusy = false)
      (h : c.refusal? T.watched = none) (hposted : c'.posted = c.posted ++ [(.call cmd, trip)]) :
      Given T cmd c c' (trip.answer?.map fun r => r.bind (Link.called cmd))
  /-- It waits for ever behind the call that is inside. -/
  | waits (h : c.isBusy = true) : Given T cmd c c none

/-- A call on a connected connection is an exchange on its link. -/
theorem call_connected (T : Transport τ) (now : Nat) (cmd : Command) (o : Options)
    (link : Link τ) :
    call T now cmd ⟨o, .connected link⟩ =
      ((link.exchange T now (.call cmd)).1.map fun r => r.bind (Link.called cmd),
        ⟨o, .connected (link.exchange T now (.call cmd)).2⟩) := rfl

theorem given_call (T : Transport τ) (now : Nat) (cmd : Command)
    (c : Connection (τ × List Posted)) :
    Given T cmd c (call T.watched now cmd c).2 (call T.watched now cmd c).1 := by
  obtain ⟨o, stage⟩ := c
  cases stage with
  | connected link =>
    rw [call_connected]
    cases hheld : link.held with
    | true =>
      rw [Link.exchange_held hheld]
      exact .waits hheld
    | false =>
      rcases hrefusal : link.refusal? T.watched with _ | e
      · obtain ⟨hanswer, htransport⟩ := Link.exchange_of_none hheld hrefusal now (.call cmd)
        rw [hanswer]
        refine .sent (T.roundTrip (.call cmd) link.transport.1).1 _ hheld hrefusal ?_
        show (link.exchange T.watched now (.call cmd)).2.transport.2 = _
        rw [htransport]
        rfl
      · rw [Link.exchange_refused hheld hrefusal]
        exact .refused e hheld hrefusal
  | unconnected => exact .refused _ rfl rfl
  | connecting link => exact .refused _ rfl rfl
  | closed link => exact .refused _ rfl rfl

/-- The command went out, and was answered as one that succeeds with nothing to tell. -/
def Succeeded (cmd : Command) (c c' : Connection (τ × List Posted)) : Prop :=
  ∃ trip, c'.posted = c.posted ++ [(.call cmd, trip)] ∧
    trip.answer? = some (.ok (.success .unit))

theorem called_eq_ok {cmd : Command} {r : Response} {output : Output}
    (h : Link.called cmd r = .ok output) : r = .success output := by
  cases r with
  | ready => cases h
  | success o => exact congrArg Response.success (Except.ok.inj h)
  | failure f => cases h

theorem Given.succeeded {T : Transport τ} {cmd : Command} {c c' : Connection (τ × List Posted)}
    {answer : Answer Output} (h : Given T cmd c c' answer) (hanswer : answer = some (.ok .unit)) :
    Succeeded cmd c c' := by
  cases h with
  | refused => cases hanswer
  | waits => cases hanswer
  | sent trip _ hfree hnone hposted =>
    refine ⟨trip, hposted, ?_⟩
    rcases htrip : trip.answer? with _ | _ | r
    · rw [htrip] at hanswer
      cases hanswer
    · rw [htrip] at hanswer
      cases hanswer
    · rw [htrip] at hanswer
      rw [called_eq_ok (Option.some.inj hanswer)]

end Connection
end StructuredSql
