-- Many clones of one connection. Calls and closes go through three locks: that of the stage, that
-- of the handle on the link, and that of the link itself. A call looks at the stage and fetches
-- the handle in two steps, so a close may come in between.
import StructuredSql.Connection.Basic
import StructuredSql.Proofs.Link.SingleFlight

namespace StructuredSql.Connection

/-! ## Calls and closes -/

/-- How far a call has come on its way to the link. -/
inductive Approach
  | away
  | come
  /-- It found the connection connected. -/
  | admitted
  /-- It has the link, or was turned away. -/
  | through
deriving DecidableEq, Repr

/-- How far a close has come. -/
inductive Ending
  | away
  | come
  /-- It has closed the stage, and holds its lock. -/
  | marked
  /-- It took the handle, and waits for the lock of the link. -/
  | queued
  /-- It shuts the transport down. -/
  | shutting
  | through
deriving DecidableEq, Repr

/-- A connection that was connected, and all who use it. -/
structure Crowd where
  /-- The stage is closed. -/
  closed : Bool
  /-- The link can be fetched. -/
  handle : Bool
  /-- The close that holds the lock of the stage. -/
  stageLock : Option Nat
  world : World
  approach : Nat → Approach
  ending : Nat → Ending

namespace Crowd

/-- Nobody has come yet. The numbers of calls that the link has seen are taken. -/
def gathered (w : World) : Crowd :=
  ⟨false, true, none, w, fun n => if w.phase n = .idle then .away else .through, fun _ => .away⟩

/-- The connection that all share. -/
def connection (options : Options) (c : Crowd) : Connection Wire :=
  ⟨options, if c.closed then .closed (some c.world.link) else .connected c.world.link⟩

/-- A call comes further. -/
def advance (c : Crowd) (n : Nat) (a : Approach) : Crowd :=
  { c with approach := fun k => if k = n then a else c.approach k }

/-- A close comes further. -/
def proceed (c : Crowd) (k : Nat) (e : Ending) : Crowd :=
  { c with ending := fun j => if j = k then e else c.ending j }

end Crowd

/-! ## Steps -/

/-- What happens on a connection. -/
inductive Incident
  | called (n : Nat)
  | admitted (n : Nat)
  | turnedAway (n : Nat) (e : CallError)
  /-- Something happens on the link. -/
  | onLink (e : Event)
  | closeCalled (k : Nat)
  /-- The stage is closed. -/
  | marked (k : Nat)
  /-- The handle is taken. -/
  | taken (k : Nat)
  /-- The transport is shut down. -/
  | shutDown (k milliseconds : Nat)
  | closeEnded (k : Nat) (r : Except CallError Unit)
  | closeGivenUp (k : Nat)

end Connection

/-- The event is no entry of a call, and no part of a shutdown. -/
def Event.Inner : Event → Prop
  | .called _ | .closing _ | .closed => False
  | _ => True

namespace Connection

/-- One step of the calls and closes on a connection. -/
inductive Happens (options : Options) (request : Nat → Request) :
    Crowd → Incident → Crowd → Prop
  | call {c : Crowd} {n : Nat} (h : c.approach n = .away) :
      Happens options request c (.called n) (c.advance n .come)
  | accept {c : Crowd} {n : Nat} (h : c.approach n = .come) (hfree : c.stageLock = none)
      (hopen : c.closed = false) :
      Happens options request c (.admitted n) (c.advance n .admitted)
  | turnAway {c : Crowd} {n : Nat} (h : c.approach n = .come) (hfree : c.stageLock = none)
      (hclosed : c.closed = true) :
      Happens options request c (.turnedAway n (notConnected (c.connection options).stage))
        (c.advance n .through)
  | enter {c : Crowd} {n : Nat} {w : World} (h : c.approach n = .admitted)
      (hhandle : c.handle = true) (hstep : Step request c.world (.called n) w) :
      Happens options request c (.onLink (.called n)) { c.advance n .through with world := w }
  | findNoLink {c : Crowd} {n : Nat} (h : c.approach n = .admitted) (hhandle : c.handle = false) :
      Happens options request c (.turnedAway n Link.closedError) (c.advance n .through)
  | onLink {c : Crowd} {e : Event} {w : World} (hstep : Step request c.world e w) (h : e.Inner) :
      Happens options request c (.onLink e) { c with world := w }
  | close {c : Crowd} {k : Nat} (h : c.ending k = .away) :
      Happens options request c (.closeCalled k) (c.proceed k .come)
  | findClosed {c : Crowd} {k : Nat} (h : c.ending k = .come) (hfree : c.stageLock = none)
      (hclosed : c.closed = true) :
      Happens options request c (.closeEnded k (.ok ())) (c.proceed k .through)
  | mark {c : Crowd} {k : Nat} (h : c.ending k = .come) (hfree : c.stageLock = none)
      (hopen : c.closed = false) :
      Happens options request c (.marked k)
        { c.proceed k .marked with closed := true, stageLock := some k }
  | take {c : Crowd} {k : Nat} (h : c.ending k = .marked) (hhandle : c.handle = true) :
      Happens options request c (.taken k)
        { c.proceed k .queued with handle := false, stageLock := none }
  | takeNothing {c : Crowd} {k : Nat} (h : c.ending k = .marked) (hhandle : c.handle = false) :
      Happens options request c (.closeEnded k (.ok ()))
        { c.proceed k .through with stageLock := none }
  | shutDown {c : Crowd} {k : Nat} {w : World} (h : c.ending k = .queued)
      (hopen : c.world.link.closed = false)
      (hstep : Step request c.world (.closing options.closeTimeout) w) :
      Happens options request c (.shutDown k options.closeTimeout)
        { c.proceed k .shutting with world := w }
  | findShut {c : Crowd} {k : Nat} {w : World} (h : c.ending k = .queued)
      (hclosed : c.world.link.closed = true)
      (hstep : Step request c.world (.closing options.closeTimeout) w) :
      Happens options request c (.closeEnded k (.ok ())) { c.proceed k .through with world := w }
  | endShutdown {c : Crowd} {k : Nat} {w : World} (how : Except CallError Shutdown)
      (h : c.ending k = .shutting) (hstep : Step request c.world .closed w) :
      Happens options request c (.closeEnded k (how.map fun _ => ()))
        { c.proceed k .through with world := w }
  | giveUpQueued {c : Crowd} {k : Nat} (h : c.ending k = .queued) :
      Happens options request c (.closeGivenUp k) (c.proceed k .through)
  | giveUpShutdown {c : Crowd} {k : Nat} {w : World} (h : c.ending k = .shutting)
      (hstep : Step request c.world .closed w) :
      Happens options request c (.closeGivenUp k) { c.proceed k .through with world := w }

/-- What happened since the connection was connected, and how things stand. The link has a past
of its own by then, in which the host was configured. -/
inductive Story (options : Options) (request : Nat → Request) : List Incident → Crowd → Prop
  | connected {past : List Event} {w : World} (h : History request past w)
      (hopen : w.link.closed = false) : Story options request [] (.gathered w)
  | snoc {past : List Incident} {c c' : Crowd} {i : Incident} (h : Story options request past c)
      (hstep : Happens options request c i c') : Story options request (past ++ [i]) c'

variable {options : Options} {request : Nat → Request}

/-! ## The link of a connection -/

/-- A step leaves the link alone, or it is a step of the link. -/
theorem Happens.world {c c' : Crowd} {i : Incident} (h : Happens options request c i c') :
    c'.world = c.world ∨ ∃ e, Step request c.world e c'.world := by
  cases h with
  | enter _ _ hstep => exact .inr ⟨_, hstep⟩
  | onLink hstep => exact .inr ⟨_, hstep⟩
  | shutDown _ _ hstep => exact .inr ⟨_, hstep⟩
  | findShut _ _ hstep => exact .inr ⟨_, hstep⟩
  | endShutdown _ _ hstep => exact .inr ⟨_, hstep⟩
  | giveUpShutdown _ hstep => exact .inr ⟨_, hstep⟩
  | _ => exact .inl rfl

/-- The link of a connection has a history of its own. -/
theorem Story.history {past : List Incident} {c : Crowd} (h : Story options request past c) :
    ∃ events, History request events c.world := by
  induction h with
  | connected h => exact ⟨_, h⟩
  | snoc _ hstep ih =>
    obtain ⟨events, hevents⟩ := ih
    rcases hstep.world with hsame | ⟨e, hlink⟩
    · rw [hsame]
      exact ⟨events, hevents⟩
    · exact ⟨_, hevents.snoc hlink⟩

namespace Crowd

variable {c : Crowd} {n k : Nat}

theorem approach_advance_self (n : Nat) (a : Approach) : (c.advance n a).approach n = a :=
  if_pos rfl

theorem approach_advance_ne (h : k ≠ n) (a : Approach) :
    (c.advance n a).approach k = c.approach k :=
  if_neg h

theorem ending_proceed_self (k : Nat) (e : Ending) : (c.proceed k e).ending k = e := if_pos rfl

theorem ending_proceed_ne (h : n ≠ k) (e : Ending) : (c.proceed k e).ending n = c.ending n :=
  if_neg h

end Crowd

/-! ## One caller at a time -/

section

variable {τ : Type} {T : Transport τ} {c : Crowd} {past : List Incident} {n k : Nat}

/-- All share a connection over a transport, at a stage where nobody is about to close it. -/
inductive Crowd.Shows (c : Crowd) (T : Transport τ) : Connection τ → Prop
  | connected {o : Options} {link : Link τ} (h : c.world.Shows T link) (hopen : c.closed = false)
      (hhandle : c.handle = true) : c.Shows T ⟨o, .connected link⟩
  | closed {o : Options} {link : Link τ} (h : c.world.Shows T link) (hclosed : c.closed = true) :
      c.Shows T ⟨o, .closed (some link)⟩

/-- A close that closes the connection gets as far as the link. -/
theorem Story.mark (h : Story options request past c) (hk : c.ending k = .away)
    (hlock : c.stageLock = none) (hopen : c.closed = false) (hhandle : c.handle = true) :
    ∃ c', Story options request (past ++ [.closeCalled k, .marked k, .taken k]) c' ∧
      c'.closed = true ∧ c'.world = c.world ∧ c'.ending k = .queued := by
  have hcalled := h.snoc (.close hk)
  have hmarked := hcalled.snoc (.mark (Crowd.ending_proceed_self k _) hlock hopen)
  have htaken := hmarked.snoc (.take (Crowd.ending_proceed_self k _) hhandle)
  simp only [List.append_assoc] at htaken
  exact ⟨_, htaken, rfl, rfl, Crowd.ending_proceed_self k _⟩

/-- A connection is closed by a course of steps in which no other has a part. -/
theorem Story.close {conn : Connection τ} (h : Story conn.options request past c)
    (hshows : c.Shows T conn) (hlock : c.stageLock = none) (hfree : c.world.holder = none)
    (hk : c.ending k = .away) :
    ∃ course c', Story conn.options request (past ++ course) c' ∧ c'.Shows T (conn.close T).2 ∧
      .closeEnded k (conn.close T).1 ∈ course := by
  cases hshows with
  | @closed o link hworld hclosed =>
    have hcalled := h.snoc (.close hk)
    have hended := hcalled.snoc (.findClosed (Crowd.ending_proceed_self k _) hlock hclosed)
    rw [List.append_assoc] at hended
    exact ⟨_, _, hended, .closed hworld hclosed, by simp [Connection.close]⟩
  | @connected o link hworld hopen hhandle =>
    obtain ⟨c₁, htaken, hclosed, hsame, hqueued⟩ := h.mark hk hlock hopen hhandle
    rw [← hsame] at hworld hfree
    have hclosing : Step request c₁.world (.closing o.closeTimeout) _ := .close _ hfree
    rw [Link.shutdown_wire, hworld.closed] at hclosing
    have hclose : Connection.close T ⟨o, .connected link⟩ =
        ((link.shutdown T o.closeTimeout).1.map fun _ => (),
          ⟨o, .closed (some (link.shutdown T o.closeTimeout).2)⟩) := rfl
    cases hlink : link.closed with
    | true =>
      have hshutdown : link.shutdown T o.closeTimeout = (.ok .alreadyExited, link) := if_pos hlink
      rw [hlink] at hclosing
      have hended := htaken.snoc (.findShut hqueued (hworld.closed.trans hlink) hclosing)
      rw [List.append_assoc] at hended
      rw [hclose, hshutdown]
      exact ⟨_, _, hended, .closed ⟨hworld.held, hworld.inFlight, hlink.symm, hworld.alive⟩ hclosed,
        by simp [Except.map]⟩
    | false =>
      have hshutdown : link.shutdown T o.closeTimeout =
          ((T.shutdown o.closeTimeout link.transport).1,
            { link with
              transport := (T.shutdown o.closeTimeout link.transport).2
              closed := true
              held := false }) :=
        if_neg (Bool.eq_false_iff.1 hlink)
      rw [hlink] at hclosing
      have hshut := htaken.snoc (.shutDown hqueued (hworld.closed.trans hlink) hclosing)
      have hseen := hshut.snoc
        (.onLink (.observe (T.isAlive (T.shutdown o.closeTimeout link.transport).2)) trivial)
      have hended := hseen.snoc (.endShutdown (T.shutdown o.closeTimeout link.transport).1
        (Crowd.ending_proceed_self k _) (.finishClosing rfl))
      simp only [List.append_assoc] at hended
      rw [hclose, hshutdown]
      exact ⟨_, _, hended, .closed ⟨rfl, hworld.inFlight, rfl, rfl⟩ hclosed, by simp⟩

/-- A call on a closed connection is turned away, and nothing else happens. -/
theorem Story.call_closed {conn : Connection τ} (h : Story conn.options request past c)
    (hshows : c.Shows T conn) (hclosed : c.closed = true) (hlock : c.stageLock = none)
    (hn : c.approach n = .away) (now : Nat) (cmd : Command) :
    ∃ e c', conn.call T now cmd = (some (.error e), conn) ∧ c'.Shows T conn ∧
      Story conn.options request (past ++ [.called n, .turnedAway n e]) c' := by
  cases hshows with
  | connected _ hopen =>
    rw [hopen] at hclosed
    cases hclosed
  | @closed o link hworld =>
    have haway := (h.snoc (.call hn)).snoc
      (.turnAway (Crowd.approach_advance_self n _) hlock hclosed)
    have hstage : ((c.advance n .come).connection o).stage = .closed (some c.world.link) := by
      simp [Crowd.connection, Crowd.advance, hclosed]
    rw [List.append_assoc, hstage] at haway
    refine ⟨_, _, rfl, ?_, haway⟩
    exact .closed hworld hclosed

end

end StructuredSql.Connection
