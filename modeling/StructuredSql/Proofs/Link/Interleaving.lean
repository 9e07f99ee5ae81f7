-- Many callers on one link. Calls queue for its lock, and one at a time sends a request,
-- waits for a response and takes the first that it finds. In between, in any order, the
-- host answers or dies, callers give up, and the link is shut down.
import StructuredSql.Link

namespace StructuredSql

/-! ## What is on the way -/

/-- The way to a host and back. Requests and responses keep their order. -/
structure Wire where
  /-- The calls whose requests were sent and not answered, oldest first. -/
  pending : List Nat
  /-- Responses that nobody has read, oldest first: the call whose request each one
  answers, and what reading it gives. -/
  unread : List (Nat × Except CallError Response)
  /-- The host takes and answers no more. -/
  gone : Bool
  /-- What the transport says of the host when it is asked, rightly or not. -/
  alive : Bool

namespace Wire

/-- Nothing is on the way. -/
def Quiet (w : Wire) : Prop := w.pending = [] ∧ w.unread = []

/-- A caller who sends a request begins to wait. What comes of it is a matter of the steps
that follow. -/
def transport : Transport Wire where
  roundTrip _ w := (.never, w)
  shutdown _ w := (.ok .graceful, w)
  isAlive w := w.alive

end Wire

/-! ## Calls -/

/-- How far a call has come. -/
inductive Phase
  | idle
  /-- It waits for the lock. -/
  | queued
  /-- It has the lock and may send. -/
  | departed
  /-- Its request was sent. It has the lock, and waits for a response. -/
  | sent
  /-- It was answered, refused or given up. -/
  | over
deriving DecidableEq, Repr

/-- Who has the lock of a link. -/
inductive Holder
  | call (n : Nat)
  | shutdown
deriving DecidableEq, Repr

/-- A link, who has its lock, and how far each call on it has come. -/
structure World where
  link : Link Wire
  holder : Option Holder
  phase : Nat → Phase

namespace World

/-- A link that was just made. -/
def fresh (now : Nat) (alive : Bool) : World :=
  ⟨.ofTransport now ⟨[], [], false, alive⟩, none, fun _ => .idle⟩

def wire (w : World) : Wire := w.link.transport

/-- A change of what is on the way. -/
def onWire (w : World) (wire : Wire) : World := { w with link := { w.link with transport := wire } }

/-- A call comes to a phase. -/
def come (w : World) (n : Nat) (p : Phase) : World :=
  { w with phase := fun k => if k = n then p else w.phase k }

/-- A call is over. The lock is free, and the link is as given. -/
def leave (w : World) (n : Nat) (l : Link Wire) : World :=
  { w.come n .over with link := l, holder := none }

end World

/-! ## Steps -/

/-- What happens on a link. -/
inductive Event
  | called (n : Nat)
  | departed (n : Nat)
  | refused (n : Nat) (e : CallError)
  | sent (n : Nat)
  /-- The request could not be sent. -/
  | unsent (n : Nat) (e : CallError)
  /-- The host answers the request of a call. -/
  | answered (n : Nat) (a : Except CallError Response)
  /-- A call takes the response to the request of a call. -/
  | handed (n m : Nat) (a : Except CallError Response)
  /-- A call learns that no response will come. -/
  | lost (n : Nat) (e : CallError)
  | cancelled (n : Nat)
  | died
  | observed (alive : Bool)
  | closing (milliseconds : Nat)
  | closed

/-- One step of a link, its host and its callers. Each call has its own request. -/
inductive Step (request : Nat → Request) : World → Event → World → Prop
  | call {w : World} {n : Nat} (h : w.phase n = .idle) :
      Step request w (.called n) (w.come n .queued)
  | depart {w : World} {n : Nat} {l : Link Wire} (now : Nat) (h : w.phase n = .queued)
      (hfree : w.holder = none)
      (hstart : w.link.start Wire.transport now (request n) = (.never, l)) :
      Step request w (.departed n) { w.come n .departed with link := l, holder := some (.call n) }
  | refuse {w : World} {n : Nat} {e : CallError} {l : Link Wire} (now : Nat)
      (h : w.phase n = .queued) (hfree : w.holder = none)
      (hstart : w.link.start Wire.transport now (request n) = (.atOnce (.error e), l)) :
      Step request w (.refused n e) (w.leave n l)
  | send {w : World} {n : Nat} (h : w.phase n = .departed) (hhost : w.wire.gone = false) :
      Step request w (.sent n)
        ((w.come n .sent).onWire { w.wire with pending := w.wire.pending ++ [n] })
  | failToSend {w : World} {n : Nat} (now : Nat) (e : CallError) (h : w.phase n = .departed) :
      Step request w (.unsent n e) (w.leave n (w.link.arrive now))
  | answer {w : World} {n : Nat} {rest : List Nat} (a : Except CallError Response)
      (h : w.wire.pending = n :: rest) (hhost : w.wire.gone = false) :
      Step request w (.answered n a)
        (w.onWire { w.wire with pending := rest, unread := w.wire.unread ++ [(n, a)] })
  | take {w : World} {n m : Nat} {a : Except CallError Response}
      {rest : List (Nat × Except CallError Response)} (now : Nat) (h : w.phase n = .sent)
      (hread : w.wire.unread = (m, a) :: rest) :
      Step request w (.handed n m a)
        (w.leave n ((w.onWire { w.wire with unread := rest }).link.arrive now))
  | lose {w : World} {n : Nat} (now : Nat) (e : CallError) (h : w.phase n = .sent)
      (hread : w.wire.unread = []) (hhost : w.wire.gone = true) :
      Step request w (.lost n e) (w.leave n (w.link.arrive now))
  | cancelQueued {w : World} {n : Nat} (h : w.phase n = .queued) :
      Step request w (.cancelled n) (w.come n .over)
  | cancel {w : World} {n : Nat} (h : w.phase n = .departed ∨ w.phase n = .sent) :
      Step request w (.cancelled n) (w.leave n w.link)
  | die {w : World} :
      Step request w .died (w.onWire { w.wire with pending := [], gone := true })
  | observe {w : World} (alive : Bool) :
      Step request w (.observed alive) (w.onWire { w.wire with alive := alive })
  | close {w : World} (milliseconds : Nat) (hfree : w.holder = none) :
      Step request w (.closing milliseconds)
        { w with
          link := (w.link.shutdown Wire.transport milliseconds).2
          holder := if w.link.closed then none else some .shutdown }
  | finishClosing {w : World} (h : w.holder = some .shutdown) :
      Step request w .closed { w with holder := none }

/-- What happened on a link since it was made, and how things stand. -/
inductive History (request : Nat → Request) : List Event → World → Prop
  | fresh (now : Nat) (alive : Bool) : History request [] (.fresh now alive)
  | snoc {past : List Event} {w w' : World} {e : Event} (h : History request past w)
      (hstep : Step request w e w') : History request (past ++ [e]) w'

end StructuredSql
