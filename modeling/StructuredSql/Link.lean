-- A link: a transport that is used for one call at a time. The others wait until
-- the one inside is through. A call that is given up while its response is on the
-- way would leave that response to the next caller, so after it the link refuses
-- all calls.
import StructuredSql.Transport.Basic

namespace StructuredSql

/-- The answer to a call, or nothing for a call that waits for ever. -/
abbrev Answer (α : Type) := Option (Except CallError α)

structure Link (τ : Type) where
  transport : τ
  /-- A request went out and its response was not taken. -/
  inFlight : Bool
  closed : Bool
  /-- When the last response was taken, in milliseconds. -/
  lastUsed : Nat
  /-- A call is inside, and keeps the others out. -/
  held : Bool

namespace Link

variable {τ : Type}

/-- A link over a transport that was started at a time. -/
def ofTransport (now : Nat) (t : τ) : Link τ := ⟨t, false, false, now, false⟩

/-! ## Refusals -/

def closedError : CallError := .transport "connection is closed"

def outOfStep : CallError :=
  .transport "a previous call was cancelled mid-flight; the link is out of sync"

def hostGone : CallError := .transport "host unexpectedly exited"

/-- Why no request may go out, if none may. -/
def refusal? (T : Transport τ) (l : Link τ) : Option CallError :=
  if l.closed then some closedError
  else if l.inFlight then some outOfStep
  else if T.isAlive l.transport then none
  else some hostGone

/-! ## One exchange -/

/-- The request goes out. -/
def depart (T : Transport τ) (r : Request) (l : Link τ) : Trip × Link τ :=
  let (trip, t) := T.roundTrip r l.transport
  (trip, { l with transport := t, inFlight := true })

/-- The response is taken. -/
def arrive (now : Nat) (l : Link τ) : Link τ := { l with inFlight := false, lastUsed := now }

/-- An exchange from where its caller is inside, up to where he waits for the first time. -/
def start (T : Transport τ) (now : Nat) (r : Request) (l : Link τ) : Trip × Link τ :=
  match l.refusal? T with
  | some e => (.atOnce (.error e), l)
  | none =>
    match l.depart T r with
    | (.atOnce answer, l) => (.atOnce answer, l.arrive now)
    | (trip, l) => (trip, l)

/-- An exchange to its end. One who waits for ever does so inside, and those who come
behind him wait for him. -/
def exchange (T : Transport τ) (now : Nat) (r : Request) (l : Link τ) :
    Answer Response × Link τ :=
  if l.held then (none, l)
  else match l.start T now r with
    | (.atOnce answer, l) => (some answer, l)
    | (.later answer, l) => (some answer, l.arrive now)
    | (.never, l) => (none, { l with held := true })

/-- An exchange that its caller gives up when he would have to wait; whether it
was through by then. -/
def giveUp (T : Transport τ) (now : Nat) (r : Request) (l : Link τ) : Bool × Link τ :=
  if l.held then (false, l)
  else match l.start T now r with
    | (.atOnce _, l) => (true, l)
    | (_, l) => (false, l)

/-! ## Calls -/

/-- What the answer to a configuration means. -/
def configured : Response → Except CallError Unit
  | .ready => .ok ()
  | .failure f => .error f.toError
  | .success output => .error (.internal s!"host answered configuration with {output.variant}")

/-- What the answer to a command means. -/
def called (cmd : Command) : Response → Except CallError Output
  | .success output => .ok output
  | .failure f => .error f.toError
  | .ready => .error (.internal s!"host answered {cmd.name} with Ready")

/-- The configuration goes out, and the host is ready. -/
def configure (T : Transport τ) (now : Nat) (options : Options) (l : Link τ) :
    Answer Unit × Link τ :=
  let (answer, l) := l.exchange T now (.configure options)
  (answer.map fun r => r.bind configured, l)

/-- One command on the host. -/
def call (T : Transport τ) (now : Nat) (cmd : Command) (l : Link τ) : Answer Output × Link τ :=
  let (answer, l) := l.exchange T now (.call cmd)
  (answer.map fun r => r.bind (called cmd), l)

/-- The host's input is closed, as soon as the call inside is through, if there is one. Only
the first time has an effect. -/
def shutdown (T : Transport τ) (milliseconds : Nat) (l : Link τ) :
    Except CallError Shutdown × Link τ :=
  if l.closed then (.ok .alreadyExited, l)
  else
    let (how, t) := T.shutdown milliseconds l.transport
    (how, { l with transport := t, closed := true, held := false })

/-- The host can still take commands. One who asks does not wait for a call that is inside:
such a link counts as alive. -/
def isAlive (T : Transport τ) (l : Link τ) : Bool :=
  l.held || (!l.closed && !l.inFlight && T.isAlive l.transport)

end Link
end StructuredSql
