-- Transports with a host behind them: on a thread of this program, which takes
-- messages of any length, or in a process of its own, which takes frames.
import StructuredSql.Transport.Basic
import StructuredSql.Host

namespace StructuredSql

/-! ## A host on a thread -/

structure Thread (σ : Type) where
  host : Host σ
  /-- The host's input is open. -/
  isOpen : Bool

namespace Thread

variable {σ : Type}

def start : Thread σ := ⟨.waiting, true⟩

def inputClosed : CallError := .transport "host input already closed"

def exited : CallError := .transport "host thread unexpectedly exited"

def isAlive (t : Thread σ) : Bool := t.isOpen && !t.host.isEnded

/-- The response that is read when these messages were sent. -/
def firstResponse : List (List UInt8) → Except CallError Response
  | [] => .error exited
  | message :: _ => Response.decode message

def roundTrip (setting : Host.Setting σ) (r : Request) (t : Thread σ) :
    Except CallError Response × Thread σ :=
  if !t.isOpen then (.error inputClosed, t)
  else if t.host.isEnded then (.error exited, t)
  else
    let (host, sent) := t.host.turn .messages setting (Request.decode r.encode) []
    (firstResponse sent, { t with host := host })

def shutdown (t : Thread σ) : Shutdown × Thread σ :=
  (if t.isAlive then .graceful else .alreadyExited, { t with isOpen := false })

end Thread

/-! ## A host in a process -/

/-- What runs in a process. -/
inductive Child (σ : Type)
  | worker (host : Host σ)
  /-- A program that writes what it reads. -/
  | echo
  | exited

/-- A worker is gone when its host is. -/
def Child.ofHost {σ : Type} (host : Host σ) : Child σ :=
  if host.isEnded then .exited else .worker host

/-- What a child makes of one frame: what it writes, and the child after it. -/
def Child.take {σ : Type} (setting : Host.Setting σ) (frame : List UInt8) :
    Child σ → List UInt8 × Child σ
  | .worker host =>
    let arrivals := Arrival.ofStream frame
    let run := arrivals.foldl (fun s a => s.1.turn .frames setting a s.2) (host, [])
    (run.2, .ofHost run.1)
  | .echo => (frame, .echo)
  | .exited => ([], .exited)

structure Process (σ : Type) where
  child : Child σ
  /-- The child's input is open. -/
  isOpen : Bool

namespace Process

variable {σ : Type}

def inputClosed : CallError := .transport "worker input already closed"

/-- Reading from or writing to the child failed. -/
def exited (reason : String) : CallError :=
  .transport s!"worker process unexpectedly exited: {reason}"

def isAlive (p : Process σ) : Bool :=
  match p.child with
  | .exited => false
  | _ => true

/-- The response at the front of what the child wrote. -/
def firstResponse (stream : List UInt8) : Except CallError Response :=
  match Octets.take? Frame.prefixLength stream with
  | none => .error (exited "early eof")
  | some (front, rest) =>
    match Frame.length front with
    | .error e => .error e
    | .ok n =>
      match Octets.take? n rest with
      | none => .error (exited "early eof")
      | some (payload, _) => Response.decode payload

def roundTrip (setting : Host.Setting σ) (r : Request) (p : Process σ) :
    Except CallError Response × Process σ :=
  match Frame.write r.encode with
  | .error e => (.error e, p)
  | .ok frame =>
    if !p.isOpen then (.error inputClosed, p)
    else if !p.isAlive then (.error (exited "Broken pipe (os error 32)"), p)
    else
      let (written, child) := Child.take setting frame p.child
      (firstResponse written, { p with child := child })

def shutdown (p : Process σ) : Shutdown × Process σ :=
  (if p.isAlive then .graceful else .alreadyExited, ⟨.exited, false⟩)

end Process

/-! ## Either of them -/

inductive Hosted (σ : Type)
  | thread (t : Thread σ)
  | process (p : Process σ)

namespace Hosted

variable {σ : Type}

def roundTrip (setting : Host.Setting σ) (r : Request) :
    Hosted σ → Except CallError Response × Hosted σ
  | .thread t =>
    let (answer, t) := t.roundTrip setting r
    (answer, .thread t)
  | .process p =>
    let (answer, p) := p.roundTrip setting r
    (answer, .process p)

def shutdown : Hosted σ → Shutdown × Hosted σ
  | .thread t =>
    let (how, t) := t.shutdown
    (how, .thread t)
  | .process p =>
    let (how, p) := p.shutdown
    (how, .process p)

def isAlive : Hosted σ → Bool
  | .thread t => t.isAlive
  | .process p => p.isAlive

end Hosted

/-- The transport to a host in a setting. Hosts always end in time. -/
def Transport.hosted {σ : Type} (setting : Host.Setting σ) : Transport (Hosted σ) where
  roundTrip r h :=
    let (answer, h) := h.roundTrip setting r
    (.later answer, h)
  shutdown _ h :=
    let (how, h) := h.shutdown
    (.ok how, h)
  isAlive := Hosted.isAlive

end StructuredSql
