-- A connection: a link and how far it has come. Closed is the end of it.
import StructuredSql.Link
import StructuredSql.Text.Shown

namespace StructuredSql

/-- How far a connection has come, with the link that it has then. A closed one
keeps what is left of its link, if it ever had one. -/
inductive Stage (τ : Type)
  | unconnected
  /-- The host was started and is not ready yet. -/
  | connecting (link : Link τ)
  | connected (link : Link τ)
  | closed (link : Option (Link τ))

namespace Stage

variable {τ : Type}

def name : Stage τ → String
  | unconnected => "Unconnected"
  | connecting _ => "Connecting"
  | connected _ => "Connected"
  | closed _ => "Closed"

/-- The link, in use or not. -/
def link? : Stage τ → Option (Link τ)
  | unconnected => none
  | connecting link => some link
  | connected link => some link
  | closed link => link

end Stage

structure Connection (τ : Type) where
  options : Options
  stage : Stage τ

namespace Connection

variable {τ α β : Type}

/-- An operation on a connection. -/
abbrev Op (τ α : Type) := Connection τ → Answer α × Connection τ

/-- A connection without a host. -/
def ofOptions (options : Options) : Connection τ := ⟨options, .unconnected⟩

/-! ## What can be seen -/

/-- The host can take commands. -/
def isAlive (T : Transport τ) (c : Connection τ) : Bool :=
  match c.stage with
  | .connected link => link.isAlive T
  | _ => false

/-- When the link was used last, while the connection has one. -/
def lastUsed? (c : Connection τ) : Option Nat :=
  match c.stage with
  | .connecting link => some link.lastUsed
  | .connected link => some link.lastUsed
  | _ => none

/-- Engine, database and stage. -/
def describe (c : Connection τ) : String :=
  "Connection \x7b engine: " ++ c.options.engine.label ++ ", database: "
    ++ Text.shown c.options.database ++ ", state: " ++ c.stage.name ++ " \x7d"

/-! ## Opening and closing -/

/-- A connection over a started transport, once its host is ready. When the host
does not get ready it is shut down and the connection is closed. -/
def connectWith (T : Transport τ) (now : Nat) (options : Options) (t : τ) :
    Answer Unit × Connection τ :=
  match (Link.ofTransport now t).configure T now options with
  | (some (.ok ()), link) => (some (.ok ()), ⟨options, .connected link⟩)
  | (some (.error e), link) =>
    (some (.error e), ⟨options, .closed (some (link.shutdown T options.closeTimeout).2)⟩)
  | (none, link) => (none, ⟨options, .connecting link⟩)

/-- The link is shut down, and the connection closed for good. -/
def close (T : Transport τ) (c : Connection τ) : Except CallError Unit × Connection τ :=
  let shut (link : Link τ) : Except CallError Unit × Connection τ :=
    let (how, link) := link.shutdown T c.options.closeTimeout
    (how.map fun _ => (), { c with stage := .closed (some link) })
  match c.stage with
  | .closed _ => (.ok (), c)
  | .unconnected => (.ok (), { c with stage := .closed none })
  | .connecting link => shut link
  | .connected link => shut link

/-! ## Calls -/

/-- A connection that takes no commands in its stage. -/
def notConnected (stage : Stage τ) : CallError :=
  match stage with
  | .closed _ => Link.closedError
  | stage => .transport s!"connection is {stage.name}"

/-- One command on the host. -/
def call (T : Transport τ) (now : Nat) (cmd : Command) : Op τ Output := fun c =>
  match c.stage with
  | .connected link =>
    let (answer, link) := link.call T now cmd
    (answer, { c with stage := .connected link })
  | stage => (some (.error (notConnected stage)), c)

/-- One command that the caller gives up when he would have to wait; whether it
was through by then. -/
def giveUp (T : Transport τ) (now : Nat) (cmd : Command) (c : Connection τ) :
    Bool × Connection τ :=
  match c.stage with
  | .connected link =>
    let (through, link) := link.giveUp T now (.call cmd)
    (through, { c with stage := .connected link })
  | _ => (true, c)

/-- Two commands of two callers who come at the same time. The second waits until
the first is through. -/
def callBoth (T : Transport τ) (now : Nat) (first second : Command) (c : Connection τ) :
    (Answer Output × Answer Output) × Connection τ :=
  match call T now first c with
  | (some a, c) =>
    let (b, c) := call T now second c
    ((some a, b), c)
  | (none, c) => ((none, none), c)

end Connection
end StructuredSql
