-- A host: it opens one database when it is told to, carries out commands in a
-- session on it, and answers each with one response. It ends with its input, or
-- when its channel fails.
import StructuredSql.Session
import StructuredSql.Message
import StructuredSql.Frame

namespace StructuredSql

/-! ## Channels -/

/-- Where responses go. One that cannot be sent gives the reason. -/
structure Outlet (ω : Type) where
  send : Response → ω → Except CallError Unit × ω

/-- What comes in: a request, or the failure of the channel. -/
abbrev Arrival := Except CallError Request

/-- Responses as frames at the end of an octet stream that takes everything. -/
def Outlet.frames : Outlet (List UInt8) where
  send r out :=
    match Frame.write r.encode with
    | .ok frame => (.ok (), out ++ frame)
    | .error e => (.error e, out)

/-- Responses as messages of their own, whatever their length. -/
def Outlet.messages : Outlet (List (List UInt8)) where
  send r out := (.ok (), out ++ [r.encode])

/-- What arrives on an octet stream: the requests of its frames, and the failure
that ended it early. -/
def Arrival.ofStream (stream : List UInt8) : List Arrival :=
  let (payloads, e) := Frame.readAll stream
  payloads.map Request.decode ++ e.toList.map .error

/-! ## The host -/

inductive Host (σ : Type)
  /-- Nothing is open yet. -/
  | waiting
  | serving (s : Session σ)
  /-- The host is gone. -/
  | ended (outcome : Except CallError Unit)

namespace Host

variable {ω σ : Type}

/-- What a host has around it: its name, the files it can reach, and the engine on
which it opens databases. -/
structure Setting (σ : Type) where
  id : String
  files : FileTree
  engine : Engine σ
  openDatabase : Options → Except Error (Database σ)

/-- The setting of a host with the bundled engine. -/
def Setting.bundled (id : String) (files : FileTree) : Setting Memory :=
  ⟨id, files, Engine.memory, Database.openBundled⟩

/-- The host and what it was at when it failed. -/
def Setting.site (setting : Setting σ) (what : String) : Option String :=
  some (setting.id ++ "/" ++ what)

def received (cmd : Command) : CallError :=
  .internal s!"received {cmd.name} before configuration"

def alreadyConfigured : CallError := .internal "host is already configured"

def unsent (what : String) (e : CallError) : CallError :=
  .transport s!"{what} response could not be sent: {e.reason}"

/-- A failure, sent if that can be done. -/
def report (O : Outlet ω) (setting : Setting σ) (what : String) (e : CallError) (out : ω) : ω :=
  (O.send (.failure (.ofError e (setting.site what))) out).2

/-- A response; in its place, if it cannot be sent, a failure that says so. -/
def deliver (O : Outlet ω) (setting : Setting σ) (what : String) (r : Response) (out : ω) :
    Except CallError Unit × ω :=
  match O.send r out with
  | (.ok (), out) => (.ok (), out)
  | (.error e, out) => O.send (.failure (.ofError (unsent what e) (setting.site what))) out

/-- The response to a command. -/
def respond (setting : Setting σ) (what : String) : Except CallError Output → Response
  | .ok output => .success output
  | .error e => .failure (.ofError e (setting.site what))

/-- The first arrival. Anything but options that open a database ends the host. -/
def configure (O : Outlet ω) (setting : Setting σ) (a : Arrival) (out : ω) :
    Host σ × ω :=
  let giveUp (e : CallError) : Host σ × ω :=
    (.ended (.error e), report O setting "configure" e out)
  match a with
  | .error e => giveUp e
  | .ok (.call cmd) => giveUp (received cmd)
  | .ok (.configure options) =>
    match setting.openDatabase options with
    | .error e => giveUp (.ofError e)
    | .ok db =>
      match O.send .ready out with
      | (.ok (), out) => (.serving (.ofDatabase db), out)
      | (.error e, out) => (.ended (.error e), out)

/-- An arrival while a session is open. -/
def serve (O : Outlet ω) (setting : Setting σ) (s : Session σ) (a : Arrival) (out : ω) :
    Host σ × ω :=
  match a with
  | .error e => (.ended (.error e), report O setting "recv" e out)
  | .ok (.configure _) => (.serving s, report O setting "configure" alreadyConfigured out)
  | .ok (.call cmd) =>
    let (r, s) := s.execute setting.engine setting.files cmd
    match deliver O setting cmd.name (respond setting cmd.name r) out with
    | (.ok (), out) => (.serving s, out)
    | (.error e, out) => (.ended (.error e), out)

/-- One arrival. A host that is gone takes none. -/
def turn (O : Outlet ω) (setting : Setting σ) (a : Arrival) (host : Host σ) (out : ω) :
    Host σ × ω :=
  match host with
  | .waiting => configure O setting a out
  | .serving s => serve O setting s a out
  | .ended outcome => (.ended outcome, out)

/-- How the host ends when its input does. -/
def outcome : Host σ → Except CallError Unit
  | .ended outcome => outcome
  | _ => .ok ()

def isEnded : Host σ → Bool
  | .ended _ => true
  | _ => false

/-- The end of a run: how it ended, what was sent, and what nobody took. -/
structure Run (ω : Type) where
  outcome : Except CallError Unit
  out : ω
  unread : List Arrival

/-- Arrivals up to the end of input or of the host. -/
def run (O : Outlet ω) (setting : Setting σ) : Host σ → List Arrival → ω → Run ω
  | host, [], out => ⟨host.outcome, out, []⟩
  | host, a :: rest, out =>
    if host.isEnded then ⟨host.outcome, out, a :: rest⟩
    else
      let (host, out) := turn O setting a host out
      run O setting host rest out

end Host
end StructuredSql
