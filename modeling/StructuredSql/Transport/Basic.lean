-- A transport: what carries one request to a host and its response back.
import StructuredSql.Message

namespace StructuredSql

/-- How a host was shut down. -/
inductive Shutdown
  /-- It took the end of its input and ended. -/
  | graceful
  /-- It did not end in time and was cut off. -/
  | forced
  /-- It was gone already. -/
  | alreadyExited
deriving DecidableEq, Repr

namespace Shutdown

def name : Shutdown → String
  | graceful => "Graceful"
  | forced => "Forced"
  | alreadyExited => "AlreadyExited"

/-- Every way under its name. -/
def table : List (String × Shutdown) :=
  [("Graceful", graceful), ("Forced", forced), ("AlreadyExited", alreadyExited)]

end Shutdown

/-- What comes of a request. -/
inductive Trip
  /-- The caller never waits. -/
  | atOnce (r : Except CallError Response)
  /-- The caller waits in between, and may give up there. -/
  | later (r : Except CallError Response)
  /-- The caller waits for ever. -/
  | never

/-- A transport with a state of its own. -/
structure Transport (τ : Type) where
  roundTrip : Request → τ → Trip × τ
  /-- Close the host's input and wait for its end, so many milliseconds at most. -/
  shutdown : Nat → τ → Except CallError Shutdown × τ
  isAlive : τ → Bool

/-! ## Without a host

Replies are given from a list, and what was asked is kept on record. -/

inductive Reply
  /-- The response, after a wait. -/
  | response (r : Response)
  /-- An error, without a wait. -/
  | fail (e : CallError)
  /-- No answer at all. -/
  | hang
  /-- The host dies of the request; the reply is given nevertheless. -/
  | die (r : Reply)

namespace Reply

def trip : Reply → Trip
  | response r => .later (.ok r)
  | fail e => .atOnce (.error e)
  | hang => .never
  | die r => r.trip

def isLast : Reply → Bool
  | die _ => true
  | _ => false

end Reply

/-- What a transport was asked. -/
inductive Asked
  | request (r : Request)
  | shutdown (milliseconds : Nat)

/-- Replies and shutdowns that are left, and the record of what was asked. -/
structure Replies where
  replies : List Reply
  shutdowns : List (Except CallError Shutdown)
  isAlive : Bool
  asked : List Asked

namespace Replies

/-- The next reply; ready when none is left. -/
def roundTrip (request : Request) (s : Replies) : Trip × Replies :=
  let s := { s with asked := s.asked ++ [Asked.request request] }
  match s.replies with
  | [] => (.later (.ok .ready), s)
  | r :: rest => (r.trip, { s with replies := rest, isAlive := s.isAlive && !r.isLast })

/-- The next shutdown; a graceful one when none is left. -/
def shutdown (milliseconds : Nat) (s : Replies) : Except CallError Shutdown × Replies :=
  let s := { s with asked := s.asked ++ [Asked.shutdown milliseconds] }
  match s.shutdowns with
  | [] => (.ok .graceful, s)
  | r :: rest => (r, { s with shutdowns := rest })

end Replies

def Transport.scripted : Transport Replies where
  roundTrip := Replies.roundTrip
  shutdown := Replies.shutdown
  isAlive := Replies.isAlive

end StructuredSql
