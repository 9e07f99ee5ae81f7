-- What a caller sends to a host and what the host sends back, and the octets in
-- which both travel.
import StructuredSql.Command.Datum
import StructuredSql.Options.Datum
import StructuredSql.Output
import StructuredSql.Failure
import StructuredSql.MessagePack.Encode
import StructuredSql.MessagePack.Decode

namespace StructuredSql

inductive Request
  /-- Open the database: the first message, and only that. -/
  | configure (options : Options)
  | call (cmd : Command)

inductive Response
  /-- The database is open. -/
  | ready
  | success (output : Output)
  | failure (f : Failure)

/-- How many lists and maps may be opened inside each other in a message. -/
def messageRoom : Nat := 1023

/-- The data at the front of a message. What follows it is ignored. -/
def messageDatum? (bs : List UInt8) : Option Datum := (MessagePack.decode? bs).map (·.1)

/-- A message that cannot be read. -/
def undecodable : CallError := .transport "frame decode failed"

namespace Request

def toDatum : Request → Datum
  | configure o => .tagged "Configure" o.toDatum
  | call cmd => .tagged "Call" cmd.toDatum

def ofDatum? (src : Source) (room : Nat) (d : Datum) : Option Request :=
  match Datum.case? src ["Configure", "Call"] d with
  | some ("Configure", some d) => (Options.ofDatum? src room d).map configure
  | some ("Call", some d) => (Command.ofDatum? src room d).map call
  | _ => none

def encode (r : Request) : List UInt8 := MessagePack.encode r.toDatum

def decode (bs : List UInt8) : Except CallError Request :=
  match (messageDatum? bs).bind (ofDatum? .messagePack messageRoom) with
  | some r => .ok r
  | none => .error undecodable

end Request

namespace Response

def toDatum : Response → Datum
  | ready => .string "Ready"
  | success o => .tagged "Success" o.toDatum
  | failure f => .tagged "Failure" f.toDatum

def ofDatum? (src : Source) (room : Nat) (d : Datum) : Option Response :=
  match Datum.case? src ["Ready", "Success", "Failure"] d with
  | some ("Ready", content) => if Datum.isUnit src content then some ready else none
  | some ("Success", some d) => (Output.ofDatum? src room d).map success
  | some ("Failure", some d) => (Failure.ofDatum? src room d).map failure
  | _ => none

def encode (r : Response) : List UInt8 := MessagePack.encode r.toDatum

def decode (bs : List UInt8) : Except CallError Response :=
  match (messageDatum? bs).bind (ofDatum? .messagePack messageRoom) with
  | some r => .ok r
  | none => .error undecodable

end Response
end StructuredSql
