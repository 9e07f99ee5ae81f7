-- Frames on an octet stream: a length of four octets, least significant first, and a payload
-- of that many octets. The stream is there as a whole, or it is read and written call by call.
import StructuredSql.CallError
import StructuredSql.Octets

namespace StructuredSql.Frame

/-- The octets that hold the length. -/
def prefixLength : Nat := 4

/-- The longest payload that either side takes. -/
def limit : Nat := 268435456

/-- A payload that is too long. -/
def tooLong (n : Nat) : CallError :=
  .transport s!"frame of {n} bytes exceeds the {limit} byte limit"

def endInPrefix : CallError := .transport "stream ended inside a frame prefix"

def endInPayload : CallError :=
  .transport "stream ended inside a frame: failed to fill whole buffer"

/-- A length within the limit. -/
def checked (n : Nat) : Except CallError Nat :=
  if limit < n then .error (tooLong n) else .ok n

/-- The length that the four octets announce. -/
def length (front : List UInt8) : Except CallError Nat := checked (Octets.ofLittle front)

/-- The four octets that announce a payload of `n` octets. -/
def lengthPrefix (n : Nat) : Except CallError (List UInt8) :=
  (checked n).map (Octets.little prefixLength)

/-- The frame of a payload. -/
def write (payload : List UInt8) : Except CallError (List UInt8) :=
  (lengthPrefix payload.length).map fun front => front ++ payload

/-- The first payload on the stream and what follows it; nothing at a clean end. -/
def read (stream : List UInt8) : Except CallError (Option (List UInt8 × List UInt8)) :=
  if stream.isEmpty then .ok none
  else match Octets.take? prefixLength stream with
    | none => .error endInPrefix
    | some (front, rest) =>
      match length front with
      | .error e => .error e
      | .ok n =>
        match Octets.take? n rest with
        | none => .error endInPayload
        | some (payload, rest) => .ok (some (payload, rest))

/-- The payloads on a stream up to its end, and the error that ended it early.
Each frame takes octets, so the length of the stream is fuel enough. -/
def readAllWithin : Nat → List UInt8 → List (List UInt8) × Option CallError
  | 0, _ => ([], none)
  | fuel + 1, stream =>
    match read stream with
    | .error e => ([], some e)
    | .ok none => ([], none)
    | .ok (some (payload, rest)) =>
      let (payloads, e) := readAllWithin fuel rest
      (payload :: payloads, e)

def readAll (stream : List UInt8) : List (List UInt8) × Option CallError :=
  readAllWithin (stream.length + 1) stream

/-- The frames of all payloads, one after the other. -/
def writeAll (payloads : List (List UInt8)) : Except CallError (List UInt8) :=
  payloads.foldlM (fun out p => (write p).map fun f => out ++ f) []

/-! ## Octets call by call -/

/-- What is left in a reader, call by call. A call with more to give than was asked for keeps
the rest for the next one, and an empty one was interrupted. Behind the last is the end. -/
abbrev Pieces := List (List UInt8)

/-- As many octets as were asked for, or all that come before the end. -/
def fill : Nat → Pieces → List UInt8 × Pieces
  | _, [] => ([], [])
  | n, piece :: rest =>
    if n < piece.length then (piece.take n, piece.drop n :: rest)
    else
      let (more, left) := fill (n - piece.length) rest
      (piece ++ more, left)

/-- The next payload and what is left in the reader; nothing at a clean end. -/
def readFrom (pieces : Pieces) : Except CallError (Option (List UInt8 × Pieces)) :=
  let (front, pieces) := fill prefixLength pieces
  if front.isEmpty then .ok none
  else if front.length < prefixLength then .error endInPrefix
  else match length front with
    | .error e => .error e
    | .ok n =>
      let (payload, pieces) := fill n pieces
      if payload.length < n then .error endInPayload else .ok (some (payload, pieces))

/-- Where octets are written to. -/
structure Writer (ω : Type) where
  write : List UInt8 → ω → Except CallError Unit × ω
  flush : ω → Except CallError Unit × ω

namespace Writer

variable {ω : Type}

/-- One frame, its length first. -/
def frame (W : Writer ω) (payload : List UInt8) (out : ω) : Except CallError Unit × ω :=
  match lengthPrefix payload.length with
  | .error e => (.error e, out)
  | .ok front =>
    match W.write front out with
    | (.error e, out) => (.error e, out)
    | (.ok (), out) =>
      match W.write payload out with
      | (.error e, out) => (.error e, out)
      | (.ok (), out) => W.flush out

/-- The writer that takes everything, one behind the other. -/
def stream : Writer (List UInt8) where
  write octets out := (.ok (), out ++ octets)
  flush out := (.ok (), out)

end Writer
end StructuredSql.Frame
