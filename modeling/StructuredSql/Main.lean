-- The worker program: a host on the standard streams. It takes requests as frames
-- from its input and answers each with a frame, until the input or the host ends.
-- It carries statements to no engine beyond the bundled one, and reaches no files.
import StructuredSql.Host
import StructuredSql.Text.Hex

namespace StructuredSql.Worker

/-- The name of a host from 16 octets: five groups of hexadecimal digits. -/
def name (octets : List UInt8) : String :=
  let digits := octets.flatMap Text.Hex.digits
  let group (start count : Nat) := String.ofList ((digits.drop start).take count)
  "-".intercalate [group 0 8, group 8 4, group 12 4, group 16 4, group 20 12]

/-! ## The streams -/

/-- So many octets of the input, or fewer where it ends. -/
def readUpTo (input : IO.FS.Stream) (count : Nat) : IO (List UInt8) := do
  let mut got := ByteArray.empty
  while got.size < count do
    let more ← input.read (USize.ofNat (count - got.size))
    if more.isEmpty then break
    got := got ++ more
  return got.toList

/-- The octets of the next frame, or what there is of them. -/
def readFrame (input : IO.FS.Stream) : IO (List UInt8) := do
  let front ← readUpTo input Frame.prefixLength
  match Frame.length front with
  | .ok n =>
    if front.length < Frame.prefixLength then return front
    else return front ++ (← readUpTo input n)
  | .error _ => return front

/-- What arrives is taken turn by turn. Gives how the host ended. -/
def serve (setting : Host.Setting Memory) (input output : IO.FS.Stream) :
    IO (Except CallError Unit) := do
  let mut host : Host Memory := .waiting
  while !host.isEnded do
    let arrivals := Arrival.ofStream (← readFrame input)
    if arrivals.isEmpty then break
    for a in arrivals do
      let (next, out) := host.turn .frames setting a []
      host := next
      output.write (ByteArray.mk out.toArray)
      output.flush
  return host.outcome

end StructuredSql.Worker

/-- Exits with one when the host failed. -/
def main : IO UInt32 := do
  let octets ← IO.getRandomBytes 16
  let setting := .bundled (StructuredSql.Worker.name octets.toList) .empty
  match ← StructuredSql.Worker.serve setting (← IO.getStdin) (← IO.getStdout) with
  | .ok () => return 0
  | .error _ => return 1
