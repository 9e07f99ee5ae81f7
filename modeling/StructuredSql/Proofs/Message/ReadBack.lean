-- Messages read back: a message is read as it was written when it nests no deeper than a reader
-- goes, and not read at all when it nests deeper.
import StructuredSql.Frame
import StructuredSql.Message
import StructuredSql.Proofs.Output.ReadBack

namespace StructuredSql

open Datum (within)
open MessagePack (received Countable)

/-- The data of a message. -/
theorem messageDatum?_encode {d : Datum} (hrange : MessagePack.InRange d) (h : Countable d) :
    messageDatum? (MessagePack.encode d) = some (received d) := by
  unfold messageDatum?
  rw [MessagePack.decode?_encode hrange h, Option.map_some]

/-- A frame has no room for what 32 bits do not count. -/
theorem Frame.countable {d : Datum} (h : (MessagePack.encode d).length ≤ limit) : Countable d :=
  MessagePack.countable_of_length (Nat.lt_of_le_of_lt h (by decide))

namespace Request

/-- How many lists and maps a reader opens inside each other. -/
def nesting : Request → Nat
  | configure _ => 2
  | call cmd => cmd.nesting

/-- The numbers are those of their fields, and every object names each key once. -/
def Lawful : Request → Prop
  | configure o => o.Sized
  | call cmd => cmd.Keyed

theorem ofDatum?_received {r : Request} (h : r.Lawful) (room : Nat) :
    ofDatum? .messagePack room (received r.toDatum) = within r.nesting room r := by
  cases r with
  | configure o =>
    show (Options.ofDatum? .messagePack room (received o.toDatum)).map configure = _
    rw [Options.ofDatum?_received h]
    exact Datum.within_map _ _ _ _
  | call cmd =>
    show (Command.ofDatum? .messagePack room (received cmd.toDatum)).map call = _
    rw [Command.ofDatum?_received h]
    exact Datum.within_map _ _ _ _

theorem inRange_toDatum {r : Request} (h : r.Lawful) : MessagePack.InRange r.toDatum := by
  cases r with
  | configure o => exact Datum.inRange_tagged (Options.inRange_toDatum h)
  | call cmd => exact Datum.inRange_tagged cmd.inRange_toDatum

theorem decode_encode {r : Request} (h : r.Lawful) (hcounted : Countable r.toDatum) :
    decode r.encode = if r.nesting ≤ messageRoom then .ok r else .error undecodable := by
  unfold decode encode
  rw [messageDatum?_encode (inRange_toDatum h) hcounted, Option.bind_some, ofDatum?_received h]
  unfold within
  by_cases hnesting : r.nesting ≤ messageRoom
  · rw [if_pos hnesting, if_pos hnesting]
  · rw [if_neg hnesting, if_neg hnesting]

/-- The request keeps within the limits of a reader and of a frame. -/
structure Travels (r : Request) : Prop where
  nesting : r.nesting ≤ messageRoom
  length : r.encode.length ≤ Frame.limit

theorem Travels.decode {r : Request} (h : r.Travels) (hlawful : r.Lawful) :
    Request.decode r.encode = .ok r := by
  rw [decode_encode hlawful (Frame.countable h.length), if_pos h.nesting]

end Request

namespace Response

def nesting : Response → Nat
  | ready => 0
  | success o => o.nesting
  | failure _ => 1

def Lawful : Response → Prop
  | success o => o.Lawful
  | ready | failure _ => True

theorem ofDatum?_received {r : Response} (h : r.Lawful) (room : Nat) :
    ofDatum? .messagePack room (received r.toDatum) = within r.nesting room r := by
  cases r with
  | ready => exact (Datum.within_zero _ _).symm
  | success o =>
    show (Output.ofDatum? .messagePack room (received o.toDatum)).map success = _
    rw [Output.ofDatum?_received h]
    exact Datum.within_map _ _ _ _
  | failure f =>
    show (Failure.ofDatum? .messagePack room (received f.toDatum)).map failure = _
    rw [Failure.ofDatum?_received]
    exact Datum.within_map _ _ _ _

theorem inRange_toDatum {r : Response} (h : r.Lawful) : MessagePack.InRange r.toDatum := by
  cases r with
  | ready => exact trivial
  | success o => exact Datum.inRange_tagged (Output.inRange_toDatum h)
  | failure f => exact Datum.inRange_tagged f.inRange_toDatum

theorem decode_encode {r : Response} (h : r.Lawful) (hcounted : Countable r.toDatum) :
    decode r.encode = if r.nesting ≤ messageRoom then .ok r else .error undecodable := by
  unfold decode encode
  rw [messageDatum?_encode (inRange_toDatum h) hcounted, Option.bind_some, ofDatum?_received h]
  unfold within
  by_cases hnesting : r.nesting ≤ messageRoom
  · rw [if_pos hnesting, if_pos hnesting]
  · rw [if_neg hnesting, if_neg hnesting]

/-- The response keeps within the limits of a reader and of a frame. -/
structure Travels (r : Response) : Prop where
  nesting : r.nesting ≤ messageRoom
  length : r.encode.length ≤ Frame.limit

theorem Travels.decode {r : Response} (h : r.Travels) (hlawful : r.Lawful) :
    Response.decode r.encode = .ok r := by
  rw [decode_encode hlawful (Frame.countable h.length), if_pos h.nesting]

theorem ready_travels : ready.Travels := ⟨Nat.zero_le _, by decide⟩

end Response

/-! ## Round trips -/

/-- Requests and responses are read as they were written, in every part, or not at all when they
nest deeper than a reader goes. Their numbers are of the size of their fields, no object names a
key twice, and nothing in them is longer than the format counts. -/
theorem a_message_is_read_as_it_was_written :
    (∀ r : Request, r.Lawful → Countable r.toDatum →
      Request.decode r.encode =
        if r.nesting ≤ messageRoom then .ok r else .error undecodable) ∧
    (∀ r : Response, r.Lawful → Countable r.toDatum →
      Response.decode r.encode =
        if r.nesting ≤ messageRoom then .ok r else .error undecodable) := by
  constructor
  · intro r hlawful hcounted
    exact Request.decode_encode hlawful hcounted
  · intro r hlawful hcounted
    exact Response.decode_encode hlawful hcounted

/-- A whole number as a float, one that is no number, octets beside the same text, and a fragment
in the bindings of a fragment. -/
def oddFields : Fields :=
  [("whole", .float ⟨0x3ff0000000000000⟩), ("one", .int 1), ("nan", .float ⟨0x7ff8000000000001⟩),
    ("octets", .bytes [0x61]), ("text", .string "a"),
    ("nested", .raw ⟨":a", [(":a", ⟨.raw ⟨"1", []⟩, .string⟩)]⟩)]

/-- Its conditions are there, and null. -/
def oddUpdate : Request := .call (.update "t" oddFields (some .null))

/-- The keys of a row stay in their order. -/
def twoKeys : Fields := [("z", .null), ("a", .int 300)]

def nullRow : Response := .success (.maybe (some (.object twoKeys)))

theorem oddUpdate_is_read :
    Request.decode oddUpdate.encode = .ok oddUpdate ∧
      Response.decode nullRow.encode = .ok nullRow := by
  obtain ⟨hrequest, hresponse⟩ := a_message_is_read_as_it_was_written
  have hfields : (Entries.keys oddFields).Nodup := by decide
  have hnested : FieldsKeyed oddFields :=
    ⟨trivial, trivial, trivial, trivial, trivial, ⟨trivial, trivial⟩, trivial⟩
  have hconditions : ∀ v ∈ (some Value.null), v.Keyed := by
    rintro v ⟨⟩
    exact trivial
  have hupdate : oddUpdate.Lawful := ⟨⟨hfields, hnested⟩, hconditions⟩
  have hupdateCounted : Countable oddUpdate.toDatum :=
    MessagePack.countable_of_length (by decide +kernel)
  have hkeys : (Entries.keys twoKeys).Nodup := by decide
  have hrow : nullRow.Lawful := by
    rintro v ⟨⟩
    exact ⟨hkeys, trivial, trivial, trivial⟩
  have hrowCounted : Countable nullRow.toDatum :=
    MessagePack.countable_of_length (by decide +kernel)
  constructor
  · rw [hrequest oddUpdate hupdate hupdateCounted, if_pos (by decide)]
  · rw [hresponse nullRow hrow hrowCounted, if_pos (by decide)]

end StructuredSql
