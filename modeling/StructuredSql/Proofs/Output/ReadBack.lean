-- Options, answers and failures read back from a message. Options are read by a reader that may
-- open a list inside a record, answers and failures by a reader that may open as many lists and
-- maps as they nest, and by no other.
import StructuredSql.Failure
import StructuredSql.Options.Datum
import StructuredSql.Output
import StructuredSql.Proofs.Command.ReadBack
import StructuredSql.Proofs.Value.ReadBack

namespace StructuredSql

open Datum (within needed most written)
open MessagePack (received)

/-! ## Options -/

theorem Dialect.ofDatum?_received (d : Dialect) :
    ofDatum? .messagePack (received (.string d.name)) = some d := by
  cases d <;> rfl

theorem Isolation.ofDatum?_received (i : Isolation) (room : Nat) :
    ofDatum? .messagePack room (received i.toDatum) = within 1 room i := by
  have hdepth : (received i.toDatum).depth = 1 := by
    rcases i with _ | _ | worker <;> rfl
  unfold ofDatum?
  rw [hdepth]
  cases room with
  | zero => rfl
  | succ inside =>
    rw [if_neg (by omega), Datum.within_succ_succ, Datum.within_zero]
    rcases i with _ | _ | worker <;> rfl

/-! ### Fields -/

namespace Datum

theorem optional?_text (part : Option String) :
    optional? text? ((part.map .string).map received) = some part := by
  cases part <;> rfl

theorem received_int_ne_null (i : Int) : received (.int i) ≠ .null := by
  intro hnull
  have hwhole := MessagePack.receivedInt_whole? i
  rw [show MessagePack.receivedInt i = .null from hnull] at hwhole
  cases hwhole

theorem texts?_received (ss : List String) (room : Nat) :
    texts? room (received (.list (ss.map .string))) = within 1 room ss := by
  have htexts : ((ss.map Datum.string).map received).mapM text? = some ss := by
    rw [List.map_map]
    exact mapM_of_forall fun _ _ => rfl
  rw [received, MessagePack.receivedItems_eq_map]
  show ((list? room (.list _)).bind _) = _
  refine list?_bind_within fun inside _ => ?_
  dsimp only
  rw [htexts, within_zero]

theorem inRange_texts (ss : List String) : MessagePack.InRange (.list (ss.map .string)) := by
  refine itemsInRange fun d hd => ?_
  obtain ⟨s, -, rfl⟩ := List.mem_map.mp hd
  exact trivial

end Datum

theorem Isolation.inRange_toDatum (i : Isolation) : MessagePack.InRange i.toDatum := by
  rcases i with _ | _ | worker
  · exact ⟨trivial, trivial, trivial⟩
  · exact ⟨trivial, trivial, trivial⟩
  · exact ⟨trivial, trivial, trivial, trivial, trivial⟩

namespace Options

/-- The numbers are those of their fields: 16 bits for a port, 64 for a time. -/
structure Sized (o : Options) : Prop where
  port : ∀ p ∈ o.port, p < Nat.pow 2 16
  closeTimeout : o.closeTimeout < Nat.pow 2 64

def parts (o : Options) : List (String × Option Datum) :=
  [("engine", some (.string o.engine.name)), ("database", some (.string o.database)),
    ("host", o.host.map .string), ("port", o.port.map fun p : Nat => .int p),
    ("username", o.username.map .string), ("password", o.password.map .string),
    ("charset", o.charset.map .string), ("collation", o.collation.map .string),
    ("prefix", some (.string o.tablePrefix)), ("logging", some (.bool o.logging)),
    ("dry_run", some (.bool o.dryRun)), ("debug_log", some (.bool o.debugLog)),
    ("commands", some (.list (o.commands.map .string))),
    ("close_timeout_ms", some (.int o.closeTimeout)), ("isolation", some o.isolation.toDatum)]

theorem toDatum_eq_written (o : Options) : o.toDatum = written o.parts := by
  unfold toDatum written parts
  simp only [List.flatMap_cons, List.flatMap_nil, List.append_nil, List.append_assoc]
  cases o.port <;> rfl

theorem ofDatum?_received {o : Options} (h : o.Sized) (room : Nat) :
    ofDatum? .messagePack room (received o.toDatum) = within 2 room o := by
  rw [toDatum_eq_written, Datum.received_written]
  refine Datum.record?_bind_within true (by rfl) (by decide) fun inside _ => ?_
  have hport : Datum.optional? (Datum.natBelow? (Nat.pow 2 16))
      ((o.port.map fun p : Nat => Datum.int p).map received) = some o.port := by
    rcases hp : o.port with _ | p
    · rfl
    · rw [Option.map_some, Option.map_some, Datum.optional?_some (Datum.received_int_ne_null p),
        Datum.natBelow?_received (h.port p hp), Option.map_some]
  have htime := Datum.natBelow?_received h.closeTimeout
  dsimp only [parts, Datum.receivedParts, List.map, Option.map_some, Datum.default?]
  rw [hport, htime, Datum.texts?_received, Isolation.ofDatum?_received]
  simp only [Datum.optional?_text, Dialect.ofDatum?_received]
  show (within 1 inside o.commands).bind (fun commands =>
    (within 1 inside o.isolation).bind fun isolation =>
      some { o with commands := commands, isolation := isolation }) = within (max 1 1) inside o
  exact Datum.within_bind (Datum.within_bind_some _ _ _ _)

theorem inRange_toDatum {o : Options} (h : o.Sized) : MessagePack.InRange o.toDatum := by
  rw [toDatum_eq_written]
  refine Datum.inRange_written fun p hp => ?_
  simp only [parts, List.mem_cons, List.not_mem_nil, or_false] at hp
  have htext (part : Option String) := Datum.inRange_map Datum.inRange_string part
  rcases hp with rfl | rfl | rfl | rfl | rfl | rfl | rfl | rfl | rfl | rfl | rfl | rfl | rfl | rfl |
    rfl
  · exact htext (some _)
  · exact htext (some _)
  · exact htext o.host
  · intro d hd
    rcases hport : o.port with _ | n
    · rw [hport] at hd
      cases hd
    · rw [hport] at hd
      cases hd
      exact MessagePack.fits64_nat (Nat.lt_trans (h.port n hport) (by decide))
  · exact htext o.username
  · exact htext o.password
  · exact htext o.charset
  · exact htext o.collation
  · exact htext (some _)
  · exact Datum.inRange_some trivial
  · exact Datum.inRange_some trivial
  · exact Datum.inRange_some trivial
  · exact Datum.inRange_some (Datum.inRange_texts o.commands)
  · exact Datum.inRange_some (MessagePack.fits64_nat h.closeTimeout)
  · exact Datum.inRange_some o.isolation.inRange_toDatum

end Options

/-! ## Statements that were run -/

namespace Executed

/-- A record, the list of its rows, and the rows. -/
def nesting (e : Executed) : Nat := most Fields.nesting e.rows + 2

/-- Each row names a column once, and the count has 64 bits. -/
structure Lawful (e : Executed) : Prop where
  rows : ∀ row ∈ e.rows, Fields.Keyed row
  affected : e.affected < Nat.pow 2 64

theorem rows?_received {rows : List Fields} (h : ∀ row ∈ rows, Fields.Keyed row) (room : Nat) :
    rows? .messagePack room (received (.list (rows.map Fields.toDatum))) =
      within (most Fields.nesting rows + 1) room rows := by
  rw [received, MessagePack.receivedItems_eq_map, List.map_map]
  show ((Datum.list? room (.list _)).bind _) = _
  refine Datum.list?_bind_within fun inside _ => ?_
  exact Datum.mapM_within fun row hrow => Fields.ofDatum?_received (h row hrow) inside

theorem ofDatum?_received {e : Executed} (h : e.Lawful) (room : Nat) :
    ofDatum? .messagePack room (received e.toDatum) = within e.nesting room e := by
  show ofDatum? .messagePack room (received (written [("query_string", some (.string e.sql)),
    ("columns", some (.list (e.columns.map .string))),
    ("rows", some (.list (e.rows.map Fields.toDatum))),
    ("affected_rows", some (.int e.affected))])) = _
  rw [Datum.received_written]
  refine Datum.record?_bind_within false (by rfl) (by decide) fun inside _ => ?_
  have hmax : max 1 (most Fields.nesting e.rows + 1) = most Fields.nesting e.rows + 1 :=
    Nat.max_eq_right (Nat.le_add_left 1 _)
  show (Datum.texts? inside (received (.list (e.columns.map .string)))).bind (fun columns =>
    (rows? .messagePack inside (received (.list (e.rows.map Fields.toDatum)))).bind fun rows =>
      (Datum.natBelow? (Nat.pow 2 64) (received (.int e.affected))).bind fun affected =>
        some (Executed.mk e.sql columns rows affected)) = _
  rw [Datum.texts?_received, rows?_received h.rows, Datum.natBelow?_received h.affected, ← hmax]
  exact Datum.within_bind (Datum.within_bind_some _ _ _ _)

theorem inRange_toDatum {e : Executed} (h : e.Lawful) : MessagePack.InRange e.toDatum := by
  have hrows : MessagePack.InRange (.list (e.rows.map Fields.toDatum)) := by
    refine Datum.itemsInRange fun d hd => ?_
    obtain ⟨row, -, rfl⟩ := List.mem_map.mp hd
    exact Fields.inRange_toDatum row
  exact ⟨trivial, trivial, trivial, Datum.inRange_texts e.columns, trivial, hrows, trivial,
    MessagePack.fits64_nat h.affected, trivial⟩

end Executed

theorem EngineInfo.ofDatum?_received (i : EngineInfo) (room : Nat) :
    ofDatum? .messagePack room (received i.toDatum) = within 1 room i := by
  show ofDatum? .messagePack room (received (written [("server", some (.string i.server)),
    ("driver", some (.string i.driver)), ("client", some (.string i.client)),
    ("version", some (.string i.version)), ("connection", some (.string i.connection)),
    ("dsn", some (.string i.dsn))])) = _
  rw [Datum.received_written]
  refine Datum.record?_bind_within false (by rfl) (by decide) fun inside _ => ?_
  exact (Datum.within_zero _ _).symm

/-! ## Answers -/

namespace Output

def nesting : Output → Nat
  | value v => v.nesting
  | maybe v => needed Value.nesting v
  | statement e => needed Executed.nesting e
  | info _ | texts _ | pong _ => 1
  | unit | bool _ | text _ => 0

/-- Every object in the answer names each key once, and counts have 64 bits. -/
def Lawful : Output → Prop
  | value v => v.Keyed
  | maybe v => ∀ w ∈ v, w.Keyed
  | statement e => ∀ x ∈ e, x.Lawful
  | info _ | texts _ | pong _ => True
  | unit | bool _ | text _ => True

/-- Something or null. -/
theorem optional?_orNull {α : Type} {read : Datum → Option α} {write : α → Datum}
    {size : α → Nat} {room : Nat} {part : Option α} (hnull : ∀ a, received (write a) ≠ .null)
    (h : ∀ a ∈ part, read (received (write a)) = within (size a) room a) :
    Datum.optional? read (some (received (orNull (part.map write)))) =
      within (needed size part) room part := by
  cases part with
  | none => exact (Datum.within_zero room none).symm
  | some a =>
    show Datum.optional? read (some (received (write a))) = _
    rw [Datum.optional?_some (hnull a), h a rfl]
    exact Datum.within_map some _ _ _

theorem ofDatum?_received {o : Output} (h : o.Lawful) (room : Nat) :
    ofDatum? .messagePack room (received o.toDatum) = within o.nesting room o := by
  cases o with
  | unit => exact (Datum.within_zero _ _).symm
  | value v =>
    show (Value.ofDatum? .messagePack room (received v.toDatum)).map value = _
    rw [Value.ofDatum?_received h]
    exact Datum.within_map _ _ _ _
  | maybe v =>
    show (Datum.optional? (Value.ofDatum? .messagePack room)
      (some (received (orNull (v.map Value.toDatum))))).map maybe = _
    rw [optional?_orNull Value.received_ne_null fun w hw => Value.ofDatum?_received (h w hw) room]
    exact Datum.within_map _ _ _ _
  | bool b => exact (Datum.within_zero _ _).symm
  | statement e =>
    show (Datum.optional? (Executed.ofDatum? .messagePack room)
      (some (received (orNull (e.map Executed.toDatum))))).map statement = _
    rw [optional?_orNull nofun fun x hx => Executed.ofDatum?_received (h x hx) room]
    exact Datum.within_map _ _ _ _
  | info i =>
    show (EngineInfo.ofDatum? .messagePack room (received i.toDatum)).map info = _
    rw [EngineInfo.ofDatum?_received]
    exact Datum.within_map _ _ _ _
  | text s =>
    refine Eq.trans ?_ (Datum.within_zero _ _).symm
    cases s <;> rfl
  | texts ss =>
    show (Datum.texts? room (received (.list (ss.map .string)))).map texts = _
    rw [Datum.texts?_received]
    exact Datum.within_map _ _ _ _
  | pong version =>
    have hversion : version? .messagePack room
        (received (written [("version", some (.string version))])) = within 1 room version := by
      rw [Datum.received_written]
      refine Datum.record?_bind_within false (by rfl) (by decide) fun inside _ => ?_
      exact (Datum.within_zero _ _).symm
    show (version? .messagePack room
      (received (written [("version", some (.string version))]))).map pong = _
    rw [hversion]
    exact Datum.within_map _ _ _ _

theorem inRange_toDatum {o : Output} (h : o.Lawful) : MessagePack.InRange o.toDatum := by
  cases o with
  | unit => exact trivial
  | value v => exact Datum.inRange_tagged v.inRange_toDatum
  | maybe v =>
    cases v with
    | none => exact Datum.inRange_tagged trivial
    | some v => exact Datum.inRange_tagged v.inRange_toDatum
  | bool b => exact Datum.inRange_tagged trivial
  | statement e =>
    cases e with
    | none => exact Datum.inRange_tagged trivial
    | some e => exact Datum.inRange_tagged (Executed.inRange_toDatum (h e rfl))
  | info i =>
    refine Datum.inRange_tagged (Datum.inRange_record fun f hf => ?_)
    simp only [List.mem_cons, List.not_mem_nil, or_false] at hf
    rcases hf with rfl | rfl | rfl | rfl | rfl | rfl <;> exact trivial
  | text s =>
    cases s with
    | none => exact Datum.inRange_tagged trivial
    | some s => exact Datum.inRange_tagged trivial
  | texts ss => exact Datum.inRange_tagged (Datum.inRange_texts ss)
  | pong version => exact Datum.inRange_tagged ⟨trivial, trivial, trivial⟩

end Output

/-! ## Failures -/

namespace Failure

def parts (f : Failure) : List (String × Option Datum) :=
  [("kind", some (.string f.kind.name)), ("message", some (.string f.message)),
    ("code", f.code.map .string), ("site", f.site.map .string), ("trace", f.trace.map .string)]

theorem toDatum_eq_written (f : Failure) : f.toDatum = written f.parts := by
  unfold toDatum written parts
  simp only [List.flatMap_cons, List.flatMap_nil, List.append_nil, List.append_assoc]
  rfl

theorem kind_received (k : ErrorKind) :
    Datum.choice? .messagePack ErrorKind.table (received (.string k.name)) = some k := by
  cases k <;> rfl

theorem ofDatum?_received (f : Failure) (room : Nat) :
    ofDatum? .messagePack room (received f.toDatum) = within 1 room f := by
  rw [toDatum_eq_written, Datum.received_written]
  refine Datum.record?_bind_within false (by rfl) (by decide) fun inside _ => ?_
  dsimp only [parts, Datum.receivedParts, List.map, Option.map_some]
  rw [kind_received]
  simp only [Datum.optional?_text]
  exact (Datum.within_zero _ _).symm

theorem inRange_toDatum (f : Failure) : MessagePack.InRange f.toDatum := by
  rw [toDatum_eq_written]
  refine Datum.inRange_written fun p hp => ?_
  simp only [parts, List.mem_cons, List.not_mem_nil, or_false] at hp
  have htext (part : Option String) := Datum.inRange_map Datum.inRange_string part
  rcases hp with rfl | rfl | rfl | rfl | rfl
  · exact htext (some _)
  · exact htext (some _)
  · exact htext f.code
  · exact htext f.site
  · exact htext f.trace

end Failure
end StructuredSql
