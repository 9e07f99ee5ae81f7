-- Values read back from a message: a value whose objects name each key once is read as it
-- was written by a reader that may open as many lists and maps as it nests, and is not read
-- at all by one that may open fewer.
import StructuredSql.Value.Datum
import StructuredSql.Proofs.Datum.Within
import StructuredSql.Proofs.Entries
import StructuredSql.Proofs.Text.Numeral

namespace StructuredSql

open Datum (within)
open MessagePack (received)

/-! ## How deep a value nests -/

mutual

/-- How many lists and maps a reader opens inside each other. The map that stands for a
shape is not counted. -/
def Value.nesting : Value → Nat
  | .bytes _ => 1
  | .array items => itemsNesting items + 1
  | .object fields => fieldsNesting fields + 1
  | .raw ⟨_, params⟩ => paramsNesting params + 2
  | _ => 0
termination_by structural v => v

def itemsNesting : List Value → Nat
  | [] => 0
  | v :: rest => max v.nesting (itemsNesting rest)
termination_by structural items => items

def fieldsNesting : List (String × Value) → Nat
  | [] => 0
  | (_, v) :: rest => max v.nesting (fieldsNesting rest)
termination_by structural fields => fields

/-- A binding is a pair of the key and a record. -/
def paramsNesting : List (String × Bound Value) → Nat
  | [] => 0
  | (_, ⟨v, _⟩) :: rest => max (v.nesting + 2) (paramsNesting rest)
termination_by structural params => params

end

mutual

/-- Every object in the value, also in the bindings of its fragments, names each key once. -/
def Value.Keyed : Value → Prop
  | .array items => ItemsKeyed items
  | .object fields => Entries.Distinct fields ∧ FieldsKeyed fields
  | .raw ⟨_, params⟩ => ParamsKeyed params
  | _ => True
termination_by structural v => v

def ItemsKeyed : List Value → Prop
  | [] => True
  | v :: rest => v.Keyed ∧ ItemsKeyed rest
termination_by structural items => items

def FieldsKeyed : List (String × Value) → Prop
  | [] => True
  | (_, v) :: rest => v.Keyed ∧ FieldsKeyed rest
termination_by structural fields => fields

def ParamsKeyed : List (String × Bound Value) → Prop
  | [] => True
  | (_, ⟨v, _⟩) :: rest => v.Keyed ∧ ParamsKeyed rest
termination_by structural params => params

end

/-! ## Kinds of bound values -/

theorem ScalarKind.ofDatum?_toDatum (k : ScalarKind) :
    ofDatum? .messagePack (received k.toDatum) = some k := by
  cases k <;> rfl

/-! ## Bindings -/

namespace Bound

variable {value? : Datum → Option Value} {room : Nat}

/-- The record of a bound value. -/
def toDatum (p : Param) : Datum := .record [("value", p.value.toDatum), ("kind", p.kind.toDatum)]

theorem ofDatum?_received {p : Param} {need : Nat}
    (h : ∀ inside, room = inside + 1 →
      value? (received p.value.toDatum) = within need inside p.value) :
    ofDatum? .messagePack room value? (received p.toDatum) = within (need + 1) room p := by
  show ofDatum? .messagePack room value? (received (Datum.written
    [("value", some p.value.toDatum), ("kind", some p.kind.toDatum)])) = _
  rw [Datum.received_written]
  refine Datum.record?_bind_within false (by rfl) (by decide) fun inside hroom => ?_
  show (value? (received p.value.toDatum)).bind (fun v =>
    (ScalarKind.ofDatum? .messagePack (received p.kind.toDatum)).bind fun k =>
      some (Bound.mk v k)) = _
  rw [h inside hroom, ScalarKind.ofDatum?_toDatum]
  exact Datum.within_bind_some _ _ _ _

theorem entryOfDatum?_received {key : String} {p : Param} {need : Nat}
    (h : ∀ inside, room = inside + 2 →
      value? (received p.value.toDatum) = within need inside p.value) :
    entryOfDatum? .messagePack room value? (received (.list [.string key, p.toDatum])) =
      within (need + 2) room (key, p) := by
  show ((Datum.list? room (.list [.string key, received p.toDatum])).bind _) = _
  refine Datum.list?_bind_within fun inside hroom => ?_
  show (ofDatum? .messagePack inside value? (received p.toDatum)).bind (fun b => some (key, b)) = _
  rw [ofDatum?_received fun more hinside => h more (by omega)]
  exact Datum.within_bind_some _ _ _ _

end Bound

/-! ## Scalars -/

namespace Datum

theorem int64?_received (i : Int64) : int64? (received (.int i.toInt)) = some i := by
  unfold int64? received
  rw [MessagePack.receivedInt_whole?, Option.bind_some, if_pos (Text.fitsInt64_toInt i),
    Int64.ofInt_toInt]

theorem natBelow?_received {bound n : Nat} (h : n < bound) :
    natBelow? bound (received (.int n)) = some n := by
  unfold natBelow? received
  rw [MessagePack.receivedInt_whole?, Option.bind_some, if_pos (by omega), Int.toNat_natCast]

/-- Octets are written as a list of numbers. -/
theorem octets?_received (bs : List UInt8) (room : Nat) :
    octets? room (received (.list (bs.map fun b => .int b.toNat))) = within 1 room bs := by
  have hoctets : ((bs.map fun b => Datum.int b.toNat).map received).mapM
      (fun i => (i.natBelow? 256).map UInt8.ofNat) = some bs := by
    rw [List.map_map]
    refine mapM_of_forall fun b _ => ?_
    rw [Function.comp_apply, natBelow?_received b.toNat_lt, Option.map_some, UInt8.ofNat_toNat]
  rw [received, MessagePack.receivedItems_eq_map]
  show ((list? room (.list _)).bind _) = _
  refine list?_bind_within fun inside _ => ?_
  dsimp only
  rw [hoctets, within_zero]

end Datum

/-! ## Shapes -/

namespace Value

variable {room : Nat}

theorem ofDatum?_null : ofDatum? .messagePack room (received (toDatum .null)) = some .null := by
  cases room <;> rfl

theorem ofDatum?_bool (b : Bool) :
    ofDatum? .messagePack room (received (toDatum (.bool b))) = some (.bool b) := by
  cases room <;> rfl

theorem ofDatum?_int (i : Int64) :
    ofDatum? .messagePack room (received (toDatum (.int i))) = some (.int i) := by
  have hcase : ofDatum? .messagePack room (received (toDatum (.int i))) =
      (received (.int i.toInt)).int64?.map .int := by cases room <;> rfl
  rw [hcase, Datum.int64?_received, Option.map_some]

theorem ofDatum?_float (x : Double) :
    ofDatum? .messagePack room (received (toDatum (.float x))) = some (.float x) := by
  cases room <;> rfl

theorem ofDatum?_string (s : String) :
    ofDatum? .messagePack room (received (toDatum (.string s))) = some (.string s) := by
  cases room <;> rfl

theorem ofDatum?_bytes (bs : List UInt8) :
    ofDatum? .messagePack room (received (toDatum (.bytes bs))) =
      within 1 room (.bytes bs) := by
  have hcase : ofDatum? .messagePack room (received (toDatum (.bytes bs))) =
      ((received (.list (bs.map fun b => .int b.toNat))).octets? room).map .bytes := by
    cases room <;> rfl
  rw [hcase, Datum.octets?_received, Datum.within_map]

theorem ofDatum?_array {items : List Value} {need : Nat}
    (h : ∀ inside, room = inside + 1 →
      ((itemsToData items).map received).mapM (ofDatum? .messagePack inside) =
        within need inside items) :
    ofDatum? .messagePack room (received (toDatum (.array items))) =
      within (need + 1) room (.array items) := by
  cases room with
  | zero => exact (Datum.within_succ_zero _ _).symm
  | succ inside =>
    show ((MessagePack.receivedItems (itemsToData items)).mapM
      (ofDatum? .messagePack inside)).map Value.array = _
    rw [MessagePack.receivedItems_eq_map, h inside rfl, Datum.within_map,
      Datum.within_succ_succ]

/-- The entries of an object, without the name of its shape. -/
theorem fieldsOf?_received {value? : Datum → Option Value} {fields : Fields} {need : Nat}
    (hkeys : Entries.Distinct fields)
    (h : ((fieldsToData fields).map fun e => (received e.1, received e.2)).mapM
      (entryOfDatum? value?) = within need room fields) :
    fieldsOf? value? (received (Fields.toDatum fields)) = within need room fields := by
  show ((MessagePack.receivedEntries (fieldsToData fields)).mapM (entryOfDatum? value?)).map
    Entries.ofPairs = _
  rw [MessagePack.receivedEntries_eq_map, h, Datum.within_map, Entries.ofPairs_of_nodup hkeys]

theorem entryOfDatum?_received {value? : Datum → Option Value} {key : String} {v : Value}
    {need : Nat} (h : value? (received v.toDatum) = within need room v) :
    entryOfDatum? value? (received (.string key), received v.toDatum) =
      within need room (key, v) := by
  show (value? (received v.toDatum)).bind (fun w => some (key, w)) = _
  rw [h]
  exact Datum.within_bind_some _ _ _ _

theorem ofDatum?_object {fields : Fields} {need : Nat} (hkeys : Entries.Distinct fields)
    (h : ∀ inside, room = inside + 1 →
      ((fieldsToData fields).map fun e => (received e.1, received e.2)).mapM
        (entryOfDatum? (ofDatum? .messagePack inside)) = within need inside fields) :
    ofDatum? .messagePack room (received (toDatum (.object fields))) =
      within (need + 1) room (.object fields) := by
  cases room with
  | zero => exact (Datum.within_succ_zero _ _).symm
  | succ inside =>
    show (fieldsOf? (ofDatum? .messagePack inside) (received (Fields.toDatum fields))).map
      Value.object = _
    rw [fieldsOf?_received hkeys (h inside rfl), Datum.within_map, Datum.within_succ_succ]

end Value

namespace Bound

/-- What is said of bindings by a reader whose values stand two lists and maps further in. -/
theorem listOfDatum?_received {room : Nat} {value? : Datum → Option Value} {params : Params}
    {need : Nat}
    (h : ∀ inside, room = inside + 1 →
      ((Value.paramsToData params).map received).mapM (entryOfDatum? .messagePack inside value?) =
        within need inside params) :
    listOfDatum? .messagePack room value? (received (Params.toDatum params)) =
      within (need + 1) room params := by
  show ((Datum.list? room (.list (MessagePack.receivedItems (Value.paramsToData params)))).bind _)
    = _
  rw [MessagePack.receivedItems_eq_map]
  exact Datum.list?_bind_within h

end Bound

theorem Fragment.ofDatum?_received {room : Nat} {value? : Datum → Option Value} {raw : Raw}
    {need : Nat}
    (h : ∀ inside, room = inside + 2 →
      ((Value.paramsToData raw.params).map received).mapM
          (Bound.entryOfDatum? .messagePack inside value?) =
        within need inside raw.params) :
    ofDatum? .messagePack room value? (received (Raw.toDatum raw)) =
      within (need + 2) room raw := by
  show ofDatum? .messagePack room value? (received (Datum.written
    [("sql", some (.string raw.sql)), ("params", some (Params.toDatum raw.params))])) = _
  rw [Datum.received_written]
  refine Datum.record?_bind_within false (by rfl) (by decide) fun inside hroom => ?_
  show (Bound.listOfDatum? .messagePack inside value? (received (Params.toDatum raw.params))).bind
    (fun params => some (Fragment.mk raw.sql params)) = _
  rw [Bound.listOfDatum?_received fun more hinside => h more (by omega)]
  exact Datum.within_bind_some _ _ _ _

/-! ## Values -/

theorem Value.ofDatum?_raw {room : Nat} {raw : Raw} {need : Nat}
    (h : ∀ inside value?, (∀ more, inside = more + 2 → value? = ofDatum? .messagePack more) →
      ((paramsToData raw.params).map received).mapM
          (Bound.entryOfDatum? .messagePack inside value?) =
        within need inside raw.params) :
    ofDatum? .messagePack room (received (toDatum (.raw raw))) =
      within (need + 2) room (.raw raw) := by
  match room with
  | 0 | 1 | 2 | 3 =>
    show (Fragment.ofDatum? .messagePack _ (fun _ => none) (received (Raw.toDatum raw))).map
      Value.raw = _
    rw [Fragment.ofDatum?_received fun inside hroom => h inside _ fun more hinside => by omega,
      Datum.within_map]
  | room + 4 =>
    show (Fragment.ofDatum? .messagePack (room + 4) (ofDatum? .messagePack room)
      (received (Raw.toDatum raw))).map Value.raw = _
    rw [Fragment.ofDatum?_received fun inside hroom => h inside _ fun more hinside => by
        rw [show more = room by omega], Datum.within_map]

mutual

/-- A value is read back by a reader that may open as many lists and maps as it nests, and
by no other. -/
theorem Value.ofDatum?_received : ∀ {v : Value}, v.Keyed → ∀ room : Nat,
    Value.ofDatum? .messagePack room (received v.toDatum) = within v.nesting room v
  | .null, _, _ => Value.ofDatum?_null.trans (Datum.within_zero _ _).symm
  | .bool b, _, _ => (Value.ofDatum?_bool b).trans (Datum.within_zero _ _).symm
  | .int i, _, _ => (Value.ofDatum?_int i).trans (Datum.within_zero _ _).symm
  | .float x, _, _ => (Value.ofDatum?_float x).trans (Datum.within_zero _ _).symm
  | .string s, _, _ => (Value.ofDatum?_string s).trans (Datum.within_zero _ _).symm
  | .bytes bs, _, _ => Value.ofDatum?_bytes bs
  | .array _, h, _ => Value.ofDatum?_array fun inside _ => itemsToData_received h inside
  | .object _, h, _ => Value.ofDatum?_object h.1 fun inside _ => fieldsToData_received h.2 inside
  | .raw ⟨_, _⟩, h, _ =>
    Value.ofDatum?_raw fun inside _ hvalue => paramsToData_received h inside hvalue
termination_by structural v => v

theorem itemsToData_received : ∀ {items : List Value}, ItemsKeyed items → ∀ room : Nat,
    ((Value.itemsToData items).map received).mapM (Value.ofDatum? .messagePack room) =
      within (itemsNesting items) room items
  | [], _, room => Datum.mapM_nil_within _ room
  | _ :: _, h, room =>
    Datum.mapM_cons_within (Value.ofDatum?_received h.1 room) (itemsToData_received h.2 room)
termination_by structural items => items

theorem fieldsToData_received : ∀ {fields : List (String × Value)}, FieldsKeyed fields →
    ∀ room : Nat,
    ((Value.fieldsToData fields).map fun e => (received e.1, received e.2)).mapM
        (Value.entryOfDatum? (Value.ofDatum? .messagePack room)) =
      within (fieldsNesting fields) room fields
  | [], _, room => Datum.mapM_nil_within _ room
  | (_, _) :: _, h, room =>
    Datum.mapM_cons_within (Value.entryOfDatum?_received (Value.ofDatum?_received h.1 room))
      (fieldsToData_received h.2 room)
termination_by structural fields => fields

theorem paramsToData_received : ∀ {params : List (String × Bound Value)}, ParamsKeyed params →
    ∀ (room : Nat) {value? : Datum → Option Value},
    (∀ inside, room = inside + 2 → value? = Value.ofDatum? .messagePack inside) →
    ((Value.paramsToData params).map received).mapM
        (Bound.entryOfDatum? .messagePack room value?) =
      within (paramsNesting params) room params
  | [], _, room, _, _ => Datum.mapM_nil_within _ room
  | (key, ⟨v, kind⟩) :: _, h, room, value?, hvalue => by
    have hentry : Bound.entryOfDatum? .messagePack room value?
        (received (.list [.string key, Bound.toDatum ⟨v, kind⟩])) =
          within (v.nesting + 2) room (key, ⟨v, kind⟩) := by
      refine Bound.entryOfDatum?_received fun inside hroom => ?_
      rw [hvalue inside hroom]
      exact Value.ofDatum?_received h.1 inside
    exact Datum.mapM_cons_within hentry (paramsToData_received h.2 room hvalue)
termination_by structural params => params

end

/-! ## Numbers that messages hold -/

theorem MessagePack.fits64_toInt (i : Int64) : Fits64 i.toInt := by
  have hlow : -Nat.pow 2 63 ≤ i.toInt := Int64.minValue_le_toInt i
  have hhigh : i.toInt ≤ Nat.pow 2 63 - 1 := Int64.toInt_le i
  exact ⟨hlow, Int.lt_of_le_of_lt hhigh (by decide)⟩

theorem MessagePack.fits64_nat {n : Nat} (h : n < Nat.pow 2 64) : Fits64 n :=
  ⟨Int.le_trans (by decide) (Int.natCast_nonneg n), Int.ofNat_lt.mpr h⟩

mutual

theorem Value.inRange_toDatum : ∀ v : Value, MessagePack.InRange v.toDatum
  | .null => trivial
  | .bool _ => Datum.inRange_tagged trivial
  | .int i => Datum.inRange_tagged (MessagePack.fits64_toInt i)
  | .float _ => Datum.inRange_tagged trivial
  | .string _ => Datum.inRange_tagged trivial
  | .bytes bs => Datum.inRange_tagged (Datum.itemsInRange fun d hd => by
      obtain ⟨b, -, rfl⟩ := List.mem_map.mp hd
      exact MessagePack.fits64_nat (Nat.lt_trans b.toNat_lt (by decide)))
  | .array items => Datum.inRange_tagged (Value.itemsInRange items)
  | .object fields => Datum.inRange_tagged (Value.fieldsInRange fields)
  | .raw ⟨_, params⟩ =>
    Datum.inRange_tagged ⟨trivial, trivial, trivial, Value.paramsInRange params, trivial⟩
termination_by structural v => v

theorem Value.itemsInRange : ∀ items : List Value,
    MessagePack.ItemsInRange (itemsToData items)
  | [] => trivial
  | v :: rest => ⟨v.inRange_toDatum, Value.itemsInRange rest⟩
termination_by structural items => items

theorem Value.fieldsInRange : ∀ fields : List (String × Value),
    MessagePack.EntriesInRange (fieldsToData fields)
  | [] => trivial
  | (_, v) :: rest => ⟨trivial, v.inRange_toDatum, Value.fieldsInRange rest⟩
termination_by structural fields => fields

theorem Value.paramsInRange : ∀ params : List (String × Bound Value),
    MessagePack.ItemsInRange (paramsToData params)
  | [] => trivial
  | (_, ⟨v, _⟩) :: rest =>
    ⟨⟨trivial, ⟨trivial, v.inRange_toDatum, trivial, trivial, trivial⟩, trivial⟩,
      Value.paramsInRange rest⟩
termination_by structural params => params

end

end StructuredSql
