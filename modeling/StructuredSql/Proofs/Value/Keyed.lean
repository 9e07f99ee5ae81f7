-- Values in which every object names each key once: what is built from them, and what is
-- read from documents, from data and from structured text.
import StructuredSql.Proofs.Command.ReadBack
import StructuredSql.Stored.Structured
import StructuredSql.Value.Json

namespace StructuredSql

/-! ## Lists and entries -/

theorem itemsKeyed_iff {items : List Value} : ItemsKeyed items ↔ ∀ v ∈ items, v.Keyed := by
  induction items with
  | nil => exact ⟨fun _ _ h => absurd h List.not_mem_nil, fun _ => trivial⟩
  | cons v rest ih =>
    rw [List.forall_mem_cons, ← ih]
    exact Iff.rfl

theorem fieldsKeyed_iff {fields : List (String × Value)} :
    FieldsKeyed fields ↔ ∀ e ∈ fields, e.2.Keyed := by
  induction fields with
  | nil => exact ⟨fun _ _ h => absurd h List.not_mem_nil, fun _ => trivial⟩
  | cons e rest ih =>
    rw [List.forall_mem_cons, ← ih]
    exact Iff.rfl

theorem paramsKeyed_iff {params : List (String × Bound Value)} :
    ParamsKeyed params ↔ ∀ e ∈ params, e.2.value.Keyed := by
  induction params with
  | nil => exact ⟨fun _ _ h => absurd h List.not_mem_nil, fun _ => trivial⟩
  | cons e rest ih =>
    rw [List.forall_mem_cons, ← ih]
    exact Iff.rfl

namespace Fields

theorem keyed_nil : Keyed [] := ⟨List.nodup_nil, trivial⟩

theorem Keyed.get? {fields : Fields} (h : Keyed fields) {key : String} {v : Value}
    (hv : Entries.get? fields key = some v) : v.Keyed :=
  fieldsKeyed_iff.mp h.2 _ (Entries.mem_of_get? hv)

theorem Keyed.insert {fields : Fields} (h : Keyed fields) (key : String) {v : Value}
    (hv : v.Keyed) : Keyed (Entries.insert fields key v) := by
  refine ⟨Entries.distinct_insert h.1 key v, fieldsKeyed_iff.mpr fun e he => ?_⟩
  rcases Entries.content_of_mem_insert he with hold | hnew
  · exact fieldsKeyed_iff.mp h.2 e hold
  · rw [hnew]
    exact hv

theorem keyed_extend {fields : Fields} (h : Keyed fields) {more : List (String × Value)}
    (hmore : ∀ e ∈ more, e.2.Keyed) : Keyed (Entries.extend fields more) := by
  induction more generalizing fields with
  | nil => exact h
  | cons e more ih =>
    exact ih (h.insert e.1 (hmore e List.mem_cons_self))
      fun x hx => hmore x (List.mem_cons_of_mem e hx)

theorem keyed_ofPairs {pairs : List (String × Value)} (h : ∀ e ∈ pairs, e.2.Keyed) :
    Keyed (Entries.ofPairs pairs) :=
  keyed_extend keyed_nil h

end Fields

/-! ## Documents -/

mutual

theorem Value.keyed_ofJson : ∀ j : Json, (ofJson j).Keyed
  | .null => trivial
  | .bool _ => trivial
  | .int i => by
    unfold ofJson
    split <;> exact trivial
  | .float _ => trivial
  | .string _ => trivial
  | .array items => itemsKeyed_iff.mpr (Value.keyed_itemsOfJson items)
  | .object members => Fields.keyed_ofPairs (Value.keyed_fieldsOfJson members)
termination_by structural j => j

theorem Value.keyed_itemsOfJson : ∀ items : List Json, ∀ v ∈ itemsOfJson items, v.Keyed
  | [] => fun _ h => absurd h List.not_mem_nil
  | j :: rest => List.forall_mem_cons.mpr ⟨keyed_ofJson j, keyed_itemsOfJson rest⟩
termination_by structural items => items

theorem Value.keyed_fieldsOfJson : ∀ members : List (String × Json),
    ∀ e ∈ fieldsOfJson members, e.2.Keyed
  | [] => fun _ h => absurd h List.not_mem_nil
  | (_, j) :: rest => List.forall_mem_cons.mpr ⟨keyed_ofJson j, keyed_fieldsOfJson rest⟩
termination_by structural members => members

end

/-! ## Data -/

theorem Value.fieldsOf?_eq_some {value? : Datum → Option Value} {d : Datum} {fields : Fields}
    (h : fieldsOf? value? d = some fields) :
    ∃ entries pairs, d = .map entries ∧ entries.mapM (entryOfDatum? value?) = some pairs ∧
      fields = Entries.ofPairs pairs := by
  unfold fieldsOf? at h
  split at h
  · obtain ⟨pairs, hpairs, rfl⟩ := Option.map_eq_some_iff.1 h
    exact ⟨_, pairs, rfl, hpairs, rfl⟩
  · cases h

theorem mem_of_mapM {α β : Type} {f : α → Option β} {as : List α} {bs : List β}
    (h : as.mapM f = some bs) : ∀ b ∈ bs, ∃ a ∈ as, f a = some b := by
  induction as generalizing bs with
  | nil =>
    cases h
    exact nofun
  | cons a rest ih =>
    simp only [List.mapM_cons, Option.bind_eq_bind, Option.bind_eq_some_iff] at h
    obtain ⟨b, hb, more, hmore, heq⟩ := h
    cases heq
    refine List.forall_mem_cons.2 ⟨⟨a, List.mem_cons_self, hb⟩, fun c hc => ?_⟩
    obtain ⟨x, hx, hxc⟩ := ih hmore c hc
    exact ⟨x, List.mem_cons_of_mem a hx, hxc⟩

/-- Such values alone are read. -/
def ReadsKeyed (value? : Datum → Option Value) : Prop := ∀ d v, value? d = some v → v.Keyed

theorem readsKeyed_none : ReadsKeyed fun _ => none := nofun

section
variable {src : Source} {room : Nat} {value? : Datum → Option Value} (h : ReadsKeyed value?)
include h

theorem Value.keyed_fieldsOf? {d : Datum} {fields : Fields}
    (hread : fieldsOf? value? d = some fields) : Fields.Keyed fields := by
  obtain ⟨entries, pairs, -, hpairs, rfl⟩ := fieldsOf?_eq_some hread
  refine Fields.keyed_ofPairs fun e he => ?_
  obtain ⟨x, -, hx⟩ := mem_of_mapM hpairs e he
  simp only [entryOfDatum?, Option.bind_eq_bind, Option.bind_eq_some_iff] at hx
  obtain ⟨key, -, v, hv, heq⟩ := hx
  cases heq
  exact h _ v hv

theorem Bound.keyed_entryOfDatum? {d : Datum} {e : String × Param}
    (hread : entryOfDatum? src room value? d = some e) : e.2.value.Keyed := by
  simp only [entryOfDatum?, Option.bind_eq_bind, Option.bind_eq_some_iff] at hread
  obtain ⟨⟨inside, items⟩, -, hread⟩ := hread
  dsimp only at hread
  split at hread
  · simp only [ofDatum?, Option.bind_eq_bind, Option.bind_eq_some_iff] at hread
    obtain ⟨key, -, p, ⟨⟨_, slots⟩, -, hslots⟩, heq⟩ := hread
    cases heq
    dsimp only at hslots
    split at hslots
    · simp only [Option.bind_eq_some_iff] at hslots
      obtain ⟨v, hv, kind, -, heq⟩ := hslots
      cases heq
      exact h _ v hv
    · cases hslots
  · cases hread

theorem Bound.keyed_listOfDatum? {d : Datum} {params : Params}
    (hread : listOfDatum? src room value? d = some params) : ParamsKeyed params := by
  simp only [listOfDatum?, Option.bind_eq_bind, Option.bind_eq_some_iff] at hread
  obtain ⟨⟨inside, items⟩, -, hread⟩ := hread
  refine paramsKeyed_iff.mpr fun e he => ?_
  obtain ⟨x, -, hx⟩ := mem_of_mapM hread e he
  exact keyed_entryOfDatum? h hx

theorem Fragment.keyed_ofDatum? {d : Datum} {raw : Raw}
    (hread : ofDatum? src room value? d = some raw) : ParamsKeyed raw.params := by
  simp only [ofDatum?, Option.bind_eq_bind, Option.bind_eq_some_iff] at hread
  obtain ⟨⟨_, slots⟩, -, hread⟩ := hread
  dsimp only at hread
  split at hread
  · rename_i part
    simp only [Option.bind_eq_some_iff] at hread
    obtain ⟨text, -, params, hparams, heq⟩ := hread
    cases heq
    cases part with
    | none =>
      cases hparams
      exact trivial
    | some d => exact Bound.keyed_listOfDatum? h hparams
  · cases hread

end

/-- A value, when the values inside are read further in. -/
theorem Value.keyed_ofDatum?_of_inner {src : Source} {room : Nat}
    (hinner : ∀ inside < room, ReadsKeyed (ofDatum? src inside)) :
    ReadsKeyed (ofDatum? src room) := by
  intro d v hread
  rw [ofDatum?.eq_def] at hread
  split at hread
  · split at hread
    · cases hread
      exact trivial
    · cases hread
  -- scalars and octets
  iterate 5
    · obtain ⟨_, -, rfl⟩ := Option.map_eq_some_iff.mp hread
      exact trivial
  · cases hread
    exact trivial
  · cases room with
    | zero => cases hread
    | succ room =>
      obtain ⟨vs, hvs, rfl⟩ := Option.map_eq_some_iff.mp hread
      refine itemsKeyed_iff.mpr fun v hv => ?_
      obtain ⟨x, -, hx⟩ := mem_of_mapM hvs v hv
      exact hinner room (Nat.lt_succ_self room) x v hx
  · cases room with
    | zero => cases hread
    | succ room =>
      obtain ⟨fields, hfields, rfl⟩ := Option.map_eq_some_iff.mp hread
      exact keyed_fieldsOf? (hinner room (Nat.lt_succ_self room)) hfields
  · rename_i content _
    have hfragment : ∃ value?, ReadsKeyed value? ∧
        (Fragment.ofDatum? src room value? content).map Value.raw = some v := by
      split at hread
      iterate 4
        · exact ⟨_, readsKeyed_none, hread⟩
      · rename_i room
        exact ⟨_, hinner room (by omega), hread⟩
    obtain ⟨value?, hvalue, hread⟩ := hfragment
    obtain ⟨raw, hraw, rfl⟩ := Option.map_eq_some_iff.mp hread
    exact Fragment.keyed_ofDatum? hvalue hraw
  · cases hread

theorem Value.keyed_ofDatum? (src : Source) (room : Nat) : ReadsKeyed (ofDatum? src room) := by
  induction room using Nat.strongRecOn with
  | _ room ih => exact Value.keyed_ofDatum?_of_inner ih

/-! ## Structured text -/

namespace Structured

theorem keyed_string? {s rest : List Char} {v : Value} (h : string? s = some (v, rest)) :
    v.Keyed := by
  unfold string? at h
  simp only [Option.bind_eq_bind, Option.bind_eq_some_iff] at h
  obtain ⟨⟨digits, after⟩, -, count, -, h⟩ := h
  dsimp only at h
  split at h
  · simp only [Option.bind_eq_some_iff] at h
    obtain ⟨⟨text, rest'⟩, -, h⟩ := h
    split at h
    · cases h
      exact trivial
    · cases h
  · cases h

theorem keyed_container {pairs : List (Key × Value)} (h : ∀ p ∈ pairs, p.2.Keyed) :
    (container pairs).Keyed := by
  unfold container
  split
  · refine itemsKeyed_iff.mpr fun v hv => ?_
    obtain ⟨p, hp, rfl⟩ := List.mem_map.mp hv
    exact h p hp
  · refine Fields.keyed_ofPairs fun e he => ?_
    obtain ⟨p, hp, rfl⟩ := List.mem_map.mp he
    exact h p hp

theorem keyed_entries? {inner : List Char → Option (Value × List Char)}
    (hinner : ∀ s v rest, inner s = some (v, rest) → v.Keyed) {n : Nat} {s rest : List Char}
    {pairs : List (Key × Value)} (h : entries? inner n s = some (pairs, rest)) :
    ∀ p ∈ pairs, p.2.Keyed := by
  induction n generalizing s pairs rest with
  | zero =>
    cases h
    exact fun _ hp => absurd hp List.not_mem_nil
  | succ n ih =>
    unfold entries? at h
    simp only [Option.bind_eq_bind, Option.bind_eq_some_iff] at h
    obtain ⟨⟨k, s1⟩, -, key, -, ⟨v, s2⟩, hv, ⟨more, s3⟩, hmore, h⟩ := h
    cases h
    exact List.forall_mem_cons.mpr ⟨hinner _ _ _ hv, ih hmore⟩

/-- A value, when what is read inside of containers is such a value. -/
theorem keyed_value?_of_inner {depth : Nat} {s rest : List Char} {v : Value}
    (hinner : ∀ inside, depth = inside + 1 → ∀ s v rest,
      value? inside s = some (v, rest) → v.Keyed)
    (h : value? depth s = some (v, rest)) : v.Keyed := by
  unfold value? at h
  split at h
  · cases h
    exact trivial
  · split at h
    · cases h
      exact trivial
    · cases h
      exact trivial
    · cases h
  · simp only [Option.bind_eq_bind, Option.bind_eq_some_iff] at h
    obtain ⟨_, -, _, -, h⟩ := h
    cases h
    exact trivial
  · simp only [Option.bind_eq_bind, Option.bind_eq_some_iff] at h
    obtain ⟨_, -, _, -, h⟩ := h
    cases h
    exact trivial
  · exact keyed_string? h
  · split at h
    · cases h
    · rename_i inside
      simp only [Option.bind_eq_bind, Option.bind_eq_some_iff] at h
      obtain ⟨⟨digits, after⟩, -, count, -, h⟩ := h
      dsimp only at h
      split at h
      · simp only [Option.bind_eq_some_iff] at h
        obtain ⟨⟨pairs, last⟩, hpairs, h⟩ := h
        split at h
        · rename_i heq
          cases heq
          cases h
          exact keyed_container (keyed_entries? (hinner inside rfl) hpairs)
        · cases h
      · cases h
  · cases h

theorem keyed_value? {depth : Nat} {s rest : List Char} {v : Value}
    (h : value? depth s = some (v, rest)) : v.Keyed := by
  induction depth generalizing s v rest with
  | zero =>
    refine keyed_value?_of_inner (fun inside hinside => ?_) h
    cases hinside
  | succ depth ih =>
    refine keyed_value?_of_inner (fun inside hinside s v rest hv => ?_) h
    cases hinside
    exact ih hv

theorem keyed_parse? {text : String} {v : Value} (h : parse? text = some v) : v.Keyed := by
  unfold parse? at h
  dsimp only at h
  split at h
  · rename_i hvalue
    cases h
    exact keyed_value? hvalue
  · cases h

end Structured
end StructuredSql
