-- Short items read back: texts of less than 32 octets, and lists and records of less than
-- 16 items, whose heads are one octet.
import StructuredSql.MessagePack.Decode
import StructuredSql.MessagePack.Encode

namespace StructuredSql

theorem Text.Utf8.decode?_encode (s : String) : decode? (encode s) = some s :=
  dif_pos s.isValidUTF8

namespace MessagePack

/-! ## Heads of one octet -/

theorem head?_shortMap {n : Nat} (h : n < 16) (bs : List UInt8) :
    head? (UInt8.ofNat (0x80 + n)).toNat bs = some (.map n, bs) := by
  rw [UInt8.toNat_ofNat', Nat.mod_eq_of_lt (show 0x80 + n < 256 by omega)]
  unfold head? mapOf
  rw [if_neg (by omega), if_pos (by omega), Nat.add_sub_cancel_left]

theorem head?_shortList {n : Nat} (h : n < 16) (bs : List UInt8) :
    head? (UInt8.ofNat (0x90 + n)).toNat bs = some (.list n, bs) := by
  rw [UInt8.toNat_ofNat', Nat.mod_eq_of_lt (show 0x90 + n < 256 by omega)]
  unfold head? listOf
  rw [if_neg (by omega), if_neg (by omega), if_pos (by omega), Nat.add_sub_cancel_left]

theorem head?_shortText {n : Nat} (h : n < 32) (bs : List UInt8) :
    head? (UInt8.ofNat (0xa0 + n)).toNat bs = item? (text? n bs) := by
  rw [UInt8.toNat_ofNat', Nat.mod_eq_of_lt (show 0xa0 + n < 256 by omega)]
  unfold head?
  rw [if_neg (by omega), if_neg (by omega), if_neg (by omega), if_pos (by omega),
    Nat.add_sub_cancel_left]

/-! ## Items that read back -/

/-- With so much fuel the data is read from its octets, whatever follows. -/
def ReadsBack (d : Datum) (need : Nat) : Prop :=
  ∀ fuel, need ≤ fuel → ∀ rest, item fuel (encode d ++ rest) = some (d, rest)

theorem ReadsBack.mono {d : Datum} {need more : Nat} (h : ReadsBack d need) (hle : need ≤ more) :
    ReadsBack d more :=
  fun fuel hfuel => h fuel (Nat.le_trans hle hfuel)

def ShortText (s : String) : Prop := (Text.Utf8.encode s).length < 32

instance (s : String) : Decidable (ShortText s) :=
  inferInstanceAs (Decidable ((Text.Utf8.encode s).length < 32))

theorem text_of_short {s : String} (h : ShortText s) :
    text s = UInt8.ofNat (0xa0 + (Text.Utf8.encode s).length) :: Text.Utf8.encode s := by
  unfold text textHead
  dsimp only
  rw [if_pos (show (Text.Utf8.encode s).length < 32 from h), List.singleton_append]

theorem readsBack_text {s : String} (h : ShortText s) : ReadsBack (.string s) 1 := by
  intro fuel hfuel rest
  obtain ⟨fuel, rfl⟩ := Nat.exists_eq_add_of_le' hfuel
  show item (fuel + 1) (text s ++ rest) = _
  rw [text_of_short h, List.cons_append, item, head?_shortText h]
  unfold text? textOf
  rw [Octets.take?_append rfl]
  dsimp only [Option.map_some, item?]
  rw [Text.Utf8.decode?_encode]

theorem items_encodeItems {need : Nat} {ds : List Datum} (h : ∀ d ∈ ds, ReadsBack d need)
    {fuel : Nat} (hfuel : need + ds.length ≤ fuel) (rest : List UInt8) :
    items fuel ds.length (encodeItems ds ++ rest) = some (ds, rest) := by
  induction ds generalizing fuel with
  | nil =>
    cases fuel <;> rfl
  | cons d ds ih =>
    rw [List.length_cons] at hfuel
    obtain ⟨fuel, rfl⟩ := Nat.exists_eq_add_of_le' (Nat.le_trans (Nat.le_add_left 1 _) hfuel)
    have hroom : need + ds.length ≤ fuel := by omega
    have htail := ih (fun x hx => h x (List.mem_cons_of_mem d hx)) hroom
    rw [encodeItems, List.append_assoc, List.length_cons, items,
      h d List.mem_cons_self fuel (by omega)]
    dsimp only
    rw [htail]
    rfl

theorem readsBack_list {need : Nat} {ds : List Datum} (hlength : ds.length < 16)
    (h : ∀ d ∈ ds, ReadsBack d need) : ReadsBack (.list ds) (need + ds.length + 1) := by
  intro fuel hfuel rest
  obtain ⟨fuel, rfl⟩ := Nat.exists_eq_add_of_le' (Nat.le_trans (Nat.le_add_left 1 _) hfuel)
  have hhead : listHead ds.length = [UInt8.ofNat (0x90 + ds.length)] := if_pos hlength
  rw [encode, hhead, List.append_assoc, List.singleton_append, item, head?_shortList hlength]
  dsimp only
  rw [items_encodeItems h (by omega)]
  rfl

theorem entries_encodeEntries {need : Nat} {fields : List (String × Datum)}
    (hkeys : ∀ f ∈ fields, ShortText f.1) (h : ∀ f ∈ fields, ReadsBack f.2 need)
    {fuel : Nat} (hfuel : need + fields.length + 1 ≤ fuel) (rest : List UInt8) :
    entries fuel fields.length
        (encodeEntries (fields.map fun f => (.string f.1, f.2)) ++ rest) =
      some (fields.map fun f => (.string f.1, f.2), rest) := by
  induction fields generalizing fuel with
  | nil => cases fuel <;> rfl
  | cons f fields ih =>
    rw [List.length_cons] at hfuel
    obtain ⟨fuel, rfl⟩ := Nat.exists_eq_add_of_le' (Nat.le_trans (Nat.le_add_left 1 _) hfuel)
    have hroom : need + fields.length + 1 ≤ fuel := by omega
    have htail := ih (fun x hx => hkeys x (List.mem_cons_of_mem f hx))
      (fun x hx => h x (List.mem_cons_of_mem f hx)) hroom
    rw [List.map_cons, encodeEntries, List.append_assoc, List.append_assoc, List.length_cons,
      entries, readsBack_text (hkeys f List.mem_cons_self) fuel (by omega)]
    dsimp only
    rw [h f List.mem_cons_self fuel (by omega)]
    dsimp only
    rw [htail]
    rfl

theorem readsBack_record {need : Nat} {fields : List (String × Datum)}
    (hlength : fields.length < 16) (hkeys : ∀ f ∈ fields, ShortText f.1)
    (h : ∀ f ∈ fields, ReadsBack f.2 need) :
    ReadsBack (.record fields) (need + fields.length + 2) := by
  intro fuel hfuel rest
  obtain ⟨fuel, rfl⟩ := Nat.exists_eq_add_of_le' (Nat.le_trans (Nat.le_add_left 1 _) hfuel)
  have hcount : (fields.map fun f => (Datum.string f.1, f.2)).length = fields.length :=
    List.length_map _
  have hhead : mapHead fields.length = [UInt8.ofNat (0x80 + fields.length)] := if_pos hlength
  unfold Datum.record
  rw [encode, hcount, hhead, List.append_assoc, List.singleton_append, item,
    head?_shortMap hlength]
  dsimp only
  rw [entries_encodeEntries hkeys h (by omega)]
  rfl

theorem readsBack_pair {k k' : String} {d d' : Datum} {need : Nat}
    (hk : ShortText k) (hk' : ShortText k')
    (h : ReadsBack d need) (h' : ReadsBack d' need) :
    ReadsBack (.record [(k, d), (k', d')]) (need + 4) :=
  readsBack_record (Nat.lt_add_of_pos_left (by decide))
    (List.forall_mem_cons.2 ⟨hk, List.forall_mem_singleton.2 hk'⟩)
    (List.forall_mem_cons.2 ⟨h, List.forall_mem_singleton.2 h'⟩)

/-- A case under its name is a record of one field. -/
theorem readsBack_tagged {name : String} (hname : ShortText name) {d : Datum} {need : Nat}
    (h : ReadsBack d need) : ReadsBack (.tagged name d) (need + 3) :=
  have hkeys : ∀ f ∈ [(name, d)], ShortText f.1 := List.forall_mem_singleton.2 hname
  readsBack_record (Nat.lt_add_of_pos_left (by decide)) hkeys (List.forall_mem_singleton.2 h)

end MessagePack
end StructuredSql
