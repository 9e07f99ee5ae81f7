-- What is read back from data that was written: the same data, whole numbers in the form
-- that their octets have. Every head is one marker, with its count beside it or behind it.
import StructuredSql.Datum.Reading
import StructuredSql.Proofs.MessagePack.Short

namespace StructuredSql.MessagePack

/-! ## Heads -/

/-- What is announced at the front of the octets. -/
def opened : List UInt8 → Option (Head × List UInt8)
  | [] => none
  | marker :: bs => head? marker.toNat bs

theorem item_succ (fuel : Nat) (bs : List UInt8) :
    item (fuel + 1) bs =
      match opened bs with
      | none => none
      | some (.item d, rest) => some (d, rest)
      | some (.list n, rest) => (items fuel n rest).map fun (ds, r) => (.list ds, r)
      | some (.map n, rest) => (entries fuel n rest).map fun (es, r) => (.map es, r) := by
  cases bs with
  | nil => rfl
  | cons m bs => rfl

theorem nat?_big {width n : Nat} (h : n < Nat.pow 256 width) (rest : List UInt8) :
    nat? width (Octets.big width n ++ rest) = some (n, rest) := by
  unfold nat?
  rw [Octets.take?_append (Octets.length_big width n), Option.map_some]
  dsimp only
  rw [Octets.ofBig_big, Nat.mod_eq_of_lt h]

/-- A number below zero, as the number that its octets spell without a sign. -/
theorem signed?_big {width n : Nat} (h : n < Nat.pow 256 width)
    (hsign : Nat.pow 2 (8 * width - 1) ≤ n) (rest : List UInt8) :
    signed? width (Octets.big width n ++ rest) =
      some ((n : Int) - Nat.pow 2 (8 * width), rest) := by
  unfold signed?
  rw [nat?_big h, Option.map_some]
  dsimp only
  rw [if_neg (Nat.not_lt.mpr hsign)]

theorem counted?_big (width : Nat) {n : Nat} (h : n < Nat.pow 256 width)
    (head : Nat → List UInt8 → Option (Head × List UInt8)) (rest : List UInt8) :
    counted? width head (Octets.big width n ++ rest) = head n rest := by
  unfold counted?
  rw [nat?_big h, Option.bind_some]

theorem opened_textHead {n : Nat} (h : n < Nat.pow 2 32) (rest : List UInt8) :
    opened (textHead n ++ rest) = item? (text? n rest) := by
  unfold textHead
  by_cases h5 : n < 32
  · rw [if_pos h5]
    exact head?_shortText h5 rest
  rw [if_neg h5]
  by_cases h8 : n < 0x100
  · rw [if_pos h8]
    exact counted?_big 1 h8 (fun n r => item? (text? n r)) rest
  rw [if_neg h8]
  by_cases h16 : n < 0x10000
  · rw [if_pos h16]
    exact counted?_big 2 h16 (fun n r => item? (text? n r)) rest
  · rw [if_neg h16]
    exact counted?_big 4 h (fun n r => item? (text? n r)) rest

theorem opened_bytesHead {n : Nat} (h : n < Nat.pow 2 32) (rest : List UInt8) :
    opened (bytesHead n ++ rest) = item? (bytes? n rest) := by
  unfold bytesHead
  by_cases h8 : n < 0x100
  · rw [if_pos h8]
    exact counted?_big 1 h8 (fun n r => item? (bytes? n r)) rest
  rw [if_neg h8]
  by_cases h16 : n < 0x10000
  · rw [if_pos h16]
    exact counted?_big 2 h16 (fun n r => item? (bytes? n r)) rest
  · rw [if_neg h16]
    exact counted?_big 4 h (fun n r => item? (bytes? n r)) rest

theorem opened_listHead {n : Nat} (h : n < Nat.pow 2 32) (rest : List UInt8) :
    opened (listHead n ++ rest) = some (.list n, rest) := by
  unfold listHead
  by_cases h4 : n < 16
  · rw [if_pos h4]
    exact head?_shortList h4 rest
  rw [if_neg h4]
  by_cases h16 : n < 0x10000
  · rw [if_pos h16]
    exact counted?_big 2 h16 listOf rest
  · rw [if_neg h16]
    exact counted?_big 4 h listOf rest

theorem opened_mapHead {n : Nat} (h : n < Nat.pow 2 32) (rest : List UInt8) :
    opened (mapHead n ++ rest) = some (.map n, rest) := by
  unfold mapHead
  by_cases h4 : n < 16
  · rw [if_pos h4]
    exact head?_shortMap h4 rest
  rw [if_neg h4]
  by_cases h16 : n < 0x10000
  · rw [if_pos h16]
    exact counted?_big 2 h16 mapOf rest
  · rw [if_neg h16]
    exact counted?_big 4 h mapOf rest

/-! ## Whole numbers -/

/-- A whole number in the form that its octets have. -/
def receivedInt (i : Int) : Datum :=
  if i < 0 then .formed .signed i
  else if 0x100 ≤ i ∧ i < 0x100000000 then .formed .middle i
  else .int i

/-- A whole number that 64 bits hold, with a sign or without. -/
def Fits64 (i : Int) : Prop := -Nat.pow 2 63 ≤ i ∧ i < Nat.pow 2 64

theorem receivedInt_small {n : Nat} (h : n < 0x100) : receivedInt n = .int n := by
  unfold receivedInt
  rw [if_neg (by omega), if_neg (by omega)]

theorem receivedInt_middle {n : Nat} (h : 0x100 ≤ n) (h32 : n < 0x100000000) :
    receivedInt n = .formed .middle n := by
  unfold receivedInt
  rw [if_neg (by omega), if_pos (by omega)]

theorem receivedInt_large {n : Nat} (h : 0x100000000 ≤ n) : receivedInt n = .int n := by
  unfold receivedInt
  rw [if_neg (by omega), if_neg (by omega)]

theorem natItem?_big (width : Nat) {n : Nat} (h : n < Nat.pow 256 width) (rest : List UInt8) :
    natItem? width (Octets.big width n ++ rest) = some (.item (.int n), rest) := by
  unfold natItem?
  rw [nat?_big h]
  rfl

theorem middleItem?_big (width : Nat) {n : Nat} (h : n < Nat.pow 256 width) (rest : List UInt8) :
    middleItem? width (Octets.big width n ++ rest) = some (.item (.formed .middle n), rest) := by
  unfold middleItem?
  rw [nat?_big h]
  rfl

theorem opened_nat {n : Nat} (h : n < Nat.pow 2 64) (rest : List UInt8) :
    opened (int n ++ rest) = some (.item (receivedInt n), rest) := by
  unfold int
  rw [if_pos (Int.natCast_nonneg n), Int.toNat_natCast]
  dsimp only
  by_cases h7 : n < 0x80
  · rw [if_pos h7, receivedInt_small (by omega)]
    show head? (UInt8.ofNat n).toNat rest = _
    rw [UInt8.toNat_ofNat', Nat.mod_eq_of_lt (by omega)]
    unfold head?
    rw [if_pos h7]
  rw [if_neg h7]
  by_cases h8 : n < 0x100
  · rw [if_pos h8, receivedInt_small h8]
    exact natItem?_big 1 h8 rest
  rw [if_neg h8]
  by_cases h16 : n < 0x10000
  · rw [if_pos h16, receivedInt_middle (by omega) (by omega)]
    exact middleItem?_big 2 h16 rest
  rw [if_neg h16]
  by_cases h32 : n < 0x100000000
  · rw [if_pos h32, receivedInt_middle (by omega) h32]
    exact middleItem?_big 4 h32 rest
  · rw [if_neg h32, receivedInt_large (by omega)]
    exact natItem?_big 8 h rest

/-- A number below zero behind its marker, as its distance from the full range of a width. -/
theorem signedItem?_big (width full : Nat) (hfull : full = Nat.pow 256 width)
    (hbits : full = Nat.pow 2 (8 * width)) {i : Int} (hneg : i < 0)
    (hlow : Nat.pow 2 (8 * width - 1) ≤ full + i) (rest : List UInt8) :
    signedItem? width (Octets.big width (full + i).toNat ++ rest) =
      some (.item (.formed .signed i), rest) := by
  have hsign : 0 ≤ ((Nat.pow 2 (8 * width - 1) : Nat) : Int) := Int.natCast_nonneg _
  obtain ⟨n, hn⟩ := Int.eq_ofNat_of_zero_le (Int.le_trans hsign hlow)
  have hwidth : n < Nat.pow 256 width := by omega
  have hhalf : Nat.pow 2 (8 * width - 1) ≤ n := by omega
  unfold signedItem?
  rw [hn, Int.toNat_natCast, signed?_big hwidth hhalf, Option.map_some, ← hbits]
  dsimp only
  rw [show (n : Int) - full = i by omega]

theorem opened_negative {i : Int} (hneg : i < 0) (h : -Nat.pow 2 63 ≤ i) (rest : List UInt8) :
    opened (int i ++ rest) = some (.item (receivedInt i), rest) := by
  have hreceived : receivedInt i = .formed .signed i := if_pos hneg
  unfold int
  rw [hreceived, if_neg (Int.not_le.mpr hneg)]
  by_cases h5 : -0x20 ≤ i
  · obtain ⟨n, hn⟩ := Int.eq_ofNat_of_zero_le (show 0 ≤ 0x100 + i by omega)
    rw [if_pos h5, hn, Int.toNat_natCast]
    show head? (UInt8.ofNat n).toNat rest = _
    rw [UInt8.toNat_ofNat', Nat.mod_eq_of_lt (by omega)]
    unfold head?
    rw [if_neg (by omega), if_neg (by omega), if_neg (by omega), if_neg (by omega),
      if_pos (by omega), show (n : Int) - 0x100 = i by omega]
  rw [if_neg h5]
  by_cases h8 : -0x80 ≤ i
  · rw [if_pos h8]
    exact signedItem?_big 1 0x100 rfl rfl hneg (show (0x80 : Int) ≤ 0x100 + i by omega) rest
  rw [if_neg h8]
  by_cases h16 : -0x8000 ≤ i
  · rw [if_pos h16]
    exact signedItem?_big 2 0x10000 rfl rfl hneg (show (0x8000 : Int) ≤ 0x10000 + i by omega) rest
  rw [if_neg h16]
  by_cases h32 : -0x80000000 ≤ i
  · rw [if_pos h32]
    exact signedItem?_big 4 0x100000000 rfl rfl hneg
      (show (0x80000000 : Int) ≤ 0x100000000 + i by omega) rest
  · have h : -0x8000000000000000 ≤ i := h
    rw [if_neg h32]
    exact signedItem?_big 8 0x10000000000000000 rfl rfl hneg
      (show (0x8000000000000000 : Int) ≤ 0x10000000000000000 + i by omega) rest

theorem opened_int {i : Int} (h : Fits64 i) (rest : List UInt8) :
    opened (int i ++ rest) = some (.item (receivedInt i), rest) := by
  rcases Int.lt_or_le i 0 with hneg | hpos
  · exact opened_negative hneg h.1 rest
  · obtain ⟨n, rfl⟩ := Int.eq_ofNat_of_zero_le hpos
    exact opened_nat (Int.ofNat_lt.mp h.2) rest

/-! ## Sizes of heads -/

theorem length_int_pos (i : Int) : 0 < (int i).length := by
  unfold int
  dsimp only
  repeat' split
  all_goals exact Nat.succ_pos _

theorem length_textHead_pos (n : Nat) : 0 < (textHead n).length := by
  unfold textHead
  repeat' split
  all_goals exact Nat.succ_pos _

theorem length_bytesHead_pos (n : Nat) : 0 < (bytesHead n).length := by
  unfold bytesHead
  repeat' split
  all_goals exact Nat.succ_pos _

theorem length_listHead_pos (n : Nat) : 0 < (listHead n).length := by
  unfold listHead
  repeat' split
  all_goals exact Nat.succ_pos _

theorem length_mapHead_pos (n : Nat) : 0 < (mapHead n).length := by
  unfold mapHead
  repeat' split
  all_goals exact Nat.succ_pos _

/-! ## Data -/

mutual

/-- Data as it is read back: every whole number in the form of its octets. -/
def received : Datum → Datum
  | .int i => receivedInt i
  | .formed _ i => receivedInt i
  | .list items => .list (receivedItems items)
  | .map entries => .map (receivedEntries entries)
  | d => d
termination_by structural d => d

def receivedItems : List Datum → List Datum
  | [] => []
  | d :: rest => received d :: receivedItems rest
termination_by structural items => items

def receivedEntries : List (Datum × Datum) → List (Datum × Datum)
  | [] => []
  | (k, d) :: rest => (received k, received d) :: receivedEntries rest
termination_by structural entries => entries

end

mutual

/-- Every whole number fits into 64 bits. -/
def InRange : Datum → Prop
  | .int i => Fits64 i
  | .formed _ i => Fits64 i
  | .list items => ItemsInRange items
  | .map entries => EntriesInRange entries
  | _ => True
termination_by structural d => d

def ItemsInRange : List Datum → Prop
  | [] => True
  | d :: rest => InRange d ∧ ItemsInRange rest
termination_by structural items => items

def EntriesInRange : List (Datum × Datum) → Prop
  | [] => True
  | (k, d) :: rest => InRange k ∧ InRange d ∧ EntriesInRange rest
termination_by structural entries => entries

end

mutual

/-- Heads tell in 32 bits how long a text, bytes, a list or a map is. -/
def Countable : Datum → Prop
  | .string s => (Text.Utf8.encode s).length < Nat.pow 2 32
  | .bytes bs => bs.length < Nat.pow 2 32
  | .list items => items.length < Nat.pow 2 32 ∧ ItemsCountable items
  | .map entries => entries.length < Nat.pow 2 32 ∧ EntriesCountable entries
  | _ => True
termination_by structural d => d

def ItemsCountable : List Datum → Prop
  | [] => True
  | d :: rest => Countable d ∧ ItemsCountable rest
termination_by structural items => items

def EntriesCountable : List (Datum × Datum) → Prop
  | [] => True
  | (k, d) :: rest => Countable k ∧ Countable d ∧ EntriesCountable rest
termination_by structural entries => entries

end

/-- Every item takes an octet. -/
theorem length_encode_pos (d : Datum) : 0 < (encode d).length := by
  cases d with
  | null => exact Nat.succ_pos _
  | bool b => exact Nat.succ_pos _
  | int i => exact length_int_pos i
  | formed form i => exact length_int_pos i
  | float x => exact Nat.succ_pos _
  | string s =>
    have hhead := length_textHead_pos (Text.Utf8.encode s).length
    rw [encode, text, List.length_append]
    omega
  | bytes bs =>
    have hhead := length_bytesHead_pos bs.length
    rw [encode, List.length_append]
    omega
  | garbled => exact Nat.succ_pos _
  | list items =>
    have hhead := length_listHead_pos items.length
    rw [encode, List.length_append]
    omega
  | map entries =>
    have hhead := length_mapHead_pos entries.length
    rw [encode, List.length_append]
    omega
  | extension => exact Nat.succ_pos _

theorem length_le_encodeItems (ds : List Datum) : ds.length ≤ (encodeItems ds).length := by
  induction ds with
  | nil => exact Nat.le_refl 0
  | cons d ds ih =>
    have hpos := length_encode_pos d
    rw [encodeItems, List.length_append, List.length_cons]
    omega

theorem length_le_encodeEntries (es : List (Datum × Datum)) :
    es.length ≤ (encodeEntries es).length := by
  induction es with
  | nil => exact Nat.le_refl 0
  | cons e es ih =>
    have hpos := length_encode_pos e.1
    rw [encodeEntries, List.length_append, List.length_append, List.length_cons]
    omega

mutual

/-- What takes fewer octets than 32 bits count has nothing in it that they do not count. -/
theorem countable_of_length : ∀ {d : Datum}, (encode d).length < Nat.pow 2 32 → Countable d
  | .null, _ | .bool _, _ | .int _, _ | .formed _ _, _ | .float _, _ => trivial
  | .garbled, _ | .extension, _ => trivial
  | .string s, h => by
    rw [encode, text, List.length_append] at h
    exact Nat.lt_of_le_of_lt (Nat.le_add_left _ _) h
  | .bytes bs, h => by
    rw [encode, List.length_append] at h
    exact Nat.lt_of_le_of_lt (Nat.le_add_left _ _) h
  | .list items, h => by
    have hcount := length_le_encodeItems items
    rw [encode, List.length_append] at h
    exact ⟨by omega, itemsCountable_of_length (by omega)⟩
  | .map entries, h => by
    have hcount := length_le_encodeEntries entries
    rw [encode, List.length_append] at h
    exact ⟨by omega, entriesCountable_of_length (by omega)⟩
termination_by structural d => d

theorem itemsCountable_of_length : ∀ {ds : List Datum},
    (encodeItems ds).length < Nat.pow 2 32 → ItemsCountable ds
  | [], _ => trivial
  | d :: ds, h => by
    rw [encodeItems, List.length_append] at h
    exact ⟨countable_of_length (by omega), itemsCountable_of_length (by omega)⟩
termination_by structural ds => ds

theorem entriesCountable_of_length : ∀ {es : List (Datum × Datum)},
    (encodeEntries es).length < Nat.pow 2 32 → EntriesCountable es
  | [], _ => trivial
  | (k, d) :: es, h => by
    rw [encodeEntries, List.length_append, List.length_append] at h
    exact ⟨countable_of_length (by omega), countable_of_length (by omega),
      entriesCountable_of_length (by omega)⟩
termination_by structural es => es

end

/-! ## Reading what was written -/

theorem opened_float (x : Double) (rest : List UInt8) :
    opened (encode (.float x) ++ rest) = some (.item (.float x), rest) := by
  have hbits : x.bits.toNat < Nat.pow 256 8 := x.bits.toNat_lt
  have hhead : opened (encode (.float x) ++ rest) =
      (nat? 8 (Octets.big 8 x.bits.toNat ++ rest)).map
        fun p => (.item (.float ⟨UInt64.ofNat p.1⟩), p.2) := rfl
  rw [hhead, nat?_big hbits, Option.map_some]
  dsimp only
  rw [UInt64.ofNat_toNat]

theorem opened_text {s : String} (h : (Text.Utf8.encode s).length < Nat.pow 2 32)
    (rest : List UInt8) : opened (text s ++ rest) = some (.item (.string s), rest) := by
  unfold text
  rw [List.append_assoc, opened_textHead h]
  unfold text? textOf
  rw [Octets.take?_append rfl]
  dsimp only [Option.map_some, item?]
  rw [Text.Utf8.decode?_encode]

theorem opened_bytes {bs : List UInt8} (h : bs.length < Nat.pow 2 32) (rest : List UInt8) :
    opened (encode (.bytes bs) ++ rest) = some (.item (.bytes bs), rest) := by
  rw [encode, List.append_assoc, opened_bytesHead h]
  unfold bytes?
  rw [Octets.take?_append rfl]
  rfl

theorem opened_garbled (rest : List UInt8) :
    opened (encode .garbled ++ rest) = some (.item .garbled, rest) := by
  have hgarbled : Text.Utf8.decode? [0xff] = none := by decide
  rw [encode, List.append_assoc, opened_textHead (by decide)]
  unfold text? textOf
  rw [Octets.take?_append (show [(0xff : UInt8)].length = 1 from rfl)]
  dsimp only [Option.map_some, item?]
  rw [hgarbled]

/-- A head and the item that it announces. -/
theorem item_of_opened {fuel : Nat} (hfuel : 0 < fuel) {bs rest : List UInt8} {d : Datum}
    (h : opened bs = some (.item d, rest)) : item fuel bs = some (d, rest) := by
  obtain ⟨fuel, rfl⟩ := Nat.exists_eq_add_of_le' hfuel
  rw [item_succ, h]

mutual

theorem item_encode : ∀ {d : Datum}, InRange d → Countable d →
    ∀ fuel : Nat, 2 * (encode d).length ≤ fuel → ∀ rest : List UInt8,
      item fuel (encode d ++ rest) = some (received d, rest)
  | .null, _, _, _, hfuel, _ => item_of_opened (Nat.lt_of_lt_of_le Nat.two_pos hfuel) rfl
  | .bool true, _, _, _, hfuel, _ => item_of_opened (Nat.lt_of_lt_of_le Nat.two_pos hfuel) rfl
  | .bool false, _, _, _, hfuel, _ => item_of_opened (Nat.lt_of_lt_of_le Nat.two_pos hfuel) rfl
  | .int i, hrange, _, _, hfuel, rest => by
    have hpos := length_encode_pos (.int i)
    exact item_of_opened (by omega) (opened_int hrange rest)
  | .formed form i, hrange, _, _, hfuel, rest => by
    have hpos := length_encode_pos (.formed form i)
    exact item_of_opened (by omega) (opened_int hrange rest)
  | .float x, _, _, _, hfuel, rest => by
    have hpos := length_encode_pos (.float x)
    exact item_of_opened (by omega) (opened_float x rest)
  | .string s, _, hcounted, _, hfuel, rest => by
    have hpos := length_encode_pos (.string s)
    exact item_of_opened (by omega) (opened_text hcounted rest)
  | .bytes bs, _, hcounted, _, hfuel, rest => by
    have hpos := length_encode_pos (.bytes bs)
    exact item_of_opened (by omega) (opened_bytes hcounted rest)
  | .garbled, _, _, _, hfuel, rest =>
    item_of_opened (Nat.lt_of_lt_of_le (by decide) hfuel) (opened_garbled rest)
  | .extension, _, _, _, hfuel, _ => item_of_opened (Nat.lt_of_lt_of_le (by decide) hfuel) rfl
  | .list items, hrange, hcounted, fuel, hfuel, rest => by
    have hhead := length_listHead_pos items.length
    rw [encode, List.length_append] at hfuel
    obtain ⟨fuel, rfl⟩ := Nat.exists_eq_add_of_le' (show 1 ≤ fuel by omega)
    have hitems := items_encode hrange hcounted.2 fuel (by omega) rest
    rw [encode, List.append_assoc, item_succ, opened_listHead hcounted.1]
    dsimp only
    rw [hitems]
    rfl
  | .map entries, hrange, hcounted, fuel, hfuel, rest => by
    have hhead := length_mapHead_pos entries.length
    rw [encode, List.length_append] at hfuel
    obtain ⟨fuel, rfl⟩ := Nat.exists_eq_add_of_le' (show 1 ≤ fuel by omega)
    have hentries := entries_encode hrange hcounted.2 fuel (by omega) rest
    rw [encode, List.append_assoc, item_succ, opened_mapHead hcounted.1]
    dsimp only
    rw [hentries]
    rfl
termination_by structural d => d

theorem items_encode : ∀ {ds : List Datum}, ItemsInRange ds → ItemsCountable ds →
    ∀ fuel : Nat, 2 * (encodeItems ds).length < fuel → ∀ rest : List UInt8,
      items fuel ds.length (encodeItems ds ++ rest) = some (receivedItems ds, rest)
  | [], _, _, fuel, _, rest => by cases fuel <;> rfl
  | d :: ds, hrange, hcounted, fuel, hfuel, rest => by
    have hpos := length_encode_pos d
    rw [encodeItems, List.length_append] at hfuel
    obtain ⟨fuel, rfl⟩ := Nat.exists_eq_add_of_le' (Nat.lt_of_le_of_lt (Nat.zero_le _) hfuel)
    have hhead := item_encode hrange.1 hcounted.1 fuel (by omega)
    have htail := items_encode hrange.2 hcounted.2 fuel (by omega) rest
    rw [encodeItems, List.append_assoc, List.length_cons, items, hhead]
    dsimp only
    rw [htail]
    rfl
termination_by structural ds => ds

theorem entries_encode : ∀ {es : List (Datum × Datum)}, EntriesInRange es →
    EntriesCountable es →
    ∀ fuel : Nat, 2 * (encodeEntries es).length < fuel → ∀ rest : List UInt8,
      entries fuel es.length (encodeEntries es ++ rest) = some (receivedEntries es, rest)
  | [], _, _, fuel, _, rest => by cases fuel <;> rfl
  | (k, d) :: es, hrange, hcounted, fuel, hfuel, rest => by
    have hpos := length_encode_pos k
    rw [encodeEntries, List.length_append, List.length_append] at hfuel
    obtain ⟨fuel, rfl⟩ := Nat.exists_eq_add_of_le' (Nat.lt_of_le_of_lt (Nat.zero_le _) hfuel)
    have hkey := item_encode hrange.1 hcounted.1 fuel (by omega)
    have hhead := item_encode hrange.2.1 hcounted.2.1 fuel (by omega)
    have htail := entries_encode hrange.2.2 hcounted.2.2 fuel (by omega) rest
    rw [encodeEntries, List.append_assoc, List.append_assoc, List.length_cons, entries, hkey]
    dsimp only
    rw [hhead]
    dsimp only
    rw [htail]
    rfl
termination_by structural es => es

end

/-- A message holds what was written. -/
theorem decode?_encode {d : Datum} (hrange : InRange d) (hcounted : Countable d) :
    decode? (encode d) = some (received d, []) := by
  have hitem := item_encode hrange hcounted (2 * (encode d).length + 2) (by omega) []
  rwa [List.append_nil] at hitem

/-! ## Lists and maps -/

theorem receivedItems_eq_map (ds : List Datum) : receivedItems ds = ds.map received := by
  induction ds with
  | nil => rfl
  | cons d ds ih => rw [receivedItems, ih, List.map_cons]

theorem receivedEntries_eq_map (es : List (Datum × Datum)) :
    receivedEntries es = es.map fun e => (received e.1, received e.2) := by
  induction es with
  | nil => rfl
  | cons e es ih => rw [receivedEntries, ih, List.map_cons]

theorem receivedInt_whole? (i : Int) : (receivedInt i).whole? = some i := by
  unfold receivedInt
  repeat' split
  all_goals rfl

end StructuredSql.MessagePack
