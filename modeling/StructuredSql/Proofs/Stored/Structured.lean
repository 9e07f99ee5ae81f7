-- Structured text reads back. Every value has a normal form, the value that its
-- text says, and reading the text of a value in front of any other text gives the
-- normal form and the other text.
import StructuredSql.Stored.Structured
import StructuredSql.Proofs.Entries
import StructuredSql.Proofs.Text.Numeral
import StructuredSql.Proofs.Value.Everywhere

namespace StructuredSql

/-! ## The normal form -/

/-- The keys are the positions of the entries, counted from zero. -/
def Entries.Positional {α : Type} (entries : Entries α) : Prop :=
  entries.keys = (List.range entries.length).map toString

instance {α : Type} (entries : Entries α) : Decidable entries.Positional :=
  inferInstanceAs (Decidable (_ = _))

namespace Structured

mutual

/-- The value that the structured text of a value says: text in place of bytes and of
fragments, and a list in place of a map whose keys are positions. -/
def normal : Value → Value
  | .bytes bs => .string (Text.Utf8.decodeLossy bs)
  | .raw fragment => .string fragment.sql
  | .array items => .array (normalItems items)
  | .object fields =>
    if Entries.Positional fields then .array (Entries.contents (normalFields fields))
    else .object (normalFields fields)
  | .null => .null
  | .bool b => .bool b
  | .int i => .int i
  | .float x => .float x
  | .string s => .string s
termination_by structural v => v

def normalItems : List Value → List Value
  | [] => []
  | v :: rest => normal v :: normalItems rest
termination_by structural items => items

def normalFields : List (String × Value) → List (String × Value)
  | [] => []
  | (k, v) :: rest => (k, normal v) :: normalFields rest
termination_by structural fields => fields

end

theorem keys_normalFields (fields : Fields) :
    Entries.keys (normalFields fields) = Entries.keys fields := by
  induction fields with
  | nil => rfl
  | cons e rest ih => exact congrArg (e.1 :: ·) ih

theorem length_normalFields (fields : Fields) : (normalFields fields).length = fields.length := by
  induction fields with
  | nil => rfl
  | cons e rest ih => exact congrArg (· + 1) ih

/-! ## What is read back -/

/-- Different entries of a map have different keys. -/
def DistinctKeys : Value → Prop
  | .object fields => Entries.Distinct fields
  | _ => True

/-- A float is what its text reads as. -/
def FloatReadsBack : Value → Prop
  | .float x => Text.readDouble? x.toText.toList = some x
  | _ => True

/-- Sizes and counts in memory are below this. -/
def sizeLimit : Nat := Nat.pow 2 63

/-- Texts and containers are no longer than the memory of a machine with addresses of
64 bits. -/
def FitsMemory : Value → Prop
  | .string s => s.utf8ByteSize < sizeLimit
  | .bytes bs => (Text.Utf8.decodeLossy bs).utf8ByteSize < sizeLimit
  | .raw fragment => fragment.sql.utf8ByteSize < sizeLimit
  | .array items => items.length < sizeLimit
  | .object fields =>
    fields.length < sizeLimit ∧ ∀ k ∈ Entries.keys fields, k.utf8ByteSize < sizeLimit
  | _ => True

/-- A value whose text reads back. -/
def Restorable (v : Value) : Prop := (DistinctKeys v ∧ FitsMemory v) ∧ FloatReadsBack v

/-! ## Scanning -/

theorem until?_append {stop : Char} {s : List Char} (h : stop ∉ s) (rest : List Char) :
    until? stop (s ++ stop :: rest) = some (s, rest) := by
  induction s with
  | nil => simp [until?]
  | cons c s ih =>
    obtain ⟨hc, hs⟩ := not_or.1 (mt List.mem_cons.2 h)
    rw [List.cons_append, until?, if_neg (Ne.symm hc), ih hs]
    rfl

theorem until?_numeral (stop : Char) (hstop : Text.isNumeral stop = false) {s : List Char}
    (hs : Text.Numeral s) (rest : List Char) :
    until? stop (s ++ stop :: rest) = some (s, rest) := by
  refine until?_append (fun hmem => ?_) rest
  rw [hs stop hmem] at hstop
  cases hstop

/-- The characters of a text are taken off by its number of bytes. -/
theorem takeBytes?_append (s rest : List Char) :
    takeBytes? (String.ofList s).utf8ByteSize (s ++ rest) = some (s, rest) := by
  induction s with
  | nil => simp [takeBytes?]
  | cons c s ih =>
    have hsize := Text.utf8ByteSize_ofList_cons c s
    have hpos := c.utf8Size_pos
    obtain ⟨n, hn⟩ : ∃ n, (String.ofList (c :: s)).utf8ByteSize = n + 1 :=
      ⟨c.utf8Size + (String.ofList s).utf8ByteSize - 1, by omega⟩
    rw [hn, List.cons_append, takeBytes?, if_pos (by omega),
      show n + 1 - c.utf8Size = (String.ofList s).utf8ByteSize by omega, ih]
    rfl

theorem until?_natChars (stop : Char) (hstop : Text.isNumeral stop = false) (n : Nat)
    (rest : List Char) : until? stop (natChars n ++ stop :: rest) = some (natChars n, rest) :=
  until?_numeral stop hstop (Text.numeral_natRepr n) rest

theorem readCount?_natChars {n : Nat} (h : n < sizeLimit) : Text.readCount? (natChars n) = some n :=
  Text.readCount?_natRepr (Nat.lt_trans h (by decide))

theorem string?_append (s : String) (h : s.utf8ByteSize < sizeLimit) (rest : List Char) :
    string? (natChars s.utf8ByteSize ++ ':' :: '"' :: (s.toList ++ '"' :: ';' :: rest))
      = some (.string s, rest) := by
  have htake := takeBytes?_append s.toList ('"' :: ';' :: rest)
  rw [String.ofList_toList] at htake
  unfold string?
  rw [until?_natChars ':' (by decide)]
  simp only [Option.bind_eq_bind, Option.bind_some, readCount?_natChars h, htake,
    String.ofList_toList]

/-! ## Scalars in front of more text -/

variable (depth : Nat) (after : List Char)

theorem value?_string (s : String) (h : s.utf8ByteSize < sizeLimit) :
    value? depth (stringChars s ++ after) = some (.string s, after) := by
  have hstring := string?_append s h after
  unfold stringChars
  simp only [List.cons_append, List.append_assoc, List.nil_append]
  rw [value?]
  exact hstring

theorem value?_integer (i : Int64) :
    value? depth (integerChars i.toInt ++ after) = some (.int i, after) := by
  have huntil := until?_numeral ';' (by decide) (Text.numeral_intRepr i.toInt) after
  unfold integerChars
  simp only [List.cons_append, List.append_assoc, List.nil_append]
  rw [value?]
  unfold intChars
  simp only [huntil, Option.bind_eq_bind, Option.bind_some, Text.readInt64?_toString]
  rfl

theorem value?_float (x : Double) (h : Text.readDouble? x.toText.toList = some x) :
    value? depth ('d' :: ':' :: (x.toText.toList ++ ';' :: after)) = some (.float x, after) := by
  have huntil := until?_numeral ';' (by decide) (Text.numeral_toText x) after
  rw [value?]
  simp only [huntil, Option.bind_eq_bind, Option.bind_some, h]
  rfl

/-! ## Keys -/

/-- The key that the text of a map's key says. -/
def keyOf (key : String) : Key :=
  match integerKey? key with
  | some i => .integer i
  | none => .string key

theorem toString_of_integerKey? {key : String} {i : Int64} (h : integerKey? key = some i) :
    toString i.toInt = key := by
  unfold integerKey? at h
  split at h
  · split at h
    · rename_i hkey
      rwa [← Option.some.inj h]
    · cases h
  · cases h

theorem integerKey?_toString (i : Int64) : integerKey? (toString i.toInt) = some i := by
  unfold integerKey?
  rw [Text.readInt64?_toString]
  exact if_pos rfl

theorem text_keyOf (key : String) : (keyOf key).text = key := by
  unfold keyOf
  split
  · rename_i i h
    exact toString_of_integerKey? h
  · rfl

theorem value?_keyChars (key : String) (h : key.utf8ByteSize < sizeLimit) :
    ∃ v, value? depth (keyChars key ++ after) = some (v, after) ∧
      Key.ofValue? v = some (keyOf key) := by
  unfold keyChars keyOf
  cases integerKey? key with
  | some i => exact ⟨.int i, value?_integer depth after i, rfl⟩
  | none => exact ⟨.string key, value?_string depth after key h, rfl⟩

/-! ## Containers in front of more text -/

/-- Values under the positions from which they are read. -/
def placed (position : Nat) : List Value → List (Key × Value)
  | [] => []
  | v :: rest => (.integer (Int64.ofNat position), v) :: placed (position + 1) rest

/-- Fields under the keys as which theirs are read. -/
def keyed (fields : Fields) : List (Key × Value) := fields.map fun e => (keyOf e.1, e.2)

mutual

theorem charsBefore_append : ∀ (v : Value) (after : List Char),
    charsBefore v after = charsBefore v [] ++ after
  | .array items, after => by
    simp only [charsBefore]
    rw [itemsBefore_append items 0 ('}' :: after), itemsBefore_append items 0 ['}']]
    simp
  | .object fields, after => by
    simp only [charsBefore]
    rw [fieldsBefore_append fields ('}' :: after), fieldsBefore_append fields ['}']]
    simp
  | .null, _ => rfl
  | .bool _, _ => rfl
  | .int _, _ => by simp [charsBefore]
  | .float _, _ => by simp [charsBefore]
  | .string _, _ => by simp [charsBefore]
  | .bytes _, _ => by simp [charsBefore]
  | .raw ⟨_, _⟩, _ => by simp [charsBefore]
termination_by structural v => v

theorem itemsBefore_append : ∀ (items : List Value) (position : Nat) (after : List Char),
    itemsBefore position items after = itemsBefore position items [] ++ after
  | [], _, _ => rfl
  | v :: rest, position, after => by
    simp only [itemsBefore]
    rw [itemsBefore_append rest (position + 1) after,
      charsBefore_append v (itemsBefore (position + 1) rest [] ++ after),
      charsBefore_append v (itemsBefore (position + 1) rest [])]
    simp
termination_by structural items => items

theorem fieldsBefore_append : ∀ (fields : List (String × Value)) (after : List Char),
    fieldsBefore fields after = fieldsBefore fields [] ++ after
  | [], _ => rfl
  | (k, v) :: rest, after => by
    simp only [fieldsBefore]
    rw [fieldsBefore_append rest after, charsBefore_append v (fieldsBefore rest [] ++ after),
      charsBefore_append v (fieldsBefore rest [])]
    simp
termination_by structural fields => fields

end

/-- A container reads back when its entries do. -/
theorem value?_openChars {count : Nat} (hcount : count < sizeLimit) {s : List Char}
    {pairs : List (Key × Value)}
    (h : entries? (value? depth) count s = some (pairs, '}' :: after)) :
    value? (depth + 1) (openChars count ++ s) = some (container pairs, after) := by
  have huntil := until?_natChars ':' (by decide) count ('{' :: s)
  unfold openChars
  simp only [List.cons_append, List.append_assoc, List.nil_append]
  rw [value?]
  simp only [huntil, Option.bind_eq_bind, Option.bind_some, readCount?_natChars hcount, h]

theorem entries?_cons {inner : List Char → Option (Value × List Char)} {n : Nat}
    {s t u rest : List Char} {k v : Value} {key : Key} {pairs : List (Key × Value)}
    (hk : inner s = some (k, t)) (hkey : Key.ofValue? k = some key) (hv : inner t = some (v, u))
    (hrest : entries? inner n u = some (pairs, rest)) :
    entries? inner (n + 1) s = some ((key, v) :: pairs, rest) := by
  simp only [entries?, Option.bind_eq_bind, Option.bind_some, hk, hkey, hv, hrest]
  rfl

theorem countsFrom_placed (position : Nat) (items : List Value) :
    countsFrom position (placed position items) = true := by
  induction items generalizing position with
  | nil => rfl
  | cons v rest ih => simp [placed, countsFrom, ih]

theorem container_placed (items : List Value) : container (placed 0 items) = .array items := by
  have hitems : ∀ position, (placed position items).map (·.2) = items := by
    induction items with
    | nil => exact fun _ => rfl
    | cons v rest ih => exact fun position => congrArg (v :: ·) (ih (position + 1))
  unfold container
  rw [if_pos (countsFrom_placed 0 items), hitems]

/-- A key is read as a position exactly when it is written like one. -/
theorem keyOf_eq_integer {key : String} {position : Nat} (h : position < sizeLimit) :
    keyOf key = .integer (Int64.ofNat position) ↔ key = toString position := by
  have hto : toString (Int64.ofNat position).toInt = toString position := by
    rw [Int64.toInt_ofNat_of_lt h]
    rfl
  constructor
  · intro hkey
    rw [← text_keyOf key, hkey]
    exact hto
  · rintro rfl
    unfold keyOf
    rw [← hto, integerKey?_toString]

theorem countsFrom_keyed {fields : Fields} {position : Nat}
    (h : position + fields.length ≤ sizeLimit) :
    countsFrom position (keyed fields) = true ↔
      Entries.keys fields = (List.range' position fields.length).map toString := by
  induction fields generalizing position with
  | nil => simp [keyed, countsFrom, Entries.keys]
  | cons e rest ih =>
    rw [List.length_cons] at h
    show (keyOf e.1 == _ && countsFrom (position + 1) (keyed rest)) = true ↔ _
    rw [Bool.and_eq_true, beq_iff_eq, keyOf_eq_integer (by omega), ih (by omega),
      List.length_cons, List.range'_succ, List.map_cons]
    exact List.cons.injEq _ _ _ _ ▸ Iff.rfl

theorem container_keyed {fields : Fields} (hd : Entries.Distinct fields)
    (h : fields.length < sizeLimit) :
    container (keyed fields) =
      if Entries.Positional fields then .array (Entries.contents fields) else .object fields := by
  have hkeys : (keyed fields).map (fun p => (p.1.text, p.2)) = fields := by
    simp [keyed, Function.comp_def, text_keyOf]
  have hcontents : (keyed fields).map (·.2) = Entries.contents fields := by
    simp [keyed, Entries.contents]
  have hcounts : countsFrom 0 (keyed fields) = true ↔ Entries.Positional fields := by
    rw [Entries.Positional, List.range_eq_range']
    exact countsFrom_keyed (by omega)
  unfold container
  rw [hkeys, hcontents, Entries.ofPairs_of_nodup hd]
  exact if_congr hcounts rfl rfl

/-! ## Reading back -/

theorem Restorable.distinct {fields : Fields} (h : Restorable (.object fields)) :
    Entries.Distinct fields :=
  h.1.1

theorem Restorable.fits {v : Value} (h : Restorable v) : FitsMemory v := h.1.2

mutual

/-- The text of a value reads back as its normal form, whatever follows it. -/
theorem value?_charsBefore : ∀ (v : Value), v.Everywhere Restorable → ∀ (depth : Nat)
    (after : List Char), (charsBefore v []).length ≤ depth →
    value? depth (charsBefore v after) = some (normal v, after)
  | .null, _, depth, after, _ => by simp [charsBefore, value?, normal]
  | .bool b, _, depth, after, _ => by cases b <;> simp [charsBefore, value?, normal, until?]
  | .int i, _, depth, after, _ => value?_integer depth after i
  | .float x, h, depth, after, _ => value?_float depth after x h.2
  | .string s, h, depth, after, _ => value?_string depth after s h.fits
  | .bytes bs, h, depth, after, _ => value?_string depth after _ h.fits
  | .raw ⟨sql, _⟩, h, depth, after, _ => value?_string depth after sql h.fits
  | .array items, h, depth, after, hdepth => by
    simp only [charsBefore] at hdepth ⊢
    rw [itemsBefore_append] at hdepth
    obtain ⟨depth, rfl⟩ : ∃ n, depth = n + 1 := ⟨depth - 1, by simp [openChars] at hdepth; omega⟩
    have hitems := entries?_itemsBefore items h.2 depth 0 ('}' :: after)
      (by have := h.1.fits; simp only [FitsMemory] at this; omega)
      (by simp [openChars] at hdepth; omega)
    rw [value?_openChars depth after h.1.fits hitems, container_placed, normal]
  | .object fields, h, depth, after, hdepth => by
    simp only [charsBefore] at hdepth ⊢
    rw [fieldsBefore_append] at hdepth
    obtain ⟨depth, rfl⟩ : ∃ n, depth = n + 1 := ⟨depth - 1, by simp [openChars] at hdepth; omega⟩
    have hfields := entries?_fieldsBefore fields h.2 h.1.fits.2 depth ('}' :: after)
      (by simp [openChars] at hdepth; omega)
    have hdistinct : Entries.Distinct (normalFields fields) := by
      rw [Entries.Distinct, keys_normalFields]
      exact h.1.distinct
    have hpositional : Entries.Positional (normalFields fields) ↔ Entries.Positional fields := by
      rw [Entries.Positional, Entries.Positional, keys_normalFields, length_normalFields]
    rw [value?_openChars depth after h.1.fits.1 hfields,
      container_keyed hdistinct (by rw [length_normalFields]; exact h.1.fits.1), normal]
    exact congrArg some (congrArg (·, after) (if_congr hpositional rfl rfl))
termination_by structural v => v

theorem entries?_itemsBefore : ∀ (items : List Value), ItemsEverywhere Restorable items →
    ∀ (depth position : Nat) (after : List Char), position + items.length ≤ sizeLimit →
    (itemsBefore position items []).length ≤ depth →
    entries? (value? depth) items.length (itemsBefore position items after)
      = some (placed position (normalItems items), after)
  | [], _, _, _, _, _, _ => rfl
  | v :: rest, h, depth, position, after, hsize, hdepth => by
    rw [List.length_cons] at hsize
    simp only [itemsBefore] at hdepth ⊢
    rw [charsBefore_append] at hdepth
    simp only [List.length_append] at hdepth
    have hlt : position < sizeLimit := by omega
    have hposition : (position : Int) = (Int64.ofNat position).toInt :=
      (Int64.toInt_ofNat_of_lt hlt).symm
    have hv := value?_charsBefore v h.1 depth (itemsBefore (position + 1) rest after) (by omega)
    have hrest := entries?_itemsBefore rest h.2 depth (position + 1) after (by omega) (by omega)
    rw [hposition]
    exact entries?_cons (value?_integer depth _ _) rfl hv hrest
termination_by structural items => items

theorem entries?_fieldsBefore : ∀ (fields : List (String × Value)),
    FieldsEverywhere Restorable fields → (∀ k ∈ Entries.keys fields, k.utf8ByteSize < sizeLimit) →
    ∀ (depth : Nat) (after : List Char), (fieldsBefore fields []).length ≤ depth →
    entries? (value? depth) fields.length (fieldsBefore fields after)
      = some (keyed (normalFields fields), after)
  | [], _, _, _, _, _ => rfl
  | (k, v) :: rest, h, hkeys, depth, after, hdepth => by
    simp only [fieldsBefore] at hdepth ⊢
    rw [charsBefore_append] at hdepth
    simp only [List.length_append] at hdepth
    obtain ⟨hk, hkeys⟩ := List.forall_mem_cons.1 hkeys
    have hv := value?_charsBefore v h.1 depth (fieldsBefore rest after) (by omega)
    have hrest := entries?_fieldsBefore rest h.2 hkeys depth after (by omega)
    obtain ⟨key, hread, hkey⟩ :=
      value?_keyChars depth (charsBefore v (fieldsBefore rest after)) k hk
    exact entries?_cons hread hkey hv hrest
termination_by structural fields => fields

end

/-- A value reads back from its text as its normal form, and the reader of one value takes
exactly this text off the front of any longer one. -/
theorem a_text_reads_as_the_normal_form {v : Value} (hkeys : v.Everywhere DistinctKeys)
    (hsizes : v.Everywhere FitsMemory) (hfloats : v.Everywhere FloatReadsBack) :
    parse? (print v) = some (normal v) ∧
      ∀ (more : String) (depth : Nat), (print v).length ≤ depth →
        value? depth (print v ++ more).toList = some (normal v, more.toList) := by
  have hreadable : v.Everywhere Restorable := (hkeys.and hsizes).and hfloats
  have hprint : (print v).toList = charsBefore v [] := String.toList_ofList
  constructor
  · unfold parse?
    simp only [hprint, value?_charsBefore v hreadable _ [] (Nat.le_refl _)]
  · intro more depth hdepth
    rw [← String.length_toList, hprint] at hdepth
    rw [String.toList_append, hprint, ← charsBefore_append]
    exact value?_charsBefore v hreadable depth more.toList hdepth

/-- A map under keys that look like numbers, with a list of texts that hold the marks of
the format and a map that is written like a list. -/
def oddKeys : Value :=
  .object [("7", .array [.string "a\";\x7d", .bytes [0x80, 0x3b], .float ⟨0x3fe0000000000000⟩]),
    ("-0", .object [("0", .null), ("1", .raw ⟨"NOW()", []⟩)]), ("007", .object [])]

/-- Its octets are read as characters, its fragment as text, and its map that looks like a list
as a list. -/
def oddKeysRead : Value :=
  .object [("7", .array [.string "a\";\x7d", .string "\uFFFD;", .float ⟨0x3fe0000000000000⟩]),
    ("-0", .array [.null, .string "NOW()"]), ("007", .array [])]

theorem oddKeys_reads :
    parse? (print oddKeys) = some oddKeysRead ∧
      value? (print oddKeys).length (print oddKeys ++ "N;").toList =
        some (oddKeysRead, "N;".toList) := by
  have hkeys : oddKeys.Everywhere DistinctKeys := by
    simp [oddKeys, Value.Everywhere, FieldsEverywhere, ItemsEverywhere, DistinctKeys,
      Entries.Distinct, Entries.keys]
  have hsizes : oddKeys.Everywhere FitsMemory := by
    simp only [oddKeys, Value.Everywhere, FieldsEverywhere, ItemsEverywhere, FitsMemory]
    decide
  have hfloats : oddKeys.Everywhere FloatReadsBack := by
    have hhalf : FloatReadsBack (.float ⟨0x3fe0000000000000⟩) := by
      unfold FloatReadsBack
      decide
    refine ⟨trivial, ⟨trivial, trivial, trivial, hhalf, trivial⟩, ?_⟩
    simp [Value.Everywhere, FieldsEverywhere, FloatReadsBack]
  obtain ⟨hparse, hvalue⟩ := a_text_reads_as_the_normal_form hkeys hsizes hfloats
  exact ⟨hparse, hvalue "N;" _ (Nat.le_refl _)⟩

end Structured
end StructuredSql
