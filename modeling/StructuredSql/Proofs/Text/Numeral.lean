-- The characters of numerals. A text that reads as a number, and a number written
-- as text, hold digits, letters, points and signs only. Whole numbers are read back from
-- their text, and it takes few octets.
import StructuredSql.Value.View
import StructuredSql.Text.Utf8
import Mathlib.Data.List.TakeWhile

namespace StructuredSql

/-- A character that may stand in a numeral. -/
def Text.isNumeral (c : Char) : Bool := c.isAlphanum || c == '.' || c == '+' || c == '-'

/-- Only such characters stand in the text. -/
def Text.Numeral (s : List Char) : Prop := ∀ c ∈ s, isNumeral c = true

instance (s : List Char) : Decidable (Text.Numeral s) :=
  List.decidableBAll (fun c => Text.isNumeral c = true) s

namespace Text

theorem Numeral.cons {c : Char} {s : List Char} (hc : isNumeral c = true) (hs : Numeral s) :
    Numeral (c :: s) :=
  List.forall_mem_cons.2 ⟨hc, hs⟩

theorem Numeral.append {s t : List Char} (hs : Numeral s) (ht : Numeral t) :
    Numeral (s ++ t) :=
  List.forall_mem_append.2 ⟨hs, ht⟩

theorem isNumeral_of_isDigit {c : Char} (h : c.isDigit = true) : isNumeral c = true := by
  simp [isNumeral, Char.isAlphanum, h]

theorem numeral_of_digits {s : List Char} (h : ∀ c ∈ s, c.isDigit = true) : Numeral s :=
  fun c hc => isNumeral_of_isDigit (h c hc)

/-! ## Numbers as text -/

/-- A character of a number that is written as text. -/
def isFigure (c : Char) : Bool := c.isDigit || ['.', '-', 'N', 'a', 'i', 'n', 'f'].contains c

theorem isFigure_of_isDigit {c : Char} (h : c.isDigit = true) : isFigure c = true :=
  Bool.or_eq_true_iff.2 (.inl h)

theorem isNumeral_of_isFigure {c : Char} (h : isFigure c = true) : isNumeral c = true := by
  rcases Bool.or_eq_true_iff.1 h with h | h
  · exact isNumeral_of_isDigit h
  · have hall : ∀ c ∈ ['.', '-', 'N', 'a', 'i', 'n', 'f'], isNumeral c = true := by decide
    exact hall c (List.contains_iff_mem.1 h)

/-- The text is written in such characters. -/
structure Figures (s : List Char) : Prop where
  ne_nil : s ≠ []
  all : ∀ c ∈ s, isFigure c = true

theorem Figures.numeral {s : List Char} (h : Figures s) : Numeral s :=
  fun c hc => isNumeral_of_isFigure (h.all c hc)

theorem Figures.cons {c : Char} {s : List Char} (hc : isFigure c = true) (hs : Figures s) :
    Figures (c :: s) :=
  ⟨by simp, List.forall_mem_cons.2 ⟨hc, hs.all⟩⟩

theorem figures_natRepr (n : Nat) : Figures (Nat.repr n).toList := by
  refine ⟨fun h => ?_, fun c hc => ?_⟩
  · have hempty : Nat.repr n = "" := String.toList_injective h
    exact Nat.repr_ne_empty hempty
  · rw [Nat.toList_repr] at hc
    exact isFigure_of_isDigit (Nat.isDigit_of_mem_toDigits (by decide) (by decide) hc)

theorem figures_intRepr (i : Int) : Figures (toString i).toList := by
  show Figures (Int.repr i).toList
  rw [Int.repr_eq_if]
  split
  · exact figures_natRepr _
  · rw [String.toList_append]
    exact (figures_natRepr _).cons (by decide)

theorem figures_signed (x : Double) {s : List Char} (h : Figures s) : Figures (x.signed s) := by
  unfold Double.signed
  split
  · exact h.cons (by decide)
  · exact h

theorem isFigure_of_mem_zeros {n : Nat} : ∀ c ∈ Double.zeros n, isFigure c = true := by
  intro c hc
  rw [List.eq_of_mem_replicate hc]
  decide

theorem figures_positional {digits : List Char} (h : Figures digits) (point : Int) :
    Figures (Double.positional digits point) := by
  unfold Double.positional
  split
  · refine ⟨by simp, ?_⟩
    simp only [List.forall_mem_cons, List.forall_mem_append]
    exact ⟨by decide, by decide, isFigure_of_mem_zeros, h.all⟩
  · dsimp only
    split
    · refine ⟨by simp [h.ne_nil], ?_⟩
      exact List.forall_mem_append.2 ⟨h.all, isFigure_of_mem_zeros⟩
    · refine ⟨by simp, ?_⟩
      simp only [List.forall_mem_cons, List.forall_mem_append]
      exact ⟨fun c hc => h.all c (List.mem_of_mem_take hc), by decide,
        fun c hc => h.all c (List.mem_of_mem_drop hc)⟩

theorem figures_toText (x : Double) : Figures x.toText.toList := by
  unfold Double.toText
  rw [String.toList_ofList]
  split
  · exact ⟨by decide, by decide⟩
  · split
    · exact figures_signed x ⟨by decide, by decide⟩
    · split
      · exact figures_signed x ⟨by decide, by decide⟩
      · exact figures_signed x (figures_positional (figures_natRepr _) _)

theorem numeral_natRepr (n : Nat) : Numeral (Nat.repr n).toList := (figures_natRepr n).numeral

theorem numeral_intRepr (i : Int) : Numeral (toString i).toList := (figures_intRepr i).numeral

theorem numeral_toText (x : Double) : Numeral x.toText.toList := (figures_toText x).numeral

/-! ## Texts that read as numbers -/

theorem ofDigits_append_singleton (ds : List Char) (c : Char) :
    ofDigits (ds ++ [c]) = 10 * ofDigits ds + digitValue c := by
  simp [ofDigits]

/-- The digits of a number read back as the number. -/
theorem ofDigits_toDigits (n : Nat) : ofDigits (Nat.toDigits 10 n) = n := by
  induction n using Nat.strongRecOn with
  | _ n ih =>
    have hvalue : ∀ d < 10, digitValue d.digitChar = d := fun d hd =>
      Nat.toNat_digitChar_sub_48_of_lt_ten hd
    rw [Nat.toDigits_eq_if (by decide)]
    split
    · rename_i hn
      simp [ofDigits, hvalue n hn]
    · rename_i hn
      rw [ofDigits_append_singleton, ih (n / 10) (by omega), hvalue _ (by omega)]
      omega

theorem natRepr_injective {n m : Nat} (h : Nat.repr n = Nat.repr m) : n = m := by
  have hdigits := congrArg (fun s => ofDigits s.toList) h
  simpa only [Nat.toList_repr, ofDigits_toDigits] using hdigits

theorem numeral_of_readDigits {s : List Char} {n : Nat} (h : readDigits? s = some n) :
    Numeral s := by
  unfold readDigits? at h
  split at h
  · rename_i hs
    exact numeral_of_digits (List.all_eq_true.1 hs.2)
  · cases h

theorem numeral_of_readInt {s : List Char} {i : Int} (h : readInt? s = some i) : Numeral s := by
  unfold readInt? at h
  split at h
  · rename_i digits
    cases hd : readDigits? digits with
    | none => simp [hd] at h
    | some n => exact (numeral_of_readDigits hd).cons (by decide)
  · obtain ⟨n, hn, -⟩ := Option.map_eq_some_iff.1 h
    exact (numeral_of_readDigits hn).cons (by decide)
  · obtain ⟨n, hn, -⟩ := Option.map_eq_some_iff.1 h
    exact numeral_of_readDigits hn

theorem numeral_of_readExponent {s : List Char} {e : Int} (h : readExponent? s = some e) :
    Numeral s := by
  cases s with
  | nil => simp [Numeral]
  | cons c s =>
    simp only [readExponent?] at h
    split at h
    · rename_i hc
      refine (numeral_of_readInt h).cons ?_
      simp only [Bool.or_eq_true, beq_iff_eq] at hc
      rcases hc with rfl | rfl <;> decide
    · cases h

theorem numeral_takeWhile_digits (s : List Char) : Numeral (s.takeWhile Char.isDigit) :=
  numeral_of_digits fun _ hc => List.mem_takeWhile_imp hc

theorem numeral_of_readDecimal {negative : Bool} {s : List Char} {x : Double}
    (h : readDecimal? negative s = some x) : Numeral s := by
  have hwhole := numeral_takeWhile_digits s
  rw [← List.takeWhile_append_dropWhile (p := Char.isDigit) (l := s)]
  refine hwhole.append ?_
  unfold readDecimal? at h
  dsimp only at h
  generalize s.dropWhile Char.isDigit = rest at h ⊢
  split at h
  · rename_i r
    dsimp only at h
    split at h
    · cases h
    · obtain ⟨e, he, -⟩ := Option.map_eq_some_iff.1 h
      rw [← List.takeWhile_append_dropWhile (p := Char.isDigit) (l := r)]
      exact ((numeral_takeWhile_digits r).append (numeral_of_readExponent he)).cons (by decide)
  · dsimp only at h
    split at h
    · cases h
    · obtain ⟨e, he, -⟩ := Option.map_eq_some_iff.1 h
      exact numeral_of_readExponent he

/-- A word in any case of letters holds letters only. -/
theorem numeral_of_word {s word : List Char} (h : s.map Char.toLower = word)
    (hw : ∀ c ∈ word, c.isAlpha = true) : Numeral s := by
  intro c hc
  have hlower := hw c.toLower (h ▸ List.mem_map_of_mem hc)
  have halpha : c.isAlpha = true := by
    by_cases hu : c.isUpper = true
    · exact Bool.or_eq_true_iff.2 (Or.inl hu)
    · have hsame : c.toLower = c := by
        unfold Char.toLower
        rw [dif_neg]
        exact fun hrange => hu (decide_eq_true hrange)
      rwa [hsame] at hlower
  simp [isNumeral, Char.isAlphanum, halpha]

theorem numeral_of_readDouble {s : List Char} {x : Double} (h : readDouble? s = some x) :
    Numeral s := by
  have hbody : Numeral (unsign s).2 := by
    unfold readDouble? at h
    dsimp only at h
    split at h
    · rename_i hword
      rcases hword with hword | hword
      · exact numeral_of_word hword (by decide)
      · exact numeral_of_word hword (by decide)
    · split at h
      · rename_i hword
        exact numeral_of_word hword (by decide)
      · exact numeral_of_readDecimal h
  unfold unsign at hbody
  split at hbody
  · exact hbody.cons (by decide)
  · exact hbody.cons (by decide)
  · exact hbody

/-! ## Whole numbers read back -/

theorem readDigits?_natRepr (n : Nat) : readDigits? (Nat.repr n).toList = some n := by
  have hdigits : ∀ c ∈ Nat.toDigits 10 n, c.isDigit = true := fun c hc =>
    Nat.isDigit_of_mem_toDigits (by decide) (by decide) hc
  unfold readDigits?
  rw [Nat.toList_repr, ofDigits_toDigits, if_pos]
  exact ⟨Nat.toDigits_ne_nil, List.all_eq_true.2 hdigits⟩

/-- The text of a number starts with a digit, so with no sign. -/
theorem head_natRepr_ne (n : Nat) {c : Char} (hc : c.isDigit = false) (s : List Char) :
    (Nat.repr n).toList ≠ c :: s := by
  intro h
  have hmem : c ∈ Nat.toDigits 10 n := by
    rw [← Nat.toList_repr, h]
    exact List.mem_cons_self
  rw [Nat.isDigit_of_mem_toDigits (by decide) (by decide) hmem] at hc
  cases hc

theorem readNat?_natRepr (n : Nat) : readNat? (Nat.repr n).toList = some n := by
  unfold readNat?
  split
  · rename_i s h
    exact absurd h (head_natRepr_ne n (by decide) s)
  · exact readDigits?_natRepr n

theorem readCount?_natRepr {n : Nat} (h : n < Nat.pow 2 64) :
    readCount? (Nat.repr n).toList = some n := by
  unfold readCount?
  rw [readNat?_natRepr, Option.bind_some, if_pos h]

theorem readInt?_toString (i : Int) : readInt? (toString i).toList = some i := by
  show readInt? (Int.repr i).toList = some i
  rw [Int.repr_eq_if]
  split
  · unfold readInt?
    split
    · rename_i s h
      exact absurd h (head_natRepr_ne _ (by decide) s)
    · rename_i s h
      exact absurd h (head_natRepr_ne _ (by decide) s)
    · rw [readDigits?_natRepr]
      simp; omega
  · rw [String.toList_append, show "-".toList = ['-'] from rfl, List.singleton_append, readInt?,
      readDigits?_natRepr]
    simp; omega

theorem fitsInt64_toInt (i : Int64) : fitsInt64 i.toInt = true := by
  have hlow : Int64.minValue.toInt ≤ i.toInt := Int64.minValue_le_toInt i
  have hhigh : i.toInt ≤ Int64.maxValue.toInt := Int64.toInt_le i
  exact Bool.and_eq_true_iff.2 ⟨decide_eq_true hlow, decide_eq_true hhigh⟩

theorem readInt64?_toString (i : Int64) : readInt64? (toString i.toInt).toList = some i := by
  unfold readInt64?
  rw [readInt?_toString]
  simp [fitsInt64_toInt]

/-! ## How many octets a text takes -/

theorem utf8ByteSize_ofList_cons (c : Char) (s : List Char) :
    (String.ofList (c :: s)).utf8ByteSize = c.utf8Size + (String.ofList s).utf8ByteSize := by
  rw [show c :: s = [c] ++ s from rfl, String.ofList_append, String.utf8ByteSize_append,
    ← String.singleton_eq_ofList, String.utf8ByteSize_singleton]

theorem utf8ByteSize_ofList_le (s : List Char) :
    (String.ofList s).utf8ByteSize ≤ 4 * s.length := by
  induction s with
  | nil => exact Nat.le_refl 0
  | cons c s ih =>
    rw [utf8ByteSize_ofList_cons, List.length_cons]
    have hc := c.utf8Size_le_four
    omega

/-- A number of so many digits. -/
theorem utf8ByteSize_repr_le {n k : Nat} (hk : 0 < k) (h : n < Nat.pow 10 k) :
    n.repr.utf8ByteSize ≤ 4 * k := by
  have hsize := utf8ByteSize_ofList_le n.repr.toList
  rw [String.ofList_toList, String.length_toList] at hsize
  exact Nat.le_trans hsize (Nat.mul_le_mul_left 4 ((Nat.length_repr_le_iff hk).2 h))

theorem length_encode (s : String) : (Utf8.encode s).length = s.utf8ByteSize := rfl

end Text
end StructuredSql
