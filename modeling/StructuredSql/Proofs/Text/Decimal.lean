-- Decimal numerals: the texts that read as finite numbers, and the numbers whose texts do.
import StructuredSql.Proofs.Double.Finite
import StructuredSql.Proofs.Text.Numeral

namespace StructuredSql.Text

/-! ## The grammar -/

def Digits (s : List Char) : Prop := ∀ c ∈ s, c.isDigit = true

/-- A sign, or none. -/
def Sign (s : List Char) : Prop := s = [] ∨ s = ['+'] ∨ s = ['-']

/-- An exponent, or none. -/
def Exponent (s : List Char) : Prop :=
  s = [] ∨ ∃ mark sign digits, (mark = 'e' ∨ mark = 'E') ∧ Sign sign ∧ Digits digits ∧
    digits ≠ [] ∧ s = mark :: (sign ++ digits)

/-- A decimal numeral: a sign, digits with or without a point among them, and an exponent. -/
inductive IsDecimal : List Char → Prop
  | whole {sign digits exponent : List Char} : Sign sign → Digits digits → digits ≠ [] →
      Exponent exponent → IsDecimal (sign ++ digits ++ exponent)
  | pointed {sign digits places exponent : List Char} : Sign sign → Digits digits →
      Digits places → digits ++ places ≠ [] → Exponent exponent →
      IsDecimal (sign ++ digits ++ '.' :: places ++ exponent)

/-- A decimal numeral of a number that is not too large to be held. -/
def FiniteDecimal (s : List Char) : Prop :=
  IsDecimal s ∧ ∃ x, readDouble? s = some x ∧ x.isFinite = true

/-! ## Runs of digits -/

/-- No digit begins the text. -/
def Stops (rest : List Char) : Prop := ∀ c ∈ rest.head?, c.isDigit = false

theorem ne_of_isDigit {c d : Char} (hc : c.isDigit = true) (hd : d.isDigit = false) : c ≠ d := by
  rintro rfl
  rw [hc] at hd
  cases hd

theorem Stops.cons {c : Char} (h : c.isDigit = false) (rest : List Char) : Stops (c :: rest) := by
  intro d hd
  obtain rfl : c = d := by simpa using hd
  exact h

theorem Stops.takeWhile {rest : List Char} (h : Stops rest) :
    rest.takeWhile Char.isDigit = [] := by
  cases rest with
  | nil => rfl
  | cons c rest => rw [List.takeWhile_cons, h c rfl, if_neg Bool.false_ne_true]

theorem Stops.dropWhile {rest : List Char} (h : Stops rest) :
    rest.dropWhile Char.isDigit = rest := by
  cases rest with
  | nil => rfl
  | cons c rest => rw [List.dropWhile_cons, h c rfl, if_neg Bool.false_ne_true]

theorem takeWhile_digits {digits rest : List Char} (h : Digits digits) (hrest : Stops rest) :
    (digits ++ rest).takeWhile Char.isDigit = digits := by
  rw [List.takeWhile_append_of_pos h, hrest.takeWhile, List.append_nil]

theorem dropWhile_digits {digits rest : List Char} (h : Digits digits) (hrest : Stops rest) :
    (digits ++ rest).dropWhile Char.isDigit = rest := by
  rw [List.dropWhile_append_of_pos h, hrest.dropWhile]

/-! ## Texts that read as finite numbers -/

theorem digits_takeWhile (s : List Char) : Digits (s.takeWhile Char.isDigit) :=
  fun _ hc => List.mem_takeWhile_imp hc

theorem digits_of_readDigits? {s : List Char} {n : Nat} (h : readDigits? s = some n) :
    Digits s ∧ s ≠ [] := by
  unfold readDigits? at h
  split at h
  · rename_i hs
    exact ⟨List.all_eq_true.1 hs.2, hs.1⟩
  · cases h

theorem exponent_of_readExponent? {s : List Char} {e : Int} (h : readExponent? s = some e) :
    Exponent s := by
  unfold readExponent? at h
  split at h
  · exact Or.inl rfl
  · rename_i mark digits
    split at h
    · rename_i hmark
      have hmark' : mark = 'e' ∨ mark = 'E' := by simpa using hmark
      have hsplit : ∃ sign rest, Sign sign ∧ Digits rest ∧ rest ≠ [] ∧ digits = sign ++ rest := by
        unfold readInt? at h
        split at h
        · rename_i rest
          cases hd : readDigits? rest with
          | none => simp [hd] at h
          | some n =>
            obtain ⟨hdigits, hne⟩ := digits_of_readDigits? hd
            exact ⟨['-'], rest, Or.inr (Or.inr rfl), hdigits, hne, rfl⟩
        · rename_i rest
          obtain ⟨n, hn, -⟩ := Option.map_eq_some_iff.1 h
          obtain ⟨hdigits, hne⟩ := digits_of_readDigits? hn
          exact ⟨['+'], rest, Or.inr (Or.inl rfl), hdigits, hne, rfl⟩
        · obtain ⟨n, hn, -⟩ := Option.map_eq_some_iff.1 h
          obtain ⟨hdigits, hne⟩ := digits_of_readDigits? hn
          exact ⟨[], digits, Or.inl rfl, hdigits, hne, rfl⟩
      obtain ⟨sign, rest, hsign, hrest, hne, rfl⟩ := hsplit
      exact Or.inr ⟨mark, sign, rest, hmark', hsign, hrest, hne, rfl⟩
    · cases h

theorem isDecimal_of_readDecimal? {negative : Bool} {s sign : List Char} {x : Double}
    (hsign : Sign sign) (h : readDecimal? negative s = some x) : IsDecimal (sign ++ s) := by
  have hwhole := digits_takeWhile s
  rw [← List.takeWhile_append_dropWhile (p := Char.isDigit) (l := s)]
  unfold readDecimal? at h
  dsimp only at h
  generalize s.takeWhile Char.isDigit = whole at h hwhole ⊢
  generalize s.dropWhile Char.isDigit = rest at h ⊢
  split at h
  · rename_i r
    dsimp only at h
    split at h
    · cases h
    · rename_i hdigits
      obtain ⟨e, he, -⟩ := Option.map_eq_some_iff.1 h
      have hplaces := digits_takeWhile r
      have hsplit := List.takeWhile_append_dropWhile (p := Char.isDigit) (l := r)
      have hpointed := IsDecimal.pointed hsign hwhole hplaces (by simpa using hdigits)
        (exponent_of_readExponent? he)
      simpa [hsplit] using hpointed
  · dsimp only at h
    split at h
    · cases h
    · rename_i hdigits
      obtain ⟨e, he, -⟩ := Option.map_eq_some_iff.1 h
      have hne : whole ≠ [] := by simpa using hdigits
      simpa using IsDecimal.whole hsign hwhole hne (exponent_of_readExponent? he)

theorem unsign_sign (s : List Char) : ∃ sign, Sign sign ∧ s = sign ++ (unsign s).2 := by
  unfold unsign
  split
  · exact ⟨['-'], Or.inr (Or.inr rfl), rfl⟩
  · exact ⟨['+'], Or.inr (Or.inl rfl), rfl⟩
  · exact ⟨[], Or.inl rfl, rfl⟩

/-- What reads as a finite number is a decimal numeral. -/
theorem isDecimal_of_readDouble? {s : List Char} {x : Double} (h : readDouble? s = some x)
    (hx : x.isFinite = true) : IsDecimal s := by
  obtain ⟨sign, hsign, hs⟩ := unsign_sign s
  unfold readDouble? at h
  dsimp only at h
  split at h
  · obtain rfl := Option.some.inj h
    exact absurd hx (Double.not_isFinite_of_large (m := 0) _ (by decide))
  · split at h
    · obtain rfl := Option.some.inj h
      exact absurd hx (Double.not_isFinite_of_large _ (by decide))
    · rw [hs]
      exact isDecimal_of_readDecimal? hsign h

theorem finiteDecimal_iff {s : List Char} :
    FiniteDecimal s ↔ ∃ x, readDouble? s = some x ∧ x.isFinite = true := by
  constructor
  · exact fun h => h.2
  · rintro ⟨x, hread, hx⟩
    exact ⟨isDecimal_of_readDouble? hread hx, x, hread, hx⟩

/-! ## Numbers whose texts read back as finite ones -/

theorem ofDigits_append_zeros (digits : List Char) (n : Nat) :
    ofDigits (digits ++ Double.zeros n) = ofDigits digits * 10 ^ n := by
  induction n with
  | zero => simp [Double.zeros]
  | succ n ih =>
    rw [Double.zeros, List.replicate_succ', ← List.append_assoc, ofDigits_append_singleton,
      ← Double.zeros, ih, Nat.pow_succ', Nat.mul_left_comm]
    rfl

theorem ofDigits_zeros_append (n : Nat) (digits : List Char) :
    ofDigits (Double.zeros n ++ digits) = ofDigits digits := by
  have hzero : (Double.zeros n).foldl (fun n c => 10 * n + digitValue c) 0 = 0 := by
    induction n with
    | zero => rfl
    | succ n ih => exact ih
  unfold ofDigits
  rw [List.foldl_append, hzero]

theorem toLower_of_isDigit {c : Char} (h : c.isDigit = true) : c.toLower = c := by
  unfold Char.toLower
  rw [dif_neg]
  rintro ⟨hlow, -⟩
  simp only [Char.isDigit, Bool.and_eq_true, decide_eq_true_eq] at h
  have hrange := UInt32.le_trans hlow h.2
  exact absurd hrange (by decide)

/-- A text that begins with a digit reads as a decimal, and with a sign before it too. -/
theorem readDouble?_signed (negative : Bool) {c : Char} (hc : c.isDigit = true) (s : List Char) :
    readDouble? (if negative then '-' :: c :: s else c :: s) = readDecimal? negative (c :: s) := by
  have hne : ∀ d, d.isDigit = false → c ≠ d := fun _ hd => ne_of_isDigit hc hd
  have hunsign : unsign (if negative then '-' :: c :: s else c :: s) = (negative, c :: s) := by
    cases negative
    · have hminus := hne '-' (by decide)
      have hplus := hne '+' (by decide)
      simp [unsign, hminus, hplus]
    · rfl
  have hword : ∀ d word, d.isDigit = false → (c :: s).map Char.toLower ≠ d :: word := by
    intro d word hd heq
    rw [List.map_cons, toLower_of_isDigit hc] at heq
    exact hne d hd (List.cons.inj heq).1
  have hnan : (c :: s).map Char.toLower ≠ "nan".toList := hword 'n' _ (by decide)
  unfold readDouble?
  rw [hunsign]
  dsimp only
  rw [if_neg, if_neg hnan]
  rintro (h | h)
  · exact hword 'i' _ (by decide) h
  · exact hword 'i' _ (by decide) h

theorem readDecimal?_digits (negative : Bool) {digits : List Char} (h : Digits digits)
    (hne : digits ≠ []) : readDecimal? negative digits =
      some (Double.ofDecimal negative (ofDigits digits) 0) := by
  have htake : digits.takeWhile Char.isDigit = digits := List.takeWhile_eq_self_iff.2 h
  have hdrop : digits.dropWhile Char.isDigit = [] := List.dropWhile_eq_nil_iff.2 h
  unfold readDecimal?
  simp [htake, hdrop, hne, readExponent?]

theorem readDecimal?_pointed (negative : Bool) {digits places : List Char} (h : Digits digits)
    (hplaces : Digits places) (hne : digits ≠ []) :
    readDecimal? negative (digits ++ '.' :: places) =
      some (Double.ofDecimal negative (ofDigits (digits ++ places)) (-places.length)) := by
  have hpoint : Stops ('.' :: places) := Stops.cons (by decide) places
  have htake := takeWhile_digits h hpoint
  have hdrop := dropWhile_digits h hpoint
  have htake' : places.takeWhile Char.isDigit = places := List.takeWhile_eq_self_iff.2 hplaces
  have hdrop' : places.dropWhile Char.isDigit = [] := List.dropWhile_eq_nil_iff.2 hplaces
  unfold readDecimal?
  simp [htake, hdrop, htake', hdrop', hne, readExponent?]

theorem digits_zeros (n : Nat) : Digits (Double.zeros n) := by
  intro c hc
  rw [List.eq_of_mem_replicate hc]
  decide

/-- Digits with a point among them, or behind zeros before all of them, write a number of so many
places. -/
structure Pointed (digits : List Char) (j : Int) (before after : List Char) : Prop where
  before_digits : Digits before
  after_digits : Digits after
  before_ne_nil : before ≠ []
  value : ofDigits (before ++ after) = ofDigits digits
  places : -(after.length : Int) = j
  leading : before = ['0'] ∨ before.head? = digits.head?

/-- Digits with the point after any of their places: a whole number is filled up with zeros, and
any other has places behind the point. -/
theorem positional_cases {digits : List Char} (hd : Digits digits) (hne : digits ≠ []) (j : Int) :
    (0 ≤ j ∧ Double.positional digits (digits.length + j) = digits ++ Double.zeros j.toNat) ∨
      (j < 0 ∧ ∃ before after, Pointed digits j before after ∧
        Double.positional digits (digits.length + j) = before ++ '.' :: after) := by
  have hlength := List.length_pos_of_ne_nil hne
  unfold Double.positional
  by_cases hpoint : (digits.length : Int) + j ≤ 0
  · rw [if_pos hpoint]
    refine Or.inr ⟨by omega, ['0'], Double.zeros (-(digits.length + j)).toNat ++ digits, ?_, rfl⟩
    refine ⟨digits_zeros 1, List.forall_mem_append.2 ⟨digits_zeros _, hd⟩, by simp, ?_, ?_,
      Or.inl rfl⟩
    · rw [← List.append_assoc]
      exact ofDigits_zeros_append (_ + 1) digits
    · rw [List.length_append, Double.zeros, List.length_replicate]
      omega
  · rw [if_neg hpoint]
    dsimp only
    by_cases hwhole : 0 ≤ j
    · rw [if_pos (by omega),
        show ((digits.length : Int) + j).toNat - digits.length = j.toNat by omega]
      exact Or.inl ⟨hwhole, rfl⟩
    · rw [if_neg (by omega)]
      refine Or.inr ⟨by omega, _, _, ?_, rfl⟩
      refine ⟨fun c hc => hd c (List.mem_of_mem_take hc),
        fun c hc => hd c (List.mem_of_mem_drop hc), ?_,
        congrArg ofDigits (List.take_append_drop _ _), ?_, Or.inr ?_⟩
      · rw [Ne, List.take_eq_nil_iff]
        rintro (hnone | hempty)
        · omega
        · exact hne hempty
      · rw [List.length_drop]
        omega
      · rw [List.head?_take, if_neg (by omega)]

/-- Digits with the point after any of their places read as a finite number, if the number is
below the least one that is rounded to infinity. -/
theorem readDecimal?_positional (negative : Bool) {digits : List Char} (hd : Digits digits)
    (hne : digits ≠ []) {j : Int}
    (h : ofDigits digits * 10 ^ j.toNat < Double.overflow * 10 ^ (-j).toNat) :
    ∃ y, readDecimal? negative (Double.positional digits (digits.length + j)) = some y ∧
      y.isFinite = true := by
  rcases positional_cases hd hne j with ⟨hj, htext⟩ | ⟨-, before, after, hpointed, htext⟩
  · have hfilled : Digits (digits ++ Double.zeros j.toNat) :=
      List.forall_mem_append.2 ⟨hd, digits_zeros _⟩
    have hread := readDecimal?_digits negative hfilled (by simp [hne])
    rw [ofDigits_append_zeros] at hread
    rw [htext]
    refine ⟨_, hread, Double.isFinite_ofDecimal negative ?_⟩
    rw [show (-j).toNat = 0 by omega] at h
    simpa using h
  · have hread := readDecimal?_pointed negative hpointed.before_digits hpointed.after_digits
      hpointed.before_ne_nil
    rw [hpointed.value, hpointed.places] at hread
    rw [htext]
    exact ⟨_, hread, Double.isFinite_ofDecimal negative h⟩

theorem digits_natRepr (n : Nat) : Digits (Nat.repr n).toList ∧ (Nat.repr n).toList ≠ [] ∧
    ofDigits (Nat.repr n).toList = n := by
  rw [Nat.toList_repr]
  exact ⟨fun c hc => Nat.isDigit_of_mem_toDigits (by decide) (by decide) hc,
    Nat.toDigits_ne_nil, ofDigits_toDigits n⟩

/-- Digits with a point begin with a digit. -/
theorem positional_head {digits : List Char} (hd : Digits digits) (hne : digits ≠ [])
    (point : Int) : ∃ c s, c.isDigit = true ∧ Double.positional digits point = c :: s := by
  obtain ⟨c, rest, rfl⟩ := List.exists_cons_of_ne_nil hne
  have hc := hd c List.mem_cons_self
  unfold Double.positional
  by_cases hpoint : point ≤ 0
  · rw [if_pos hpoint]
    exact ⟨'0', _, by decide, rfl⟩
  · rw [if_neg hpoint]
    dsimp only
    split
    · exact ⟨c, _, hc, rfl⟩
    · obtain ⟨n, hn⟩ : ∃ n, point.toNat = n + 1 := ⟨point.toNat - 1, by omega⟩
      rw [hn]
      exact ⟨c, _, hc, rfl⟩

theorem finiteDecimal_of_shortest {x : Double} (hx : x.isFinite = true) :
    FiniteDecimal (x.signed (Double.positional (Nat.repr (Double.shortest .up x).1).toList
      ((Nat.repr (Double.shortest .up x).1).toList.length + (Double.shortest .up x).2))) := by
  obtain ⟨hdigits, hne, hvalue⟩ := digits_natRepr (Double.shortest .up x).1
  have hbound := Double.shortest_lt .up hx
  rw [← hvalue] at hbound
  obtain ⟨y, hread, hy⟩ := readDecimal?_positional x.negative hdigits hne hbound
  obtain ⟨c, s, hc, hs⟩ := positional_head hdigits hne
    (((Nat.repr (Double.shortest .up x).1).toList.length : Int) + (Double.shortest .up x).2)
  rw [hs] at hread ⊢
  exact finiteDecimal_iff.2 ⟨y, (readDouble?_signed x.negative hc s).trans hread, hy⟩

theorem finiteDecimal_zero (x : Double) : FiniteDecimal (x.signed "0".toList) := by
  have hzero : 0 * 10 ^ (0 : Int).toNat < Double.overflow * 10 ^ (-0 : Int).toNat := by
    simpa using Double.overflow_pos
  have hread := readDecimal?_digits x.negative (digits_zeros 1) (by decide)
  refine finiteDecimal_iff.2 ⟨_, ?_, Double.isFinite_ofDecimal x.negative hzero⟩
  exact (readDouble?_signed x.negative (by decide) []).trans hread

/-- What reads as infinity or as no number is no decimal numeral of a finite number. -/
theorem not_finiteDecimal {s : List Char} {negative : Bool} {m : Nat} (hm : m < 2 ^ 52)
    (h : readDouble? s = some (Double.ofMagnitude negative (Double.infiniteMagnitude + m))) :
    ¬ FiniteDecimal s := by
  rw [finiteDecimal_iff]
  rintro ⟨x, hread, hx⟩
  obtain rfl := Option.some.inj (h.symm.trans hread)
  exact Double.not_isFinite_of_large negative hm hx

theorem not_finiteDecimal_nan : ¬ FiniteDecimal "NaN".toList := by
  have hread : readDouble? "NaN".toList =
      some (Double.ofMagnitude false (Double.infiniteMagnitude + Nat.pow 2 51)) := rfl
  exact not_finiteDecimal (by decide) hread

theorem not_finiteDecimal_infinite (x : Double) : ¬ FiniteDecimal (x.signed "inf".toList) := by
  have hread : readDouble? (x.signed "inf".toList) =
      some (Double.ofMagnitude x.negative (Double.infiniteMagnitude + 0)) := by
    unfold Double.signed
    cases x.negative <;> rfl
  exact not_finiteDecimal (by decide) hread

/-- The text of a float is a decimal numeral exactly when the float is finite. -/
theorem finiteDecimal_toText_iff (x : Double) :
    FiniteDecimal x.toText.toList ↔ x.isFinite = true := by
  unfold Double.toText
  rw [String.toList_ofList]
  by_cases hnan : x.isNaN = true
  · rw [if_pos hnan]
    have hx : ¬ x.isFinite = true := by
      simp only [Double.isNaN, Double.isFinite, decide_eq_true_eq] at hnan ⊢
      omega
    exact iff_of_false not_finiteDecimal_nan hx
  · rw [if_neg hnan]
    by_cases hinfinite : x.isInfinite = true
    · rw [if_pos hinfinite]
      have hx : ¬ x.isFinite = true := by
        simp only [Double.isInfinite, Double.isFinite, decide_eq_true_eq, beq_iff_eq] at hinfinite ⊢
        omega
      exact iff_of_false (not_finiteDecimal_infinite x) hx
    · rw [if_neg hinfinite]
      have hx : x.isFinite = true := by
        simp only [Double.isNaN, Double.isInfinite, Double.isFinite, decide_eq_true_eq,
          beq_iff_eq] at hnan hinfinite ⊢
        omega
      by_cases hzero : x.isZero = true
      · rw [if_pos hzero]
        exact iff_of_true (finiteDecimal_zero x) hx
      · rw [if_neg hzero]
        exact iff_of_true (finiteDecimal_of_shortest hx) hx

/-- The text of a whole number of 64 bits is a decimal numeral. -/
theorem finiteDecimal_toString (i : Int64) : FiniteDecimal (toString i.toInt).toList := by
  rw [finiteDecimal_iff]
  have hrepr : ∀ (negative : Bool) (n : Nat), n ≤ 2 ^ 63 → ∃ y,
      readDouble? (if negative then '-' :: (Nat.repr n).toList else (Nat.repr n).toList) = some y ∧
        y.isFinite = true := by
    intro negative n hn
    obtain ⟨hdigits, hne, hvalue⟩ := digits_natRepr n
    have hread := readDecimal?_digits negative hdigits hne
    obtain ⟨c, s, hs⟩ := List.exists_cons_of_ne_nil hne
    rw [hvalue] at hread
    rw [hs] at hread hdigits ⊢
    refine ⟨_, (readDouble?_signed negative (hdigits c List.mem_cons_self) s).trans hread, ?_⟩
    apply Double.isFinite_ofDecimal
    have hlarge := (Double.high_lt_overflow (m := 2 ^ 53 - 1) (k := 10) (by decide) (by decide)).1
    simp only [Int.toNat_zero, Int.neg_zero, Nat.pow_zero, Nat.mul_one]
    omega
  have hlow : -2 ^ 63 ≤ i.toInt := Int64.minValue_le_toInt i
  have hhigh : i.toInt ≤ 2 ^ 63 - 1 := Int64.toInt_le i
  show ∃ y, readDouble? (Int.repr i.toInt).toList = some y ∧ y.isFinite = true
  rw [Int.repr_eq_if]
  split
  · apply hrepr false
    omega
  · rw [String.toList_append]
    apply hrepr true
    omega

end StructuredSql.Text
