-- The text of a number reads back as the number, whatever stands behind it that cannot go on
-- with a numeral: whole numbers of 64 bits by their digits. The text of a finite float hands its
-- shortest decimal to the reader of floats, in each of its layouts.
import StructuredSql.Json.Parser
import StructuredSql.Json.Printer
import StructuredSql.Proofs.Double.Nearest
import StructuredSql.Proofs.Text.Decimal

namespace StructuredSql.Json

open Text (Stops takeWhile_digits dropWhile_digits)

/-! ## The parts of a number -/

/-- Digits without a zero in front, or a zero alone. -/
structure Whole (digits : List Char) : Prop where
  all : Text.Digits digits
  ne_nil : digits ≠ []
  leading : digits.head? = some '0' → digits = ['0']

/-- No character of a numeral begins the text. -/
def Ends (rest : List Char) : Prop := ∀ c ∈ rest.head?, Text.isNumeral c = false

variable {floats : FloatReader} {digits places rest : List Char}

theorem Ends.stops (h : Ends rest) : Stops rest := by
  intro c hc
  by_contra hdigit
  have hnumeral := Text.isNumeral_of_isDigit (Bool.eq_true_of_not_eq_false hdigit)
  rw [h c hc] at hnumeral
  cases hnumeral

theorem wholePart?_append (h : Whole digits) (hrest : Stops rest) :
    wholePart? (digits ++ rest) = some (digits, rest) := by
  unfold wholePart?
  rw [takeWhile_digits h.all hrest, dropWhile_digits h.all hrest]
  split
  · exact absurd rfl h.ne_nil
  · rw [if_neg]
    rintro ⟨hzero, hmore⟩
    exact hmore (h.leading hzero)

theorem places?_point (h : Text.Digits places) (hne : places ≠ []) (hrest : Stops rest) :
    places? ('.' :: (places ++ rest)) = some (some places, rest) := by
  rw [places?, takeWhile_digits h hrest, dropWhile_digits h hrest]
  split
  · exact absurd rfl hne
  · rfl

theorem places?_none (h : rest.head? ≠ some '.') : places? rest = some (none, rest) := by
  unfold places?
  split
  · exact absurd rfl h
  · rfl

/-- The sign and the digits of an exponent. -/
def exponentText (e : Int) : List Char :=
  (if e < 0 then '-' else '+') :: (Nat.repr e.natAbs).toList

theorem exponent?_text (e : Int) (hrest : Stops rest) :
    exponent? ('e' :: (exponentText e ++ rest)) = some (some e, rest) := by
  obtain ⟨hall, hne, hvalue⟩ := Text.digits_natRepr e.natAbs
  have hunsign : Text.unsign (exponentText e ++ rest) =
      (decide (e < 0), (Nat.repr e.natAbs).toList ++ rest) := by
    unfold exponentText
    split
    · rename_i hsign
      rw [decide_eq_true hsign]
      rfl
    · rename_i hsign
      rw [decide_eq_false hsign]
      rfl
  unfold exponent?
  dsimp only
  rw [if_pos (Or.inl rfl), hunsign]
  dsimp only
  rw [takeWhile_digits hall hrest, dropWhile_digits hall hrest]
  split
  · rename_i hnil
    exact absurd hnil hne
  · rw [hvalue]
    congr 3
    by_cases hsign : e < 0
    · rw [if_pos (decide_eq_true hsign)]
      omega
    · rw [if_neg (by simpa using hsign)]
      omega

theorem Ends.without_exponent (h : Ends rest) : exponent? rest = some (none, rest) := by
  cases rest with
  | nil => rfl
  | cons c rest =>
    have hc : ¬ (c = 'e' ∨ c = 'E') := by
      rintro (rfl | rfl)
      · exact absurd (h 'e' rfl) (by decide)
      · exact absurd (h 'E' rfl) (by decide)
    unfold exponent?
    dsimp only
    rw [if_neg hc]

theorem Ends.without_places (h : Ends rest) : places? rest = some (none, rest) := by
  apply places?_none
  intro hpoint
  exact absurd (h '.' hpoint) (by decide)

/-- Digits alone are a whole number. -/
theorem number?_whole (negative : Bool) (h : Whole digits) (hrest : Ends rest) :
    number? floats negative (digits ++ rest) =
      some (wholeNumber floats negative digits, rest) := by
  unfold number?
  simp [wholePart?_append h hrest.stops, hrest.without_places, hrest.without_exponent]

theorem number?_pointed (negative : Bool) (h : Whole digits) (hplaces : Text.Digits places)
    (hne : places ≠ []) (hrest : Ends rest) :
    number? floats negative (digits ++ '.' :: (places ++ rest)) =
      some (finite (floats negative digits places 0), rest) := by
  have hpoint : Stops ('.' :: (places ++ rest)) := Stops.cons (by decide) _
  unfold number?
  simp [wholePart?_append h hpoint, places?_point hplaces hne hrest.stops, hrest.without_exponent]

theorem number?_raised (negative : Bool) (h : Whole digits) (e : Int) (hrest : Ends rest) :
    number? floats negative (digits ++ 'e' :: (exponentText e ++ rest)) =
      some (finite (floats negative digits [] e), rest) := by
  have hmark : Stops ('e' :: (exponentText e ++ rest)) := Stops.cons (by decide) _
  have hplaces : Json.places? ('e' :: (exponentText e ++ rest)) =
      some (none, 'e' :: (exponentText e ++ rest)) := places?_none (by simp)
  unfold number?
  simp [wholePart?_append h hmark, hplaces, exponent?_text e hrest.stops]

theorem number?_pointed_raised (negative : Bool) (h : Whole digits)
    (hplaces : Text.Digits places) (hne : places ≠ []) (e : Int) (hrest : Ends rest) :
    number? floats negative (digits ++ '.' :: (places ++ 'e' :: (exponentText e ++ rest))) =
      some (finite (floats negative digits places e), rest) := by
  have hpoint : Stops ('.' :: (places ++ 'e' :: (exponentText e ++ rest))) :=
    Stops.cons (by decide) _
  have hmark : Stops ('e' :: (exponentText e ++ rest)) := Stops.cons (by decide) _
  unfold number?
  simp [wholePart?_append h hpoint, places?_point hplaces hne hmark,
    exponent?_text e hrest.stops]

/-! ## Whole numbers -/

theorem head_natRepr {n : Nat} (hn : n ≠ 0) : (Nat.repr n).toList.head? ≠ some '0' := by
  rw [Nat.toList_repr]
  induction n using Nat.strongRecOn with
  | _ n ih =>
    rw [Nat.toDigits_eq_if (by decide)]
    split
    · rename_i hsmall
      have hall : ∀ d < 10, d ≠ 0 → d.digitChar ≠ '0' := by decide
      simpa using hall n hsmall hn
    · rw [List.head?_append_of_ne_nil _ Nat.toDigits_ne_nil]
      exact ih (n / 10) (by omega) (by omega)

theorem whole_natRepr (n : Nat) : Whole (Nat.repr n).toList := by
  obtain ⟨hall, hne, -⟩ := Text.digits_natRepr n
  refine ⟨hall, hne, fun hzero => ?_⟩
  by_cases hn : n = 0
  · rw [hn]
    rfl
  · exact absurd hzero (head_natRepr hn)

/-- A whole number of 64 bits, signed or not. -/
def InRange (i : Int) : Prop := -2 ^ 63 ≤ i ∧ i < 2 ^ 64

/-- The text of a whole number begins with a digit behind its sign, and reads back. -/
theorem number?_toString (floats : FloatReader) {i : Int} (h : InRange i) :
    ∃ c s, c.isDigit = true ∧
      (toString i).toList = (if decide (i < 0) then '-' :: c :: s else c :: s) ∧
      ∀ rest, Ends rest →
        number? floats (decide (i < 0)) (c :: s ++ rest) = some (.int i, rest) := by
  obtain ⟨hlow, hhigh⟩ := h
  have hwhole := whole_natRepr i.natAbs
  have htext : (toString i).toList = if decide (i < 0) then '-' :: (Nat.repr i.natAbs).toList
      else (Nat.repr i.natAbs).toList := by
    show (Int.repr i).toList = _
    rw [Int.repr_eq_if]
    by_cases hsign : i < 0
    · rw [if_neg (by omega), if_pos (decide_eq_true hsign), String.toList_append,
        show (-i).toNat = i.natAbs by omega]
      rfl
    · rw [if_pos (by omega), if_neg (by simpa using hsign), show i.toNat = i.natAbs by omega]
  have hnumber : wholeNumber floats (decide (i < 0)) (Nat.repr i.natAbs).toList = .int i := by
    unfold wholeNumber
    simp only [(Text.digits_natRepr i.natAbs).2.2, Nat.pow_eq]
    by_cases hsign : i < 0
    · rw [if_pos (decide_eq_true hsign), if_neg (by omega), if_pos (by omega)]
      congr 1
      omega
    · rw [if_neg (by simpa using hsign), if_pos (by omega)]
      congr 1
      omega
  obtain ⟨c, s, hs⟩ := List.exists_cons_of_ne_nil hwhole.ne_nil
  rw [hs] at htext
  refine ⟨c, s, hwhole.all c (by rw [hs]; exact List.mem_cons_self), htext, fun rest hrest => ?_⟩
  rw [← hs, number?_whole _ hwhole hrest, hnumber]

/-! ## Floats -/

/-- Digits whose point stands behind so many of them, in the layout that goes with its place. -/
def layout (digits : List Char) (point : Int) : List Char :=
  if -5 < point && point ≤ 16 then
    if digits.length ≤ point then Double.positional digits point ++ ['.', '0']
    else Double.positional digits point
  else
    match digits with
    | [d] => d :: 'e' :: exponentText (point - 1)
    | d :: ds => d :: '.' :: (ds ++ 'e' :: exponentText (point - 1))
    | [] => []

theorem toList_toJsonText (x : Double) : x.toJsonText.toList = x.signed (
    if x.isZero then "0.0".toList
    else layout (Nat.repr (Double.shortest .even x).1).toList
      ((Nat.repr (Double.shortest .even x).1).toList.length + (Double.shortest .even x).2)) := by
  unfold Double.toJsonText
  rw [String.toList_ofList]
  split <;> rfl

/-- The text begins with a digit, and what it hands to a reader of floats is a decimal of the
number `q`. -/
def ReadsAs (negative : Bool) (q : ℚ) (text : List Char) : Prop :=
  (∃ c s, c.isDigit = true ∧ text = c :: s) ∧
    ∃ (whole places : List Char) (e : Int),
      (Text.ofDigits (whole ++ places) : ℚ) * 10 ^ (e - places.length) = q ∧
      ∀ (floats : FloatReader) (rest : List Char), Ends rest →
        number? floats negative (text ++ rest) =
          some (finite (floats negative whole places e), rest)

theorem head_digit (h : Whole digits) (s : List Char) :
    ∃ c t, c.isDigit = true ∧ digits ++ s = c :: t := by
  obtain ⟨c, t, rfl⟩ := List.exists_cons_of_ne_nil h.ne_nil
  exact ⟨c, t ++ s, h.all c List.mem_cons_self, rfl⟩

/-- Digits on both sides of a point. -/
theorem readsAs_pointed (negative : Bool) (h : Whole digits) (hplaces : Text.Digits places)
    (hne : places ≠ []) {q : ℚ}
    (hq : (Text.ofDigits (digits ++ places) : ℚ) * 10 ^ (-(places.length : ℤ)) = q) :
    ReadsAs negative q (digits ++ '.' :: places) := by
  refine ⟨head_digit h _, digits, places, 0, by rw [zero_sub, hq], fun floats rest hrest => ?_⟩
  rw [List.append_assoc]
  exact number?_pointed negative h hplaces hne hrest

theorem readsAs_positional (negative : Bool) (h : Whole digits)
    (hzero : digits.head? ≠ some '0') (j : ℤ) :
    ReadsAs negative (Text.ofDigits digits * 10 ^ j)
      (if digits.length ≤ digits.length + j then
        Double.positional digits (digits.length + j) ++ ['.', '0']
      else Double.positional digits (digits.length + j)) := by
  rcases Text.positional_cases h.all h.ne_nil j with
    ⟨hj, htext⟩ | ⟨hj, before, after, hpointed, htext⟩
  · -- The number is whole: one more zero stands behind the point.
    obtain ⟨n, rfl⟩ := Int.eq_ofNat_of_zero_le hj
    rw [if_pos (by omega), htext]
    have hfilled : Whole (digits ++ Double.zeros n) := by
      refine ⟨List.forall_mem_append.2 ⟨h.all, Text.digits_zeros n⟩, by simp [h.ne_nil], ?_⟩
      rw [List.head?_append_of_ne_nil _ h.ne_nil]
      exact fun hhead => absurd hhead hzero
    apply readsAs_pointed negative hfilled (Text.digits_zeros 1) (by simp [Double.zeros])
    rw [Text.ofDigits_append_zeros, Text.ofDigits_append_zeros]
    simp [Double.zeros]
  · rw [if_neg (by omega), htext]
    have hbefore : Whole before := by
      refine ⟨hpointed.before_digits, hpointed.before_ne_nil, fun hhead => ?_⟩
      rcases hpointed.leading with hfirst | hsame
      · exact hfirst
      · rw [hsame] at hhead
        exact absurd hhead hzero
    have hne : after ≠ [] := by
      rintro rfl
      have hplaces := hpointed.places
      rw [List.length_nil] at hplaces
      omega
    apply readsAs_pointed negative hbefore hpointed.after_digits hne
    rw [hpointed.value, hpointed.places]

theorem readsAs_layout (negative : Bool) (h : Whole digits) (hzero : digits.head? ≠ some '0')
    (j : ℤ) :
    ReadsAs negative (Text.ofDigits digits * 10 ^ j) (layout digits (digits.length + j)) := by
  unfold layout
  split
  · exact readsAs_positional negative h hzero j
  · split
    · rename_i d _
      have hexponent : (([d] : List Char).length : ℤ) + j - 1 = j := by simp
      rw [hexponent]
      refine ⟨head_digit h _, [d], [], j, by simp, fun floats rest hrest => ?_⟩
      exact number?_raised negative h j hrest
    · rename_i d ds hne _
      have hfirst : Whole [d] := ⟨List.forall_mem_singleton.2 (h.all d List.mem_cons_self),
        by simp, fun hhead => absurd hhead hzero⟩
      have hbehind : Text.Digits ds := fun c hc => h.all c (List.mem_cons_of_mem d hc)
      have hexponent : ((d :: ds).length : ℤ) + j - 1 - ds.length = j := by
        rw [List.length_cons]
        push_cast
        ring
      refine ⟨⟨d, _, h.all d List.mem_cons_self, rfl⟩, [d], ds, ((d :: ds).length : ℤ) + j - 1,
        ?_, fun floats rest hrest => ?_⟩
      · rw [hexponent, List.singleton_append]
      · simpa using number?_pointed_raised negative hfirst hbehind hne
          (((d :: ds).length : ℤ) + j - 1) hrest
    · exact absurd rfl h.ne_nil

theorem finite_of_isFinite {x : Double} (h : x.isFinite = true) : finite x = .float x := if_pos h

theorem significand_ne_zero {x : Double} (h : ¬ x.isZero = true) : x.significand ≠ 0 := by
  have hsplit := Nat.div_add_mod x.magnitude (2 ^ 52)
  have hmagnitude : x.magnitude ≠ 0 := by simpa [Double.isZero] using h
  unfold Double.significand Double.exponentField Double.fraction
  simp only [Nat.pow_eq]
  split
  · rename_i hfield
    rw [hfield] at hsplit
    omega
  · omega

theorem eq_zero_of_isZero {x : Double} (h : x.isZero = true) : x = Double.zero x.negative := by
  have hmagnitude : x.magnitude = 0 := by simpa [Double.isZero] using h
  have heq := x.eq_ofMagnitude
  rwa [hmagnitude] at heq

/-- The text of a finite float begins with a digit behind its sign, and hands to every reader
of floats a decimal that is nearer to the float than to any other. -/
theorem number?_toJsonText {x : Double} (hx : x.isFinite = true) :
    ∃ c s, c.isDigit = true ∧
      x.toJsonText.toList = (if x.negative then '-' :: c :: s else c :: s) ∧
      ∃ whole places e, nearest x.negative whole places e = x ∧
        ∀ (floats : FloatReader) (rest : List Char), Ends rest →
          number? floats x.negative (c :: s ++ rest) =
            some (finite (floats x.negative whole places e), rest) := by
  rw [toList_toJsonText]
  unfold Double.signed
  by_cases hzero : x.isZero = true
  · rw [if_pos hzero]
    have hfirst : Whole ['0'] := ⟨Text.digits_zeros 1, by simp, fun _ => rfl⟩
    refine ⟨'0', ['.', '0'], by decide, rfl, ['0'], ['0'], 0, (eq_zero_of_isZero hzero).symm,
      fun floats rest hrest => ?_⟩
    exact number?_pointed x.negative hfirst hfirst.all hfirst.ne_nil hrest
  · rw [if_neg hzero]
    have hsignificand := significand_ne_zero hzero
    have hpositive := Double.shortest_pos .even hx hsignificand
    have hnear := Double.near_shortest .even hx hsignificand
    have hvalue := (Text.digits_natRepr (Double.shortest .even x).1).2.2
    obtain ⟨⟨c, s, hc, hs⟩, whole, places, e, hq, hread⟩ := readsAs_layout x.negative
      (whole_natRepr (Double.shortest .even x).1) (head_natRepr hpositive.ne')
      (Double.shortest .even x).2
    rw [hs] at hread ⊢
    rw [hvalue] at hq
    rw [← hq] at hnear
    exact ⟨c, s, hc, rfl, whole, places, e, Double.ofDecimal_of_near hx hsignificand hnear, hread⟩

end StructuredSql.Json
