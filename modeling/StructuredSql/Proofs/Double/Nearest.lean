-- Numbers that are rounded to a value. Every quotient and every decimal that lies between the
-- ends of a value's interval is read as the value. So is its shortest decimal: some grid of powers
-- of ten is so fine that one of its points lies there, and the search comes to it.
import StructuredSql.Proofs.Double.Finite
import Mathlib.Tactic.Positivity
import Mathlib.Tactic.Ring

namespace StructuredSql.Double

/-! ## The parts of a value -/

theorem eq_ofMagnitude (x : Double) : x = ofMagnitude x.negative x.magnitude := by
  obtain ⟨bits⟩ := x
  have hbits := bits.toNat_lt
  unfold ofMagnitude negative magnitude
  simp only [Nat.pow_eq]
  congr 1
  apply UInt64.toNat_inj.1
  rw [UInt64.toNat_ofNat']
  by_cases hsign : 2 ^ 63 ≤ bits.toNat
  · rw [if_pos (decide_eq_true hsign)]
    omega
  · rw [if_neg (by simpa using hsign)]
    omega

/-- The significand stands above the scale, as in a value that is built. -/
theorem magnitude_eq (x : Double) :
    x.magnitude = (x.scale + 1074).toNat * 2 ^ 52 + x.significand := by
  have hsplit := Nat.div_add_mod x.magnitude (2 ^ 52)
  unfold scale significand exponentField fraction
  simp only [Nat.pow_eq] at hsplit ⊢
  split
  · rename_i hfield
    rw [hfield] at hsplit ⊢
    simpa using hsplit.symm
  · rename_i hfield
    have hscale : ((max (x.magnitude / 2 ^ 52) 1 : Nat) - 1075 + 1074 : Int).toNat + 1 =
        x.magnitude / 2 ^ 52 := by omega
    rw [← hscale] at hsplit
    omega

theorem scale_ge (x : Double) : -1074 ≤ x.scale := by
  unfold scale
  omega

theorem one_lt_exponentField {x : Double} (h : -1074 < x.scale) : 1 < x.exponentField := by
  unfold scale at h
  omega

theorem significand_of_field {x : Double} (h : 1 < x.exponentField) :
    x.significand = x.fraction + 2 ^ 52 := by
  unfold significand
  rw [if_neg (by omega)]
  rfl

/-! ## Near a value -/

/-- The number is rounded to the size of the value: it lies in the interval of the value, and is
no end of it unless the ends belong to it. -/
structure Near (x : Double) (q : ℚ) : Prop where
  low_le : x.interval.low * (2 : ℚ) ^ (x.scale - 2) ≤ q
  le_high : q ≤ x.interval.high * (2 : ℚ) ^ (x.scale - 2)
  low_lt : x.interval.closed = false → x.interval.low * (2 : ℚ) ^ (x.scale - 2) < q
  lt_high : x.interval.closed = false → q < x.interval.high * (2 : ℚ) ^ (x.scale - 2)

variable {x : Double} {q : ℚ}

theorem four_quarters (e : ℤ) : (2 : ℚ) ^ e = 4 * 2 ^ (e - 2) := by
  rw [zpow_sub₀ (by norm_num)]
  ring

theorem interval_low (x : Double) : (4 * x.significand - 2 : ℚ) ≤ x.interval.low := by
  have hlow : 4 * x.significand ≤ x.interval.low + 2 := by
    unfold interval
    dsimp only
    split <;> omega
  have hcast : (4 * x.significand : ℚ) ≤ x.interval.low + 2 := by exact_mod_cast hlow
  linarith

theorem interval_high (x : Double) : (x.interval.high : ℚ) = 4 * x.significand + 2 := by
  unfold interval
  push_cast
  ring

/-- The number is less than half a place away from the significand, or half a place away from an
even one. -/
theorem Near.half (h : x.Near q) :
    (x.significand - 1 / 2) * (2 : ℚ) ^ x.scale ≤ q ∧
      q ≤ (x.significand + 1 / 2) * 2 ^ x.scale ∧
      (x.significand % 2 = 1 → (x.significand - 1 / 2) * (2 : ℚ) ^ x.scale < q ∧
        q < (x.significand + 1 / 2) * 2 ^ x.scale) := by
  have hlow := interval_low x
  have hunit : (0 : ℚ) < 2 ^ (x.scale - 2) := by positivity
  have hlow' := mul_le_mul_of_nonneg_right hlow hunit.le
  have hhigh : (x.interval.high : ℚ) * 2 ^ (x.scale - 2) =
      (4 * x.significand + 2) * 2 ^ (x.scale - 2) := by rw [interval_high]
  have hle := h.low_le
  have hle' := h.le_high
  rw [four_quarters]
  refine ⟨by linarith, by linarith, fun hodd => ?_⟩
  have hopen : x.interval.closed = false := by simp [interval, hodd]
  have hlt := h.low_lt hopen
  have hlt' := h.lt_high hopen
  exact ⟨by linarith, by linarith⟩

/-- Below a power of two the interval is narrower. -/
theorem Near.quarter (h : x.Near q) (hpower : x.fraction = 0) (hfield : 1 < x.exponentField) :
    (2 ^ 52 - 1 / 4) * (2 : ℚ) ^ x.scale ≤ q := by
  have hlow : x.interval.low = 4 * 2 ^ 52 - 1 := by
    have hsignificand := significand_of_field hfield
    unfold interval
    simp [hpower, hfield, hsignificand]
  have hle := h.low_le
  rw [hlow] at hle
  rw [four_quarters]
  norm_num at hle ⊢
  linarith

theorem Near.pos (h : x.Near q) (hx : x.significand ≠ 0) : 0 < q := by
  have hone : (1 : ℚ) ≤ x.significand := by exact_mod_cast Nat.pos_of_ne_zero hx
  have hunit : (0 : ℚ) < 2 ^ x.scale := by positivity
  calc (0 : ℚ) < (x.significand - 1 / 2) * 2 ^ x.scale := by
        apply mul_pos _ hunit
        linarith
    _ ≤ q := h.half.1

/-! ## Rounded quotients -/

theorem roundDiv_eq {a b k : Nat} (hlow : 2 * k * b ≤ 2 * a + b) (hhigh : 2 * a ≤ 2 * k * b + b)
    (hodd : k % 2 = 1 → 2 * k * b < 2 * a + b ∧ 2 * a < 2 * k * b + b) (hb : 0 < b) :
    roundDiv a b = k := by
  have hdiv := Nat.div_add_mod a b
  have hmod := Nat.mod_lt a hb
  unfold roundDiv
  dsimp only
  generalize a / b = quotient at hdiv ⊢
  generalize a % b = remainder at hdiv hmod ⊢
  -- The quotient is `k` or the number below it.
  have hle : quotient ≤ k := by
    by_contra hlt
    have hmul := Nat.mul_le_mul_left b (show k + 1 ≤ quotient by omega)
    nlinarith
  have hge : k ≤ quotient + 1 := by
    by_contra hlt
    have hmul := Nat.mul_le_mul_left b (show quotient + 2 ≤ k by omega)
    nlinarith
  rcases Nat.lt_or_eq_of_le hle with hbelow | rfl
  · obtain rfl : k = quotient + 1 := by omega
    have htwice : 2 * (quotient + 1) * b = 2 * (b * quotient) + 2 * b := by ring
    rw [if_neg (by omega)]
    split
    · rfl
    · have hparity : (quotient + 1) % 2 = 0 := by
        by_contra hne
        have hstrict := (hodd (by omega)).1
        omega
      omega
  · have htwice : 2 * quotient * b = 2 * (b * quotient) := by ring
    split
    · rfl
    · rw [if_neg (by omega)]
      have hparity : quotient % 2 = 0 := by
        by_contra hne
        have hstrict := (hodd (by omega)).2
        omega
      omega

/-- A quotient is rounded to a whole number that is less than a half away, or a half away and
even. -/
theorem roundDiv_of_half {a b k : Nat} (hb : 0 < b) (hlow : (k - 1 / 2 : ℚ) ≤ a / b)
    (hhigh : (a : ℚ) / b ≤ k + 1 / 2)
    (hodd : k % 2 = 1 → (k - 1 / 2 : ℚ) < a / b ∧ (a : ℚ) / b < k + 1 / 2) : roundDiv a b = k := by
  have hpos : (0 : ℚ) < b := by exact_mod_cast hb
  rw [le_div_iff₀ hpos] at hlow
  rw [div_le_iff₀ hpos] at hhigh
  rw [lt_div_iff₀ hpos, div_lt_iff₀ hpos] at hodd
  apply roundDiv_eq _ _ _ hb
  · have hcast : ((2 * k * b : Nat) : ℚ) ≤ (2 * a + b : Nat) := by
      push_cast
      linarith
    exact_mod_cast hcast
  · have hcast : ((2 * a : Nat) : ℚ) ≤ (2 * k * b + b : Nat) := by
      push_cast
      linarith
    exact_mod_cast hcast
  · intro hk
    obtain ⟨hlow', hhigh'⟩ := hodd hk
    constructor
    · have hcast : ((2 * k * b : Nat) : ℚ) < (2 * a + b : Nat) := by
        push_cast
        linarith
      exact_mod_cast hcast
    · have hcast : ((2 * a : Nat) : ℚ) < (2 * k * b + b : Nat) := by
        push_cast
        linarith
      exact_mod_cast hcast

/-! ## Quotients near a value -/

theorem two_zpow_le {e f : ℤ} {k : ℕ} (h : e ≤ f + k) : (2 : ℚ) ^ e ≤ 2 ^ k * 2 ^ f := by
  rw [← zpow_natCast, ← zpow_add₀ (by norm_num)]
  exact zpow_le_zpow_right₀ (by norm_num) (by omega)

theorem le_two_zpow {e f : ℤ} {k : ℕ} (h : f + k ≤ e) : (2 : ℚ) ^ k * 2 ^ f ≤ 2 ^ e := by
  rw [← zpow_natCast, ← zpow_add₀ (by norm_num)]
  exact zpow_le_zpow_right₀ (by norm_num) (by omega)

/-- A quotient near a value is rounded at the scale of the value, or at the one below it when it
is less than a value that is a power of two. -/
theorem Near.scale (h : x.Near q) {e : ℤ} (hlow : -1074 < e → (2 : ℚ) ^ (e + 52) ≤ q)
    (hleast : -1074 ≤ e) (hhigh : q < 2 ^ (e + 53)) :
    e = x.scale ∨ e = x.scale - 1 ∧ x.fraction = 0 ∧ 1 < x.exponentField := by
  obtain ⟨hge, hle, -⟩ := h.half
  have hunit : (0 : ℚ) < 2 ^ x.scale := by positivity
  have hmost : e ≤ x.scale := by
    by_contra hlarge
    have hsignificand : (x.significand : ℚ) ≤ 2 ^ 53 - 1 := by
      have hnat : x.significand + 1 ≤ 2 ^ 53 := significand_lt x
      have hcast : ((x.significand + 1 : Nat) : ℚ) ≤ (2 ^ 53 : Nat) := by exact_mod_cast hnat
      push_cast at hcast
      linarith
    have hpower : (2 : ℚ) ^ 53 * 2 ^ x.scale ≤ 2 ^ (e + 52) :=
      le_two_zpow (by push_cast; omega)
    have hq := hlow (by have hscale := scale_ge x; omega)
    nlinarith
  rcases Int.lt_or_eq_of_le hmost with hless | heq
  · -- The number is less than the least one at the scale of the value.
    have hfield := one_lt_exponentField (x := x) (by omega)
    have hpower : (2 : ℚ) ^ (e + 53) ≤ 2 ^ 52 * 2 ^ x.scale := two_zpow_le (by push_cast; omega)
    have hfraction : x.fraction = 0 := by
      by_contra hne
      have hnat : 2 ^ 52 + 1 ≤ x.significand := by
        have hsignificand := significand_of_field hfield
        omega
      have hcast : (2 : ℚ) ^ 52 + 1 ≤ x.significand := by exact_mod_cast hnat
      nlinarith
    refine Or.inr ⟨?_, hfraction, hfield⟩
    by_contra hne
    have hpower' : (2 : ℚ) ^ (e + 53) ≤ 2 ^ 51 * 2 ^ x.scale :=
      two_zpow_le (by push_cast; omega)
    have hquarter := h.quarter hfraction hfield
    nlinarith
  · exact Or.inl heq

/-- A quotient near a value is rounded to it. -/
theorem ofRatio_of_near (hx : x.isFinite = true) (hzero : x.significand ≠ 0) {num den : Nat}
    (hden : 0 < den) (h : x.Near (num / den)) : ofRatio x.negative num den = x := by
  have hnum : num ≠ 0 := by
    rintro rfl
    have hpos := h.pos hzero
    simp at hpos
  obtain ⟨e, hleast, hlow, hhigh, heq⟩ := ofRatio_eq x.negative hnum hden
  have hunit : (0 : ℚ) < 2 ^ e := by positivity
  have hscaled : ((scaled num den (-e)).1 : ℚ) / (scaled num den (-e)).2 * 2 ^ e = num / den := by
    rw [scaled_eq, mul_assoc, ← zpow_add₀ (by norm_num), neg_add_cancel, zpow_zero, mul_one]
  have hround : ∀ k : Nat, (k - 1 / 2) * (2 : ℚ) ^ e ≤ num / den →
      (num : ℚ) / den ≤ (k + 1 / 2) * 2 ^ e →
      (k % 2 = 1 → (k - 1 / 2) * (2 : ℚ) ^ e < num / den ∧ (num : ℚ) / den < (k + 1 / 2) * 2 ^ e) →
      x.magnitude = (e + 1074).toNat * 2 ^ 52 + k → ofRatio x.negative num den = x := by
    intro k hge hle hodd hmagnitude
    have hfinite : x.magnitude < infiniteMagnitude := of_decide_eq_true hx
    rw [← hscaled, mul_le_mul_iff_left₀ hunit] at hge hle
    rw [← hscaled, mul_lt_mul_iff_left₀ hunit, mul_lt_mul_iff_left₀ hunit] at hodd
    rw [heq, roundDiv_of_half (scaled_pos hden _) hge hle hodd, ← hmagnitude,
      Nat.min_eq_left hfinite.le, ← eq_ofMagnitude]
  rcases h.scale hlow hleast hhigh with rfl | ⟨rfl, hfraction, hfield⟩
  · obtain ⟨hge, hle, hodd⟩ := h.half
    exact hround x.significand hge hle hodd (magnitude_eq x)
  · -- The significand is rounded up to the next power of two, and carries into the scale.
    have hquarter := h.quarter hfraction hfield
    have htwice : (2 : ℚ) ^ x.scale = 2 * 2 ^ (x.scale - 1) := by
      rw [zpow_sub₀ (by norm_num)]
      ring
    have hhigh' : (num : ℚ) / den < 2 ^ 53 * 2 ^ (x.scale - 1) :=
      lt_of_lt_of_le hhigh (two_zpow_le (by push_cast; omega))
    have hmagnitude := magnitude_eq x
    rw [significand_of_field hfield, hfraction] at hmagnitude
    apply hround (2 ^ 53)
    · push_cast
      rw [htwice] at hquarter
      linarith
    · push_cast
      linarith
    · exact fun hodd => absurd hodd (by decide)
    · have hcarry : (x.scale + 1074).toNat = (x.scale - 1 + 1074).toNat + 1 := by omega
      rw [hmagnitude, hcarry]
      ring

/-! ## Decimals near a value -/

/-- Powers of ten and of two are compared by their exponents, through
`2 ^ 93 < 10 ^ 28 < 2 ^ 94`. -/
theorem ten_zpow_le {j k : ℤ} (h : 94 * j ≤ 28 * k) (h' : 93 * j ≤ 28 * k) :
    (10 : ℚ) ^ j ≤ 2 ^ k := by
  have hpower : ((10 : ℚ) ^ j) ^ 28 ≤ (2 ^ k) ^ 28 := by
    rw [← zpow_natCast, ← zpow_natCast, ← zpow_mul, ← zpow_mul, mul_comm j, mul_comm k, zpow_mul]
    rcases le_or_gt 0 j with hj | hj
    · calc ((10 : ℚ) ^ ((28 : ℕ) : ℤ)) ^ j ≤ ((2 : ℚ) ^ (94 : ℤ)) ^ j :=
            zpow_le_zpow_left₀ hj (by norm_num) (by norm_num)
        _ = 2 ^ (94 * j) := (zpow_mul _ _ _).symm
        _ ≤ 2 ^ (((28 : ℕ) : ℤ) * k) := zpow_le_zpow_right₀ (by norm_num) h
    · obtain ⟨n, hn⟩ := Int.eq_ofNat_of_zero_le (show 0 ≤ -j by omega)
      obtain rfl : j = -(n : ℤ) := by omega
      calc ((10 : ℚ) ^ ((28 : ℕ) : ℤ)) ^ (-(n : ℤ)) ≤ ((2 : ℚ) ^ (93 : ℤ)) ^ (-(n : ℤ)) := by
            rw [zpow_neg, zpow_neg, zpow_natCast, zpow_natCast]
            apply inv_anti₀ (by positivity)
            apply pow_le_pow_left₀ (by positivity)
            norm_num
        _ = 2 ^ (93 * -(n : ℤ)) := (zpow_mul _ _ _).symm
        _ ≤ 2 ^ (((28 : ℕ) : ℤ) * k) := zpow_le_zpow_right₀ (by norm_num) h'
  exact le_of_pow_le_pow_left₀ (by norm_num) (by positivity) hpower

theorem Near.le_double_max (h : x.Near q) (hx : x.isFinite = true) : q ≤ 2 ^ (1024 : ℤ) := by
  obtain ⟨-, hle, -⟩ := h.half
  have hsignificand : (x.significand : ℚ) + 1 / 2 ≤ 2 ^ 53 := by
    have hnat : x.significand + 1 ≤ 2 ^ 53 := significand_lt x
    have hcast : ((x.significand + 1 : Nat) : ℚ) ≤ (2 ^ 53 : Nat) := by exact_mod_cast hnat
    push_cast at hcast
    linarith
  calc q ≤ (x.significand + 1 / 2) * 2 ^ x.scale := hle
    _ ≤ 2 ^ 53 * 2 ^ x.scale := by gcongr
    _ ≤ 2 ^ (1024 : ℤ) := le_two_zpow (by have hscale := scale_le hx; push_cast; omega)

theorem Near.ge_double_min (h : x.Near q) (hzero : x.significand ≠ 0) :
    (2 : ℚ) ^ (-1075 : ℤ) ≤ q := by
  have hone : (1 : ℚ) ≤ x.significand := by exact_mod_cast Nat.pos_of_ne_zero hzero
  calc (2 : ℚ) ^ (-1075 : ℤ) = 1 / 2 * 2 ^ (-1074 : ℤ) := by
        rw [show (-1075 : ℤ) = -1074 - 1 by norm_num, zpow_sub₀ (by norm_num)]
        ring
    _ ≤ (x.significand - 1 / 2) * 2 ^ x.scale := by
        apply mul_le_mul (by linarith) _ (by positivity) (by linarith)
        exact zpow_le_zpow_right₀ (by norm_num) (scale_ge x)
    _ ≤ q := h.half.1

/-- A decimal near a value is read as it. -/
theorem ofDecimal_of_near (hx : x.isFinite = true) (hzero : x.significand ≠ 0) {digits : Nat}
    {exponent : ℤ} (h : x.Near (digits * 10 ^ exponent)) :
    ofDecimal x.negative digits exponent = x := by
  have hpos := h.pos hzero
  have hdigits : digits ≠ 0 := by
    rintro rfl
    simp at hpos
  unfold ofDecimal
  rw [if_neg hdigits, if_neg, if_neg]
  · split
    · rename_i hsign
      obtain ⟨n, rfl⟩ := Int.eq_ofNat_of_zero_le hsign
      apply ofRatio_of_near hx hzero Nat.one_pos
      simpa using h
    · rename_i hsign
      obtain ⟨n, hn⟩ := Int.eq_ofNat_of_zero_le (show 0 ≤ -exponent by omega)
      obtain rfl : exponent = -(n : ℤ) := by omega
      apply ofRatio_of_near hx hzero (Nat.pow_pos (by decide))
      simpa [div_eq_mul_inv] using h
  · -- A decimal as small as this is less than any value other than zero.
    intro hsmall
    have hlog : (digits : ℚ) < 10 ^ ((digits.log2 : ℤ) + 1) := by
      calc (digits : ℚ) < 2 ^ ((digits.log2 : ℤ) + 1) := (log2_bounds hdigits).2
        _ ≤ 10 ^ ((digits.log2 : ℤ) + 1) :=
          zpow_le_zpow_left₀ (Int.le_add_one (Int.natCast_nonneg _)) (by norm_num) (by norm_num)
    have hbound : (digits : ℚ) * 10 ^ exponent < 2 ^ (-1075 : ℤ) := by
      calc (digits : ℚ) * 10 ^ exponent < 10 ^ ((digits.log2 : ℤ) + 1) * 10 ^ exponent := by gcongr
        _ = 10 ^ ((digits.log2 : ℤ) + 1 + exponent) := (zpow_add₀ (by norm_num) _ _).symm
        _ ≤ 2 ^ (-1075 : ℤ) := ten_zpow_le (by omega) (by omega)
    exact absurd (h.ge_double_min hzero) (not_le.2 hbound)
  · intro hlarge
    have hone : (1 : ℚ) ≤ digits := by exact_mod_cast Nat.pos_of_ne_zero hdigits
    have hbound : (2 : ℚ) ^ (1024 : ℤ) < digits * 10 ^ exponent := by
      calc (2 : ℚ) ^ (1024 : ℤ)
          ≤ 2 ^ (3 * 401 : ℤ) := zpow_le_zpow_right₀ (by norm_num) (by norm_num)
        _ = (2 ^ (3 : ℤ)) ^ (401 : ℤ) := zpow_mul _ _ _
        _ < 10 ^ (401 : ℤ) := zpow_lt_zpow_left₀ (by norm_num) (by norm_num) (by norm_num)
        _ ≤ 10 ^ exponent := zpow_le_zpow_right₀ (by norm_num) (by omega)
        _ ≤ digits * 10 ^ exponent := le_mul_of_one_le_left (by positivity) hone
    exact absurd (h.le_double_max hx) (not_le.2 hbound)

/-! ## Points of a grid -/

theorem zpow_toNat (b : ℚ) (n : ℤ) : b ^ n.toNat / b ^ (-n).toNat = b ^ n := by
  rcases le_or_gt 0 n with hn | hn
  · rw [show (-n).toNat = 0 by omega, pow_zero, div_one, ← zpow_natCast, Int.toNat_of_nonneg hn]
  · rw [show n.toNat = 0 by omega, pow_zero, ← zpow_natCast, Int.toNat_of_nonneg (by omega),
      zpow_neg, one_div, inv_inv]

theorem gridUnit_pos (e j : ℤ) : 0 < (gridUnit e j).2 := by
  unfold gridUnit
  exact Nat.mul_pos (Nat.pow_pos (by decide)) (Nat.pow_pos (by decide))

/-- The grid's unit and a quarter of the last place, each in units of the other. -/
theorem gridUnit_eq (e j : ℤ) :
    ((gridUnit e j).1 : ℚ) * 10 ^ j = 2 ^ (e - 2) * (gridUnit e j).2 := by
  have htwo := zpow_toNat 2 (e - 2)
  have hten := zpow_toNat 10 j
  rw [neg_sub] at htwo
  unfold gridUnit
  push_cast
  simp only [Nat.pow_eq]
  push_cast
  rw [← htwo, ← hten]
  field_simp

variable {j : ℤ}

theorem scaled_point (m p : Nat) :
    ((m * (gridUnit x.scale j).1 : Nat) : ℚ) * 10 ^ j =
        m * 2 ^ (x.scale - 2) * (gridUnit x.scale j).2 ∧
      ((p * (gridUnit x.scale j).2 : Nat) : ℚ) * 10 ^ j =
        p * 10 ^ j * (gridUnit x.scale j).2 := by
  push_cast
  rw [mul_assoc (m : ℚ), gridUnit_eq]
  constructor <;> ring

/-- A point of the grid is compared with a multiple of a quarter place as the numbers are for
which they stand. -/
theorem le_point_iff (m p : Nat) : m * (gridUnit x.scale j).1 ≤ p * (gridUnit x.scale j).2 ↔
    (m : ℚ) * 2 ^ (x.scale - 2) ≤ p * 10 ^ j := by
  have hpos : (0 : ℚ) < (gridUnit x.scale j).2 := by exact_mod_cast gridUnit_pos x.scale j
  have hten : (0 : ℚ) < 10 ^ j := by positivity
  obtain ⟨hplace, hpoint⟩ := scaled_point (x := x) (j := j) m p
  rw [← Nat.cast_le (α := ℚ), ← mul_le_mul_iff_left₀ hten, hplace, hpoint,
    mul_le_mul_iff_left₀ hpos]

theorem point_le_iff (m p : Nat) : p * (gridUnit x.scale j).2 ≤ m * (gridUnit x.scale j).1 ↔
    (p : ℚ) * 10 ^ j ≤ m * 2 ^ (x.scale - 2) := by
  have hpos : (0 : ℚ) < (gridUnit x.scale j).2 := by exact_mod_cast gridUnit_pos x.scale j
  have hten : (0 : ℚ) < 10 ^ j := by positivity
  obtain ⟨hplace, hpoint⟩ := scaled_point (x := x) (j := j) m p
  rw [← Nat.cast_le (α := ℚ), ← mul_le_mul_iff_left₀ hten, hplace, hpoint,
    mul_le_mul_iff_left₀ hpos]

/-- A point that is taken for the value is near it. -/
theorem near_of_reads {p : Nat}
    (h : x.interval.reads (gridUnit x.scale j).1 (gridUnit x.scale j).2 p = true) :
    x.Near (p * 10 ^ j) := by
  unfold Interval.reads at h
  split at h
  · rename_i hclosed
    simp only [Bool.and_eq_true, decide_eq_true_eq] at h
    have hopen : x.interval.closed ≠ false := by simp [hclosed]
    exact ⟨(le_point_iff _ _).1 h.1, (point_le_iff _ _).1 h.2,
      fun hfalse => absurd hfalse hopen, fun hfalse => absurd hfalse hopen⟩
  · simp only [Bool.and_eq_true, decide_eq_true_eq] at h
    have hlow := lt_of_not_ge (mt (point_le_iff _ _).2 (not_le.2 h.1))
    have hhigh := lt_of_not_ge (mt (le_point_iff _ _).2 (not_le.2 h.2))
    exact ⟨hlow.le, hhigh.le, fun _ => hlow, fun _ => hhigh⟩

/-! ## The search -/

/-- A grid that is finer than half a place has a point that reads back to the value: the one
above it, if not the one below. -/
theorem onGrid?_of_fine (tie : Tie) (h : (10 : ℚ) ^ j < 2 ^ (x.scale - 1)) :
    ∃ p, onGrid? tie x j = some p := by
  have hfine : (gridUnit x.scale j).2 < 2 * (gridUnit x.scale j).1 := by
    by_contra hcoarse
    have hpoint := (le_point_iff (x := x) (j := j) 2 1).1 (by omega)
    have htwice : (2 : ℚ) ^ (x.scale - 1) = 2 * 2 ^ (x.scale - 2) := by
      rw [show x.scale - 1 = x.scale - 2 + 1 by ring, zpow_add_one₀ (by norm_num)]
      ring
    push_cast at hpoint
    linarith
  have hpos := gridUnit_pos x.scale j
  have habove : x.interval.reads (gridUnit x.scale j).1 (gridUnit x.scale j).2
      (x.interval.middle * (gridUnit x.scale j).1 / (gridUnit x.scale j).2 + 1) = true := by
    have hlow : x.interval.low ≤ x.interval.middle := by
      unfold interval
      dsimp only
      split <;> omega
    have hhigh : x.interval.high = x.interval.middle + 2 := rfl
    generalize (gridUnit x.scale j).1 = a at hfine ⊢
    generalize (gridUnit x.scale j).2 = b at hfine hpos ⊢
    have hdiv := Nat.div_add_mod (x.interval.middle * a) b
    have hmod := Nat.mod_lt (x.interval.middle * a) hpos
    have hnext : (x.interval.middle * a / b + 1) * b = b * (x.interval.middle * a / b) + b := by
      ring
    have hlow' := Nat.mul_le_mul_right a hlow
    have hhigh' : x.interval.high * a = x.interval.middle * a + 2 * a := by
      rw [hhigh]
      ring
    unfold Interval.reads
    rw [hnext, hhigh']
    split <;> simp only [Bool.and_eq_true, decide_eq_true_eq] <;> omega
  unfold Interval.reads at habove
  unfold onGrid?
  dsimp only
  split
  · split
    · exact ⟨_, rfl⟩
    · split
      · exact ⟨_, rfl⟩
      · split <;> exact ⟨_, rfl⟩
  · exact ⟨_, rfl⟩
  · exact ⟨_, rfl⟩
  · rename_i hnone
    rw [habove] at hnone
    cases hnone

/-- The search ends on a point of its grid, if one of the grids it comes to has one. -/
theorem onGrid?_firstGrid {tie : Tie} {fuel k : Nat} (hk : k < fuel)
    (h : ∃ p, onGrid? tie x (j - k) = some p) :
    onGrid? tie x (firstGrid tie x fuel j).2 = some (firstGrid tie x fuel j).1 := by
  induction fuel generalizing j k with
  | zero => omega
  | succ fuel ih =>
    unfold firstGrid
    split
    · rename_i p hp
      exact hp
    · rename_i hnone
      cases k with
      | zero =>
        obtain ⟨p, hp⟩ := h
        rw [Nat.cast_zero, sub_zero, hnone] at hp
        cases hp
      | succ k =>
        apply ih (k := k) (by omega)
        rwa [Nat.cast_succ, add_comm, ← sub_sub] at h

/-- The shortest decimal of a value reads back as the value. -/
theorem near_shortest (tie : Tie) (hx : x.isFinite = true) (hzero : x.significand ≠ 0) :
    x.Near ((shortest tie x).1 * 10 ^ (shortest tie x).2) := by
  have hlog : x.significand.log2 < 53 := (Nat.log2_lt hzero).2 (significand_lt x)
  have hlow := scale_ge x
  have hhigh := scale_le hx
  apply near_of_reads
  apply reads_of_onGrid?
  apply onGrid?_firstGrid (k := 23) (by decide)
  apply onGrid?_of_fine
  calc (10 : ℚ) ^ (((x.significand.log2 : ℤ) + 1 + x.scale) * 30103 / 100000 + 2 - (23 : ℕ)) ≤
        2 ^ (x.scale - 2) := ten_zpow_le (by push_cast; omega) (by push_cast; omega)
    _ < 2 ^ (x.scale - 1) := zpow_lt_zpow_right₀ (by norm_num) (by omega)

theorem shortest_pos (tie : Tie) (hx : x.isFinite = true) (hzero : x.significand ≠ 0) :
    0 < (shortest tie x).1 := by
  have hpos := (near_shortest tie hx hzero).pos hzero
  rcases Nat.eq_zero_or_pos (shortest tie x).1 with hnone | hsome
  · rw [hnone] at hpos
    simp at hpos
  · exact hsome

end StructuredSql.Double
