-- Which quotients and decimals are rounded to a finite value: those below the middle between
-- the largest value and the next power of two.
import StructuredSql.Double.Decimal
import Mathlib.Algebra.Order.Field.Power
import Mathlib.Data.Nat.Log
import Mathlib.Data.Rat.Floor
import Mathlib.Tactic.Linarith
import Mathlib.Tactic.NormNum

namespace StructuredSql.Double

/-- The least number that is rounded to infinity. -/
@[irreducible]
def overflow : Nat := (2 ^ 54 - 1) * 2 ^ 970

theorem overflow_pos : 0 < overflow := by
  have hpower : ∀ k, 0 < (2 ^ 54 - 1) * 2 ^ k := fun k =>
    Nat.mul_pos (by decide) (Nat.two_pow_pos k)
  unfold overflow
  exact hpower 970

/-! ## Magnitudes -/

theorem magnitude_ofMagnitude (negative : Bool) {m : Nat} (h : m < 2 ^ 63) :
    (ofMagnitude negative m).magnitude = m := by
  unfold magnitude ofMagnitude
  cases negative <;> simp <;> omega

theorem infiniteMagnitude_eq : infiniteMagnitude = 2047 * 2 ^ 52 := rfl

theorem isFinite_ofMagnitude_iff (negative : Bool) {m : Nat} (h : m < 2 ^ 63) :
    (ofMagnitude negative m).isFinite = true ↔ m < infiniteMagnitude := by
  unfold isFinite
  rw [magnitude_ofMagnitude negative h, decide_eq_true_iff]

theorem isFinite_ofMagnitude (negative : Bool) {m : Nat} (h : m < infiniteMagnitude) :
    (ofMagnitude negative m).isFinite = true := by
  have hsmall : m < 2 ^ 63 := by
    rw [infiniteMagnitude_eq] at h
    omega
  exact (isFinite_ofMagnitude_iff negative hsmall).2 h

theorem not_isFinite_of_large (negative : Bool) {m : Nat} (h : m < 2 ^ 52) :
    ¬ (ofMagnitude negative (infiniteMagnitude + m)).isFinite = true := by
  have hsmall : infiniteMagnitude + m < 2 ^ 63 := by
    rw [infiniteMagnitude_eq]
    omega
  rw [isFinite_ofMagnitude_iff negative hsmall]
  omega

theorem isFinite_zero (negative : Bool) : (zero negative).isFinite = true :=
  isFinite_ofMagnitude negative (by decide)

/-! ## Rounded quotients -/

theorem roundDiv_le {a b k : Nat} (h : 2 * a < (2 * k + 1) * b) : roundDiv a b ≤ k := by
  have hdiv := Nat.div_add_mod a b
  have hb : 0 < b := Nat.pos_of_ne_zero fun hb => by simp [hb] at h
  have hquotient : a / b < k + 1 := by
    apply (Nat.div_lt_iff_lt_mul hb).2
    linarith
  unfold roundDiv
  dsimp only
  by_cases hless : a / b < k
  · split
    · omega
    · split <;> omega
  · -- The quotient is `k` itself, and what remains is less than a half.
    have hk : a / b = k := by omega
    rw [hk] at hdiv ⊢
    rw [if_pos (by nlinarith)]

theorem scaled_pos {num den : Nat} (h : 0 < den) (e : Int) : 0 < (scaled num den e).2 := by
  unfold scaled
  split
  · exact h
  · exact Nat.mul_pos h (Nat.pow_pos (by decide))

theorem scaled_eq (num den : Nat) (e : Int) :
    ((scaled num den e).1 : ℚ) / (scaled num den e).2 = num / den * 2 ^ e := by
  unfold scaled
  split
  · rename_i he
    obtain ⟨n, rfl⟩ := Int.eq_ofNat_of_zero_le he
    simp [mul_div_right_comm]
  · rename_i he
    obtain ⟨n, hn⟩ := Int.eq_ofNat_of_zero_le (show 0 ≤ -e by omega)
    have he' : e = -(n : Int) := by omega
    subst he'
    simp [div_eq_mul_inv, mul_assoc, mul_comm]

theorem log2_bounds {n : Nat} (h : n ≠ 0) :
    (2 : ℚ) ^ (n.log2 : Int) ≤ n ∧ (n : ℚ) < 2 ^ ((n.log2 : Int) + 1) := by
  constructor
  · exact_mod_cast Nat.log2_self_le h
  · exact_mod_cast Nat.lt_log2_self

/-- Multiples of a scaled quotient are compared as those of the quotient itself. -/
theorem scaled_lt_iff (num : Nat) {den : Nat} (hden : 0 < den) (e : Int) (m k : Nat) :
    m * (scaled num den (-e)).1 < k * (scaled num den (-e)).2 ↔
      (m : ℚ) * (num / den) < k * 2 ^ e := by
  have hpos : (0 : ℚ) < (scaled num den (-e)).2 := by exact_mod_cast scaled_pos hden (-e)
  have hpower : (0 : ℚ) < 2 ^ e := by positivity
  have hscaled := scaled_eq num den (-e)
  rw [zpow_neg, ← div_eq_mul_inv, div_eq_div_iff hpos.ne' hpower.ne'] at hscaled
  rw [← Nat.cast_lt (α := ℚ), Nat.cast_mul, Nat.cast_mul, ← mul_lt_mul_iff_left₀ hpower,
    mul_assoc, hscaled, mul_right_comm, ← mul_assoc, mul_lt_mul_iff_left₀ hpos]

theorem ratio_bounds {num den : Nat} (hnum : num ≠ 0) (hden : den ≠ 0) :
    (2 : ℚ) ^ ((num.log2 : Int) - den.log2 - 1) ≤ num / den ∧
      (num : ℚ) / den < 2 ^ ((num.log2 : Int) - den.log2 + 1) := by
  obtain ⟨hlow, hhigh⟩ := log2_bounds hnum
  obtain ⟨hlow', hhigh'⟩ := log2_bounds hden
  have hpos : (0 : ℚ) < den := by exact_mod_cast Nat.pos_of_ne_zero hden
  have htwo : (2 : ℚ) ≠ 0 := by norm_num
  constructor
  · rw [le_div_iff₀ hpos]
    calc (2 : ℚ) ^ ((num.log2 : Int) - den.log2 - 1) * den
        ≤ 2 ^ ((num.log2 : Int) - den.log2 - 1) * 2 ^ ((den.log2 : Int) + 1) := by gcongr
      _ = 2 ^ (num.log2 : Int) := by
        rw [← zpow_add₀ htwo]
        congr 1
        omega
      _ ≤ num := hlow
  · rw [div_lt_iff₀ hpos]
    calc (num : ℚ) < 2 ^ ((num.log2 : Int) + 1) := hhigh
      _ = 2 ^ ((num.log2 : Int) - den.log2 + 1) * 2 ^ (den.log2 : Int) := by
        rw [← zpow_add₀ htwo]
        congr 1
        omega
      _ ≤ 2 ^ ((num.log2 : Int) - den.log2 + 1) * den := by gcongr

theorem quotient_lt_iff {num den : Nat} (hden : 0 < den) (e : Int) :
    (scaled num den (-e)).1 / (scaled num den (-e)).2 < Nat.pow 2 53 ↔
      (num : ℚ) / den < 2 ^ (e + 53) := by
  have hcompare := scaled_lt_iff num hden e 1 (2 ^ 53)
  rw [Nat.one_mul, Nat.cast_one, one_mul, Nat.cast_pow] at hcompare
  rw [Nat.div_lt_iff_lt_mul (scaled_pos hden _), zpow_add₀ (by norm_num), mul_comm (2 ^ e)]
  exact hcompare

/-- A quotient is rounded at a scale where its significand has at most 53 places, and has
exactly so many above the least scale. -/
theorem ofRatio_eq (negative : Bool) {num den : Nat} (hnum : num ≠ 0) (hden : 0 < den) :
    ∃ e : Int, -1074 ≤ e ∧ (-1074 < e → (2 : ℚ) ^ (e + 52) ≤ num / den) ∧
      (num : ℚ) / den < 2 ^ (e + 53) ∧
      ofRatio negative num den = ofMagnitude negative
        (min ((e + 1074).toNat * 2 ^ 52 +
          roundDiv (scaled num den (-e)).1 (scaled num den (-e)).2) infiniteMagnitude) := by
  obtain ⟨hlow, hhigh⟩ := ratio_bounds hnum hden.ne'
  -- The first guess is the right scale or the one below it.
  have hguess : ∃ e₁ : Int, (2 : ℚ) ^ (e₁ + 52) ≤ num / den ∧ (num : ℚ) / den < 2 ^ (e₁ + 53) ∧
      e₁ = (if Nat.pow 2 53 ≤ (scaled num den (-((num.log2 : Int) - den.log2 - 53))).1 /
          (scaled num den (-((num.log2 : Int) - den.log2 - 53))).2
        then (num.log2 : Int) - den.log2 - 53 + 1 else (num.log2 : Int) - den.log2 - 53) := by
    by_cases hsplit : (scaled num den (-((num.log2 : Int) - den.log2 - 53))).1 /
        (scaled num den (-((num.log2 : Int) - den.log2 - 53))).2 < Nat.pow 2 53
    · refine ⟨_, ?_, (quotient_lt_iff hden _).1 hsplit, (if_neg (Nat.not_le.2 hsplit)).symm⟩
      rwa [show (num.log2 : Int) - den.log2 - 53 + 52 = num.log2 - den.log2 - 1 by omega]
    · refine ⟨_, ?_, ?_, (if_pos (Nat.not_lt.1 hsplit)).symm⟩
      · rw [quotient_lt_iff hden, not_lt] at hsplit
        rwa [show (num.log2 : Int) - den.log2 - 53 + 1 + 52 =
          num.log2 - den.log2 - 53 + 53 by omega]
      · rwa [show (num.log2 : Int) - den.log2 - 53 + 1 + 53 = num.log2 - den.log2 + 1 by omega]
  obtain ⟨e₁, hlow₁, hhigh₁, he₁⟩ := hguess
  refine ⟨max e₁ (-1074), by omega, ?_, ?_, ?_⟩
  · intro hmax
    rwa [max_eq_left (by omega)]
  · calc (num : ℚ) / den < 2 ^ (e₁ + 53) := hhigh₁
      _ ≤ 2 ^ (max e₁ (-1074) + 53) := by
        gcongr
        · norm_num
        · omega
  · unfold ofRatio
    rw [if_neg hnum]
    dsimp only
    rw [← he₁]
    rfl

theorem overflow_eq : (overflow : ℚ) = (2 ^ 54 - 1) * 2 ^ (970 : Int) := by
  unfold overflow
  have hlarge : (2 : ℚ) ^ (970 : Int) = ((2 ^ 970 : Nat) : ℚ) := by
    rw [Nat.cast_pow]
    rfl
  have hsmall : (2 : ℚ) ^ 54 - 1 = ((2 ^ 54 - 1 : Nat) : ℚ) := by norm_num
  rw [hlarge, hsmall, ← Nat.cast_mul]

theorem isFinite_ofRatio (negative : Bool) {num den : Nat} (h : num < overflow * den) :
    (ofRatio negative num den).isFinite = true := by
  have hden : 0 < den := Nat.pos_of_ne_zero fun hden => by simp [hden] at h
  by_cases hnum : num = 0
  · unfold ofRatio
    rw [if_pos hnum]
    exact isFinite_zero negative
  · obtain ⟨e, hleast, hlow, hhigh, heq⟩ := ofRatio_eq negative hnum hden
    have hbound : (num : ℚ) / den < (2 ^ 54 - 1) * 2 ^ (970 : Int) := by
      have hcast : (num : ℚ) < (overflow * den : Nat) := by exact_mod_cast h
      rw [div_lt_iff₀ (by exact_mod_cast hden)]
      rwa [Nat.cast_mul, overflow_eq] at hcast
    have hmost : e ≤ 971 := by
      by_contra hlarge
      have hpower : (2 : ℚ) ^ (54 + 970 : Int) ≤ 2 ^ (e + 52) := by
        apply zpow_le_zpow_right₀
        · norm_num
        · omega
      have hpos : (0 : ℚ) < 2 ^ (970 : Int) := by positivity
      have hlow' := hlow (by omega)
      rw [zpow_add₀ (by norm_num)] at hpower
      generalize (2 : ℚ) ^ (970 : Int) = p at hbound hpower hpos
      have h54 : (2 : ℚ) ^ (54 : Int) = 2 ^ 54 := rfl
      rw [h54] at hpower
      linarith
    rw [heq]
    apply isFinite_ofMagnitude
    rw [infiniteMagnitude_eq]
    apply Nat.lt_of_le_of_lt (Nat.min_le_left _ _)
    by_cases hlast : e = 971
    · -- At the last scale the significand must not round up to the next power of two.
      have hround : roundDiv (scaled num den (-e)).1 (scaled num den (-e)).2 ≤ 2 ^ 53 - 1 := by
        apply roundDiv_le
        apply (scaled_lt_iff num hden e 2 _).2
        rw [hlast, show (971 : Int) = 970 + 1 by rfl, zpow_add_one₀ (by norm_num)]
        generalize (2 : ℚ) ^ (970 : Int) = p at hbound ⊢
        norm_num at hbound ⊢
        linarith
      subst hlast
      omega
    · have hround : roundDiv (scaled num den (-e)).1 (scaled num den (-e)).2 ≤ 2 ^ 53 := by
        apply roundDiv_le
        apply (scaled_lt_iff num hden e 2 _).2
        have hpos : (0 : ℚ) < 2 ^ e := by positivity
        rw [zpow_add₀ (by norm_num)] at hhigh
        generalize (2 : ℚ) ^ e = p at hhigh hpos ⊢
        norm_num at hhigh ⊢
        linarith
      omega

/-! ## Decimals -/

theorem overflow_lt {n : Nat} (h : 400 ≤ n) : overflow < 10 ^ n := by
  have hpower : ∀ k, 54 + k ≤ 3 * n → (2 ^ 54 - 1) * 2 ^ k < 10 ^ n := by
    intro k hk
    calc (2 ^ 54 - 1) * 2 ^ k < 2 ^ 54 * 2 ^ k :=
          Nat.mul_lt_mul_of_pos_right (by decide) (Nat.two_pow_pos k)
      _ = 2 ^ (54 + k) := (Nat.pow_add 2 54 k).symm
      _ ≤ 2 ^ (3 * n) := Nat.pow_le_pow_right (by decide) hk
      _ = (2 ^ 3) ^ n := Nat.pow_mul 2 3 n
      _ ≤ 10 ^ n := Nat.pow_le_pow_left (by decide) n
  unfold overflow
  exact hpower 970 (by omega)

/-- A decimal below the least number that is rounded to infinity is rounded to a finite value. -/
theorem isFinite_ofDecimal (negative : Bool) {digits : Nat} {exponent : Int}
    (h : digits * 10 ^ exponent.toNat < overflow * 10 ^ (-exponent).toNat) :
    (ofDecimal negative digits exponent).isFinite = true := by
  unfold ofDecimal
  by_cases hdigits : digits = 0
  · rw [if_pos hdigits]
    exact isFinite_zero negative
  · rw [if_neg hdigits]
    by_cases hlarge : 400 < exponent
    · have hnone : (-exponent).toNat = 0 := by omega
      have hpower : overflow < digits * 10 ^ exponent.toNat :=
        (overflow_lt (by omega)).trans_le
          (Nat.le_mul_of_pos_left _ (Nat.pos_of_ne_zero hdigits))
      rw [hnone, Nat.pow_zero, Nat.mul_one] at h
      exact absurd h hpower.asymm
    · rw [if_neg hlarge]
      by_cases hsmall : exponent + digits.log2 + 1 < -400
      · rw [if_pos hsmall]
        exact isFinite_zero negative
      · rw [if_neg hsmall]
        by_cases hsign : 0 ≤ exponent
        · rw [if_pos hsign]
          apply isFinite_ofRatio
          rwa [show (-exponent).toNat = 0 by omega] at h
        · rw [if_neg hsign]
          apply isFinite_ofRatio
          rwa [show exponent.toNat = 0 by omega, Nat.pow_zero, Nat.mul_one] at h

/-! ## Digits of finite values -/

theorem significand_lt (x : Double) : x.significand < 2 ^ 53 := by
  have hfraction : x.fraction < 2 ^ 52 := Nat.mod_lt _ (by decide)
  unfold significand
  split
  · omega
  · simp only [Nat.pow_eq]
    omega

theorem scale_le {x : Double} (h : x.isFinite = true) : x.scale ≤ 971 := by
  have hfield : x.exponentField < 2047 := by
    unfold exponentField
    apply (Nat.div_lt_iff_lt_mul (by decide)).2
    exact of_decide_eq_true h
  unfold scale
  omega

theorem high_lt_overflow {m k : Nat} (hm : m < 2 ^ 53) (hk : k ≤ 969) :
    (4 * m + 2) * 2 ^ k ≤ overflow ∧ (m % 2 = 0 → (4 * m + 2) * 2 ^ k < overflow) := by
  have hhalf : (4 * m + 2) * 2 ^ k = (2 * m + 1) * 2 ^ (k + 1) := by
    rw [Nat.pow_succ', ← Nat.mul_assoc]
    congr 1
    omega
  have hall : ∀ n, k + 1 ≤ n → (2 * m + 1) * 2 ^ (k + 1) ≤ (2 ^ 54 - 1) * 2 ^ n ∧
      (m % 2 = 0 → (2 * m + 1) * 2 ^ (k + 1) < (2 ^ 54 - 1) * 2 ^ n) := by
    intro n hn
    have hpower : 2 ^ (k + 1) ≤ 2 ^ n := Nat.pow_le_pow_right (by decide) hn
    constructor
    · exact Nat.mul_le_mul (by omega) hpower
    · intro heven
      exact Nat.mul_lt_mul_of_lt_of_le (by omega) hpower (Nat.two_pow_pos n)
  rw [hhalf]
  unfold overflow
  exact hall 970 (by omega)

/-- The multiple of a grid's unit lies among the numbers that are rounded to the value. -/
def Interval.reads (i : Interval) (a b p : Nat) : Bool :=
  if i.closed then i.low * a ≤ p * b && p * b ≤ i.high * a
  else i.low * a < p * b && p * b < i.high * a

theorem reads_of_onGrid? {tie : Tie} {x : Double} {j : Int} {p : Nat}
    (h : onGrid? tie x j = some p) :
    x.interval.reads (gridUnit x.scale j).1 (gridUnit x.scale j).2 p = true := by
  unfold onGrid? at h
  dsimp only at h
  split at h
  · rename_i hbelow habove
    split at h
    · cases h
      exact hbelow
    · split at h
      · cases h
        exact habove
      · split at h
        · cases h
          exact habove
        · cases h
          -- The even one of the two neighbours is one of them.
          rcases Nat.mod_two_eq_zero_or_one
            (x.interval.middle * (gridUnit x.scale j).1 / (gridUnit x.scale j).2) with hq | hq
          · rw [hq]
            exact hbelow
          · rw [hq]
            exact habove
  · rename_i hbelow _
    cases h
    exact hbelow
  · rename_i _ habove
    cases h
    exact habove
  · cases h

theorem Interval.le_high {i : Interval} {a b p : Nat} (h : i.reads a b p = true) :
    p * b ≤ i.high * a ∧ (i.closed = false → p * b < i.high * a) := by
  unfold reads at h
  cases hclosed : i.closed
  · simp [hclosed] at h
    exact ⟨h.2.le, fun _ => h.2⟩
  · simp [hclosed] at h
    exact ⟨h.2, by simp⟩

/-- What a finite value is written as is below the least number that is rounded to infinity. -/
theorem onGrid?_lt {tie : Tie} {x : Double} (hx : x.isFinite = true) {j : Int} {p : Nat}
    (h : onGrid? tie x j = some p) : p * 10 ^ j.toNat < overflow * 10 ^ (-j).toNat := by
  obtain ⟨hle, hlt⟩ := Interval.le_high (reads_of_onGrid? h)
  have hscale := scale_le hx
  obtain ⟨hhigh, hhigh'⟩ :=
    high_lt_overflow (k := (x.scale - 2).toNat) (significand_lt x) (by omega)
  have hpower : 0 < 10 ^ (-j).toNat := Nat.pow_pos (by decide)
  have hgrid : p * 10 ^ j.toNat * 2 ^ (2 - x.scale).toNat < overflow * 10 ^ (-j).toNat := by
    have hunit : p * (gridUnit x.scale j).2 = p * 10 ^ j.toNat * 2 ^ (2 - x.scale).toNat :=
      (Nat.mul_assoc _ _ _).symm
    have hend : x.interval.high * (gridUnit x.scale j).1 =
        (4 * x.significand + 2) * 2 ^ (x.scale - 2).toNat * 10 ^ (-j).toNat :=
      (Nat.mul_assoc _ _ _).symm
    rw [hunit, hend] at hle hlt
    -- The end itself belongs to the interval only under an even significand.
    cases hclosed : x.interval.closed
    · exact (hlt hclosed).trans_le (Nat.mul_le_mul_right _ hhigh)
    · have heven : x.significand % 2 = 0 := by simpa [interval] using hclosed
      exact hle.trans_lt (Nat.mul_lt_mul_of_pos_right (hhigh' heven) hpower)
  exact (Nat.le_mul_of_pos_right _ (Nat.two_pow_pos _)).trans_lt hgrid

theorem shortest_lt (tie : Tie) {x : Double} (hx : x.isFinite = true) :
    (shortest tie x).1 * 10 ^ (shortest tie x).2.toNat <
      overflow * 10 ^ (-(shortest tie x).2).toNat := by
  have hgrid : ∀ fuel j, (firstGrid tie x fuel j).1 * 10 ^ (firstGrid tie x fuel j).2.toNat <
      overflow * 10 ^ (-(firstGrid tie x fuel j).2).toNat := by
    intro fuel
    induction fuel with
    | zero =>
      intro j
      rw [firstGrid, Nat.zero_mul]
      exact Nat.mul_pos overflow_pos (Nat.pow_pos (by decide))
    | succ fuel ih =>
      intro j
      unfold firstGrid
      split
      · rename_i p hp
        exact onGrid?_lt hx hp
      · exact ih (j - 1)
  exact hgrid 24 _

end StructuredSql.Double
