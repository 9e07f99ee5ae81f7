-- Whole numbers as a fixed count of octets, and octets taken off the front.

namespace StructuredSql.Octets

/-- The lowest `width` octets of a number, least significant first. -/
def little : Nat → Nat → List UInt8
  | 0, _ => []
  | width + 1, n => UInt8.ofNat n :: little width (n / 256)

/-- The number of octets that stand least significant first. -/
def ofLittle : List UInt8 → Nat
  | [] => 0
  | b :: rest => b.toNat + 256 * ofLittle rest

/-- The lowest `width` octets of a number, most significant first. -/
def big (width n : Nat) : List UInt8 := (little width n).reverse

/-- The number of octets that stand most significant first. -/
def ofBig (bs : List UInt8) : Nat := ofLittle bs.reverse

/-- The first `n` octets and the rest, if there are as many. -/
def take? (n : Nat) (bs : List UInt8) : Option (List UInt8 × List UInt8) :=
  let front := bs.take n
  if front.length = n then some (front, bs.drop n) else none

/-! ## Reading what was written -/

theorem length_little (width n : Nat) : (little width n).length = width := by
  induction width generalizing n with
  | zero => rfl
  | succ width ih => simp [little, ih]

theorem ofLittle_little (width n : Nat) : ofLittle (little width n) = n % Nat.pow 256 width := by
  induction width generalizing n with
  | zero => simp [little, ofLittle, Nat.mod_one]
  | succ width ih =>
    have h : n % Nat.pow 256 (width + 1) = n % 256 + 256 * (n / 256 % Nat.pow 256 width) := by
      rw [Nat.pow_eq, Nat.pow_eq, Nat.pow_succ', Nat.mod_mul]
    rw [little, ofLittle, ih, UInt8.toNat_ofNat', h]

theorem length_big (width n : Nat) : (big width n).length = width := by
  simp [big, length_little]

theorem ofBig_big (width n : Nat) : ofBig (big width n) = n % Nat.pow 256 width := by
  simp [ofBig, big, ofLittle_little]

/-- Octets of a known width in front of others are taken off whole. -/
theorem take?_append {n : Nat} {front : List UInt8} (width : front.length = n)
    (rest : List UInt8) : take? n (front ++ rest) = some (front, rest) := by
  subst width
  simp [take?]

end StructuredSql.Octets
