-- Binary floating point in 64 bits, held as its bits. The sign, the significand
-- and the scale are read from the bits, and a quotient of two whole numbers is
-- rounded to the nearest value, a half going to the even neighbour.

namespace StructuredSql

/-- A floating-point number in the 64-bit interchange format. Two of them are
the same datum when their bits are. -/
structure Double where
  bits : UInt64
deriving DecidableEq, Inhabited, Repr

namespace Double

/-! ## Reading the bits -/

def negative (x : Double) : Bool := Nat.pow 2 63 ≤ x.bits.toNat

/-- The bits below the sign. -/
def magnitude (x : Double) : Nat := x.bits.toNat % Nat.pow 2 63

def exponentField (x : Double) : Nat := x.magnitude / Nat.pow 2 52

def fraction (x : Double) : Nat := x.magnitude % Nat.pow 2 52

/-- The magnitude of infinity. Larger ones are not numbers. -/
def infiniteMagnitude : Nat := 2047 * Nat.pow 2 52

def isNaN (x : Double) : Bool := infiniteMagnitude < x.magnitude

def isInfinite (x : Double) : Bool := x.magnitude == infiniteMagnitude

def isFinite (x : Double) : Bool := x.magnitude < infiniteMagnitude

def isZero (x : Double) : Bool := x.magnitude == 0

/-- A finite value is its sign times `significand * 2 ^ scale`. -/
def significand (x : Double) : Nat :=
  if x.exponentField = 0 then x.fraction else x.fraction + Nat.pow 2 52

def scale (x : Double) : Int := (max x.exponentField 1 : Nat) - 1075

/-- Equality of values: no NaN equals anything, and the two zeros are equal. -/
def eqv (x y : Double) : Bool :=
  !x.isNaN && !y.isNaN && (x.bits == y.bits || (x.isZero && y.isZero))

/-! ## Building values -/

/-- The value with this sign and these bits below it. -/
def ofMagnitude (negative : Bool) (magnitude : Nat) : Double :=
  ⟨UInt64.ofNat ((if negative then Nat.pow 2 63 else 0) + magnitude)⟩

def zero (negative : Bool) : Double := ofMagnitude negative 0

def infinity (negative : Bool) : Double := ofMagnitude negative infiniteMagnitude

/-- The quiet NaN. -/
def nan : Double := ofMagnitude false (infiniteMagnitude + Nat.pow 2 51)

/-- The whole number nearest to `num / den`, a half going to the even one. -/
def roundDiv (num den : Nat) : Nat :=
  let q := num / den
  let r := num % den
  if 2 * r < den then q
  else if den < 2 * r then q + 1
  else q + q % 2

/-- `num / den * 2 ^ e`, as a quotient of whole numbers. -/
def scaled (num den : Nat) (e : Int) : Nat × Nat :=
  if 0 ≤ e then (num * Nat.pow 2 e.toNat, den) else (num, den * Nat.pow 2 (-e).toNat)

/-- The value nearest to `num / den`: the scale is the least one whose
significand stays below `2 ^ 53`, and never below that of the subnormals. A
significand that rounds up to `2 ^ 53` carries into the exponent field. -/
def ofRatio (negative : Bool) (num den : Nat) : Double :=
  if num = 0 then zero negative
  else
    let e₀ : Int := (num.log2 : Int) - den.log2 - 53
    let below := scaled num den (-e₀)
    let e₁ := if Nat.pow 2 53 ≤ below.1 / below.2 then e₀ + 1 else e₀
    let e := max e₁ (-1074)
    let target := scaled num den (-e)
    let magnitude := (e + 1074).toNat * Nat.pow 2 52 + roundDiv target.1 target.2
    ofMagnitude negative (min magnitude infiniteMagnitude)

def ofInt (i : Int) : Double := ofRatio (i < 0) i.natAbs 1

def ofInt64 (i : Int64) : Double := ofInt i.toInt

/-- The value nearest to `digits * 10 ^ exponent`. Exponents far outside the
range are answered without computing their powers. -/
def ofDecimal (negative : Bool) (digits : Nat) (exponent : Int) : Double :=
  if digits = 0 then zero negative
  else if 400 < exponent then infinity negative
  else if exponent + digits.log2 + 1 < -400 then zero negative
  else if 0 ≤ exponent then ofRatio negative (digits * Nat.pow 10 exponent.toNat) 1
  else ofRatio negative digits (Nat.pow 10 (-exponent).toNat)

/-! ## Arithmetic of finite values -/

def negate (x : Double) : Double := ofMagnitude (!x.negative) x.magnitude

/-- The value nearest to the product. -/
def times (x y : Double) : Double :=
  let product := scaled (x.significand * y.significand) 1 (x.scale + y.scale)
  ofRatio (x.negative != y.negative) product.1 product.2

/-- The value nearest to the quotient, by what is not zero. -/
def dividedBy (x y : Double) : Double :=
  let quotient := scaled x.significand y.significand (x.scale - y.scale)
  ofRatio (x.negative != y.negative) quotient.1 quotient.2

/-- The value of a 32-bit float, every one of which has 64-bit form. -/
def ofSingleBits (bits : UInt32) : Double :=
  let n := bits.toNat
  let negative := decide (Nat.pow 2 31 ≤ n)
  let field := n % Nat.pow 2 31 / Nat.pow 2 23
  let fraction := n % Nat.pow 2 23
  if field = 255 then
    if fraction = 0 then infinity negative
    else
      ofMagnitude negative
        (infiniteMagnitude + Nat.pow 2 51 + fraction * Nat.pow 2 29 % Nat.pow 2 51)
  else
    let significand := if field = 0 then fraction else fraction + Nat.pow 2 23
    ofRatio negative (significand * Nat.pow 2 (max field 1)) (Nat.pow 2 150)

/-! ## Whole numbers -/

/-- The whole part of a finite value, toward zero. -/
def truncate (x : Double) : Int :=
  let s := scaled x.significand 1 x.scale
  let whole : Int := (s.1 / s.2 : Nat)
  if x.negative then -whole else whole

/-- A finite value without a fractional part. -/
def isWhole (x : Double) : Bool :=
  let s := scaled x.significand 1 x.scale
  x.isFinite && s.1 % s.2 == 0

/-- The nearest 64-bit integer toward zero: values out of range go to the
nearest bound, and NaN to 0. -/
def toInt64 (x : Double) : Int64 :=
  if x.isNaN then 0
  else if x.isInfinite then (if x.negative then Int64.minValue else Int64.maxValue)
  else
    let whole := x.truncate
    if whole < Int64.minValue.toInt then Int64.minValue
    else if Int64.maxValue.toInt < whole then Int64.maxValue
    else Int64.ofInt whole

end Double
end StructuredSql
