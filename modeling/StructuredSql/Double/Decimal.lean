-- Decimal text of floating-point numbers: the fewest digits that read back to
-- the value, the layouts in which those digits are written, and the reading of
-- a decimal numeral.
import StructuredSql.Double.Basic

namespace StructuredSql.Double

/-! ## The fewest digits -/

/-- Which of two equally near decimals is taken. -/
inductive Tie
  | up
  | even
deriving DecidableEq

/-- The reals that round to a value, in quarters of its last place: the value
stands at `middle`, and the ends belong to the interval when `closed` holds. -/
structure Interval where
  low : Nat
  middle : Nat
  high : Nat
  closed : Bool

/-- The step below a power of two is half the step above it. -/
def interval (x : Double) : Interval :=
  let m := x.significand
  let atPower := x.fraction = 0 ∧ 1 < x.exponentField
  { low := if atPower then 4 * m - 1 else 4 * m - 2
    middle := 4 * m
    high := 4 * m + 2
    closed := m % 2 == 0 }

/-- A quarter of the last place of scale `e`, in units of `10 ^ j`, as a
quotient of whole numbers. -/
def gridUnit (e j : Int) : Nat × Nat :=
  (Nat.pow 2 (e - 2).toNat * Nat.pow 10 (-j).toNat, Nat.pow 10 j.toNat * Nat.pow 2 (2 - e).toNat)

/-- The multiple `p` of `10 ^ j` that reads back to the value, if one of the
value's two neighbours on that grid does: the nearer one, or by `tie`. -/
def onGrid? (tie : Tie) (x : Double) (j : Int) : Option Nat :=
  let i := x.interval
  let (a, b) := gridUnit x.scale j
  let reads := fun p =>
    if i.closed then i.low * a ≤ p * b && p * b ≤ i.high * a
    else i.low * a < p * b && p * b < i.high * a
  let p := i.middle * a / b
  let below := i.middle * a - p * b
  let above := (p + 1) * b - i.middle * a
  match reads p, reads (p + 1) with
  | true, true =>
    if below < above then some p
    else if above < below then some (p + 1)
    else match tie with
      | .up => some (p + 1)
      | .even => some (p + p % 2)
  | true, false => some p
  | false, true => some (p + 1)
  | false, false => none

/-- The first of the grids `10 ^ j`, `10 ^ (j - 1)`, … that has a point reading
back to the value. -/
def firstGrid (tie : Tie) (x : Double) : Nat → Int → Nat × Int
  | 0, j => (0, j)
  | fuel + 1, j =>
    match onGrid? tie x j with
    | some p => (p, j)
    | none => firstGrid tie x fuel (j - 1)

/-- The digits and the exponent of ten of the shortest decimal that reads back
to a finite value other than zero. The search starts above the value, and
seventeen digits always suffice. -/
def shortest (tie : Tie) (x : Double) : Nat × Int :=
  let top := ((x.significand.log2 : Int) + 1 + x.scale) * 30103 / 100000 + 2
  firstGrid tie x 24 top

/-! ## Layouts -/

def zeros (n : Nat) : List Char := List.replicate n '0'

/-- The digits with the point after the first `point` places, which may lie
before or after them. No point is written without digits behind it. -/
def positional (digits : List Char) (point : Int) : List Char :=
  if point ≤ 0 then '0' :: '.' :: (zeros (-point).toNat ++ digits)
  else
    let n := point.toNat
    if digits.length ≤ n then digits ++ zeros (n - digits.length)
    else digits.take n ++ '.' :: digits.drop n

def signed (x : Double) (text : List Char) : List Char :=
  if x.negative then '-' :: text else text

/-- Plain text: positional at every size, whole numbers without a point. -/
def toText (x : Double) : String :=
  String.ofList <|
    if x.isNaN then "NaN".toList
    else if x.isInfinite then signed x "inf".toList
    else if x.isZero then signed x "0".toList
    else
      let (p, j) := shortest .up x
      let digits := (Nat.repr p).toList
      signed x (positional digits (digits.length + j))

/-- Text of a JSON number: positional from 0.00001 up to below 10^16, with a
`.0` on whole numbers, and else with an exponent that carries its sign. Values
that are not finite have no such text. -/
def toJsonText (x : Double) : String :=
  String.ofList <|
    if x.isZero then signed x "0.0".toList
    else
      let (p, j) := shortest .even x
      let digits := (Nat.repr p).toList
      let point := digits.length + j
      let body :=
        if -5 < point && point ≤ 16 then
          if digits.length ≤ point then positional digits point ++ ['.', '0']
          else positional digits point
        else
          let exponent := point - 1
          let tail := (if exponent < 0 then '-' else '+') :: (Nat.repr exponent.natAbs).toList
          match digits with
          | [d] => d :: 'e' :: tail
          | d :: ds => d :: '.' :: (ds ++ 'e' :: tail)
          | [] => []
      signed x body

end StructuredSql.Double
