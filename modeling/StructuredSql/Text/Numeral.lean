-- Numerals in text: whole numbers with an optional sign, decimals with an
-- optional exponent, and the blank space around them.
import StructuredSql.Unicode.Class
import StructuredSql.Double.Decimal

namespace StructuredSql.Text

/-! ## Blank space -/

def trimStart (s : List Char) : List Char := s.dropWhile Unicode.isBlank

def trimEnd (s : List Char) : List Char := (s.reverse.dropWhile Unicode.isBlank).reverse

def trim (s : List Char) : List Char := trimEnd (trimStart s)

/-! ## Whole numbers -/

def digitValue (c : Char) : Nat := c.toNat - '0'.toNat

/-- The number that a run of ASCII digits writes. -/
def ofDigits (ds : List Char) : Nat := ds.foldl (fun n c => 10 * n + digitValue c) 0

/-- The number that a text of one or more ASCII digits writes. -/
def readDigits? (s : List Char) : Option Nat :=
  if s ≠ [] ∧ s.all Char.isDigit then some (ofDigits s) else none

/-- A number without sign; a leading `+` is accepted. -/
def readNat? : List Char → Option Nat
  | '+' :: s => readDigits? s
  | s => readDigits? s

/-- A whole number with an optional sign. -/
def readInt? : List Char → Option Int
  | '-' :: s => (readDigits? s).map fun n => -(n : Int)
  | '+' :: s => (readDigits? s).map Int.ofNat
  | s => (readDigits? s).map Int.ofNat

def fitsInt64 (i : Int) : Bool :=
  Int64.minValue.toInt ≤ i && i ≤ Int64.maxValue.toInt

/-- A whole number of 64 bits; one out of range is no numeral. -/
def readInt64? (s : List Char) : Option Int64 :=
  (readInt? s).bind fun i => if fitsInt64 i then some (Int64.ofInt i) else none

/-- A count of at most 64 bits. -/
def readCount? (s : List Char) : Option Nat :=
  (readNat? s).bind fun n => if n < Nat.pow 2 64 then some n else none

/-! ## Decimals -/

def unsign : List Char → Bool × List Char
  | '-' :: s => (true, s)
  | '+' :: s => (false, s)
  | s => (false, s)

/-- The exponent after the digits: none at all, or `e` and a whole number. -/
def readExponent? : List Char → Option Int
  | [] => some 0
  | c :: s => if c == 'e' || c == 'E' then readInt? s else none

/-- Digits with an optional point among them, at least one digit in all, and an
optional exponent. -/
def readDecimal? (negative : Bool) (s : List Char) : Option Double :=
  let whole := s.takeWhile Char.isDigit
  let rest := s.dropWhile Char.isDigit
  let (places, rest) := match rest with
    | '.' :: r => (r.takeWhile Char.isDigit, r.dropWhile Char.isDigit)
    | r => ([], r)
  if whole = [] ∧ places = [] then none
  else (readExponent? rest).map fun e =>
    Double.ofDecimal negative (ofDigits (whole ++ places)) (e - places.length)

/-- A floating-point numeral: a decimal, or in any case of letters `inf`,
`infinity` or `nan`, with an optional sign. -/
def readDouble? (s : List Char) : Option Double :=
  let (negative, body) := unsign s
  let word := body.map Char.toLower
  if word = "inf".toList ∨ word = "infinity".toList then some (Double.infinity negative)
  else if word = "nan".toList then
    some (Double.ofMagnitude negative (Double.infiniteMagnitude + Nat.pow 2 51))
  else readDecimal? negative body

end StructuredSql.Text
