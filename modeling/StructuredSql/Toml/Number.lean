-- Numbers, dates and times in a TOML document.
import StructuredSql.Datum.Basic
import StructuredSql.Json.Parser

namespace StructuredSql.Toml

/-! ## Digits -/

/-- Digits with single underscores between them, after a digit. -/
def moreDigits (isDigit : Char → Bool) : List Char → List Char × List Char
  | '_' :: c :: s =>
    if isDigit c then
      let (ds, rest) := moreDigits isDigit s
      (c :: ds, rest)
    else ([], '_' :: c :: s)
  | c :: s =>
    if isDigit c then
      let (ds, rest) := moreDigits isDigit s
      (c :: ds, rest)
    else ([], c :: s)
  | [] => ([], [])

/-- One or more digits. -/
def digits? (isDigit : Char → Bool) : List Char → Option (List Char × List Char)
  | c :: s =>
    if isDigit c then
      let (ds, rest) := moreDigits isDigit s
      some (c :: ds, rest)
    else none
  | [] => none

/-- One or more decimal digits without a needless zero in front. -/
def wholeDigits? (s : List Char) : Option (List Char × List Char) :=
  match s with
  | '0' :: rest => some (['0'], rest)
  | s => digits? Char.isDigit s

/-! ## Numbers -/

def isHexDigit (c : Char) : Bool := (Json.hexValue? c).isSome

def isOctalDigit (c : Char) : Bool := '0' ≤ c && c ≤ '7'

def isBinaryDigit (c : Char) : Bool := c == '0' || c == '1'

/-- A whole number of 64 bits. -/
def int? (i : Int) : Option Datum := if Text.fitsInt64 i then some (.int i) else none

/-- A whole number in another base. -/
def based? (base : Nat) (isDigit : Char → Bool) (s : List Char) :
    Option (Datum × List Char) :=
  (digits? isDigit s).bind fun (ds, rest) =>
    (int? (ds.foldl (fun n c => base * n + (Json.hexValue? c).getD 0) 0 : Nat)).map
      fun d => (d, rest)

/-- The digits behind a point, if there is one. -/
def places? : List Char → Option (Option (List Char) × List Char)
  | '.' :: s => (digits? Char.isDigit s).map fun (ds, rest) => (some ds, rest)
  | s => some (none, s)

/-- The exponent, if there is one. -/
def exponent? : List Char → Option (Option Int × List Char)
  | [] => some (none, [])
  | c :: s =>
    if c = 'e' ∨ c = 'E' then
      let (negative, s) := Text.unsign s
      (digits? Char.isDigit s).map fun (ds, rest) =>
        let n : Int := Text.ofDigits ds
        (some (if negative then -n else n), rest)
    else some (none, c :: s)

/-- A float that is not beyond every number on the positive side. -/
def float? (x : Double) : Option Datum :=
  if x.bits = (Double.infinity false).bits then none else some (.float x)

/-- A decimal number behind its sign. -/
def decimal? (negative : Bool) (s : List Char) : Option (Datum × List Char) :=
  match s with
  | 'i' :: 'n' :: 'f' :: rest => some (.float (Double.infinity negative), rest)
  | 'n' :: 'a' :: 'n' :: rest => some (.float Double.nan, rest)
  | s => do
    let (whole, rest) ← wholeDigits? s
    let (behind, rest) ← places? rest
    let (exponent, rest) ← exponent? rest
    match behind, exponent with
    | none, none =>
      let n : Int := Text.ofDigits whole
      return (← int? (if negative then -n else n), rest)
    | behind, exponent =>
      let ds := behind.getD []
      let x := Double.ofDecimal negative (Text.ofDigits (whole ++ ds))
        (exponent.getD 0 - ds.length)
      return (← float? x, rest)

/-- A number of any form. -/
def number? : List Char → Option (Datum × List Char)
  | '0' :: 'x' :: s => based? 16 isHexDigit s
  | '0' :: 'o' :: s => based? 8 isOctalDigit s
  | '0' :: 'b' :: s => based? 2 isBinaryDigit s
  | '-' :: s => decimal? true s
  | '+' :: s => decimal? false s
  | s => decimal? false s

/-! ## Dates and times -/

/-- A number of exactly `n` decimal digits. -/
def fixed? (n : Nat) (s : List Char) : Option (Nat × List Char) :=
  let ds := s.take n
  if ds.length = n ∧ ds.all Char.isDigit then some (Text.ofDigits ds, s.drop n) else none

def after? (c : Char) : List Char → Option (List Char)
  | d :: s => if d = c then some s else none
  | [] => none

/-- A number of two digits within bounds. -/
def within? (low high : Nat) (s : List Char) : Option (Nat × List Char) :=
  match fixed? 2 s with
  | some (n, rest) => if low ≤ n ∧ n ≤ high then some (n, rest) else none
  | none => none

def isLeap (year : Nat) : Bool := year % 4 == 0 && (year % 100 != 0 || year % 400 == 0)

def daysIn (year month : Nat) : Nat :=
  if month = 2 then (if isLeap year then 29 else 28)
  else if month = 4 ∨ month = 6 ∨ month = 9 ∨ month = 11 then 30
  else 31

/-- What follows a date. -/
def date? (s : List Char) : Option (List Char) := do
  let (year, s) ← fixed? 4 s
  let (month, s) ← within? 1 12 (← after? '-' s)
  let (_, s) ← within? 1 (daysIn year month) (← after? '-' s)
  return s

/-- What follows the fraction of a second, if there is one. -/
def fraction? (s : List Char) : Option (List Char) :=
  match s with
  | '.' :: s => if (s.takeWhile Char.isDigit).isEmpty then none else some (s.dropWhile Char.isDigit)
  | s => some s

/-- What follows a time of day. -/
def time? (s : List Char) : Option (List Char) := do
  let (_, s) ← within? 0 23 s
  let (_, s) ← within? 0 59 (← after? ':' s)
  let (_, s) ← within? 0 60 (← after? ':' s)
  fraction? s

/-- What follows an offset from universal time. -/
def offset? (s : List Char) : Option (List Char) :=
  match s with
  | 'Z' :: s => some s
  | 'z' :: s => some s
  | c :: s =>
    if c = '+' ∨ c = '-' then do
      let (_, s) ← within? 0 23 s
      let (_, s) ← within? 0 59 (← after? ':' s)
      return s
    else none
  | [] => none

/-- What follows a time behind a date, if there is one. -/
def timeBehindDate (s : List Char) : List Char :=
  match s with
  | c :: more =>
    if c = 'T' ∨ c = 't' ∨ c = ' ' then
      match time? more with
      | some rest => (offset? rest).getD rest
      | none => s
    else s
  | [] => s

/-- A date, a time, or both; which of them is not kept. -/
def moment? (s : List Char) : Option (Datum × List Char) :=
  match date? s with
  | some rest => some (.extension, timeBehindDate rest)
  | none => (time? s).map fun rest => (.extension, rest)

end StructuredSql.Toml
