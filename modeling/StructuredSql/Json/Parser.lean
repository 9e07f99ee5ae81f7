-- Reading JSON text: one document, with blank space around it and nothing else. A
-- text can be well formed and still hold what has no meaning: half of a surrogate
-- pair, a number beyond every float, or containers nested too deep. A document has
-- none of these; as data they can only be passed over.
import StructuredSql.Json.Basic
import StructuredSql.Datum.Basic
import StructuredSql.Text.Numeral

namespace StructuredSql.Json

/-! ## Blank space and words -/

def isBlank (c : Char) : Bool := c == ' ' || c == '\n' || c == '\t' || c == '\r'

def skipBlank (s : List Char) : List Char := s.dropWhile isBlank

/-- What follows the word, if the text begins with it. -/
def afterWord? : List Char → List Char → Option (List Char)
  | [], s => some s
  | w :: ws, c :: s => if w = c then afterWord? ws s else none
  | _ :: _, [] => none

/-! ## Strings -/

def hexValue? (c : Char) : Option Nat :=
  if '0' ≤ c ∧ c ≤ '9' then some (c.toNat - '0'.toNat)
  else if 'a' ≤ c ∧ c ≤ 'f' then some (c.toNat - 'a'.toNat + 10)
  else if 'A' ≤ c ∧ c ≤ 'F' then some (c.toNat - 'A'.toNat + 10)
  else none

/-- The unit that four hexadecimal digits write. -/
def unit? (a b c d : Char) : Option Nat :=
  match hexValue? a, hexValue? b, hexValue? c, hexValue? d with
  | some a, some b, some c, some d => some (((a * 16 + b) * 16 + c) * 16 + d)
  | _, _, _, _ => none

/-- The character of an escape of one letter. -/
def simpleEscape? : Char → Option Char
  | '"' => some '"'
  | '\\' => some '\\'
  | '/' => some '/'
  | 'b' => some '\x08'
  | 'f' => some '\x0c'
  | 'n' => some '\n'
  | 'r' => some '\r'
  | 't' => some '\t'
  | _ => none

/-- What a string holds: characters, or nothing that has a meaning. -/
abbrev Content := Option (List Char)

/-- A character in front of what was read behind it. -/
def before (c : Char) : Option (Content × List Char) → Option (Content × List Char)
  | some (text, rest) => some (text.map (c :: ·), rest)
  | none => none

/-- The string has no meaning, whatever was read behind. -/
def meaningless : Option (Content × List Char) → Option (Content × List Char)
  | some (_, rest) => some (none, rest)
  | none => none

/-- The first half of a surrogate pair, if there is one, stands alone. -/
def unpaired (half : Option Nat) (read : Option (Content × List Char)) :
    Option (Content × List Char) :=
  if half.isSome then meaningless read else read

/-- The character of a surrogate pair. -/
def paired (high low : Nat) : Char :=
  Char.ofNat (0x10000 + (high - 0xD800) * 0x400 + (low - 0xDC00))

/-- The rest of a string after its opening quote. Escaped units beyond the basic
plane come in pairs, and half of a pair has no meaning. `half` is the first half of
a pair that was read just before. -/
def stringRest? (half : Option Nat) : List Char → Option (Content × List Char)
  | '"' :: s => unpaired half (some (some [], s))
  | '\\' :: 'u' :: a :: b :: c :: d :: s =>
    match unit? a b c d with
    | none => none
    | some u =>
      if 0xDC00 ≤ u ∧ u ≤ 0xDFFF then
        match half with
        | some high => before (paired high u) (stringRest? none s)
        | none => meaningless (stringRest? none s)
      else if 0xD800 ≤ u ∧ u ≤ 0xDBFF then unpaired half (stringRest? (some u) s)
      else unpaired half (before (Char.ofNat u) (stringRest? none s))
  | '\\' :: e :: s =>
    match simpleEscape? e with
    | none => none
    | some c => unpaired half (before c (stringRest? none s))
  | c :: s =>
    if c = '\\' ∨ c.toNat < 32 then none
    else unpaired half (before c (stringRest? none s))
  | [] => none

/-- A string as data. -/
def stringDatum : Content → Datum
  | some text => .string (String.ofList text)
  | none => .extension

/-! ## Numbers -/

/-- A run of digits that does not begin with a zero unless it is one. -/
def wholePart? (s : List Char) : Option (List Char × List Char) :=
  match s.takeWhile Char.isDigit, s.dropWhile Char.isDigit with
  | [], _ => none
  | ds, rest => if ds.head? = some '0' ∧ ds ≠ ['0'] then none else some (ds, rest)

/-- The digits behind a point: none without a point, else at least one. -/
def places? : List Char → Option (Option (List Char) × List Char)
  | '.' :: s =>
    match s.takeWhile Char.isDigit with
    | [] => none
    | ds => some (some ds, s.dropWhile Char.isDigit)
  | s => some (none, s)

/-- The exponent behind an `e`, with at least one digit. -/
def exponent? : List Char → Option (Option Int × List Char)
  | [] => some (none, [])
  | c :: s =>
    if c = 'e' ∨ c = 'E' then
      let (negative, s) := Text.unsign s
      match s.takeWhile Char.isDigit with
      | [] => none
      | ds =>
        let n : Int := Text.ofDigits ds
        some (some (if negative then -n else n), s.dropWhile Char.isDigit)
    else some (none, c :: s)

/-- A float, which must be finite. -/
def finite (x : Double) : Datum := if x.isFinite then .float x else .extension

/-- How a decimal becomes a float: by its sign, the digits before its point and behind it,
and its exponent. -/
abbrev FloatReader := Bool → List Char → List Char → Int → Double

/-- Every decimal becomes the float that is nearest to it. -/
def nearest : FloatReader := fun negative whole places exponent =>
  Double.ofDecimal negative (Text.ofDigits (whole ++ places)) (exponent - places.length)

/-- The number goes on with digits while it stays below `2 ^ 64`. The rest of them is left. -/
def gather (n : Nat) : List Char → Nat × List Char
  | [] => (n, [])
  | d :: ds =>
    if 10 * n + Text.digitValue d < Nat.pow 2 64 then gather (10 * n + Text.digitValue d) ds
    else (n, d :: ds)

def powerOfTen (n : Nat) : Double := Double.ofDecimal false 1 n

/-- A float from a number of 64 bits times a power of ten. Powers beyond `10 ^ 308` are no
floats, so a number that is divided by one of them is divided twice; smaller quotients than
these are zero. -/
def shift (x : Double) (e : Int) : Double :=
  if 308 < e then (if x.isZero then x else Double.infinity false)
  else if 0 ≤ e then x.times (powerOfTen e.toNat)
  else if -308 ≤ e then x.dividedBy (powerOfTen (-e).toNat)
  else if -616 ≤ e then (x.dividedBy (powerOfTen 308)).dividedBy (powerOfTen (-e - 308).toNat)
  else Double.zero false

/-- The first digits become a float, which is then shifted, with a rounding at every step.
Digits before the point that are left over still count as places; those behind it are
ignored. -/
def bestEffort : FloatReader := fun negative whole places exponent =>
  let (n, skipped) := gather 0 whole
  let (n, ignored) := gather n places
  let taken : Int := places.length - ignored.length
  let x := shift (Double.ofInt n) (exponent + skipped.length - taken)
  if negative then x.negate else x

variable (floats : FloatReader)

/-- Digits without point and exponent are a whole number while that fits 64 bits, signed
or not, except that minus zero is a float. -/
def wholeNumber (negative : Bool) (digits : List Char) : Datum :=
  let n := Text.ofDigits digits
  if negative then
    if n = 0 then .float (Double.zero true)
    else if n ≤ Nat.pow 2 63 then .int (-(n : Int))
    else finite (floats true digits [] 0)
  else if n < Nat.pow 2 64 then .int n
  else finite (floats false digits [] 0)

/-- A number whose text begins here, with its sign read already. -/
def number? (negative : Bool) (s : List Char) : Option (Datum × List Char) := do
  let (whole, rest) ← wholePart? s
  let (places, rest) ← places? rest
  let (exponent, rest) ← exponent? rest
  match places, exponent with
  | none, none => return (wholeNumber floats negative whole, rest)
  | places, exponent =>
    return (finite (floats negative whole (places.getD []) (exponent.getD 0)), rest)

/-! ## Values -/

/-- What becomes of containers that are nested too deep. -/
inductive Beyond
  /-- They are refused where they open. -/
  | refused
  /-- They are read, and have no meaning. -/
  | passed
deriving DecidableEq

/-- A container where `depth` of them may be opened. -/
def container (depth : Nat) (d : Datum) : Datum := if depth = 0 then .extension else d

mutual

/-- A value at the head of the text. `depth` more containers may be opened; the
fuel bounds the calls. -/
def value? (beyond : Beyond) : Nat → Nat → List Char → Option (Datum × List Char)
  | 0, _, _ => none
  | fuel + 1, depth, s =>
    match skipBlank s with
    | 'n' :: s => (afterWord? "ull".toList s).map fun r => (.null, r)
    | 't' :: s => (afterWord? "rue".toList s).map fun r => (.bool true, r)
    | 'f' :: s => (afterWord? "alse".toList s).map fun r => (.bool false, r)
    | '"' :: s => (stringRest? none s).map fun (t, r) => (stringDatum t, r)
    | '[' :: s =>
      if depth = 0 ∧ beyond = .refused then none
      else match skipBlank s with
        | ']' :: r => some (container depth (.list []), r)
        | s =>
          (items? beyond fuel (depth - 1) s).map fun (ds, r) => (container depth (.list ds), r)
    | '{' :: s =>
      if depth = 0 ∧ beyond = .refused then none
      else match skipBlank s with
        | '}' :: r => some (container depth (.map []), r)
        | s =>
          (members? beyond fuel (depth - 1) s).map fun (es, r) => (container depth (.map es), r)
    | '-' :: s => number? floats true s
    | s => number? floats false s

/-- One or more values, parted by commas, up to the closing bracket. -/
def items? (beyond : Beyond) : Nat → Nat → List Char → Option (List Datum × List Char)
  | 0, _, _ => none
  | fuel + 1, depth, s =>
    match value? beyond fuel depth s with
    | none => none
    | some (d, s) =>
      match skipBlank s with
      | ',' :: s => (items? beyond fuel depth s).map fun (ds, r) => (d :: ds, r)
      | ']' :: r => some ([d], r)
      | _ => none

/-- One or more members, parted by commas, up to the closing brace. -/
def members? (beyond : Beyond) :
    Nat → Nat → List Char → Option (List (Datum × Datum) × List Char)
  | 0, _, _ => none
  | fuel + 1, depth, s =>
    match skipBlank s with
    | '"' :: s =>
      match stringRest? none s with
      | none => none
      | some (key, s) =>
        match skipBlank s with
        | ':' :: s =>
          match value? beyond fuel depth s with
          | none => none
          | some (d, s) =>
            let member := (stringDatum key, d)
            match skipBlank s with
            | ',' :: s => (members? beyond fuel depth s).map fun (es, r) => (member :: es, r)
            | '}' :: r => some ([member], r)
            | _ => none
        | _ => none
    | _ => none

end

/-- The data that the text holds. Each call reads a character or hands over to the
other kind of call, so twice the length is fuel enough. -/
def datumBy? (beyond : Beyond) (depth : Nat) (text : String) : Option Datum :=
  let s := text.toList
  match value? floats beyond (2 * s.length + 2) depth s with
  | some (d, rest) => if (skipBlank rest).isEmpty then some d else none
  | none => none

/-! ## Documents -/

mutual

/-- The document that data makes up, if all of it has a meaning in JSON. -/
def ofDatum? : Datum → Option Json
  | .null => some .null
  | .bool b => some (.bool b)
  | .int i => some (.int i)
  | .float x => some (.float x)
  | .string s => some (.string s)
  | .list items => (itemsOfData? items).map .array
  | .map entries => (membersOfData? entries).map .object
  | _ => none
termination_by structural d => d

def itemsOfData? : List Datum → Option (List Json)
  | [] => some []
  | d :: rest =>
    match ofDatum? d, itemsOfData? rest with
    | some j, some js => some (j :: js)
    | _, _ => none
termination_by structural items => items

def membersOfData? : List (Datum × Datum) → Option (List (String × Json))
  | [] => some []
  | (.string k, d) :: rest =>
    match ofDatum? d, membersOfData? rest with
    | some j, some ms => some ((k, j) :: ms)
    | _, _ => none
  | _ :: _ => none
termination_by structural entries => entries

end

/-- Containers nest at most this deep in text that is read. -/
def maxDepth : Nat := 127

/-- The document that the text holds, if its containers nest at most `depth`
deep. -/
def parseBy? (depth : Nat) (text : String) : Option Json :=
  (datumBy? floats .refused depth text).bind ofDatum?

def parseWithin? (depth : Nat) (text : String) : Option Json := parseBy? bestEffort depth text

def parse? (text : String) : Option Json := parseWithin? maxDepth text

/-- The data that the text holds, for types to be read from. -/
def datum? (text : String) : Option Datum := datumBy? bestEffort .passed maxDepth text

end StructuredSql.Json
