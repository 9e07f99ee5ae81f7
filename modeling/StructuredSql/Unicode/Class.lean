-- The character classes of names, of marked text and of blank space. Each class
-- is decided on ASCII by its own small test and beyond ASCII by a table of ranges.
-- Letters and numbers, which names are made of, follow version 16 of the standard;
-- the classes of marked and of shown text follow version 17.
import StructuredSql.Unicode.Letter
import StructuredSql.Unicode.Number
import StructuredSql.Unicode.Alphabetic
import StructuredSql.Unicode.Hidden

namespace StructuredSql.Unicode

/-- The code point lies in one of the closed ranges. -/
def within (ranges : List (Nat × Nat)) (n : Nat) : Bool :=
  ranges.any fun r => r.1 ≤ n && n ≤ r.2

/-- A letter of any script. -/
def isLetter (c : Char) : Bool :=
  if c.toNat < 128 then c.isAlpha else within letterRanges c.toNat

/-- A digit, letter number or other number of any script. -/
def isNumber (c : Char) : Bool :=
  if c.toNat < 128 then c.isDigit else within numberRanges c.toNat

/-- A character that spells words: a letter, a letter number or a mark. -/
def isAlphabetic (c : Char) : Bool :=
  if c.toNat < 128 then c.isAlpha else within alphabeticRanges c.toNat

/-- A character that spells words or numbers. -/
def isAlphanumeric (c : Char) : Bool :=
  isAlphabetic c || isNumber c || within newerDigitRanges c.toNat

/-- White space beyond ASCII. -/
def blankRanges : List (Nat × Nat) :=
  [(0x85, 0x85), (0xa0, 0xa0), (0x1680, 0x1680), (0x2000, 0x200a), (0x2028, 0x2029),
    (0x202f, 0x202f), (0x205f, 0x205f), (0x3000, 0x3000)]

/-- White space: tab to carriage return, the space, and the spaces of other
scripts. -/
def isBlank (c : Char) : Bool :=
  if c.toNat < 128 then c.toNat == 32 || (9 ≤ c.toNat && c.toNat ≤ 13)
  else within blankRanges c.toNat

/-- A character that would not be seen, or would change how its neighbour is
seen. -/
def isHidden (c : Char) : Bool :=
  if c.toNat < 128 then c.toNat < 32 || c.toNat == 127 else within hiddenRanges c.toNat

end StructuredSql.Unicode
