-- Writing a TOML document: an entry a line, longer lists over several lines, and
-- tables behind the other entries.
import StructuredSql.Datum.Reading
import StructuredSql.Json.Printer

namespace StructuredSql.Toml

/-! ## Strings -/

/-- The hexadecimal digits of a control character, in upper case. -/
def upperDigit (n : Nat) : Char := "0123456789ABCDEF".toList.getD (n % 16) '0'

/-- The control characters, which a string never holds as they are. -/
def isControl (c : Char) : Bool := c.toNat < 32 || c.toNat == 127

/-- How a character other than a quote stands in a basic string. -/
def escape (multiline : Bool) (c : Char) : List Char :=
  if c = '\x08' then ['\\', 'b']
  else if c = '\t' then ['\\', 't']
  else if c = '\n' then (if multiline then ['\n'] else ['\\', 'n'])
  else if c = '\x0c' then ['\\', 'f']
  else if c = '\r' then ['\\', 'r']
  else if c = '\\' then ['\\', '\\']
  else if isControl c then ['\\', 'u', '0', '0', upperDigit (c.toNat / 16), upperDigit c.toNat]
  else [c]

/-- The text of a basic string. On several lines two quotes in a row stand as they
are and a third one is escaped; on one line every quote is. `run` is how many stand
in a row so far. -/
def basicChars (multiline : Bool) : Nat → List Char → List Char
  | _, [] => []
  | run, c :: s =>
    if c = '"' then
      if multiline ∧ run < 2 then '"' :: basicChars multiline (run + 1) s
      else '\\' :: '"' :: basicChars multiline 0 s
    else escape multiline c ++ basicChars multiline 0 s

/-- The longest run of a quote. -/
def longestRun (quote : Char) : List Char → Nat → Nat
  | [], run => run
  | c :: s, run =>
    if c = quote then longestRun quote s (run + 1) else max run (longestRun quote s 0)

/-- Some character can only be written by an escape. -/
def needsEscape (s : List Char) : Bool := s.any fun c => c != '\t' && c != '\n' && isControl c

/-- How a string is written. -/
inductive Style
  | basic
  | literal
  | basicLines
  | literalLines
deriving DecidableEq, Repr

/-- The first style in which nothing has to be escaped but tabs: a basic string, a
literal one, and both again on several lines. When there is none, a basic string, on
several lines if the text has more than one. -/
def Style.of (s : List Char) : Style :=
  let escaped := needsEscape s
  let slash := s.contains '\\'
  let lines := s.contains '\n'
  let doubles := longestRun '"' s 0
  let singles := longestRun '\'' s 0
  if !escaped && !slash && doubles == 0 && !lines then basic
  else if !escaped && singles == 0 && !lines then literal
  else if !escaped && !slash && doubles ≤ 2 then basicLines
  else if !escaped && singles ≤ 2 then literalLines
  else if lines then basicLines
  else basic

/-- A string. A text with line ends begins on a line of its own. -/
def quoted (text : String) : String :=
  let s := text.toList
  let first := if s.contains '\n' then "\n" else ""
  match Style.of s with
  | .basic => "\"" ++ String.ofList (basicChars false 0 s) ++ "\""
  | .literal => "'" ++ text ++ "'"
  | .basicLines => "\"\"\"" ++ first ++ String.ofList (basicChars true 0 s) ++ "\"\"\""
  | .literalLines => "'''" ++ first ++ text ++ "'''"

/-! ## Entries -/

/-- A value on one line. Whole numbers beyond 64 signed bits have no form. -/
def scalarText? : Datum → Option String
  | .bool b => some (if b then "true" else "false")
  | .int i => if Text.fitsInt64 i then some (toString i) else none
  | .string s => some (quoted s)
  | _ => none

/-- A list: each item on a line of its own when there are several. -/
def listText (items : List String) : String :=
  match items with
  | [] => "[]"
  | [s] => "[" ++ s ++ "]"
  | items => "[\n" ++ String.join (items.map fun s => "    " ++ s ++ ",\n") ++ "]"

def valueText? : Datum → Option String
  | .list items => (items.mapM scalarText?).map listText
  | d => scalarText? d

/-- The line of an entry. -/
def entryLine? : Datum × Datum → Option String
  | (.string k, d) => (valueText? d).map fun v => k ++ " = " ++ v ++ "\n"
  | _ => none

def isTable : Datum × Datum → Bool
  | (_, .map _) => true
  | _ => false

/-- An entry that is a table, behind a header of its own. -/
def section? : Datum × Datum → Option String
  | (.string k, .map entries) =>
    (entries.mapM entryLine?).map fun ls => "\n[" ++ k ++ "]\n" ++ String.join ls
  | _ => none

/-- A document of entries, tables last. -/
def print? : Datum → Option String
  | .map entries => do
    let ls ← (entries.filter fun e => !isTable e).mapM entryLine?
    let ts ← (entries.filter isTable).mapM section?
    return String.join ls ++ String.join ts
  | _ => none

end StructuredSql.Toml
