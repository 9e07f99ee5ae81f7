-- Quoted text in a TOML document: basic and literal strings, on one line or on
-- several.
import StructuredSql.Json.Parser

namespace StructuredSql.Toml

def isSpace (c : Char) : Bool := c == ' ' || c == '\t'

/-- Characters that a comment or a string may hold as they are: the tab, and
what is no control character. -/
def isPlain (c : Char) : Bool := c == '\t' || (32 ≤ c.toNat && c.toNat != 127)

def skipSpace (s : List Char) : List Char := s.dropWhile isSpace

/-- The end of a line, and what follows it. -/
def newline? : List Char → Option (List Char)
  | '\n' :: s => some s
  | '\r' :: '\n' :: s => some s
  | _ => none

/-- A newline that follows an opening delimiter is not part of the text. -/
def skipNewline (s : List Char) : List Char := (newline? s).getD s

/-! ## Basic strings -/

/-- The character of an escape of one letter. -/
def simpleEscape? : Char → Option Char
  | '"' => some '"'
  | '\\' => some '\\'
  | 'b' => some '\x08'
  | 'f' => some '\x0c'
  | 'n' => some '\n'
  | 'r' => some '\r'
  | 't' => some '\t'
  | _ => none

/-- The character that hexadecimal digits write, if it is one. -/
def scalar? (digits : List Char) : Option Char :=
  (digits.mapM Json.hexValue?).bind fun ds =>
    let n := ds.foldl (fun n d => 16 * n + d) 0
    if n.isValidChar then some (Char.ofNat n) else none

/-- What a backslash at the end of a line leaves out. -/
inductive Skip
  /-- Nothing. -/
  | nothing
  /-- Blank space, with the end of the line still owed. -/
  | owed
  /-- Blank space and line ends. -/
  | blanks
deriving DecidableEq

/-- Text in front of what was read behind it. -/
def before (text : List Char) :
    Option (List Char × List Char) → Option (List Char × List Char)
  | some (more, rest) => some (text ++ more, rest)
  | none => none

/-- The rest of a basic string, behind its opening delimiter. On several lines up
to two quotes may stand alone, also right before the closing ones. -/
def basicRest? (multiline : Bool) : Skip → List Char → Option (List Char × List Char)
  | _, [] => none
  | skip, c :: s =>
    if skip ≠ .nothing ∧ isSpace c then basicRest? multiline skip s
    else if skip ≠ .nothing ∧ c = '\n' then basicRest? multiline .blanks s
    else if skip ≠ .nothing ∧ c = '\r' then
      match s with
      | '\n' :: s => basicRest? multiline .blanks s
      | _ => none
    else if skip = .owed then none
    else match c, s with
      | '"', s =>
        if multiline then
          match s with
          | '"' :: '"' :: '"' :: '"' :: r => some (['"', '"'], r)
          | '"' :: '"' :: '"' :: r => some (['"'], r)
          | '"' :: '"' :: r => some ([], r)
          | s => before ['"'] (basicRest? multiline .nothing s)
        else some ([], s)
      | '\\', 'u' :: a :: b :: c :: d :: s =>
        match scalar? [a, b, c, d] with
        | some u => before [u] (basicRest? multiline .nothing s)
        | none => none
      | '\\', 'U' :: a :: b :: c :: d :: e :: f :: g :: h :: s =>
        match scalar? [a, b, c, d, e, f, g, h] with
        | some u => before [u] (basicRest? multiline .nothing s)
        | none => none
      | '\\', '\r' :: '\n' :: s =>
        if multiline then basicRest? multiline .blanks s else none
      | '\\', e :: s =>
        match simpleEscape? e with
        | some u => before [u] (basicRest? multiline .nothing s)
        | none =>
          if multiline ∧ isSpace e then basicRest? multiline .owed s
          else if multiline ∧ e = '\n' then basicRest? multiline .blanks s
          else none
      | '\n', s => if multiline then before ['\n'] (basicRest? multiline .nothing s) else none
      | '\r', '\n' :: s =>
        if multiline then before ['\n'] (basicRest? multiline .nothing s) else none
      | c, s =>
        if c ≠ '\\' ∧ isPlain c then before [c] (basicRest? multiline .nothing s) else none

/-! ## Literal strings -/

/-- The rest of a literal string on one line. -/
def literalRest? (s : List Char) : Option (List Char × List Char) :=
  let isInside := fun c => isPlain c && c != '\''
  match s.dropWhile isInside with
  | '\'' :: rest => some (s.takeWhile isInside, rest)
  | _ => none

/-- The rest of a literal string on several lines. -/
def literalLines? : List Char → Option (List Char × List Char)
  | '\'' :: '\'' :: '\'' :: '\'' :: '\'' :: r => some (['\'', '\''], r)
  | '\'' :: '\'' :: '\'' :: '\'' :: r => some (['\''], r)
  | '\'' :: '\'' :: '\'' :: r => some ([], r)
  | '\n' :: s => before ['\n'] (literalLines? s)
  | '\r' :: '\n' :: s => before ['\n'] (literalLines? s)
  | c :: s => if isPlain c then before [c] (literalLines? s) else none
  | [] => none

/-! ## Any string -/

/-- A string on one line, as a key may be. -/
def lineString? : List Char → Option (List Char × List Char)
  | '"' :: s => basicRest? false .nothing s
  | '\'' :: s => literalRest? s
  | _ => none

/-- A string of any form. -/
def string? : List Char → Option (List Char × List Char)
  | '"' :: '"' :: '"' :: s => basicRest? true .nothing (skipNewline s)
  | '\'' :: '\'' :: '\'' :: s => literalLines? (skipNewline s)
  | s => lineString? s

end StructuredSql.Toml
