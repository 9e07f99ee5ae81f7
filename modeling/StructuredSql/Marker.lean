-- Names marked in the SQL of a fragment. A name between angle brackets becomes
-- a quoted name: a table when it follows a keyword that takes a table, else a
-- column. Nothing inside quotes or backticks is a marker.
import StructuredSql.Build

namespace StructuredSql.Marker

/-! ## Segments of a fragment -/

inductive Segment
  /-- A quoted literal with its quotes; the last one may lack the closing one. -/
  | literal (text : List Char)
  /-- The name of a marker, without its angle brackets. -/
  | marker (name : List Char)
  | other (c : Char)
deriving DecidableEq, Repr

/-- The text that a segment was read from. -/
def Segment.source : Segment → List Char
  | literal text => text
  | marker name => '<' :: (name ++ ['>'])
  | other c => [c]

def isMarkerStart (c : Char) : Bool := Unicode.isAlphabetic c || c == '_'

def isMarkerPart (c : Char) : Bool := Unicode.isAlphanumeric c || Name.isSign c || c == '.'

/-- Where the reader stands. Texts read so far are held in reverse. -/
inductive Mode
  | outside
  | literal (quote : Char) (read : List Char)
  /-- Behind an opening angle bracket, with the name so far. -/
  | marker (read : List Char)

/-- A character outside literals and markers. -/
def outside (c : Char) : List Segment × Mode :=
  if c = '\'' ∨ c = '\x60' then ([], .literal c [c])
  else if c = '<' then ([], .marker [])
  else ([.other c], .outside)

/-- A bracket that opens no marker, and the name behind it. -/
def released (read : List Char) : List Segment := ('<' :: read.reverse).map .other

/-- One character read. -/
def step (mode : Mode) (c : Char) : List Segment × Mode :=
  match mode with
  | .outside => outside c
  | .literal quote read =>
    if c = quote then ([.literal (c :: read).reverse], .outside)
    else ([], .literal quote (c :: read))
  | .marker read =>
    if read = [] then
      if isMarkerStart c then ([], .marker [c])
      else
        let (segments, mode) := outside c
        (released read ++ segments, mode)
    else if isMarkerPart c then ([], .marker (c :: read))
    else if c = '>' then ([.marker read.reverse], .outside)
    else
      let (segments, mode) := outside c
      (released read ++ segments, mode)

/-- What is left when the text ends. -/
def atEnd : Mode → List Segment
  | .outside => []
  | .literal _ read => [.literal read.reverse]
  | .marker read => released read

def segmentsFrom (mode : Mode) : List Char → List Segment
  | [] => atEnd mode
  | c :: s => (step mode c).1 ++ segmentsFrom (step mode c).2 s

/-- The segments of a fragment, left to right. -/
def segments (s : List Char) : List Segment := segmentsFrom .outside s

/-! ## Resolving the markers -/

/-- The keywords behind which a table stands. -/
def tableKeywords : List String :=
  ["FROM", "TABLE", "INTO", "UPDATE", "JOIN", "TABLE IF EXISTS"]

def isWordPart (c : Char) : Bool := Unicode.isLetter c || Unicode.isNumber c || c == '_'

/-- The word stands at the head of the text and ends there. -/
def isWordHead : List Char → List Char → Bool
  | [], [] => true
  | [], c :: _ => !isWordPart c
  | w :: ws, c :: s => w == c && isWordHead ws s
  | _ :: _, [] => false

/-- The text, given in reverse, ends in a keyword that takes a table, blank
space behind it aside. -/
def followsTableKeyword (written : List Char) : Bool :=
  let words := written.dropWhile Unicode.isBlank
  tableKeywords.any fun k => isWordHead k.toList.reverse words

/-- Text that is held in reverse, as a piece. -/
def textPiece (written : List Char) : Sql :=
  if written.isEmpty then [] else [.text (String.ofList written.reverse)]

/-- The pieces of the segments. `written` holds, in reverse, what was written
since the last quoted name. Between a keyword and its table stands one space. -/
def resolve (written : List Char) : List Segment → Except Fault Sql
  | [] => .ok (textPiece written)
  | .other c :: rest => resolve (c :: written) rest
  | .literal text :: rest => resolve (text.reverse ++ written) rest
  | .marker name :: rest =>
    if followsTableKeyword written && !name.contains '.' then
      if Name.isName name then do
        let tail ← resolve [] rest
        return textPiece (' ' :: written.dropWhile Unicode.isBlank)
          ++ .table (String.ofList name) :: tail
      else .error (.marker (String.ofList name))
    else
      match ColumnName.ofText? (String.ofList name) with
      | some column => do
        let tail ← resolve [] rest
        return textPiece written ++ column.sql ++ tail
      | none => .error (.marker (String.ofList name))

/-- A fragment's SQL with its markers quoted. -/
def expand (sql : String) : Except Fault Sql := resolve [] (segments sql.toList)

end StructuredSql.Marker

namespace StructuredSql.Build

/-- A fragment with its markers quoted and its bindings merged. -/
def fragment (raw : Raw) : Build Sql := do
  let sql ← Marker.expand raw.sql
  merge raw.params
  return sql

end StructuredSql.Build
