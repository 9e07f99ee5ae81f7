-- Statements for reading by people: names are quoted in the manner of the
-- dialect, and every bound placeholder is replaced by a literal.
import StructuredSql.Statement.Template

namespace StructuredSql.Readable

/-! ## Segments of a statement -/

inductive Segment
  /-- A quoted literal with its quotes; the last one may lack the closing one. -/
  | literal (text : List Char)
  /-- A name in double quotes, without them. -/
  | name (chars : List Char)
  /-- A placeholder's key behind its colon. -/
  | placeholder (key : List Char)
  | other (c : Char)
deriving DecidableEq, Repr

/-- The text that a segment was read from. -/
def Segment.source : Segment → List Char
  | literal text => text
  | name chars => '"' :: (chars ++ ['"'])
  | placeholder key => ':' :: key
  | other c => [c]

def isNameStart (c : Char) : Bool := Unicode.isAlphabetic c || c == '_'

def isNamePart (c : Char) : Bool := Unicode.isAlphanumeric c || Name.isSign c

def isKeyPart (c : Char) : Bool := c.isAlphanum || c == '_'

/-- Where the reader stands. Texts read so far are held in reverse. -/
inductive Mode
  | outside
  | literal (read : List Char)
  /-- Behind a quote inside a literal, which ends the literal unless another
  one follows. -/
  | literalQuote (read : List Char)
  | name (read : List Char)
  | key (read : List Char)

/-- A character outside literals, names and keys. -/
def outside (c : Char) : List Segment × Mode :=
  if c = '\'' then ([], .literal [c])
  else if c = '"' then ([], .name [])
  else if c = ':' then ([], .key [])
  else ([.other c], .outside)

/-- Segments before those that the character gives outside. -/
def before (segments : List Segment) (c : Char) : List Segment × Mode :=
  (segments ++ (outside c).1, (outside c).2)

/-- A double quote that opens no name, and what was read behind it. -/
def released (read : List Char) : List Segment := ('"' :: read.reverse).map .other

/-- A key, or a lone colon. -/
def keySegment (read : List Char) : Segment :=
  if read = [] then .other ':' else .placeholder read.reverse

/-- One character read. -/
def step (mode : Mode) (c : Char) : List Segment × Mode :=
  match mode with
  | .outside => outside c
  | .literal read =>
    if c = '\'' then ([], .literalQuote (c :: read)) else ([], .literal (c :: read))
  | .literalQuote read =>
    if c = '\'' then ([], .literal (c :: read)) else before [.literal read.reverse] c
  | .name read =>
    if c = '"' ∧ read ≠ [] then ([.name read.reverse], .outside)
    else if (if read = [] then isNameStart c else isNamePart c) then ([], .name (c :: read))
    else before (released read) c
  | .key read => if isKeyPart c then ([], .key (c :: read)) else before [keySegment read] c

/-- What is left when the text ends. -/
def atEnd : Mode → List Segment
  | .outside => []
  | .literal read => [.literal read.reverse]
  | .literalQuote read => [.literal read.reverse]
  | .name read => released read
  | .key read => [keySegment read]

def segmentsFrom (mode : Mode) : List Char → List Segment
  | [] => atEnd mode
  | c :: s => (step mode c).1 ++ segmentsFrom (step mode c).2 s

/-- The segments of a statement, left to right. They depend on its text alone. -/
def segments (s : List Char) : List Segment := segmentsFrom .outside s

/-! ## Literals -/

/-- A bound value as a literal, by its declared kind. -/
def literal (d : Dialect) (p : Param) : String :=
  match p.kind with
  | .null => "NULL"
  | .blob => "\x7bLOB_DATA\x7d"
  | .string => d.quoteLiteral p.value.toText
  | .bool => if p.value.isTruthy then "1" else "0"
  | .int => p.value.toText
  | .float => p.value.toText

/-- A name in the dialect's quotes. -/
def quoteName (d : Dialect) (name : List Char) : List Char :=
  match d with
  | .mysql => '\x60' :: (name ++ ['\x60'])
  | .mssql => '[' :: (name ++ [']'])
  | _ => '"' :: (name ++ ['"'])

/-- The readable form of a segment. A placeholder that is not bound stays. -/
def Segment.readable (d : Dialect) (params : Params) : Segment → List Char
  | literal text => text
  | name n => quoteName d n
  | placeholder key =>
    match Entries.get? params (String.ofList (':' :: key)) with
    | some p => (Readable.literal d p).toList
    | none => ':' :: key
  | other c => [c]

end StructuredSql.Readable

namespace StructuredSql

/-- The readable text of a statement. -/
def Dialect.readable (d : Dialect) (compiled : Compiled) : String :=
  String.ofList
    ((Readable.segments compiled.sql.toList).flatMap (Readable.Segment.readable d compiled.params))

def Compiler.readable (c : Compiler) (compiled : Compiled) : String :=
  c.dialect.readable compiled

end StructuredSql
