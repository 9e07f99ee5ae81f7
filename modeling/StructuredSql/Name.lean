-- The names of tables and columns: a letter or underscore, then letters,
-- numbers and a few signs. A column may be qualified by its table, and a table
-- may carry an alias in parentheses.
import StructuredSql.Sql
import StructuredSql.Text.Numeral

namespace StructuredSql

namespace Name

def isStart (c : Char) : Bool := Unicode.isLetter c || c == '_'

/-- The signs that a name may hold behind its first character. -/
def isSign (c : Char) : Bool := c == '@' || c == '$' || c == '#' || c == '-' || c == '_'

def isPart (c : Char) : Bool := Unicode.isLetter c || Unicode.isNumber c || isSign c

/-- The whole text is one name. -/
def isName : List Char → Bool
  | [] => false
  | c :: s => isStart c && s.all isPart

/-- The longest name at the head of the text, and what follows it. -/
def take? : List Char → Option (List Char × List Char)
  | [] => none
  | c :: s => if isStart c then some (c :: s.takeWhile isPart, s.dropWhile isPart) else none

end Name

/-! ## Columns -/

/-- A column, perhaps qualified by its table. -/
structure ColumnName where
  qualifier : Option String
  name : String
deriving DecidableEq, Repr

namespace ColumnName

/-- The longest column name at the head of the text, and what follows it. -/
def take? (s : List Char) : Option (ColumnName × List Char) :=
  match Name.take? s with
  | none => none
  | some (first, '.' :: rest) =>
    match Name.take? rest with
    | some (second, rest) => some (⟨some (String.ofList first), String.ofList second⟩, rest)
    | none => some (⟨none, String.ofList first⟩, '.' :: rest)
  | some (first, rest) => some (⟨none, String.ofList first⟩, rest)

/-- The column that the whole text names. -/
def ofText? (s : String) : Option ColumnName :=
  match take? s.toList with
  | some (column, []) => some column
  | _ => none

/-- The name as it was written. -/
def text (c : ColumnName) : String :=
  match c.qualifier with
  | some table => table ++ "." ++ c.name
  | none => c.name

/-- The quoted column; a qualifier is a table reference. -/
def sql (c : ColumnName) : Sql :=
  match c.qualifier with
  | some table => [.table table, .text ".", .column c.name]
  | none => [.column c.name]

end ColumnName

/-- What stands behind the last point of a text, or the whole text. -/
def afterLastPoint (s : String) : String :=
  String.ofList (s.toList.reverse.takeWhile (· ≠ '.')).reverse

/-! ## Tables -/

/-- A name in parentheses, blank space before it allowed, if one stands here. -/
def takeAlias (s : List Char) : Option String × List Char :=
  match Text.trimStart s with
  | '(' :: r =>
    match Name.take? r with
    | some (name, ')' :: rest) => (some (String.ofList name), rest)
    | _ => (none, s)
  | _ => (none, s)

/-- A table, perhaps under an alias. -/
structure TableRef where
  name : String
  alias? : Option String
deriving DecidableEq, Repr

namespace TableRef

/-- `table` or `table (alias)`, with blank space around the parts. -/
def ofText? (s : String) : Option TableRef :=
  match Name.take? (Text.trimStart s.toList) with
  | none => none
  | some (name, rest) =>
    let (alias?, rest) := takeAlias rest
    if rest.all Unicode.isBlank then some ⟨String.ofList name, alias?⟩ else none

/-- The name that columns are qualified with. -/
def exposed (t : TableRef) : String := t.alias?.getD t.name

def sql (t : TableRef) : Sql :=
  match t.alias? with
  | some a => [.table t.name, .text " AS ", .table a]
  | none => [.table t.name]

end TableRef
end StructuredSql
