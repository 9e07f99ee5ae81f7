-- One item of a column list: a column, perhaps marked as distinct, under an
-- alias and with a declared type.
import StructuredSql.Fault

namespace StructuredSql

/-- The declared type of a result column. -/
inductive ColumnType
  | string
  | bool
  | int
  | number
  | object
  | json
deriving DecidableEq, Repr

def ColumnType.name : ColumnType → String
  | string => "String"
  | bool => "Bool"
  | int => "Int"
  | number => "Number"
  | object => "Object"
  | json => "Json"

def ColumnType.ofTag? (tag : List Char) : Option ColumnType :=
  if tag = "String".toList then some .string
  else if tag = "Bool".toList then some .bool
  else if tag = "Int".toList then some .int
  else if tag = "Number".toList then some .number
  else if tag = "Object".toList then some .object
  else if tag = "JSON".toList then some .json
  else none

structure ColumnItem where
  column : ColumnName
  alias? : Option String
  type? : Option ColumnType
  distinct : Bool
deriving DecidableEq, Repr

namespace ColumnItem

/-- A type in square brackets, blank space before it allowed, if one stands
here. -/
def takeType (s : List Char) : Option ColumnType × List Char :=
  match Text.trimStart s with
  | '[' :: r =>
    match ColumnType.ofTag? (r.takeWhile (· ≠ ']')), r.dropWhile (· ≠ ']') with
    | some type, ']' :: rest => (some type, rest)
    | _, _ => (none, s)
  | _ => (none, s)

/-- A marker of distinctness at the head. -/
def takeDistinct : List Char → Bool × List Char
  | '@' :: s => (true, s)
  | s => (false, s)

/-- `@table.column (alias) [Type]`, where only the column must be there. -/
def parse? (item : String) : Option ColumnItem :=
  let (distinct, s) := takeDistinct item.toList
  match ColumnName.take? (Text.trimStart s) with
  | none => none
  | some (column, s) =>
    let (alias?, s) := takeAlias s
    let (type?, s) := takeType s
    if s.all Unicode.isBlank then some ⟨column, alias?, type?, distinct⟩ else none

/-- `column [Type]`, the key of a computed column. -/
def parseKey? (key : String) : Option ColumnItem :=
  match ColumnName.take? key.toList with
  | none => none
  | some (column, s) =>
    let (type?, s) := takeType s
    if s.all Unicode.isBlank then some ⟨column, none, type?, false⟩ else none

def parse (item : String) : Except Fault ColumnItem :=
  match parse? item with
  | some i => .ok i
  | none => .error (.columnName item)

def parseKey (key : String) : Except Fault ColumnItem :=
  match parseKey? key with
  | some i => .ok i
  | none => .error (.columnName key)

/-- The key under which the engine reports the column: its alias, else its name
without the qualifier. -/
def resultKey (i : ColumnItem) : String := i.alias?.getD i.column.name

/-- The item in a list of columns, without its marker of distinctness. -/
def sql (i : ColumnItem) : Sql :=
  match i.alias? with
  | some a => i.column.sql ++ [.text " AS ", .column a]
  | none => i.column.sql

end ColumnItem
end StructuredSql
