-- SQL text under construction. A statement is a list of pieces that does not
-- know the table prefix. Rendering writes the prefix in front of table names
-- and nowhere else.

namespace StructuredSql

inductive Piece
  /-- Text that stands as it is. -/
  | text (s : String)
  /-- A quoted table name or alias, which takes the prefix. -/
  | table (name : String)
  /-- A quoted column name. -/
  | column (name : String)
  /-- A placeholder, by its number. -/
  | placeholder (n : Nat)
deriving DecidableEq, Repr

abbrev Sql := List Piece

/-- The key that a placeholder is bound under. -/
def placeholderKey (n : Nat) : String := ":p" ++ Nat.repr n

def Piece.render (tablePrefix : String) : Piece → String
  | text s => s
  | table name => "\"" ++ tablePrefix ++ name ++ "\""
  | column name => "\"" ++ name ++ "\""
  | placeholder n => placeholderKey n

namespace Sql

/-- The text of a statement under a table prefix. -/
def render (tablePrefix : String) (sql : Sql) : String :=
  String.join (sql.map (Piece.render tablePrefix))

/-- A statement of fixed text. -/
def text (s : String) : Sql := [.text s]

/-- The parts one after the other, with the text between them. -/
def joinWith (separator : String) : List Sql → Sql
  | [] => []
  | [sql] => sql
  | sql :: rest => sql ++ .text separator :: joinWith separator rest

def parens (sql : Sql) : Sql := .text "(" :: sql ++ [.text ")"]

end Sql
end StructuredSql
