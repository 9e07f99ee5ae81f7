-- Quoted names as text, under a dialect and a table prefix, and the names that
-- quoted texts stand for.
import StructuredSql.Fault
import StructuredSql.Dialect

namespace StructuredSql

/-- What statements are written for: a dialect, and a prefix for every table. -/
structure Compiler where
  dialect : Dialect
  tablePrefix : String
deriving DecidableEq, Repr

namespace Compiler

/-- A result under the compiler's prefix: pieces become text, and faults become
errors. -/
def finish (c : Compiler) (result : Except Fault Sql) : Except Error String :=
  match result with
  | .ok sql => .ok (sql.render c.tablePrefix)
  | .error fault => .error (fault.error c.tablePrefix)

def quoteTable (c : Compiler) (table : String) : Except Error String :=
  c.finish (tableSql table)

/-- A qualifier takes the prefix too. -/
def quoteColumn (c : Compiler) (column : String) : Except Error String :=
  c.finish (columnSql column)

def quoteLiteral (c : Compiler) (text : String) : String := c.dialect.quoteLiteral text

/-! ## Unquoting -/

/-- What follows the head, if the text begins with it. -/
def afterHead? : List Char → List Char → Option (List Char)
  | [], s => some s
  | h :: hs, c :: s => if h = c then afterHead? hs s else none
  | _ :: _, [] => none

/-- The text without its last character, which must be a double quote. -/
def beforeQuote? (s : List Char) : Option (List Char) :=
  match s.reverse with
  | '"' :: r => some r.reverse
  | _ => none

/-- What stands between the double quotes around a text. -/
def unquoted? : List Char → Option (List Char)
  | '"' :: s => beforeQuote? s
  | _ => none

def unquoteTableChars? (c : Compiler) (s : List Char) : Option (List Char) :=
  ((unquoted? s).bind (afterHead? c.tablePrefix.toList)).filter Name.isName

/-- The table that a quoted name stands for. -/
def unquoteTable? (c : Compiler) (quoted : String) : Option String :=
  (c.unquoteTableChars? quoted.toList).map String.ofList

/-- The texts before and after the first point between two double quotes. -/
def splitQualified? : List Char → Option (List Char × List Char)
  | '"' :: '.' :: '"' :: s => some ([], s)
  | c :: s => (splitQualified? s).map fun (before, after) => (c :: before, after)
  | [] => none

/-- The column that a quoted name stands for. -/
def unquoteColumn? (c : Compiler) (quoted : String) : Option String :=
  match splitQualified? quoted.toList with
  | some (before, after) =>
    match c.unquoteTableChars? (before ++ ['"']), (beforeQuote? after).filter Name.isName with
    | some table, some column => some (String.ofList (table ++ '.' :: column))
    | _, _ => none
  | none => ((unquoted? quoted.toList).filter Name.isName).map String.ofList

end Compiler
end StructuredSql
