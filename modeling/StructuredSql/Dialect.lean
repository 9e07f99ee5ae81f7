-- The families of database engines that statements are written for.
import StructuredSql.Error

namespace StructuredSql

inductive Dialect
  | mysql
  | pgsql
  | sqlite
  | mssql
  | oracle
  | sybase
deriving DecidableEq, Repr, Inhabited

namespace Dialect

def name : Dialect → String
  | mysql => "mysql"
  | pgsql => "pgsql"
  | sqlite => "sqlite"
  | mssql => "mssql"
  | oracle => "oracle"
  | sybase => "sybase"

/-- The name as it stands in descriptions. -/
def label : Dialect → String
  | mysql => "MySql"
  | pgsql => "PgSql"
  | sqlite => "Sqlite"
  | mssql => "MsSql"
  | oracle => "Oracle"
  | sybase => "Sybase"

/-- The dialect of a name or alias in lower case. -/
def ofAlias? : String → Option Dialect
  | "mysql" | "mariadb" => some mysql
  | "pgsql" | "postgres" | "postgresql" => some pgsql
  | "sqlite" => some sqlite
  | "mssql" | "sqlsrv" => some mssql
  | "oracle" => some oracle
  | "sybase" => some sybase
  | _ => none

/-- The dialect of a name or alias in any case of ASCII letters. -/
def ofName? (s : String) : Option Dialect := ofAlias? s.toLower

/-- The dialect of a name, or the error of an unknown one. -/
def parse (s : String) : Except Error Dialect :=
  match ofName? s with
  | some d => .ok d
  | none => .error (.validation s!"unsupported database type '{s.toLower}'")

/-- The engine takes `CREATE TABLE IF NOT EXISTS`. -/
def takesIfNotExists : Dialect → Bool
  | mysql => true
  | pgsql => true
  | sqlite => true
  | _ => false

/-- The engine pages with `OFFSET` and `FETCH NEXT` in place of `LIMIT`. -/
def pagesByFetch : Dialect → Bool
  | mssql => true
  | oracle => true
  | _ => false

/-- The function that orders rows at random. -/
def randomFunction : Dialect → String
  | mysql => "RAND()"
  | mssql => "NEWID()"
  | _ => "RANDOM()"

/-- A text as a string literal. MySQL puts a backslash before quotes and
backslashes, the others write a single quote twice. -/
def escapeLiteral (d : Dialect) (c : Char) : List Char :=
  if d = mysql then
    if c = '\'' ∨ c = '"' ∨ c = '\\' then ['\\', c] else [c]
  else if c = '\'' then ['\'', '\''] else [c]

/-- A text as a string literal of the dialect. -/
def quoteLiteral (d : Dialect) (s : String) : String :=
  String.ofList ('\'' :: (s.toList.flatMap d.escapeLiteral ++ ['\'']))

end Dialect
end StructuredSql
