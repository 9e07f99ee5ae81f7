-- Statements that read: SELECT and its forms.
import StructuredSql.Statement.Template
import StructuredSql.Column.List
import StructuredSql.Clause
import StructuredSql.Query

namespace StructuredSql

/-- What stands between SELECT and FROM. -/
inductive Head
  | columns
  | function (a : Aggregate)
  | one
  | top
deriving DecidableEq

namespace Read

/-- The joins of a query, a blank before them, and whether there are any. -/
def joins (main : String) : Option Fields → Build (Sql × Bool)
  | none => pure ([], false)
  | some [] => pure ([], false)
  | some join => return (.text " " :: (← Join.clauses main join), true)

/-- What an aggregate is taken over; everything when no column is given. -/
def aggregated : Option Value → Build Sql
  | none => pure (Sql.text "*")
  | some .null => pure (Sql.text "*")
  | some spec => ColumnList.spec true false spec

def head (q : Query) (joining : Bool) : Head → Build Sql
  | .columns => ColumnList.spec true joining q.columnSpec
  | .function a => return .text (a.function ++ "(") :: (← aggregated q.columns) ++ Sql.text ")"
  | .one => pure (Sql.text "1")
  | .top => pure (Sql.text "TOP 1 1")

/-- The table of a query, or the fault of a wrong name. -/
def tableRef (table : String) : Except Fault TableRef :=
  match TableRef.ofText? table with
  | some t => .ok t
  | none => .error (.tableName table)

/-- The query as one SELECT. -/
def statement (d : Dialect) (q : Query) (h : Head) : Build Sql := do
  let table ← tableRef q.table
  let (joined, joining) ← joins table.exposed q.join
  let selected ← head q joining h
  let clauses ← Clause.all d q.conditions
  return .text "SELECT " :: (selected ++ .text " FROM " :: (table.sql ++ joined ++ clauses))

def template (d : Dialect) (q : Query) (h : Head) : Except Fault Template :=
  (statement d q h).template

/-- A query with an aggregate selects that, and else its columns. -/
def selectHead (q : Query) : Head :=
  match q.aggregate with
  | some a => .function a
  | none => .columns

/-- One row, whatever limit the query had. -/
def limited (q : Query) : Query := q.setModifier "LIMIT" (.int 1)

/-- Rows in random order. -/
def shuffled (d : Dialect) (q : Query) : Query :=
  q.setModifier "ORDER" (.raw (Fragment.plain d.randomFunction))

/-- A probe for any row. -/
def existence (d : Dialect) (q : Query) : Except Fault Template :=
  if d = .mssql then template d q .top
  else (template d q .one).map fun t =>
    { t with sql := .text "SELECT EXISTS(" :: t.sql ++ Sql.text ")" }

end Read

namespace Compiler

def select (c : Compiler) (q : Query) : Except Error Compiled :=
  c.compile (Read.template c.dialect q (Read.selectHead q))

def get (c : Compiler) (q : Query) : Except Error Compiled :=
  c.compile (Read.template c.dialect (Read.limited q) .columns)

def rand (c : Compiler) (q : Query) : Except Error Compiled :=
  c.compile (Read.template c.dialect (Read.shuffled c.dialect q) .columns)

def exists? (c : Compiler) (q : Query) : Except Error Compiled :=
  c.compile (Read.existence c.dialect q)

def aggregate (c : Compiler) (a : Aggregate) (q : Query) : Except Error Compiled :=
  c.compile (Read.template c.dialect q (.function a))

end Compiler
end StructuredSql
