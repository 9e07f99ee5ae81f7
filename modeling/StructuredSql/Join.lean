-- Joins. A key names the kind of the join, the table and perhaps an alias; its
-- relation says on which columns the tables meet.
import StructuredSql.Condition.Tree

namespace StructuredSql

inductive JoinKind
  | left
  | right
  | full
  | inner
deriving DecidableEq, Repr

def JoinKind.word : JoinKind → String
  | left => "LEFT"
  | right => "RIGHT"
  | full => "FULL"
  | inner => "INNER"

/-- A join key that has been read. -/
structure JoinKey where
  kind : JoinKind
  table : TableRef
deriving DecidableEq, Repr

namespace JoinKey

/-- The kind between the brackets, and what follows them. -/
def takeKind? : List Char → Option (JoinKind × List Char)
  | '[' :: '<' :: '>' :: ']' :: s => some (.full, s)
  | '[' :: '>' :: '<' :: ']' :: s => some (.inner, s)
  | '[' :: '<' :: ']' :: s => some (.right, s)
  | '[' :: '>' :: ']' :: s => some (.left, s)
  | _ => none

/-- The kind in brackets, then `table` or `table (alias)`. -/
def read? (key : String) : Option JoinKey :=
  match takeKind? key.toList with
  | none => none
  | some (kind, s) => (TableRef.ofText? (String.ofList s)).map fun table => ⟨kind, table⟩

def read (key : String) : Except Fault JoinKey :=
  match read? key with
  | some k => .ok k
  | none => .error (.joinKey key)

end JoinKey

namespace Join

/-- The columns that both tables share by name. -/
def usingColumns (columns : List Sql) : Sql :=
  .text "USING (" :: (Sql.joinWith ", " columns ++ Sql.text ")")

/-- The names of a list of columns, or a fault at the first entry that is not a
right one. -/
def columnNames (wrongShape : Fault) : List Value → Except Fault (List Sql)
  | [] => .ok []
  | .string s :: rest => do
    let column ← columnSql s
    return column :: (← columnNames wrongShape rest)
  | _ :: _ => .error wrongShape

/-- The left column of an equality, qualified by the main table unless it is
qualified already. -/
def leftColumn (main : String) (left : String) : Except Fault Sql :=
  if left.toList.contains '.' then columnSql left
  else (columnSql left).map fun sql => .table main :: .text "." :: sql

/-- One entry of an ON map: a group of conditions, or an equality of columns. -/
def onEntry (main joined key : String) (entry : String × Value) : Build Sql :=
  match entry with
  | ("AND", .object group) => Condition.tree .and group
  | (left, .string right) => do
    let l ← leftColumn main left
    let r ← columnSql right
    return l ++ .text " = " :: .table joined :: .text "." :: r
  | (left, _) => Build.fail (.joinTarget key left)

/-- How the joined table meets the main one. -/
def relation (main joined key : String) : Value → Build Sql
  | .string column => do
    let sql ← columnSql column
    return usingColumns [sql]
  | .array columns => do
    let sqls ← columnNames (.usingColumns key) columns
    return usingColumns sqls
  | .object pairs => do
    let parts ← Build.each (onEntry main joined key) pairs
    return .text "ON " :: Sql.joinWith " AND " parts
  | .raw raw => Build.fragment raw
  | v => Build.fail (.joinRelation key v.type)

/-- One join clause. -/
def clause (main : String) (entry : String × Value) : Build Sql := do
  let key ← JoinKey.read entry.1
  let on ← relation main key.table.exposed entry.1 entry.2
  return .text s!"{key.kind.word} JOIN " :: (key.table.sql ++ .text " " :: on)

/-- The joins of a map, in order. `main` is the table or alias of the query. -/
def clauses (main : String) (joins : Fields) : Build Sql :=
  return Sql.joinWith " " (← Build.each (clause main) joins)

end Join
end StructuredSql
