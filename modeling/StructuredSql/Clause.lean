-- What follows the tables of a statement: WHERE, MATCH, GROUP BY, HAVING, ORDER
-- BY and the limit, always in this order.
import StructuredSql.Join
import StructuredSql.Dialect

namespace StructuredSql.Clause

/-- The keys of a condition tree that are no conditions. -/
def modifiers : List String := ["GROUP", "ORDER", "HAVING", "LIMIT", "LIKE", "MATCH"]

def isModifier (key : String) : Bool := modifiers.contains key

/-- The entries of a tree that are conditions. -/
def plain (tree : Fields) : Fields := tree.filter fun e => !isModifier e.1

/-- Nothing for a modifier that is absent. -/
def optionally (v? : Option Value) (f : Value → Build Sql) : Build Sql :=
  match v? with
  | some v => f v
  | none => pure []

def conditions (tree : Fields) : Build Sql :=
  if (plain tree).isEmpty then pure []
  else return .text " WHERE " :: (← Condition.tree .and (plain tree))

/-! ## Full-text search -/

/-- The search mode of a MATCH. A mode that is not known is none. -/
def searchMode (spec : Fields) : String :=
  match (Entries.get? spec "mode").bind Value.string? with
  | some "natural" => " IN NATURAL LANGUAGE MODE"
  | some "natural+query" => " IN NATURAL LANGUAGE MODE WITH QUERY EXPANSION"
  | some "boolean" => " IN BOOLEAN MODE"
  | some "query" => " WITH QUERY EXPANSION"
  | _ => ""

/-- A search over columns, one more conjunct behind WHERE. -/
def search (alone : Bool) (spec : Value) : Build Sql :=
  match spec.object? with
  | none => Build.fail .matchShape
  | some fields =>
    match Entries.get? fields "columns", Entries.get? fields "keyword" with
    | some (.array columns), some keyword => do
      let names ← Join.columnNames .matchColumns columns
      let bound ← Build.text keyword.toText
      return .text (if alone then " WHERE MATCH (" else " AND MATCH (") ::
        (Sql.joinWith ", " names ++ .text ") AGAINST (" ::
          (bound ++ Sql.text (searchMode fields ++ ")")))
    | _, _ => Build.fail .matchShape

/-- Only one dialect searches; the others pass the search over. -/
def searching (d : Dialect) (alone : Bool) (tree : Fields) : Build Sql :=
  if d = .mysql then optionally (Entries.get? tree "MATCH") (search alone) else pure []

/-! ## Grouping and order -/

/-- By what rows are grouped. -/
def grouping (group : Value) : Build Sql :=
  match group with
  | .array columns => return Sql.joinWith "," (← Join.columnNames .groupByColumns columns)
  | .raw raw => Build.fragment raw
  | .string column => columnSql column
  | v => Build.fail (.groupByShape v.type)

def groupBy (group : Value) : Build Sql := return .text " GROUP BY " :: (← grouping group)

/-- What is asked of every group of rows. -/
def groupTest (v : Value) : Build Sql :=
  match v with
  | .raw raw => Build.fragment raw
  | .object fields => Condition.tree .and fields
  | v => Build.fail (.havingShape v.type)

def having (v : Value) : Build Sql := return .text " HAVING " :: (← groupTest v)

/-- A value of an ordered list of values: numbers as they are, others quoted. -/
def orderLiteral (d : Dialect) : Value → String
  | .int i => toString i.toInt
  | v => d.quoteLiteral v.toText

/-- A column with its direction, or with the values in whose order it is
taken. -/
def orderEntry (d : Dialect) (entry : String × Value) : Except Fault Sql := do
  let column ← columnSql entry.1
  match entry.2 with
  | .array values =>
    return .text "FIELD(" ::
      (column ++ Sql.text (", " ++ ",".intercalate (values.map (orderLiteral d)) ++ ")"))
  | .string "ASC" => return column ++ Sql.text " ASC"
  | .string "DESC" => return column ++ Sql.text " DESC"
  | v => throw (.orderDirection entry.1 v.toText)

/-- By what rows are ordered. -/
def ordering (d : Dialect) (order : Value) : Build Sql :=
  match order with
  | .array columns => return Sql.joinWith "," (← Join.columnNames .orderByColumns columns)
  | .object fields => return Sql.joinWith "," (← Build.each (fun e => orderEntry d e) fields)
  | .raw raw => Build.fragment raw
  | .string column => columnSql column
  | v => Build.fail (.orderByShape v.type)

def orderBy (d : Dialect) (order : Value) : Build Sql :=
  return .text " ORDER BY " :: (← ordering d order)

/-! ## The limit -/

/-- A count of rows. -/
def count (v : Value) : Except Fault Nat :=
  match v.isNumeric, v.toInt64? with
  | true, some i => if 0 ≤ i.toInt then .ok i.toInt.toNat else .error (.limitBound v.toText)
  | _, _ => .error (.limitBound v.toText)

/-- How many rows are skipped, if that is said, and how many are taken. -/
def window (v : Value) : Except Fault (Option Nat × Nat) :=
  match v with
  | .array [offset, rows] => do
    let offset ← count offset
    return (some offset, ← count rows)
  | .array _ => .error .limitShape
  | v => (count v).map fun rows => (none, rows)

/-- The text of a limit. An engine that pages by FETCH skips 0 rows when nothing
is said, and one of them needs an order for it. -/
def limitText (d : Dialect) (ordered : Bool) (offset? : Option Nat) (rows : Nat) : String :=
  if d.pagesByFetch then
    (if d = .mssql ∧ !ordered then " ORDER BY (SELECT 0)" else "") ++
      s!" OFFSET {offset?.getD 0} ROWS FETCH NEXT {rows} ROWS ONLY"
  else match offset? with
    | some offset => s!" LIMIT {rows} OFFSET {offset}"
    | none => s!" LIMIT {rows}"

def limit (d : Dialect) (ordered : Bool) (v : Value) : Build Sql := do
  let (offset?, rows) ← window v
  return Sql.text (limitText d ordered offset? rows)

/-! ## All clauses -/

/-- The clauses of a condition tree. -/
def ofTree (d : Dialect) (tree : Fields) : Build Sql := do
  let plainSql ← conditions tree
  let searchSql ← searching d plainSql.isEmpty tree
  let groupSql ← optionally (Entries.get? tree "GROUP") groupBy
  let havingSql ← optionally (Entries.get? tree "HAVING") having
  let order? := Entries.get? tree "ORDER"
  let orderSql ← optionally order? (orderBy d)
  let limitSql ← optionally (Entries.get? tree "LIMIT") (limit d order?.isSome)
  return plainSql ++ searchSql ++ groupSql ++ havingSql ++ orderSql ++ limitSql

/-- The clauses of a statement, from a tree or a fragment. -/
def all (d : Dialect) (conditions : Option Value) : Build Sql :=
  match conditions with
  | none => pure []
  | some .null => pure []
  | some (.raw raw) => return .text " " :: (← Build.fragment raw)
  | some (.object tree) => ofTree d tree
  | some v => Build.fail (.conditionTree v.type)

end StructuredSql.Clause
