-- The columns of a SELECT, from a column spec: a name, a list, a map of
-- computed columns and nested specs, or a fragment.
import StructuredSql.Column.Item
import StructuredSql.Marker

namespace StructuredSql.ColumnList

/-- The item holds a star. -/
def holdsStar (item : String) : Bool := item.toList.contains '*'

/-- The table of an item that ends in a point and a star. -/
def starredTable? (item : String) : Option String :=
  match item.toList.reverse with
  | '*' :: '.' :: r => some (String.ofList r.reverse)
  | _ => none

/-- All columns, or all columns of one table. -/
def star (item : String) : Except Fault Sql :=
  if item = "*" then .ok (Sql.text "*")
  else match starredTable? item with
    | some table => (tableSql table).map (· ++ Sql.text ".*")
    | none => .error (.columnName item)

/-- An item that is a text, and whether it is marked as distinct. No star is
allowed beside joins. -/
def textItem (joining : Bool) (item : String) : Except Fault (Bool × Sql) :=
  if holdsStar item then
    if joining then .error .starWhileJoining
    else (star item).map fun sql => (false, sql)
  else (ColumnItem.parse item).map fun i => (i.distinct, i.sql)

/-- The items of one list. The first item marked as distinct goes to the
front. -/
structure Items where
  front : Option Sql
  rest : List Sql

def Items.all (items : Items) : List Sql := items.front.toList ++ items.rest

/-- One more item, read before the others. -/
def Items.add (distinct : Bool) (sql : Sql) (items : Items) : Items :=
  if distinct then { items with front := some (.text "DISTINCT " :: sql) }
  else { items with rest := sql :: items.rest }

def comma (parts : List Sql) : Sql := Sql.joinWith "," parts

/-- A computed column: the fragment under the name of its key. -/
def computed (key : String) (raw : Raw) : Build Sql := do
  let item ← ColumnItem.parseKey key
  let sql ← Build.fragment raw
  return sql ++ .text " AS " :: item.column.sql

mutual

/-- The columns of a spec. At the root, a map of one key over a nested spec
also selects the key, by which the results are grouped. -/
def spec (root joining : Bool) : Value → Build Sql
  | .string s =>
    if s = "*" then pure (Sql.text "*")
    else do
      let (distinct, sql) ← textItem joining s
      return comma (Items.add distinct sql ⟨none, []⟩).all
  | .array entries => return comma (← items joining false entries).all
  | .object [(key, nested)] =>
    if root && nested.isContainer then do
      let index ← columnSql key
      return index ++ .text "," :: (← spec false joining nested)
    else return comma (← fields joining [(key, nested)])
  | .object entries => return comma (← fields joining entries)
  | .raw raw => Build.fragment raw
  | v => Build.fail (.columnSpec v.type)
termination_by structural v => v

/-- The items of a list. `marked` tells that an earlier one is distinct. -/
def items (joining marked : Bool) : List Value → Build Items
  | [] => pure ⟨none, []⟩
  | v :: rest => do
    let item := match v with
      | .string s => do
        let (distinct, sql) ← textItem joining s
        return (distinct && !marked, sql)
      | .raw raw => return (false, ← Build.fragment raw)
      | .array _ => return (false, ← spec false joining v)
      | .object _ => return (false, ← spec false joining v)
      | v => Build.fail (.columnItem v.type)
    let (distinct, sql) ← item
    let others ← items joining (marked || distinct) rest
    return others.add distinct sql
termination_by structural vs => vs

/-- The entries of a map: nested specs and computed columns. -/
def fields (joining : Bool) : List (String × Value) → Build (List Sql)
  | [] => pure []
  | (key, v) :: rest =>
    let first := match v with
      | .array _ => spec false joining v
      | .object _ => spec false joining v
      | .raw raw => computed key raw
      | v => Build.fail (.columnEntry key v.type)
    Build.cons first (fields joining rest)
termination_by structural entries => entries

end

end StructuredSql.ColumnList
