-- Statements that write rows: INSERT, UPDATE, DELETE and replacement.
import StructuredSql.Statement.Template
import StructuredSql.Stored.Cell
import StructuredSql.Clause

namespace StructuredSql.Write

/-! ## Insert -/

/-- One row of several. -/
def row (item : Value) : Except Fault Fields :=
  match item with
  | .object fields => .ok fields
  | v => .error (.insertRow v.type)

/-- The rows of an insert: one map, or a list of maps. -/
def rows (v : Value) : Except Fault (List Fields) :=
  match v with
  | .object fields => .ok [fields]
  | .array items => items.mapM row
  | v => .error (.insertShape v.type)

/-- A key behind the others, unless it is there already. -/
def addKey (keys : List String) (k : String) : List String :=
  if keys.contains k then keys else keys ++ [k]

/-- The keys of all rows, in the order in which they first come. -/
def unionKeys (rows : List Fields) : List String := (rows.flatMap Entries.keys).foldl addKey []

/-- The columns that the keys name. -/
def columns (keys : List String) : Except Fault (List Sql) :=
  keys.mapM fun k => columnSql (Cell.column k)

/-- The cells of one row; a cell that the row lacks is null. -/
def cells (keys : List String) (row : Fields) : Build Sql := do
  let parts ← Build.each (fun k => Cell.store k ((Entries.get? row k).getD .null)) keys
  return Sql.parens (Sql.joinWith ", " parts)

def insert (table : String) (v : Value) : Build Sql := do
  let rows ← rows v
  let keys := unionKeys rows
  if keys.isEmpty then Build.fail .insertNothing
  else do
    let target ← tableSql table
    let columns ← columns keys
    let groups ← Build.each (cells keys) rows
    return .text "INSERT INTO " :: (target ++ .text " (" ::
      (Sql.joinWith ", " columns ++ .text ") VALUES " :: Sql.joinWith ", " groups))

/-! ## Update -/

/-- The mark at the end of an update key. -/
inductive Mark
  | json
  | arithmetic (sign : Char)
deriving DecidableEq, Repr

/-- The mark that a key ends in, and what stands before it, read in reverse. -/
def takeMark? : List Char → Option (Mark × List Char)
  | ']' :: 'N' :: 'O' :: 'S' :: 'J' :: '[' :: s => some (.json, s)
  | ']' :: '+' :: '[' :: s => some (.arithmetic '+', s)
  | ']' :: '-' :: '[' :: s => some (.arithmetic '-', s)
  | ']' :: '*' :: '[' :: s => some (.arithmetic '*', s)
  | ']' :: '/' :: '[' :: s => some (.arithmetic '/', s)
  | _ => none

/-- The column of an update key and its mark. Blank space before the mark is no
part of the column, and a name of several lines takes no mark. -/
def updateKey (key : String) : String × Option Mark :=
  match takeMark? key.toList.reverse with
  | none => (key, none)
  | some (mark, s) =>
    let name := (s.dropWhile Unicode.isBlank).reverse
    if name.contains '\n' then (key, none) else (String.ofList name, some mark)

/-- The operand of an arithmetic update, as it stands in the statement. -/
def operand : Value → String
  | .string s => String.ofList (Text.trim s.toList)
  | v => v.toText

/-- One assignment. -/
def assignment (entry : String × Value) : Build Sql := do
  let (name, mark?) := updateKey entry.1
  let column ← columnSql name
  match entry.2, mark? with
  | .raw raw, _ => return column ++ .text " = " :: (← Build.fragment raw)
  | v, some (.arithmetic sign) =>
    if v.isNumeric then
      return column ++ .text " = " :: (column ++ Sql.text s!" {sign} {operand v}")
    else Build.fail (.arithmeticOperand name v.type)
  | v, _ => return column ++ .text " = " :: (← Cell.store entry.1 v)

/-- Assignments in a row, with the clauses behind them. -/
def updateWith (d : Dialect) (target : Sql) (assignments : List Sql) (conditions : Option Value) :
    Build Sql := do
  let clauses ← Clause.all d conditions
  return .text "UPDATE " :: (target ++ .text " SET " ::
    (Sql.joinWith ", " assignments ++ clauses))

def update (d : Dialect) (table : String) (data : Fields) (conditions : Option Value) :
    Build Sql :=
  if data.isEmpty then Build.fail .updateNothing
  else do
    let target ← tableSql table
    let assignments ← Build.each assignment data
    updateWith d target assignments conditions

/-! ## Delete and replacement -/

def delete (d : Dialect) (table : String) (conditions : Option Value) : Build Sql := do
  let target ← tableSql table
  let clauses ← Clause.all d conditions
  return .text "DELETE FROM " :: (target ++ clauses)

/-- One replacement of a text in a column. -/
def substitution (column : Sql) (pair : String × Value) : Build Sql := do
  let old ← Build.text pair.1
  let new ← Build.text pair.2.toText
  return column ++ .text " = REPLACE(" :: (column ++ .text ", " ::
    (old ++ .text ", " :: (new ++ Sql.text ")")))

/-- The replacements in one column. What is no map of texts is passed over. -/
def substitutions (entry : String × Value) : Build (List Sql) :=
  match entry.2 with
  | .object pairs => do
    let column ← columnSql entry.1
    Build.each (substitution column) pairs
  | _ => pure []

def allSubstitutions : List (String × Value) → Build (List Sql)
  | [] => pure []
  | entry :: rest => do
    let sqls ← substitutions entry
    return sqls ++ (← allSubstitutions rest)

def replace (d : Dialect) (table : String) (columns : Fields) (conditions : Option Value) :
    Build Sql := do
  let target ← tableSql table
  let assignments ← allSubstitutions columns
  if assignments.isEmpty then Build.fail .nothingToReplace
  else updateWith d target assignments conditions

end StructuredSql.Write

namespace StructuredSql.Compiler

def insert (c : Compiler) (table : String) (rows : Value) : Except Error Compiled :=
  c.compile (Write.insert table rows).template

def update (c : Compiler) (table : String) (data : Fields) (conditions : Option Value) :
    Except Error Compiled :=
  c.compile (Write.update c.dialect table data conditions).template

def delete (c : Compiler) (table : String) (conditions : Option Value) : Except Error Compiled :=
  c.compile (Write.delete c.dialect table conditions).template

def replace (c : Compiler) (table : String) (columns : Fields) (conditions : Option Value) :
    Except Error Compiled :=
  c.compile (Write.replace c.dialect table columns conditions).template

end StructuredSql.Compiler
