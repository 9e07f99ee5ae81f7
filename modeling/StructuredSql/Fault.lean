-- The reasons for which a descriptor is refused. A fault does not know the
-- table prefix; its message is written under one.
import StructuredSql.Error
import StructuredSql.Name
import StructuredSql.Value.Basic

namespace StructuredSql

inductive Fault
  -- Names and operators
  | tableName (text : String)
  | columnName (text : String)
  | marker (name : String)
  | joinKey (key : String)
  | starWhileJoining
  | conditionKey (key : String)
  | columnComparison (key : String)
  | operator (op : String) (column : ColumnName)
  | orderDirection (column direction : String)
  | nothingToReplace
  -- Bindings
  | scalarExpected (got : ValueType)
  | fragmentBound
  -- Column lists
  | columnEntry (key : String) (got : ValueType)
  | columnSpec (got : ValueType)
  | columnItem (got : ValueType)
  -- Joins
  | usingColumns (key : String)
  | joinTarget (key left : String)
  | joinRelation (key : String) (got : ValueType)
  -- Conditions
  | groupEntry (got : ValueType)
  | emptyIn (column : ColumnName)
  | mapComparison (column : ColumnName)
  | containerComparison (column : ColumnName) (got : ValueType)
  | likeShape (column : ColumnName)
  | emptyLike (column : ColumnName)
  | likeItem (column : ColumnName)
  | betweenShape (column : ColumnName)
  | betweenBounds (column : ColumnName)
  | regexpShape (column : ColumnName)
  -- Clauses
  | conditionTree (got : ValueType)
  | matchShape
  | matchColumns
  | groupByColumns
  | groupByShape (got : ValueType)
  | havingShape (got : ValueType)
  | orderByColumns
  | orderByShape (got : ValueType)
  | limitBound (text : String)
  | limitShape
  -- Statements
  | insertRow (got : ValueType)
  | insertShape (got : ValueType)
  | insertNothing
  | updateNothing
  | arithmeticOperand (name : String) (got : ValueType)
  | columnDefinition (name : String) (got : ValueType)
  | tableDefinition (got : ValueType)
  | createShape (got : ValueType)
  | createNothing
  | tableOptions (got : ValueType)
  | extraArgument (table : String)
deriving DecidableEq, Repr

namespace Fault

/-- Faults of names and operators are refused in themselves; the others are
faults of shape. -/
def isValidation : Fault → Bool
  | tableName _ => true
  | columnName _ => true
  | marker _ => true
  | joinKey _ => true
  | starWhileJoining => true
  | conditionKey _ => true
  | columnComparison _ => true
  | operator _ _ => true
  | orderDirection _ _ => true
  | nothingToReplace => true
  | _ => false

/-- The wording of a fault, with columns quoted under the table prefix. -/
def message (tablePrefix : String) (fault : Fault) : String :=
  let quoted := fun (c : ColumnName) => c.sql.render tablePrefix
  match fault with
  | tableName t => s!"Incorrect table name: {t}"
  | columnName c => s!"Incorrect column name: {c}"
  | marker n => s!"Malformed raw marker <{n}>"
  | joinKey k => s!"Invalid join key: {k}"
  | starWhileJoining => "Cannot use table.* to select all columns while joining table"
  | conditionKey k => s!"Invalid condition key: {k}"
  | columnComparison k => s!"Invalid column comparison: {k}"
  | operator op c => s!"Invalid operator [{op}] for column {quoted c} supplied"
  | orderDirection c d => s!"Invalid order direction for {c}: {d}"
  | nothingToReplace => "Invalid columns supplied"
  | scalarExpected t => s!"cannot bind {t.name} value as a scalar"
  | fragmentBound => "raw fragment cannot be bound"
  | columnEntry k t =>
    s!"column key {k} must map to a raw fragment or a nested spec, got {t.name}"
  | columnSpec t => s!"unsupported column spec of type {t.name}"
  | columnItem t => s!"column list entries must be strings, got {t.name}"
  | usingColumns k => s!"USING list for join {k} must hold column names"
  | joinTarget k l => s!"join {k}: right-hand side of {l} must be a column name"
  | joinRelation k t => s!"join {k}: unsupported relation of type {t.name}"
  | groupEntry t => s!"condition group entries must be strings or maps, got {t.name}"
  | emptyIn c => s!"empty IN list for column {quoted c}"
  | mapComparison c => s!"cannot compare column {quoted c} with a map"
  | containerComparison c t => s!"cannot compare column {quoted c} with a {t.name}"
  | likeShape c =>
    s!"LIKE on column {quoted c} expects a value, a list or \x7b\"AND\"|\"OR\": list\x7d"
  | emptyLike c => s!"empty LIKE list for column {quoted c}"
  | likeItem c => s!"LIKE pattern for column {quoted c} must be a scalar"
  | betweenShape c => s!"BETWEEN on column {quoted c} expects exactly two values"
  | betweenBounds c =>
    s!"BETWEEN bounds for column {quoted c} must both be scalars or both be raw"
  | regexpShape c => s!"REGEXP on column {quoted c} expects a text pattern"
  | conditionTree t => s!"conditions must be a map or a raw fragment, got {t.name}"
  | matchShape => "MATCH expects \x7bcolumns, keyword, mode?\x7d"
  | matchColumns => "MATCH columns must be column names"
  | groupByColumns => "GROUP list must hold column names"
  | groupByShape t => s!"GROUP expects a column, a list or a raw fragment, got {t.name}"
  | havingShape t => s!"HAVING expects a map or a raw fragment, got {t.name}"
  | orderByColumns => "ORDER list must hold column names"
  | orderByShape t => s!"ORDER expects a column, a list, a map or a raw fragment, got {t.name}"
  | limitBound text => s!"LIMIT bound must be a non-negative integer, got {text}"
  | limitShape => "LIMIT expects a count or [offset, count]"
  | insertRow t => s!"insert rows must be maps, got {t.name}"
  | insertShape t => s!"insert expects a map or a list of maps, got {t.name}"
  | insertNothing => "insert needs at least one column"
  | updateNothing => "update needs at least one column"
  | arithmeticOperand n t => s!"arithmetic update of {n} needs a numeric operand, got {t.name}"
  | columnDefinition n t =>
    s!"definition of column {n} must be a list or a string, got {t.name}"
  | tableDefinition t => s!"table definitions must be strings, got {t.name}"
  | createShape t => s!"create expects a map or a list of definitions, got {t.name}"
  | createNothing => "create needs at least one column"
  | tableOptions t => s!"table options must be a map or a string, got {t.name}"
  | extraArgument t => s!"too many arguments for table {t}"

/-- The fault as the caller sees it. -/
def error (tablePrefix : String) (fault : Fault) : Error :=
  if fault.isValidation then .validation (fault.message tablePrefix)
  else .compile (fault.message tablePrefix)

end Fault

/-! ## Names that must be right -/

/-- A table name, or the fault of a wrong one. -/
def tableSql (name : String) : Except Fault Sql :=
  if Name.isName name.toList then .ok [.table name] else .error (.tableName name)

/-- A column name, or the fault of a wrong one. -/
def columnName (text : String) : Except Fault ColumnName :=
  match ColumnName.ofText? text with
  | some c => .ok c
  | none => .error (.columnName text)

def columnSql (text : String) : Except Fault Sql := (columnName text).map ColumnName.sql

end StructuredSql
