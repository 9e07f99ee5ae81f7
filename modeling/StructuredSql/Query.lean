-- The description of a read: a table, joins, a column spec, a condition tree,
-- and perhaps an aggregate.
import StructuredSql.Fault
import StructuredSql.Value.Equality

namespace StructuredSql

inductive Aggregate
  | count
  | sum
  | avg
  | max
  | min
deriving DecidableEq, Repr

namespace Aggregate

/-- The function's name in SQL. -/
def function : Aggregate → String
  | count => "COUNT"
  | sum => "SUM"
  | avg => "AVG"
  | max => "MAX"
  | min => "MIN"

end Aggregate

/-- What is to be read. A part that is absent is told apart from one that is
null. -/
structure Query where
  table : String
  join : Option Fields
  columns : Option Value
  conditions : Option Value
  aggregate : Option Aggregate

namespace Query

def ofTable (table : String) : Query := ⟨table, none, none, none, none⟩

/-- Only a map is a join. -/
def withJoin (q : Query) (join : Value) : Query := { q with join := join.object? }

def withColumns (q : Query) (columns : Value) : Query := { q with columns := some columns }

def filter (q : Query) (conditions : Value) : Query := { q with conditions := some conditions }

def withAggregate (q : Query) (a : Aggregate) : Query := { q with aggregate := some a }

/-- The column spec; all columns when none is given. -/
def columnSpec (q : Query) : Value := q.columns.getD (.string "*")

/-- The condition tree with a modifier. Only a map takes it, and an absent tree
becomes one. -/
def modified (conditions : Option Value) (key : String) (v : Value) : Option Value :=
  match conditions with
  | some (.object tree) => some (.object (Entries.insert tree key v))
  | some other => some other
  | none => some (.object [(key, v)])

def setModifier (q : Query) (key : String) (v : Value) : Query :=
  { q with conditions := modified q.conditions key v }

/-- A map is a join when its first key begins with a bracket. -/
def isJoin (fields : Fields) : Bool :=
  match fields with
  | (key, _) :: _ => key.toList.head? == some '['
  | [] => false

/-- Columns and conditions from a list of arguments that allows no more. -/
def ofArguments (table : String) (join : Option Fields) (arguments : List Value) :
    Except Fault Query :=
  if 2 < arguments.length then .error (.extraArgument table)
  else .ok ⟨table, join, arguments[0]?, arguments[1]?, none⟩

/-- Arguments by position: columns and conditions, behind a join if the first
argument is one. -/
def positional (table : String) (arguments : List Value) : Except Fault Query :=
  match arguments with
  | .object fields :: rest =>
    if isJoin fields then ofArguments table (some fields) rest
    else ofArguments table none arguments
  | _ => ofArguments table none arguments

end Query
end StructuredSql
