-- Queries as data: a record of the parts that are there, and nothing else.
import StructuredSql.Query
import StructuredSql.Value.Datum

namespace StructuredSql

namespace Aggregate

/-- Every function under its name. -/
def table : List (String × Aggregate) :=
  [("Count", count), ("Sum", sum), ("Avg", avg), ("Max", max), ("Min", min)]

def name : Aggregate → String
  | count => "Count"
  | sum => "Sum"
  | avg => "Avg"
  | max => "Max"
  | min => "Min"

def toDatum (a : Aggregate) : Datum := .string a.name

def ofDatum? (src : Source) (d : Datum) : Option Aggregate := Datum.choice? src table d

end Aggregate

namespace Query

def toDatum (q : Query) : Datum :=
  .record ([("table", .string q.table)]
    ++ Datum.field? "join" (q.join.map Fields.toDatum)
    ++ Datum.field? "columns" (q.columns.map Value.toDatum)
    ++ Datum.field? "conditions" (q.conditions.map Value.toDatum)
    ++ Datum.field? "aggregate" (q.aggregate.map Aggregate.toDatum))

def fieldNames : List String := ["table", "join", "columns", "conditions", "aggregate"]

def ofDatum? (src : Source) (room : Nat) (d : Datum) : Option Query := do
  let (room, slots) ← Datum.record? src fieldNames true room d
  match slots with
  | [some table, join, columns, conditions, aggregate] =>
    return {
      table := ← table.text?
      join := ← Datum.optional? (Fields.ofDatum? src room) join
      columns := ← Datum.optional? (Value.ofDatum? src room) columns
      conditions := ← Datum.optional? (Value.ofDatum? src room) conditions
      aggregate := ← Datum.optional? (Aggregate.ofDatum? src) aggregate }
  | _ => none

end Query
end StructuredSql
