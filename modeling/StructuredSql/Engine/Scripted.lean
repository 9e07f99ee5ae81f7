-- An engine that answers from prepared lists, whatever it is asked.
import StructuredSql.Engine.Basic

namespace StructuredSql

/-- The answers that are left. -/
structure Script where
  results : List (Except Error RowSet)
  batches : List (Except Error Unit)
  lastId : Except Error Value
  info : EngineInfo

namespace Script

/-- The next result; an empty one when none is left. -/
def execute (s : Script) : Except Error RowSet × Script :=
  match s.results with
  | [] => (.ok .empty, s)
  | r :: rest => (r, { s with results := rest })

/-- The next answer to a script; success when none is left. -/
def batch (s : Script) : Except Error Unit × Script :=
  match s.batches with
  | [] => (.ok (), s)
  | b :: rest => (b, { s with batches := rest })

end Script

/-- The engine that answers from a script. -/
def Engine.scripted : Engine Script where
  execute _ _ s := s.execute
  batch _ s := s.batch
  lastId _ s := (s.lastId, s)
  info s := s.info

end StructuredSql
