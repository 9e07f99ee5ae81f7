-- An engine: what runs compiled statements. Its state is its own affair; it
-- answers each call and goes on from a new state. Any engine can keep a record of what
-- it is asked.
import StructuredSql.Engine.Result
import StructuredSql.Error

namespace StructuredSql

/-- What a call on an engine gives, and the state after it. -/
abbrev EngineCall (σ α : Type) := σ → Except Error α × σ

structure Engine (σ : Type) where
  /-- Run one statement with its bindings. -/
  execute : String → Params → EngineCall σ RowSet
  /-- Run a script without bindings. -/
  batch : String → EngineCall σ Unit
  begin : EngineCall σ Unit := batch "BEGIN"
  commit : EngineCall σ Unit := batch "COMMIT"
  rollback : EngineCall σ Unit := batch "ROLLBACK"
  /-- The identifier that the last insert made, perhaps of a named sequence. -/
  lastId : Option String → EngineCall σ Value
  info : σ → EngineInfo

/-! ## The record of calls -/

/-- What an engine was asked to do. -/
inductive EngineRequest
  | execute (sql : String) (params : Params)
  | batch (sql : String)
  | begin
  | commit
  | rollback
  | lastId (sequence : Option String)

namespace Engine

variable {σ : Type}

/-- A call that is put on record first. -/
def record {α : Type} (r : EngineRequest) (call : EngineCall σ α) :
    EngineCall (σ × List EngineRequest) α := fun s =>
  let (answer, next) := call s.1
  (answer, (next, s.2 ++ [r]))

/-- The engine with a record of its calls, oldest first. -/
def recorded (E : Engine σ) : Engine (σ × List EngineRequest) where
  execute sql params := record (.execute sql params) (E.execute sql params)
  batch sql := record (.batch sql) (E.batch sql)
  begin := record .begin E.begin
  commit := record .commit E.commit
  rollback := record .rollback E.rollback
  lastId sequence := record (.lastId sequence) (E.lastId sequence)
  info s := E.info s.1

end Engine

end StructuredSql
