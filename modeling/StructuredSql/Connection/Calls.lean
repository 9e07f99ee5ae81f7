-- Commands on a connection, each with the kind of answer that belongs to it.
import StructuredSql.Connection.Basic
import StructuredSql.Value.View

namespace StructuredSql.Connection

variable {τ α : Type} (T : Transport τ) (now : Nat)

/-- An answer of another kind than the command has. -/
def mismatch (name : String) (output : Output) : CallError :=
  .internal s!"host answered {name} with {output.variant}"

/-- A command whose answer is taken by its kind. -/
def ask (take : Output → Option α) (cmd : Command) : Op τ α := fun c =>
  let (answer, c) := call T now cmd c
  let taken (output : Output) : Except CallError α :=
    match take output with
    | some a => .ok a
    | none => .error (mismatch cmd.name output)
  (answer.map fun r => r.bind taken, c)

/-! ## Kinds of answers -/

def unit? : Output → Option Unit
  | .unit => some ()
  | _ => none

def value? : Output → Option Value
  | .value v => some v
  | _ => none

def maybe? : Output → Option (Option Value)
  | .maybe v => some v
  | _ => none

def bool? : Output → Option Bool
  | .bool b => some b
  | _ => none

def statement? : Output → Option (Option Executed)
  | .statement e => some e
  | _ => none

def info? : Output → Option EngineInfo
  | .info i => some i
  | _ => none

def text? : Output → Option (Option String)
  | .text s => some s
  | _ => none

def texts? : Output → Option (List String)
  | .texts ss => some ss
  | _ => none

def pong? : Output → Option String
  | .pong version => some version
  | _ => none

/-! ## Commands with their answers -/

/-- What is made of a good answer. -/
def mapped {β : Type} (f : α → β) (op : Op τ α) : Op τ β := fun c =>
  let (answer, c) := op c
  (answer.map fun r => r.map f, c)

/-- The rows of a query, or its first row: a command that answers with a value. -/
def value (cmd : Command) : Op τ Value := ask T now value? cmd

def has (q : Query) : Op τ Bool := ask T now bool? (.has q)

def aggregate (f : Aggregate) (q : Query) : Op τ (Option Value) :=
  ask T now maybe? (.aggregate f q)

/-- How many rows match; zero when that cannot be told. -/
def count (q : Query) : Op τ Int64 :=
  mapped (fun v => (v.bind Value.toInt64?).getD 0) (aggregate T now .count q)

/-- A command that answers with a statement. -/
def statement (cmd : Command) : Op τ (Option Executed) := ask T now statement? cmd

def importFile (path : String) : Op τ Bool := ask T now bool? (.importFile path)

def id (sequence : Option String) : Op τ (Option Value) := ask T now maybe? (.id sequence)

def info : Op τ EngineInfo := ask T now info? .info

def last : Op τ (Option String) := ask T now text? .last

def log : Op τ (List String) := ask T now texts? .log

def debugLog : Op τ (List String) := ask T now texts? .debugLog

def property (p : Property) : Op τ (Option Value) := ask T now maybe? (.property p)

/-- A property that is a text. -/
def textProperty (p : Property) : Op τ (Option String) :=
  mapped (fun v => v.bind Value.string?) (property T now p)

/-- The message of the last engine failure. -/
def error : Op τ (Option String) := textProperty T now .error

/-- The last statement of a dry run. -/
def queryString : Op τ (Option String) := textProperty T now .queryString

/-- The version of the host. -/
def ping : Op τ String := ask T now pong? .ping

/-! ## Transactions -/

def begin : Op τ Unit := ask T now unit? .begin

def commit : Op τ Unit := ask T now unit? .commit

def rollback : Op τ Unit := ask T now unit? .rollback

/-- Anything inside a transaction. The value false rolls back, any other commits;
an error rolls back and is given on. -/
def action (f : Op τ Value) : Op τ Unit := fun c =>
  match begin T now c with
  | (none, c) => (none, c)
  | (some (.error e), c) => (some (.error e), c)
  | (some (.ok ()), c) =>
    match f c with
    | (none, c) => (none, c)
    | (some (.ok (.bool false)), c) => rollback T now c
    | (some (.ok _), c) => commit T now c
    | (some (.error e), c) =>
      match rollback T now c with
      | (some _, c) => (some (.error e), c)
      | (none, c) => (none, c)

end StructuredSql.Connection
