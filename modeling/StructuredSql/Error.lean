-- The five kinds of failure that a caller can see.

namespace StructuredSql

inductive Error
  /-- A name, operator or option was refused. -/
  | validation (message : String)
  /-- A descriptor has a shape that no statement has. -/
  | compile (message : String)
  /-- The engine refused a statement. -/
  | engine (message : String) (code : Option String)
  /-- The channel to the host failed. -/
  | transport (message : String)
  /-- A bounded wait ran out. -/
  | timeout (message : String)
deriving DecidableEq, Repr

namespace Error

/-- The short name of the kind. -/
def kind : Error → String
  | validation _ => "validation"
  | compile _ => "compile"
  | engine _ _ => "engine"
  | transport _ => "transport"
  | timeout _ => "timeout"

def message : Error → String
  | validation m => m
  | compile m => m
  | engine m _ => m
  | transport m => m
  | timeout m => m

/-- The code that an engine gave, if any. -/
def code? : Error → Option String
  | engine _ code => code
  | _ => none

/-- The message behind its kind. -/
def display (e : Error) : String :=
  match e with
  | timeout m => "timeout: " ++ m
  | e => e.kind ++ " error: " ++ e.message

end Error
end StructuredSql
