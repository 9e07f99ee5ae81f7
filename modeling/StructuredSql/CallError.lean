-- The failures of a call on a host: those of the database, those of the channel,
-- and those of transactions that do not fit.
import StructuredSql.Error

namespace StructuredSql

inductive CallError
  | validation (reason : String)
  | compile (reason : String)
  /-- `trace` names the command and the statement that the engine refused. -/
  | engine (reason : String) (code : Option String) (trace : Option String)
  | transport (reason : String)
  | timeout (reason : String)
  | noTransaction
  | transactionOpen
  /-- A host broke down or broke the protocol. -/
  | internal (reason : String)
deriving DecidableEq, Repr

/-- The kind of a failure, as it travels. -/
inductive ErrorKind
  | validation
  | compile
  | engine
  | transport
  | timeout
  | noTransaction
  | transactionOpen
  | internal
deriving DecidableEq, Repr

namespace ErrorKind

def name : ErrorKind → String
  | validation => "Validation"
  | compile => "Compile"
  | engine => "Engine"
  | transport => "Transport"
  | timeout => "Timeout"
  | noTransaction => "TransactionNotActive"
  | transactionOpen => "TransactionAlreadyActive"
  | internal => "Internal"

/-- Every kind under its name. -/
def table : List (String × ErrorKind) :=
  [("Validation", validation), ("Compile", compile), ("Engine", engine),
    ("Transport", transport), ("Timeout", timeout), ("TransactionNotActive", noTransaction),
    ("TransactionAlreadyActive", transactionOpen), ("Internal", internal)]

end ErrorKind

namespace CallError

def kind : CallError → ErrorKind
  | validation _ => .validation
  | compile _ => .compile
  | engine _ _ _ => .engine
  | transport _ => .transport
  | timeout _ => .timeout
  | noTransaction => .noTransaction
  | transactionOpen => .transactionOpen
  | internal _ => .internal

/-- The reason without the name of the kind. -/
def reason : CallError → String
  | validation r => r
  | compile r => r
  | engine r _ _ => r
  | transport r => r
  | timeout r => r
  | noTransaction => "no active transaction"
  | transactionOpen => "transaction already active"
  | internal r => r

/-- The reason behind the name of its kind. -/
def display (e : CallError) : String :=
  match e with
  | validation r => "validation error: " ++ r
  | compile r => "compile error: " ++ r
  | engine r _ _ => "engine error: " ++ r
  | transport r => "transport error: " ++ r
  | timeout r => "timeout: " ++ r
  | internal r => "internal error: " ++ r
  | e => e.reason

/-- The code that the engine gave, if any. -/
def code? : CallError → Option String
  | engine _ code _ => code
  | _ => none

def trace? : CallError → Option String
  | engine _ _ trace => trace
  | _ => none

/-- A failure of the database, kind by kind. -/
def ofError : Error → CallError
  | .validation m => validation m
  | .compile m => compile m
  | .engine m code => engine m code none
  | .transport m => transport m
  | .timeout m => timeout m

end CallError
end StructuredSql
