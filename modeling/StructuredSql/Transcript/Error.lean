-- Errors in transcripts: the kind, the message, and what an engine adds. The
-- words behind a codec's own complaint are left out.
import StructuredSql.Failure
import StructuredSql.Transcript.Value

namespace StructuredSql.Transcript

/-! ## Writing -/

/-- The complaints after which a message is cut. -/
def complaints : List String := ["frame decode failed", "frame encode failed"]

/-- The text up to and with the complaint, if it is there. -/
def cutAfter? (complaint s : String) : Option String :=
  match s.splitOn complaint with
  | front :: _ :: _ => some (front ++ complaint)
  | _ => none

def cut (s : String) : String := (complaints.findSome? fun c => cutAfter? c s).getD s

def message (s : String) : Json := .string (cut s)

def error (e : Error) : Json :=
  .object ([("error", .string e.kind), ("message", message e.message)]
    ++ match e with
      | .engine _ code => [("code", optional .string code)]
      | _ => [])

def callError (e : CallError) : Json :=
  .object ([("error", .string e.kind.name), ("message", message e.reason),
      ("display", message e.display)]
    ++ match e with
      | .engine _ code trace =>
        [("code", optional .string code), ("trace", optional .string trace)]
      | _ => [])

def failure (f : Failure) : Json :=
  .object [("kind", .string f.kind.name), ("message", message f.message),
    ("code", optional .string f.code), ("site", optional .string f.site),
    ("trace", optional .string f.trace)]

/-- A result under `ok`, or the error. -/
def okOr {α ε : Type} (fail : ε → Json) (write : α → Json) : Except ε α → Json
  | .ok a => .object [("ok", write a)]
  | .error e => fail e

/-- A result as it is, or the error. -/
def either {α ε : Type} (fail : ε → Json) (write : α → Json) : Except ε α → Json
  | .ok a => write a
  | .error e => fail e

/-! ## Reading -/

def text? (j : Json) (name : String) : Option (Option String) := j.optional? Json.text? name

/-- A text that is empty when it is absent. -/
def textOrEmpty? (j : Json) (name : String) : Option String := j.default? Json.text? name ""

def error? (j : Json) : Option Error := do
  let m ← textOrEmpty? j "message"
  match ← j.required? Json.text? "error" with
  | "validation" => return .validation m
  | "compile" => return .compile m
  | "engine" => return .engine m (← text? j "code")
  | "transport" => return .transport m
  | "timeout" => return .timeout m
  | _ => none

def errorKind? (name : String) : Option ErrorKind := ErrorKind.table.lookup name

/-- A failure whose kind stands under the name. -/
def failureAt? (kind : String) (j : Json) : Option Failure := do
  return ⟨← (j.required? Json.text? kind).bind errorKind?, ← textOrEmpty? j "message",
    ← text? j "code", ← text? j "site", ← text? j "trace"⟩

def callError? (j : Json) : Option CallError := (failureAt? "error" j).map Failure.toError

def failure? (j : Json) : Option Failure := failureAt? "kind" j

/-- A result, or an error where there is one. -/
def resultOr? {α ε : Type} (fail : Json → Option ε) (read : Json → Option α) (j : Json) :
    Option (Except ε α) :=
  match j.member? "error" with
  | some _ => (fail j).map .error
  | none => (read j).map .ok

end StructuredSql.Transcript
