-- A failure as a host describes it to its caller.
import StructuredSql.CallError
import StructuredSql.Datum.Reading

namespace StructuredSql

structure Failure where
  kind : ErrorKind
  message : String
  code : Option String
  /-- The host and the command that failed. -/
  site : Option String
  trace : Option String
deriving DecidableEq, Repr

/-- What a host broke down with. -/
inductive Breakdown
  | text (s : String)
  | other
deriving DecidableEq, Repr

namespace Failure

/-- The description of an error that was met at the site. -/
def ofError (e : CallError) (site : Option String) : Failure :=
  ⟨e.kind, e.reason, e.code?, site, e.trace?⟩

/-- The description of a breakdown at the site. `stack` is where it happened. -/
def ofBreakdown (b : Breakdown) (site : Option String) (stack : String) : Failure :=
  let what := match b with
    | .text s => s
    | .other => "non-string panic payload"
  ⟨.internal, "host panicked: " ++ what, none, site, some stack⟩

/-- The error that a failure describes; the site is not part of it. -/
def toError (f : Failure) : CallError :=
  match f.kind with
  | .validation => .validation f.message
  | .compile => .compile f.message
  | .engine => .engine f.message f.code f.trace
  | .transport => .transport f.message
  | .timeout => .timeout f.message
  | .noTransaction => .noTransaction
  | .transactionOpen => .transactionOpen
  | .internal => .internal f.message

/-- The description of an error gives it back. -/
theorem toError_ofError (e : CallError) (site : Option String) :
    (ofError e site).toError = e := by
  cases e <;> rfl

def toDatum (f : Failure) : Datum :=
  .record ([("kind", .string f.kind.name), ("message", .string f.message)]
    ++ Datum.field? "code" (f.code.map .string)
    ++ Datum.field? "site" (f.site.map .string)
    ++ Datum.field? "trace" (f.trace.map .string))

def ofDatum? (src : Source) (room : Nat) (d : Datum) : Option Failure := do
  let (_, slots) ← Datum.record? src ["kind", "message", "code", "site", "trace"] false room d
  match slots with
  | [some kind, some message, code, site, trace] =>
    return ⟨← Datum.choice? src ErrorKind.table kind, ← message.text?,
      ← Datum.optional? Datum.text? code, ← Datum.optional? Datum.text? site,
      ← Datum.optional? Datum.text? trace⟩
  | _ => none

end Failure
end StructuredSql
