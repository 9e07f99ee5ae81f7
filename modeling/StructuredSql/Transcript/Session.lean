-- Scripts and records of engines, hosts and transports in transcripts.
import StructuredSql.Engine.Basic
import StructuredSql.Engine.Scripted
import StructuredSql.Database.Basic
import StructuredSql.Transport.Basic
import StructuredSql.FileTree
import StructuredSql.Transcript.Message

namespace StructuredSql.Transcript

/-! ## Files -/

/-- A file by its text or its octets, or a directory. -/
def fileEntry? : Json → Option FileEntry
  | .null => some .directory
  | .string s => some (.file (Text.Utf8.encode s))
  | j => (j.required? octets? "hex").map .file

/-- Files under their paths. -/
def files? : Json → Option FileTree
  | .object members => do
    let entries ← members.mapM fun (path, j) => do
      return ((path.splitOn "/").filter (· ≠ ""), ← fileEntry? j)
    return ⟨entries⟩
  | _ => none

/-! ## Engines -/

/-- What an engine answers; what is absent is empty. -/
def script? (j : Json) : Option Script := do
  return {
    results := ← j.default? (Json.list? (resultOr? error? rowSet?)) "results" []
    batches := ← j.default? (Json.list? (resultOr? error? fun _ => some ())) "batches" []
    lastId := ← j.default? (resultOr? error? value?) "last_id" (.ok .null)
    info := ← j.default? info? "info" ⟨"", "", "", "", "", ""⟩ }

def engineRequest (r : EngineRequest) : Json :=
  .array (match r with
    | .execute sql ps => [.string "execute", .string sql, params ps]
    | .batch sql => [.string "batch", .string sql]
    | .begin => [.string "batch", .string "BEGIN"]
    | .commit => [.string "batch", .string "COMMIT"]
    | .rollback => [.string "batch", .string "ROLLBACK"]
    | .lastId sequence => [.string "last_insert_id", optional .string sequence])

def softError (e : SoftError) : Json := .array [optional .string e.code, .string e.message]

/-! ## Transports -/

def shutdown (how : Shutdown) : Json := .string how.name

/-- A way to end, or an error. -/
def shutdown? : Json → Option (Except CallError Shutdown)
  | .string name => (Shutdown.table.lookup name).map .ok
  | j => (callError? j).map .error

def reply? : Json → Option Reply
  | .string "hang" => some .hang
  | .object [("fail", j)] => (callError? j).map .fail
  | .object [("die", j)] => (reply? j).map .die
  | j => (response? j).map .response
termination_by j => sizeOf j

def replies? (j : Json) : Option Replies := do
  return {
    replies := ← j.default? (Json.list? reply?) "replies" []
    shutdowns := ← j.default? (Json.list? shutdown?) "shutdowns" []
    isAlive := !(← j.default? Json.bool? "dead" false)
    asked := [] }

def asked : Asked → Json
  | .request r => request r
  | .shutdown milliseconds => .object [("shutdown_ms", .int milliseconds)]

/-! ## Hosts -/

/-- A host's name is random, so a failure is shown with a fixed one. -/
def anonymous : Response → Response
  | .failure f =>
    let site := f.site.map fun s => String.ofList ("HOST".toList ++ s.toList.dropWhile (· ≠ '/'))
    .failure { f with site := site }
  | r => r

/-- What arrives at a host: a request, or the failure of its channel. -/
def arrival? : Json → Option (Except CallError Request)
  | .object [("fail", j)] => (callError? j).map .error
  | j => (request? j).map .ok

end StructuredSql.Transcript
