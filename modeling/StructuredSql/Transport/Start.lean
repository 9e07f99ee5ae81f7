-- Hosts are started where the options ask for them.
import StructuredSql.Transport.Hosted

namespace StructuredSql

/-- A program that can be started. -/
inductive Program
  | worker
  | echo
deriving DecidableEq, Repr

namespace Program

def child {σ : Type} : Program → Child σ
  | worker => .worker .waiting
  | echo => .echo

end Program

/-- Where hosts are started: the files in the working directory, and the programs
that are found at absolute paths. -/
structure Surroundings where
  files : FileTree
  programs : Entries Program

namespace Surroundings

variable {σ : Type}

def cannotStart (path reason : String) : CallError :=
  .transport s!"failed to start {path}: {reason}"

/-- Why nothing can be started at a path. A path of one name is looked for among
the programs alone, where a point or two are directories, and no file in the working
directory is a program. -/
def obstacle (s : Surroundings) (path : String) : String :=
  if path.toList.contains '\x00' then "nul byte found in provided data"
  else if path.toList.contains '/' then
    match s.files.read path with
    | .ok _ => FileError.notExecutable.message
    | .error .isDirectory => FileError.notExecutable.message
    | .error e => e.message
  else if path = "." ∨ path = ".." then FileError.notExecutable.message
  else if FileTree.maxName < path.utf8ByteSize then FileError.nameTooLong.message
  else FileError.notFound.message

/-- The process of the program at a path. -/
def start (s : Surroundings) (path : String) : Except CallError (Process σ) :=
  match s.programs.get? path with
  | some program => .ok ⟨program.child, true⟩
  | none => .error (cannotStart path (s.obstacle path))

/-- The host that options ask for. Without a path the bundled worker is started. -/
def startHost (s : Surroundings) (options : Options) : Except CallError (Hosted σ) :=
  match options.isolation with
  | .thread => .ok (.thread .start)
  | .process none => .ok (.process ⟨Program.worker.child, true⟩)
  | .process (some path) => (s.start path).map .process

end Surroundings

end StructuredSql
