-- The files below a working directory, and what reading and writing them at a
-- path can fail with.
import StructuredSql.Text.Utf8

namespace StructuredSql

/-- Why a path could not be read or written. -/
inductive FileError
  | notFound
  | isDirectory
  | notDirectory
  | nameTooLong
  | notExecutable
  | notText
  | zeroInPath
deriving DecidableEq, Repr

def FileError.message : FileError → String
  | .notFound => "No such file or directory (os error 2)"
  | .isDirectory => "Is a directory (os error 21)"
  | .notDirectory => "Not a directory (os error 20)"
  | .nameTooLong => "File name too long (os error 36)"
  | .notExecutable => "Permission denied (os error 13)"
  | .notText => "stream did not contain valid UTF-8"
  | .zeroInPath => "file name contained an unexpected NUL byte"

inductive FileEntry
  | file (content : List UInt8)
  | directory
deriving DecidableEq, Repr

/-- Where something stands: the names that lead to it from the working directory.
Leading `..` lead above that directory, and the name `/` stands for the root. -/
abbrev Place := List String

/-- Files and directories at their places. A place that leads to another file is a
directory by that. -/
structure FileTree where
  entries : List (Place × FileEntry)

namespace FileTree

def empty : FileTree := ⟨[]⟩

/-! ## Places -/

def root : Place := ["/"]

/-- The directories that stand in every root. -/
def rootDirectories : List String :=
  ["bin", "dev", "etc", "home", "lib", "proc", "root", "sbin", "sys", "tmp", "usr", "var"]

/-- Directories that are there whatever the tree holds: the working directory, those
above it, the root and what every root has. -/
def isStanding (place : Place) : Bool :=
  place.all (· == "..") || place == root
    || rootDirectories.any fun name => place == root ++ [name]

/-- What stands at a place, if anything does. -/
def entry? (tree : FileTree) (place : Place) : Option FileEntry :=
  match tree.entries.lookup place with
  | some e => some e
  | none =>
    if isStanding place || tree.entries.any (fun e => place.isPrefixOf e.1) then some .directory
    else none

/-- The place above a place. Nothing is above the root. -/
def above (place : Place) : Place :=
  if place.all (· == "..") then place ++ [".."]
  else if place = root then root
  else place.dropLast

/-! ## Paths -/

/-- The names in a path; empty names between slashes mean nothing. -/
def names (path : String) : List String := (path.splitOn "/").filter (· ≠ "")

/-- A slash stands at the end. -/
def endsInSlash (path : String) : Bool := path.toList.getLast? == some '/'

/-- The place where a path begins. -/
def origin (path : String) : Place := if path.toList.head? = some '/' then root else []

/-- The longest name of one entry, in octets. -/
def maxName : Nat := 255

/-- The longest path, in octets. -/
def maxPath : Nat := 4095

/-- Where names lead from a place in the tree. Every place that is passed must be
a directory. -/
def follow (tree : FileTree) : List String → Place → Except FileError Place
  | [], place => .ok place
  | n :: rest, place =>
    match tree.entry? place with
    | none => .error .notFound
    | some (.file _) => .error .notDirectory
    | some .directory =>
      if n = "." then follow tree rest place
      else if n = ".." then follow tree rest (above place)
      else if maxName < n.utf8ByteSize then .error .nameTooLong
      else follow tree rest (place ++ [n])

/-- A path that says nothing about any place. -/
def malformed? (path : String) : Option FileError :=
  if path.toList.contains '\x00' then some .zeroInPath
  else if path = "" then some .notFound
  else if maxPath < path.utf8ByteSize then some .nameTooLong
  else none

/-- Where a path leads. A slash at the end asks for a directory. -/
def locate (tree : FileTree) (path : String) : Except FileError Place :=
  match malformed? path with
  | some e => .error e
  | none =>
    tree.follow (names path ++ if endsInSlash path then ["."] else []) (origin path)

/-- Where a path leads when a file is to be made there. A name with a slash behind
it can only be that of a directory, whatever stands there. -/
def locateNew (tree : FileTree) (path : String) : Except FileError Place :=
  match malformed? path, (names path).getLast? with
  | some e, _ => .error e
  | none, some last =>
    if endsInSlash path ∧ last ≠ "." ∧ last ≠ ".." then
      match tree.follow ((names path).dropLast ++ ["."]) (origin path) with
      | .ok _ => .error .isDirectory
      | .error e => .error e
    else tree.locate path
  | none, none => tree.locate path

/-! ## Reading -/

/-- The octets of the file at a path. -/
def read (tree : FileTree) (path : String) : Except FileError (List UInt8) :=
  match tree.locate path with
  | .error e => .error e
  | .ok place =>
    match tree.entry? place with
    | none => .error .notFound
    | some .directory => .error .isDirectory
    | some (.file content) => .ok content

/-- The text of the file at a path. -/
def readText (tree : FileTree) (path : String) : Except FileError String :=
  match tree.read path with
  | .error e => .error e
  | .ok content =>
    match Text.Utf8.decode? content with
    | some s => .ok s
    | none => .error .notText

/-- Something is at the path. -/
def exists? (tree : FileTree) (path : String) : Bool :=
  match tree.read path with
  | .ok _ => true
  | .error .isDirectory => true
  | .error _ => false

/-! ## Writing -/

/-- The tree with an entry at a place. -/
def put (tree : FileTree) (place : Place) (e : FileEntry) : FileTree :=
  ⟨(place, e) :: tree.entries.filter fun o => o.1 ≠ place⟩

/-- The tree with the text written to the file at a path. -/
def writeText (tree : FileTree) (path text : String) : Except FileError FileTree :=
  match tree.locateNew path with
  | .error e => .error e
  | .ok place =>
    match tree.entry? place with
    | some .directory => .error .isDirectory
    | _ => .ok (tree.put place (.file (Text.Utf8.encode text)))

end FileTree
end StructuredSql
