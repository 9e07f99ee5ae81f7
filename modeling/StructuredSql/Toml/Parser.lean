-- Reading a TOML document, line by line.
import StructuredSql.Toml.Quoted
import StructuredSql.Toml.Number
import StructuredSql.Toml.Table

namespace StructuredSql.Toml

/-! ## Blank space -/

/-- Blank space, line ends and comments. -/
def skipBlank : Bool → List Char → List Char
  | _, '\n' :: s => skipBlank false s
  | _, '\r' :: '\n' :: s => skipBlank false s
  | comment, c :: s =>
    if comment then (if isPlain c then skipBlank true s else c :: s)
    else if isSpace c then skipBlank false s
    else if c = '#' then skipBlank true s
    else c :: s
  | _, [] => []

/-- What follows a comment, if there is one. -/
def skipComment : List Char → List Char
  | '#' :: s => s.dropWhile isPlain
  | s => s

/-- The next line: nothing but blank space and a comment may stand before it. -/
def lineEnd? (s : List Char) : Option (List Char) :=
  match skipComment (skipSpace s) with
  | [] => some []
  | s => newline? s

/-! ## Keys -/

/-- How many parts a key may have, and how many containers may nest. -/
def maxDepth : Nat := 79

def isBare (c : Char) : Bool := c.isAlphanum || c == '_' || c == '-'

/-- One part of a key. -/
def keyPart? (s : List Char) : Option (String × List Char) :=
  match s.takeWhile isBare with
  | [] => (lineString? s).map fun (k, rest) => (String.ofList k, rest)
  | k => some (String.ofList k, s.dropWhile isBare)

/-- The parts of a dotted key, and what follows its blank space. -/
def key? : Nat → List Char → Option (List String × List Char)
  | 0, _ => none
  | parts + 1, s =>
    match keyPart? (skipSpace s) with
    | none => none
    | some (k, rest) =>
      match skipSpace rest with
      | '.' :: rest => (key? parts rest).map fun (ks, r) => (k :: ks, r)
      | rest => some ([k], rest)

/-- A key and what follows the sign behind it. -/
def keyOf? (s : List Char) : Option (List String × List Char) :=
  match key? maxDepth s with
  | some (path, '=' :: rest) => some (path, skipSpace rest)
  | _ => none

/-- The path of a dotted key and its last part. -/
def splitLast : List String → Option (List String × String)
  | [] => none
  | [k] => some ([], k)
  | k :: l :: rest => (splitLast (l :: rest)).map fun (path, last) => (k :: path, last)

/-- An entry is added to a table. -/
def addEntry (path : List String) (d : Datum) (entries : Nodes) : Option Nodes :=
  (splitLast path).bind fun (path, key) => assignAt key d path entries

/-! ## Values -/

mutual

/-- A value at the head of the text. `depth` more containers may be opened; the
fuel bounds the calls. -/
def value? : Nat → Nat → List Char → Option (Datum × List Char)
  | 0, _, _ => none
  | fuel + 1, depth, s =>
    match s with
    | 't' :: 'r' :: 'u' :: 'e' :: s => some (.bool true, s)
    | 'f' :: 'a' :: 'l' :: 's' :: 'e' :: s => some (.bool false, s)
    | '[' :: s =>
      match depth with
      | 0 => none
      | depth + 1 => (items? fuel depth (skipBlank false s)).map fun (ds, r) => (.list ds, r)
    | '{' :: s =>
      match depth with
      | 0 => none
      | depth + 1 =>
        match skipSpace s with
        | '}' :: r => some (.map [], r)
        | s => (pairs? fuel depth [] s).map fun (es, r) => (.map (entriesToData es), r)
    | s =>
      match string? s with
      | some (t, r) => some (.string (String.ofList t), r)
      | none => (moment? s).or (number? s)

/-- The items of an array up to its closing bracket. A comma may end them. -/
def items? : Nat → Nat → List Char → Option (List Datum × List Char)
  | 0, _, _ => none
  | fuel + 1, depth, s =>
    match s with
    | ']' :: r => some ([], r)
    | s =>
      match value? fuel depth s with
      | none => none
      | some (d, s) =>
        match skipBlank false s with
        | ',' :: s =>
          (items? fuel depth (skipBlank false s)).map fun (ds, r) => (d :: ds, r)
        | ']' :: r => some ([d], r)
        | _ => none

/-- The entries of an inline table, one or more, up to its closing brace. -/
def pairs? : Nat → Nat → Nodes → List Char → Option (Nodes × List Char)
  | 0, _, _, _ => none
  | fuel + 1, depth, entries, s =>
    match keyOf? s with
    | none => none
    | some (path, s) =>
      match value? fuel depth s with
      | none => none
      | some (d, s) =>
        match addEntry path d entries with
        | none => none
        | some entries =>
          match skipSpace s with
          | ',' :: s => pairs? fuel depth entries s
          | '}' :: r => some (entries, r)
          | _ => none

end

/-! ## Lines -/

/-- What has been read: the whole document, and the path of the table that
entries belong to. -/
structure Document where
  root : Nodes
  path : List String

/-- The path of a header up to its closing bracket. -/
def header? (s : List Char) : Option (List String × List Char) :=
  match key? maxDepth s with
  | some (path, ']' :: rest) => some (path, rest)
  | _ => none

/-- A header changes the table that it names, and entries go there from now on. -/
def Document.enter (doc : Document) (change : String → Nodes → Option Nodes)
    (path : List String) : Option Document :=
  (splitLast path).bind fun (above, key) =>
    (atHeader (change key) above doc.root).map fun root => ⟨root, path⟩

/-- A header or an entry, and what follows on its line. -/
def Document.read? (doc : Document) (fuel : Nat) (s : List Char) :
    Option (Document × List Char) :=
  match s with
  | '[' :: '[' :: s =>
    match header? s with
    | some (path, ']' :: rest) => (doc.enter appendTable path).map fun doc => (doc, rest)
    | _ => none
  | '[' :: s =>
    match header? s with
    | some (path, rest) => (doc.enter openTable path).map fun doc => (doc, rest)
    | none => none
  | s =>
    match keyOf? s with
    | none => none
    | some (path, s) =>
      match value? fuel maxDepth s with
      | none => none
      | some (d, rest) =>
        (atHeader (addEntry path d) doc.path doc.root).map fun root =>
          (⟨root, doc.path⟩, rest)

/-- All lines. Each takes a character at least, so the length is fuel enough. -/
def Document.readAll? : Nat → Document → List Char → Option Document
  | 0, _, _ => none
  | fuel + 1, doc, s =>
    match skipBlank false s with
    | [] => some doc
    | s =>
      match doc.read? (2 * s.length + 2) s with
      | none => none
      | some (doc, rest) => (lineEnd? rest).bind fun rest => doc.readAll? fuel rest

/-- The text without the mark that may stand before it. -/
def withoutMark : List Char → List Char
  | '\uFEFF' :: s => s
  | s => s

/-- The data of a document. -/
def parse? (text : String) : Option Datum :=
  let s := withoutMark text.toList
  (Document.readAll? (s.length + 1) ⟨[], []⟩ s).map fun doc => .map (entriesToData doc.root)

end StructuredSql.Toml
