-- The tables of a TOML document while it is read: which may still be added to,
-- and by what.
import StructuredSql.Datum.Basic
import StructuredSql.Entries

namespace StructuredSql.Toml

/-- How a table came to be. -/
inductive Origin
  /-- It has a header of its own, or is the whole document. -/
  | header
  /-- It was only named on the way to another table. -/
  | implied
  /-- It was only named in a dotted key. -/
  | dotted
deriving DecidableEq, Repr

inductive Node
  /-- A value that nothing can be added to. -/
  | value (d : Datum)
  | table (origin : Origin) (entries : List (String × Node))
  /-- Tables under one header, at least one. -/
  | tables (items : List (List (String × Node)))
deriving Inhabited

/-- The entries of a table. -/
abbrev Nodes := Entries Node

mutual

def Node.toDatum : Node → Datum
  | .value d => d
  | .table _ entries => .map (entriesToData entries)
  | .tables items => .list (tablesToData items)
termination_by structural n => n

def entriesToData : List (String × Node) → List (Datum × Datum)
  | [] => []
  | (k, n) :: rest => (.string k, n.toDatum) :: entriesToData rest
termination_by structural entries => entries

def tablesToData : List (List (String × Node)) → List Datum
  | [] => []
  | entries :: rest => .map (entriesToData entries) :: tablesToData rest
termination_by structural items => items

end

/-- A change of the last table in a row. -/
def changeLast {α : Type} (f : α → Option α) : List α → Option (List α)
  | [] => none
  | [a] => (f a).map fun a => [a]
  | a :: b :: rest => (changeLast f (b :: rest)).map fun as => a :: as

/-! ## Headers -/

/-- A change of the table that a header's path leads to; tables on the way come
to be as they are needed, and of tables in a row the last is meant. -/
def atHeader (change : Nodes → Option Nodes) : List String → Nodes → Option Nodes
  | [], entries => change entries
  | k :: path, entries =>
    match Entries.get? entries k with
    | none => (atHeader change path []).map fun es => Entries.insert entries k (.table .implied es)
    | some (.table origin inner) =>
      (atHeader change path inner).map fun es => Entries.insert entries k (.table origin es)
    | some (.tables items) =>
      (changeLast (atHeader change path) items).map fun is =>
        Entries.insert entries k (.tables is)
    | some (.value _) => none

/-- A table gets its header. It had none before, though it may have been named
on the way to another. -/
def openTable (key : String) (entries : Nodes) : Option Nodes :=
  match Entries.get? entries key with
  | none => some (Entries.insert entries key (.table .header []))
  | some (.table .implied inner) => some (Entries.insert entries key (.table .header inner))
  | some _ => none

/-- One more table in a row. -/
def appendTable (key : String) (entries : Nodes) : Option Nodes :=
  match Entries.get? entries key with
  | none => some (Entries.insert entries key (.tables [[]]))
  | some (.tables items) => some (Entries.insert entries key (.tables (items ++ [[]])))
  | some _ => none

/-! ## Keys -/

/-- A new key with its value. -/
def assign (key : String) (d : Datum) (entries : Nodes) : Option Nodes :=
  if Entries.contains entries key then none else some (Entries.insert entries key (.value d))

/-- A new key under a dotted path. The path leads through tables without a header,
and the last of them was named in dotted keys only. -/
def assignAt (key : String) (d : Datum) : List String → Nodes → Option Nodes
  | [], entries => assign key d entries
  | k :: path, entries =>
    match Entries.get? entries k with
    | none =>
      (assignAt key d path []).map fun es => Entries.insert entries k (.table .dotted es)
    | some (.table origin inner) =>
      if origin = .header ∨ (path = [] ∧ origin ≠ .dotted) then none
      else (assignAt key d path inner).map fun es =>
        Entries.insert entries k (.table origin es)
    | some (.tables items) =>
      if path = [] then none
      else (changeLast (assignAt key d path) items).map fun is =>
        Entries.insert entries k (.tables is)
    | some (.value _) => none

end StructuredSql.Toml
