-- Data as a document or a message spells it, before any type is read out of
-- it: scalars, lists, and maps whose keys may be any data.
import StructuredSql.Double.Basic

namespace StructuredSql

/-- Forms of a whole number that do not stand for a position everywhere. -/
inductive WholeForm
  /-- In 16 or 32 bits, without a sign. -/
  | middle
  /-- With a sign, in any width. -/
  | signed
deriving DecidableEq, Repr

inductive Datum
  | null
  | bool (b : Bool)
  | int (i : Int)
  /-- A whole number in one of the special forms. -/
  | formed (form : WholeForm) (i : Int)
  | float (x : Double)
  | string (s : String)
  /-- Octets, which may spell a text or stand for a list of numbers. -/
  | bytes (bs : List UInt8)
  /-- A text that is no UTF-8. -/
  | garbled
  | list (items : List Datum)
  | map (entries : List (Datum × Datum))
  /-- Anything that can only be passed over. -/
  | extension
deriving Inhabited

namespace Datum

mutual

/-- How many lists and maps stand inside each other. -/
def depth : Datum → Nat
  | .list items => depthOfItems items + 1
  | .map entries => depthOfEntries entries + 1
  | _ => 0
termination_by structural d => d

def depthOfItems : List Datum → Nat
  | [] => 0
  | d :: rest => max d.depth (depthOfItems rest)
termination_by structural items => items

def depthOfEntries : List (Datum × Datum) → Nat
  | [] => 0
  | (k, d) :: rest => max (max k.depth d.depth) (depthOfEntries rest)
termination_by structural entries => entries

end

/-- A map under the names of fields. -/
def record (fields : List (String × Datum)) : Datum :=
  .map (fields.map fun (k, d) => (.string k, d))

/-- A case that carries something: a map of one entry under the case's name. -/
def tagged (name : String) (content : Datum) : Datum := .map [(.string name, content)]

/-- A field that is left out when there is nothing in it. -/
def field? (name : String) (content : Option Datum) : List (String × Datum) :=
  (content.map fun d => (name, d)).toList

end Datum
end StructuredSql
