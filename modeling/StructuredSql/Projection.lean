-- The shape of results. Rows come from the engine flat, under the names of their
-- columns; a projection gives them back in the shape of the column spec.
import StructuredSql.Column.Item
import StructuredSql.Stored.Structured

namespace StructuredSql

/-- A column that is read from a row. -/
structure Leaf where
  key : String
  type? : Option ColumnType
  /-- The column is computed by a fragment. -/
  computed : Bool
deriving DecidableEq, Repr

/-- A part of the shape of a row. -/
inductive Node
  | leaf (leaf : Leaf)
  | group (name : String) (children : List Node)
  /-- All columns of the row that are not there yet. -/
  | star

/-- The shape of a result. -/
inductive Shape
  /-- Rows as they come. -/
  | all
  /-- One cell of each row. -/
  | single (leaf : Leaf)
  | rows (nodes : List Node)
  /-- One entry for each content of the index column. -/
  | grouped (index : String) (nodes : List Node)

namespace Leaf

def ofItem (i : ColumnItem) : Leaf := ⟨i.resultKey, i.type?, false⟩

/-- The key of a computed column. -/
def ofKey (i : ColumnItem) : Leaf := ⟨i.column.name, i.type?, true⟩

/-- The whole number of a cell that is cast to one: a fraction is cut off, and
what is no number is 0. -/
def wholeNumber (v : Value) : Int64 :=
  match v.toInt64? with
  | some i => i
  | none =>
    match v.toDouble? with
    | some x => x.toInt64
    | none => 0

/-- A cell other than null under a declared type, with the floats of a document as the reader
of JSON takes them. -/
def castBy (floats : Json.FloatReader) (type : ColumnType) (v : Value) : Value :=
  match type with
  | .string => v
  | .number => .float (v.toDouble?.getD (Double.zero false))
  | .int => .int (wholeNumber v)
  | .bool => .bool v.isTruthy
  | .object => (Structured.parse? v.toText).getD .null
  | .json => ((Json.parseBy? floats Json.maxDepth v.toText).map Value.ofJson).getD .null

/-- The type is one that decodes text. -/
def decodes : ColumnType → Bool
  | .object => true
  | .json => true
  | _ => false

/-- The cell of a row under the leaf's type. Null stays null, and a computed
column that would have to be decoded is left out. -/
def readBy? (floats : Json.FloatReader) (l : Leaf) (row : Fields) : Option Value :=
  let v := (Entries.get? row l.key).getD .null
  match l.type? with
  | none => some v
  | some type =>
    if l.computed && decodes type then none
    else if v.isNull then some .null
    else some (castBy floats type v)

def read? : Leaf → Fields → Option Value := readBy? Json.bestEffort

end Leaf

namespace Node

mutual

/-- The parts of the shape that a spec asks for. -/
def ofSpec : Value → Except Fault (List Node)
  | .string s =>
    if s.toList.contains '*' then .ok [.star]
    else (ColumnItem.parse s).map fun i => [.leaf (.ofItem i)]
  | .array items => ofItems items
  | .object fields => ofFields fields
  | _ => .ok []
termination_by structural v => v

def ofItems : List Value → Except Fault (List Node)
  | [] => .ok []
  | v :: rest => do
    let nodes ← ofSpec v
    return nodes ++ (← ofItems rest)
termination_by structural items => items

def ofFields : List (String × Value) → Except Fault (List Node)
  | [] => .ok []
  | (key, v) :: rest => do
    let nodes ← match v with
      | .raw _ => (ColumnItem.parseKey key).map fun i => [.leaf (.ofKey i)]
      | .array _ => do
        let children ← ofSpec v
        pure [.group key children]
      | .object _ => do
        let children ← ofSpec v
        pure [.group key children]
      | _ => pure []
    return nodes ++ (← ofFields rest)
termination_by structural fields => fields

end

mutual

/-- One part of a row's shape, added to what is there. -/
def add (row : Fields) (out : Fields) : Node → Fields
  | .leaf l =>
    match l.read? row with
    | some v => Entries.insert out l.key v
    | none => out
  | .group name children => Entries.insert out name (.object (addAll row [] children))
  | .star => row.foldl (fun out e =>
      if Entries.contains out e.1 then out else Entries.insert out e.1 e.2) out
termination_by structural n => n

def addAll (row : Fields) (out : Fields) : List Node → Fields
  | [] => out
  | n :: rest => addAll row (add row out n) rest
termination_by structural nodes => nodes

end

/-- A row in the shape of the nodes. -/
def walk (nodes : List Node) (row : Fields) : Fields := addAll row [] nodes

end Node

namespace Shape

/-- All columns of the query, or of one table. -/
def isStar (s : String) : Bool :=
  s = "*" || (match s.toList.reverse with
    | '*' :: '.' :: _ => true
    | _ => false)

/-- The shape that a column spec asks for. -/
def ofSpec : Value → Except Fault Shape
  | .string s =>
    if isStar s then .ok .all
    else (ColumnItem.parse s).map fun i => .single (.ofItem i)
  | .array items => (Node.ofItems items).map .rows
  | .object [(key, nested)] =>
    if nested.isContainer then (Node.ofSpec nested).map (.grouped (afterLastPoint key))
    else (Node.ofFields [(key, nested)]).map .rows
  | .object fields => (Node.ofFields fields).map .rows
  | _ => .ok .all

def isPassThrough : Shape → Bool
  | all => true
  | _ => false

/-- One row in the shape. -/
def row (shape : Shape) (fields : Fields) : Value :=
  match shape with
  | all => .object fields
  | single leaf => (leaf.read? fields).getD .null
  | rows nodes => .object (Node.walk nodes fields)
  | grouped _ nodes => .object (Node.walk nodes fields)

/-- A row that may be missing; a missing one is null. -/
def row? (shape : Shape) : Option Fields → Value
  | some fields => shape.row fields
  | none => .null

/-- The text under which a grouped row stands. -/
def groupKey (index : String) (fields : Fields) : String :=
  ((Entries.get? fields index).map Value.toText).getD ""

/-- All rows in the shape: one after the other, or each under its group key. -/
def result (shape : Shape) (table : List Fields) : Value :=
  match shape with
  | all => .array (table.map .object)
  | single leaf => .array (table.map fun fields => (leaf.read? fields).getD .null)
  | rows nodes => .array (table.map fun fields => .object (Node.walk nodes fields))
  | grouped index nodes =>
    .object (table.foldl (fun grouped fields =>
      Entries.insert grouped (groupKey index fields) (.object (Node.walk nodes fields))) [])

end Shape
end StructuredSql
