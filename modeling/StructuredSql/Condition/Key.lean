-- The keys of a condition tree. A key opens a group, or it names a column with
-- an operator and perhaps a second column.
import StructuredSql.Fault

namespace StructuredSql

/-- How the entries of a group are joined. -/
inductive Conjunction
  | and
  | or
deriving DecidableEq, Repr

def Conjunction.word : Conjunction → String
  | and => "AND"
  | or => "OR"

namespace ConditionKey

/-- The note that may follow the word of a group: blank space, a `#`, and the
rest of one line. -/
def isNote (s : List Char) : Bool :=
  match s with
  | [] => true
  | c :: _ =>
    Unicode.isBlank c &&
      match Text.trimStart s with
      | '#' :: note => !note.contains '\n'
      | _ => false

/-- The conjunction of a key that opens a group. -/
def group? (key : String) : Option Conjunction :=
  match key.toList with
  | 'A' :: 'N' :: 'D' :: s => if isNote s then some .and else none
  | 'O' :: 'R' :: s => if isNote s then some .or else none
  | _ => none

/-- A key that is split at its brackets. The column and the other column are
not yet known to be names. -/
structure Parts where
  column : String
  op? : Option String
  other? : Option String
deriving DecidableEq, Repr

/-- A part of a column reference, or the point of a qualified one. -/
def isReferencePart (c : Char) : Bool := Name.isPart c || c == '.'

/-- The longest reference at the head of the text, and what follows it. -/
def takeReference? : List Char → Option (List Char × List Char)
  | [] => none
  | c :: s =>
    if Name.isStart c then some (c :: s.takeWhile isReferencePart, s.dropWhile isReferencePart)
    else none

/-- The texts before and after the last closing bracket. -/
def splitLastBracket? (s : List Char) : Option (List Char × List Char) :=
  match s.reverse.dropWhile (· ≠ ']') with
  | _ :: r => some (r.reverse, (s.reverse.takeWhile (· ≠ ']')).reverse)
  | [] => none

/-- An operator in brackets, if one stands here, and what follows it. It ends at
the last closing bracket, is not empty, and holds no line break. -/
def takeOperator? (s : List Char) : Option (Option String × List Char) :=
  match s with
  | '[' :: r =>
    match splitLastBracket? r with
    | some (op, rest) =>
      if op = [] ∨ op.contains '\n' then none else some (some (String.ofList op), rest)
    | none => none
  | _ => some (none, s)

/-- Nothing, or one reference that reaches to the end. -/
def takeOther? (s : List Char) : Option (Option String) :=
  match s with
  | [] => some none
  | s =>
    match takeReference? s with
    | some (other, []) => some (some (String.ofList other))
    | _ => none

/-- `column`, `column[op]` or `column[op]other`, with blank space between the
parts. -/
def split? (key : String) : Option Parts := do
  let (column, s) ← takeReference? key.toList
  let (op?, s) ← takeOperator? (Text.trimStart s)
  let other? ← takeOther? (Text.trimStart s)
  return ⟨String.ofList column, op?, other?⟩

end ConditionKey

/-! ## Operators -/

/-- An order comparison. -/
inductive Order
  | above
  | atLeast
  | below
  | atMost
deriving DecidableEq, Repr

def Order.sign : Order → String
  | above => ">"
  | atLeast => ">="
  | below => "<"
  | atMost => "<="

/-- What a condition asks of its column. -/
inductive Operator
  | equal (negated : Bool)
  | order (o : Order)
  | like (negated : Bool)
  | between (negated : Bool)
  | regexp
deriving DecidableEq, Repr

/-- The operator that stands between the brackets; none asks for equality. -/
def Operator.ofText? : Option String → Option Operator
  | none => some (.equal false)
  | some "=" => some (.equal false)
  | some "!" => some (.equal true)
  | some ">" => some (.order .above)
  | some ">=" => some (.order .atLeast)
  | some "<" => some (.order .below)
  | some "<=" => some (.order .atMost)
  | some "~" => some (.like false)
  | some "!~" => some (.like true)
  | some "<>" => some (.between false)
  | some "><" => some (.between true)
  | some "REGEXP" => some .regexp
  | some _ => none

/-- The operators that compare two columns. -/
def columnComparisons : List String := [">", ">=", "<", "<=", "=", "!="]

/-- A key that has been read. -/
inductive ConditionKey
  /-- A column and what is asked of it. -/
  | value (column : ColumnName) (op : Operator)
  /-- Two columns and the sign between them. -/
  | columns (left : ColumnName) (sign : String) (right : ColumnName)
deriving DecidableEq, Repr

/-- The reading of a key that opens no group. -/
def ConditionKey.read (key : String) : Except Fault ConditionKey :=
  match ConditionKey.split? key with
  | none => .error (.conditionKey key)
  | some parts => do
    let column ← columnName parts.column
    match parts.other?, parts.op? with
    | some other, some sign =>
      if columnComparisons.contains sign then return .columns column sign (← columnName other)
      else throw (.columnComparison key)
    | some _, none => throw (.columnComparison key)
    | none, op? =>
      match Operator.ofText? op? with
      | some op => return .value column op
      | none => throw (.operator (op?.getD "") column)

end StructuredSql
