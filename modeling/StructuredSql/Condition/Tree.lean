-- Condition trees as SQL. Entries are joined by the conjunction of their group,
-- and every group inside stands in parentheses.
import StructuredSql.Condition.Key
import StructuredSql.Marker

namespace StructuredSql

/-! ## Wildcards of LIKE -/

namespace Wildcard

/-- A sign that is a wildcard by itself. -/
def isSign (c : Char) : Bool :=
  c == '%' || c == '_' || c == '*' || c == '?' || c == '!' || c == '#' || c == '^'

/-- A closing bracket that no backslash stands before. -/
def closes (before : Char) : List Char → Bool
  | [] => false
  | c :: s => (c == ']' && before != '\\') || closes c s

/-- A class at an opening bracket: one character or more, and a closing
bracket. -/
def opensClass : List Char → Bool
  | c :: s => closes c s
  | [] => false

/-- A wildcard stands in the text behind the character `before`. -/
def occursBehind (before : Char) : List Char → Bool
  | [] => false
  | c :: s =>
    (before != '\\' && (isSign c || (c == '[' && opensClass s))) || occursBehind c s

/-- The pattern holds a wildcard with no backslash before it. -/
def occurs (pattern : String) : Bool := occursBehind ' ' pattern.toList

/-- The pattern itself if it holds a wildcard, else the pattern anywhere in a
text. -/
def around (pattern : String) : String :=
  if occurs pattern then pattern else "%" ++ pattern ++ "%"

end Wildcard

namespace Condition

def notWord (negated : Bool) : String := if negated then " NOT" else ""

def equalSign (negated : Bool) : String := if negated then " != " else " = "

/-! ## One condition -/

/-- A null, one of a list, what a fragment gives, or one scalar. -/
def equality (column : ColumnName) (negated : Bool) (v : Value) : Build Sql :=
  match v with
  | .null => pure (column.sql ++ Sql.text s!" IS{notWord negated} NULL")
  | .array items =>
    if items.isEmpty then Build.fail (.emptyIn column)
    else do
      let bound ← Build.each Build.scalar items
      return column.sql ++ .text s!"{notWord negated} IN (" ::
        (Sql.joinWith ", " bound ++ Sql.text ")")
  | .raw raw => return column.sql ++ .text (equalSign negated) :: (← Build.fragment raw)
  | .object _ => Build.fail (.mapComparison column)
  | v => return column.sql ++ .text (equalSign negated) :: (← Build.scalar v)

/-- The right side of an order comparison. Numbers are compared as numbers, other
scalars as they are. -/
def comparand (column : ColumnName) (v : Value) : Build Sql :=
  match v with
  | .raw raw => Build.fragment raw
  | .array _ => Build.fail (.containerComparison column v.type)
  | .object _ => Build.fail (.containerComparison column v.type)
  | v => if v.isNumeric then Build.number v else Build.scalar v

def comparison (column : ColumnName) (order : Order) (v : Value) : Build Sql :=
  return column.sql ++ .text s!" {order.sign} " :: (← comparand column v)

/-- The patterns of a LIKE and the conjunction between them. -/
def likePatterns? : Value → Option (Conjunction × List Value)
  | .array items => some (.or, items)
  | .object [("AND", .array items)] => some (.and, items)
  | .object [("OR", .array items)] => some (.or, items)
  | .object _ => none
  | v => some (.or, [v])

def like (column : ColumnName) (negated : Bool) (v : Value) : Build Sql :=
  match likePatterns? v with
  | none => Build.fail (.likeShape column)
  | some (_, []) => Build.fail (.emptyLike column)
  | some (conjunction, items) => do
    let clauses ← Build.each (fun item =>
      if item.isContainer || item.isRaw then Build.fail (.likeItem column)
      else do
        let bound ← Build.text (Wildcard.around item.toText)
        return column.sql ++ .text s!"{notWord negated} LIKE " :: bound) items
    return Sql.parens (Sql.joinWith s!" {conjunction.word} " clauses)

/-- The two bounds: both fragments, both numbers, or both texts. -/
def bounds (column : ColumnName) (low high : Value) : Build (Sql × Sql) :=
  match low, high with
  | .raw a, .raw b => return (← Build.fragment a, ← Build.fragment b)
  | a, b =>
    if a.isNumeric && b.isNumeric then return (← Build.number a, ← Build.number b)
    else if a.isContainer || b.isContainer || a.isRaw || b.isRaw then
      Build.fail (.betweenBounds column)
    else return (← Build.text a.toText, ← Build.text b.toText)

def between (column : ColumnName) (negated : Bool) (v : Value) : Build Sql :=
  match v with
  | .array [low, high] => do
    let (a, b) ← bounds column low high
    return Sql.parens (column.sql ++ .text s!"{notWord negated} BETWEEN " ::
      (a ++ .text " AND " :: b))
  | _ => Build.fail (.betweenShape column)

def regexp (column : ColumnName) (v : Value) : Build Sql :=
  if v.isContainer || v.isRaw || v.isNull then Build.fail (.regexpShape column)
  else return column.sql ++ .text " REGEXP " :: (← Build.text v.toText)

/-- What the operator asks of the column. -/
def ask (column : ColumnName) (op : Operator) (v : Value) : Build Sql :=
  match op with
  | .equal negated => equality column negated v
  | .order o => comparison column o v
  | .like negated => like column negated v
  | .between negated => between column negated v
  | .regexp => regexp column v

/-- The condition of a key that opens no group. -/
def single (key : String) (v : Value) : Build Sql := do
  match ← ConditionKey.read key with
  | .columns left sign right => return left.sql ++ .text s!" {sign} " :: right.sql
  | .value column op => ask column op v

/-! ## Groups -/

/-- Conditions side by side under one conjunction. -/
def joined (conjunction : Conjunction) (parts : List Sql) : Sql :=
  Sql.joinWith s!" {conjunction.word} " parts

/-- The conditions of a group, in parentheses. -/
def grouped (conjunction : Conjunction) (parts : Build (List Sql)) : Build Sql :=
  return Sql.parens (joined conjunction (← parts))

mutual

/-- The conditions inside a map or a list. -/
def inside : Value → Build (List Sql)
  | .object group => entries group
  | .array items => listed items
  | _ => pure []
termination_by structural v => v

/-- The conditions of a map, entry by entry. A key that names a group opens one
when its value is a map or a list. -/
def entries : List (String × Value) → Build (List Sql)
  | [] => pure []
  | (key, v) :: rest =>
    let first := match ConditionKey.group? key, v.isContainer with
      | some conjunction, true => grouped conjunction (inside v)
      | _, _ => single key v
    Build.cons first (entries rest)
termination_by structural es => es

/-- The conditions of a list: comparisons of columns, and maps whose entries
are joined by AND. -/
def listed : List Value → Build (List Sql)
  | [] => pure []
  | v :: rest =>
    let first := match v with
      | .string key => single key .null
      | .object _ => grouped .and (inside v)
      | .raw raw => Build.fragment raw
      | v => Build.fail (.groupEntry v.type)
    Build.cons first (listed rest)
termination_by structural vs => vs

end

/-- The conditions of a map under a conjunction. -/
def tree (conjunction : Conjunction) (fields : Fields) : Build Sql :=
  return joined conjunction (← entries fields)

end Condition

end StructuredSql
