-- Statements that make and remove tables, and statements written by the caller.
import StructuredSql.Statement.Template
import StructuredSql.Marker

namespace StructuredSql.Schema

/-! ## Definitions -/

/-- A definition's text with each name between angle brackets quoted. `opened`
holds, in reverse, the name behind an open bracket. -/
def quoteMarksFrom (opened : Option (List Char)) : List Char → List Char
  | [] =>
    match opened with
    | some read => '<' :: read.reverse
    | none => []
  | c :: s =>
    match opened with
    | none => if c = '<' then quoteMarksFrom (some []) s else c :: quoteMarksFrom none s
    | some read =>
      if c = '>' ∧ read ≠ [] then '"' :: (read.reverse ++ '"' :: quoteMarksFrom none s)
      else if (if read = [] then Name.isStart c else Name.isPart c) then
        quoteMarksFrom (some (c :: read)) s
      else if c = '<' then '<' :: (read.reverse ++ quoteMarksFrom (some []) s)
      else '<' :: (read.reverse ++ c :: quoteMarksFrom none s)

def quoteMarks (text : String) : String := String.ofList (quoteMarksFrom none text.toList)

/-- A column of a table under its name. -/
def namedColumn (entry : String × Value) : Build Sql := do
  let column ← columnSql entry.1
  match entry.2 with
  | .array parts => return column ++ Sql.text (" " ++ " ".intercalate (parts.map Value.toText))
  | .string s => return column ++ Sql.text (" " ++ s)
  | .raw raw => return column ++ .text " " :: (← Build.fragment raw)
  | v => Build.fail (.columnDefinition entry.1 v.type)

/-- A whole definition. -/
def definition (v : Value) : Build Sql :=
  match v with
  | .string s => pure (Sql.text (quoteMarks s))
  | .raw raw => Build.fragment raw
  | v => Build.fail (.tableDefinition v.type)

def definitions (columns : Value) : Build (List Sql) :=
  match columns with
  | .object fields => Build.each namedColumn fields
  | .array items => Build.each definition items
  | v => Build.fail (.createShape v.type)

/-! ## Options -/

/-- An option that is a text or a whole number. -/
def optionText? (entry : String × Value) : Option String :=
  match entry.2 with
  | .string s => some (entry.1 ++ " = " ++ s)
  | .int i => some (entry.1 ++ " = " ++ toString i.toInt)
  | _ => none

/-- The options behind a table, a blank before them. -/
def options (v? : Option Value) : Except Fault String :=
  match v? with
  | none => .ok ""
  | some .null => .ok ""
  | some (.object fields) => .ok (" " ++ ", ".intercalate (fields.filterMap optionText?))
  | some (.string s) => .ok (" " ++ s)
  | some v => .error (.tableOptions v.type)

/-! ## Statements -/

def create (d : Dialect) (table : String) (columns : Value) (options? : Option Value) :
    Build Sql := do
  let target ← tableSql table
  let parts ← definitions columns
  if parts.isEmpty then Build.fail .createNothing
  else do
    let tail ← options options?
    let command := if d.takesIfNotExists then "CREATE TABLE IF NOT EXISTS " else "CREATE TABLE "
    return .text command :: (target ++ .text " (" ::
      (Sql.joinWith ", " parts ++ Sql.text (")" ++ tail)))

def drop (table : String) : Build Sql := do
  let target ← tableSql table
  return .text "DROP TABLE IF EXISTS " :: target

end StructuredSql.Schema

namespace StructuredSql.Compiler

def create (c : Compiler) (table : String) (columns : Value) (options : Option Value) :
    Except Error Compiled :=
  c.compile (Schema.create c.dialect table columns options).template

def drop (c : Compiler) (table : String) : Except Error Compiled :=
  c.compile (Schema.drop table).template

/-- A statement of the caller's with its markers quoted. -/
def fragment (c : Compiler) (raw : Raw) : Except Error Compiled :=
  c.compile (Build.fragment raw).template

end StructuredSql.Compiler
