-- Finished statements: a template does not know the table prefix, a compiled
-- statement is its text under one.
import StructuredSql.Quote
import StructuredSql.Build

namespace StructuredSql

/-- A statement for every prefix, and the bindings of its placeholders. -/
structure Template where
  sql : Sql
  params : Params

/-- The text of a statement and the bindings of its placeholders. -/
structure Compiled where
  sql : String
  params : Params

/-- The text of a template under a prefix. -/
def Template.compiled (t : Template) (tablePrefix : String) : Compiled :=
  ⟨t.sql.render tablePrefix, t.params⟩

/-- The template of a build whose placeholders are numbered from zero. -/
def Build.template (build : Build Sql) : Except Fault Template :=
  match build 0 with
  | .ok (sql, bound) => .ok ⟨sql, Binding.params bound⟩
  | .error fault => .error fault

/-- A template under the compiler's prefix. -/
def Compiler.compile (c : Compiler) (result : Except Fault Template) : Except Error Compiled :=
  match result with
  | .ok t => .ok (t.compiled c.tablePrefix)
  | .error fault => .error (fault.error c.tablePrefix)

end StructuredSql
