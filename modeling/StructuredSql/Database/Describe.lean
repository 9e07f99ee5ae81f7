-- The one-line description of a database.
import StructuredSql.Database.Basic
import StructuredSql.Text.Shown

namespace StructuredSql.Database

/-- Engine, name, mode and length of the log. -/
def describe {σ : Type} (db : Database σ) : String :=
  "Database \x7b engine: " ++ db.options.engine.label ++ ", database: "
    ++ Text.shown db.options.database ++ ", dry_run: " ++ toString db.options.dryRun
    ++ ", logs: " ++ toString db.statements.length ++ " \x7d"

end StructuredSql.Database
