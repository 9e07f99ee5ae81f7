-- Options as the text of a configuration file, and files that hold them.
import StructuredSql.Options.Datum
import StructuredSql.Toml.Parser
import StructuredSql.Toml.Printer
import StructuredSql.FileTree
import StructuredSql.Error

namespace StructuredSql.Options

/-! ## Documents -/

/-- No document nests deeper than this: headers and keys lead down `maxDepth`
steps each, and so does every key in each of `maxDepth` inline tables. -/
def documentRoom : Nat := 100 * Toml.maxDepth

/-- The options that a document gives. -/
def ofToml? (text : String) : Option Options :=
  (Toml.parse? text).bind (ofDatum? .toml documentRoom)

/-- The document of options. There is none when the close timeout is beyond 64
signed bits. -/
def toToml? (o : Options) : Option String := Toml.print? o.toDatum

/-- The document that is written when there is none: the defaults, explained. -/
def defaultToml : String :=
  "# Quarry connection configuration\n" ++
  "#\n" ++
  "# Engine: \"sqlite\" (default), \"mysql\", \"pgsql\", \"mssql\", \"oracle\" or \"sybase\"\n" ++
  "engine = \"sqlite\"\n" ++
  "\n" ++
  "# Database name, or file path for SQLite (\":memory:\" for a private database)\n" ++
  "database = \":memory:\"\n" ++
  "\n" ++
  "# Prefix applied to every table name\n" ++
  "prefix = \"\"\n" ++
  "\n" ++
  "# Keep every executed statement (default keeps only the last one)\n" ++
  "logging = false\n" ++
  "\n" ++
  "# Compile statements without executing them\n" ++
  "dry_run = false\n" ++
  "\n" ++
  "# Collect every statement as readable SQL instead of executing it\n" ++
  "debug_log = false\n" ++
  "\n" ++
  "# Statements run right after the session opens\n" ++
  "commands = []\n" ++
  "\n" ++
  "# Graceful shutdown bound for the execution host\n" ++
  "close_timeout_ms = 10000\n" ++
  "\n" ++
  "# Where the execution host runs: \"thread\" or \"process\"\n" ++
  "[isolation]\n" ++
  "mode = \"thread\"\n"

/-! ## Files -/

/-- The options in the file at a path. -/
def load (files : FileTree) (path : String) : Except Error Options :=
  match files.readText path with
  | .error e => .error (.validation s!"Failed to read config file '{path}': {e.message}")
  | .ok text =>
    match ofToml? text with
    | some o => .ok o
    | none => .error (.validation s!"Failed to parse config file '{path}'")

/-- The file at a path holds the defaults if there was none. -/
def saveDefault (files : FileTree) (path : String) : Except Error FileTree :=
  if files.exists? path then .ok files
  else match files.writeText path defaultToml with
    | .ok files => .ok files
    | .error e =>
      .error (.validation s!"Failed to write default config file '{path}': {e.message}")

/-- The file at a path holds the options. -/
def save (files : FileTree) (path : String) (o : Options) : Except Error FileTree :=
  match o.toToml? with
  | none => .error (.validation "Failed to serialize options")
  | some text =>
    match files.writeText path text with
    | .ok files => .ok files
    | .error e => .error (.validation s!"Failed to write config file '{path}': {e.message}")

end StructuredSql.Options
