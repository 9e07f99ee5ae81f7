-- The commands that a database takes.
import StructuredSql.Query

namespace StructuredSql

/-- What can be asked of a database about itself. -/
inductive Property
  /-- The dialect's name. -/
  | engine
  /-- The prefix of every table name. -/
  | tablePrefix
  /-- The message of the last engine failure. -/
  | error
  /-- Code and message of the last engine failure. -/
  | errorInfo
  /-- The last statement of a dry run. -/
  | queryString
  | logging
  | dryRun
  | debugLog
deriving DecidableEq, Repr

inductive Command
  | select (query : Query)
  | get (query : Query)
  | rand (query : Query)
  | has (query : Query)
  | aggregate (function : Aggregate) (query : Query)
  | insert (table : String) (rows : Value)
  | update (table : String) (data : Fields) (conditions : Option Value)
  | delete (table : String) (conditions : Option Value)
  | replace (table : String) (columns : Fields) (conditions : Option Value)
  | create (table : String) (columns : Value) (options : Option Value)
  | drop (table : String)
  | query (raw : Raw)
  | exec (sql : String) (params : Params)
  /-- Run the script in a file. -/
  | importFile (path : String)
  | begin
  | commit
  | rollback
  /-- The identifier that the last insert made. -/
  | id (sequence : Option String)
  | info
  | last
  | log
  | debugLog
  | property (p : Property)
  | ping

namespace Command

/-- The short name, as it stands in messages. -/
def name : Command → String
  | select _ => "select"
  | get _ => "get"
  | rand _ => "rand"
  | has _ => "has"
  | aggregate _ _ => "aggregate"
  | insert _ _ => "insert"
  | update _ _ _ => "update"
  | delete _ _ => "delete"
  | replace _ _ _ => "replace"
  | create _ _ _ => "create"
  | drop _ => "drop"
  | query _ => "query"
  | exec _ _ => "exec"
  | importFile _ => "import"
  | begin => "begin"
  | commit => "commit"
  | rollback => "rollback"
  | id _ => "id"
  | info => "info"
  | last => "last"
  | log => "log"
  | debugLog => "debug_log"
  | property _ => "property"
  | ping => "ping"

/-- The command runs a statement, and so the engine may refuse it. -/
def executesStatement : Command → Bool
  | begin | commit | rollback | id _ | info | last | log | debugLog | property _ | ping => false
  | _ => true

end Command
end StructuredSql
