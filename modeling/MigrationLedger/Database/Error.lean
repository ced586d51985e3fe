/-
# Errors of a database

Every error of a connection has a cause that later layers can tell apart. The
engine itself reports failures as text only, so a missing table is recognised by
the words the engine uses for it. The patterns are narrow: a missing function or
a failed conversion is not to be taken for a missing table.
-/

import MigrationLedger.Text.Search

namespace MigrationLedger

/-- An error of a database or of reaching one. -/
inductive DbError
  | connection (message : String)
  | execution (message : String)
  | tableNotFound (message : String)
  | transaction (message : String)
  | notImplemented (backend feature : String)
  | poisoned (message : String)
  deriving DecidableEq, Repr

namespace DbError

/-- The line that reports an error. -/
def message : DbError → String
  | .connection message => "[D001] Database connection failed: " ++ message
  | .execution message => "[D002] SQL execution failed: " ++ message
  | .tableNotFound message => "[D003] Table or view not found: " ++ message
  | .transaction message => "[D004] Transaction failed: " ++ message
  | .notImplemented backend feature =>
    "[D005] Feature not implemented for " ++ backend ++ ": " ++ feature
  | .poisoned message => "[D006] Database mutex poisoned: " ++ message

/-- The error says that a table or view is missing. -/
def isNotFound : DbError → Bool
  | .tableNotFound _ => true
  | _ => false

/-- The engine's words are about a table, a view or a schema that it looked
for. -/
def speaksOfTable (message : String) : Bool :=
  Text.contains message "Table with name" ||
    Text.contains message "View with name" ||
    Text.contains message "Table or view with name" ||
    (Text.contains message "Catalog Error" && Text.contains message "Schema with name" &&
      Text.contains message "does not exist") ||
    (Text.contains message "Catalog Error" && Text.contains message "Table" &&
      Text.contains message "not found")

/-- The error that a failure message of the engine stands for. -/
def ofEngineMessage (message : String) : DbError :=
  if speaksOfTable message then .tableNotFound message else .execution message

/-- Name the statement in an error of executing it. Other errors name what they
are about by themselves. -/
def withStatement (sql : String) : DbError → DbError
  | .execution message => .execution (message ++ ": " ++ sql)
  | error => error

end DbError

end MigrationLedger
