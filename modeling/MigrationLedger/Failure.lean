/-
# Failures of migrating

Each way in which the operations of a runner fail is a case of its own, with the
migration it belongs to and the error behind it.
-/

import MigrationLedger.Database.Error
import MigrationLedger.Settings

namespace MigrationLedger

/-- What a connection was wanted for. -/
inductive Errand
  | applying (name : MigrationName)
  | checking (name : MigrationName)
  | listing
  | validating
  deriving DecidableEq, Repr

/-- The words for an errand. -/
def Errand.message : Errand → String
  | .applying name => "migration " ++ name.text
  | .checking name => "checking migration " ++ name.text
  | .listing => "listing applied migrations"
  | .validating => "validating required tables"

/-- Why an operation of a runner failed. -/
inductive Failure
  /-- No connection could be opened. -/
  | connection (errand : Errand) (cause : DbError)
  /-- A statement of a migration was refused. Statements are counted from one. -/
  | execution (name : MigrationName) (statement : Nat) (cause : DbError)
  /-- The tracking record could not be inserted. -/
  | recording (name : MigrationName) (cause : DbError)
  /-- The transaction of a migration could not be opened or committed. -/
  | transaction (name : MigrationName) (cause : DbError)
  /-- The tracking table is there but could not be asked. -/
  | trackingQuery (name : MigrationName) (cause : DbError)
  /-- A required table cannot be queried. -/
  | tablesMissing
  /-- A statement of a migration cannot be cut into tokens. -/
  | qualify (name : MigrationName) (statement : Nat) (cause : Sql.QualifyError)
  /-- A directory or script could not be read. -/
  | source (path : String)
  /-- Two scripts have the same name. -/
  | duplicate (name : MigrationName) (first second : String)
  /-- The tracking table could not be listed. -/
  | trackingList (cause : DbError)
  /-- The settings cannot be used. -/
  | invalidSettings (problem : SettingsProblem)
  /-- A script has a name that no migration can have. -/
  | invalidName (error : InvalidName)
  deriving DecidableEq, Repr

namespace Failure

/-- The line that reports a failure. -/
def message : Failure → String
  | .connection errand _ =>
    "[M001] Could not acquire a database connection for " ++ errand.message
  | .execution name statement _ =>
    "[M002] Error running database migration " ++ name.text ++ " (statement " ++
      toString statement ++ ")"
  | .recording name _ =>
    "[M003] Error recording database migration " ++ name.text ++ " as applied"
  | .transaction name _ => "[M004] Transaction failed for database migration " ++ name.text
  | .trackingQuery name _ =>
    "[M005] Could not determine whether migration " ++ name.text ++ " was applied"
  | .tablesMissing => "[M006] Not all required tables are available"
  | .qualify name statement _ =>
    "[M007] Could not qualify statement " ++ toString statement ++ " of migration " ++ name.text
  | .source path => "[M008] Failed to load migrations from '" ++ path ++ "'"
  | .duplicate name first second =>
    "[M009] Duplicate migration " ++ name.text ++ ": found in '" ++ first ++ "' and '" ++
      second ++ "'"
  | .trackingList _ => "[M010] Could not read applied migrations"
  | .invalidSettings problem => "[M011] Invalid migrator settings: " ++ problem.message
  | .invalidName error => "[M012] " ++ error.message

/-- The migration that a failure belongs to. -/
def migration? : Failure → Option MigrationName
  | .execution name _ _ | .recording name _ | .transaction name _ | .trackingQuery name _
  | .qualify name _ _ | .duplicate name _ _ => some name
  | .connection _ _ | .tablesMissing | .source _ | .trackingList _ | .invalidSettings _
  | .invalidName _ => none

/-- The line that reports the error behind a failure. -/
def cause? : Failure → Option String
  | .connection _ cause | .execution _ _ cause | .recording _ cause | .transaction _ cause
  | .trackingQuery _ cause | .trackingList cause => some cause.message
  | .qualify _ _ cause => some cause.message
  | .invalidName error => some error.message
  | .source _ => some "the path cannot be read"
  | .tablesMissing | .duplicate _ _ _ | .invalidSettings _ => none

end Failure

end MigrationLedger
