/-
# The tracking table

One row per applied migration. A migration counts as applied when a row bears
its name; while the table itself is missing, nothing counts as applied. Rows are
only ever inserted.
-/

import MigrationLedger.Database.Session
import MigrationLedger.Failure
import MigrationLedger.Migration.Record

namespace MigrationLedger.Tracker

/-- The question whether a row bears a given name. -/
def countSql (table : String) : String :=
  "SELECT COUNT(*) FROM " ++ table ++ " WHERE script_name = ?"

/-- The insertion of a row. -/
def insertSql (table : String) : String :=
  "INSERT INTO " ++ table ++ " (id, script_name, applied_at) VALUES (?, ?, ?)"

/-- The list of all rows. -/
def listSql (table : String) : String :=
  "SELECT id, script_name, applied_at FROM " ++ table ++ " ORDER BY script_name"

/-- Whether a migration was applied, asked on a connection of its own. -/
def isApplied (table : String) (name : MigrationName) : Session (Except Failure Bool) := do
  match ← Session.call .connect with
  | .error cause => return .error (.connection (.checking name) cause)
  | .ok () =>
    match ← Session.call (.count (countSql table) [.text name.text]) with
    | .ok count => return .ok (decide (0 < count))
    | .error cause =>
      if cause.isNotFound then return .ok false
      else return .error (.trackingQuery name cause)

/-- Record on the open connection that a migration was applied. -/
def recordApplied (table : String) (name : MigrationName) : Session (Except DbError Unit) := do
  match ← Session.call (.execute (insertSql table) [.freshId, .text name.text, .now]) with
  | .ok _ => return .ok ()
  | .error cause => return .error cause

/-- The record that a row holds. Rows that are too short or bear a name that no
migration can have hold none. -/
def recordOfRow? : List String → Option MigrationRecord
  | id :: name :: appliedAt :: _ =>
    match MigrationName.parse name with
    | .ok name => some ⟨id, name, appliedAt⟩
    | .error _ => none
  | _ => none

/-- All tracking records, read on a connection of its own. -/
def appliedRecords (table : String) : Session (Except Failure (List MigrationRecord)) := do
  match ← Session.call .connect with
  | .error cause => return .error (.connection .listing cause)
  | .ok () =>
    match ← Session.call (.rows (listSql table) []) with
    | .ok rows => return .ok (rows.filterMap recordOfRow?)
    | .error cause =>
      if cause.isNotFound then return .ok []
      else return .error (.trackingList cause)

end MigrationLedger.Tracker
