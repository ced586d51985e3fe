/-
# Validation of required tables

Each required table is asked for its number of rows, in one transaction, up to
the first that cannot answer. Whatever goes wrong once a connection is open, the
verdict is the same: not all required tables are available.
-/

import MigrationLedger.Database.Transaction
import MigrationLedger.Failure

namespace MigrationLedger.Validation

/-- The question for the number of rows of a table. -/
def countSql (table : String) : String := "SELECT COUNT(*) FROM " ++ table

/-- Whether every table answers, asked up to the first that does not. -/
def allAnswer : List String → Session Bool
  | [] => return true
  | table :: rest => do
    match ← Session.call (.count (countSql table) []) with
    | .ok _ => allAnswer rest
    | .error _ => return false

/-- Check that every one of these tables can be queried. -/
def validate (tables : List String) : Session (Except Failure Unit) := do
  match ← Session.call .connect with
  | .error cause => return .error (.connection .validating cause)
  | .ok () =>
    let answers ← Transaction.scope (fun _ => Failure.tablesMissing) .commit do
      return .ok (← allAnswer tables)
    match answers with
    | .ok true => return .ok ()
    | .ok false => return .error .tablesMissing
    | .error failure => return .error failure

end MigrationLedger.Validation
