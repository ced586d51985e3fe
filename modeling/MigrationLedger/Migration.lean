/-
# Migrations

A migration is a script with the name of its file. A script that begins with
the marker for empty migrations is recorded without being run.
-/

import MigrationLedger.Migration.Record
import MigrationLedger.Migration.State

namespace MigrationLedger

/-- A named script. -/
structure Migration where
  name : MigrationName
  script : String
  deriving DecidableEq, Repr

namespace Migration

/-- What an intentionally empty script begins with, unless configured
otherwise. -/
def defaultEmptyMarker : String := "-- Empty migration"

/-- The script begins with `marker`, so nothing of it is run. -/
def isEmpty (migration : Migration) (marker : String) : Bool :=
  Text.startsWith migration.script marker

/-- Order of application. -/
def notAfter (a b : Migration) : Bool :=
  a.name.notAfter b.name

/-- Migrations in order of application; equal names keep their places. -/
def sort (migrations : List Migration) : List Migration :=
  migrations.mergeSort notAfter

end Migration

end MigrationLedger
