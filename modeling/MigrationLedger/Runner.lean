/-
# Running migrations

A runner applies the migrations of a source in the order of their names. Each
one is checked against the tracking table just before it is applied, and its
statements and its tracking record share one transaction, so a migration that
fails leaves neither behind. The first failure ends a run; what was applied
before it stays applied.
-/

import MigrationLedger.Migration
import MigrationLedger.Sql.Script
import MigrationLedger.Tracker
import MigrationLedger.Validation

namespace MigrationLedger

/-- What preparing a database means. -/
inductive Preparation
  | create
  | skipCreate
  deriving DecidableEq, Repr

/-- What a run did. -/
structure Report where
  applied : List MigrationName := []
  skipped : List MigrationName := []
  ignored : List MigrationName := []
  deriving DecidableEq, Repr

/-- Where a migration stands. -/
structure MigrationStatus where
  name : MigrationName
  state : MigrationState
  appliedAt : Option String
  deriving DecidableEq, Repr

/-- The migrations of a source or the reason why it has none to offer. -/
abbrev Offer := Except Failure (List Migration)

/-- A source of migrations with the settings to run them by, and the dialect of
their statements. -/
structure Runner where
  dialect : Sql.Dialect
  settings : Settings
  usable : settings.problem? = none
  offer : Offer

namespace Runner

/-- A runner for a dialect, if the settings can be used. -/
def forDialect (dialect : Sql.Dialect) (settings : Settings) (offer : Offer) :
    Except Failure Runner :=
  match h : settings.problem? with
  | none => .ok ⟨dialect, settings, h, offer⟩
  | some problem => .error (.invalidSettings problem)

/-- The first name that stands at an earlier place already: the name, its
earlier place and its place. `seen` holds the names before, the last one
first. -/
def firstRepeat? (seen : List MigrationName) :
    List MigrationName → Option (MigrationName × Nat × Nat)
  | [] => none
  | name :: rest =>
    match seen.reverse.idxOf? name with
    | some earlier => some (name, earlier, seen.length)
    | none => firstRepeat? (name :: seen) rest

/-- The migrations that are run, in order of application, and the names of the
other entries. Entries that are not run may repeat. -/
def recognized (runner : Runner) : Except Failure (List Migration × List MigrationName) := do
  let migrations ← runner.offer
  let isScript := fun migration : Migration =>
    migration.name.hasExtension runner.settings.extension
  let scripts := migrations.filter isScript
  let others := migrations.filter fun migration => !isScript migration
  match firstRepeat? [] (scripts.map Migration.name) with
  | some (name, first, second) =>
    .error (.duplicate name ("entry " ++ toString (first + 1)) ("entry " ++ toString (second + 1)))
  | none => .ok (Migration.sort scripts, MigrationName.sort (others.map Migration.name))

/-- A statement with the schema in front of each table of the job store. -/
def qualify (runner : Runner) (statement : String) : Except Sql.QualifyError String :=
  runner.dialect.qualify runner.settings.qualifier statement

/-- Execute the statements of a migration on the open connection. The first of
them has the number `number`. -/
def executeStatements (runner : Runner) (name : MigrationName) (number : Nat) :
    List String → Session (Except Failure Unit)
  | [] => return .ok ()
  | statement :: rest =>
    match runner.qualify statement with
    | .error cause => return .error (.qualify name number cause)
    | .ok sql => do
      match ← Session.call (.batch sql) with
      | .error cause => return .error (.execution name number cause)
      | .ok () => runner.executeStatements name (number + 1) rest

/-- The statements that are executed for a migration. -/
def statementsOf (runner : Runner) (migration : Migration) : List String :=
  if migration.isEmpty runner.settings.emptyMarker then []
  else Sql.Script.statements migration.script runner.settings.delimiter

/-- Apply a migration on a connection of its own: its statements and its
tracking record in one transaction. -/
def apply (runner : Runner) (migration : Migration) : Session (Except Failure Unit) := do
  let name := migration.name
  match ← Session.call .connect with
  | .error cause => return .error (.connection (.applying name) cause)
  | .ok () =>
    Transaction.scope (Failure.transaction name) .commit do
      match ← runner.executeStatements name 1 (runner.statementsOf migration) with
      | .error failure => return .error failure
      | .ok () =>
        match ← Tracker.recordApplied runner.settings.tracking name with
        | .error cause => return .error (.recording name cause)
        | .ok () => return .ok ()

/-- Take up migrations one after another. The names of those applied and skipped
so far come last first. -/
def takeUp (runner : Runner) (states : RunStates) (applied skipped : List MigrationName) :
    List Migration →
      Session (RunStates × Except Failure (List MigrationName × List MigrationName))
  | [] => return (states, .ok (applied.reverse, skipped.reverse))
  | migration :: rest => do
    let name := migration.name
    match ← Tracker.isApplied runner.settings.tracking name with
    | .error failure => return (states, .error failure)
    | .ok true => runner.takeUp states applied (name :: skipped) rest
    | .ok false =>
      let underWay := states.set name .applying
      .announce underWay do
        match ← runner.apply migration with
        | .error failure =>
          let states := underWay.set name .failed
          .announce states (return (states, .error failure))
        | .ok () =>
          let states := underWay.set name .applied
          .announce states (runner.takeUp states (name :: applied) skipped rest)

/-- Apply every migration that was not applied yet. -/
def run (runner : Runner) (states : RunStates) :
    Session (RunStates × Except Failure Report) :=
  match runner.recognized with
  | .error failure => return (states, .error failure)
  | .ok (migrations, ignored) => do
    match ← runner.takeUp states [] [] migrations with
    | (states, .error failure) => return (states, .error failure)
    | (states, .ok (applied, skipped)) => return (states, .ok ⟨applied, skipped, ignored⟩)

/-- Check that every required table can be queried. -/
def validate (runner : Runner) : Session (Except Failure Unit) :=
  Validation.validate runner.settings.required

/-- Create the tables, or only validate them. -/
def prepare (runner : Runner) (preparation : Preparation) (states : RunStates) :
    Session (RunStates × Except Failure Report) :=
  match preparation with
  | .create => runner.run states
  | .skipCreate => do
    match ← runner.validate with
    | .ok () => return (states, .ok {})
    | .error failure => return (states, .error failure)

/-- When a migration was applied according to some records: the last one that
bears its name counts. -/
def appliedAt? (records : List MigrationRecord) (name : MigrationName) : Option String :=
  (records.reverse.find? fun record => record.name == name).map (·.appliedAt)

/-- Where a migration stands according to the tracking records and to what the
runner remembers of migrations that have none. -/
def statusOf (records : List MigrationRecord) (states : RunStates) (name : MigrationName) :
    MigrationStatus :=
  match appliedAt? records name with
  | some appliedAt => ⟨name, .applied, some appliedAt⟩
  | none =>
    match states.state? name with
    | some .applying => ⟨name, .applying, none⟩
    | some .failed => ⟨name, .failed, none⟩
    | _ => ⟨name, .pending, none⟩

/-- Where every migration stands, in order of application. -/
def status (runner : Runner) (states : RunStates) :
    Session (Except Failure (List MigrationStatus)) :=
  match runner.recognized with
  | .error failure => return .error failure
  | .ok (migrations, _) => do
    match ← Tracker.appliedRecords runner.settings.tracking with
    | .error failure => return .error failure
    | .ok records =>
      return .ok (migrations.map fun migration => statusOf records states migration.name)

end Runner

end MigrationLedger
