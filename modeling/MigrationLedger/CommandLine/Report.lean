/-
# Reports of commands

What a command prints when it succeeds: what a run did, and where the migrations
stand, as a table or as data.
-/

import MigrationLedger.Json.Printer
import MigrationLedger.Runner

namespace MigrationLedger.CommandLine

/-- Lines of output, each with its end. -/
def linesText (lines : List String) : String :=
  String.join (lines.map (· ++ "\n"))

/-- The head of the output of a run. -/
def banner : List String :=
  ["============================================",
    "         Tablekeeper Table Creator          ",
    "============================================"]

/-- The line that says what is going to be done. -/
def announcement (preparation : Preparation) (url : String) : String :=
  match preparation with
  | .create => "Creating tables in " ++ url
  | .skipCreate => "Validating tables in " ++ url

/-- The line that says that it is done. -/
def conclusion : Preparation → String
  | .create => "Successfully created all tables!"
  | .skipCreate => "All required tables are available!"

/-- A line for each migration that a run took up. Those that it did not apply are
listed only on demand. -/
def reportLines (verbose : Bool) (report : Report) : List String :=
  report.applied.map (fun name => "  Applied  " ++ name.text) ++
    if verbose then
      report.skipped.map (fun name => "  Skipped  " ++ name.text ++ " (already applied)") ++
        report.ignored.map fun name => "  Ignored  " ++ name.text
    else []

/-! ### Status -/

/-- A text with blanks behind it up to a width in characters. -/
def padEnd (width : Nat) (text : String) : String :=
  text ++ String.ofList (List.replicate (width - text.length) ' ')

/-- The head of the first column. -/
def nameHead : String := "MIGRATION"

/-- The width of the first column: room for every name, counted in bytes, and for
the head. -/
def nameWidth (statuses : List MigrationStatus) : Nat :=
  (statuses.map fun status => Text.byteLength status.name.text.toList).foldl max nameHead.length

/-- A row of the table. -/
def tableRow (width : Nat) (name state time : String) : String :=
  padEnd width name ++ "  " ++ padEnd 8 state ++ "  " ++ time

/-- The row of a migration. -/
def statusRow (width : Nat) (status : MigrationStatus) : String :=
  tableRow width status.name.text status.state.title (status.appliedAt.getD "-")

/-- How many migrations are in a state. -/
def countIn (state : MigrationState) (statuses : List MigrationStatus) : Nat :=
  statuses.countP fun status => status.state == state

/-- The table of all migrations. -/
def statusTable (statuses : List MigrationStatus) : List String :=
  if statuses.isEmpty then ["No migrations found"]
  else
    let width := nameWidth statuses
    tableRow width nameHead "STATE" "APPLIED AT" :: statuses.map (statusRow width) ++
      ["", toString (countIn .applied statuses) ++ " applied, " ++
        toString (countIn .pending statuses) ++ " pending"]

/-- The data of a migration. The time is left out where there is none. -/
def statusValue (status : MigrationStatus) : Json.Value :=
  let time := match status.appliedAt with
    | some time => [("applied_at", Json.Value.string time)]
    | none => []
  .object ([("name", .string status.name.text), ("state", .string status.state.title)] ++ time)

/-- All migrations as data. -/
def statusData (statuses : List MigrationStatus) : String :=
  (Json.Value.array (statuses.map statusValue)).pretty

end MigrationLedger.CommandLine
