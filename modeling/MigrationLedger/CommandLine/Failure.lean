/-
# Failures of commands

A command fails for a reason of the configuration, of the database or of
migrating. Its report begins with what the command was about and goes on, cause
by cause, to the root.
-/

import MigrationLedger.Config.File
import MigrationLedger.Failure

namespace MigrationLedger.CommandLine

/-- Why a command failed, and what it was about. -/
inductive CommandFailure
  | configuration (context : String) (failure : ConfigFailure)
  | database (context : String) (error : DbError)
  | migration (context : Option String) (failure : Failure)
  deriving DecidableEq, Repr

namespace CommandFailure

/-- The lines of a report from the outermost to the root. -/
def chain : CommandFailure → List String
  | .configuration context failure => context :: failure.message :: failure.cause?.toList
  | .database context error => [context, error.message]
  | .migration context failure => context.toList ++ failure.message :: failure.cause?.toList

/-- A number at the end of a field of five characters. -/
def numbered (n : Nat) : String :=
  let digits := toString n
  String.ofList (List.replicate (5 - digits.length) ' ') ++ digits ++ ": "

/-- A text whose further lines are indented. -/
def indented (margin text : String) : String :=
  (text.splitOn "\n").intersperse ("\n" ++ margin) |> String.join

/-- The report of a failure: the outermost line, and below it the causes, which
are numbered when there are several. -/
def report (failure : CommandFailure) : String :=
  match failure.chain with
  | [] => ""
  | [text] => text
  | [text, cause] => text ++ "\n\nCaused by:\n    " ++ indented "    " cause
  | text :: causes =>
    let lines := causes.mapIdx fun n cause => "\n" ++ numbered n ++ indented "       " cause
    text ++ "\n\nCaused by:" ++ String.join lines

end CommandFailure

end MigrationLedger.CommandLine
