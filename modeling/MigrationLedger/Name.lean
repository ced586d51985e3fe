/-
# Names of migrations and tables

A migration is named after the file that holds its script, so its name is any
text that can stand as one component of a path. A table name is narrower: it is
spliced into statements, so it has to be a plain identifier. Either kind of
name carries the proof of its check, which makes a checked name impossible to
forge and lets later layers rely on its shape.
-/

import MigrationLedger.Text.Blank
import MigrationLedger.Text.Letter
import MigrationLedger.Text.Search

namespace MigrationLedger

/-- An ASCII letter or underscore: what a plain identifier begins with. -/
def isIdentifierStart (c : Char) : Bool :=
  Text.isAsciiLetter c || c == '_'

/-- An ASCII letter, digit or underscore: what a plain identifier goes on with. -/
def isIdentifierPart (c : Char) : Bool :=
  isIdentifierStart c || Text.isAsciiDigit c

/-- A text matching `[A-Za-z_][A-Za-z0-9_]*`: it means the same with and
without quotes around it in a statement. -/
def isPlainIdentifier (text : String) : Bool :=
  match text.toList with
  | [] => false
  | first :: rest => isIdentifierStart first && rest.all isIdentifierPart

/-- The two kinds of checked names. -/
inductive NameKind
  | migration
  | table
  deriving DecidableEq, Repr

/-- How a kind of name is called in a message. -/
def NameKind.title : NameKind → String
  | .migration => "migration name"
  | .table => "table name"

/-- What can be wrong with a name. -/
inductive NameProblem
  | empty
  | path
  | controlCharacter
  | notIdentifier
  deriving DecidableEq, Repr

/-- The demand that a name with this problem does not meet. -/
def NameProblem.reason : NameProblem → String
  | .empty => "must not be empty"
  | .path => "must be a file name, not a path"
  | .controlCharacter => "must not contain control characters"
  | .notIdentifier => "must be a plain identifier ([A-Za-z_][A-Za-z0-9_]*)"

/-- A text that was offered as a name and refused. -/
structure InvalidName where
  kind : NameKind
  value : String
  problem : NameProblem
  deriving DecidableEq, Repr

/-- The one-line account of a refused name. -/
def InvalidName.message (error : InvalidName) : String :=
  "invalid " ++ error.kind.title ++ " '" ++ error.value ++ "': " ++ error.problem.reason

/-- The first thing wrong with a text as a migration name: emptiness, then a
path separator of either slant, then a control character. -/
def MigrationName.problem? (text : String) : Option NameProblem :=
  if text.toList.isEmpty then some .empty
  else if text.toList.any fun c => c == '/' || c == '\\' then some .path
  else if text.toList.any Text.isControl then some .controlCharacter
  else none

/-- A file name that identifies a migration. -/
structure MigrationName where
  text : String
  sound : MigrationName.problem? text = none
  deriving DecidableEq, Repr

namespace MigrationName

/-- Check a text and make it a migration name. -/
def parse (text : String) : Except InvalidName MigrationName :=
  match h : problem? text with
  | none => .ok ⟨text, h⟩
  | some problem => .error ⟨.migration, text, problem⟩

instance : ToString MigrationName := ⟨text⟩

/-- The name ends with `extension`, so it belongs to a script that is run. -/
def hasExtension (name : MigrationName) (extension : String) : Bool :=
  Text.endsWith name.text extension

/-- Order of application: that of the code points, which is also the order of
the bytes in UTF-8. -/
def notAfter (a b : MigrationName) : Bool :=
  decide (a.text ≤ b.text)

/-- Names in order of application; equal names keep their places. -/
def sort (names : List MigrationName) : List MigrationName :=
  names.mergeSort notAfter

end MigrationName

/-- The first thing wrong with a text as a table name. -/
def TableName.problem? (text : String) : Option NameProblem :=
  if text.toList.isEmpty then some .empty
  else if isPlainIdentifier text then none
  else some .notIdentifier

/-- A plain identifier that names a table. -/
structure TableName where
  text : String
  sound : TableName.problem? text = none
  deriving DecidableEq, Repr

namespace TableName

/-- Check a text and make it a table name. -/
def parse (text : String) : Except InvalidName TableName :=
  match h : problem? text with
  | none => .ok ⟨text, h⟩
  | some problem => .error ⟨.table, text, problem⟩

instance : ToString TableName := ⟨text⟩

/-- A table name is a plain identifier. -/
theorem isPlainIdentifier_text (name : TableName) : isPlainIdentifier name.text = true := by
  have h := name.sound
  unfold problem? at h
  split at h
  · simp at h
  · split at h
    · assumption
    · simp at h

end TableName

end MigrationLedger
