/-
# Qualifying tables with a schema

A qualifier puts a schema in front of the tables of the job store, which are
told by a common beginning of their names. When the dialect understands a
statement, the names it mentions as tables decide; when it does not, each name
with the right beginning is taken for a table unless it follows `INDEX` or
`CONSTRAINT`.

The schema is spliced in at places of the text. Everything else in the
statement, comments and spacing included, stays as it was written.
-/

import MigrationLedger.Sql.Dialect

namespace MigrationLedger.Sql

namespace Location

/-- The text from its line `skip` on (counted from zero), with the number of
bytes in front of that line added to `passed`. -/
def lineStart? : Nat → Nat → List Char → Option (Nat × List Char)
  | 0, passed, text => some (passed, text)
  | _ + 1, _, [] => none
  | skip + 1, passed, c :: rest =>
    lineStart? (if c = '\n' then skip else skip + 1) (passed + c.utf8Size) rest

/-- The number of bytes in front of the character with index `skip`, added to
`passed`, if there is such a character. -/
def columnStart? : Nat → Nat → List Char → Option Nat
  | _, _, [] => none
  | 0, passed, _ :: _ => some passed
  | skip + 1, passed, c :: rest => columnStart? skip (passed + c.utf8Size) rest

/-- The number of UTF-8 bytes in front of the character at a place, if the text
has a character there. -/
def byteOffset? (place : Location) (text : List Char) : Option Nat :=
  if place.line = 0 ∨ place.column = 0 then none
  else
    match lineStart? (place.line - 1) 0 text with
    | none => none
    | some (passed, rest) => columnStart? (place.column - 1) passed rest

end Location

/-- Why a statement cannot be qualified. -/
inductive QualifyError
  | lexical (error : LexError)
  | outside (place : Location)
  deriving DecidableEq, Repr

/-- The words for a failed qualification. -/
def QualifyError.message (error : QualifyError) : String :=
  "[S001] SQL tokenize error: " ++
    match error with
    | .lexical error => error.message
    | .outside place =>
      "token position " ++ toString place.line ++ ":" ++ toString place.column ++
        " is outside the statement"

/-- A text with `insertion` put in front of the characters that have the given
byte offsets, which ascend. The text begins `passed` bytes into the whole. -/
def splice (insertion : List Char) (passed : Nat) : List Nat → List Char → List Char
  | _, [] => []
  | [], text => text
  | offset :: offsets, c :: rest =>
    if offset = passed then
      insertion ++ c :: splice insertion (passed + c.utf8Size) offsets rest
    else c :: splice insertion (passed + c.utf8Size) (offset :: offsets) rest

/-- Puts a schema in front of the tables whose names begin with a given
text. -/
structure Qualifier where
  /-- The schema; `none` leaves statements unchanged. -/
  schema : Option String
  tablePrefix : String
  deriving DecidableEq, Repr

namespace Qualifier

/-- A qualifier. An empty schema counts as none. -/
def make (schema : Option String) (tablePrefix : String) : Qualifier :=
  ⟨schema.filter fun name => !name.isEmpty, tablePrefix⟩

/-- The full name of a table. -/
def tableName (q : Qualifier) (table : String) : String :=
  match q.schema with
  | some schema => schema ++ "." ++ table
  | none => table

/-- The name belongs to the job store. -/
def owns (q : Qualifier) (name : String) : Bool :=
  Text.startsWith name q.tablePrefix

/-- A role in which a name is qualified. -/
def isTableRole : Role → Bool
  | .relation | .dropTarget | .foreignKey => true
  | .otherForeignKey | .aside | .column | .label => false

/-- The unqualified names of the job store among the tables mentioned. -/
def tableNames (q : Qualifier) {whole : List Lexeme} (mentions : List (Mention whole)) :
    List String :=
  mentions.filterMap fun m =>
    match m.later with
    | [] => if isTableRole m.role && q.owns m.first.name then some m.first.name else none
    | _ => none

/-- Whether a name after this word names an index or a constraint, given
whether one before it does. -/
def namingAfter (word : Word) (naming : Bool) : Bool :=
  if ["INDEX", "CONSTRAINT"].contains word.keyword then true
  else if ["IF", "NOT", "EXISTS"].contains word.keyword then naming
  else false

/-- The places of the words that are chosen and follow no point. `chosen` is
also told whether the word stands where an index or a constraint is named. -/
def places (chosen : Bool → Word → Bool) (previous : Option Token) (naming : Bool) :
    List Lexeme → List Location
  | [] => []
  | lexeme :: rest =>
    match lexeme.token with
    | .word word =>
      let later := places chosen (some lexeme.token) (namingAfter word naming) rest
      if previous ≠ some (.symbol ".") ∧ chosen naming word then lexeme.location :: later
      else later
    | .blank => places chosen previous naming rest
    | token => places chosen (some token) naming rest

/-- The byte offsets of some places. -/
def offsets (text : List Char) : List Location → Except QualifyError (List Nat)
  | [] => .ok []
  | place :: rest =>
    match place.byteOffset? text with
    | none => .error (.outside place)
    | some offset =>
      match offsets text rest with
      | .ok later => .ok (offset :: later)
      | .error error => .error error

end Qualifier

namespace Dialect

/-- Which words are tables of the job store. -/
def chooses (dialect : Dialect) (q : Qualifier) (lexemes : List Lexeme) : Bool → Word → Bool :=
  match dialect.mentions? lexemes with
  | some mentions =>
    let names := q.tableNames mentions
    fun _ word => names.contains word.value
  | none => fun naming word => !naming && q.owns word.value

/-- The byte offsets at which the schema is spliced into a statement. -/
def insertionPoints (dialect : Dialect) (q : Qualifier) (statement : String) :
    Except QualifyError (List Nat) :=
  match dialect.lexemes statement with
  | .error error => .error (.lexical error)
  | .ok lexemes =>
    Qualifier.offsets statement.toList
      (Qualifier.places (dialect.chooses q lexemes) none false lexemes)

/-- A statement with the schema in front of each table of the job store. -/
def qualify (dialect : Dialect) (q : Qualifier) (statement : String) :
    Except QualifyError String :=
  match q.schema with
  | none => .ok statement
  | some schema =>
    match dialect.insertionPoints q statement with
    | .error error => .error error
    | .ok points =>
      .ok (String.ofList (splice (schema.toList ++ ['.']) 0 points statement.toList))

end Dialect

end MigrationLedger.Sql
