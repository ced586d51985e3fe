/-
# Dialects

How statements are cut into lexemes, and which of them are understood, is for a
dialect to say. Nothing here looks behind its answers: whatever is done to a
statement is done with the lexemes and the mentions that a dialect gives. What
these have to be like is said where it is needed.
-/

import MigrationLedger.Sql.Token

namespace MigrationLedger.Sql

/-! ### Lexemes -/

/-- Why a statement cannot be cut into lexemes, and where. -/
structure LexError where
  problem : String
  location : Location
  deriving DecidableEq, Repr

/-- A problem with its place. -/
def LexError.message (error : LexError) : String :=
  error.problem ++ " at Line: " ++ toString error.location.line ++
    ", Column: " ++ toString error.location.column

/-! ### Mentions -/

/-- What a name stands for at the place where it is written. -/
inductive Role
  /-- A stored table or view that the statement reads, writes, creates or
  alters. -/
  | relation
  /-- A table or view that the statement drops. -/
  | dropTarget
  /-- A table that a foreign key of a new table refers to, declared with one of its
  columns or as a constraint of its own. -/
  | foreignKey
  /-- A table that any other foreign key refers to, such as one that is added to a
  table. -/
  | otherForeignKey
  /-- A stored table or view that is named in passing: as a pattern for a new
  table, as a new view, or in place of a selection. -/
  | aside
  /-- A column, possibly qualified, or all columns of a table. -/
  | column
  /-- A name of something that is not a stored table: a common table, an index, a
  constraint or an alias. -/
  | label
  deriving DecidableEq, Repr

/-- A name of one part, with the lexeme of the statement that spells it. -/
structure Identifier (whole : List Lexeme) where
  name : String
  lexeme : Lexeme
  written : lexeme ∈ whole
  spelled : lexeme.token.identifier? = some name

/-- A name with its role. The parts of a qualified name are listed in order, and
the first one says where the name is written. -/
structure Mention (whole : List Lexeme) where
  role : Role
  first : Identifier whole
  later : List String

/-! ### Dialects -/

/-- A way to read statements. -/
structure Dialect where
  /-- The lexemes of a statement, blanks and comments included. -/
  lexemes : String → Except LexError (List Lexeme)
  /-- The names that a text of statements mentions, if all of them are
  understood. -/
  mentions? : (whole : List Lexeme) → Option (List (Mention whole))

end MigrationLedger.Sql
