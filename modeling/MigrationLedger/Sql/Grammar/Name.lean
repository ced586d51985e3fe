/-
# Names in statements

An identifier is a word, quoted or not, or a plain literal. A name is a chain
of identifiers with points between them; only the whole chain says which table
is meant, so mentions keep all parts.
-/

import MigrationLedger.Sql.Parse

namespace MigrationLedger.Sql

namespace Parse

variable {whole : List Lexeme}

/-- An identifier. -/
def identifier : Parse whole (Identifier whole) := do
  match (← peek).bind Occurrence.identifier? with
  | some name => skip; return name
  | none => mismatch

/-- An identifier that gives a name to something other than a table. -/
def labelled : Parse whole Unit := do
  mention .label (← identifier) []

/-- An identifier whose text does not matter. -/
def anyIdentifier : Parse whole Unit := do
  let _ ← identifier

/-- The parts of a qualified name that follow the first one. -/
def laterParts (fuel : Nat) (read : List String) : Parse whole (List String) :=
  match fuel with
  | 0 => return read.reverse
  | fuel + 1 => do
    if ← symbol "." then
      let part ← identifier
      laterParts fuel (part.name :: read)
    else
      return read.reverse

/-- A qualified name with this role. -/
def named (role : Role) : Parse whole Unit := do
  let first ← identifier
  mention role first (← laterParts (← turns) [])

/-- A qualified name whose role does not matter. -/
def anyName : Parse whole Unit := do
  anyIdentifier
  let _ ← laterParts (← turns) []

/-- A whole number. -/
def wholeNumber : Parse whole Unit := do
  match ← peek with
  | some item =>
    match item.token with
    | .number digits _ => if digits.toList.all Text.isAsciiDigit then skip else mismatch
    | _ => mismatch
  | none => mismatch

/-- A text literal. -/
def textLiteral : Parse whole Unit := do
  match ← peek with
  | some item =>
    match item.token with
    | .literal .plain _ => skip
    | _ => mismatch
  | none => mismatch

/-- A text literal of one character. -/
def characterLiteral : Parse whole Unit := do
  match ← peek with
  | some item =>
    match item.token with
    | .literal .plain body =>
      if (undouble '\'' body.toList).length = 1 then skip else mismatch
    | _ => mismatch
  | none => mismatch

/-- Column names between parentheses. -/
def columnNames : Parse whole Unit := parenthesized (commaList anyIdentifier)

/-- Column names between parentheses, or nothing. -/
def optionalColumnNames : Parse whole Unit := do
  if ← peekSymbol "(" then columnNames

/-- Qualified column names between parentheses. -/
def qualifiedColumnNames : Parse whole Unit := parenthesized (commaList (named .column))

/-- Qualified column names between parentheses, or nothing. -/
def optionalQualifiedColumnNames : Parse whole Unit := do
  if ← peekSymbol "(" then qualifiedColumnNames

/-- `IF EXISTS`, if it is next. -/
def ifExists : Parse whole Unit := do
  let _ ← keywords ["IF", "EXISTS"]

/-- `IF NOT EXISTS`, if it is next. -/
def ifNotExists : Parse whole Bool := keywords ["IF", "NOT", "EXISTS"]

end Parse

end MigrationLedger.Sql
