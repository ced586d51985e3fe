/-
# Projections

The columns that a query or a change returns: wildcards and expressions, each
with an optional alias. An alias may be any word after `AS`, and without it any
word that is not reserved for what can come next.
-/

import MigrationLedger.Sql.Grammar.Expression

namespace MigrationLedger.Sql.Parse

variable {whole : List Lexeme} (g : Grammar whole)

/-- An alias, if one is next: any word or literal after `AS`, otherwise a
literal or a word that is not reserved. Answers whether there was one. -/
def optionalAlias (reserved : List String) : Parse whole Bool := do
  let explicit ← keyword "AS"
  match ← peek with
  | some item =>
    match item.identifier? with
    | some name =>
      if explicit || !reserved.contains item.keyword then
        skip
        mention .label name []
        return true
      else return false
    | none => if explicit then mismatch else return false
  | none => if explicit then mismatch else return false

/-- A bare `from` where a column is expected. -/
def isFrom (kind : ExpressionKind whole) (item : Item) : Bool :=
  match kind with
  | .column _ [] false => item.keyword == "FROM"
  | _ => false

/-- One member of a projection. -/
def selectItem : Parse whole Unit := do
  let start ← peek
  match ← wildcardOrExpression g with
  | none => wildcardOptions g
  | some kind =>
    if start.any (isFrom kind ·.toItem) then mismatch
    let _ ← optionalAlias reservedForColumn

/-- `RETURNING` with its columns, if it is next. -/
def returning : Parse whole Unit := after "RETURNING" (commaList (selectItem g))

end MigrationLedger.Sql.Parse
