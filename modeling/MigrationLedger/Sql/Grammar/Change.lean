/-
# Changes of rows

Insertion, update, deletion and merging. Each of them also stands as the body
of a query after common tables.
-/

import MigrationLedger.Sql.Grammar.Relation

namespace MigrationLedger.Sql.Parse

variable {whole : List Lexeme} (g : Grammar whole)

/-- Rows of values. -/
def valueRows : Parse whole Unit := commaList do
  let _ ← keyword "ROW"
  parenthesized (commaList (expression g))

/-- What happens on a conflict, named before the table. -/
def conflictClause : Parse whole Unit :=
  after "OR" do
    let _ ← expectOneOf ["REPLACE", "ROLLBACK", "ABORT", "FAIL", "IGNORE"]

/-- What happens on a conflict, named after the rows. -/
def onConflict : Parse whole Unit :=
  after "ON" do
    if ← keyword "CONFLICT" then
      if ← keywords ["ON", "CONSTRAINT"] then named .label
      else optionalColumnNames
      expectKeyword "DO"
      if ← keyword "NOTHING" then return ()
      expectKeywords ["UPDATE", "SET"]
      commaList (assignment g)
      after "WHERE" (expression g)
    else
      expectKeywords ["DUPLICATE", "KEY", "UPDATE"]
      commaList (assignment g)

/-- A query in parentheses begins here. -/
def peekParenthesizedQuery : Parse whole Bool := do
  return (← peekSymbol "(") &&
    (← peekAt 1).any fun item => ["SELECT", "WITH"].contains item.keyword

/-- An insertion after its keyword. -/
def insertBody : Parse whole Unit := do
  conflictClause
  optional ["OVERWRITE"]
  optional ["INTO"]
  optional ["TABLE"]
  named .relation
  if !(← keywords ["DEFAULT", "VALUES"]) then
    if !(← peekParenthesizedQuery) then
      optionalQualifiedColumnNames
      after "PARTITION" (parenthesized (commaList (expression g)))
    if !(← peekOneOf ["FORMAT", "SETTINGS"]) then g.query
  onConflict g
  returning g

/-- An update after its keyword. -/
def updateBody : Parse whole Unit := do
  conflictClause
  let _ ← tableAndJoins g
  let early ← keyword "FROM"
  if early then tables g
  expectKeyword "SET"
  commaList (assignment g)
  if !early then after "FROM" (tables g)
  after "WHERE" (expression g)
  returning g
  after "LIMIT" (expression g)

/-- A deletion after its keyword. -/
def deleteBody : Parse whole Unit := do
  if !(← keyword "FROM") then
    commaList (named .aside)
    expectKeyword "FROM"
  commaList do
    let _ ← tableAndJoins g
  after "USING" <| commaList do
    let _ ← tableAndJoins g
  after "WHERE" (expression g)
  returning g
  afterAll ["ORDER", "BY"] (commaList (orderExpression g))
  after "LIMIT" do
    if !(← keyword "ALL") then expression g

/-- One clause of a merge, if there is one. -/
def mergeClause : Parse whole Bool := do
  if ← keyword "WHEN" then
    let missing ← keyword "NOT"
    expectKeyword "MATCHED"
    let bySource ← keywords ["BY", "SOURCE"]
    let byTarget ← if bySource then pure false else keywords ["BY", "TARGET"]
    if (bySource || byTarget) && !missing then mismatch
    after "AND" (expression g)
    expectKeyword "THEN"
    match ← expectOneOf ["UPDATE", "INSERT", "DELETE"] with
    | "UPDATE" =>
      if missing && !bySource then mismatch
      expectKeyword "SET"
      commaList (assignment g)
      after "WHERE" (expression g)
      afterAll ["DELETE", "WHERE"] (expression g)
    | "INSERT" =>
      if !missing || bySource then mismatch
      optionalQualifiedColumnNames
      expectKeyword "VALUES"
      valueRows g
      after "WHERE" (expression g)
    | _ => if missing && !bySource then mismatch
    return true
  else
    return false

/-- A merge after its keyword. -/
def mergeBody : Parse whole Unit := do
  optional ["INTO"]
  let _ ← g.tableFactor
  expectKeyword "USING"
  let _ ← g.tableFactor
  expectKeyword "ON"
  expression g
  loop (mergeClause g)
  match ← oneOf ["OUTPUT", "RETURNING"] with
  | some _ => commaList (selectItem g)
  | none => return ()

end MigrationLedger.Sql.Parse
