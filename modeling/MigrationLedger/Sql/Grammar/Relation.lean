/-
# Relations

What stands after `FROM`: tables, calls that return tables, subqueries and
joins of these. A table is mentioned as a relation here; this is the place
where most names of tables are found.
-/

import MigrationLedger.Sql.Grammar.Projection

namespace MigrationLedger.Sql.Parse

variable {whole : List Lexeme} (g : Grammar whole)

/-- Names, and possibly types, of the columns of an aliased table. -/
def aliasColumns : Parse whole Unit := do
  if ← symbol "(" then
    commaList do
      anyIdentifier
      let _ ← attempt anyType
    expect ")"

/-- The alias of a table, if there is one. -/
def tableAlias : Parse whole Unit := do
  if ← optionalAlias reservedForTable then aliasColumns

/-- The arguments of a call that returns a table, after the opening
parenthesis. -/
def tableArguments : Parse whole Unit := do
  if ← symbol ")" then return ()
  commaList (argument g)
  expect ")"

/-- A sample of a table, if one is asked for. -/
def tableSample : Parse whole Unit := do
  match ← oneOf ["TABLESAMPLE", "SAMPLE"] with
  | none => return ()
  | some _ =>
    optional ["BERNOULLI", "ROW", "SYSTEM", "BLOCK"]
    let parenthesis ← symbol "("
    if parenthesis && (← peekKeyword "BUCKET") then
      skip
      wholeNumber
      expectKeywords ["OUT", "OF"]
      wholeNumber
      after "ON" (expression g)
    else
      match ← attempt (expression g) with
      | some () => pure ()
      | none => anyIdentifier
      optional ["ROWS", "PERCENT"]
    if parenthesis then expect ")"
    match ← oneOf ["REPEATABLE", "SEED"] with
    | some _ => parenthesized value
    | none => pure ()
    after "OFFSET" (expression g)

/-- Rows turned into columns. The keyword has been read. -/
def pivot : Parse whole Unit := do
  parenthesized do
    commaList do
      anyName
      call g
      let _ ← optionalAlias ("FOR" :: reservedForColumn)
    expectKeyword "FOR"
    if ← symbol "(" then
      commaList (expression g)
      expect ")"
    else
      let _ ← g.expression Strength.comparison
    expectKeyword "IN"
    parenthesized do
      if ← keyword "ANY" then afterAll ["ORDER", "BY"] (commaList (orderExpression g))
      else if ← peekSubquery then g.query
      else
        commaList do
          expression g
          let _ ← optionalAlias reservedForColumn
    afterAll ["DEFAULT", "ON", "NULL"] (parenthesized (expression g))
  tableAlias

/-- Columns turned into rows. The keyword has been read. -/
def unpivot : Parse whole Unit := do
  if ← keyword "INCLUDE" then expectKeyword "NULLS"
  else after "EXCLUDE" (expectKeyword "NULLS")
  parenthesized do
    expression g
    expectKeyword "FOR"
    anyIdentifier
    expectKeyword "IN"
    parenthesized <| commaList do
      expression g
      let _ ← optionalAlias reservedForColumn
  tableAlias

/-- Any number of pivots. -/
def pivots : Parse whole Unit := loop do
  match ← oneOf ["PIVOT", "UNPIVOT"] with
  | some "PIVOT" => pivot g; return true
  | some _ => unpivot g; return true
  | none => return false

/-- A subquery after its opening parenthesis, with an alias. -/
def derivedTable : Parse whole Unit := do
  g.query
  expect ")"
  tableAlias

/-- What joins two tables: a condition, columns in common, or nothing. -/
def joinConstraint (natural : Bool) : Parse whole Unit := do
  if natural then return ()
  if ← keyword "ON" then expression g
  else after "USING" qualifiedColumnNames

/-- What follows a table: one join, if there is one. -/
def join : Parse whole Bool := do
  optional ["GLOBAL"]
  if ← keyword "CROSS" then
    let _ ← expectOneOf ["JOIN", "APPLY"]
    let _ ← g.tableFactor
    return true
  else if ← keyword "OUTER" then
    expectKeyword "APPLY"
    let _ ← g.tableFactor
    return true
  else if ← keyword "ASOF" then
    expectKeyword "JOIN"
    let _ ← g.tableFactor
    expectKeyword "MATCH_CONDITION"
    parenthesized (expression g)
    joinConstraint g false
    return true
  else
    let natural ← keyword "NATURAL"
    let kind ← oneOf ["INNER", "JOIN", "LEFT", "RIGHT", "ANTI", "SEMI", "FULL", "OUTER",
      "STRAIGHT_JOIN"]
    match kind with
    | some "JOIN" | some "STRAIGHT_JOIN" => pure ()
    | some "LEFT" | some "RIGHT" =>
      optional ["OUTER", "SEMI", "ANTI"]
      expectKeyword "JOIN"
    | some "FULL" =>
      optional ["OUTER"]
      expectKeyword "JOIN"
    | some "OUTER" => mismatch
    | some _ => expectKeyword "JOIN"
    | none => if natural then mismatch else return false
    let _ ← g.tableFactor
    joinConstraint g natural
    return true

/-- Any number of joins. Answers whether there was one. -/
def joins : Parse whole Bool := do
  let first ← join g
  if first then loop (join g)
  return first

/-- A table with the joins that follow it. -/
def tableAndJoins : Parse whole FactorKind := do
  let kind ← g.tableFactor
  return if ← joins g then .joined else kind

/-- Tables with their joins, separated by commas. -/
def tables : Parse whole Unit := strictCommaList do
  let _ ← tableAndJoins g

/-- What an opening parenthesis begins among tables: a subquery or a join. -/
def parenthesizedTable : Parse whole FactorKind := do
  match ← attempt (derivedTable g) with
  | some () => pivots g; return .single
  | none =>
    match ← tableAndJoins g with
    | .joined =>
      expect ")"
      tableAlias
      return .joined
    | .single => mismatch

/-- A single table, a call, a subquery or a join in parentheses. -/
def tableFactorBody : Parse whole FactorKind := do
  if ← keyword "LATERAL" then
    if ← symbol "(" then derivedTable g
    else
      anyName
      expect "("
      tableArguments g
      tableAlias
    return .single
  else if ← keyword "TABLE" then
    parenthesized (expression g)
    tableAlias
    return .single
  else if ← symbol "(" then parenthesizedTable g
  else
    named .relation
    if ← symbol "(" then tableArguments g
    let _ ← keywords ["WITH", "ORDINALITY"]
    tableAlias
    if (← peekKeyword "WITH") && (← peekAt 1).any (·.isSymbol "(") then
      skip
      parenthesized (commaList (expression g))
    tableSample g
    pivots g
    return .single

end MigrationLedger.Sql.Parse
