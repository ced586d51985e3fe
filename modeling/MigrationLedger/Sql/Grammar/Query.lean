/-
# Queries

A query is a body built from selections by set operations, with common tables
in front and an ordering, limits and locks behind. A selection may begin with
its tables.
-/

import MigrationLedger.Sql.Grammar.Change

namespace MigrationLedger.Sql.Parse

variable {whole : List Lexeme} (g : Grammar whole)

/-- A common table. -/
def commonTable : Parse whole Unit := do
  labelled
  if !(← peekKeyword "AS") then aliasColumns
  expectKeyword "AS"
  parenthesized g.query
  after "FROM" anyIdentifier

/-- `ALL` or `DISTINCT`, the latter possibly on some columns. -/
def distinct : Parse whole Unit := do
  match ← oneOf ["ALL", "DISTINCT"] with
  | some "ALL" => if ← peekKeyword "DISTINCT" then mismatch
  | some _ =>
    if ← peekKeyword "ALL" then mismatch
    after "ON" <| parenthesized do
      if !(← peekSymbol ")") then commaList (expression g)
  | none => return ()

/-- `TOP` with a quantity, if it is next. -/
def top : Parse whole Unit :=
  after "TOP" do
    if ← symbol "(" then
      expression g
      expect ")"
    else wholeNumber
    optional ["PERCENT"]
    let _ ← keywords ["WITH", "TIES"]

/-- An expression, or a list of expressions in parentheses that may be
empty. -/
def groupingSet (bare : Bool) : Parse whole Unit := do
  if ← symbol "(" then
    if ← symbol ")" then return ()
    commaList (expression g)
    expect ")"
  else if bare then expression g else mismatch

/-- One member of a grouping. -/
def groupExpression : Parse whole Unit := do
  if ← keywords ["GROUPING", "SETS"] then parenthesized (commaList (groupingSet g false))
  else if ← keyword "CUBE" then parenthesized (commaList (groupingSet g true))
  else if ← keyword "ROLLUP" then parenthesized (commaList (groupingSet g true))
  else if ← symbols ["(", ")"] then return ()
  else expression g

/-- A grouping, if there is one. -/
def grouping : Parse whole Unit :=
  afterAll ["GROUP", "BY"] do
    if !(← keyword "ALL") then commaList (groupExpression g)
    afterAll ["GROUPING", "SETS"] (parenthesized (commaList (groupingSet g true)))

/-- Named windows. -/
def namedWindows : Parse whole Unit := commaList do
  labelled
  expectKeyword "AS"
  expect "("
  windowBody g

/-- `WINDOW` and `QUALIFY` in either order. -/
def windowsAndFilter : Parse whole Unit := do
  if ← keyword "WINDOW" then
    namedWindows g
    after "QUALIFY" (expression g)
  else
    after "QUALIFY" do
      expression g
      after "WINDOW" (namedWindows g)

/-- The table that a selection is stored in, if there is one. -/
def selectInto : Parse whole Unit :=
  after "INTO" do
    optional ["TEMP", "TEMPORARY"]
    optional ["UNLOGGED"]
    optional ["TABLE"]
    named .aside

/-- A selection. -/
def selection : Parse whole Unit := do
  let early ← keyword "FROM"
  if early then tables g
  let whole ← peekKeyword "SELECT"
  if early && !whole then return ()
  expectKeyword "SELECT"
  distinct g
  top g
  commaList (selectItem g)
  selectInto
  if !early then after "FROM" (tables g)
  loop do
    if ← keywords ["LATERAL", "VIEW"] then
      optional ["OUTER"]
      expression g
      anyName
      let _ ← optionalAlias reservedForTable
      return true
    else return false
  after "WHERE" (expression g)
  grouping g
  afterAll ["CLUSTER", "BY"] (commaList (expression g))
  afterAll ["DISTRIBUTE", "BY"] (commaList (expression g))
  afterAll ["SORT", "BY"] (commaList (orderExpression g))
  after "HAVING" (expression g)
  windowsAndFilter g

/-- A table named in place of a selection. Three tokens are read unless the
second one is a point, and then the third is the table. -/
def tableSelection : Parse whole Unit := do
  let first ← next?
  let second ← next?
  let third ← next?
  match first.bind Occurrence.word? with
  | some name =>
    if second.any (·.isSymbol ".") then
      match third.bind Occurrence.word? with
      | some table => mention .aside name [table.name]
      | none => mismatch
    else mention .aside name []
  | none => mismatch

/-- A selection, rows of values, or a query in parentheses. -/
def queryTerm : Parse whole Unit := do
  if ← peekOneOf ["SELECT", "FROM"] then selection g
  else if ← symbol "(" then
    g.query
    expect ")"
  else
    match ← oneOf ["VALUES", "VALUE", "TABLE"] with
    | some "TABLE" => tableSelection
    | some _ => valueRows g
    | none => mismatch

/-- How tightly the next set operation binds. -/
def setStrength : Parse whole Nat := do
  match ← keywordAt 0 with
  | some "UNION" | some "EXCEPT" | some "MINUS" => return 10
  | some "INTERSECT" => return 20
  | _ => return 0

/-- Which rows a set operation keeps, and how columns are matched. -/
def setQuantifier : Parse whole Unit := do
  if ← keywords ["DISTINCT", "BY", "NAME"] then return ()
  if ← keywords ["BY", "NAME"] then return ()
  if ← keyword "ALL" then
    let _ ← keywords ["BY", "NAME"]
  else
    let _ ← keyword "DISTINCT"

/-- Selections joined by set operations that bind more tightly than
`strength`. -/
def queryBody (fuel : Nat) (strength : Nat) : Parse whole Unit :=
  match fuel with
  | 0 => mismatch
  | fuel + 1 => do
    queryTerm g
    loop do
      let next ← setStrength
      if next ≤ strength then return false
      skip
      setQuantifier
      queryBody fuel next
      return true

/-- An ordering, if there is one. -/
def ordering : Parse whole Unit :=
  afterAll ["ORDER", "BY"] do
    if ← keyword "ALL" then
      optional ["ASC", "DESC"]
      after "NULLS" do
        let _ ← expectOneOf ["FIRST", "LAST"]
    else commaList (orderExpression g)

/-- How many rows to leave out. -/
def offset : Parse whole Unit := do
  expression g
  optional ["ROW", "ROWS"]

/-- How many rows to keep and to leave out. -/
def limits : Parse whole Unit := do
  let early ← keyword "OFFSET"
  if early then offset g
  after "LIMIT" do
    if !(← keyword "ALL") then expression g
  if !early then after "OFFSET" (offset g)

/-- How many rows to fetch, if it is said. -/
def fetch : Parse whole Unit :=
  after "FETCH" do
    let _ ← expectOneOf ["FIRST", "NEXT"]
    match ← oneOf ["ROW", "ROWS"] with
    | some _ => pure ()
    | none =>
      value
      optional ["PERCENT"]
      let _ ← expectOneOf ["ROW", "ROWS"]
    if !(← keyword "ONLY") then expectKeywords ["WITH", "TIES"]

/-- A lock on the rows read, if there is one. -/
def lock : Parse whole Bool := do
  if ← keyword "FOR" then
    let _ ← expectOneOf ["UPDATE", "SHARE"]
    after "OF" (named .aside)
    if !(← keyword "NOWAIT") then
      let _ ← keywords ["SKIP", "LOCKED"]
    return true
  else return false

/-- A query, or a change of rows in place of its body. -/
def queryOrChange : Parse whole Unit := do
  after "WITH" do
    optional ["RECURSIVE"]
    commaList (commonTable g)
  match ← oneOf ["INSERT", "UPDATE", "DELETE", "MERGE"] with
  | some "INSERT" => insertBody g
  | some "UPDATE" => updateBody g
  | some "DELETE" => deleteBody g
  | some _ => mergeBody g
  | none =>
    queryBody g (← turns) 0
    ordering g
    limits g
    fetch
    loop lock

end MigrationLedger.Sql.Parse
