/-
# Columns and constraints

The parts of a table that a definition lists: columns with their types and
options, and constraints of the table as a whole. Foreign keys are mentioned
here with the role that the enclosing statement gives them.
-/

import MigrationLedger.Sql.Grammar.Query

namespace MigrationLedger.Sql.Parse

variable {whole : List Lexeme} (g : Grammar whole)

/-- When a constraint is checked and whether it is enforced. -/
def constraintTraits : Parse whole Unit := loop do
  if ← keywords ["NOT", "DEFERRABLE"] then return true
  if ← keyword "DEFERRABLE" then return true
  if ← keyword "INITIALLY" then
    let _ ← expectOneOf ["DEFERRED", "IMMEDIATE"]
    return true
  if ← keyword "ENFORCED" then return true
  keywords ["NOT", "ENFORCED"]

/-- What is done to rows that refer to a changed row. -/
def referentialAction : Parse whole Unit := do
  match ← expectOneOf ["RESTRICT", "CASCADE", "SET", "NO"] with
  | "SET" => let _ ← expectOneOf ["NULL", "DEFAULT"]
  | "NO" => expectKeyword "ACTION"
  | _ => return ()

/-- What follows the target of a foreign key. -/
def referenceTraits : Parse whole Unit := do
  loop do
    if ← keyword "MATCH" then
      let _ ← expectOneOf ["FULL", "PARTIAL", "SIMPLE"]
      return true
    if ← keywords ["ON", "DELETE"] then referentialAction; return true
    if ← keywords ["ON", "UPDATE"] then referentialAction; return true
    return false
  constraintTraits

/-- The target of a foreign key after its keyword. -/
def reference (role : Role) : Parse whole Unit := do
  named role
  optionalColumnNames
  referenceTraits

/-- Options of a number sequence. -/
def sequenceOptions : Parse whole Unit := do
  let signed : Parse whole Unit := do
    let _ ← oneSymbol ["-", "+"]
    value
  after "INCREMENT" do
    optional ["BY"]
    signed
  if !(← keywords ["NO", "MINVALUE"]) then after "MINVALUE" signed
  if !(← keywords ["NO", "MAXVALUE"]) then after "MAXVALUE" signed
  after "START" do
    optional ["WITH"]
    signed
  after "CACHE" signed
  if !(← keywords ["NO", "CYCLE"]) then
    let _ ← keyword "CYCLE"

/-- A generated column after its keyword. Answers whether it is one. -/
def generated : Parse whole Bool := do
  let identity : Parse whole Bool := do
    if ← symbol "(" then
      sequenceOptions
      expect ")"
    return true
  if ← keywords ["ALWAYS", "AS", "IDENTITY"] then identity
  else if ← keywords ["BY", "DEFAULT", "AS", "IDENTITY"] then identity
  else if ← keywords ["ALWAYS", "AS"] then
    if ← symbol "(" then
      within false (expression g)
      expect ")"
      optional ["STORED", "VIRTUAL"]
      return true
    else return false
  else return false

/-- One option of a column, if there is one. Options of other dialects are read
over but answer that no option follows. -/
def columnOptionBody (role : Role) : Parse whole Bool := do
  if ← keywords ["CHARACTER", "SET"] then anyName; return true
  if ← keyword "COLLATE" then anyName; return true
  if ← keywords ["NOT", "NULL"] then return true
  if ← keyword "COMMENT" then textLiteral; return true
  if ← keyword "NULL" then return true
  if ← keyword "DEFAULT" then expression g; return true
  if ← keywords ["PRIMARY", "KEY"] then constraintTraits; return true
  if ← keyword "UNIQUE" then
    optional ["KEY"]
    constraintTraits
    return true
  if ← keyword "REFERENCES" then reference role; return true
  if ← keyword "CHECK" then
    parenthesized (within false (expression g))
    constraintTraits
    return true
  optional ["AUTO_INCREMENT"]
  optional ["AUTOINCREMENT"]
  optional ["ASC"]
  optional ["DESC"]
  let _ ← keywords ["ON", "UPDATE"]
  if ← keyword "GENERATED" then generated g
  else if ← keyword "AS" then
    parenthesized (expression g)
    optional ["STORED", "VIRTUAL"]
    return true
  else
    optional ["IDENTITY"]
    return false

/-- One option of a column, if there is one. -/
def columnOption (role : Role) : Parse whole Bool := within true (columnOptionBody g role)

/-- The options of a column, each possibly named. -/
def columnOptions (role : Role) : Parse whole Unit := loop do
  if ← keyword "CONSTRAINT" then
    labelled
    require (columnOption g role)
    return true
  else columnOption g role

/-- A column: its name, type and options. -/
def columnDefinition (role : Role) : Parse whole Unit := do
  named .column
  anyType
  columnOptions g role

/-- How an index is built, if it is said. -/
def indexMethod : Parse whole Unit := after "USING" anyIdentifier

/-- A column or expression that is indexed. -/
def indexedColumn : Parse whole Unit := do
  expression g
  if !(← peekOneOf ["ASC", "DESC", "NULLS", "WITH"]) then
    let _ ← attempt anyName
  optional ["ASC", "DESC"]
  after "NULLS" do
    let _ ← expectOneOf ["FIRST", "LAST"]

/-- Indexed columns between parentheses. -/
def indexedColumns : Parse whole Unit := parenthesized (commaList (indexedColumn g))

/-- Options behind an index. -/
def indexOptions : Parse whole Unit := loop do
  if ← keyword "USING" then anyIdentifier; return true
  if ← keyword "COMMENT" then textLiteral; return true
  return false

/-- The columns of a key, with the name and method of its index. -/
def keyColumns : Parse whole Unit := do
  let _ ← attempt labelled
  indexMethod
  indexedColumns g
  indexOptions
  constraintTraits

/-- A constraint of a table, if there is one. -/
def tableConstraint (role : Role) : Parse whole Bool := do
  let isNamed ← keyword "CONSTRAINT"
  if isNamed then labelled
  match ← oneOf ["UNIQUE", "PRIMARY", "FOREIGN", "CHECK"] with
  | some "UNIQUE" =>
    if ← peekOneOf ["KEY", "INDEX"] then mismatch
    after "NULLS" do
      optional ["NOT"]
      expectKeyword "DISTINCT"
    keyColumns g
    return true
  | some "PRIMARY" =>
    expectKeyword "KEY"
    keyColumns g
    return true
  | some "FOREIGN" =>
    expectKeyword "KEY"
    let _ ← attempt labelled
    columnNames
    expectKeyword "REFERENCES"
    reference role
    return true
  | some _ =>
    parenthesized (expression g)
    if !(← keywords ["NOT", "ENFORCED"]) then
      let _ ← keyword "ENFORCED"
    return true
  | none => if isNamed then mismatch else return false

/-- Columns and constraints between parentheses, if they are next. A comma may
trail. -/
def tableElements (role : Role) : Parse whole Unit := do
  if ← symbol "(" then
    if ← symbol ")" then return ()
    loop do
      if !(← tableConstraint g role) then
        if (← peek).any (·.isWord) then columnDefinition g role else mismatch
      let comma ← symbol ","
      if ← symbol ")" then return false
      if comma then return true else mismatch

end MigrationLedger.Sql.Parse
