/-
# Blocks of statements

Statements that hold other statements: conditions, cases, loops and the bodies
of procedures. Every statement inside a block ends with a semicolon.
-/

import MigrationLedger.Sql.Grammar.Column

namespace MigrationLedger.Sql.Parse

variable {whole : List Lexeme} (g : Grammar whole)

/-- Statements up to one of the keywords in `ends`, which is left. -/
def statementList (ends : List String) : Parse whole Unit := loop do
  match ← peek with
  | none => return false
  | some item =>
    if ends.contains item.keyword then return false
    let _ ← nested g.statement
    expect ";"
    return true

/-- Statements, possibly between `BEGIN` and `END`. -/
def block (ends : List String) : Parse whole Unit := do
  let framed ← keyword "BEGIN"
  statementList g ends
  if framed then expectKeyword "END"

/-- A condition and the block that it guards. -/
def guardedBlock (ends : List String) : Parse whole Unit := do
  expression g
  expectKeyword "THEN"
  block g ends

/-- A choice by conditions after `IF`. -/
def conditional : Parse whole Unit := do
  guardedBlock g ["ELSE", "ELSEIF", "END"]
  loop do
    if ← keyword "ELSEIF" then
      guardedBlock g ["ELSE", "ELSEIF", "END"]
      return true
    else return false
  after "ELSE" (block g ["END"])
  expectKeywords ["END", "IF"]

/-- A choice by cases after `CASE`. -/
def caseStatement : Parse whole Unit := do
  if !(← peekKeyword "WHEN") then expression g
  expectKeyword "WHEN"
  guardedBlock g ["WHEN", "ELSE", "END"]
  loop do
    if ← keyword "WHEN" then
      guardedBlock g ["WHEN", "ELSE", "END"]
      return true
    else return false
  after "ELSE" (block g ["END"])
  expectKeyword "END"
  optional ["CASE"]

/-- A loop after `WHILE`. -/
def whileLoop : Parse whole Unit := do
  expression g
  block g ["END"]

/-- An error that is raised after `RAISE`. -/
def raise : Parse whole Unit := do
  if ← keywords ["USING", "MESSAGE"] then
    expect "="
    expression g
  else
    let _ ← attempt (expression g)

/-- A parameter of a procedure. -/
def procedureParameter : Parse whole Unit := do
  optional ["IN", "OUT", "INOUT"]
  anyIdentifier
  anyType
  if ← symbol "=" then expression g

/-- A new procedure after its keyword. -/
def createProcedure : Parse whole Unit := do
  named .label
  if ← symbol "(" then
    if !(← symbol ")") then
      loop do
        if (← peek).any (·.isWord) then procedureParameter g
        let comma ← symbol ","
        if ← symbol ")" then return false
        if comma then return true else mismatch
  after "LANGUAGE" anyIdentifier
  expectKeyword "AS"
  block g ["END"]

/-- A new domain after its keyword. -/
def createDomain : Parse whole Unit := do
  named .label
  expectKeyword "AS"
  anyType
  after "COLLATE" anyIdentifier
  after "DEFAULT" (expression g)
  loop (tableConstraint g .otherForeignKey)

/-- A new user after its keyword. -/
def createUser : Parse whole Unit := do
  let _ ← ifNotExists
  anyIdentifier
  loop do
    if ← symbol "," then return true
    match ← peek with
    | some item =>
      if !item.isWord || ["WITH", "TAG"].contains item.keyword then return false
      skip
      expect "="
      match ← nextToken? with
      | some (.word _) | some (.number _ _) | some (.literal .plain _) => return true
      | _ => mismatch
    | none => return false

/-- A new foreign server after its keyword. -/
def createServer : Parse whole Unit := do
  let _ ← ifNotExists
  anyName
  after "TYPE" anyIdentifier
  after "VERSION" anyIdentifier
  expectKeywords ["FOREIGN", "DATA", "WRAPPER"]
  anyName
  after "OPTIONS" <| parenthesized <| commaList do
    anyIdentifier
    anyIdentifier

end MigrationLedger.Sql.Parse
