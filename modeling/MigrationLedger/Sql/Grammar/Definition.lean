/-
# Definitions

Creating, altering and dropping what a schema holds. Names of new, altered and
dropped tables are mentioned for the rewriting, names of new views in passing;
names of indexes, sequences and types are not tables of their own.
-/

import MigrationLedger.Sql.Grammar.Block

namespace MigrationLedger.Sql.Parse

variable {whole : List Lexeme} (g : Grammar whole)

/-- One storage option behind the columns of a table. -/
def tableOption : Parse whole Bool := do
  let valued : Parse whole Bool := do
    let _ ← symbol "="
    match ← next? with
    | some item =>
      match item.token with
      | .word _ | .number _ _ | .literal _ _ => pure ()
      | _ => mismatch
    | none => mismatch
    let _ ← symbol ","
    return true
  if ← keyword "COMMENT" then
    let _ ← symbol "="
    textLiteral
    let _ ← symbol ","
    return true
  if ← keyword "ENGINE" then
    let _ ← symbol "="
    anyIdentifier
    if ← symbol "(" then
      commaListUntil anyIdentifier ")"
      expect ")"
    let _ ← symbol ","
    return true
  if (← oneOf ["AUTO_INCREMENT", "CHARSET", "COLLATE", "ROW_FORMAT", "CHECKSUM", "MAX_ROWS",
      "MIN_ROWS", "AVG_ROW_LENGTH"]).isSome then valued
  else if ← keyword "DEFAULT" then
    let _ ← expectOneOf ["CHARSET", "COLLATE"]
    valued
  else return false

/-- A new table after its keyword. -/
def createTable : Parse whole Unit := do
  let _ ← ifNotExists
  named .relation
  match ← oneOf ["LIKE", "ILIKE"] with
  | some _ => named .aside
  | none => pure ()
  after "CLONE" (named .aside)
  tableElements g .foreignKey
  let _ ← keywords ["WITHOUT", "ROWID"]
  afterAll ["PARTITIONED", "BY"] (parenthesized (commaList (columnDefinition g .otherForeignKey)))
  after "INHERITS" (parenthesized (commaList (named .aside)))
  let options ← optionsAfter g "WITH"
  if !(← optionsAfter g "TBLPROPERTIES") && !options then loop tableOption
  afterAll ["ON", "COMMIT"] do
    if !(← keyword "DROP") then
      let _ ← expectOneOf ["PRESERVE", "DELETE"]
      expectKeyword "ROWS"
  optional ["STRICT"]
  after "AS" g.query

/-- A new view from `MATERIALIZED` or its keyword on. -/
def createView : Parse whole Unit := do
  optional ["MATERIALIZED"]
  expectKeyword "VIEW"
  let guarded ← ifNotExists
  named .aside
  if !guarded then
    let _ ← ifNotExists
  if ← symbol "(" then
    if !(← symbol ")") then
      commaList anyIdentifier
      expect ")"
  let _ ← optionsAfter g "WITH"
  after "CLUSTER" do
    expectKeyword "BY"
    optionalColumnNames
  expectKeyword "AS"
  g.query

/-- A new index after its keyword. -/
def createIndex : Parse whole Unit := do
  optional ["CONCURRENTLY"]
  let guarded ← ifNotExists
  if guarded || !(← peekKeyword "ON") then
    named .label
    indexMethod
  expectKeyword "ON"
  named .relation
  indexMethod
  indexedColumns g
  after "INCLUDE" columnNames
  after "NULLS" do
    optional ["NOT"]
    expectKeyword "DISTINCT"
  after "WHERE" (expression g)
  indexOptions

/-- A new function or macro after its keyword. -/
def createMacro : Parse whole Unit := do
  named .label
  parenthesized do
    if !(← peekSymbol ")") then
      commaList do
        anyIdentifier
        if ← oneSymbol [":=", "=>"] then expression g
  expectKeyword "AS"
  if ← keyword "TABLE" then g.query else expression g

/-- A new secret after its keyword. -/
def createSecret : Parse whole Unit := do
  let _ ← ifNotExists
  if !(← peekSymbol "(") then
    if !(← peekKeyword "IN") then anyIdentifier
    after "IN" anyIdentifier
  parenthesized do
    expectKeyword "TYPE"
    anyIdentifier
    loop do
      if ← symbol "," then
        anyIdentifier
        anyIdentifier
        return true
      else return false

/-- A new schema after its keyword. -/
def createSchema : Parse whole Unit := do
  let _ ← ifNotExists
  if ← keyword "AUTHORIZATION" then anyIdentifier
  else
    anyName
    after "AUTHORIZATION" anyIdentifier
  afterAll ["DEFAULT", "COLLATE"] (expression g)
  let _ ← optionsAfter g "WITH"
  let _ ← optionsAfter g "OPTIONS"
  after "CLONE" anyName

/-- A new database after its keyword. -/
def createDatabase : Parse whole Unit := do
  let _ ← ifNotExists
  anyName
  loop do
    match ← oneOf ["LOCATION", "MANAGEDLOCATION", "COMMENT"] with
    | some _ => textLiteral; return true
    | none => return false

/-- A new sequence after its keyword. -/
def createSequence : Parse whole Unit := do
  let _ ← ifNotExists
  named .label
  after "AS" anyType
  sequenceOptions
  afterAll ["OWNED", "BY"] do
    if !(← keyword "NONE") then named .column

/-- A new type after its keyword. -/
def createType : Parse whole Unit := do
  named .label
  if ← keyword "AS" then
    if ← keyword "ENUM" then
      parenthesized (commaListUntil anyIdentifier ")")
    else
      parenthesized <| commaListUntil (do
        anyIdentifier
        anyType
        after "COLLATE" anyName) ")"

/-- A new policy after its keyword. -/
def createPolicy : Parse whole Unit := do
  labelled
  expectKeyword "ON"
  named .relation
  after "AS" do
    let _ ← expectOneOf ["PERMISSIVE", "RESTRICTIVE"]
  after "FOR" do
    let _ ← expectOneOf ["ALL", "SELECT", "INSERT", "UPDATE", "DELETE"]
  after "TO" (commaList anyIdentifier)
  after "USING" (parenthesized (expression g))
  afterAll ["WITH", "CHECK"] (parenthesized (expression g))

/-- A new table that is served by a module, after its keyword. -/
def createVirtualTable : Parse whole Unit := do
  expectKeyword "TABLE"
  let _ ← ifNotExists
  named .relation
  expectKeyword "USING"
  anyIdentifier
  optionalColumnNames

/-- A table whose rows are kept elsewhere, after its keyword. -/
def createExternalTable : Parse whole Unit := do
  expectKeyword "TABLE"
  let _ ← ifNotExists
  named .relation
  tableElements g .foreignKey
  afterAll ["STORED", "AS"] anyIdentifier
  after "LOCATION" textLiteral
  let _ ← optionsAfter g "TBLPROPERTIES"

/-- A new role after its keyword. -/
def createRole : Parse whole Unit := do
  let _ ← ifNotExists
  commaList anyName
  optional ["WITH"]

/-- A new extension after its keyword. -/
def createExtension : Parse whole Unit := do
  let _ ← ifNotExists
  anyIdentifier
  after "WITH" do
    after "SCHEMA" anyIdentifier
    after "VERSION" anyIdentifier
    optional ["CASCADE"]

/-- A definition after `CREATE`. -/
def createBody : Parse whole Unit := do
  let replacing ← keywords ["OR", "REPLACE"]
  let _ ← keywords ["OR", "ALTER"]
  optional ["LOCAL"]
  optional ["GLOBAL"]
  optional ["TRANSIENT"]
  optional ["TEMP", "TEMPORARY"]
  optional ["PERSISTENT"]
  if ← keyword "TABLE" then createTable g
  else if ← peekOneOf ["MATERIALIZED", "VIEW"] then createView g
  else
    match ← oneOf ["POLICY", "EXTERNAL", "FUNCTION", "DOMAIN", "MACRO", "SECRET", "USER"] with
    | some "POLICY" => createPolicy g
    | some "EXTERNAL" => createExternalTable g
    | some "FUNCTION" | some "MACRO" => createMacro g
    | some "DOMAIN" => createDomain g
    | some "USER" => createUser
    | some _ => createSecret
    | none =>
      if replacing then mismatch
      match ← oneOf ["EXTENSION", "INDEX", "UNIQUE", "VIRTUAL", "SCHEMA", "DATABASE", "ROLE",
        "SEQUENCE", "TYPE", "PROCEDURE", "SERVER"] with
      | some "EXTENSION" => createExtension
      | some "INDEX" => createIndex g
      | some "UNIQUE" =>
        expectKeyword "INDEX"
        createIndex g
      | some "VIRTUAL" => createVirtualTable
      | some "SCHEMA" => createSchema g
      | some "DATABASE" => createDatabase
      | some "ROLE" => createRole
      | some "SEQUENCE" => createSequence
      | some "TYPE" => createType
      | some "PROCEDURE" => createProcedure g
      | some "SERVER" => createServer
      | _ => mismatch

/-- `CASCADE` or `RESTRICT`, if one is next. -/
def dropBehavior : Parse whole Unit := optional ["CASCADE", "RESTRICT"]

/-- Removal after `DROP`. -/
def dropBody : Parse whole Unit := do
  optional ["TEMPORARY"]
  optional ["PERSISTENT"]
  let several (role : Role) (plain : Bool) : Parse whole Unit := do
    ifExists
    commaList (named role)
    let cascade ← keyword "CASCADE"
    let restrict ← keyword "RESTRICT"
    let purge ← keyword "PURGE"
    if cascade && restrict then mismatch
    if plain && (cascade || restrict || purge) then mismatch
    after "ON" (named .aside)
  if ← keyword "TABLE" then several .dropTarget false
  else if ← keyword "VIEW" then several .dropTarget false
  else if ← keywords ["MATERIALIZED", "VIEW"] then several .aside false
  else
    match ← oneOf ["INDEX", "ROLE", "SCHEMA", "DATABASE", "SEQUENCE", "STAGE", "TYPE", "USER",
      "STREAM", "FUNCTION", "POLICY", "CONNECTOR", "DOMAIN", "PROCEDURE", "SECRET",
      "EXTENSION"] with
    | some "ROLE" => several .label true
    | some "FUNCTION" | some "PROCEDURE" =>
      ifExists
      commaList do
        named .label
        if ← symbol "(" then
          commaListUntil anyType ")"
          expect ")"
      dropBehavior
    | some "POLICY" =>
      ifExists
      labelled
      expectKeyword "ON"
      named .relation
      dropBehavior
    | some "CONNECTOR" =>
      ifExists
      labelled
    | some "DOMAIN" =>
      ifExists
      named .label
      dropBehavior
    | some "SECRET" =>
      ifExists
      labelled
      after "FROM" anyIdentifier
    | some "EXTENSION" =>
      ifExists
      commaList labelled
      dropBehavior
    | some _ => several .label false
    | none => mismatch

/-- A change of one column of a table. -/
def alterColumn : Parse whole Unit := do
  optional ["COLUMN"]
  named .column
  if ← keywords ["SET", "NOT", "NULL"] then return ()
  if ← keywords ["DROP", "NOT", "NULL"] then return ()
  if ← keywords ["SET", "DEFAULT"] then expression g; return ()
  if ← keywords ["DROP", "DEFAULT"] then return ()
  if ← keywords ["SET", "DATA", "TYPE"] then anyType; return ()
  if ← keyword "TYPE" then anyType; return ()
  expectKeywords ["ADD", "GENERATED"]
  if !(← keyword "ALWAYS") then
    let _ ← keywords ["BY", "DEFAULT"]
  expectKeywords ["AS", "IDENTITY"]
  if ← symbol "(" then
    sequenceOptions
    expect ")"

/-- An addition to a table. -/
def alterAdd : Parse whole Unit := do
  if ← tableConstraint g .otherForeignKey then
    let _ ← keywords ["NOT", "VALID"]
  else
    let _ ← ifNotExists
    if ← peekKeyword "PARTITION" then
      loop do
        if ← keyword "PARTITION" then
          parenthesized (commaList (expression g))
          return true
        else return false
    else
      optional ["COLUMN"]
      let _ ← ifNotExists
      columnDefinition g .otherForeignKey

/-- A removal from a table. -/
def alterDrop : Parse whole Unit := do
  if ← keyword "PARTITION" then parenthesized (commaList (expression g))
  else if ← keyword "CONSTRAINT" then
    ifExists
    labelled
    dropBehavior
  else if ← keywords ["PRIMARY", "KEY"] then dropBehavior
  else if ← keywords ["FOREIGN", "KEY"] then
    labelled
    dropBehavior
  else if ← keyword "INDEX" then labelled
  else if ← keywords ["CLUSTERING", "KEY"] then return ()
  else
    optional ["COLUMN"]
    ifExists
    named .column
    dropBehavior

/-- A renaming of a table or of one of its columns. -/
def alterRename : Parse whole Unit := do
  if ← keyword "TO" then named .label
  else if ← keyword "AS" then named .label
  else
    optional ["COLUMN"]
    named .column
    expectKeyword "TO"
    named .column

/-- One change of a table. -/
def alterOperation : Parse whole Unit := do
  match ← oneOf ["ADD", "RENAME", "DISABLE", "ENABLE", "DROP", "PARTITION", "CHANGE", "MODIFY",
    "ALTER", "SWAP", "VALIDATE"] with
  | some "ADD" => alterAdd g
  | some "RENAME" => alterRename
  | some "DISABLE" =>
    if ← keywords ["ROW", "LEVEL", "SECURITY"] then return ()
    let _ ← expectOneOf ["RULE", "TRIGGER"]
    labelled
  | some "ENABLE" =>
    if ← keywords ["ROW", "LEVEL", "SECURITY"] then return ()
    optional ["ALWAYS", "REPLICA"]
    let _ ← expectOneOf ["RULE", "TRIGGER"]
    labelled
  | some "DROP" => alterDrop g
  | some "PARTITION" =>
    parenthesized (commaList (expression g))
    expectKeywords ["RENAME", "TO", "PARTITION"]
    parenthesized (commaList (expression g))
  | some "CHANGE" =>
    optional ["COLUMN"]
    named .column
    columnDefinition g .otherForeignKey
  | some "MODIFY" =>
    optional ["COLUMN"]
    columnDefinition g .otherForeignKey
  | some "ALTER" => alterColumn g
  | some "SWAP" =>
    expectKeyword "WITH"
    named .aside
  | some "VALIDATE" =>
    expectKeyword "CONSTRAINT"
    labelled
  | _ =>
    if ← keywords ["CLUSTER", "BY"] then parenthesized (commaList (expression g))
    else if ← keywords ["SET", "TBLPROPERTIES"] then
      parenthesized (commaList do anyIdentifier; expect "="; expression g)
    else if !(← optionsAfter g "SET") then mismatch

/-- A change of a table after `TABLE`. -/
def alterTable : Parse whole Unit := do
  ifExists
  optional ["ONLY"]
  named .relation
  commaList (alterOperation g)
  if ← keywords ["SET", "LOCATION"] then textLiteral else after "LOCATION" textLiteral

/-- An alteration after `ALTER`. -/
def alterBody : Parse whole Unit := do
  match ← expectOneOf ["VIEW", "TYPE", "TABLE", "INDEX", "POLICY", "SCHEMA"] with
  | "VIEW" =>
    named .relation
    optionalColumnNames
    let _ ← optionsAfter g "WITH"
    expectKeyword "AS"
    g.query
  | "TYPE" =>
    named .label
    if ← keywords ["RENAME", "TO"] then anyIdentifier
    else if ← keywords ["ADD", "VALUE"] then
      let _ ← ifNotExists
      anyIdentifier
      match ← oneOf ["BEFORE", "AFTER"] with
      | some _ => anyIdentifier
      | none => return ()
    else
      expectKeywords ["RENAME", "VALUE"]
      anyIdentifier
      expectKeyword "TO"
      anyIdentifier
  | "TABLE" => alterTable g
  | "INDEX" =>
    named .label
    expectKeywords ["RENAME", "TO"]
    named .label
  | "POLICY" =>
    labelled
    expectKeyword "ON"
    named .relation
    if ← keywords ["RENAME", "TO"] then labelled
    else
      after "TO" (commaList anyIdentifier)
      after "USING" (parenthesized (expression g))
      afterAll ["WITH", "CHECK"] (parenthesized (expression g))
  | _ =>
    ifExists
    anyName
    expectKeywords ["RENAME", "TO"]
    anyName

end MigrationLedger.Sql.Parse
