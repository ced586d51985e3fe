/-
# Statements

All statements, and the knot that ties the recognisers together. A grammar of
depth `n + 1` recognises what is written in terms of a grammar of depth `n`;
depth zero recognises nothing and reports that the nesting is too deep. Fifty
levels are enough for any statement that is meant to be read.
-/

import MigrationLedger.Sql.Grammar.Definition

namespace MigrationLedger.Sql

namespace Parse

variable {whole : List Lexeme} (g : Grammar whole)

/-- The plan of a statement, or the columns of a table. -/
def explain (described : Bool) : Parse whole Unit := do
  let options ← if described then pure false else peekSymbol "("
  if options then
    parenthesized <| commaList do
      anyIdentifier
      if !((← peekSymbol ",") || (← peekSymbol ")")) then expression g
  else if ← keywords ["QUERY", "PLAN"] then pure ()
  else if ← keyword "ESTIMATE" then pure ()
  else
    optional ["ANALYZE"]
    optional ["VERBOSE"]
    after "FORMAT" do
      let _ ← symbol "="
      let _ ← expectOneOf ["TEXT", "GRAPHVIZ", "JSON", "TRADITIONAL", "TREE"]
  match ← attempt (nested g.statement) with
  | some .plan => mismatch
  | some .ordinary => return ()
  | none =>
    optional ["EXTENDED", "FORMATTED"]
    optional ["TABLE"]
    named .relation

/-- Statistics of a table. -/
def analyze : Parse whole Unit := do
  optional ["TABLE"]
  named .relation
  loop do
    match ← oneOf ["PARTITION", "FOR", "CACHE", "NOSCAN", "COMPUTE"] with
    | some "PARTITION" => parenthesized (commaList (expression g)); return true
    | some "FOR" =>
      expectKeyword "COLUMNS"
      let _ ← attempt (commaList anyIdentifier)
      return true
    | some "CACHE" => expectKeyword "METADATA"; return true
    | some "COMPUTE" => expectKeyword "STATISTICS"; return true
    | some _ => return true
    | none => return false

/-- Removal of all rows of tables. -/
def truncate : Parse whole Unit := do
  optional ["TABLE"]
  ifExists
  commaList do
    optional ["ONLY"]
    named .relation
    let _ ← symbol "*"
  after "PARTITION" (parenthesized (commaList (expression g)))

/-- A database made part of the session. -/
def attach : Parse whole Unit := do
  optional ["DATABASE"]
  let _ ← ifNotExists
  anyIdentifier
  after "AS" anyIdentifier
  if ← symbol "(" then
    loop do
      match ← expectOneOf ["READ_ONLY", "TYPE"] with
      | "TYPE" => anyIdentifier
      | _ => optional ["TRUE", "FALSE"]
      if ← symbol ")" then return false
      expect ","
      return true

/-- How transactions isolate and what they may do. -/
def transactionModes : Parse whole Unit := do
  let mode : Parse whole Bool := do
    if ← keywords ["ISOLATION", "LEVEL"] then
      if ← keyword "READ" then
        let _ ← expectOneOf ["UNCOMMITTED", "COMMITTED"]
      else if ← keyword "REPEATABLE" then expectKeyword "READ"
      else
        let _ ← expectOneOf ["SERIALIZABLE", "SNAPSHOT"]
      return true
    else if ← keywords ["READ", "ONLY"] then return true
    else keywords ["READ", "WRITE"]
  loop do
    if ← mode then
      let _ ← symbol ","
      return true
    else return false

/-- The word for a transaction, and whether another one follows. -/
def transactionEnd : Parse whole Unit := do
  optional ["TRANSACTION", "WORK", "TRAN"]
  after "AND" do
    optional ["NO"]
    expectKeyword "CHAIN"

/-- Values of a setting. -/
def settingValues : Parse whole Unit := strictCommaList do
  if ← peekSubquery then g.query else expression g

/-- A change of a setting. -/
def setBody : Parse whole Unit := do
  let scope ← oneOf ["SESSION", "LOCAL", "GLOBAL"]
  let role : Parse whole Unit := do
    expectKeyword "ROLE"
    anyIdentifier
  if (← attempt role).isSome then return ()
  let zone ← if ← keywords ["TIME", "ZONE"] then pure true else keyword "TIMEZONE"
  if zone then
    if ← symbol "=" then settingValues g
    else if ← keyword "TO" then settingValues g
    else expression g
  else if ← keyword "CHARACTERISTICS" then
    expectKeywords ["AS", "TRANSACTION"]
    transactionModes
  else if ← keyword "TRANSACTION" then
    if ← keyword "SNAPSHOT" then value else transactionModes
  else if ← keyword "AUTHORIZATION" then
    if scope.isNone then mismatch
    anyIdentifier
  else
    anyName
    if !(← symbol "=") then expectKeyword "TO"
    settingValues g

/-- Everything up to the end of the statement or an equals sign. -/
def showVariable : Parse whole Unit := loop do
  match ← peek with
  | none => return false
  | some item =>
    if item.isSymbol "=" || item.isSymbol ";" then return false
    skip
    return true

/-- Filters behind a list of objects. -/
def showOptions (role : Role) : Parse whole Unit := do
  let filter : Parse whole Unit := do
    match ← oneOf ["LIKE", "ILIKE", "WHERE"] with
    | some "WHERE" => expression g
    | some _ => textLiteral
    | none =>
      match ← peekToken with
      | some (.literal .plain _) => skip
      | _ => return ()
  filter
  match ← oneOf ["FROM", "IN"] with
  | some _ =>
    match ← oneOf ["ACCOUNT", "DATABASE", "SCHEMA", "TABLE", "VIEW"] with
    | some _ => let _ ← attempt (named role)
    | none =>
      named role
      match ← oneOf ["FROM", "IN"] with
      | some _ => anyName
      | none => pure ()
  | none => pure ()
  filter
  afterAll ["STARTS", "WITH"] value
  after "LIMIT" (expression g)
  after "FROM" value

/-- A request to show something. -/
def showBody : Parse whole Unit := do
  optional ["TERSE"]
  optional ["EXTENDED"]
  optional ["FULL"]
  optional ["SESSION"]
  optional ["GLOBAL"]
  optional ["EXTERNAL"]
  match ← oneOf ["COLUMNS", "FIELDS", "TABLES", "VIEWS", "FUNCTIONS", "CREATE", "COLLATION",
    "DATABASES", "SCHEMAS"] with
  | some "COLUMNS" | some "FIELDS" => showOptions g .relation
  | some "TABLES" | some "VIEWS" | some "DATABASES" | some "SCHEMAS" =>
    optional ["HISTORY"]
    showOptions g .relation
  | some "CREATE" =>
    match ← expectOneOf ["TABLE", "TRIGGER", "FUNCTION", "PROCEDURE", "EVENT", "VIEW"] with
    | "TABLE" | "VIEW" => named .aside
    | _ => anyName
  | some _ => showOptions g .label
  | none => if ← keywords ["MATERIALIZED", "VIEWS"] then showOptions g .relation else showVariable

/-- One right that is granted. -/
def privilege : Parse whole Unit := do
  match ← expectOneOf ["CONNECT", "CREATE", "DELETE", "EXECUTE", "INSERT", "REFERENCES", "SELECT",
    "TEMPORARY", "TRIGGER", "TRUNCATE", "UPDATE", "USAGE", "OWNERSHIP", "READ", "WRITE", "ALTER",
    "DROP"] with
  | "INSERT" | "REFERENCES" | "SELECT" | "UPDATE" => optionalColumnNames
  | _ => return ()

/-- Rights and what they are granted on. -/
def privileges : Parse whole Unit := do
  if ← keyword "ALL" then optional ["PRIVILEGES"]
  else commaList privilege
  after "ON" do
    if ← keywords ["ALL", "TABLES", "IN", "SCHEMA"] then commaList anyName
    else if ← keywords ["ALL", "SEQUENCES", "IN", "SCHEMA"] then commaList anyName
    else
      match ← oneOf ["SEQUENCE", "DATABASE", "SCHEMA", "TABLE", "VIEW", "FUNCTION",
        "PROCEDURE"] with
      | some "TABLE" | some "VIEW" | none => commaList (named .aside)
      | some _ => commaList (named .label)

/-- Who rights are granted to. -/
def grantees : Parse whole Unit := commaList do
  optional ["ROLE", "USER", "SHARE", "GROUP"]
  anyName

/-- Rights given. -/
def grant : Parse whole Unit := do
  privileges
  expectKeyword "TO"
  grantees
  let _ ← keywords ["WITH", "GRANT", "OPTION"]
  after "AS" anyIdentifier
  afterAll ["GRANTED", "BY"] anyIdentifier

/-- Rights taken. -/
def revoke : Parse whole Unit := do
  privileges
  expectKeyword "FROM"
  grantees
  afterAll ["GRANTED", "BY"] anyIdentifier
  dropBehavior

/-- One option of a copy. -/
def copyOption : Parse whole Unit := do
  match ← expectOneOf ["FORMAT", "FREEZE", "DELIMITER", "NULL", "HEADER", "QUOTE", "ESCAPE",
    "FORCE_QUOTE", "FORCE_NOT_NULL", "FORCE_NULL", "ENCODING"] with
  | "FORMAT" => anyIdentifier
  | "FREEZE" | "HEADER" => optional ["TRUE", "FALSE"]
  | "DELIMITER" | "QUOTE" | "ESCAPE" => characterLiteral
  | "NULL" | "ENCODING" => textLiteral
  | _ => columnNames

/-- One option of a copy in the older form. -/
def bareCopyOption : Parse whole Bool := do
  match ← oneOf ["BINARY", "DELIMITER", "NULL", "CSV", "HEADER", "GZIP", "PARQUET"] with
  | some "DELIMITER" =>
    optional ["AS"]
    characterLiteral
    return true
  | some "NULL" =>
    optional ["AS"]
    textLiteral
    return true
  | some "CSV" =>
    loop do
      match ← oneOf ["HEADER", "QUOTE", "ESCAPE", "FORCE"] with
      | some "HEADER" => return true
      | some "FORCE" =>
        if ← keywords ["NOT", "NULL"] then commaList anyIdentifier
        else
          expectKeyword "QUOTE"
          commaList anyIdentifier
        return true
      | some _ =>
        optional ["AS"]
        characterLiteral
        return true
      | none => return false
    return true
  | some _ => return true
  | none => return false

/-- Rows copied to or from a file. -/
def copy : Parse whole Unit := do
  let fromQuery ← symbol "("
  if fromQuery then
    g.query
    expect ")"
  else
    named .aside
    optionalColumnNames
  let direction ← expectOneOf ["FROM", "TO"]
  if direction = "FROM" && fromQuery then mismatch
  match ← oneOf ["STDIN", "STDOUT", "PROGRAM"] with
  | some "PROGRAM" => textLiteral
  | some _ => pure ()
  | none => textLiteral
  optional ["WITH"]
  if ← symbol "(" then
    commaList copyOption
    expect ")"
  loop bareCopyOption

/-- A setting of the engine, possibly with a value. -/
def pragma : Parse whole Unit := do
  anyName
  let setting : Parse whole Unit := do
    match ← next? with
    | some item =>
      match item.token with
      | .number _ _ | .literal .plain _ | .placeholder _ => return ()
      | .word word => if word.quote == some '"' then return () else mismatch
      | _ => mismatch
    | none => mismatch
  if ← symbol "(" then
    setting
    expect ")"
  else if ← symbol "=" then setting

/-- A cursor, and the query it walks over. -/
def declare : Parse whole Unit := do
  commaList anyIdentifier
  optional ["BINARY"]
  optional ["INSENSITIVE", "ASENSITIVE"]
  if ← keyword "NO" then expectKeyword "SCROLL" else optional ["SCROLL"]
  expectKeyword "CURSOR"
  match ← oneOf ["WITH", "WITHOUT"] with
  | some _ => expectKeyword "HOLD"
  | none => pure ()
  expectKeyword "FOR"
  g.query

/-- Rows fetched from a cursor. -/
def fetchRows : Parse whole Unit := do
  match ← oneOf ["NEXT", "PRIOR", "FIRST", "LAST", "ABSOLUTE", "RELATIVE", "FORWARD", "BACKWARD",
    "ALL"] with
  | some "ABSOLUTE" | some "RELATIVE" => wholeNumber
  | some "FORWARD" | some "BACKWARD" => if !(← keyword "ALL") then wholeNumber
  | some _ => pure ()
  | none => wholeNumber
  let _ ← expectOneOf ["FROM", "IN"]
  anyIdentifier
  after "INTO" anyName

/-- A prepared statement. -/
def prepare : Parse whole Unit := do
  anyIdentifier
  if ← symbol "(" then
    commaList anyType
    expect ")"
  expectKeyword "AS"
  let _ ← nested g.statement

/-- A prepared statement run with arguments. -/
def execute : Parse whole Unit := do
  anyName
  let arguments : Parse whole Unit := commaList (expression g)
  if ← symbol "(" then
    if !(← peekSymbol ")") then arguments
    expect ")"
  else if (← peek).any fun item => !item.isSymbol ";" && item.keyword != "USING" then arguments
  after "USING" <| commaList do
    expression g
    let _ ← optionalAlias reservedForColumn

/-- A statement that begins with a keyword, which has been read. -/
def keywordStatement (name : String) : Parse whole StatementKind := do
  let rest : Parse whole Unit := do
    match name with
    | "ANALYZE" => analyze g
    | "CASE" => caseStatement g
    | "IF" => conditional g
    | "WHILE" => whileLoop g
    | "RAISE" => raise g
    | "TRUNCATE" => truncate g
    | "ATTACH" => attach
    | "DETACH" =>
      optional ["DATABASE"]
      ifExists
      anyIdentifier
    | "CREATE" => createBody g
    | "CACHE" =>
      optional ["TABLE"]
      named .relation
      let _ ← optionsAfter g "OPTIONS"
      after "AS" g.query
    | "UNCACHE" =>
      expectKeyword "TABLE"
      ifExists
      named .relation
    | "DROP" => dropBody
    | "DISCARD" =>
      let _ ← expectOneOf ["ALL", "PLANS", "SEQUENCES", "TEMP", "TEMPORARY"]
    | "DECLARE" => declare g
    | "FETCH" => fetchRows
    | "DELETE" => deleteBody g
    | "INSERT" => insertBody g
    | "UPDATE" => updateBody g
    | "MERGE" => mergeBody g
    | "ALTER" => alterBody g
    | "CALL" =>
      anyName
      if ← peekSymbol "(" then call g
    | "COPY" => copy g
    | "OPEN" => anyIdentifier
    | "CLOSE" =>
      if !(← keyword "ALL") then anyIdentifier
    | "SET" => setBody g
    | "SHOW" => showBody g
    | "USE" => anyName
    | "GRANT" => grant
    | "REVOKE" => revoke
    | "START" =>
      expectKeyword "TRANSACTION"
      transactionModes
    | "BEGIN" =>
      optional ["TRANSACTION", "WORK", "TRAN"]
      transactionModes
    | "END" => transactionEnd
    | "COMMIT" => transactionEnd
    | "ROLLBACK" =>
      transactionEnd
      after "TO" do
        optional ["SAVEPOINT"]
        anyIdentifier
    | "SAVEPOINT" => anyIdentifier
    | "RELEASE" =>
      optional ["SAVEPOINT"]
      anyIdentifier
    | "ASSERT" =>
      expression g
      after "AS" (expression g)
    | "DEALLOCATE" =>
      optional ["PREPARE"]
      anyIdentifier
    | "EXECUTE" | "EXEC" => execute g
    | "PREPARE" => prepare g
    | "PRAGMA" => pragma
    | "RENAME" =>
      expectKeyword "TABLE"
      commaList do
        named .relation
        expectKeyword "TO"
        named .label
    | "INSTALL" => anyIdentifier
    | "LOAD" => anyIdentifier
    | "PRINT" => expression g
    | "RETURN" => if (← peek).any (!·.isSymbol ";") then expression g
    | "VACUUM" =>
      optional ["FULL"]
      let _ ← attempt (named .aside)
    | "RESET" =>
      if !(← keyword "ALL") then anyName
    | "KILL" =>
      optional ["CONNECTION", "QUERY"]
      wholeNumber
    | _ => mismatch
  match name with
  | "DESC" | "DESCRIBE" => explain g true; return .plan
  | "EXPLAIN" => explain g false; return .plan
  | _ => rest; return .ordinary

/-- One statement. -/
def statementBody : Parse whole StatementKind := do
  match ← peek with
  | some item =>
    if item.isSymbol "(" || ["SELECT", "WITH", "VALUES", "FROM"].contains item.keyword then
      g.query
      return .ordinary
    else
      skip
      keywordStatement g item.keyword
  | none => mismatch

end Parse

namespace Grammar

variable {whole : List Lexeme}

/-- The grammar that recognises nothing. -/
def tooDeep : Grammar whole where
  statement := Parse.tooDeep
  query := Parse.tooDeep
  expression := fun _ => Parse.tooDeep
  operand := Parse.tooDeep
  tableFactor := Parse.tooDeep

/-- The grammar that is one level deeper than `g`. -/
def deeper (g : Grammar whole) : Grammar whole where
  statement := fun cursor => Parse.statementBody g cursor
  query := fun cursor => Parse.queryOrChange g cursor
  expression := fun strength cursor => Parse.subexpression g strength cursor
  operand := fun cursor => Parse.operand g cursor
  tableFactor := fun cursor => Parse.tableFactorBody g cursor

/-- The grammar of a given depth. -/
def ofDepth : Nat → Grammar whole
  | 0 => tooDeep
  | depth + 1 => deeper (ofDepth depth)

/-- How deeply statements, queries and expressions may be nested. -/
def depthLimit : Nat := 50

/-- Statements separated by semicolons. The keyword `END` after a statement
ends the list, whatever follows. -/
def statements : Parse whole Unit := do
  let grammar := ofDepth depthLimit
  let separators : Parse whole Bool := do
    if ← Parse.symbol ";" then
      Parse.loop (Parse.symbol ";")
      return true
    else return false
  let _ ← separators
  Parse.loop do
    if (← Parse.peek).isNone then return false
    let _ ← grammar.statement
    if ← separators then return true
    match ← Parse.peek with
    | none => return false
    | some item => if item.keyword == "END" then return false else Parse.mismatch

end Grammar

/-- The names that a text of statements mentions, with their roles. Nothing is
answered when some statement is not understood. -/
def mentions? (lexemes : List Lexeme) : Option (List (Mention lexemes)) :=
  match Grammar.statements (Cursor.start lexemes) with
  | .ok ((), cursor) => some cursor.mentions.reverse
  | .error _ => none

end MigrationLedger.Sql
