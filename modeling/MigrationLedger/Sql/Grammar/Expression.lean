/-
# Expressions

Expressions are recognised by operator precedence. `Grammar` names the
recognisers that refer to each other; everything here takes such a grammar and
uses it one level down, so the depth of a statement is the depth of the
grammar it is recognised with.

The kind of an expression is kept as far as later decisions need it: what
follows a point has to be a name, a literal, a call or an access, and a name is
remembered so that it can be mentioned as a column.
-/

import MigrationLedger.Sql.Grammar.DataType

namespace MigrationLedger.Sql

/-- What kind of expression was read. -/
inductive ExpressionKind (whole : List Lexeme)
  /-- A chain of identifiers with points between them, possibly with an index
  behind. -/
  | column (first : Identifier whole) (later : List String) (indexed : Bool)
  /-- A literal, a call or an access, which may follow a point. -/
  | operand
  /-- Anything else. -/
  | compound

/-- What kind of thing was read after a point. -/
inductive MemberKind
  /-- Names with points between them, possibly with an index behind. -/
  | names (parts : List String) (indexed : Bool)
  /-- A literal, a call or an access to one. -/
  | operand

/-- What kind of statement was read: the plan of a statement cannot be asked
for twice. -/
inductive StatementKind
  | plan
  | ordinary
  deriving DecidableEq

/-- What kind of table expression was read: parentheses may stand around joins
only. -/
inductive FactorKind
  | joined
  | single
  deriving DecidableEq

/-- The recognisers that refer to each other. -/
structure Grammar (whole : List Lexeme) where
  statement : Parse whole StatementKind
  query : Parse whole Unit
  /-- An expression whose operators all bind more tightly than a given
  strength. -/
  expression : Nat → Parse whole (ExpressionKind whole)
  /-- An expression without trailing operators. -/
  operand : Parse whole (ExpressionKind whole)
  tableFactor : Parse whole FactorKind

/-! How tightly operators bind, from the loosest to the tightest. -/

namespace Strength

def loosest : Nat := 0
def disjunction : Nat := 5
def conjunction : Nat := 10
def negation : Nat := 15
def containment : Nat := 16
def identity : Nat := 17
def pattern : Nat := 19
def comparison : Nat := 20
def bitOr : Nat := 21
def shift : Nat := 22
def bitAnd : Nat := 23
def exclusive : Nat := 24
def sum : Nat := 30
def product : Nat := 40
def timeZone : Nat := 41
def cast : Nat := 50
def point : Nat := 100

end Strength

namespace Parse

variable {whole : List Lexeme} (g : Grammar whole)

/-- Any expression. -/
def expression : Parse whole Unit := do
  let _ ← g.expression Strength.loosest

/-- A query begins here, where a value could stand too. -/
def peekSubquery : Parse whole Bool := peekOneOf ["SELECT", "WITH"]

/-- A literal or placeholder. The name of a placeholder follows its sign
immediately. -/
def value : Parse whole Unit := do
  match ← next? with
  | some item =>
    match item.token with
    | .number _ _ | .literal _ _ | .placeholder _ => return ()
    | .word word =>
      if ["TRUE", "FALSE", "NULL"].contains item.keyword || word.quote == some '"' then
        return ()
      else mismatch
    | .symbol ":" | .symbol "@" =>
      match ← next? with
      | some name =>
        match name.token with
        | .word _ | .number _ false => if name.joined then return () else mismatch
        | _ => mismatch
      | none => mismatch
    | _ => mismatch
  | none => mismatch

/-- The units of dates and times. -/
def dateTimeFields : List String :=
  ["YEAR", "YEARS", "MONTH", "MONTHS", "WEEK", "WEEKS", "DAY", "DAYOFWEEK", "DAYOFYEAR", "DAYS",
    "DATE", "DATETIME", "HOUR", "HOURS", "CENTURY", "CENTURIES", "DECADE", "DECADES", "DOW",
    "DOY", "EPOCH", "ISODOW", "ISOYEAR", "ISOWEEK", "JULIAN", "MICROSECOND", "MICROSECONDS",
    "MILLENIUM", "MILLENNIUM", "MILLISECOND", "MILLISECONDS", "MINUTE", "MINUTES", "NANOSECOND",
    "NANOSECONDS", "QUARTER", "SECOND", "SECONDS", "TIME", "TIMEZONE", "TIMEZONE_ABBR",
    "TIMEZONE_HOUR", "TIMEZONE_MINUTE", "TIMEZONE_REGION"]

/-- The units that may follow an interval. -/
def intervalFields : List String :=
  dateTimeFields.filter fun field =>
    field ∉ ["DAYOFWEEK", "DAYOFYEAR", "DATE", "DATETIME", "TIME", "ISOWEEK", "CENTURIES",
      "DECADES", "TIMEZONE_ABBR", "TIMEZONE_REGION"]

/-- The unit of an interval, with precisions and a range of units. -/
def intervalUnit : Parse whole Unit := do
  match ← oneOf intervalFields with
  | some "SECOND" => optionalPrecisionAndScale
  | _ =>
    optionalPrecision
    if ← keyword "TO" then
      let last ← expectOneOf dateTimeFields
      if last = "SECOND" then optionalPrecision

/-- An interval after its keyword. -/
def interval : Parse whole (ExpressionKind whole) := do
  let _ ← g.operand
  intervalUnit
  return .compound

/-- One expression in an ordering. -/
def orderExpression : Parse whole Unit := do
  expression g
  optional ["ASC", "DESC"]
  after "NULLS" do
    let _ ← expectOneOf ["FIRST", "LAST"]

/-- The bound of a window frame. -/
def frameBound : Parse whole Unit := do
  if ← keywords ["CURRENT", "ROW"] then return ()
  if !(← keyword "UNBOUNDED") then
    match ← peekToken with
    | some (.literal .plain _) => let _ ← interval g
    | _ => expression g
  let _ ← expectOneOf ["PRECEDING", "FOLLOWING"]

/-- A window specification up to its closing parenthesis. -/
def windowBody : Parse whole Unit := do
  if !(← peekOneOf ["PARTITION", "ORDER", "ROWS", "RANGE", "GROUPS"]) then
    if (← peek).any (·.isWord) then anyIdentifier
  afterAll ["PARTITION", "BY"] (commaList (expression g))
  afterAll ["ORDER", "BY"] (commaList (orderExpression g))
  if ← symbol ")" then return ()
  let _ ← expectOneOf ["ROWS", "RANGE", "GROUPS"]
  if ← keyword "BETWEEN" then
    frameBound g
    expectKeyword "AND"
    frameBound g
  else
    frameBound g
  expect ")"

/-- The parts that follow the first one in a qualified name that ends in a star.
Nothing is answered for a name that does not. -/
def starParts (fuel : Nat) (read : List String) : Parse whole (Option (List String)) :=
  match fuel with
  | 0 => return none
  | fuel + 1 => do
    if ← symbol "." then
      if ← symbol "*" then return some ("*" :: read).reverse
      match ← peekToken with
      | some (.placeholder name) => skip; starParts fuel (name :: read)
      | _ =>
        let part ← identifier
        starParts fuel (part.name :: read)
    else
      return none

/-- A star, a star in parentheses, or a qualified star, if one is next. -/
def wildcard : Parse whole Bool := do
  match ← peekToken with
  | some (.symbol "*") => skip; return true
  | some (.symbol "(") => symbols ["(", "*", ")"]
  | some (.word _) | some (.literal .plain _) =>
    let start ← get
    let first ← identifier
    if ← peekSymbol "." then
      match ← starParts (← turns) [] with
      | some later =>
        mention .column first later
        return true
      | none => set start; return false
    else
      set start
      return false
  | _ => return false

/-- All columns, all columns of one table, or an expression. Nothing is
answered for the first two. -/
def wildcardOrExpression : Parse whole (Option (ExpressionKind whole)) := do
  if ← wildcard then return none else return some (← g.expression Strength.loosest)

/-- `EXCLUDE` after a wildcard. -/
def wildcardExclusion : Parse whole Unit :=
  after "EXCLUDE" do
    if ← symbol "(" then
      commaList anyIdentifier
      expect ")"
    else anyIdentifier

/-- `EXCLUDE` and `REPLACE` after a wildcard. -/
def wildcardOptions : Parse whole Unit := do
  wildcardExclusion
  after "REPLACE" <| parenthesized <| commaList do
    expression g
    optional ["AS"]
    anyIdentifier

/-- One argument of a call, with or without a name. -/
def argument : Parse whole Unit := do
  let namedArgument : Parse whole Unit := do
    anyIdentifier
    if !(← keyword "VALUE") then
      require (oneSymbol ["=>", "=", ":="])
    let _ ← wildcardOrExpression g
  match ← attempt namedArgument with
  | some () => return ()
  | none =>
    if (← wildcardOrExpression g).isNone then wildcardOptions g

/-- `IGNORE NULLS` or `RESPECT NULLS`. -/
def nullTreatment : Parse whole Unit := do
  if ← keyword "RESPECT" then expectKeyword "NULLS"
  else after "IGNORE" (expectKeyword "NULLS")

/-- How missing values are shown in an object or array that is built. -/
def nullClause : Parse whole Unit := do
  if !(← keywords ["ABSENT", "ON", "NULL"]) then
    let _ ← keywords ["NULL", "ON", "NULL"]

/-- The arguments of a call after the opening parenthesis. -/
def arguments : Parse whole Unit := do
  nullClause
  if ← symbol ")" then return ()
  match ← oneOf ["ALL", "DISTINCT"] with
  | some "ALL" => if ← peekKeyword "DISTINCT" then mismatch
  | some _ => if ← peekKeyword "ALL" then mismatch
  | none => pure ()
  commaList (argument g)
  nullTreatment
  afterAll ["ORDER", "BY"] (commaList (orderExpression g))
  after "LIMIT" (expression g)
  afterAll ["ON", "OVERFLOW"] do
    if !(← keyword "ERROR") then
      expectKeyword "TRUNCATE"
      match ← peekToken with
      | some (.literal _ _) => value
      | _ => pure ()
      let _ ← expectOneOf ["WITH", "WITHOUT"]
      expectKeyword "COUNT"
  nullClause
  expect ")"

/-- A call from its opening parenthesis on, with the clauses of aggregates and
windows. -/
def call : Parse whole Unit := do
  expect "("
  arguments g
  afterAll ["WITHIN", "GROUP"] <| parenthesized do
    expectKeywords ["ORDER", "BY"]
    commaList (orderExpression g)
  if ← keyword "FILTER" then
    if ← symbol "(" then
      if ← keyword "WHERE" then
        expression g
        expect ")"
  nullTreatment
  if ← keyword "OVER" then
    if ← symbol "(" then windowBody g else anyIdentifier

/-- Values between brackets, after the opening one. -/
def arrayBody : Parse whole (ExpressionKind whole) := do
  commaListUntil (expression g) "]"
  expect "]"
  return .compound

/-- A case distinction after its keyword. -/
def caseBody : Parse whole (ExpressionKind whole) := do
  if !(← keyword "WHEN") then
    expression g
    expectKeyword "WHEN"
  loop do
    expression g
    expectKeyword "THEN"
    expression g
    keyword "WHEN"
  after "ELSE" (expression g)
  expectKeyword "END"
  return .compound

/-- `(expression AS type)`, with an optional format. -/
def castBody : Parse whole (ExpressionKind whole) := do
  parenthesized do
    expression g
    expectKeyword "AS"
    anyType
    after "FORMAT" do
      value
      afterAll ["AT", "TIME", "ZONE"] value
  return .compound

/-- `(query)` after `EXISTS`. -/
def existsBody : Parse whole (ExpressionKind whole) := do
  parenthesized g.query
  return .compound

/-- An expression that begins with a keyword of its own, which has been read.
Nothing is answered for other words. -/
def keywordExpression (name : String) : Parse whole (Option (ExpressionKind whole)) := do
  match name with
  | "TRUE" | "FALSE" | "NULL" => return some .operand
  | "CURRENT_TIMESTAMP" | "CURRENT_TIME" | "CURRENT_DATE" | "LOCALTIME" | "LOCALTIMESTAMP" =>
    if ← symbol "(" then arguments g
    return some .operand
  | "CASE" => return some (← caseBody g)
  | "CONVERT" =>
    parenthesized do
      expression g
      if ← keyword "USING" then anyName
      else
        expect ","
        anyType
        afterAll ["CHARACTER", "SET"] anyName
    return some .compound
  | "CAST" | "TRY_CAST" | "SAFE_CAST" => return some (← castBody g)
  | "EXISTS" => return some (← existsBody g)
  | "EXTRACT" =>
    parenthesized do
      let _ ← expectOneOf dateTimeFields
      expectKeyword "FROM"
      expression g
    return some .compound
  | "CEIL" | "FLOOR" =>
    parenthesized do
      expression g
      if ← keyword "TO" then let _ ← expectOneOf dateTimeFields
      else if ← symbol "," then value
    return some .compound
  | "POSITION" =>
    if ← peekSymbol "(" then
      let between : Parse whole Unit := parenthesized do
        let _ ← g.expression Strength.comparison
        expectKeyword "IN"
        expression g
      match ← attempt between with
      | some () => return some .compound
      | none => call g; return some .operand
    else return none
  | "SUBSTR" | "SUBSTRING" =>
    parenthesized do
      expression g
      let comma ← symbol ","
      if comma then expression g else after "FROM" (expression g)
      if ← keyword "FOR" then expression g
      else if ← symbol "," then expression g
    return some .compound
  | "OVERLAY" =>
    parenthesized do
      expression g
      expectKeyword "PLACING"
      expression g
      expectKeyword "FROM"
      expression g
      after "FOR" (expression g)
    return some .compound
  | "TRIM" =>
    parenthesized do
      optional ["BOTH", "LEADING", "TRAILING"]
      expression g
      if ← keyword "FROM" then expression g
      else if ← symbol "," then commaList (expression g)
    return some .compound
  | "INTERVAL" => return some (← interval g)
  | "ARRAY" =>
    if ← symbol "[" then return some (← arrayBody g)
    else if ← symbol "(" then
      g.query
      expect ")"
      return some .operand
    else return none
  | "NOT" =>
    if ← keyword "EXISTS" then return some (← existsBody g)
    else
      let _ ← g.expression Strength.negation
      return some .compound
  | "MAP" =>
    if ← symbol "\x7b" then
      commaListUntil (do expression g; expect ":"; expression g) "\x7d"
      expect "\x7d"
      return some .compound
    else return none
  | "LAMBDA" =>
    commaList anyIdentifier
    expect ":"
    expression g
    return some .compound
  | _ => return none

/-- A word that begins no expression of its own: a call, an anonymous function
or a column. The word has been read. -/
def plainWord (word : Word) (name : Identifier whole) : Parse whole (ExpressionKind whole) := do
  match ← peekToken with
  | some (.symbol "(") => call g; return .operand
  | some (.symbol "->") => skip; expression g; return .compound
  | some (.literal .plain _) | some (.literal .hexadecimal _) =>
    if Text.startsWith word.value "_" then value; return .compound
    else return .column name [] false
  | _ => return .column name [] false

/-- Keywords that cannot name a column even where their own expression does
not fit. -/
def reservedForName : List String := ["EXISTS", "INTERVAL", "STRUCT", "TRIM"]

/-- An expression that begins with a word, which has been read. -/
def wordExpression (keyword : String) (word : Word) (name : Identifier whole) :
    Parse whole (ExpressionKind whole) := do
  match ← outcome (keywordExpression g keyword) with
  | .ok (some kind) => return kind
  | .ok none => plainWord g word name
  | .error failure =>
    if reservedForName.contains keyword then throw failure
    match ← outcome (plainWord g word name) with
    | .ok kind => return kind
    | .error _ => throw failure

/-- What an opening parenthesis begins: a query, an anonymous function, or one
or more expressions. -/
def parenthesis : Parse whole (ExpressionKind whole) := do
  if ← peekSubquery then
    g.query
    expect ")"
    return .compound
  let function : Parse whole Unit := do
    commaList anyIdentifier
    expect ")"
    expect "->"
    expression g
  match ← attempt function with
  | some () => return .compound
  | none =>
    within false (commaList (expression g))
    expect ")"
    return .compound

/-- A type in front of a literal, or an interval. -/
def typedLiteral : Parse whole (ExpressionKind whole) := do
  match ← dataType with
  | .interval => interval g
  | .custom => mismatch
  | .builtin => value; return .compound

/-- An expression without trailing operators, up to a collation. -/
def bareOperand : Parse whole (ExpressionKind whole) := do
  let start ← get
  match ← next? with
  | some item =>
    match read : item.token with
    | .word word =>
      wordExpression g item.keyword word
        (item.identifier (by rw [read]; rfl : item.token.identifier? = some word.name))
    | .number _ _ | .literal _ _ | .placeholder _ => return .operand
    | .symbol "[" => arrayBody g
    | .symbol "-" | .symbol "+" =>
      let _ ← g.expression Strength.product
      return .compound
    | .symbol "~" =>
      let _ ← g.expression Strength.sum
      return .compound
    | .symbol "(" => parenthesis g
    | .symbol ":" | .symbol "@" =>
      set start
      value
      return .operand
    | .symbol "\x7b" =>
      commaListUntil (do anyIdentifier; expect ":"; expression g) "\x7d"
      expect "\x7d"
      return .compound
    | _ => mismatch
  | none => mismatch

/-- An expression without trailing operators. -/
def operand : Parse whole (ExpressionKind whole) := do
  match ← attempt (typedLiteral g) with
  | some kind => return kind
  | none =>
    let kind ← bareOperand g
    if (← get).inColumn then return kind
    if ← keyword "COLLATE" then
      anyName
      return .compound
    return kind

/-- An index or a slice, after the opening bracket. -/
def subscript : Parse whole Unit := do
  if !(← symbol ":") then
    expression g
    if ← symbol "]" then return ()
    expect ":"
  if ← symbol "]" then return ()
  expression g
  if ← symbol "]" then return ()
  expect ":"
  if ← symbol "]" then return ()
  expression g
  expect "]"

/-- What may follow a point: names, literals, calls and accesses. Any other
word is taken as a name. -/
def member : Parse whole MemberKind := do
  match ← peek with
  | some item =>
    match item.token with
    | .literal .plain body =>
      skip
      return .names [String.ofList (undouble '\'' body.toList)] false
    | .placeholder name => skip; return .names [name] false
    | _ =>
      let restricted : Parse whole MemberKind := do
        match ← g.expression Strength.point with
        | .column first later indexed => return .names (first.name :: later) indexed
        | .operand => return .operand
        | .compound => mismatch
      match ← attempt restricted with
      | some kind => return kind
      | none =>
        let part ← identifier
        return .names [part.name] false
  | none => mismatch

/-- The accesses that follow an expression. -/
def accesses (kind : ExpressionKind whole) (fuel : Nat) : Parse whole (ExpressionKind whole) :=
  match fuel with
  | 0 => return kind
  | fuel + 1 => do
    if ← peekSymbol "." then
      if (← peekAt 1).any (·.isSymbol "*") then return kind
      skip
      match kind, ← member g with
      | .column first later false, .names parts indexed =>
        accesses (.column first (later ++ parts) indexed) fuel
      | .column first later true, _ => accesses (.column first later true) fuel
      | _, _ => accesses .operand fuel
    else if ← symbol "[" then
      subscript g
      match kind with
      | .column first later _ => accesses (.column first later true) fuel
      | _ => accesses .operand fuel
    else
      return kind

/-- Operators that compare, and so may compare with any or all values of a
list. -/
def comparisons : List String :=
  ["=", "!=", "<>", "<", "<=", ">", ">=", "~", "~*", "!~", "!~*", "~~", "~~*", "!~~", "!~~*"]

/-- Operators between two expressions that have a recogniser. -/
def binaryOperators : List String :=
  comparisons ++ ["<=>", "==", ":=", "+", "-", "*", "%", "||", "|", "^", "&", "/", "//", "<<",
    ">>", "^@", "->", "->>", "#>", "#>>", "@>", "<@", "#-", "@?", "@@"]

/-- How tightly a symbol binds as an operator. -/
def symbolStrength (text : String) : Nat :=
  if comparisons.contains text || ["<=>", "==", ":="].contains text then Strength.comparison
  else if ["|", "&&"].contains text then Strength.bitOr
  else if ["^", "#", "<<", ">>"].contains text then Strength.shift
  else if text = "&" then Strength.bitAnd
  else if ["+", "-"].contains text then Strength.sum
  else if ["*", "/", "//", "%", "||"].contains text then Strength.product
  else if ["::", "!", "[", "^@"].contains text then Strength.cast
  else if ["->", "->>", "#>", "#>>", "@>", "<@", "#-", "@?", "@@"].contains text then
    Strength.containment
  else Strength.loosest

/-- How tightly the next token binds as an operator. -/
def nextStrength : Parse whole Nat := do
  let inColumn := (← get).inColumn
  match ← peek with
  | none => return Strength.loosest
  | some item =>
    match item.token with
    | .symbol text => return symbolStrength text
    | _ =>
      match item.keyword with
      | "OR" => return Strength.disjunction
      | "AND" => return Strength.conjunction
      | "XOR" => return Strength.exclusive
      | "AT" =>
        if (← peekAt 1).any (·.keyword == "TIME") && (← peekAt 2).any (·.keyword == "ZONE") then
          return Strength.timeZone
        else return Strength.loosest
      | "NOT" =>
        match ← keywordAt 1 with
        | some "IN" | some "BETWEEN" => return Strength.comparison
        | some "LIKE" | some "ILIKE" | some "RLIKE" | some "REGEXP" | some "MATCH"
        | some "SIMILAR" | some "MEMBER" => return Strength.pattern
        | some "NULL" => return if inColumn then Strength.loosest else Strength.identity
        | _ => return Strength.loosest
      | "NOTNULL" => return if inColumn then Strength.loosest else Strength.identity
      | "IS" => return Strength.identity
      | "IN" | "BETWEEN" | "OVERLAPS" | "OPERATOR" => return Strength.comparison
      | "LIKE" | "ILIKE" | "SIMILAR" | "RLIKE" | "REGEXP" | "MATCH" | "MEMBER" =>
        return Strength.pattern
      | "DIV" => return Strength.product
      | _ => return Strength.loosest

/-- The right side of an operator between two expressions, which has been
read. -/
def rightSide (operator : String) (strength : Nat) : Parse whole Unit := do
  match ← oneOf ["ANY", "ALL", "SOME"] with
  | some _ =>
    let start ← get
    expect "("
    if ← peekSubquery then
      set start
      let _ ← g.expression strength
    else
      let _ ← g.expression strength
      expect ")"
    if comparisons.contains operator then return () else mismatch
  | none => let _ ← g.expression strength

/-- What follows `IS`. -/
def identityTest : Parse whole Unit := do
  let _ ← keyword "NOT"
  match ← oneOf ["NULL", "TRUE", "FALSE", "UNKNOWN"] with
  | some _ => return ()
  | none =>
    if ← keywords ["DISTINCT", "FROM"] then expression g
    else
      optional ["NFC", "NFD", "NFKC", "NFKD"]
      expectKeyword "NORMALIZED"

/-- What follows `IN`. -/
def membership : Parse whole Unit := do
  if ← keyword "UNNEST" then parenthesized (expression g)
  else
    parenthesized do
      match ← attempt g.query with
      | some () => return ()
      | none => commaList (expression g)

/-- A pattern, with an optional escape character. -/
def patternBody (quantified : Bool) : Parse whole Unit := do
  if quantified then optional ["ANY"]
  let _ ← g.expression Strength.pattern
  if quantified then after "ESCAPE" value

/-- The tests that may be negated, from the negation on. -/
def negatableTest : Parse whole Unit := do
  let negated ← keyword "NOT"
  let regexp ← keyword "REGEXP"
  let rlike ← keyword "RLIKE"
  let missing ← if (← get).inColumn then pure false else keyword "NULL"
  if regexp || rlike then patternBody g false
  else if negated && missing then return ()
  else if ← keyword "IN" then membership g
  else if ← keyword "BETWEEN" then
    let _ ← g.expression Strength.comparison
    expectKeyword "AND"
    let _ ← g.expression Strength.comparison
  else if (← oneOf ["LIKE", "ILIKE"]).isSome then patternBody g true
  else if ← keywords ["SIMILAR", "TO"] then
    let _ ← g.expression Strength.pattern
    after "ESCAPE" value
  else mismatch

/-- An operator and what stands at its right. -/
def operatorTail (strength : Nat) : Parse whole Unit := do
  match ← peek with
  | none => mismatch
  | some item =>
    match item.token with
    | .symbol "::" => skip; anyType
    | .symbol text =>
      if binaryOperators.contains text then skip; rightSide g text strength else mismatch
    | _ =>
      match item.keyword with
      | "AND" | "OR" | "XOR" | "OVERLAPS" => skip; rightSide g item.keyword strength
      | "IS" => skip; identityTest g
      | "AT" =>
        skip
        expectKeywords ["TIME", "ZONE"]
        let _ ← g.expression strength
      | "NOTNULL" => skip
      | "MEMBER" =>
        skip
        expectKeyword "OF"
        parenthesized (expression g)
      | "NOT" | "IN" | "BETWEEN" | "LIKE" | "ILIKE" | "SIMILAR" | "REGEXP" | "RLIKE" =>
        negatableTest g
      | _ => mismatch

/-- An expression whose operators all bind more tightly than `strength`. -/
def subexpression (strength : Nat) : Parse whole (ExpressionKind whole) := do
  let first ← operand g
  let kind ← accesses g first (← turns)
  match kind with
  | .column first later _ =>
    if strength < Strength.point then mention .column first later
  | _ => pure ()
  let rec tails (fuel : Nat) (kind : ExpressionKind whole) : Parse whole (ExpressionKind whole) :=
    match fuel with
    | 0 => return kind
    | fuel + 1 => do
      let next ← nextStrength
      if next ≤ strength then return kind
      operatorTail g next
      tails fuel .compound
  tails (← turns) kind

/-- Assignments, as in an update. -/
def assignment : Parse whole Unit := do
  if ← symbol "(" then
    commaList (named .column)
    expect ")"
  else named .column
  expect "="
  expression g

/-- Options in parentheses after a keyword: names with values. -/
def optionsAfter (name : String) : Parse whole Bool := do
  if ← keyword name then
    parenthesized (commaListUntil (do anyIdentifier; expect "="; expression g) ")")
    return true
  else return false

end Parse

end MigrationLedger.Sql
