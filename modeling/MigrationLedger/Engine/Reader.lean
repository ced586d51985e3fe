/-
# Reading statements

A statement is read from its tokens. A reader takes tokens from the front and
gives up where they do not fit; readings that are tried one after another begin
at the same token. Whatever cannot be read is a syntax error, so the engine
refuses the parts of the language that it does not know.

Lists and expressions nest, so their readers are given a bound, which is the
number of tokens: every step into an expression reads at least one.
-/

import MigrationLedger.Engine.Cast
import MigrationLedger.Engine.Statement
import MigrationLedger.Sql.Parse
import MigrationLedger.Sql.Script

namespace MigrationLedger.Engine

open Sql (Item)

/-- The tokens that are left, and how many placeholders have been read. -/
structure Input where
  items : List Item
  placeholders : Nat

/-- A reader of something at the front of some tokens. -/
abbrev Reader (α : Type) := StateT Input Option α

namespace Reader

variable {α : Type}

/-- The tokens do not fit. -/
def refuse : Reader α := failure

/-- The next token. -/
def next : Reader Item := do
  let input ← get
  match input.items with
  | [] => refuse
  | item :: rest =>
    set { input with items := rest }
    return item

/-- The next token, left in place. -/
def peek? : Reader (Option Item) := do
  return (← get).items.head?

/-- The number of tokens that are left. -/
def left : Reader Nat := do
  return (← get).items.length

/-- The keyword of a token, empty if it has none. -/
def keywordOf (item : Option Item) : String :=
  match item with
  | some item => item.keyword
  | none => ""

/-- Read one keyword if it comes next. -/
def accepts (keyword : String) : Reader Bool := do
  if keywordOf (← peek?) == keyword then
    let _ ← next
    return true
  else return false

/-- Read keywords if all of them come next. -/
def acceptsAll (keywords : List String) : Reader Bool := do
  let input ← get
  if input.items.length < keywords.length then return false
  else if (input.items.take keywords.length).map Item.keyword == keywords then
    set { input with items := input.items.drop keywords.length }
    return true
  else return false

/-- Read keywords. -/
def keywords (words : List String) : Reader Unit := do
  if ← acceptsAll words then return () else refuse

/-- Read a symbol if it comes next. -/
def acceptsSymbol (text : String) : Reader Bool := do
  match ← peek? with
  | some item =>
    if item.isSymbol text then
      let _ ← next
      return true
    else return false
  | none => return false

/-- Read a symbol. -/
def symbol (text : String) : Reader Unit := do
  if ← acceptsSymbol text then return () else refuse

/-- Words that are never names unless they are quoted. -/
def reserved : List String :=
  ["ALL", "ANALYSE", "ANALYZE", "AND", "ANY", "ARRAY", "AS", "ASC", "ASYMMETRIC", "BOTH", "CASE",
    "CAST", "CHECK", "COLLATE", "COLUMN", "CONSTRAINT", "CREATE", "DEFAULT", "DEFERRABLE",
    "DESC", "DESCRIBE", "DISTINCT", "DO", "ELSE", "END", "EXCEPT", "FALSE", "FETCH", "FOR",
    "FOREIGN", "FROM", "GROUP", "HAVING", "IN", "INITIALLY", "INTERSECT", "INTO", "LAMBDA",
    "LATERAL", "LEADING", "LIMIT", "NOT", "NULL", "OFFSET", "ON", "ONLY", "OR", "ORDER", "PIVOT",
    "PLACING", "PRIMARY", "QUALIFY", "REFERENCES", "RETURNING", "SELECT", "SHOW", "SOME",
    "SUMMARIZE", "SYMMETRIC", "TABLE", "THEN", "TO", "TRAILING", "TRUE", "UNION", "UNIQUE",
    "UNPIVOT", "USING", "VARIADIC", "WHEN", "WHERE", "WINDOW", "WITH"]

/-- The name that a token is, if it can be one. -/
def nameOf? (item : Item) : Option String :=
  match item.token with
  | .word word => if reserved.contains item.keyword then none else some word.name
  | _ => none

/-- Read a name. -/
def name : Reader String := do
  match nameOf? (← next) with
  | some name => return name
  | none => refuse

/-- Read items with a separator between them. -/
def separated (separator : String) (item : Reader α) : Nat → Reader (List α)
  | 0 => refuse
  | bound + 1 => do
    let first ← item
    if ← acceptsSymbol separator then return first :: (← separated separator item bound)
    else return [first]

/-- Read items with commas between them. -/
def commaList (item : Reader α) : Reader (List α) := do
  separated "," item ((← left) + 1)

/-- Read something in brackets. -/
def bracketed (inner : Reader α) : Reader α := do
  symbol "("
  let value ← inner
  symbol ")"
  return value

/-- Read a name of one or more parts. -/
def qualifiedName : Reader (List String) := do
  separated "." name ((← left) + 1)

/-- Read a whole number. -/
def natural : Reader Nat := do
  match (← next).token with
  | .number digits _ =>
    if digits.toList.all Text.isAsciiDigit then return Decimal.digitsValue 0 digits.toList
    else refuse
  | _ => refuse

/-! ### Types -/

/-- Words that follow the name of a type and belong to it. -/
def typeWords : Reader String := do
  let word := keywordOf (some (← next))
  if word == "DOUBLE" then
    let _ ← accepts "PRECISION"
    return word
  else if word == "CHARACTER" then
    let _ ← accepts "VARYING"
    return word
  else if word == "TIMESTAMP" || word == "TIME" then
    if ← acceptsAll ["WITH", "TIME", "ZONE"] then return word
    let _ ← acceptsAll ["WITHOUT", "TIME", "ZONE"]
    return word
  else return word

/-- Skip tokens up to the one that closes a bracket which is open already. -/
def skipTo (opening closing : String) : Nat → Nat → Reader Unit
  | 0, _ => refuse
  | bound + 1, depth => do
    let item ← next
    if item.isSymbol opening then skipTo opening closing bound (depth + 1)
    else if item.isSymbol closing then
      match depth with
      | 0 => return ()
      | depth + 1 => skipTo opening closing bound depth
    else skipTo opening closing bound depth

/-- Read the brackets that make a type one of lists. -/
def listBrackets (type : DataType) : Nat → Reader DataType
  | 0 => return type
  | bound + 1 => do
    if ← acceptsSymbol "[" then
      if !(← acceptsSymbol "]") then
        let _ ← natural
        symbol "]"
      listBrackets (.other "LIST") bound
    else return type

/-- Read the type of single values. The members of a structure are not kept. -/
def plainType : Reader DataType := do
  let word ← typeWords
  if word == "STRUCT" || word == "MAP" || word == "ROW" then
    symbol "("
    skipTo "(" ")" ((← left) + 1) 0
    return .other word
  match DataType.ofName? word with
  | none => refuse
  | some type =>
    let arguments ← if ← acceptsSymbol "(" then do
        let arguments ← commaList natural
        symbol ")"
        pure arguments
      else pure []
    match type.withArguments? arguments with
    | none => refuse
    | some type => return type

/-- Read a type. -/
def dataType : Reader DataType := do
  listBrackets (← plainType) (← left)

/-! ### Expressions -/

/-- The value of a number as it is written: a whole number if it is one that can
be kept, a decimal number if it has a point, and a binary number otherwise. -/
def numberValue? (digits : String) : Option Value := do
  let number ← Decimal.ofText? digits
  let text := digits.toList
  let binary := Value.binary .double (.ofDecimal .double number)
  if text.any fun c => c == 'e' || c == 'E' then some binary
  else if text.contains '.' then
    let width := (text.filter Text.isAsciiDigit).length
    if width ≤ 38 then some (.decimal (number.scaled (-number.exponent).toNat)
      (-number.exponent).toNat) else some binary
  else if number.digits < Nat.pow 2 127 then some (.integer number.digits)
  else some binary

/-- The comparison that a symbol stands for. -/
def comparisonOf? (item : Item) : Option Comparison :=
  match item.token with
  | .symbol "=" | .symbol "==" => some .equal
  | .symbol "<>" | .symbol "!=" => some .different
  | .symbol "<" => some .less
  | .symbol "<=" => some .atMost
  | .symbol ">" => some .greater
  | .symbol ">=" => some .atLeast
  | _ => none

/-- The text of a literal. -/
def literal? (item : Item) : Option String :=
  match item.token with
  | .literal .plain body => some (String.ofList (Sql.undouble '\'' body.toList))
  | .literal .dollar body => some body
  | _ => none

/-- Read a literal. -/
def literal : Reader String := do
  match literal? (← next) with
  | some text => return text
  | none => refuse

/-- Read what comes after the word `INTERVAL`. No report shows an interval. -/
def interval : Reader Expr := do
  let text ← match (← next).token with
    | .literal .plain body => pure body
    | .number digits _ => pure digits
    | _ => refuse
  match ← peek? with
  | some item =>
    if ["YEAR", "YEARS", "MONTH", "MONTHS", "WEEK", "WEEKS", "DAY", "DAYS", "HOUR", "HOURS",
        "MINUTE", "MINUTES", "SECOND", "SECONDS", "MILLISECOND", "MILLISECONDS", "MICROSECOND",
        "MICROSECONDS"].contains item.keyword then
      let _ ← next
      return .constant (.other (text ++ " " ++ item.keyword))
    else return .constant (.other text)
  | none => return .constant (.other text)

/-- Read the types that a value is cast to one after another. -/
def casts (operand : Expr) : Nat → Reader Expr
  | 0 => return operand
  | bound + 1 => do
    if ← acceptsSymbol "::" then casts (.cast (← dataType) operand) bound
    else return operand

/-- Read a literal of a type that stands in front of it. -/
def typedLiteral : Reader Expr := do
  let type ← dataType
  return .cast type (.constant (.text (← literal)))

/-- Read one operand. `inner` reads an expression within it. No report shows a
list or a structure, so their members are not kept. -/
def operand (inner : Reader Expr) : Reader Expr := do
  let start ← get
  let item ← next
  match item.token with
  | .number digits _ =>
    match numberValue? digits with
    | some value => return .constant value
    | none => refuse
  | .literal .plain _ | .literal .dollar _ =>
    match literal? item with
    | some text => return .constant (.text text)
    | none => refuse
  | .literal .hexadecimal body => return .constant (.other body)
  | .placeholder "?" => do
    let input ← get
    set { input with placeholders := input.placeholders + 1 }
    return .parameter input.placeholders
  | .symbol "(" => do
    match ← commaList inner with
    | [value] =>
      symbol ")"
      return value
    | _ =>
      symbol ")"
      return .constant (.other "ROW")
  | .symbol "[" => do
    skipTo "[" "]" ((← left) + 1) 0
    return .constant (.other "LIST")
  | .symbol "\x7b" => do
    skipTo "\x7b" "\x7d" ((← left) + 1) 0
    return .constant (.other "STRUCT")
  | .word _ =>
    match item.keyword with
    | "TRUE" => return .constant (.boolean true)
    | "FALSE" => return .constant (.boolean false)
    | "NULL" => return .constant .null
    | "CAST" => bracketed do
      let value ← inner
      keywords ["AS"]
      return .cast (← dataType) value
    | "CURRENT_TIMESTAMP" => return .currentTimestamp
    | "INTERVAL" =>
      match ← (some <$> interval) <|> pure none with
      | some value => return value
      | none => return .column ["interval"]
    | "COUNT" =>
      if ← acceptsSymbol "(" then
        if ← acceptsSymbol ")" then return .countRows
        if ← acceptsSymbol "*" then
          symbol ")"
          return .countRows
        let value ← inner
        symbol ")"
        return .count value
      else
        set start
        return .column (← qualifiedName)
    | "NOW" =>
      if ← acceptsSymbol "(" then
        symbol ")"
        return .currentTimestamp
      else
        set start
        return .column (← qualifiedName)
    | _ =>
      set start
      typedLiteral <|> (Expr.column <$> qualifiedName)
  | _ => refuse

/-- Read what ends an operand's part of a comparison: a test for null. -/
def nullTest (operand : Expr) : Reader Expr := do
  if ← accepts "IS" then
    let negated ← accepts "NOT"
    keywords ["NULL"]
    return if negated then .not (.isNull operand) else .isNull operand
  else if ← accepts "ISNULL" then return .isNull operand
  else if ← accepts "NOTNULL" then return .not (.isNull operand)
  else return operand

mutual

/-- Read an expression. -/
def disjunction : Nat → Reader Expr
  | 0 => refuse
  | bound + 1 => do
    let left ← conjunction bound
    if ← accepts "OR" then return .or left (← disjunction bound) else return left

/-- Read an expression without `OR`. -/
def conjunction : Nat → Reader Expr
  | 0 => refuse
  | bound + 1 => do
    let left ← negation bound
    if ← accepts "AND" then return .and left (← conjunction bound) else return left

/-- Read a comparison or a negated one. -/
def negation : Nat → Reader Expr
  | 0 => refuse
  | bound + 1 => do
    if ← accepts "NOT" then return .not (← negation bound)
    let left ← signed bound
    let left ← nullTest left
    match ← peek? with
    | none => return left
    | some item =>
      match comparisonOf? item with
      | none => return left
      | some comparison =>
        let _ ← next
        let right ← signed bound
        nullTest (.compare comparison left right)

/-- Read an operand with its signs and casts. A sign binds less than a cast. -/
def signed : Nat → Reader Expr
  | 0 => refuse
  | bound + 1 => do
    if ← acceptsSymbol "-" then return .minus (← signed bound)
    if ← acceptsSymbol "+" then signed bound
    else
      let value ← operand (disjunction bound)
      casts value ((← left) + 1)

end

/-- Read an expression. Six readers lie on the way from one expression to one
within it, and a token is read before the inner one begins. -/
def expression : Reader Expr := do
  disjunction (6 * ((← left) + 1))

/-! ### Queries -/

/-- Read a name that something is given. -/
def label? : Reader (Option String) := do
  if ← accepts "AS" then return some (← name)
  match ← peek? with
  | none => return none
  | some item =>
    match nameOf? item with
    | none => return none
    | some name =>
      let _ ← next
      return some name

/-- Read what is selected. -/
def selection : Reader Selection := do
  if ← acceptsSymbol "*" then return .all none
  let star : Reader Selection := do
    let table ← name
    symbol "."
    symbol "*"
    return .all (some table)
  star <|> do
    let value ← expression
    return .item value (← label?)

/-- Read a query of one table. -/
def select : Reader Select := do
  keywords ["SELECT"]
  let _ ← accepts "ALL"
  let selections ← commaList selection
  let origin ← if ← accepts "FROM" then do
      let table ← qualifiedName
      pure (some ⟨table, ← label?⟩)
    else pure none
  let condition ← if ← accepts "WHERE" then some <$> expression else pure none
  return ⟨selections, origin, condition⟩

/-- Read further queries whose rows are to follow. -/
def unions : Nat → Reader (List Select)
  | 0 => return []
  | bound + 1 => do
    if ← accepts "UNION" then
      keywords ["ALL"]
      let another ← select
      return another :: (← unions bound)
    else return []

/-- Read what rows are ordered by. -/
def sortKey : Reader SortKey := do
  let value ← expression
  let descending ← if ← accepts "DESC" then pure true else do
    let _ ← accepts "ASC"
    pure false
  let nullsFirst ← if ← accepts "NULLS" then
      if ← accepts "FIRST" then pure true else do
        keywords ["LAST"]
        pure false
    else pure false
  return ⟨value, descending, nullsFirst⟩

/-- Read a query. -/
def query : Reader Query := do
  let first ← select
  let others ← unions (← left)
  let keys ← if ← acceptsAll ["ORDER", "BY"] then commaList sortKey else pure []
  return ⟨first, others, keys⟩

/-! ### Definitions -/

/-- Read whether a thing may be there already. -/
def unlessThere : Reader Otherwise := do
  if ← accepts "IF" then
    keywords ["NOT", "EXISTS"]
    return .ignore
  else return .fail

/-- Read whether a thing may be missing. -/
def ifThere : Reader Otherwise := do
  if ← accepts "IF" then
    keywords ["EXISTS"]
    return .ignore
  else return .fail

/-- Read the options of a column, and the keys that they make of it alone. -/
def columnOptions (column : ColumnDefinition) (keys : List KeyDefinition) :
    Nat → Reader (ColumnDefinition × List KeyDefinition)
  | 0 => return (column, keys)
  | bound + 1 => do
    if ← accepts "PRIMARY" then
      keywords ["KEY"]
      columnOptions column (keys ++ [⟨true, [column.name]⟩]) bound
    else if ← accepts "UNIQUE" then
      columnOptions column (keys ++ [⟨false, [column.name]⟩]) bound
    else if ← acceptsAll ["NOT", "NULL"] then
      columnOptions { column with notNull := true } keys bound
    else if ← accepts "NULL" then columnOptions column keys bound
    else if ← accepts "DEFAULT" then
      -- `NOT NULL` after the value is the next option, so a comparison is not read.
      let value ← signed (6 * ((← left) + 1))
      columnOptions { column with fallback := value } keys bound
    else return (column, keys)

/-- Read the definition of a column. -/
def columnDefinition : Reader (ColumnDefinition × List KeyDefinition) := do
  let name ← name
  let type ← dataType
  columnOptions ⟨name, type, false, .constant .null⟩ [] (← left)

/-- Read a key of several columns. -/
def keyDefinition : Reader KeyDefinition := do
  if ← accepts "CONSTRAINT" then
    let _ ← name
  let primary ← if ← accepts "PRIMARY" then do
      keywords ["KEY"]
      pure true
    else do
      keywords ["UNIQUE"]
      pure false
  return ⟨primary, ← bracketed (commaList name)⟩

/-- Read a member of the definition of a table. -/
def member : Reader (List ColumnDefinition × List KeyDefinition) := do
  let word := keywordOf (← peek?)
  if word == "PRIMARY" || word == "UNIQUE" || word == "CONSTRAINT" then
    return ([], [← keyDefinition])
  else
    let (column, keys) ← columnDefinition
    return ([column], keys)

/-- Read the rest of `CREATE TABLE`. -/
def createTable : Reader Statement := do
  let otherwise ← unlessThere
  let name ← qualifiedName
  let members ← bracketed (commaList member)
  return .createTable otherwise name (members.flatMap (·.1)) (members.flatMap (·.2))

/-- Read the rest of `CREATE VIEW`. -/
def createView (source : String) : Reader Statement := do
  let otherwise ← unlessThere
  let view ← qualifiedName
  let columns ← if ← acceptsSymbol "(" then do
      let columns ← commaList name
      symbol ")"
      pure columns
    else pure []
  keywords ["AS"]
  return .createView otherwise view columns (← query) source

/-- Read the rest of `CREATE INDEX`. -/
def createIndex (unique : Bool) : Reader Statement := do
  let otherwise ← unlessThere
  let index ← name
  keywords ["ON"]
  let table ← qualifiedName
  return .createIndex otherwise unique index table (← bracketed (commaList name))

/-- Read the rest of a definition. -/
def create (source : String) : Reader Statement := do
  if ← accepts "TABLE" then createTable
  else if ← accepts "SCHEMA" then
    let otherwise ← unlessThere
    return .createSchema otherwise (← qualifiedName)
  else if ← accepts "VIEW" then createView source
  else if ← accepts "INDEX" then createIndex false
  else if ← acceptsAll ["UNIQUE", "INDEX"] then createIndex true
  else refuse

/-- Read the rest of `DROP`. -/
def drop : Reader Statement := do
  let kind : EntryKind ←
    match keywordOf (some (← next)) with
    | "TABLE" => pure .table
    | "VIEW" => pure .view
    | "SCHEMA" => pure .schema
    | "INDEX" => pure .index
    | _ => refuse
  let otherwise ← ifThere
  let name ← qualifiedName
  let cascade ← accepts "CASCADE"
  if !cascade then
    let _ ← accepts "RESTRICT"
  return .drop kind otherwise cascade name

/-- Read the rest of `ALTER`. -/
def alter : Reader Statement := do
  keywords ["TABLE"]
  let table ← qualifiedName
  keywords ["ADD"]
  let _ ← accepts "COLUMN"
  let otherwise ← unlessThere
  let (column, keys) ← columnDefinition
  -- A column that is added may not restrict the rows that are there.
  if column.notNull || !keys.isEmpty then refuse
  return .addColumn table otherwise column

/-! ### Changes -/

/-- Read a value of a row, or the word for the value that is taken where none is
given. -/
def rowValue : Reader (Option Expr) := do
  if ← accepts "DEFAULT" then return none else some <$> expression

/-- Read the rest of `INSERT`. -/
def insert : Reader Statement := do
  keywords ["INTO"]
  let table ← qualifiedName
  let columns ← if ← acceptsSymbol "(" then do
      let columns ← commaList name
      symbol ")"
      pure (some columns)
    else pure none
  if ← accepts "VALUES" then
    return .insert table columns (.values (← commaList (bracketed (commaList rowValue))))
  else return .insert table columns (.query (← query))

/-- Read one change of a row. -/
def change : Reader (String × Option Expr) := do
  let column ← name
  symbol "="
  return (column, ← rowValue)

/-- Read a condition, if there is one. -/
def condition? : Reader (Option Expr) := do
  if ← accepts "WHERE" then some <$> expression else return none

/-- Read the rest of `UPDATE`. -/
def update : Reader Statement := do
  let table ← qualifiedName
  keywords ["SET"]
  let changes ← commaList change
  return .update table changes (← condition?)

/-- Read the rest of `DELETE`. -/
def delete : Reader Statement := do
  keywords ["FROM"]
  let table ← qualifiedName
  return .delete table (← condition?)

/-- Read the word that may follow a word about transactions. -/
def transactionWord : Reader Unit := do
  if !(← accepts "TRANSACTION") then
    let _ ← accepts "WORK"

/-- Read a statement whose text is `source`. -/
def statement (source : String) : Reader Statement := do
  if keywordOf (← peek?) == "SELECT" then return .select (← query)
  match keywordOf (some (← next)) with
  | "CREATE" => create source
  | "DROP" => drop
  | "ALTER" => alter
  | "INSERT" => insert
  | "UPDATE" => update
  | "DELETE" => delete
  | "BEGIN" => transactionWord *> return .beginTransaction
  | "START" => keywords ["TRANSACTION"] *> return .beginTransaction
  | "COMMIT" | "END" => transactionWord *> return .commit
  | "ROLLBACK" | "ABORT" => transactionWord *> return .rollback
  | _ => refuse

end Reader

/-- A statement and the number of its placeholders, which are numbered in the
order in which they are written. -/
structure Reading where
  statement : Statement
  placeholders : Nat
  deriving DecidableEq, Repr

/-- Read a statement. -/
def read (text : String) : Except EngineError Reading :=
  match Sql.lexemes text with
  | .error error => .error (.syntaxError error.message)
  | .ok lexemes =>
    match (Reader.statement text).run ⟨Item.ofLexemes false lexemes, 0⟩ with
    | some (statement, ⟨[], placeholders⟩) => .ok ⟨statement, placeholders⟩
    | _ => .error (.syntaxError text)

end MigrationLedger.Engine
