/-
# Data types

Types matter to recognition in two ways: a column needs one, and a built-in
type in front of a literal makes a typed literal of the two words. Any name
that is no built-in type is taken for a type of the user's own, with free-form
modifiers.
-/

import MigrationLedger.Sql.Grammar.Name

namespace MigrationLedger.Sql

/-- What kind of type was read. -/
inductive TypeKind
  | builtin
  | interval
  | custom
  deriving DecidableEq

namespace Parse

variable {whole : List Lexeme}

/-- `(n)`, if it is next. -/
def optionalPrecision : Parse whole Unit := do
  if ← symbol "(" then
    wholeNumber
    expect ")"

/-- `(p)` or `(p, s)`, if it is next. The scale may be signed. -/
def optionalPrecisionAndScale : Parse whole Unit := do
  if ← symbol "(" then
    wholeNumber
    if ← symbol "," then
      if !(← symbol "-") then let _ ← symbol "+"
      wholeNumber
    expect ")"

/-- `(n)`, `(n CHARACTERS)`, `(n OCTETS)` or `(MAX)`, if it is next. -/
def optionalLength : Parse whole Unit := do
  if ← symbol "(" then
    if !(← keyword "MAX") then
      wholeNumber
      optional ["CHARACTERS", "OCTETS"]
    expect ")"

/-- `WITH TIME ZONE` or `WITHOUT TIME ZONE`, if one is next. -/
def optionalTimeZone : Parse whole Unit := do
  if ← keyword "WITH" then expectKeywords ["TIME", "ZONE"]
  else if ← keyword "WITHOUT" then expectKeywords ["TIME", "ZONE"]

/-- A closing angle bracket, which may be half of a shift operator. -/
def closeAngle : Parse whole Unit := do
  if ← symbol ">" then return ()
  match (← get).items with
  | item :: rest =>
    if item.isSymbol ">>" then
      modify fun cursor => { cursor with items := { item with halved := true } :: rest }
    else mismatch
  | [] => mismatch

/-- The modifiers of a type of the user's own: words, numbers and literals in
parentheses. -/
def optionalModifiers : Parse whole Unit := do
  if ← symbol "(" then
    loop do
      match ← next? with
      | some item =>
        match item.token with
        | .word _ | .number _ _ | .literal .plain _ | .symbol "," => return true
        | .symbol ")" => return false
        | _ => mismatch
      | none => mismatch

/-- Built-in types that stand alone. -/
def plainTypes : List String :=
  ["BOOLEAN", "BOOL", "REAL", "FLOAT4", "FLOAT32", "FLOAT64", "FLOAT8", "INT16", "INT32",
    "INT64", "INT128", "INT256", "HUGEINT", "UBIGINT", "UHUGEINT", "USMALLINT", "UTINYINT",
    "UINT8", "UINT16", "UINT32", "UINT64", "UINT128", "UINT256", "UUID", "DATE", "DATE32",
    "TIMESTAMP_NTZ", "JSON", "JSONB", "REGCLASS", "TEXT", "TINYTEXT", "MEDIUMTEXT", "LONGTEXT",
    "TINYBLOB", "MEDIUMBLOB", "LONGBLOB", "BYTEA", "TRIGGER", "TSVECTOR", "TSQUERY"]

/-- Built-in integer types, which take a display width and a sign. -/
def integerTypes : List String :=
  ["TINYINT", "INT2", "SMALLINT", "MEDIUMINT", "INT", "INT4", "INT8", "INTEGER", "BIGINT"]

/-- Built-in types that take a precision. -/
def precisionTypes : List String :=
  ["DATETIME", "TIMESTAMPTZ", "TIMETZ", "BLOB", "CLOB", "BYTES", "VARBIT", "STRING"]

/-- Built-in types that take a precision and a scale. -/
def decimalTypes : List String :=
  ["NUMERIC", "DECIMAL", "DEC", "BIGNUMERIC", "BIGDECIMAL", "FLOAT"]

/-- A type named by this keyword, if it names a built-in one. The keyword has
been read. -/
def builtinType (dataType : Parse whole TypeKind) (name : String) :
    Parse whole (Option TypeKind) := do
  if plainTypes.contains name then return some .builtin
  else if integerTypes.contains name then
    optionalPrecision
    optional ["UNSIGNED", "SIGNED"]
    return some .builtin
  else if precisionTypes.contains name then
    optionalPrecision
    return some .builtin
  else if decimalTypes.contains name then
    optionalPrecisionAndScale
    optional ["UNSIGNED"]
    return some .builtin
  else
    match name with
    | "DOUBLE" =>
      if !(← keyword "PRECISION") then optionalPrecisionAndScale
      optional ["UNSIGNED"]
      return some .builtin
    | "VARCHAR" | "NVARCHAR" | "BINARY" | "VARBINARY" =>
      optionalLength
      return some .builtin
    | "CHARACTER" | "CHAR" =>
      if ← keyword "VARYING" then optionalLength
      else if ← keywords ["LARGE", "OBJECT"] then optionalPrecision
      else optionalLength
      return some .builtin
    | "BIT" =>
      optional ["VARYING"]
      optionalPrecision
      return some .builtin
    | "TIMESTAMP" | "TIME" =>
      optionalPrecision
      optionalTimeZone
      return some .builtin
    | "INTERVAL" => return some .interval
    | "SIGNED" | "UNSIGNED" =>
      optional ["INTEGER"]
      return some .builtin
    | "ENUM" | "SET" =>
      parenthesized (commaList do
        textLiteral
        if ← symbol "=" then wholeNumber)
      return some .builtin
    | "ARRAY" =>
      expect "<"
      let _ ← dataType
      closeAngle
      return some .builtin
    | "STRUCT" | "UNION" =>
      parenthesized (commaList do
        anyIdentifier
        let _ ← dataType)
      return some .builtin
    | _ => return none

/-- A type in terms of the types it is made of. -/
def dataTypeStep (dataType : Parse whole TypeKind) : Parse whole TypeKind := do
  let start ← get
  let name := (start.items.head?.map (·.keyword)).getD ""
  let kind ← do
    skip
    match ← builtinType dataType name with
    | some kind => pure kind
    | none =>
      set start
      anyName
      optionalModifiers
      pure .custom
  loop do
    if ← symbol "[" then
      let _ ← attempt wholeNumber
      expect "]"
      return true
    else
      return false
  return kind

/-- A data type, with the brackets that make arrays of it. -/
def dataType : Parse whole TypeKind := recursive dataTypeStep

/-- A data type whose kind does not matter. -/
def anyType : Parse whole Unit := do
  let _ ← dataType

end Parse

end MigrationLedger.Sql
