/-
# Values of the engine

A column has a type and a row has a value for each column, or nothing: `null`
belongs to every type. Values of types that no report shows are kept as their
text.
-/

import MigrationLedger.Calendar
import MigrationLedger.Number.Binary

namespace MigrationLedger.Engine

/-- The type of a column or of an expression. -/
inductive DataType
  | boolean
  | integer (signed : Bool) (bits : Nat)
  | decimal (width scale : Nat)
  | binary (format : BinaryFormat)
  | text
  | uuid
  | date
  | time
  | timestamp
  | other (name : String)
  deriving DecidableEq, Repr

/-- A value. Decimal numbers are whole numbers of units of a negative power of
ten, dates are days and times are microseconds. -/
inductive Value
  | null
  | boolean (value : Bool)
  | integer (value : Int)
  | decimal (units : Int) (scale : Nat)
  | binary (format : BinaryFormat) (value : Binary)
  | text (value : String)
  | date (days : Int)
  | time (micros : Nat)
  | timestamp (micros : Int)
  | other (content : String)
  deriving DecidableEq, Repr

namespace DataType

/-- Whole numbers of 32 bits. -/
abbrev int32 : DataType := .integer true 32

/-- Whole numbers of 64 bits. -/
abbrev int64 : DataType := .integer true 64

/-- The smallest and the largest number of an integer type. -/
def bounds (signed : Bool) (bits : Nat) : Int × Int :=
  if signed then
    let half : Int := Nat.pow 2 (bits - 1)
    (-half, half - 1)
  else (0, Nat.pow 2 bits - 1)

/-- Values of the type are numbers. -/
def isNumeric : DataType → Bool
  | .integer _ _ | .decimal _ _ | .binary _ => true
  | _ => false

/-- Values of the type are texts. -/
def isText : DataType → Bool
  | .text | .uuid => true
  | _ => false

/-- Values of the type lie on the calendar. -/
def isMoment : DataType → Bool
  | .date | .timestamp => true
  | _ => false

/-- Values of two types can be compared with each other. -/
def comparable (a b : DataType) : Bool :=
  a == b || (a.isNumeric && b.isNumeric) || (a.isText && b.isText) ||
    (a.isMoment && b.isMoment) || (a == .boolean && b.isNumeric) ||
    (a.isNumeric && b == .boolean)

/-- The types that a name without arguments stands for. -/
def named : List (List String × DataType) :=
  [(["BOOLEAN", "BOOL", "LOGICAL"], .boolean),
    (["TINYINT", "INT1"], .integer true 8),
    (["SMALLINT", "INT2", "SHORT", "INT16"], .integer true 16),
    (["INTEGER", "INT", "INT4", "SIGNED", "INT32"], .integer true 32),
    (["BIGINT", "INT8", "LONG", "INT64"], .integer true 64),
    (["HUGEINT", "INT128"], .integer true 128),
    (["UTINYINT", "UINT8"], .integer false 8),
    (["USMALLINT", "UINT16"], .integer false 16),
    (["UINTEGER", "UINT32"], .integer false 32),
    (["UBIGINT", "UINT64"], .integer false 64),
    (["UHUGEINT", "UINT128"], .integer false 128),
    (["FLOAT", "FLOAT4", "REAL"], .binary .single),
    (["DOUBLE", "FLOAT8"], .binary .double),
    (["DECIMAL", "NUMERIC", "DEC"], .decimal 18 3),
    (["VARCHAR", "TEXT", "STRING", "CHAR", "BPCHAR", "NVARCHAR", "CHARACTER"], .text),
    (["UUID", "GUID"], .uuid),
    (["DATE"], .date),
    (["TIME"], .time),
    (["TIMESTAMP", "DATETIME", "TIMESTAMPTZ", "TIMESTAMP_S", "TIMESTAMP_MS", "TIMESTAMP_US",
      "TIMESTAMP_NS"], .timestamp),
    (["BLOB", "BYTEA", "BINARY", "VARBINARY"], .other "BLOB"),
    (["INTERVAL"], .other "INTERVAL"),
    (["BIT", "BITSTRING"], .other "BIT"),
    (["JSON"], .text)]

/-- The type that a type becomes by the numbers in brackets behind its name. The
length of a text is not kept. -/
def withArguments? : DataType → List Nat → Option DataType
  | type, [] => some type
  | .decimal _ _, [width] => if 1 ≤ width ∧ width ≤ 38 then some (.decimal width 0) else none
  | .decimal _ _, [width, scale] =>
    if 1 ≤ width ∧ width ≤ 38 ∧ scale ≤ width then some (.decimal width scale) else none
  | .text, [_] => some .text
  | .binary format, [_] => some (.binary format)
  | .timestamp, [_] => some .timestamp
  | _, _ => none

/-- The type that a name stands for. -/
def ofName? (name : String) : Option DataType :=
  (named.find? fun entry => entry.1.contains name).map (·.2)

/-- A name for the type that stands for it. -/
def title : DataType → String
  | .boolean => "BOOLEAN"
  | .integer true 8 => "TINYINT"
  | .integer true 16 => "SMALLINT"
  | .integer true 32 => "INTEGER"
  | .integer true 64 => "BIGINT"
  | .integer true _ => "HUGEINT"
  | .integer false 8 => "UTINYINT"
  | .integer false 16 => "USMALLINT"
  | .integer false 32 => "UINTEGER"
  | .integer false 64 => "UBIGINT"
  | .integer false _ => "UHUGEINT"
  | .decimal width scale => "DECIMAL(" ++ toString width ++ "," ++ toString scale ++ ")"
  | .binary format => if format = .single then "FLOAT" else "DOUBLE"
  | .text => "VARCHAR"
  | .uuid => "UUID"
  | .date => "DATE"
  | .time => "TIME"
  | .timestamp => "TIMESTAMP"
  | .other name => name

end DataType

namespace Value

/-- The value says nothing. -/
def isNull : Value → Bool
  | .null => true
  | _ => false

/-- The text that a value is cast to. -/
def toText : Value → String
  | .null => ""
  | .boolean value => if value then "true" else "false"
  | .integer value => toString value
  | .decimal units scale => unitsText units scale
  | .binary format value => value.text format
  | .text value => value
  | .date days => Calendar.dateText days
  | .time micros => Calendar.timeText micros
  | .timestamp micros => Calendar.momentText micros
  | .other content => content

/-- A number that is no infinity, as a fraction. -/
def fraction? : Value → Option (Int × Nat)
  | .boolean value => some (if value then 1 else 0, 1)
  | .integer value => some (value, 1)
  | .decimal units scale => some (units, Nat.pow 10 scale)
  | .binary _ value => value.fraction?
  | _ => none

/-- Where a number that is no fraction stands: below all, above all, or above
even that. -/
def beyond : Value → Int
  | .binary _ (.infinite true) => -1
  | .binary _ (.infinite false) => 1
  | .binary _ .notANumber => 2
  | _ => 0

/-- The microseconds of a moment. -/
def moment? : Value → Option Int
  | .date days => some (days * Calendar.dayLength)
  | .timestamp micros => some micros
  | _ => none

/-- The order of two values of comparable types. Texts are compared by their
characters, which is the order of their bytes too. -/
def order (a b : Value) : Ordering :=
  match a, b with
  | .text a, .text b => compare a b
  | .other a, .other b => compare a b
  | .time a, .time b => compare a b
  | a, b =>
    match a.fraction?, b.fraction? with
    | some (n, d), some (m, e) => compare (n * e) (m * d)
    | _, _ =>
      match a.moment?, b.moment? with
      | some a, some b => compare a b
      | _, _ => compare a.beyond b.beyond

end Value

end MigrationLedger.Engine
