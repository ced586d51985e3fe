/-
# Conversions of values

Casts between the types, and the readings of a value by which reports and counts
take it out of the database. Casting to a whole number rounds, while a binary
number that is read as a whole number loses what stands behind the point.
-/

import MigrationLedger.Engine.Error
import MigrationLedger.Engine.Value

namespace MigrationLedger.Engine

/-- The word for a truth value. -/
def truthOfText? (text : String) : Option Bool :=
  let word := (Text.trimmed text).toLower
  if ["true", "t", "1", "yes", "y"].contains word then some true
  else if ["false", "f", "0", "no", "n"].contains word then some false
  else none

/-- The canonical text of an identifier of 128 bits. -/
def uuidOfText? (text : String) : Option String :=
  let inner := (Text.trim text.toList).filter fun c => c != '\x7b' && c != '\x7d'
  let digits := inner.filter (· != '-')
  if digits.length ≠ 32 ∨ !digits.all Text.isHexDigit then none
  else
    let digits := digits.map Char.toLower
    let part := fun start count => (digits.drop start).take count
    some (String.ofList (part 0 8 ++ '-' :: part 8 4 ++ '-' :: part 12 4 ++ '-' :: part 16 4 ++
      '-' :: part 20 12))

/-- A number as a whole number: rounded, the half of a binary number to the even
neighbour. -/
def wholeOf? : Value → Option Int
  | .binary _ value =>
    value.fraction?.map fun (numerator, denominator) =>
      let rounded : Nat := Binary.roundHalfEven numerator.natAbs denominator
      if numerator < 0 then -(rounded : Int) else rounded
  | value => value.fraction?.map fun (numerator, denominator) => roundHalfAway numerator denominator

/-- A value as one of a type, if there is one. -/
def Value.castTo? (type : DataType) (value : Value) : Option Value :=
  match type, value with
  | _, .null => some .null
  | .text, value => some (.text value.toText)
  | .boolean, .boolean value => some (.boolean value)
  | .boolean, .text content => (truthOfText? content).map .boolean
  | .boolean, value => value.fraction?.map fun (numerator, _) => .boolean (numerator != 0)
  | .integer signed bits, value =>
    let (least, greatest) := DataType.bounds signed bits
    let whole : Option Int :=
      match value with
      | .text content => (Decimal.ofText? content).map fun number => number.scaled 0
      | value => wholeOf? value
    whole.bind fun n => if least ≤ n ∧ n ≤ greatest then some (.integer n) else none
  | .decimal width scale, value =>
    let units : Option Int :=
      match value with
      | .text content => (Decimal.ofText? content).map fun number => number.scaled scale
      | value =>
        value.fraction?.map fun (numerator, denominator) =>
          roundHalfAway (numerator * (Nat.pow 10 scale : Nat)) denominator
    units.bind fun n => if n.natAbs < Nat.pow 10 width then some (.decimal n scale) else none
  | .binary format, .text content => (Binary.ofText? format content).map (.binary format)
  | .binary format, .binary _ value =>
    let rounded := value.round format
    if value.fraction?.isSome && rounded.fraction?.isNone then none
    else some (.binary format rounded)
  | .binary format, value =>
    value.fraction?.map fun (numerator, denominator) =>
      .binary format (Binary.ofFraction format numerator denominator)
  | .uuid, .text content => (uuidOfText? content).map .text
  | .date, .date days => some (.date days)
  | .date, .timestamp micros => some (.date (micros.fdiv Calendar.dayLength))
  | .date, .text content => (Calendar.readDate? content).map .date
  | .time, .time micros => some (.time micros)
  | .time, .timestamp micros => some (.time (Calendar.split micros).2)
  | .time, .text content => (Calendar.readTime? content).map .time
  | .timestamp, .timestamp micros => some (.timestamp micros)
  | .timestamp, .date days => some (.timestamp (days * Calendar.dayLength))
  | .timestamp, .text content => (Calendar.readMoment? content).map .timestamp
  | .other _, .other content => some (.other content)
  | .other _, .text content => some (.other content)
  | _, _ => none

/-- A value as one of a type. -/
def Value.castTo (type : DataType) (value : Value) : Except EngineError Value :=
  match value.castTo? type with
  | some value => .ok value
  | none => .error (.notConvertible value.toText type.title)

/-! ### Reading values -/

/-- The number can be kept in 64 bits. -/
def fitsInt64 (n : Int) : Bool :=
  decide (-(Nat.pow 2 63) ≤ n ∧ n < Nat.pow 2 63)

/-- A value as a whole number, of any size. -/
def Value.readWhole? : Value → Option Int
  | .integer value => some value
  | .decimal units scale => some (roundHalfAway units (Nat.pow 10 scale))
  | .binary _ value => value.truncate?
  | .date days => some days
  | .time micros => some micros
  | .timestamp micros => some micros
  | _ => none

/-- A value as a binary number. -/
def Value.readBinary? : Value → Option Binary
  | .binary _ value => some (value.round .double)
  | value =>
    match value with
    | .integer _ | .decimal _ _ =>
      value.fraction?.map fun (numerator, denominator) =>
        Binary.ofFraction .double numerator denominator
    | _ => none

/-- The text by which a report shows a value: the text itself, a whole number if
the value can be read as one of 64 bits, another number, a truth value, and
`null` for everything else. -/
def Value.shown (value : Value) : String :=
  match value with
  | .text content => content
  | .boolean value => if value then "true" else "false"
  | value =>
    match value.readWhole?.filter fitsInt64 with
    | some whole => toString whole
    | none =>
      match value.readBinary? with
      | some number => number.plainText .double
      | none => "null"

/-- The value of decimal digits with an optional sign. -/
def digitsWithSign? (text : List Char) : Option Int :=
  let (negative, digits) :=
    match text with
    | '-' :: digits => (true, digits)
    | '+' :: digits => (false, digits)
    | digits => (false, digits)
  if digits = [] ∨ !digits.all Text.isAsciiDigit then none
  else
    let value : Int := Decimal.digitsValue 0 digits
    some (if negative then -value else value)

/-- A value as a count. -/
def Value.count (value : Value) : Except EngineError Int :=
  let whole :=
    match value with
    | .text content => digitsWithSign? content.toList
    | value => value.readWhole?
  match whole.filter fitsInt64 with
  | some whole => .ok whole
  | none => .error (.noNumber value.toText)

end MigrationLedger.Engine
