/-
# Decimal numbers

Numbers as they are written: a sign, digits with a point somewhere, and a power
of ten. Rounding is exact, since it works on fractions of whole numbers; a half
is rounded away from zero.
-/

import MigrationLedger.Text.Blank
import MigrationLedger.Text.Letter

namespace MigrationLedger

/-- The number `digits * 10 ^ exponent`, or its negation. -/
structure Decimal where
  negative : Bool
  digits : Nat
  exponent : Int
  deriving DecidableEq, Repr

/-- The whole number nearest to a fraction; a half is rounded away from zero. -/
def roundHalfAway (numerator : Int) (denominator : Nat) : Int :=
  let rounded : Nat := (2 * numerator.natAbs + denominator) / (2 * denominator)
  if numerator < 0 then -(rounded : Int) else rounded

namespace Decimal

/-- The value of decimal digits, after digits with a value. -/
def digitsValue (before : Nat) (digits : List Char) : Nat :=
  digits.foldl (fun value c => value * 10 + (c.toNat - '0'.toNat)) before

/-- Exponents beyond this say no more than this one does: the number is larger
than anything that can be kept, or as good as zero. -/
def exponentLimit : Nat := 5000

/-- The exponent at the end of a number, zero if nothing is left of it. -/
def exponentOf? : List Char → Option Int
  | [] => some 0
  | e :: rest =>
    if e ≠ 'e' ∧ e ≠ 'E' then none
    else
      let (negative, digits) :=
        match rest with
        | '-' :: digits => (true, digits)
        | '+' :: digits => (false, digits)
        | digits => (false, digits)
      if digits = [] ∨ !digits.all Text.isAsciiDigit then none
      else
        let value : Int := min (digitsValue 0 digits) exponentLimit
        some (if negative then -value else value)

/-- Read a number: an optional sign, digits with at most one point among them,
and an optional power of ten. -/
def ofChars? (text : List Char) : Option Decimal :=
  let (negative, text) :=
    match text with
    | '-' :: rest => (true, rest)
    | '+' :: rest => (false, rest)
    | rest => (false, rest)
  let whole := text.takeWhile Text.isAsciiDigit
  let rest := text.dropWhile Text.isAsciiDigit
  let (fraction, rest) :=
    match rest with
    | '.' :: rest => (rest.takeWhile Text.isAsciiDigit, rest.dropWhile Text.isAsciiDigit)
    | rest => ([], rest)
  if whole = [] ∧ fraction = [] then none
  else
    (exponentOf? rest).map fun exponent =>
      ⟨negative, digitsValue 0 (whole ++ fraction), exponent - fraction.length⟩

/-- Read a number between blanks. -/
def ofText? (text : String) : Option Decimal :=
  ofChars? (Text.trim text.toList)

/-- The number without its sign as a fraction. -/
def ratio (number : Decimal) : Nat × Nat :=
  if 0 ≤ number.exponent then (number.digits * Nat.pow 10 number.exponent.toNat, 1)
  else (number.digits, Nat.pow 10 (-number.exponent).toNat)

/-- The number in units of a negative power of ten, rounded. -/
def scaled (number : Decimal) (scale : Nat) : Int :=
  let (numerator, denominator) := number.ratio
  let signed : Int := if number.negative then -(numerator : Int) else numerator
  roundHalfAway (signed * (Nat.pow 10 scale : Nat)) denominator

end Decimal

/-- The text of a whole number of units of a negative power of ten. -/
def unitsText (units : Int) (scale : Nat) : String :=
  let digits := toString units.natAbs
  let digits := String.ofList (List.replicate (scale + 1 - digits.length) '0') ++ digits
  let sign := if units < 0 then "-" else ""
  if scale = 0 then sign ++ digits
  else
    let whole := digits.toList.take (digits.length - scale)
    let fraction := digits.toList.drop (digits.length - scale)
    sign ++ String.ofList (whole ++ '.' :: fraction)

end MigrationLedger
