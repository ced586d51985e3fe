/-
# Binary floating-point numbers

A finite binary number is a significand times a power of two. A format bounds
the digits of the significand and the exponent. Every fraction has a nearest
number in a format, with ties going to the even significand, and every number is
written with the fewest decimal digits that lead back to it. All of it is exact
arithmetic on whole numbers.
-/

import MigrationLedger.Number.Decimal

namespace MigrationLedger

/-- How many binary digits a significand has and which exponents there are. -/
structure BinaryFormat where
  precision : Nat
  lowest : Int
  highest : Int
  deriving DecidableEq, Repr

namespace BinaryFormat

/-- Numbers of 32 bits. -/
def single : BinaryFormat := ⟨24, -149, 104⟩

/-- Numbers of 64 bits. -/
def double : BinaryFormat := ⟨53, -1074, 971⟩

end BinaryFormat

/-- A binary floating-point number. -/
inductive Binary
  | finite (negative : Bool) (significand : Nat) (exponent : Int)
  | infinite (negative : Bool)
  | notANumber
  deriving DecidableEq, Repr

namespace Binary

/-- The whole number nearest to a fraction; a half goes to the even neighbour. -/
def roundHalfEven (numerator denominator : Nat) : Nat :=
  let quotient := numerator / denominator
  let twice := 2 * (numerator % denominator)
  if twice < denominator then quotient
  else if denominator < twice then quotient + 1
  else quotient + quotient % 2

/-- A fraction in units of a power of two, rounded. -/
def inUnits (numerator denominator : Nat) (exponent : Int) : Nat :=
  if 0 ≤ exponent then roundHalfEven numerator (denominator * Nat.pow 2 exponent.toNat)
  else roundHalfEven (numerator * Nat.pow 2 (-exponent).toNat) denominator

/-- The number of a format that is nearest to a fraction. -/
def ofRatio (format : BinaryFormat) (negative : Bool) (numerator denominator : Nat) : Binary :=
  if numerator = 0 then .finite negative 0 format.lowest
  else
    let estimate : Int :=
      (numerator.log2 : Int) - (denominator.log2 : Int) - (format.precision : Int)
    let exponent := max estimate format.lowest
    let significand := inUnits numerator denominator exponent
    let (significand, exponent) :=
      if Nat.pow 2 format.precision ≤ significand then
        (inUnits numerator denominator (exponent + 1), exponent + 1)
      else (significand, exponent)
    let (significand, exponent) :=
      if Nat.pow 2 format.precision ≤ significand then (significand / 2, exponent + 1)
      else (significand, exponent)
    if format.highest < exponent then .infinite negative
    else .finite negative significand exponent

/-- The number of a format that is nearest to a decimal number. -/
def ofDecimal (format : BinaryFormat) (number : Decimal) : Binary :=
  let (numerator, denominator) := number.ratio
  ofRatio format number.negative numerator denominator

/-- The number of a format that is nearest to a fraction with a sign. -/
def ofFraction (format : BinaryFormat) (numerator : Int) (denominator : Nat) : Binary :=
  ofRatio format (decide (numerator < 0)) numerator.natAbs denominator

/-- The number with the other sign. -/
def negate : Binary → Binary
  | .finite negative significand exponent => .finite (!negative) significand exponent
  | .infinite negative => .infinite (!negative)
  | .notANumber => .notANumber

/-- A finite number as a fraction. -/
def fraction? : Binary → Option (Int × Nat)
  | .finite negative significand exponent =>
    let sign : Int := if negative then -1 else 1
    if 0 ≤ exponent then some (sign * (significand * Nat.pow 2 exponent.toNat : Nat), 1)
    else some (sign * significand, Nat.pow 2 (-exponent).toNat)
  | .infinite _ => none
  | .notANumber => none

/-- The number in a format, rounded. -/
def round (format : BinaryFormat) : Binary → Binary
  | .finite negative significand exponent =>
    match fraction? (.finite false significand exponent) with
    | some (numerator, denominator) => ofRatio format negative numerator.natAbs denominator
    | none => .notANumber
  | number => number

/-- A finite number without what stands behind the point. -/
def truncate? (number : Binary) : Option Int :=
  number.fraction?.map fun (numerator, denominator) => numerator.tdiv denominator

/-! ### The fewest digits -/

/-- The power of ten of the first digit of a positive fraction. -/
def magnitude (numerator denominator : Nat) : Int :=
  if denominator ≤ numerator then ((toString (numerator / denominator)).length : Int) - 1
  else
    let reciprocal := (toString (denominator / numerator)).length
    if denominator ≤ numerator * Nat.pow 10 (reciprocal - 1) then -((reciprocal : Int) - 1)
    else -(reciprocal : Int)

/-- The points of the decimal grid with a given step that are nearest to a
fraction from below and from above, in steps, if they lie within the bounds. Of
two such points the nearer one is taken. All numbers are in units of the same
fraction. -/
def onGrid? (value low high : Nat) (closed : Bool) (unit step : Nat) : Option Nat :=
  let below := value * unit / step
  let above := below + 1
  let inside := fun point : Nat =>
    if closed then low * unit ≤ point * step ∧ point * step ≤ high * unit
    else low * unit < point * step ∧ point * step < high * unit
  if inside below then
    if inside above ∧ above * step - value * unit < value * unit - below * step then some above
    else some below
  else if inside above then some above
  else none

/-- Digits and a power of ten for a positive number of a format: the fewest
digits that lead back to it. -/
def shortest (format : BinaryFormat) (significand : Nat) (exponent : Int) : Nat × Int :=
  -- Everything is counted in quarters of the last place.
  let value := 4 * significand
  let high := value + 2
  let low :=
    if significand = Nat.pow 2 (format.precision - 1) ∧ format.lowest < exponent then value - 1
    else value - 2
  let closed := significand % 2 == 0
  let quarter := exponent - 2
  let numerator := if 0 ≤ quarter then Nat.pow 2 quarter.toNat else 1
  let denominator := if 0 ≤ quarter then 1 else Nat.pow 2 (-quarter).toNat
  let first := magnitude (value * numerator) denominator
  let digitsOf := fun count : Nat =>
    let power : Int := first - count
    let unit := if 0 ≤ power then numerator else numerator * Nat.pow 10 (-power).toNat
    let step := if 0 ≤ power then denominator * Nat.pow 10 power.toNat else denominator
    (onGrid? value low high closed unit step).map (·, power)
  ((List.range 17).findSome? digitsOf).getD (value * numerator / denominator, 0)

/-- Digits without the zeros at their end. -/
def withoutZeros : Nat → Nat → Int → Nat × Int
  | 0, digits, power => (digits, power)
  | bound + 1, digits, power =>
    if digits % 10 = 0 ∧ digits ≠ 0 then withoutZeros bound (digits / 10) (power + 1)
    else (digits, power)

/-- Digits times a power of ten, written without an exponent. -/
def positional (digits : Nat) (power : Int) : String :=
  if 0 ≤ power then toString (digits * Nat.pow 10 power.toNat)
  else unitsText digits (-power).toNat

/-- The number with the fewest digits and without an exponent. -/
def plainText (format : BinaryFormat) : Binary → String
  | .notANumber => "NaN"
  | .infinite negative => if negative then "-inf" else "inf"
  | .finite negative significand exponent =>
    let sign := if negative then "-" else ""
    if significand = 0 then sign ++ "0"
    else
      let (digits, power) := shortest format significand exponent
      let (digits, power) := withoutZeros 17 digits power
      sign ++ positional digits power

/-- The number with the fewest digits: with a point, or with an exponent when
the first digit stands far from it. -/
def text (format : BinaryFormat) : Binary → String
  | .notANumber => "nan"
  | .infinite negative => if negative then "-inf" else "inf"
  | .finite negative significand exponent =>
    let sign := if negative then "-" else ""
    if significand = 0 then sign ++ "0.0"
    else
      let (digits, power) := shortest format significand exponent
      let (digits, power) := withoutZeros 17 digits power
      let written := toString digits
      let first : Int := power + written.length - 1
      if -4 ≤ first ∧ first < 16 then
        if 0 ≤ power then sign ++ positional digits power ++ ".0"
        else sign ++ positional digits power
      else
        let rest := String.ofList (written.toList.drop 1)
        let mantissa := String.ofList (written.toList.take 1) ++
          (if rest.isEmpty then "" else "." ++ rest)
        let size := toString first.natAbs
        let size := if size.length < 2 then "0" ++ size else size
        sign ++ mantissa ++ (if first < 0 then "e-" else "e+") ++ size

/-- Read a number, an infinity or the word for what is no number. -/
def ofText? (format : BinaryFormat) (text : String) : Option Binary :=
  match Decimal.ofText? text with
  | some number => some (ofDecimal format number)
  | none =>
    let word := (Text.trimmed text).toLower
    if word == "nan" || word == "-nan" || word == "+nan" then some .notANumber
    else if ["inf", "+inf", "infinity", "+infinity"].contains word then some (.infinite false)
    else if ["-inf", "-infinity"].contains word then some (.infinite true)
    else none

end Binary

end MigrationLedger
