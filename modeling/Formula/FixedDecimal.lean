import Formula.Binary64.Arithmetic
import Formula.Duration.Text

/-!
# Decimals of 96 bits

A fixed decimal is a coefficient of 96 bits with up to 28 digits after the point. `ofBinary64?`
turns the binary exponent of a double into a decimal one, step by step, and cuts the digits that a
double does not guarantee; `toBinary64` goes back and rounds to the digits of the scale.
-/

namespace Formula

/-- A decimal: `± coefficient / 10 ^ scale`. -/
structure FixedDecimal where
  negative : Bool
  coefficient : Nat
  scale : Nat
  coefficient_lt : coefficient < twoPow 96
  scale_le : scale ≤ 28
  deriving DecidableEq

namespace FixedDecimal

/-- A sign, a coefficient and a scale as a decimal, if they are in range. -/
def ofParts? (negative : Bool) (coefficient scale : Nat) : Option FixedDecimal :=
  if h : coefficient < twoPow 96 ∧ scale ≤ 28 then some ⟨negative, coefficient, scale, h.1, h.2⟩
  else none

/-- A coefficient with a decimal exponent. -/
structure Scaled where
  coefficient : Nat
  exponent : Int
  deriving DecidableEq, Repr

/-- Divides by `2 ^ n`: an odd coefficient is multiplied by five against a digit after the point,
and halved with a loss where that leaves the 96 bits. -/
def divideByTwos : Nat → Scaled → Scaled
  | 0, s => s
  | n + 1, s =>
    divideByTwos n <|
      if s.coefficient % 2 = 0 then ⟨s.coefficient / 2, s.exponent + 1⟩
      else if s.coefficient * 5 < twoPow 96 then ⟨s.coefficient * 5, s.exponent⟩
      else ⟨s.coefficient / 2, s.exponent + 1⟩

/-- Multiplies by `2 ^ n` where the exponent has counted tens: a fifth is a doubling and one ten
less, and a division by five where the top bit is taken. -/
def divideByFives? : Nat → Scaled → Option Scaled
  | 0, s => some s
  | n + 1, s =>
    if s.coefficient < twoPow 95 then divideByFives? n ⟨s.coefficient * 2, s.exponent - 1⟩
    else if (n + 1 : Int) < 2 * s.exponent then none
    else divideByFives? n ⟨s.coefficient / 5, s.exponent⟩

/-- Multiplies by ten against `n` of the exponent, failing where that leaves the 96 bits. -/
def multiplyByTens? : Nat → Scaled → Option Scaled
  | 0, s => some s
  | n + 1, s =>
    if s.coefficient * 10 < twoPow 96 then multiplyByTens? n ⟨s.coefficient * 10, s.exponent - 1⟩
    else none

/-- One digit less, a dropped digit of five or more rounding up. -/
def dropDigit (s : Scaled) : Scaled :=
  ⟨s.coefficient / 10 + (if 5 ≤ s.coefficient % 10 then 1 else 0), s.exponent + 1⟩

/-- Drops digits while there are more than 28 after the point; nothing is left of a number that is
too small. -/
def limitScale : Nat → Scaled → Scaled
  | 0, s => s
  | n + 1, s =>
    if -28 ≤ s.exponent then s
    else if s.coefficient / 10 = 0 then limitScale n ⟨0, 0⟩
    else limitScale n (dropDigit s)

/-- Drops digits after the point while the coefficient has more than 52 bits. -/
def limitPrecision : Nat → Scaled → Scaled
  | 0, s => s
  | n + 1, s =>
    if s.exponent < 0 ∧ twoPow 52 ≤ s.coefficient then limitPrecision n (dropDigit s) else s

/-- Drops zeros at the end of the digits after the point. -/
def dropZeros : Nat → Scaled → Scaled
  | 0, s => s
  | n + 1, s =>
    if s.exponent < 0 ∧ s.coefficient % 10 = 0 then
      dropZeros n ⟨s.coefficient / 10, s.exponent + 1⟩
    else s

/-- A coefficient times a power of two as a coefficient with an exponent of at most zero. -/
def ofBinary? (significand : Nat) (exponent : Int) : Option Scaled := do
  let start : Scaled := ⟨significand, exponent⟩
  let scaled ← divideByFives? exponent.toNat (divideByTwos (-exponent).toNat start)
  let scaled ← multiplyByTens? scaled.exponent.toNat scaled
  let scaled := limitScale (-28 - scaled.exponent).toNat scaled
  let scaled := limitPrecision (-scaled.exponent).toNat scaled
  return dropZeros (-scaled.exponent).toNat scaled

/-- The decimal for a finite double, if its size is below `2 ^ 96`. -/
def ofBinary64? : Binary64 → Option FixedDecimal
  | .finite negative significand shift _ => do
    let scaled ← if significand = 0 then some ⟨0, 0⟩ else ofBinary? significand (shift - 1074)
    ofParts? negative scaled.coefficient (-scaled.exponent).toNat
  | _ => none

/-- The decimal rounded to at most `digits` digits after the point, halves to even. -/
def round (d : FixedDecimal) (digits : Nat) : FixedDecimal :=
  if d.scale ≤ digits then d
  else
    (ofParts? d.negative (roundHalfEven d.coefficient (tenPow (d.scale - digits))) digits).getD d

/-- The double for a decimal: the parts before and after the point are converted apart, and their
sum is rounded to the digits of the scale. Zero has no sign. -/
def toBinary64 (d : FixedDecimal) : Binary64 :=
  let power := tenPow d.scale
  let whole : Binary64 := .ofNat (d.coefficient / power)
  let fraction : Binary64 := .ofNat (d.coefficient % power) / .ofNat power
  let size :=
    if fraction.isZero then whole
    else ((whole + fraction) * .ofNat power).roundHalfAway / .ofNat power
  if size.isZero then 0 else if d.negative then -size else size

/-- The text of a decimal, with all digits of its scale. -/
def toText (d : FixedDecimal) : String :=
  let power := tenPow d.scale
  let sign := if d.negative then ['-'] else []
  let fraction :=
    if d.scale = 0 then [] else '.' :: Duration.padded d.scale (d.coefficient % power)
  String.ofList (sign ++ Nat.toDigits 10 (d.coefficient / power) ++ fraction)

/-- Reads digits with an optional sign and point as a decimal. Digits after the point that the
format cannot hold are dropped, the first of them rounding up from five. -/
def ofText? (text : List Char) : Option FixedDecimal :=
  match Numeral.readSign text with
  | (negative, rest) =>
    match Numeral.readDigits rest with
    | (whole, rest) =>
      match Numeral.readFraction rest with
      | (fraction, []) =>
        if whole = [] ∧ fraction = [] then none
        else
          let kept? (places : Nat) : Option FixedDecimal :=
            let digits := Numeral.digitsValue (whole ++ fraction.take places)
            let up := match fraction.drop places with
              | digit :: _ => if '5' ≤ digit then 1 else 0
              | [] => 0
            ofParts? negative (digits + up) places
          let most := min 28 fraction.length
          (List.range (most + 1)).findSome? fun dropped => kept? (most - dropped)
      | _ => none

end FixedDecimal

end Formula
