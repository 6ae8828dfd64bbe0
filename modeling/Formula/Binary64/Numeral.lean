import Formula.Binary64.Basic

/-!
# Number text

A numeral is an optional sign and then either a word for a special value or digits with an optional
point and an optional exponent. Reading it keeps the exact decimal value, which `toBinary64` and
`toSingle` each round once.
-/

namespace Formula

namespace Binary64

/-- The double nearest to `digits * 10 ^ exponent`. The two bounds on the exponent only keep far
too large and far too small values from being computed. -/
def ofDecimal (negative : Bool) (digits : Nat) (exponent : Int) : Binary64 :=
  if digits = 0 then zero negative
  else if 310 < exponent then .infinite negative
  else if exponent + digits.log2 + 1 < -330 then zero negative
  else ofRatio negative (digits * tenPow exponent.toNat) (tenPow (-exponent).toNat)

/-- The single-precision number nearest to `n / d`, as a double. Its units are `2 ^ -149` and its
significand has 24 bits. -/
def ofSingleRatio (negative : Bool) (n d : Nat) : Binary64 :=
  let scaled := n * twoPow 149
  let shift := (scaled / d).log2 - 23
  let size := roundHalfEven scaled (d * twoPow shift) * twoPow shift
  if size < twoPow 277 then ofRatio negative size (twoPow 149) else .infinite negative

end Binary64

/-- What number text spells, before any rounding. -/
inductive Numeral where
  | nan
  | infinite (negative : Bool)
  | decimal (negative : Bool) (digits : Nat) (exponent : Int)
  deriving DecidableEq, Repr

namespace Numeral

/-- An optional sign: whether it is a minus, and what follows it. -/
def readSign : List Char → Bool × List Char
  | '-' :: rest => (true, rest)
  | '+' :: rest => (false, rest)
  | text => (false, text)

/-- The decimal digits that a text starts with, and what follows them. -/
def readDigits (text : List Char) : List Char × List Char :=
  (text.takeWhile Char.isDigit, text.dropWhile Char.isDigit)

/-- The number that decimal digits spell. -/
def digitsValue (digits : List Char) : Nat :=
  Nat.ofDigitChars 10 digits 0

/-- An exponent, which has to end the text; no exponent is zero. -/
def readExponent : List Char → Option Int
  | [] => some 0
  | mark :: rest =>
    if mark = 'e' ∨ mark = 'E' then
      match readSign rest with
      | (negative, rest) =>
        match readDigits rest with
        | ([], _) => none
        | (digits, []) =>
          let size : Int := digitsValue digits
          some (if negative then -size else size)
        | (_, _ :: _) => none
    else none

/-- The fraction digits after a point, if there is one. -/
def readFraction : List Char → List Char × List Char
  | '.' :: rest => readDigits rest
  | text => ([], text)

/-- Digits with an optional point, either side of which may be empty but not both, and an optional
exponent. -/
def readDecimal (negative : Bool) (text : List Char) : Option Numeral :=
  match readDigits text with
  | (whole, rest) =>
    match readFraction rest with
    | (fraction, rest) =>
      if whole = [] ∧ fraction = [] then none
      else
        (readExponent rest).map fun exponent =>
          .decimal negative (digitsValue (whole ++ fraction)) (exponent - fraction.length)

/-- Reads a whole text as a numeral; the words for the special values may be in any letter case. -/
def read? (text : List Char) : Option Numeral :=
  match readSign text with
  | (negative, rest) =>
    let word := rest.map Char.toLower
    if word = ['n', 'a', 'n'] then some .nan
    else if word = ['i', 'n', 'f'] ∨ word = ['i', 'n', 'f', 'i', 'n', 'i', 't', 'y'] then
      some (.infinite negative)
    else readDecimal negative rest

/-- The nearest double. -/
def toBinary64 : Numeral → Binary64
  | .nan => .nan
  | .infinite negative => .infinite negative
  | .decimal negative digits exponent => .ofDecimal negative digits exponent

/-- The nearest single-precision number, as a double. -/
def toSingle : Numeral → Binary64
  | .nan => .nan
  | .infinite negative => .infinite negative
  | .decimal negative digits exponent =>
    if digits = 0 then .zero negative
    else if 40 < exponent then .infinite negative
    else if exponent + digits.log2 + 1 < -60 then .zero negative
    else .ofSingleRatio negative (digits * tenPow exponent.toNat) (tenPow (-exponent).toNat)

end Numeral

/-- Reads a text as a double, correctly rounded. -/
def Binary64.read? (text : String) : Option Binary64 :=
  (Numeral.read? text.toList).map Numeral.toBinary64

end Formula
