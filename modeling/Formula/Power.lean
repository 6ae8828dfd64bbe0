/-!
# Powers

The powers of two and of ten, which scale binary and decimal digits.
-/

namespace Formula

/-- The power of two with an exponent. -/
abbrev twoPow (exponent : Nat) : Nat :=
  Nat.pow 2 exponent

/-- The power of ten with an exponent. -/
abbrev tenPow (exponent : Nat) : Nat :=
  Nat.pow 10 exponent

end Formula
