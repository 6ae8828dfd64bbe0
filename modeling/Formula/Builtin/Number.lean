import Formula.FixedDecimal
import Formula.Value.Operation

/-!
# Built-in members of numbers

Rounding to digits goes through decimals; a number without a decimal has no fraction to round.
-/

namespace Formula.Builtin

variable {H : Type} [HostObject H]

/-- A number rounded to a count of digits after the point, halves to even. -/
def roundNumber (n : Binary64) (digits : Int) : Except EvalError Binary64 :=
  if digits < 0 then .error (.invalidArgument (.negativeDigits digits))
  else
    match FixedDecimal.ofBinary64? n with
    | some decimal => .ok (decimal.round digits.toNat).toBinary64
    | none => .ok n

/-- The method of a number with a name and arguments. -/
def numberMethod? (n : Binary64) : String → List (Value H) → Option (Except EvalError (Value H))
  | "Round", [] => some ((roundNumber n 0).map .number)
  | "Round", [digits] => some ((roundNumber n digits.toInt32).map .number)
  | "Floor", [] => some (.ok (.number n.floor))
  | "Ceiling", [] => some (.ok (.number n.ceiling))
  | "Abs", [] => some (.ok (.number n.abs))
  | _, _ => none

/-- The decimal of a value's numeric view. -/
def toDecimal (v : Value H) : Except EvalError FixedDecimal :=
  match FixedDecimal.ofBinary64? v.toNumber with
  | some decimal => .ok decimal
  | none => .error (.invalidArgument (.notDecimal v.toText))

end Formula.Builtin
