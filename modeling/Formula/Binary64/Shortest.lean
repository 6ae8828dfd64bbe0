import Formula.Binary64.Arithmetic
import Formula.Binary64.Numeral

/-!
# Shortest decimal text

The digits of a double are the fewest that read back as it. A grid is the set of multiples of one
power of ten; grids are tried from coarse to fine, and on each only the two neighbours of the value
are tried, since any multiple that reads back lies no nearer than they do. What is chosen is checked
by reading it, so it reads back by definition.
-/

namespace Formula.Binary64

/-- The number `digits * 10 ^ exponent`. -/
structure Scientific where
  digits : Nat
  exponent : Int
  deriving DecidableEq, Repr

/-- Which of two equally near digit strings is taken. -/
inductive HalfRule where
  | up
  | even
  deriving DecidableEq

/-- Whether the upper neighbour is nearer, given the lower one and twice the part above it. -/
def HalfRule.takesUpper (rule : HalfRule) (lower twice gap : Nat) : Bool :=
  match compare twice gap with
  | .lt => false
  | .gt => true
  | .eq => match rule with
    | .up => true
    | .even => lower % 2 = 1

/-- The multiple of `10 ^ k` nearest to the size of `x` among those that read back as it. -/
def onGrid? (rule : HalfRule) (x : Binary64) (k : Int) : Option Scientific :=
  let n := x.units.natAbs * tenPow (-k).toNat
  let d := unitsPerOne * tenPow k.toNat
  let lower := n / d
  let readsBack (digits : Nat) : Bool := ofDecimal false digits k = x.abs
  match readsBack lower, readsBack (lower + 1) with
  | true, true =>
    some ⟨if rule.takesUpper lower (2 * (n % d)) d then lower + 1 else lower, k⟩
  | true, false => some ⟨lower, k⟩
  | false, true => some ⟨lower + 1, k⟩
  | false, false => none

/-- The size of a finite double in full: a unit is `5 ^ 1074 * 10 ^ -1074`. -/
def exactDigits (x : Binary64) : Scientific :=
  ⟨x.units.natAbs * Nat.pow 5 1074, -1074⟩

/-- A power of ten that is not below the size of `x` by more than rounding. -/
def coarsestGrid (x : Binary64) : Int :=
  ((x.units.natAbs.log2 : Int) - 1073) * 30103 / 100000 + 1

/-- The fewest digits that read back as the size of a finite double, the nearest such digits, and
zero for zero. -/
def shortest (rule : HalfRule) (x : Binary64) : Scientific :=
  if x.units = 0 then ⟨0, 0⟩
  else
    ((List.range 20).findSome? fun (i : Nat) => onGrid? rule x (x.coarsestGrid - i)).getD x.exactDigits

namespace Scientific

/-- The digits before the point when the number is written without an exponent. -/
def wholeDigits (s : Scientific) : List Char :=
  Nat.toDigits 10 (s.digits * tenPow s.exponent.toNat / tenPow (-s.exponent).toNat)

/-- The digits after the point when the number is written without an exponent. -/
def fractionDigits (s : Scientific) : List Char :=
  let places := (-s.exponent).toNat
  if places = 0 then []
  else
    let digits := Nat.toDigits 10 (s.digits % tenPow places)
    List.replicate (places - digits.length) '0' ++ digits

/-- The number without an exponent, with a point only where a fraction follows. -/
def positional (s : Scientific) : List Char :=
  match s.fractionDigits with
  | [] => s.wholeDigits
  | fraction => s.wholeDigits ++ '.' :: fraction

end Scientific

end Formula.Binary64
