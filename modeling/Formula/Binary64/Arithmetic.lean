import Formula.Binary64.Basic

/-!
# Arithmetic on doubles

Each operation takes the exact result in units and rounds it once. The remainder, the sign changes
and the roundings to an integer are exact.
-/

namespace Formula.Binary64

/-- An exact integer of units as a double, with the sign that a zero result takes. -/
def ofSignedUnits (zeroNegative : Bool) (n : Int) (d : Nat) : Binary64 :=
  ofUnits (if n = 0 then zeroNegative else decide (n < 0)) n.natAbs d

/-- The negation, a change of the sign bit. -/
def neg : Binary64 → Binary64
  | .nan => .nan
  | .infinite negative => .infinite (!negative)
  | .finite negative significand shift canonical => .finite (!negative) significand shift canonical

/-- The absolute value. -/
def abs : Binary64 → Binary64
  | .nan => .nan
  | .infinite _ => .infinite false
  | .finite _ significand shift canonical => .finite false significand shift canonical

/-- The sum. Opposite infinities have none, and a zero sum is negative only if both terms are. -/
def add : Binary64 → Binary64 → Binary64
  | .nan, _ | _, .nan => .nan
  | .infinite a, .infinite b => if a = b then .infinite a else .nan
  | .infinite a, _ => .infinite a
  | _, .infinite b => .infinite b
  | x, y => ofSignedUnits (x.isNegative && y.isNegative) (x.units + y.units) 1

/-- The difference. -/
def sub (x y : Binary64) : Binary64 :=
  x.add y.neg

/-- The product. An infinity times zero has none. -/
def mul : Binary64 → Binary64 → Binary64
  | .nan, _ | _, .nan => .nan
  | .infinite a, y => if y.isZero then .nan else .infinite (a != y.isNegative)
  | x, .infinite b => if x.isZero then .nan else .infinite (x.isNegative != b)
  | x, y => ofUnits (x.isNegative != y.isNegative) (x.units * y.units).natAbs unitsPerOne

/-- The quotient. A nonzero number over zero is an infinity. -/
def div : Binary64 → Binary64 → Binary64
  | .nan, _ | _, .nan => .nan
  | .infinite _, .infinite _ => .nan
  | .infinite a, y => .infinite (a != y.isNegative)
  | x, .infinite b => zero (x.isNegative != b)
  | x, y =>
      if y.isZero then
        if x.isZero then .nan else .infinite (x.isNegative != y.isNegative)
      else ofRatio (x.isNegative != y.isNegative) x.units.natAbs y.units.natAbs

/-- The remainder of division toward zero, with the sign of the dividend. -/
def rem : Binary64 → Binary64 → Binary64
  | .nan, _ | _, .nan | .infinite _, _ => .nan
  | x, .infinite _ => x
  | x, y =>
      if y.isZero then .nan else ofUnits x.isNegative (x.units.natAbs % y.units.natAbs) 1

/-- A finite double moved to the integer that `round` chooses; the sign bit stays, so that
`-0.5` rounds up to negative zero. -/
private def toIntegral (round : Int → Int → Int) : Binary64 → Binary64
  | x@(.finite negative _ _ _) =>
      ofUnits negative ((round x.units unitsPerOne).natAbs * unitsPerOne) 1
  | x => x

/-- The greatest integer that is not greater. -/
def floor : Binary64 → Binary64 := toIntegral Int.fdiv

/-- The least integer that is not less. -/
def ceiling : Binary64 → Binary64 := toIntegral fun a b => -Int.fdiv (-a) b

/-- Whether this is an integer. -/
def isIntegral (x : Binary64) : Bool :=
  x.isFinite && x.units % unitsPerOne == 0

/-- The nearest integer, halves away from zero. -/
def roundHalfAway : Binary64 → Binary64 :=
  toIntegral fun a b => Int.sign a * Int.tdiv (2 * a.natAbs + b) (2 * b)

/-- The integer part clamped to `low … high`; not-a-number is zero. -/
def toIntClamped (low high : Int) : Binary64 → Int
  | .nan => 0
  | .infinite negative => if negative then low else high
  | x => max low (min high (x.units.tdiv unitsPerOne))

/-- The integer part as a signed 64-bit integer, saturating. -/
def toInt64 : Binary64 → Int := toIntClamped (-9223372036854775808) 9223372036854775807

/-- The integer part as a signed 32-bit integer, saturating. -/
def toInt32 : Binary64 → Int := toIntClamped (-2147483648) 2147483647

instance : Neg Binary64 := ⟨neg⟩
instance : Add Binary64 := ⟨add⟩
instance : Sub Binary64 := ⟨sub⟩
instance : Mul Binary64 := ⟨mul⟩
instance : Div Binary64 := ⟨div⟩
instance : Mod Binary64 := ⟨rem⟩

end Formula.Binary64
