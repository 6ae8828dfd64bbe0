import Formula.Power

/-!
# Double-precision numbers

`Binary64` is the set of doubles with one not-a-number. A finite double is a whole number of units
of `2 ^ -1074`, so its value is the integer `units`, and every operation of the language is an
exact operation on integers followed by one rounding, `ofUnits`.
-/

namespace Formula

/-- The nearest whole number to `n / d`, a half going to the even neighbour. -/
def roundHalfEven (n d : Nat) : Nat :=
  let whole := n / d
  let twice := 2 * (n % d)
  if twice < d then whole
  else if d < twice then whole + 1
  else whole + whole % 2

/-- A significand and a shift are canonical when no other pair has the same product
`significand * 2 ^ shift` within the format. -/
def Binary64.Canonical (significand shift : Nat) : Prop :=
  significand < twoPow 53 ∧ shift ≤ 2045 ∧ (shift = 0 ∨ twoPow 52 ≤ significand)

instance (significand shift : Nat) : Decidable (Binary64.Canonical significand shift) :=
  inferInstanceAs (Decidable (_ ∧ _))

/-- A double: not-a-number, an infinity, or `± significand * 2 ^ shift` units of `2 ^ -1074`. -/
inductive Binary64 where
  | nan
  | infinite (negative : Bool)
  | finite (negative : Bool) (significand shift : Nat)
      (canonical : Binary64.Canonical significand shift)
  deriving DecidableEq

namespace Binary64

/-- The number of units in one, `2 ^ 1074`. -/
def unitsPerOne : Nat := twoPow 1074

/-- Zero with the given sign. -/
def zero (negative : Bool) : Binary64 :=
  .finite negative 0 0 ⟨by decide, by decide, .inl rfl⟩

instance : Inhabited Binary64 := ⟨zero false⟩

/-- A pair as a double; a pair outside the format is too large and becomes an infinity. -/
def pack (negative : Bool) (significand shift : Nat) : Binary64 :=
  if canonical : Canonical significand shift then .finite negative significand shift canonical
  else .infinite negative

/-- The double nearest to `n / d` units, halves to the even significand. -/
def ofUnits (negative : Bool) (n d : Nat) : Binary64 :=
  let shift := (n / d).log2 - 52
  let significand := roundHalfEven n (d * twoPow shift)
  if significand = twoPow 53 then pack negative (twoPow 52) (shift + 1)
  else pack negative significand shift

/-- The double nearest to `n / d`. -/
def ofRatio (negative : Bool) (n d : Nat) : Binary64 :=
  ofUnits negative (n * unitsPerOne) d

/-- The double nearest to the integer `k`. -/
def ofInt (k : Int) : Binary64 :=
  ofRatio (decide (k < 0)) k.natAbs 1

/-- The double nearest to the natural number `k`. -/
def ofNat (k : Nat) : Binary64 :=
  ofRatio false k 1

instance (n : Nat) : OfNat Binary64 n := ⟨ofNat n⟩

/-- The value in units of `2 ^ -1074`; only finite doubles have one, the others read as zero. -/
def units : Binary64 → Int
  | .finite negative significand shift _ =>
      if negative then -(significand * twoPow shift : Nat) else (significand * twoPow shift : Nat)
  | _ => 0

/-- The sign bit; not-a-number counts as positive. -/
def isNegative : Binary64 → Bool
  | .nan => false
  | .infinite negative => negative
  | .finite negative _ _ _ => negative

/-- Whether this is not-a-number. -/
def isNaN : Binary64 → Bool
  | .nan => true
  | _ => false

/-- Whether this is neither an infinity nor not-a-number. -/
def isFinite : Binary64 → Bool
  | .finite .. => true
  | _ => false

/-- Where a double stands on the line of units: the infinities lie beyond every finite double, and
not-a-number stands nowhere. -/
def position : Binary64 → Option Int
  | .nan => none
  | .infinite negative => some (if negative then -(twoPow 2098 : Nat) else (twoPow 2098 : Nat))
  | x => some x.units

/-- The order of two doubles; there is none beside not-a-number, and both zeros are equal. -/
def order (x y : Binary64) : Option Ordering :=
  match x.position, y.position with
  | some a, some b => some (compare a b)
  | _, _ => none

/-- Numeric equality: not-a-number equals nothing, and both zeros are equal. -/
def numEq (x y : Binary64) : Bool :=
  x.order y == some .eq

/-- Whether this is a zero of either sign. -/
def isZero (x : Binary64) : Bool :=
  x.numEq (zero false)

end Binary64

end Formula
