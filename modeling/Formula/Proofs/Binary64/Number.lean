import Formula.DateTime
import Formula.Proofs.Binary64.Exact

/-!
# Results that are numbers

Not-a-number comes of a few operations only: the sum of opposite infinities, a product of zero and
an infinity, a quotient of zeros or infinities. The numeric views of times avoid all of these, so
they always have a place in the order of doubles.
-/

namespace Formula

namespace Binary64

variable {x y : Binary64}

/-- A number stands in one place of the order. -/
theorem order_self (h : x.isNaN = false) : x.order x = some .eq := by
  have hplace : ∃ a, x.position = some a := by
    cases x with
    | nan => exact nomatch h
    | infinite | finite => exact ⟨_, rfl⟩
  obtain ⟨a, ha⟩ := hplace
  rw [order, ha]
  exact congrArg some Std.ReflCmp.compare_self

/-- Rounding gives a number. -/
theorem is_nan_of_units (negative : Bool) (n d : Nat) : (ofUnits negative n d).isNaN = false := by
  have hpack (significand shift : Nat) : (pack negative significand shift).isNaN = false := by
    unfold pack
    split <;> rfl
  simp only [ofUnits]
  split <;> exact hpack _ _

/-- A natural number as a double is a number. -/
theorem is_nan_of_nat (k : Nat) : (ofNat k).isNaN = false :=
  is_nan_of_units _ _ _

/-- The product of finite doubles is rounded. -/
theorem mul_eq_of_units (hx : x.isFinite = true) (hy : y.isFinite = true) :
    x * y = ofUnits (x.isNegative != y.isNegative) (x.units * y.units).natAbs unitsPerOne := by
  change mul x y = _
  cases x with
  | nan => exact nomatch hx
  | infinite => exact nomatch hx
  | finite =>
      cases y with
      | nan => exact nomatch hy
      | infinite => exact nomatch hy
      | finite =>
          unfold mul
          rfl

/-- The product of finite doubles is a number. -/
theorem is_nan_mul (hx : x.isFinite = true) (hy : y.isFinite = true) : (x * y).isNaN = false := by
  rw [mul_eq_of_units hx hy]
  exact is_nan_of_units _ _ _

/-- The sum of a number and a finite double is a number. -/
theorem is_nan_add (hx : x.isNaN = false) (hy : y.isFinite = true) : (x + y).isNaN = false := by
  change (add x y).isNaN = false
  cases y with
  | nan => exact nomatch hy
  | infinite => exact nomatch hy
  | finite =>
      cases x with
      | nan => exact nomatch hx
      | infinite =>
          unfold add
          rfl
      | finite =>
          unfold add
          exact is_nan_of_units _ _ _

/-- A finite double with some units is not zero. -/
theorem is_zero_of_units (hx : x.isFinite = true) (h : x.units ≠ 0) : x.isZero = false := by
  cases x with
  | nan => exact nomatch hx
  | infinite => exact nomatch hx
  | finite =>
      simp only [isZero, numEq, order, position, zero]
      simpa [units] using h

/-- The quotient of a finite double by a finite double other than zero is rounded. -/
theorem div_eq_of_ratio (hx : x.isFinite = true) (hy : y.isFinite = true)
    (hzero : y.isZero = false) :
    x / y = ofRatio (x.isNegative != y.isNegative) x.units.natAbs y.units.natAbs := by
  change div x y = _
  cases x with
  | nan => exact nomatch hx
  | infinite => exact nomatch hx
  | finite =>
      cases y with
      | nan => exact nomatch hy
      | infinite => exact nomatch hy
      | finite =>
          unfold div
          exact if_neg (Bool.eq_false_iff.1 hzero)

/-- The quotient of a finite double by a finite double other than zero is a number. -/
theorem is_nan_div (hx : x.isFinite = true) (hy : y.isFinite = true) (hzero : y.isZero = false) :
    (x / y).isNaN = false := by
  rw [div_eq_of_ratio hx hy hzero]
  exact is_nan_of_units _ _ _

/-- The quotient of a finite double that is not too large by one that is not below one is
finite. -/
theorem is_finite_div {j : Nat} (hj : j ≤ 2097) (hx : x.isFinite = true) (hy : y.isFinite = true)
    (hsize : x.units.natAbs < 2 ^ j) (hone : unitsPerOne ≤ y.units.natAbs) :
    (x / y).isFinite = true := by
  have hpos : 0 < y.units.natAbs := Nat.lt_of_lt_of_le units_per_one_pos hone
  rw [div_eq_of_ratio hx hy (is_zero_of_units hy (Int.natAbs_pos.1 hpos)), ofRatio]
  generalize unitsPerOne = one at hone
  refine of_units_finite _ hj (Nat.lt_of_le_of_lt (Nat.div_le_of_le_mul ?_) hsize)
  rw [Nat.mul_comm]
  exact Nat.mul_le_mul_right _ hone

/-- A natural number of at most 53 bits is a double with that many times the units in one. -/
theorem units_of_nat {k : Nat} (hk : k < 2 ^ 53) :
    (ofNat k).isFinite = true ∧ (ofNat k).units.natAbs = k * unitsPerOne := by
  rw [← of_int_nat_cast]
  obtain ⟨hfinite, hunits⟩ := units_of_int (k := (k : Int)) hk
  exact ⟨hfinite, by rw [hunits, ← Int.natCast_mul, Int.natAbs_natCast]⟩

end Binary64

open Binary64

/-- The numeric view of a date-time is a number. -/
theorem DateTime.is_nan_epoch_milliseconds (t : DateTime) : t.epochMilliseconds.isNaN = false := by
  obtain ⟨hfinite, hunits⟩ := units_of_nat (k := 1000) (by decide)
  have hrange : t.epochMicroseconds.natAbs < 2 ^ 64 := by
    obtain ⟨hlow, hhigh⟩ := t.inRange
    have hnanos := t.nanos_lt
    simp only [epochMicroseconds, earliest, latest] at *
    omega
  have hzero : (ofNat 1000).units ≠ 0 :=
    Int.natAbs_pos.1 (hunits ▸ Nat.mul_pos (by decide) units_per_one_pos)
  exact is_nan_div (of_int_finite (by decide) hrange) hfinite (is_zero_of_units hfinite hzero)

/-- The numeric view of a duration is a number. -/
theorem Duration.is_nan_total_milliseconds (d : Duration) : d.totalMilliseconds.isNaN = false := by
  obtain ⟨hthousand, -⟩ := units_of_nat (k := 1000) (by decide)
  obtain ⟨hmillion, hunits⟩ := units_of_nat (k := 1000000) (by decide)
  have hseconds : d.wholeSeconds.natAbs < 2 ^ 64 := by
    have hrange := d.inRange
    rw [wholeSeconds, Int.natAbs_tdiv, Int.natAbs_natCast]
    change d.nanos.natAbs / nanosPerSecond < 2 ^ 64
    rw [nanosPerSecond]
    rw [longest] at hrange
    omega
  have hnanos : d.subsecondNanos.natAbs < 2 ^ 53 := by
    rw [subsecondNanos, Int.natAbs_tmod, Int.natAbs_natCast, nanosPerSecond]
    omega
  obtain ⟨hrest, hrestUnits⟩ := units_of_int hnanos
  obtain ⟨j, hj, hone⟩ := units_per_one_eq
  have hsize : (ofInt d.subsecondNanos).units.natAbs < 2 ^ (53 + j) := by
    rw [hrestUnits, Int.natAbs_mul, Int.natAbs_natCast, hone, Nat.pow_add]
    exact Nat.mul_lt_mul_of_pos_right hnanos (Nat.two_pow_pos j)
  exact is_nan_add (is_nan_mul (of_int_finite (by decide) hseconds) hthousand)
    (is_finite_div (show 53 + j ≤ 2097 by omega) hrest hmillion hsize
      (hunits ▸ Nat.le_mul_of_pos_left _ (by decide)))

end Formula
