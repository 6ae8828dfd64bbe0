import Formula.Proofs.Binary64.Number

/-!
# Doubles that are integers

Every integer up to `2 ^ 53` in size, and every such integer times a power of two, is a double
without rounding, `is_exactly_of_int_shifted`. From such a double the integer comes back, and
differences of such doubles are exact.
-/

namespace Formula.Binary64

/-- A double is exactly an integer. -/
def IsExactly (x : Binary64) (k : Int) : Prop :=
  x.isFinite = true ∧ x.units = k * unitsPerOne

/-- An integer up to `2 ^ 53` in size times a power of two is a double. -/
theorem is_exactly_of_int_shifted {k : Int} {i : Nat} (hk : k.natAbs ≤ 2 ^ 53) (hi : i ≤ 970) :
    (ofInt (k * 2 ^ i)).IsExactly (k * 2 ^ i) := by
  have habs : (k * 2 ^ i).natAbs = k.natAbs * 2 ^ i := by
    rw [Int.natAbs_mul, Int.natAbs_pow]
    rfl
  -- The bound itself has one bit too many and one factor of two to give away.
  rcases Nat.lt_or_eq_of_le hk with hlt | heq
  · exact units_of_int_shifted habs hlt (by omega)
  · refine units_of_int_shifted (m := 2 ^ 52) (i := i + 1) ?_ (by decide) (by omega)
    rw [habs, heq, Nat.pow_succ' (n := i), ← Nat.mul_assoc, ← Nat.pow_succ]

/-- An integer up to `2 ^ 53` in size is a double. -/
theorem is_exactly_of_int {k : Int} (hk : k.natAbs ≤ 2 ^ 53) : (ofInt k).IsExactly k := by
  simpa using is_exactly_of_int_shifted (i := 0) hk (Nat.zero_le _)

/-- A natural number up to `2 ^ 53` is a double. -/
theorem is_exactly_of_nat {k : Nat} (hk : k ≤ 2 ^ 53) : (ofNat k).IsExactly k := by
  rw [← of_int_nat_cast]
  exact is_exactly_of_int hk

/-- The 64-bit integer part of an integer is the integer, if it is in range. -/
theorem IsExactly.to_int64 {x : Binary64} {k : Int} (h : x.IsExactly k) (hlow : -2 ^ 63 ≤ k)
    (hhigh : k < 2 ^ 63) : x.toInt64 = k :=
  to_int_clamped_of_units h.1 h.2 (by omega) (by omega)

/-- The 32-bit integer part of an integer is the integer clamped to 32 bits. -/
theorem IsExactly.to_int32 {x : Binary64} {k : Int} (h : x.IsExactly k) :
    x.toInt32 = max (-2147483648) (min 2147483647 k) := by
  obtain ⟨hfinite, hunits⟩ := h
  have hpos : (unitsPerOne : Int) ≠ 0 := Int.natCast_ne_zero.2 (Nat.ne_of_gt units_per_one_pos)
  rw [toInt32]
  cases x with
  | nan | infinite => exact absurd hfinite Bool.false_ne_true
  | finite negative significand shift canonical =>
      rw [toIntClamped, hunits, Int.mul_tdiv_cancel _ hpos]
      · simp
      · simp

/-- A finite double with the opposite sign has the opposite units. -/
theorem units_neg {x : Binary64} (h : x.isFinite = true) :
    x.neg.isFinite = true ∧ x.neg.units = -x.units ∧ x.neg.isNegative = !x.isNegative := by
  cases x with
  | nan => exact nomatch h
  | infinite => exact nomatch h
  | finite negative significand shift canonical =>
      refine ⟨rfl, ?_, rfl⟩
      cases negative with
      | false => rfl
      | true => exact (Int.neg_neg _).symm

/-- The sum of finite doubles is rounded. -/
theorem add_eq_of_signed_units {x y : Binary64} (hx : x.isFinite = true) (hy : y.isFinite = true) :
    x.add y = ofSignedUnits (x.isNegative && y.isNegative) (x.units + y.units) 1 := by
  cases x with
  | nan => exact nomatch hx
  | infinite => exact nomatch hx
  | finite =>
      cases y with
      | nan => exact nomatch hy
      | infinite => exact nomatch hy
      | finite =>
          unfold add
          rfl

/-- The units of an integer are rounded to the integer; the sign of zero has to be given. -/
theorem of_signed_units_of_int {zeroNegative : Bool} {k : Int} (h : k = 0 → zeroNegative = false) :
    ofSignedUnits zeroNegative (k * unitsPerOne) 1 = ofInt k := by
  have hpos : (0 : Int) < unitsPerOne := Int.natCast_pos.2 units_per_one_pos
  have hsign : (if k * unitsPerOne = 0 then zeroNegative else decide (k * unitsPerOne < 0)) =
      decide (k < 0) := by
    rcases eq_or_ne k 0 with rfl | hne
    · rw [if_pos (Int.zero_mul _), h rfl]
      rfl
    · have hneg {one : Int} (hone : 0 < one) : k * one < 0 ↔ k < 0 := by
        simpa using Int.mul_lt_mul_right (b := k) (c := 0) hone
      rw [if_neg (Int.mul_ne_zero hne (Int.ne_of_gt hpos))]
      exact decide_eq_decide.2 (hneg hpos)
  rw [ofSignedUnits, hsign, Int.natAbs_mul, Int.natAbs_natCast]
  rfl

/-- The difference of integers up to `2 ^ 53` in size is that of their doubles. -/
theorem of_int_sub_of_int {a b : Int} (ha : a.natAbs ≤ 2 ^ 53) (hb : b.natAbs ≤ 2 ^ 53) :
    ofInt a - ofInt b = ofInt (a - b) := by
  obtain ⟨hfinite, hunits⟩ := is_exactly_of_int ha
  obtain ⟨hfinite', hunits'⟩ := is_exactly_of_int hb
  obtain ⟨hneg, hnegUnits, hnegative⟩ := units_neg hfinite'
  change (ofInt a).add (ofInt b).neg = _
  rw [add_eq_of_signed_units hfinite hneg, hunits, hnegUnits, hunits', ← sub_eq_add_neg,
    ← Int.sub_mul, hnegative]
  refine of_signed_units_of_int fun hzero => ?_
  obtain rfl : a = b := Int.sub_eq_zero.1 hzero
  exact Bool.and_not_self _

end Formula.Binary64
