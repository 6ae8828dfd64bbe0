import Formula.Proofs.Binary64.Rounding

/-!
# Rounding keeps the order

Of two numbers of units with signs the lesser is not rounded above the greater, `rounded_units_mono`,
and a number that is large enough is rounded to a multiple of a power of two, `exists_rounded_ones`.
Finite doubles are ordered as their units, `order_of_finite`.
-/

namespace Formula

namespace Binary64

section

variable {n d e : Nat}

/-- A fraction that is large enough is rounded to a multiple of a power of two. -/
theorem exists_rounded_on_grid (hd : 0 < d) (h : 2 ^ (52 + e) * d ≤ n) :
    ∃ c, rounded n d = c * 2 ^ e := by
  have hlarge : 2 ^ (52 + e) ≤ n / d := (Nat.le_div_iff_mul_le hd).2 h
  have hne : n / d ≠ 0 := Nat.ne_of_gt (Nat.lt_of_lt_of_le (Nat.two_pow_pos _) hlarge)
  have hshift : 52 + e ≤ (n / d).log2 := (Nat.le_log2 hne).2 hlarge
  exact ⟨_, on_grid (by omega)⟩

/-- A power of two in units is a power of two. -/
theorem exists_two_pow_units : ∃ j, ∀ k, 2 ^ k * unitsPerOne = 2 ^ (k + j) := by
  obtain ⟨j, -, hone⟩ := units_per_one_eq
  refine ⟨j, fun k => ?_⟩
  rw [hone]
  exact (Nat.pow_add 2 k j).symm

/-- Rounding moves a number with `53 + e` bits by at most half of `2 ^ e`. -/
theorem rounded_error_ones {b : Nat} (hb : b = 53 + e) (h : n < 2 ^ b * unitsPerOne) :
    2 * n ≤ 2 * rounded n 1 + 2 ^ e * unitsPerOne ∧
      2 * rounded n 1 ≤ 2 * n + 2 ^ e * unitsPerOne := by
  subst hb
  obtain ⟨j, hscale⟩ := exists_two_pow_units
  rw [hscale, Nat.add_assoc] at h
  have herror := rounded_error Nat.one_pos (h.trans_eq (Nat.mul_one _).symm)
  rwa [Nat.mul_one, Nat.one_mul, ← hscale] at herror

/-- From `2 ^ (52 + e)` on a number is rounded to a multiple of `2 ^ e`. -/
theorem exists_rounded_ones (h : 2 ^ (52 + e) * unitsPerOne ≤ n) :
    ∃ c, rounded n 1 = c * (2 ^ e * unitsPerOne) := by
  obtain ⟨j, hscale⟩ := exists_two_pow_units
  rw [hscale, Nat.add_assoc] at h
  rw [hscale]
  exact exists_rounded_on_grid Nat.one_pos ((Nat.mul_one _).trans_le h)

/-- Of two signed fractions of units the lesser is not rounded above the greater. -/
theorem rounded_units_mono {m n : Int} (d : Nat) (h : m ≤ n) :
    roundedUnits m d ≤ roundedUnits n d := by
  have hpos {k : Int} (hk : 0 ≤ k) : roundedUnits k d = rounded k.natAbs d := by
    rw [← rounded_units_nat_cast, Int.natAbs_of_nonneg hk]
  have hneg {k : Int} (hk : k ≤ 0) : roundedUnits k d = -(rounded k.natAbs d : Int) := by
    rw [← Int.natAbs_neg, ← hpos (Int.neg_nonneg_of_nonpos hk), rounded_units_neg, Int.neg_neg]
  rcases Int.le_total 0 m with hm | hm
  · rw [hpos hm, hpos (Int.le_trans hm h)]
    exact Int.ofNat_le.2 (rounded_mono d (by omega))
  · rcases Int.le_total 0 n with hn | hn
    · rw [hneg hm, hpos hn]
      omega
    · rw [hneg hm, hneg hn]
      exact Int.neg_le_neg (Int.ofNat_le.2 (rounded_mono d (by omega)))

end

variable {x y : Binary64}

/-- Finite doubles are ordered as their units. -/
theorem order_of_finite (hx : x.isFinite = true) (hy : y.isFinite = true) :
    x.order y = some (compare x.units y.units) := by
  have hposition {z : Binary64} (h : z.isFinite = true) : z.position = some z.units := by
    cases z with
    | nan | infinite => exact absurd h Bool.false_ne_true
    | finite => rfl
  rw [order, hposition hx, hposition hy]

/-- An integer that is not too large is rounded to a double. -/
theorem units_of_int_rounded {k : Int} {j : Nat} (hj : j ≤ 1023) (hk : k.natAbs < 2 ^ j) :
    (ofInt k).isFinite = true ∧ (ofInt k).units = roundedUnits (k * unitsPerOne) 1 := by
  obtain ⟨i, hi, hone⟩ := units_per_one_eq
  have hsize : k.natAbs * unitsPerOne = (k * unitsPerOne).natAbs := by
    rw [Int.natAbs_mul, Int.natAbs_natCast]
  have hbound : (k * unitsPerOne).natAbs / 1 < 2 ^ (j + i) := by
    rw [Nat.div_one, ← hsize, hone, Nat.pow_add]
    exact Nat.mul_lt_mul_of_pos_right hk (Nat.two_pow_pos i)
  rw [ofInt, ofRatio, hsize]
  refine units_of_signed (by omega) hbound fun hne => decide_eq_decide.2 ?_
  have hpos := Int.natCast_pos.2 units_per_one_pos
  rw [mul_neg_iff]
  omega

end Binary64

end Formula
