import Formula.Proofs.Binary64.Integer

/-!
# Rounding errors

Rounding keeps the order, `rounded_mono`, and does not change a number with at most 53 significant
bits, `rounded_exact`, so that nothing is moved across such a number. It moves a number of units by at
most half of the last place, `rounded_error`, and to a number with 53 significant bits if that is less
than half of the last place away, `rounded_near`. Sums, products and quotients of finite doubles are
the exact ones rounded, `units_add`, `units_mul` and `units_div`.
-/

namespace Formula

section

variable {m n d : Nat}

/-- Rounding a fraction moves it by at most a half. -/
theorem round_half_even_error (n : Nat) (hd : 0 < d) :
    2 * n ≤ 2 * (roundHalfEven n d * d) + d ∧ 2 * (roundHalfEven n d * d) ≤ 2 * n + d := by
  have hdiv := Nat.div_add_mod n d
  have hmod := Nat.mod_lt n hd
  rw [Nat.mul_comm] at hdiv
  simp only [roundHalfEven]
  generalize n / d = whole at *
  generalize n % d = rest at *
  split
  · omega
  · split
    · rw [Nat.add_one_mul whole d]
      omega
    · rcases Nat.mod_two_eq_zero_or_one whole with heven | hodd
      · rw [heven, Nat.add_zero]
        omega
      · rw [hodd, Nat.add_one_mul whole d]
        omega

/-- The lesser of two fractions is not rounded above the greater. -/
theorem round_half_even_mono (h : m ≤ n) : roundHalfEven m d ≤ roundHalfEven n d := by
  rcases Nat.lt_or_eq_of_le (Nat.div_le_div_right (c := d) h) with hlt | heq
  · calc roundHalfEven m d
        ≤ m / d + 1 := (Binary64.round_half_even_bounds m d).2
      _ ≤ n / d := hlt
      _ ≤ roundHalfEven n d := (Binary64.round_half_even_bounds n d).1
  · -- Of two fractions with one whole part the lesser has the lesser rest.
    have hrest : m % d ≤ n % d := by
      have hm := Nat.div_add_mod m d
      have hn := Nat.div_add_mod n d
      rw [← heq] at hn
      omega
    simp only [roundHalfEven, heq]
    split_ifs <;> omega

end

namespace Binary64

/-- The number of units that a fraction of units is rounded to. -/
def rounded (n d : Nat) : Nat :=
  roundHalfEven n (d * 2 ^ ((n / d).log2 - 52)) * 2 ^ ((n / d).log2 - 52)

section

variable {m n d c e : Nat}

/-- The units of a rounded number that is not too large. -/
theorem units_of_units_rounded (negative : Bool) {j : Nat} (hj : j ≤ 2097) (h : n / d < 2 ^ j) :
    (ofUnits negative n d).units =
      if negative then -(rounded n d : Int) else (rounded n d : Int) := by
  have hunits {significand shift : Nat} (hfinite : (pack negative significand shift).isFinite) :
      (pack negative significand shift).units =
        if negative then -((significand * 2 ^ shift : Nat) : Int)
        else ((significand * 2 ^ shift : Nat) : Int) := by
    unfold pack at hfinite ⊢
    split
    · rfl
    · rename_i hcanonical
      rw [dif_neg hcanonical] at hfinite
      exact absurd hfinite Bool.false_ne_true
  have hfinite := of_units_finite negative hj h
  simp only [ofUnits] at hfinite ⊢
  unfold rounded
  split at hfinite
  · rename_i hcarry
    rw [if_pos hcarry, hunits hfinite]
    have hcarry : roundHalfEven n (d * 2 ^ ((n / d).log2 - 52)) = 2 ^ 53 := hcarry
    have hproduct : twoPow 52 * 2 ^ ((n / d).log2 - 52 + 1) =
        2 ^ 53 * 2 ^ ((n / d).log2 - 52) := by
      rw [Nat.pow_succ', ← Nat.mul_assoc]
      rfl
    rw [hcarry, hproduct]
  · rename_i hcarry
    rw [if_neg hcarry, hunits hfinite]
    rfl

/-- A fraction is rounded as in lowest terms. -/
theorem rounded_mul_right (n d : Nat) {e : Nat} (he : 0 < e) :
    rounded (n * e) (d * e) = rounded n d := by
  rw [rounded, Nat.mul_div_mul_right _ _ he, Nat.mul_right_comm, round_half_even_mul_right n _ he,
    rounded]

/-- A number is on every grid that is not coarser. -/
theorem on_grid {shift : Nat} (h : shift ≤ e) : c * 2 ^ e = c * 2 ^ (e - shift) * 2 ^ shift := by
  rw [Nat.mul_assoc, ← Nat.pow_add, Nat.sub_add_cancel h]

/-- A number with at most 53 significant bits is not beyond the normal numbers of a coarser grid. -/
theorem le_of_coarser {shift : Nat} (hc : c ≤ 2 ^ 53) (h : e < shift) :
    c * 2 ^ e ≤ 2 ^ 52 * 2 ^ shift := by
  calc c * 2 ^ e
      ≤ 2 ^ 53 * 2 ^ e := Nat.mul_le_mul_right _ hc
    _ = 2 ^ 52 * 2 ^ (e + 1) := by rw [← Nat.pow_add, ← Nat.pow_add, Nat.add_comm e, ← Nat.add_assoc]
    _ ≤ 2 ^ 52 * 2 ^ shift := Nat.mul_le_mul_left _ (Nat.pow_le_pow_right (by decide) h)

/-- A fraction that needs a shift is rounded to a significand with all its bits. -/
theorem le_significand (h : (n / d).log2 - 52 ≠ 0) :
    2 ^ 52 ≤ roundHalfEven n (d * 2 ^ ((n / d).log2 - 52)) := by
  refine Nat.le_trans ?_ (round_half_even_bounds n _).1
  rw [← Nat.div_div_eq_div_mul]
  exact (shifted_bounds (n / d)).2.resolve_left h

/-- A fraction is rounded to a significand of 53 bits or the power of two after them. -/
theorem significand_le (n d : Nat) :
    roundHalfEven n (d * 2 ^ ((n / d).log2 - 52)) ≤ 2 ^ 53 := by
  refine Nat.le_trans (round_half_even_bounds n _).2 ?_
  rw [← Nat.div_div_eq_div_mul]
  exact (shifted_bounds (n / d)).1

/-- The lesser of two fractions of units is not rounded above the greater. -/
theorem rounded_mono (d : Nat) (h : m ≤ n) : rounded m d ≤ rounded n d := by
  have hshift : (m / d).log2 - 52 ≤ (n / d).log2 - 52 := by
    rw [Nat.log2_eq_log_two, Nat.log2_eq_log_two]
    exact Nat.sub_le_sub_right (Nat.log_mono_right (Nat.div_le_div_right h)) 52
  unfold rounded
  rcases Nat.eq_or_lt_of_le hshift with heq | hlt
  · rw [heq]
    exact Nat.mul_le_mul_right _ (round_half_even_mono h)
  · -- The power of two at which the places change is between the two.
    have hpower := le_significand (Nat.ne_of_gt (Nat.zero_lt_of_lt hlt))
    exact Nat.le_trans (le_of_coarser (significand_le m d) hlt) (Nat.mul_le_mul_right _ hpower)

/-- A number with at most 53 significant bits is not changed by rounding. -/
theorem rounded_exact (hd : 0 < d) (hc : c ≤ 2 ^ 53) : rounded (c * 2 ^ e * d) d = c * 2 ^ e := by
  have hgrid {k : Nat} (hk : c * 2 ^ e = k * 2 ^ ((c * 2 ^ e).log2 - 52)) :
      rounded (c * 2 ^ e * d) d = c * 2 ^ e := by
    rw [rounded, Nat.mul_div_cancel _ hd]
    generalize (c * 2 ^ e).log2 - 52 = shift at hk ⊢
    have hplace : 0 < d * 2 ^ shift := Nat.mul_pos hd (Nat.two_pow_pos shift)
    rw [hk, Nat.mul_assoc, Nat.mul_comm (2 ^ shift), round_half_even_mul k hplace]
  by_cases hshift : (c * 2 ^ e).log2 - 52 ≤ e
  · exact hgrid (on_grid hshift)
  · -- Only the power of two that a grid starts with is on a finer one too.
    have hpower := (Nat.le_div_iff_mul_le (Nat.two_pow_pos _)).1
      ((shifted_bounds (c * 2 ^ e)).2.resolve_left (by omega))
    exact hgrid (Nat.le_antisymm (le_of_coarser hc (Nat.lt_of_not_le hshift)) hpower)

/-- A fraction that is not below a number with at most 53 significant bits is not rounded below it. -/
theorem le_rounded (hd : 0 < d) (hc : c ≤ 2 ^ 53) (h : c * 2 ^ e * d ≤ n) :
    c * 2 ^ e ≤ rounded n d :=
  (rounded_exact hd hc).symm.trans_le (rounded_mono d h)

/-- A fraction that is not above a number with at most 53 significant bits is not rounded above it. -/
theorem rounded_le (hd : 0 < d) (hc : c ≤ 2 ^ 53) (h : n ≤ c * 2 ^ e * d) :
    rounded n d ≤ c * 2 ^ e :=
  (rounded_mono d h).trans_eq (rounded_exact hd hc)

/-- A whole number of at most 53 bits is not changed by rounding. -/
theorem rounded_whole (hc : c ≤ 2 ^ 53) : rounded (c * unitsPerOne) 1 = c * unitsPerOne := by
  obtain ⟨j, -, hone⟩ := units_per_one_eq
  have hone : unitsPerOne = 2 ^ j := hone
  rw [hone]
  simpa using rounded_exact (e := j) Nat.one_pos hc

/-- Rounding a second time changes nothing. -/
theorem rounded_rounded (n d : Nat) : rounded (rounded n d) 1 = rounded n d := by
  have hexact := rounded_exact (e := (n / d).log2 - 52) Nat.one_pos (significand_le n d)
  rwa [Nat.mul_one, ← rounded] at hexact

/-- Rounding moves a fraction by at most half of the last of 53 places. -/
theorem rounded_error (hd : 0 < d) (h : n < 2 ^ (53 + e) * d) :
    2 * n ≤ 2 * (rounded n d * d) + d * 2 ^ e ∧ 2 * (rounded n d * d) ≤ 2 * n + d * 2 ^ e := by
  have hwhole : n / d < 2 ^ (53 + e) := (Nat.div_lt_iff_lt_mul hd).2 h
  have hshift : (n / d).log2 - 52 ≤ e := by
    by_cases hzero : n / d = 0
    · simp [hzero]
    · have hbits := (Nat.log2_lt hzero).2 hwhole
      omega
  have hplace : d * 2 ^ ((n / d).log2 - 52) ≤ d * 2 ^ e :=
    Nat.mul_le_mul_left d (Nat.pow_le_pow_right (by decide) hshift)
  have herror := round_half_even_error n (Nat.mul_pos hd (Nat.two_pow_pos ((n / d).log2 - 52)))
  rw [rounded, Nat.mul_assoc, Nat.mul_comm (2 ^ ((n / d).log2 - 52)) d]
  omega

/-- A fraction that is less than half of the last place away from a number with 53 significant bits
is rounded to it. -/
theorem rounded_near (hd : 0 < d) (hlow : 2 ^ 52 < c) (hhigh : c < 2 ^ 53)
    (hbelow : 2 * (c * 2 ^ e * d) < 2 * n + d * 2 ^ e)
    (habove : 2 * n < 2 * (c * 2 ^ e * d) + d * 2 ^ e) : rounded n d = c * 2 ^ e := by
  have hplace : 0 < d * 2 ^ e := Nat.mul_pos hd (Nat.two_pow_pos e)
  have hproduct : c * 2 ^ e * d = c * (d * 2 ^ e) := by
    rw [Nat.mul_assoc, Nat.mul_comm d]
  rw [hproduct] at hbelow habove
  -- The fraction is strictly between the powers of two around the number.
  have hlog : (n / d).log2 = 52 + e := by
    have hgap := Nat.mul_le_mul_right (d * 2 ^ e) (Nat.succ_le_of_lt hlow)
    have hgap' := Nat.mul_le_mul_right (d * 2 ^ e) (Nat.succ_le_of_lt hhigh)
    rw [Nat.add_one_mul] at hgap hgap'
    have hfrom : 2 ^ (52 + e) ≤ n / d := by
      rw [Nat.le_div_iff_mul_le hd, Nat.pow_add, Nat.mul_assoc, Nat.mul_comm (2 ^ e)]
      omega
    have hto : n / d < 2 ^ (52 + e + 1) := by
      rw [Nat.div_lt_iff_lt_mul hd, Nat.add_right_comm, Nat.pow_add, Nat.mul_assoc,
        Nat.mul_comm (2 ^ e)]
      omega
    exact (Nat.log2_eq_iff (Nat.ne_of_gt (Nat.lt_of_lt_of_le (Nat.two_pow_pos _) hfrom))).2
      ⟨hfrom, hto⟩
  have herror := round_half_even_error n hplace
  have hshift : (n / d).log2 - 52 = e := by omega
  rw [rounded, hshift]
  generalize d * 2 ^ e = place at *
  generalize roundHalfEven n place = significand at *
  have hle : significand < c + 1 := by
    refine Nat.lt_of_mul_lt_mul_right (a := place) ?_
    rw [Nat.add_one_mul]
    omega
  have hge : c < significand + 1 := by
    refine Nat.lt_of_mul_lt_mul_right (a := place) ?_
    rw [Nat.add_one_mul]
    omega
  rw [Nat.le_antisymm (Nat.le_of_lt_succ hle) (Nat.le_of_lt_succ hge)]

/-- Nothing is rounded to nothing. -/
theorem rounded_zero (d : Nat) : rounded 0 d = 0 := by
  simp [rounded, roundHalfEven]

end

/-- The whole number that a signed fraction of units is rounded to. -/
def roundedUnits (n : Int) (d : Nat) : Int :=
  n.sign * rounded n.natAbs d

/-- Rounding does not depend on the sign. -/
theorem rounded_units_neg (n : Int) (d : Nat) : roundedUnits (-n) d = -roundedUnits n d := by
  rw [roundedUnits, Int.sign_neg, Int.natAbs_neg, Int.neg_mul, roundedUnits]

/-- A fraction without a sign is rounded as such. -/
theorem rounded_units_nat_cast (n d : Nat) : roundedUnits n d = rounded n d := by
  cases n with
  | zero => simp [roundedUnits, rounded_zero]
  | succ n => rw [roundedUnits, Int.sign_natCast_of_ne_zero (Nat.succ_ne_zero n), Int.one_mul,
      Int.natAbs_natCast]

/-- A signed fraction is rounded as in lowest terms. -/
theorem rounded_units_mul_right (n : Int) (d : Nat) {e : Nat} (he : 0 < e) :
    roundedUnits (n * e) (d * e) = roundedUnits n d := by
  rw [roundedUnits, Int.sign_mul, Int.sign_natCast_of_ne_zero (Nat.ne_of_gt he), Int.mul_one,
    Int.natAbs_mul, Int.natAbs_natCast, rounded_mul_right _ _ he, roundedUnits]

/-- Rounding a number with the sign of another keeps the sign. -/
theorem rounded_units_sign_mul (m : Int) (n d : Nat) :
    roundedUnits (m.sign * n) d = m.sign * rounded n d := by
  rcases Int.lt_trichotomy m 0 with hneg | rfl | hpos
  · rw [Int.sign_eq_neg_one_of_neg hneg, Int.neg_one_mul, rounded_units_neg,
      rounded_units_nat_cast, Int.neg_one_mul]
  · simp [roundedUnits]
  · rw [Int.sign_eq_one_of_pos hpos, Int.one_mul, rounded_units_nat_cast, Int.one_mul]

/-- A number with the sign of another is at most as large as without. -/
theorem nat_abs_sign_mul_le (m : Int) (n : Nat) : (m.sign * n).natAbs ≤ n := by
  rw [Int.natAbs_mul, Int.natAbs_sign, Int.natAbs_natCast]
  split
  · rw [Nat.zero_mul]
    exact Nat.zero_le n
  · rw [Nat.one_mul]

/-- A division toward zero keeps the sign. -/
theorem sign_mul_tdiv (m : Int) (n d : Nat) :
    (m.sign * n).tdiv d = m.sign * (n / d : Nat) := by
  rcases Int.lt_trichotomy m 0 with hneg | rfl | hpos
  · rw [Int.sign_eq_neg_one_of_neg hneg, Int.neg_one_mul, Int.neg_tdiv, Int.neg_one_mul]
    rfl
  · simp
  · rw [Int.sign_eq_one_of_pos hpos, Int.one_mul, Int.one_mul]
    rfl

section

variable {x y : Binary64} {j : Nat}

/-- A signed fraction that is not too large is rounded to a finite double with its sign. -/
theorem units_of_signed {negative : Bool} {n : Int} {d : Nat} (hj : j ≤ 2097)
    (h : n.natAbs / d < 2 ^ j) (hsign : n ≠ 0 → negative = decide (n < 0)) :
    (ofUnits negative n.natAbs d).isFinite = true ∧
      (ofUnits negative n.natAbs d).units = roundedUnits n d := by
  refine ⟨of_units_finite negative hj h, (units_of_units_rounded negative hj h).trans ?_⟩
  rcases Int.lt_trichotomy n 0 with hneg | rfl | hpos
  · rw [if_pos ((hsign (Int.ne_of_lt hneg)).trans (decide_eq_true hneg)), roundedUnits,
      Int.sign_eq_neg_one_of_neg hneg, Int.neg_one_mul]
  · simp [roundedUnits, rounded_zero]
  · have hnegative := (hsign (Int.ne_of_gt hpos)).trans (decide_eq_false (Int.not_lt.2 (Int.le_of_lt hpos)))
    rw [if_neg (Bool.eq_false_iff.1 hnegative), roundedUnits, Int.sign_eq_one_of_pos hpos,
      Int.one_mul]

/-- The sign of a finite double with some units is theirs. -/
theorem is_negative_eq (hx : x.isFinite = true) (h : x.units ≠ 0) :
    x.isNegative = decide (x.units < 0) := by
  cases x with
  | nan | infinite => exact absurd hx Bool.false_ne_true
  | finite negative significand shift canonical =>
      have hsize := Int.natCast_nonneg (significand * twoPow shift)
      cases negative with
      | false => exact (decide_eq_false (Int.not_lt.2 hsize)).symm
      | true =>
          have hunits : (finite true significand shift canonical).units =
              -(significand * twoPow shift : Nat) := rfl
          rw [hunits] at h
          refine (decide_eq_true ?_).symm
          rw [hunits]
          omega

/-- A sum of finite doubles that is not too large is the sum of their units, rounded. -/
theorem units_add (hj : j ≤ 2097) (hx : x.isFinite = true) (hy : y.isFinite = true)
    (h : (x.units + y.units).natAbs < 2 ^ j) :
    (x + y).isFinite = true ∧ (x + y).units = roundedUnits (x.units + y.units) 1 := by
  change (x.add y).isFinite = true ∧ (x.add y).units = _
  rw [add_eq_of_signed_units hx hy, ofSignedUnits]
  exact units_of_signed hj (by rwa [Nat.div_one]) fun hne => if_neg hne

/-- A product of finite doubles that is not too large is the product of their units, rounded. -/
theorem units_mul (hj : j ≤ 2097) (hx : x.isFinite = true) (hy : y.isFinite = true)
    (h : (x.units * y.units).natAbs / unitsPerOne < 2 ^ j) :
    (x * y).isFinite = true ∧ (x * y).units = roundedUnits (x.units * y.units) unitsPerOne := by
  rw [mul_eq_of_units hx hy]
  refine units_of_signed hj h fun hne => ?_
  have hxne := left_ne_zero_of_mul hne
  have hyne := right_ne_zero_of_mul hne
  rw [is_negative_eq hx hxne, is_negative_eq hy hyne, Bool.eq_iff_iff, decide_eq_true_iff,
    mul_neg_iff, bne_iff_ne, ne_eq, decide_eq_decide]
  omega

/-- A quotient of finite doubles, the divisor positive, is that of their units, rounded. -/
theorem units_div (hj : j ≤ 2097) (hx : x.isFinite = true) (hy : y.isFinite = true) {d : Nat}
    (hd : y.units = d) (hpos : 0 < d) (h : (x.units * unitsPerOne).natAbs / d < 2 ^ j) :
    (x / y).isFinite = true ∧ (x / y).units = roundedUnits (x.units * unitsPerOne) d := by
  have hne : y.units ≠ 0 := by
    rw [hd]
    exact Int.natCast_ne_zero.2 (Nat.ne_of_gt hpos)
  have hsize : x.units.natAbs * unitsPerOne = (x.units * unitsPerOne).natAbs := by
    rw [Int.natAbs_mul, Int.natAbs_natCast]
  rw [div_eq_of_ratio hx hy (is_zero_of_units hy hne), ofRatio, hsize, hd, Int.natAbs_natCast]
  refine units_of_signed hj h fun hproduct => ?_
  have hunits := Int.natCast_pos.2 units_per_one_pos
  rw [is_negative_eq hx (left_ne_zero_of_mul hproduct), is_negative_eq hy hne, hd,
    decide_eq_false (Int.not_lt.2 (Int.natCast_nonneg d)), Bool.bne_false]
  refine decide_eq_decide.2 ?_
  rw [mul_neg_iff]
  omega

/-- A number of up to 53 bits with the sign of another is a double. -/
theorem units_of_sign_mul (m : Int) {n : Nat} (hn : n ≤ 2 ^ 53) :
    (ofInt (m.sign * n)).isFinite = true ∧
      (ofInt (m.sign * n)).units = m.sign * (n * unitsPerOne : Nat) := by
  obtain ⟨hfinite, hunits⟩ := is_exactly_of_int (Nat.le_trans (nat_abs_sign_mul_le m n) hn)
  exact ⟨hfinite, by rw [hunits, Int.natCast_mul, Int.mul_assoc]⟩

/-- A finite double times a natural number is the product of the units, rounded. -/
theorem units_mul_nat {m : Int} {n c : Nat} (hj : j ≤ 2097) (hc : c ≤ 2 ^ 53)
    (hx : x.isFinite = true) (hunits : x.units = m.sign * n) (h : n * c < 2 ^ j) :
    (x * ofNat c).isFinite = true ∧ (x * ofNat c).units = m.sign * rounded (n * c) 1 := by
  obtain ⟨hfactor, hfactorUnits⟩ := is_exactly_of_nat hc
  have hproduct : x.units * (ofNat c).units = m.sign * (n * c : Nat) * unitsPerOne := by
    rw [hunits, hfactorUnits, Int.natCast_mul]
    ring
  have hsize : (x.units * (ofNat c).units).natAbs / unitsPerOne < 2 ^ j := by
    rw [hproduct, Int.natAbs_mul, Int.natAbs_natCast, Nat.mul_div_cancel _ units_per_one_pos]
    exact Nat.lt_of_le_of_lt (nat_abs_sign_mul_le m _) h
  obtain ⟨hfinite, hrounded⟩ := units_mul hj hx hfactor hsize
  have hscale := rounded_units_mul_right (m.sign * (n * c : Nat)) 1 units_per_one_pos
  rw [Nat.one_mul] at hscale
  exact ⟨hfinite, by rw [hrounded, hproduct, hscale, rounded_units_sign_mul]⟩

/-- A finite double by a natural number is the quotient of the units, rounded. -/
theorem units_div_nat {m : Int} {n c : Nat} (hj : j ≤ 2097) (hpos : 0 < c) (hc : c ≤ 2 ^ 53)
    (hx : x.isFinite = true) (hunits : x.units = m.sign * n) (h : n < 2 ^ j) :
    (x / ofNat c).isFinite = true ∧ (x / ofNat c).units = m.sign * rounded n c := by
  obtain ⟨hdivisor, hdivisorUnits⟩ := is_exactly_of_nat hc
  have hcast : (ofNat c).units = (c * unitsPerOne : Nat) := by
    rw [hdivisorUnits, Int.natCast_mul]
  have hsize : (x.units * unitsPerOne).natAbs / (c * unitsPerOne) < 2 ^ j := by
    rw [hunits, Int.natAbs_mul, Int.natAbs_natCast, Nat.mul_div_mul_right _ _ units_per_one_pos]
    exact Nat.lt_of_le_of_lt (Nat.div_le_self _ _)
      (Nat.lt_of_le_of_lt (nat_abs_sign_mul_le m n) h)
  obtain ⟨hfinite, hrounded⟩ :=
    units_div hj hx hdivisor hcast (Nat.mul_pos hpos units_per_one_pos) hsize
  refine ⟨hfinite, ?_⟩
  rw [hrounded, rounded_units_mul_right _ _ units_per_one_pos, hunits, rounded_units_sign_mul]

/-- The integer part of a finite double is that of its units, clamped. -/
theorem to_int_clamped_eq {low high : Int} (hx : x.isFinite = true) :
    toIntClamped low high x = max low (min high (x.units.tdiv unitsPerOne)) := by
  cases x with
  | nan | infinite => exact absurd hx Bool.false_ne_true
  | finite => simp only [toIntClamped]

end

end Binary64

end Formula
