import Formula.Binary64.Arithmetic
import Mathlib

/-!
# Exact rounding

A number of units that the format has room for is not changed by rounding, `of_units_exact`. So
every finite double is the double of its own units, and a 32-bit integer survives being turned into
a double.
-/

namespace Formula

/-- A multiple is rounded to its factor. -/
theorem round_half_even_mul (q : Nat) {d : Nat} (hd : 0 < d) : roundHalfEven (q * d) d = q := by
  simp [roundHalfEven, Nat.mul_div_cancel q hd, hd]

/-- A fraction is rounded as in lowest terms. -/
theorem round_half_even_mul_right (n e : Nat) {d : Nat} (hd : 0 < d) :
    roundHalfEven (n * d) (e * d) = roundHalfEven n e := by
  have htwice : 2 * (n % e * d) = 2 * (n % e) * d := (Nat.mul_assoc _ _ _).symm
  simp only [roundHalfEven, Nat.mul_div_mul_right _ _ hd, Nat.mul_mod_mul_right, htwice,
    Nat.mul_lt_mul_right hd]

namespace Binary64

/-- A number of units that is a fraction is rounded as in lowest terms. -/
theorem of_units_mul_right (negative : Bool) (n e : Nat) {d : Nat} (hd : 0 < d) :
    ofUnits negative (n * d) (e * d) = ofUnits negative n e := by
  have hround (k : Nat) :
      roundHalfEven (n * d) (e * d * twoPow k) = roundHalfEven n (e * twoPow k) := by
    rw [Nat.mul_right_comm, round_half_even_mul_right n _ hd]
  simp only [ofUnits, Nat.mul_div_mul_right _ _ hd, hround]

/-- A whole number of units with at most 53 significant bits is a significand times the power of two
that rounding takes. -/
theorem exists_significand {m : Nat} (hm : m < 2 ^ 53) (j : Nat) :
    ∃ significand, m * 2 ^ j = significand * 2 ^ ((m * 2 ^ j).log2 - 52) ∧
      significand < 2 ^ 53 ∧ (m * 2 ^ j).log2 - 52 ≤ j ∧
      ((m * 2 ^ j).log2 - 52 = 0 ∨ 2 ^ 52 ≤ significand) := by
  generalize hn : m * 2 ^ j = n
  have hshift : n.log2 - 52 ≤ j := by
    by_cases hzero : n = 0
    · simp [hzero]
    · have hbits : n.log2 < 53 + j := by
        rw [Nat.log2_lt hzero, ← hn, Nat.pow_add]
        exact Nat.mul_lt_mul_of_pos_right hm (Nat.two_pow_pos j)
      omega
  have hfactor : n = m * 2 ^ (j - (n.log2 - 52)) * 2 ^ (n.log2 - 52) := by
    rw [Nat.mul_assoc, ← Nat.pow_add, Nat.sub_add_cancel hshift, hn]
  generalize m * 2 ^ (j - (n.log2 - 52)) = significand at hfactor
  -- The logarithm of `n` bounds the significand from both sides.
  refine ⟨significand, hfactor, ?_, hshift, ?_⟩
  · have hupper : n < 2 ^ 53 * 2 ^ (n.log2 - 52) := by
      rw [← Nat.pow_add]
      exact Nat.lt_of_lt_of_le Nat.lt_log2_self (Nat.pow_le_pow_right (by decide) (by omega))
    exact Nat.lt_of_mul_lt_mul_right (a := 2 ^ (n.log2 - 52)) (by rwa [← hfactor])
  · by_cases hsmall : n.log2 - 52 = 0
    · exact .inl hsmall
    · have hne : n ≠ 0 := by
        rintro rfl
        simp at hsmall
      have hlower : 2 ^ 52 * 2 ^ (n.log2 - 52) ≤ n := by
        rw [← Nat.pow_add, show 52 + (n.log2 - 52) = n.log2 by omega]
        exact Nat.log2_self_le hne
      exact .inr (Nat.le_of_mul_le_mul_right (by rwa [← hfactor]) (Nat.two_pow_pos _))

/-- A whole number of units with at most 53 significant bits is not changed by rounding. -/
theorem of_units_exact (negative : Bool) {m j : Nat} (hm : m < 2 ^ 53) (hj : j ≤ 2045) :
    ∃ significand shift canonical,
      ofUnits negative (m * 2 ^ j) 1 = .finite negative significand shift canonical ∧
        significand * 2 ^ shift = m * 2 ^ j := by
  obtain ⟨significand, hfactor, hsignificand, hshift, hnormal⟩ := exists_significand hm j
  generalize m * 2 ^ j = n at hfactor hshift hnormal
  have hcanonical : Canonical significand (n.log2 - 52) :=
    ⟨hsignificand, Nat.le_trans hshift hj, hnormal⟩
  have hround := round_half_even_mul significand (Nat.two_pow_pos (n.log2 - 52))
  rw [← hfactor] at hround
  have hne : significand ≠ twoPow 53 := Nat.ne_of_lt hsignificand
  refine ⟨significand, n.log2 - 52, hcanonical, ?_, hfactor.symm⟩
  simp only [ofUnits, Nat.div_one, Nat.one_mul]
  rw [show roundHalfEven n (twoPow (n.log2 - 52)) = significand from hround, if_neg hne, pack,
    dif_pos hcanonical]

/-- The canonical pair of a number of units is unique. -/
theorem canonical_unique {s t k l : Nat} (hs : Canonical s k) (ht : Canonical t l)
    (h : s * 2 ^ k = t * 2 ^ l) : s = t ∧ k = l := by
  have hle {s t k l : Nat} (hs : Canonical s k) (ht : Canonical t l)
      (h : s * 2 ^ k = t * 2 ^ l) : l ≤ k := by
    by_contra hlt
    obtain ⟨more, rfl⟩ := Nat.exists_eq_add_of_lt (Nat.lt_of_not_le hlt)
    -- The greater shift has a full significand, so the other one would have a bit too many.
    have hnormal : 2 ^ 52 ≤ t := ht.2.2.resolve_left (by omega)
    have hfactor : s = t * 2 ^ (more + 1) := by
      refine Nat.eq_of_mul_eq_mul_right (Nat.two_pow_pos k) (h.trans ?_)
      rw [Nat.mul_assoc, ← Nat.pow_add]
      congr 2
      omega
    have hlarge : 2 ^ 52 * 2 ≤ s := by
      calc 2 ^ 52 * 2
          ≤ t * 2 := Nat.mul_le_mul_right 2 hnormal
        _ ≤ t * 2 ^ (more + 1) := Nat.mul_le_mul_left t (Nat.le_self_pow (by omega) 2)
        _ = s := hfactor.symm
    exact absurd hs.1 (Nat.not_lt.2 hlarge)
  obtain rfl : k = l := Nat.le_antisymm (hle ht hs h.symm) (hle hs ht h)
  exact ⟨Nat.eq_of_mul_eq_mul_right (Nat.two_pow_pos k) h, rfl⟩

/-- A finite double is the double of its own units. -/
theorem of_units_canonical (negative : Bool) {significand shift : Nat}
    (canonical : Canonical significand shift) :
    ofUnits negative (significand * 2 ^ shift) 1 =
      .finite negative significand shift canonical := by
  obtain ⟨s, k, hcanonical, hunits, hfactor⟩ :=
    of_units_exact negative canonical.1 canonical.2.1
  obtain ⟨rfl, rfl⟩ := canonical_unique hcanonical canonical hfactor
  exact hunits

/-- A whole number of units with at most 53 significant bits is the units of its double. -/
theorem units_of_units (negative : Bool) {m j : Nat} (hm : m < 2 ^ 53) (hj : j ≤ 2045) :
    (ofUnits negative (m * twoPow j) 1).isFinite = true ∧
      (ofUnits negative (m * twoPow j) 1).units =
        if negative then -((m * twoPow j : Nat) : Int) else ((m * twoPow j : Nat) : Int) := by
  obtain ⟨s, k, canonical, hunits, hfactor⟩ := of_units_exact negative hm hj
  change ofUnits negative (m * twoPow j) 1 = _ at hunits
  change s * twoPow k = m * twoPow j at hfactor
  rw [hunits, units, hfactor]
  exact ⟨rfl, rfl⟩

/-- Rounding a fraction gives its whole part or the next number. -/
theorem round_half_even_bounds (n d : Nat) :
    n / d ≤ roundHalfEven n d ∧ roundHalfEven n d ≤ n / d + 1 := by
  simp only [roundHalfEven]
  split
  · omega
  · split
    · omega
    · omega

/-- Rounding shifts 53 bits to the front of a number, or no bits at all. -/
theorem shifted_bounds (whole : Nat) :
    whole / 2 ^ (whole.log2 - 52) < 2 ^ 53 ∧
      (whole.log2 - 52 = 0 ∨ 2 ^ 52 ≤ whole / 2 ^ (whole.log2 - 52)) := by
  constructor
  · refine Nat.div_lt_of_lt_mul (Nat.lt_of_lt_of_le Nat.lt_log2_self ?_)
    rw [← Nat.pow_add]
    exact Nat.pow_le_pow_right (by decide) (by omega)
  · rw [or_iff_not_imp_left]
    intro hshift
    have hne : whole ≠ 0 := by
      rintro rfl
      simp at hshift
    rw [Nat.le_div_iff_mul_le (Nat.two_pow_pos _), ← Nat.pow_add,
      show 52 + (whole.log2 - 52) = whole.log2 by omega]
    exact Nat.log2_self_le hne

/-- A number of units that is not too large is rounded to a finite double. -/
theorem of_units_finite (negative : Bool) {n d j : Nat} (hj : j ≤ 2097) (h : n / d < 2 ^ j) :
    (ofUnits negative n d).isFinite = true := by
  have hpack {significand shift : Nat} (hcanonical : Canonical significand shift) :
      (pack negative significand shift).isFinite = true := by
    rw [pack, dif_pos hcanonical]
    rfl
  obtain ⟨hlower, hupper⟩ := round_half_even_bounds n (d * twoPow ((n / d).log2 - 52))
  simp only [ofUnits]
  rw [← Nat.div_div_eq_div_mul] at hlower hupper
  generalize roundHalfEven n _ = significand at hlower hupper ⊢
  generalize n / d = whole at h hlower hupper ⊢
  have hbits : whole.log2 < 2097 := by
    by_cases hzero : whole = 0
    · simp [hzero]
    · exact Nat.lt_of_lt_of_le ((Nat.log2_lt hzero).2 h) hj
  obtain ⟨hlarge, hsmall⟩ := shifted_bounds whole
  split
  · exact hpack ⟨by decide, by omega, .inr (Nat.le_refl _)⟩
  · rename_i hne
    have hbelow : significand < twoPow 53 :=
      Nat.lt_of_le_of_ne (Nat.le_trans hupper hlarge) hne
    exact hpack ⟨hbelow, by omega, hsmall.imp_right fun hnormal => hnormal.trans hlower⟩

/-- One is a power of two units. -/
theorem units_per_one_eq : ∃ j ≤ 1074, unitsPerOne = twoPow j :=
  ⟨1074, Nat.le_refl _, by decide +kernel⟩

/-- One is some units. -/
theorem units_per_one_pos : 0 < unitsPerOne := by
  obtain ⟨j, -, hone⟩ := units_per_one_eq
  rw [hone]
  exact Nat.two_pow_pos j

/-- An integer with at most 53 significant bits is a double with that many times the units in one. -/
theorem units_of_int_shifted {k : Int} {m i : Nat} (hk : k.natAbs = m * 2 ^ i) (hm : m < 2 ^ 53)
    (hi : i ≤ 971) : (ofInt k).isFinite = true ∧ (ofInt k).units = k * unitsPerOne := by
  obtain ⟨j, hj, hone⟩ := units_per_one_eq
  have hshift : k.natAbs * twoPow j = m * twoPow (i + j) := by
    rw [hk, Nat.mul_assoc]
    exact congrArg (m * ·) (Nat.pow_add 2 i j).symm
  obtain ⟨hfinite, hunits⟩ := units_of_units (decide (k < 0)) hm (show i + j ≤ 2045 by omega)
  rw [← hshift] at hfinite hunits
  rw [ofInt, ofRatio, hone]
  refine ⟨hfinite, hunits.trans ?_⟩
  rcases Int.lt_or_le k 0 with hneg | hpos
  · have habs : (k.natAbs : Int) = -k := Int.ofNat_natAbs_of_nonpos (Int.le_of_lt hneg)
    rw [if_pos (decide_eq_true hneg), Int.natCast_mul, habs, Int.neg_mul, Int.neg_neg]
  · rw [if_neg (by simpa using hpos), Int.natCast_mul, Int.natAbs_of_nonneg hpos]

/-- An integer of at most 53 bits is a double with that many times the units in one. -/
theorem units_of_int {k : Int} (hk : k.natAbs < 2 ^ 53) :
    (ofInt k).isFinite = true ∧ (ofInt k).units = k * unitsPerOne :=
  units_of_int_shifted (i := 0) (Nat.mul_one _).symm hk (Nat.zero_le _)

/-- A finite double is a number. -/
theorem is_nan_of_finite {x : Binary64} (h : x.isFinite = true) : x.isNaN = false := by
  cases x with
  | nan => cases h
  | infinite | finite => rfl

/-- The double of a natural number is that of the integer. -/
theorem of_int_nat_cast (k : Nat) : ofInt (k : Int) = ofNat k := by
  rw [ofInt, decide_eq_false (Int.not_lt.2 (Int.natCast_nonneg k)), Int.natAbs_natCast, ofNat]

/-- An integer that is not too large is a finite double. -/
theorem of_int_finite {k : Int} {j : Nat} (hj : j ≤ 1023) (hk : k.natAbs < 2 ^ j) :
    (ofInt k).isFinite = true := by
  obtain ⟨i, hi, hone⟩ := units_per_one_eq
  rw [ofInt, ofRatio, hone]
  refine of_units_finite _ (show j + i ≤ 2097 by omega) ?_
  rw [Nat.div_one, Nat.pow_add]
  exact Nat.mul_lt_mul_of_pos_right hk (Nat.two_pow_pos _)

/-- The integer part of a finite double with a whole number of the units in one is that number, if it
is in range. -/
theorem to_int_clamped_of_units {x : Binary64} {low high k : Int} (hfinite : x.isFinite = true)
    (hunits : x.units = k * unitsPerOne) (hlow : low ≤ k) (hhigh : k ≤ high) :
    toIntClamped low high x = k := by
  have hpos : (unitsPerOne : Int) ≠ 0 := Int.natCast_ne_zero.2 (Nat.ne_of_gt units_per_one_pos)
  cases x with
  | nan => exact nomatch hfinite
  | infinite negative => exact nomatch hfinite
  | finite negative significand shift canonical =>
      rw [toIntClamped, hunits, Int.mul_tdiv_cancel _ hpos]
      · omega
      · exact nofun
      · exact nofun

/-- The integer part of an integer is the integer, if it is in range. -/
theorem to_int_clamped_of_int {low high k : Int} (hk : k.natAbs < 2 ^ 53) (hlow : low ≤ k)
    (hhigh : k ≤ high) : toIntClamped low high (ofInt k) = k := by
  obtain ⟨hfinite, hunits⟩ := units_of_int hk
  exact to_int_clamped_of_units hfinite hunits hlow hhigh

/-- The 32-bit integer part of a double is in range. -/
theorem to_int32_bounds (x : Binary64) : -2147483648 ≤ x.toInt32 ∧ x.toInt32 ≤ 2147483647 := by
  unfold toInt32 toIntClamped
  split
  · decide
  · split <;> decide
  · omega

/-- Narrowing to a 32-bit integer keeps the 32-bit integer part. -/
theorem to_int32_of_to_int32 (x : Binary64) : (ofInt x.toInt32).toInt32 = x.toInt32 := by
  obtain ⟨hlow, hhigh⟩ := to_int32_bounds x
  exact to_int_clamped_of_int (by omega) hlow hhigh

/-- Whether a double is a number without a sign. -/
def IsUnsigned (x : Binary64) : Prop :=
  x.isNaN = false ∧ x.isNegative = false

/-- Rounding a quotient without a sign gives a number without a sign. -/
theorem of_units_unsigned (n d : Nat) : (ofUnits false n d).IsUnsigned := by
  have hpack (significand shift : Nat) : (pack false significand shift).IsUnsigned := by
    unfold pack
    split <;> exact ⟨rfl, rfl⟩
  simp only [ofUnits]
  split <;> exact hpack _ _

/-- The integer part of a number without a sign is a number without a sign. -/
theorem of_int_to_int32_unsigned {x : Binary64} (h : x.isNegative = false) :
    (ofInt x.toInt32).IsUnsigned := by
  have hpos : 0 ≤ x.toInt32 := by
    cases x with
    | nan => exact Int.le_refl 0
    | infinite negative =>
        obtain rfl : negative = false := h
        decide
    | finite negative significand shift hcanonical =>
        obtain rfl : negative = false := h
        have hunits : 0 ≤ (finite false significand shift hcanonical).units.tdiv unitsPerOne :=
          Int.tdiv_nonneg (Int.natCast_nonneg _) (Int.natCast_nonneg _)
        simp only [toInt32, toIntClamped]
        omega
  rw [ofInt, ofRatio, decide_eq_false (by omega)]
  exact of_units_unsigned _ _

end Binary64

end Formula
