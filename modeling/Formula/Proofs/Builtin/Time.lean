import Formula.Binding.Object
import Formula.Proofs.Binary64.Monotone
import Formula.Proofs.Duration.Text

/-!
# Two ways to add milliseconds

`AddMilliseconds` refuses an amount of `2 ^ 63` microseconds or more, while `Add` turns it into the
longest duration of microseconds that fits in 64 bits. Up to this amount both move a date-time
alike, and beyond it they differ wherever so long a move stays in the range of date-times,
`add_agrees_iff`.
-/

namespace Formula

namespace Binary64

variable {x y : Binary64}

/-- Whether the size of a double is less than `2 ^ 63`. -/
def FitsWord (x : Binary64) : Prop :=
  x.isFinite = true ∧ x.units.natAbs < 2 ^ 63 * unitsPerOne

/-- Rounding gives the sign that it is given. -/
theorem is_negative_of_units (negative : Bool) (n d : Nat) :
    (ofUnits negative n d).isNegative = negative := by
  have hpack (significand shift : Nat) :
      (pack negative significand shift).isNegative = negative := by
    unfold pack
    split <;> rfl
  simp only [ofUnits]
  split <;> exact hpack _ _

/-- The units of a finite double have the size of its significand, shifted. -/
theorem nat_abs_units (negative : Bool) {significand shift : Nat}
    (canonical : Canonical significand shift) :
    (finite negative significand shift canonical).units.natAbs = significand * 2 ^ shift := by
  cases negative with
  | false => rfl
  | true => exact Int.natAbs_neg _

/-- A finite double is the double of the size of its units and its sign. -/
theorem of_units_nat_abs (h : x.isFinite = true) :
    ofUnits x.isNegative x.units.natAbs 1 = x := by
  cases x with
  | nan | infinite => exact absurd h Bool.false_ne_true
  | finite negative significand shift canonical =>
      rw [nat_abs_units]
      exact of_units_canonical negative canonical

/-- A finite double times one is itself. -/
theorem mul_one_of_finite (h : x.isFinite = true) : x * 1 = x := by
  obtain ⟨hfinite, hunits⟩ : (ofNat 1).IsExactly 1 :=
    is_exactly_of_nat (k := 1) (Nat.one_le_two_pow)
  have hsign : (ofNat 1).isNegative = false := by
    rw [ofNat, ofRatio]
    exact is_negative_of_units false _ 1
  have hlowest := of_units_mul_right x.isNegative x.units.natAbs 1 units_per_one_pos
  rw [Nat.one_mul, of_units_nat_abs h] at hlowest
  change x * ofNat 1 = x
  rw [mul_eq_of_units h hfinite, hunits, hsign, Bool.bne_false, Int.one_mul, Int.natAbs_mul,
    Int.natAbs_natCast, hlowest]

/-- The product of two finite doubles has the product of their signs. -/
theorem is_negative_mul (hx : x.isFinite = true) (hy : y.isFinite = true) :
    (x * y).isNegative = (x.isNegative != y.isNegative) := by
  rw [mul_eq_of_units hx hy, is_negative_of_units]

/-- The units of a finite double are their size with the sign of the double. -/
theorem units_eq_signed (h : x.isFinite = true) :
    x.units = if x.isNegative then -(x.units.natAbs : Int) else (x.units.natAbs : Int) := by
  cases x with
  | nan | infinite => exact absurd h Bool.false_ne_true
  | finite negative significand shift canonical =>
      rw [nat_abs_units]
      rfl

/-- The absolute value has the size of the units. -/
theorem units_abs (h : x.isFinite = true) :
    x.abs.isFinite = true ∧ x.abs.units = x.units.natAbs := by
  cases x with
  | nan | infinite => exact absurd h Bool.false_ne_true
  | finite negative significand shift canonical =>
      rw [nat_abs_units]
      exact ⟨rfl, rfl⟩

/-- The greatest 64-bit integer is rounded up to `2 ^ 63`. -/
theorem of_int_greatest_word : ofInt 9223372036854775807 = ofInt (1 * 2 ^ 63) := by
  decide +kernel

/-- The guard of scaled amounts admits what fits in 64 bits. -/
theorem word_guard_iff (x : Binary64) :
    (x.isFinite && x.abs.order (.ofInt 9223372036854775807) == some .lt) = true ↔
      x.FitsWord := by
  obtain ⟨hfinite, hunits⟩ := is_exactly_of_int_shifted (k := 1) (i := 63) (by decide) (by decide)
  rw [Bool.and_eq_true, beq_iff_eq, FitsWord, of_int_greatest_word]
  refine and_congr_right fun hx => ?_
  obtain ⟨habs, hsize⟩ := units_abs hx
  have hbound : (1 : Int) * 2 ^ 63 * unitsPerOne = (2 ^ 63 * unitsPerOne : Nat) := by
    rw [Int.one_mul, Int.natCast_mul]
    rfl
  rw [order_of_finite habs hfinite, Option.some.injEq, Std.compare_eq_lt, hsize, hunits, hbound,
    Int.ofNat_lt]

/-- A double that fits in 64 bits is cut to its integer part, which fits as well. -/
theorem FitsWord.to_int64 (h : x.FitsWord) :
    x.toInt64 = x.units.tdiv unitsPerOne ∧ (x.units.tdiv unitsPerOne).natAbs < 2 ^ 63 := by
  obtain ⟨hfinite, hsize⟩ := h
  have hquotient : (x.units.tdiv unitsPerOne).natAbs < 2 ^ 63 := by
    rw [Int.natAbs_tdiv, Int.natAbs_natCast]
    exact Nat.div_lt_of_lt_mul (by rwa [Nat.mul_comm])
  rw [toInt64, to_int_clamped_eq hfinite]
  exact ⟨by omega, hquotient⟩

/-- A number that does not fit in 64 bits is cut to the end of the range on its side. -/
theorem to_int64_of_not_fits (hnan : x.isNaN = false) (h : ¬x.FitsWord) :
    x.toInt64 = if x.isNegative then -9223372036854775808 else 9223372036854775807 := by
  rcases Bool.eq_false_or_eq_true x.isFinite with hfinite | hfinite
  · have hlarge : 2 ^ 63 * unitsPerOne ≤ x.units.natAbs :=
      Nat.le_of_not_lt fun hlt => h ⟨hfinite, hlt⟩
    have hquotient : 2 ^ 63 ≤ x.units.natAbs / unitsPerOne :=
      (Nat.le_div_iff_mul_le units_per_one_pos).2 hlarge
    have hcut (k : Nat) : Int.tdiv k unitsPerOne = (k / unitsPerOne : Nat) := rfl
    rw [toInt64, to_int_clamped_eq hfinite, units_eq_signed hfinite]
    split
    · rw [Int.neg_tdiv, hcut]
      omega
    · rw [hcut]
      omega
  · cases x with
    | nan => exact absurd hnan.symm Bool.false_ne_true
    | infinite negative => rfl
    | finite => exact absurd hfinite.symm Bool.false_ne_true

end Binary64

namespace Builtin

/-- The longest duration of microseconds that fits in 64 bits, backward or forward. -/
def farthest (backward : Bool) : Duration :=
  if backward then ⟨-9223372036854775808 * 1000, by decide⟩
  else ⟨9223372036854775807 * 1000, by decide⟩

variable {H : Type} [HostObject H] (t : DateTime) {n : Binary64} (hn : n.isFinite = true)

include hn

/-- A number of milliseconds in microseconds has its sign and is a number. -/
theorem microseconds_sign :
    (n * 1000).isNaN = false ∧ (n * 1000).isNegative = n.isNegative := by
  obtain ⟨hfinite, -⟩ := Binary64.is_exactly_of_nat (k := 1000) (by decide)
  have hsign : (Binary64.ofNat 1000).isNegative = false := by
    rw [Binary64.ofNat, Binary64.ofRatio]
    exact Binary64.is_negative_of_units false _ 1
  refine ⟨Binary64.is_nan_mul hn hfinite, ?_⟩
  change (n * Binary64.ofNat 1000).isNegative = _
  rw [Binary64.is_negative_mul hn hfinite, hsign, Bool.bne_false]

/-- What fits in 64 bits is added as the duration of its whole microseconds by both. -/
theorem add_of_fits (h : (n * 1000).FitsWord) :
    ∃ d : Duration, d.nanos = (n * 1000).units.tdiv Binary64.unitsPerOne * 1000 ∧
      method? (.dateTime t : Value H) "Add" [.number n] = some (Value.shiftDateTime t d) ∧
      method? (.dateTime t : Value H) "AddMilliseconds" [.number n] =
        some (Value.shiftDateTime t d) := by
  obtain ⟨hcut, hsize⟩ := h.to_int64
  have hlength : ((n * 1000).toInt64 * 1000).natAbs ≤ Duration.longest := by
    rw [hcut, Duration.longest]
    omega
  have hduration : Duration.ofMicroseconds? (n * 1000).toInt64 = some ⟨_, hlength⟩ :=
    Duration.of_nanos_eq_some_iff.2 ⟨hlength, rfl⟩
  refine ⟨⟨_, hlength⟩, congrArg (· * 1000) hcut, ?_, ?_⟩
  · have hview : (Value.number n : Value H).toDuration? = some ⟨_, hlength⟩ :=
      (if_pos hn).trans hduration
    change some (addDuration t (.number n)) = _
    rw [addDuration, hview]
  · change some (addScaled t n 1) = _
    rw [addScaled, Binary64.mul_one_of_finite hn]
    simp only [if_pos ((Binary64.word_guard_iff _).2 h), hduration]

/-- What does not fit in 64 bits is added as the longest duration by `Add` and refused by
`AddMilliseconds`. -/
theorem add_of_not_fits (h : ¬(n * 1000).FitsWord) :
    method? (.dateTime t : Value H) "Add" [.number n] =
        some (Value.shiftDateTime t (farthest n.isNegative)) ∧
      method? (.dateTime t : Value H) "AddMilliseconds" [.number n] =
        some (.error (.overflow .add)) := by
  obtain ⟨hnan, hsign⟩ := microseconds_sign hn
  have hcut := Binary64.to_int64_of_not_fits hnan h
  rw [hsign] at hcut
  have hduration : Duration.ofMicroseconds? (n * 1000).toInt64 = some (farthest n.isNegative) := by
    rw [hcut]
    cases n.isNegative with
    | false => rfl
    | true => rfl
  constructor
  · have hview : (Value.number n : Value H).toDuration? = some (farthest n.isNegative) :=
      (if_pos hn).trans hduration
    change some (addDuration t (.number n)) = _
    rw [addDuration, hview]
  · change some (addScaled t n 1) = _
    rw [addScaled, Binary64.mul_one_of_finite hn]
    simp only [if_neg (mt (Binary64.word_guard_iff _).1 h)]

/-- `Add` and `AddMilliseconds` move a date-time alike by a number of milliseconds that has less
than `2 ^ 63` microseconds. With more, `AddMilliseconds` overflows, but `Add` moves the date-time by
the longest duration of microseconds in 64 bits, so that they agree only where this overflows. -/
theorem add_agrees_iff :
    ((n * 1000).FitsWord → ∃ d : Duration,
      d.nanos = (n * 1000).units.tdiv Binary64.unitsPerOne * 1000 ∧
      method? (.dateTime t : Value H) "Add" [.number n] = some (Value.shiftDateTime t d) ∧
      method? (.dateTime t : Value H) "AddMilliseconds" [.number n] =
        some (Value.shiftDateTime t d)) ∧
    (¬(n * 1000).FitsWord →
      method? (.dateTime t : Value H) "Add" [.number n] =
        some (Value.shiftDateTime t (farthest n.isNegative)) ∧
      method? (.dateTime t : Value H) "AddMilliseconds" [.number n] =
        some (.error (.overflow .add))) ∧
    (method? (.dateTime t : Value H) "Add" [.number n] =
        method? (.dateTime t) "AddMilliseconds" [.number n] ↔
      (n * 1000).FitsWord ∨ t.add? (farthest n.isNegative) = none) := by
  refine ⟨add_of_fits t hn, add_of_not_fits t hn, ?_⟩
  by_cases h : (n * 1000).FitsWord
  · obtain ⟨d, -, hadd, hscaled⟩ := add_of_fits (H := H) t hn h
    exact iff_of_true (hadd.trans hscaled.symm) (.inl h)
  · obtain ⟨hadd, hscaled⟩ := add_of_not_fits (H := H) t hn h
    rw [hadd, hscaled, or_iff_right h, Option.some.injEq, Value.shiftDateTime]
    cases t.add? (farthest n.isNegative) with
    | none => simp [Value.inRange]
    | some u => simp [Value.inRange]

omit hn

/-- Added to 1970, the number `2 ^ 60` overflows both ways. -/
theorem add_agrees_far_from_range :
    let n : Binary64 := .ofInt (2 ^ 60)
    let t : DateTime := ⟨0, 0, by decide, by decide, by decide⟩
    n.isFinite = true ∧ ¬(n * 1000).FitsWord ∧
      method? (.dateTime t : Value Empty) "Add" [.number n] =
        method? (.dateTime t) "AddMilliseconds" [.number n] := by
  intro n t
  have hn : n.isFinite = true := by decide +kernel
  refine ⟨hn, ?_, (add_agrees_iff t hn).2.2.2 (.inr (by decide +kernel))⟩
  rw [← Binary64.word_guard_iff]
  decide +kernel

/-- Added to a date-time long before 1970, the number `2 ^ 60` moves it by the longest duration or
overflows, depending on the method. -/
theorem add_differs_before_range :
    let n : Binary64 := .ofInt (2 ^ 60)
    let t : DateTime := ⟨-6000000000000, 0, by decide, by decide, by decide⟩
    let u : DateTime := ⟨3223372036854, 775807000, by decide, by decide, by decide⟩
    n.isFinite = true ∧
      method? (.dateTime t : Value Empty) "Add" [.number n] = some (.ok (.dateTime u)) ∧
      method? (.dateTime t : Value Empty) "AddMilliseconds" [.number n] =
        some (.error (.overflow .add)) := by
  intro n t u
  have hn : n.isFinite = true := by decide +kernel
  have hlarge : ¬(n * 1000).FitsWord := by
    rw [← Binary64.word_guard_iff]
    decide +kernel
  have hmoved : t.add? (farthest n.isNegative) = some u := by decide +kernel
  obtain ⟨hadd, hscaled⟩ := add_of_not_fits (H := Empty) t hn hlarge
  rw [Value.shiftDateTime, hmoved] at hadd
  exact ⟨hn, hadd, hscaled⟩

end Builtin

end Formula
