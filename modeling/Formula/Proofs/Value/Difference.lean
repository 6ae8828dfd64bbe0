import Formula.Proofs.DateTime.Arithmetic
import Formula.Proofs.Duration.Length
import Formula.Proofs.Value.Kinds

/-!
# Comparison and difference of times

Times are compared by doubles of milliseconds, and their difference is exact in nanoseconds. The two
contradict each other in two places only: a leap second counts into the second after it when it is
compared, but not in a difference, and the doubles of long durations next to each other are rounded
past each other, `comparison_contradicts`.
-/

namespace Formula

open Binary64

namespace DateTime

/-- Whether `b` is within a leap second and `a` within the second after it, on the same day. -/
def FollowsLeap (a b : DateTime) : Prop :=
  b.isLeapSecond = true ∧ a.seconds = b.seconds + 1 ∧ a.seconds % 86400 ≠ 0

/-- The number of a date-time is its microseconds, rounded twice. -/
theorem units_of_epoch (t : DateTime) : t.epochMilliseconds.isFinite = true ∧
    t.epochMilliseconds.units =
      roundedUnits (roundedUnits (t.epochMicroseconds * unitsPerOne) 1) 1000 := by
  have hrange : t.epochMicroseconds.natAbs < 2 ^ 63 := by
    obtain ⟨hlow, hhigh⟩ := t.inRange
    have hnanos := t.nanos_lt
    simp only [epochMicroseconds, earliest, latest] at *
    omega
  rw [epochMilliseconds]
  generalize t.epochMicroseconds = micros at hrange ⊢
  obtain ⟨hfinite, hunits⟩ := units_of_int_rounded (by decide) hrange
  have hsign : micros * unitsPerOne = micros.sign * (micros.natAbs * unitsPerOne : Nat) := by
    rw [Int.natCast_mul, ← Int.mul_assoc, Int.sign_mul_natAbs]
  rw [hsign, rounded_units_sign_mul] at hunits ⊢
  rw [rounded_units_sign_mul]
  have hlimit := Nat.mul_lt_mul_of_pos_right hrange units_per_one_pos
  obtain ⟨-, herror⟩ := rounded_error_ones (b := 63) (e := 10) rfl hlimit
  obtain ⟨j, hj, hbound⟩ := Duration.exists_length_bound
  exact units_div_nat hj (by decide) (by decide) hfinite hunits (hbound _ (by linarith))

variable {a b : DateTime}

/-- A date-time whose stored nanoseconds are not more has no greater number. -/
theorem order_ne_gt (h : a.storedNanos ≤ b.storedNanos) :
    a.epochMilliseconds.order b.epochMilliseconds ≠ some .gt := by
  obtain ⟨ha, haUnits⟩ := units_of_epoch a
  obtain ⟨hb, hbUnits⟩ := units_of_epoch b
  have hmicros (t : DateTime) : t.epochMicroseconds = t.storedNanos / 1000 := by
    rw [epochMicroseconds, storedNanos, nanosPerSecond]
    omega
  have hle : a.epochMicroseconds ≤ b.epochMicroseconds := by
    rw [hmicros, hmicros]
    omega
  have hunits : a.epochMilliseconds.units ≤ b.epochMilliseconds.units := by
    rw [haUnits, hbUnits]
    refine rounded_units_mono 1000 (rounded_units_mono 1 ?_)
    exact Int.mul_le_mul_of_nonneg_right hle (Int.natCast_nonneg _)
  rw [order_of_finite ha hb, ne_eq, Option.some.injEq, Std.compare_eq_gt]
  omega

/-- The difference from the other side is the opposite one. -/
theorem nanos_since_swap (a b : DateTime) : (b.since a).nanos = -(a.since b).nanos := by
  have hcorrection : leapCorrection b a = -leapCorrection a b := by
    unfold leapCorrection
    split_ifs <;> omega
  simp only [since, hcorrection, nanosPerSecond]
  omega

/-- The difference to a leap second on the same day is positive. -/
theorem FollowsLeap.nanos_since_pos (h : a.FollowsLeap b) : 0 < (a.since b).nanos := by
  obtain ⟨hleap, hseconds, hday⟩ := h
  have hlater : b.secondOfDay < a.secondOfDay := by
    rw [secondOfDay, secondOfDay]
    omega
  have hcorrection : leapCorrection a b = 1 := if_pos ⟨hlater, hleap⟩
  have hnanos := b.nanos_lt
  simp only [since, hcorrection, storedNanos, nanosPerSecond]
  omega

/-- A difference is positive against the order of the stored nanoseconds only after a leap second on
the same day. -/
theorem follows_leap_of_nanos_since_pos (hpos : 0 < (a.since b).nanos)
    (hlt : a.storedNanos < b.storedNanos) : a.FollowsLeap b := by
  have hnanos := a.nanos_lt
  have hnanos' := b.nanos_lt
  have hminute := b.leap_at_minute_end
  simp only [since, leapCorrection] at hpos
  split at hpos
  · rename_i hlater
    obtain ⟨hlater, hleap⟩ := hlater
    have hlarge : nanosPerSecond ≤ b.nanos := of_decide_eq_true hleap
    simp only [storedNanos, secondOfDay, nanosPerSecond] at *
    exact ⟨hleap, by omega, by omega⟩
  · split at hpos
    · simp only [nanosPerSecond] at hpos
      omega
    · omega

end DateTime

namespace Duration

/-- Whether rounding may pass two durations: they are longer than `2 ^ 58` milliseconds, less than two
seconds apart, and their whole seconds differ. -/
def MayPass (a b : Duration) : Prop :=
  2 ^ 58 * 1000000 < a.nanos.natAbs ∧ 2 ^ 58 * 1000000 < b.nanos.natAbs ∧
    (a.nanos - b.nanos).natAbs < 2 * nanosPerSecond ∧ a.wholeSeconds ≠ b.wholeSeconds

/-- Rounding may pass two durations from both sides. -/
theorem MayPass.symm {a b : Duration} (h : a.MayPass b) : b.MayPass a := by
  obtain ⟨hlong, hlong', hnear, hseconds⟩ := h
  exact ⟨hlong', hlong, by omega, hseconds.symm⟩

/-- Nothing is no milliseconds. -/
theorem length_units_zero : lengthUnits 0 = 0 := by
  simp [lengthUnits, secondUnits, restUnits, rounded_zero]

variable {a b : Duration}

/-- Of two durations with one sign the longer one has no fewer milliseconds, unless rounding may pass
the two. -/
theorem length_units_le (hsign : 0 ≤ a.nanos ∧ 0 ≤ b.nanos ∨ a.nanos ≤ 0 ∧ b.nanos ≤ 0)
    (h : a.nanos.natAbs ≤ b.nanos.natAbs) (hclear : ¬a.MayPass b) :
    lengthUnits a.nanos.natAbs ≤ lengthUnits b.nanos.natAbs := by
  refine length_units_mono h b.inRange ?_
  by_contra hpass
  obtain ⟨hlong, hseconds, hnear⟩ := not_or.1 hpass |>.imp_right not_or.1
  have hwhole (d : Duration) : d.wholeSeconds.natAbs = d.nanos.natAbs / nanosPerSecond :=
    Int.natAbs_tdiv _ _
  refine hclear ⟨by omega, by omega, by omega, fun hsame => hseconds ?_⟩
  rw [← hwhole, ← hwhole, hsame]

/-- A duration that is not longer has no greater number, unless rounding may pass the two. -/
theorem order_ne_gt (h : a.nanos ≤ b.nanos) (hclear : ¬a.MayPass b) :
    a.totalMilliseconds.order b.totalMilliseconds ≠ some .gt := by
  obtain ⟨ha, haUnits⟩ := units_of_length a
  obtain ⟨hb, hbUnits⟩ := units_of_length b
  have hpos {d : Duration} (hd : 0 ≤ d.nanos) :
      d.nanos.sign * lengthUnits d.nanos.natAbs = (lengthUnits d.nanos.natAbs : Int) := by
    rcases Int.lt_or_eq_of_le hd with hlt | heq
    · rw [Int.sign_eq_one_of_pos hlt, Int.one_mul]
    · rw [← heq, Int.natAbs_zero, length_units_zero]
      rfl
  have hneg {d : Duration} (hd : d.nanos < 0) :
      d.nanos.sign * lengthUnits d.nanos.natAbs = -(lengthUnits d.nanos.natAbs : Int) := by
    rw [Int.sign_eq_neg_one_of_neg hd, Int.neg_one_mul]
  rw [order_of_finite ha hb, ne_eq, Option.some.injEq, Std.compare_eq_gt, haUnits, hbUnits]
  rcases lt_or_ge a.nanos 0 with hanegative | hapositive
  · rw [hneg hanegative]
    rcases lt_or_ge b.nanos 0 with hbnegative | hbpositive
    · have hle := length_units_le (.inr ⟨by omega, by omega⟩) (by omega)
        (mt MayPass.symm hclear)
      rw [hneg hbnegative]
      omega
    · rw [hpos hbpositive]
      omega
  · have hle := length_units_le (.inl ⟨hapositive, by omega⟩) (by omega) hclear
    rw [hpos hapositive, hpos (Int.le_trans hapositive h)]
    omega

end Duration

namespace Value

variable {H : Type} [HostObject H]

/-- Whether the difference of two values is a duration whose sign contradicts their comparison. -/
def ComparisonContradicts (x y : Value H) : Prop :=
  ∃ d : Duration, binary .subtract x y = .ok (.duration d) ∧
    (0 < d.nanos ∧ x.compare? y = some .lt ∨ d.nanos < 0 ∧ x.compare? y = some .gt)

/-- Date-times compare by their milliseconds. -/
theorem compare_date_times (a b : DateTime) :
    (dateTime a : Value H).compare? (.dateTime b) =
      a.epochMilliseconds.order b.epochMilliseconds :=
  compare_of_numeric rfl rfl

/-- Durations compare by their milliseconds. -/
theorem compare_durations (a b : Duration) :
    (duration a : Value H).compare? (.duration b) =
      a.totalMilliseconds.order b.totalMilliseconds :=
  compare_of_numeric rfl rfl

/-- The difference of date-times is a duration. -/
theorem subtract_date_times (a b : DateTime) :
    binary .subtract (.dateTime a : Value H) (.dateTime b) = .ok (.duration (a.since b)) :=
  rfl

/-- Greater is less from the other side. -/
theorem order_eq_gt_iff (x y : Binary64) : x.order y = some .gt ↔ y.order x = some .lt := by
  rw [order_swap x y]
  cases x.order y with
  | none => simp
  | some o => cases o <;> simp

/-- Date-times compare against their difference exactly if one is within a leap second, and the other
after it, on the same day, but before it as a double. -/
theorem contradicts_date_times_iff (a b : DateTime) :
    ComparisonContradicts (.dateTime a : Value H) (.dateTime b) ↔
      a.FollowsLeap b ∧ (dateTime a : Value H).compare? (.dateTime b) = some .lt ∨
        b.FollowsLeap a ∧ (dateTime a : Value H).compare? (.dateTime b) = some .gt := by
  have hfollows {a b : DateTime} (hpos : 0 < (a.since b).nanos)
      (hless : a.epochMilliseconds.order b.epochMilliseconds = some .lt) : a.FollowsLeap b := by
    refine DateTime.follows_leap_of_nanos_since_pos hpos (Int.lt_of_not_ge fun hle => ?_)
    exact DateTime.order_ne_gt hle ((order_eq_gt_iff _ _).2 hless)
  rw [ComparisonContradicts, compare_date_times, subtract_date_times]
  constructor
  · rintro ⟨d, hd, hsign⟩
    obtain rfl := Value.duration.inj (Except.ok.inj hd)
    rcases hsign with ⟨hpos, hless⟩ | ⟨hneg, hgreater⟩
    · exact .inl ⟨hfollows hpos hless, hless⟩
    · refine .inr ⟨hfollows ?_ ((order_eq_gt_iff _ _).1 hgreater), hgreater⟩
      rw [DateTime.nanos_since_swap]
      exact Int.neg_pos_of_neg hneg
  · rintro (⟨hleap, hless⟩ | ⟨hleap, hgreater⟩)
    · exact ⟨a.since b, rfl, .inl ⟨hleap.nanos_since_pos, hless⟩⟩
    · refine ⟨a.since b, rfl, .inr ⟨?_, hgreater⟩⟩
      have hpos := hleap.nanos_since_pos
      rw [DateTime.nanos_since_swap] at hpos
      exact Int.neg_of_neg_pos hpos

/-- Durations compare against their difference only where rounding may pass them. -/
theorem may_pass_of_contradicts {a b : Duration}
    (h : ComparisonContradicts (.duration a : Value H) (.duration b)) : a.MayPass b := by
  obtain ⟨d, hd, hsign⟩ := h
  change inRange .subtract .duration (a.sub? b) = _ at hd
  obtain ⟨e, he, hvalue⟩ := in_range_eq_ok_iff.1 hd
  obtain rfl := Value.duration.inj hvalue
  obtain ⟨-, hnanos⟩ := Duration.of_nanos_eq_some_iff.1 he
  rw [compare_durations, hnanos] at hsign
  by_contra hclear
  rcases hsign with ⟨hpos, hless⟩ | ⟨hneg, hgreater⟩
  · exact Duration.order_ne_gt (by omega) (mt Duration.MayPass.symm hclear)
      ((order_eq_gt_iff _ _).2 hless)
  · exact Duration.order_ne_gt (by omega) hclear hgreater

/-- The comparison of date-times contradicts their difference exactly if one of them is within a leap
second, the other within the second after it on the same day, and their doubles are still apart. That
of durations contradicts it only if both are longer than `2 ^ 58` milliseconds, have different whole
seconds and are less than two seconds apart. -/
theorem comparison_contradicts :
    (∀ a b : DateTime, ComparisonContradicts (.dateTime a : Value H) (.dateTime b) ↔
      a.FollowsLeap b ∧ (dateTime a : Value H).compare? (.dateTime b) = some .lt ∨
        b.FollowsLeap a ∧ (dateTime a : Value H).compare? (.dateTime b) = some .gt) ∧
    (∀ a b : Duration, ComparisonContradicts (.duration a : Value H) (.duration b) →
      a.MayPass b) :=
  ⟨contradicts_date_times_iff, fun _ _ => may_pass_of_contradicts⟩

/-- The comparison of durations of `2 ^ 58` milliseconds and of a nanosecond more does not contradict
their difference, nor that of a date-time within a leap second at the end of a day and the next. -/
theorem comparison_agrees_up_to_bound :
    let a : Duration := ⟨2 ^ 58 * 1000000, by decide⟩
    let b : Duration := ⟨2 ^ 58 * 1000000 + 1, by decide⟩
    let t : DateTime := ⟨86399, 1500000000, by decide, by decide, by decide⟩
    let u : DateTime := ⟨86400, 200000000, by decide, by decide, by decide⟩
    ¬ComparisonContradicts (.duration b : Value Empty) (.duration a) ∧
      ¬ComparisonContradicts (.dateTime u : Value Empty) (.dateTime t) := by
  intro a b t u
  obtain ⟨hinstants, hspans⟩ := comparison_contradicts (H := Empty)
  refine ⟨fun h => absurd (hspans b a h) ?_, fun h => ?_⟩
  · rintro ⟨-, hlong, -⟩
    exact absurd hlong (by decide)
  · rcases (hinstants u t).1 h with ⟨⟨-, -, hday⟩, -⟩ | ⟨⟨hleap, -⟩, -⟩
    · exact absurd rfl hday
    · exact absurd hleap (by decide)

/-- A time of day after a leap second compares as before it, 0.7 seconds from it; and a duration of
`288230376151714` seconds compares as shorter than one that is a millisecond shorter. -/
theorem comparison_contradicts_after_leap_second :
    let t : DateTime := ⟨43259, 1500000000, by decide, by decide, by decide⟩
    let u : DateTime := ⟨43260, 200000000, by decide, by decide, by decide⟩
    let a : Duration := ⟨288230376151713999000000, by decide⟩
    let b : Duration := ⟨288230376151714000000000, by decide⟩
    ComparisonContradicts (.dateTime u : Value Empty) (.dateTime t) ∧
      ComparisonContradicts (.duration b : Value Empty) (.duration a) := by
  refine ⟨⟨⟨700000000, by decide⟩, rfl, .inl ⟨by decide, ?_⟩⟩,
    ⟨⟨1000000, by decide⟩, rfl, .inl ⟨by decide, ?_⟩⟩⟩
  · rw [compare_date_times]
    decide +kernel
  · rw [compare_durations]
    decide +kernel

end Value

end Formula
