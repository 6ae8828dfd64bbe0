import Formula.Proofs.Binary64.Rounding
import Formula.Proofs.DateTime.Arithmetic

/-!
# Microseconds in milliseconds

A time of a whole number of microseconds is a double of milliseconds, and back. Both ways round, and
the way back drops what is beyond a whole number, so a microsecond can be lost or won, but no more.
Nothing is lost of a whole number of eighths of a millisecond, nor where the milliseconds are ten
binary places shorter than the microseconds, since that makes up for the factor of a thousand.
-/

namespace Formula

namespace Milliseconds

open Binary64

/-- The units of the milliseconds of so many microseconds, divided at once. -/
def quotient (micros : Nat) : Nat :=
  rounded (micros * unitsPerOne) 1000

/-- The units of the milliseconds of so many microseconds, those beyond the whole seconds divided
apart. -/
def parted (micros : Nat) : Nat :=
  rounded (micros / 1000000 * 1000 * unitsPerOne + quotient (micros % 1000000)) 1

/-- The whole microseconds of so many units of milliseconds. -/
def back (units : Nat) : Nat :=
  rounded (units * 1000) 1 / unitsPerOne

/-- Whether so many units of milliseconds are so many microseconds up to `error * 2 ^ -63` of
one. -/
def IsNear (units micros error : Nat) : Prop :=
  2 ^ 63 * (micros * unitsPerOne) ≤ 2 ^ 63 * (units * 1000) + error * unitsPerOne ∧
    2 ^ 63 * (units * 1000) ≤ 2 ^ 63 * (micros * unitsPerOne) + error * unitsPerOne

/-- Whether the milliseconds of so many microseconds are ten binary places shorter. -/
def IsTenShorter (micros : Nat) : Prop :=
  512 * micros < 1000 * 2 ^ micros.log2

instance (micros : Nat) : Decidable (IsTenShorter micros) :=
  inferInstanceAs (Decidable (_ < _))

/-- Whether so many microseconds come back from milliseconds that are divided at once: they are
eighths of milliseconds, or their milliseconds are ten places shorter. -/
def Returns (micros : Nat) : Prop :=
  125 ∣ micros ∨ IsTenShorter micros

instance (micros : Nat) : Decidable (Returns micros) :=
  inferInstanceAs (Decidable (_ ∨ _))

/-- Whether so many microseconds come back also from milliseconds that are divided in two parts:
there is only one, or the error of the second is small beside the first. -/
def ReturnsParted (micros : Nat) : Prop :=
  125 ∣ micros ∨ (IsTenShorter micros ∧ (micros < 1000000 ∨ 2 ^ 25 ≤ micros))

instance (micros : Nat) : Decidable (ReturnsParted micros) :=
  inferInstanceAs (Decidable (_ ∨ _))

variable {micros units error k : Nat}

/-- The units in one are a power of two with some places to spare. -/
theorem units_per_one_eq_mul : ∃ j, unitsPerOne = 2 ^ 62 * 2 ^ j ∧
    ∀ k, 2 ^ 62 * 2 ^ (k + j) = 2 ^ k * unitsPerOne := by
  have hone : unitsPerOne = 2 ^ 62 * 2 ^ 1012 := by decide +kernel
  generalize 1012 = j at hone
  refine ⟨j, hone, fun k => ?_⟩
  rw [hone, Nat.pow_add, Nat.mul_left_comm]

/-- Numbers of up to 54 bits are so few units that their doubles are finite. -/
theorem exists_units_bound : ∃ j ≤ 2097, ∀ n < 2 ^ 54, n * unitsPerOne < 2 ^ j := by
  obtain ⟨j, hj, hone⟩ := units_per_one_eq
  refine ⟨54 + j, by omega, fun n hn => ?_⟩
  rw [hone, Nat.pow_add]
  exact Nat.mul_lt_mul_of_pos_right hn (Nat.two_pow_pos j)

/-- Microseconds are near the milliseconds that are divided at once. -/
theorem is_near_quotient (h : 512 * micros < 1000 * 2 ^ k) :
    IsNear (quotient micros) micros (1000 * 2 ^ k) := by
  obtain ⟨j, -, hscale⟩ := units_per_one_eq_mul
  have hsize : micros * unitsPerOne < 2 ^ (53 + (k + j)) * 1000 := by
    have hbound := Nat.mul_lt_mul_of_pos_right h units_per_one_pos
    rw [Nat.mul_assoc, Nat.mul_assoc, ← hscale] at hbound
    rw [Nat.pow_add 2 53]
    omega
  have herror := rounded_error (by decide) hsize
  rw [IsNear, quotient, Nat.mul_assoc 1000, ← hscale]
  omega

/-- Milliseconds are not more than their microseconds. -/
theorem quotient_le (h : micros ≤ 2 ^ 53) : quotient micros ≤ micros * unitsPerOne := by
  obtain ⟨j, -, hone⟩ := units_per_one_eq
  have hone : unitsPerOne = 2 ^ j := hone
  rw [quotient, hone]
  exact rounded_le (by decide) h (Nat.le_mul_of_pos_right _ (by decide))

/-- Microseconds are near the milliseconds that are divided in two parts. -/
theorem is_near_parted (h : 512 * micros < 1000 * 2 ^ k) :
    IsNear (parted micros) micros (1000 * (2 ^ k + 2 ^ 19)) := by
  obtain ⟨j, -, hscale⟩ := units_per_one_eq_mul
  -- The part below a second is below ten bits of milliseconds.
  have hsecond : 512 * (micros % 1000000) < 1000 * 2 ^ 19 := by omega
  obtain ⟨hrest, hrest'⟩ := is_near_quotient hsecond
  have hparts : micros * unitsPerOne = 1000000 * (micros / 1000000 * unitsPerOne) +
      micros % 1000000 * unitsPerOne := by
    rw [← Nat.mul_assoc, ← Nat.add_mul, Nat.div_add_mod]
  have hwhole : micros / 1000000 * 1000 * unitsPerOne = 1000 * (micros / 1000000 * unitsPerOne) := by
    rw [Nat.mul_comm (_ / _), Nat.mul_assoc]
  have hsize : micros / 1000000 * 1000 * unitsPerOne + quotient (micros % 1000000) <
      2 ^ (53 + (k + j)) * 1 := by
    have hbound := Nat.mul_le_mul_right unitsPerOne (Nat.succ_le_of_lt h)
    have hpos := units_per_one_pos
    rw [Nat.add_one_mul, Nat.mul_assoc, Nat.mul_assoc, ← hscale] at hbound
    rw [Nat.pow_add 2 53]
    omega
  have herror := rounded_error (by decide) hsize
  rw [IsNear, parted, Nat.mul_assoc 1000, Nat.add_mul, ← hscale]
  omega

/-- Milliseconds less than a microsecond away are between the microseconds around. -/
theorem bounds_of_near (herror : error < 2 ^ 63) (h : IsNear units micros error) :
    (micros - 1) * unitsPerOne ≤ units * 1000 ∧ units * 1000 ≤ (micros + 1) * unitsPerOne := by
  have hbound := Nat.mul_lt_mul_of_pos_right herror units_per_one_pos
  obtain ⟨hbelow, habove⟩ := h
  rw [Nat.sub_one_mul, Nat.add_one_mul]
  omega

/-- From milliseconds less than a microsecond away at most one microsecond is lost or won. -/
theorem back_of_near (hmicros : micros < 2 ^ 53) (herror : error < 2 ^ 63)
    (h : IsNear units micros error) : micros ≤ back units + 1 ∧ back units ≤ micros + 1 := by
  obtain ⟨j, -, hone⟩ := units_per_one_eq
  have hone : unitsPerOne = 2 ^ j := hone
  obtain ⟨hlow, hhigh⟩ := bounds_of_near herror h
  -- The microseconds around are doubles, so rounding does not pass them.
  have hfrom : (micros - 1) * unitsPerOne ≤ rounded (units * 1000) 1 := by
    rw [hone] at hlow ⊢
    exact le_rounded Nat.one_pos (by omega) ((Nat.mul_one _).trans_le hlow)
  have hto : rounded (units * 1000) 1 ≤ (micros + 1) * unitsPerOne := by
    rw [hone] at hhigh ⊢
    exact rounded_le Nat.one_pos (by omega) (hhigh.trans_eq (Nat.mul_one _).symm)
  rw [back]
  constructor
  · have hfloor := (Nat.le_div_iff_mul_le units_per_one_pos).2 hfrom
    omega
  · rw [Nat.mul_comm _ unitsPerOne] at hto
    exact Nat.div_le_of_le_mul hto

/-- From milliseconds within half of the last place of some microseconds these come back, unless they
are a power of two, below which the places are finer. -/
theorem back_eq_of_near (hk : k ≤ 52) (hlow : 2 ^ k < micros) (hhigh : micros < 2 ^ (k + 1))
    (herror : error < 1024 * 2 ^ k) (h : IsNear units micros error) : back units = micros := by
  obtain ⟨j, hone, -⟩ := units_per_one_eq_mul
  obtain ⟨hbelow, habove⟩ := h
  -- The microseconds are a number with 53 significant bits.
  have hgrid : micros * unitsPerOne = micros * 2 ^ (52 - k) * 2 ^ (k + j + 10) := by
    have hsum : 52 - k + (k + j + 10) = 62 + j := by omega
    rw [hone, ← Nat.pow_add, Nat.mul_assoc, ← Nat.pow_add, hsum]
  have hscale : 2 ^ 52 * 2 ^ (k + j + 10) = 2 ^ k * unitsPerOne := by
    have hsum : 52 + (k + j + 10) = k + (62 + j) := by omega
    rw [hone, ← Nat.pow_add, ← Nat.pow_add, ← Nat.pow_add, hsum]
  have hbits : 2 ^ 52 < micros * 2 ^ (52 - k) := by
    calc 2 ^ 52 = 2 ^ k * 2 ^ (52 - k) := by rw [← Nat.pow_add, Nat.add_sub_cancel' hk]
      _ < micros * 2 ^ (52 - k) := Nat.mul_lt_mul_of_pos_right hlow (Nat.two_pow_pos _)
  have hbits' : micros * 2 ^ (52 - k) < 2 ^ 53 := by
    calc micros * 2 ^ (52 - k)
        < 2 ^ (k + 1) * 2 ^ (52 - k) := Nat.mul_lt_mul_of_pos_right hhigh (Nat.two_pow_pos _)
      _ = 2 ^ 53 := by rw [← Nat.pow_add, Nat.add_right_comm, Nat.add_sub_cancel' hk]
  have hplace := Nat.mul_lt_mul_of_pos_right herror units_per_one_pos
  rw [Nat.mul_assoc 1024, ← hscale] at hplace
  rw [hgrid] at hbelow habove
  have hround : rounded (units * 1000) 1 = micros * unitsPerOne := by
    rw [hgrid]
    exact rounded_near Nat.one_pos hbits hbits' (by omega) (by omega)
  rw [back, hround, Nat.mul_div_cancel _ units_per_one_pos]

/-- Eighths of milliseconds are turned back into their microseconds. -/
theorem back_of_eighths (hmicros : 125 * k ≤ 2 ^ 53) (h : 8 * units = k * unitsPerOne) :
    back units = 125 * k := by
  have hexact : units * 1000 = 125 * k * unitsPerOne := by
    rw [Nat.mul_assoc]
    omega
  rw [back, hexact, rounded_whole hmicros, Nat.mul_div_cancel _ units_per_one_pos]

/-- Eighths of milliseconds are exact. -/
theorem quotient_of_eighths (hk : k ≤ 2 ^ 53) : 8 * quotient (125 * k) = k * unitsPerOne := by
  obtain ⟨j, hone, -⟩ := units_per_one_eq_mul
  have heighth : unitsPerOne = 2 ^ (59 + j) * 8 := by
    rw [hone, Nat.pow_add]
    omega
  have hproduct : 125 * k * unitsPerOne = k * 2 ^ (59 + j) * 1000 := by
    rw [heighth]
    ring
  rw [quotient, hproduct, rounded_exact (by decide) hk, heighth]
  ring

/-- Eighths of milliseconds are exact also in two parts. -/
theorem parted_of_eighths (hk : k ≤ 2 ^ 53) : 8 * parted (125 * k) = k * unitsPerOne := by
  obtain ⟨j, hone, -⟩ := units_per_one_eq_mul
  have heighth : unitsPerOne = 2 ^ (59 + j) * 8 := by
    rw [hone, Nat.pow_add]
    omega
  have hwhole : 125 * k / 1000000 = k / 8000 := by omega
  have hrest : 125 * k % 1000000 = 125 * (k % 8000) := by omega
  have hquotient := quotient_of_eighths (k := k % 8000) (by omega)
  have hsum : k / 8000 * 1000 * unitsPerOne + quotient (125 * (k % 8000)) =
      k * 2 ^ (59 + j) * 1 := by
    have hparts : 8 * (k / 8000 * 1000 * unitsPerOne) + k % 8000 * unitsPerOne =
        k * unitsPerOne := by
      have hdiv : 8 * (k / 8000 * 1000) + k % 8000 = k := by omega
      rw [← Nat.mul_assoc, ← Nat.add_mul, hdiv]
    have heighths : k * unitsPerOne = 8 * (k * 2 ^ (59 + j)) := by
      rw [heighth]
      ring
    generalize unitsPerOne = one at *
    omega
  rw [parted, hwhole, hrest, hsum, rounded_exact Nat.one_pos hk, heighth]
  ring

/-- Below a second there is nothing to be divided apart. -/
theorem parted_eq_quotient (h : micros < 1000000) : parted micros = quotient micros := by
  have hnone : micros / 1000000 * 1000 * unitsPerOne = 0 := by
    rw [Nat.div_eq_of_lt h, Nat.zero_mul]
  rw [parted, hnone, Nat.mod_eq_of_lt h, Nat.zero_add]
  exact rounded_rounded _ _

/-- Powers of two come back from their milliseconds. -/
theorem back_two_pow : ∀ k < 53, back (quotient (2 ^ k)) = 2 ^ k ∧
    (25 ≤ k → back (parted (2 ^ k)) = 2 ^ k) := by
  decide +kernel

/-- From milliseconds within half of the last place of some microseconds these come back. -/
theorem back_of_shorter (hmicros : micros < 2 ^ 53) (hne : micros ≠ 0)
    (herror : error < 1024 * 2 ^ micros.log2) (h : IsNear units micros error)
    (hpower : micros = 2 ^ micros.log2 → back units = micros) : back units = micros := by
  have hbits := (Nat.log2_lt hne).2 hmicros
  by_cases heq : micros = 2 ^ micros.log2
  · exact hpower heq
  · have hlow := Nat.lt_of_le_of_ne (Nat.log2_self_le hne) (Ne.symm heq)
    exact back_eq_of_near (Nat.le_of_lt_succ hbits) hlow Nat.lt_log2_self herror h

/-- Microseconds that are divided at once come back. -/
theorem back_quotient (hmicros : micros < 2 ^ 53) (h : Returns micros) :
    back (quotient micros) = micros := by
  by_cases heighths : 125 ∣ micros
  · obtain ⟨k, rfl⟩ := heighths
    exact back_of_eighths (Nat.le_of_lt hmicros) (quotient_of_eighths (by omega))
  · have hne : micros ≠ 0 := by
      rintro rfl
      exact heighths (Nat.dvd_zero 125)
    have hpos := Nat.two_pow_pos micros.log2
    refine back_of_shorter hmicros hne (by omega) (is_near_quotient (h.resolve_left heighths)) ?_
    intro hpower
    have hback := (back_two_pow _ ((Nat.log2_lt hne).2 hmicros)).1
    rwa [← hpower] at hback

/-- Microseconds that are divided in two parts come back. -/
theorem back_parted (hmicros : micros < 2 ^ 53) (h : ReturnsParted micros) :
    back (parted micros) = micros := by
  by_cases heighths : 125 ∣ micros
  · obtain ⟨k, rfl⟩ := heighths
    exact back_of_eighths (Nat.le_of_lt hmicros) (parted_of_eighths (by omega))
  · obtain ⟨hshorter, hsmall | hlarge⟩ := h.resolve_left heighths
    · rw [parted_eq_quotient hsmall]
      exact back_quotient hmicros (.inr hshorter)
    · have hne : micros ≠ 0 := by omega
      have hlog := (Nat.le_log2 hne).2 hlarge
      have hplace := Nat.pow_le_pow_right (n := 2) (by decide) hlog
      refine back_of_shorter hmicros hne (by omega) (is_near_parted hshorter) ?_
      intro hpower
      have hback := (back_two_pow _ ((Nat.log2_lt hne).2 hmicros)).2 hlog
      rwa [← hpower] at hback

section

variable {x : Binary64} {m : Int}

/-- A double of milliseconds less than a microsecond away from some microseconds is read as whole
microseconds at most one away. -/
theorem whole_microseconds_of_near (hm : m.natAbs < 2 ^ 53) (hx : x.isFinite = true)
    (hunits : x.units = m.sign * units) (herror : error < 2 ^ 63)
    (h : IsNear units m.natAbs error) :
    Value.wholeMicroseconds x = m.sign * back units ∧ (m.sign * back units - m).natAbs ≤ 1 := by
  obtain ⟨j, hj, hbound⟩ := exists_units_bound
  have hsize : units * 1000 < 2 ^ j :=
    Nat.lt_of_le_of_lt (bounds_of_near herror h).2 (hbound _ (by omega))
  obtain ⟨hfinite, hproduct⟩ := units_mul_nat (c := 1000) hj (by decide) hx hunits hsize
  obtain ⟨hlow, hhigh⟩ := back_of_near hm herror h
  have hback : (m.sign * back units - m).natAbs ≤ 1 := by
    rcases Int.lt_trichotomy m 0 with hneg | rfl | hpos
    · rw [Int.sign_eq_neg_one_of_neg hneg]
      omega
    · simp
    · rw [Int.sign_eq_one_of_pos hpos]
      omega
  refine ⟨?_, hback⟩
  change toIntClamped _ _ (x * ofNat 1000) = _
  rw [to_int_clamped_eq hfinite, hproduct, sign_mul_tdiv]
  change max _ (min _ (m.sign * (back units : Int))) = _
  omega

/-- The number of a date-time of so many microseconds is their milliseconds, divided at once. -/
theorem units_epoch_milliseconds {t : DateTime} (hm : m.natAbs < 2 ^ 53)
    (ht : t.isLeapSecond = false) (hnanos : t.storedNanos = m * 1000) :
    t.epochMilliseconds.isFinite = true ∧
      t.epochMilliseconds.units = m.sign * quotient m.natAbs := by
  have hmicros : t.epochMicroseconds = m := by
    have hsecond := DateTime.nanos_lt_of_not_leap ht
    rw [DateTime.storedNanos] at hnanos
    rw [DateTime.epochMicroseconds]
    rw [nanosPerSecond] at *
    omega
  obtain ⟨j, hj, hbound⟩ := exists_units_bound
  obtain ⟨hfinite, hunits⟩ := units_of_sign_mul m (Nat.le_of_lt hm)
  rw [Int.sign_mul_natAbs] at hfinite hunits
  rw [DateTime.epochMilliseconds, hmicros]
  exact units_div_nat (c := 1000) hj (by decide) (by decide) hfinite hunits (hbound _ (by omega))

/-- The seconds of so many microseconds and the nanoseconds beyond them. -/
theorem seconds_and_rest {d : Duration} (hnanos : d.nanos = m * 1000) :
    d.wholeSeconds = m.sign * (m.natAbs / 1000000 : Nat) ∧
      d.subsecondNanos = m.sign * (m.natAbs % 1000000 * 1000 : Nat) := by
  have hsize : d.nanos = m.sign * (m.natAbs * 1000 : Nat) := by
    rw [hnanos, Int.natCast_mul, ← Int.mul_assoc, Int.sign_mul_natAbs]
    rfl
  have hseconds : d.nanos.tdiv nanosPerSecond = m.sign * (m.natAbs / 1000000 : Nat) := by
    have hdiv : m.natAbs * 1000 / nanosPerSecond = m.natAbs / 1000000 := by
      rw [nanosPerSecond]
      omega
    rw [hsize, sign_mul_tdiv, hdiv]
  refine ⟨hseconds, ?_⟩
  rw [Duration.subsecondNanos, Int.tmod_def, hseconds, hsize, nanosPerSecond]
  rcases Int.lt_trichotomy m 0 with hneg | rfl | hpos
  · rw [Int.sign_eq_neg_one_of_neg hneg]
    omega
  · simp
  · rw [Int.sign_eq_one_of_pos hpos]
    omega

/-- Whole seconds are exact in milliseconds. -/
theorem units_of_seconds (m : Int) {seconds : Nat} (h : seconds * 1000 ≤ 2 ^ 53) :
    (ofInt (m.sign * seconds) * ofNat 1000).isFinite = true ∧
      (ofInt (m.sign * seconds) * ofNat 1000).units =
        m.sign * (seconds * 1000 * unitsPerOne : Nat) := by
  obtain ⟨j, hj, hbound⟩ := exists_units_bound
  obtain ⟨hfinite, hunits⟩ := units_of_sign_mul m (show seconds ≤ 2 ^ 53 by omega)
  have hswap := Nat.mul_right_comm seconds unitsPerOne 1000
  have hproduct := units_mul_nat (c := 1000) hj (by decide) hfinite hunits
    (hswap.trans_lt (hbound _ (by omega)))
  rwa [hswap, rounded_whole h] at hproduct

/-- The rest of a second is divided by a million nanoseconds. -/
theorem units_of_rest (m : Int) {rest : Nat} (h : rest * 1000 ≤ 2 ^ 53) :
    (ofInt (m.sign * (rest * 1000 : Nat)) / ofNat 1000000).isFinite = true ∧
      (ofInt (m.sign * (rest * 1000 : Nat)) / ofNat 1000000).units =
        m.sign * quotient rest := by
  obtain ⟨j, hj, hbound⟩ := exists_units_bound
  obtain ⟨hfinite, hunits⟩ := units_of_sign_mul m h
  have hterms := rounded_mul_right (rest * unitsPerOne) 1000 (e := 1000) (by decide)
  have hquotient := units_div_nat (c := 1000000) hj (by decide) (by decide) hfinite hunits
    (hbound _ (by omega))
  rwa [Nat.mul_right_comm, hterms] at hquotient

/-- The number of a duration of so many microseconds is their milliseconds, divided in two parts. -/
theorem units_total_milliseconds {d : Duration} (hm : m.natAbs < 2 ^ 53)
    (hnanos : d.nanos = m * 1000) : d.totalMilliseconds.isFinite = true ∧
      d.totalMilliseconds.units = m.sign * parted m.natAbs := by
  obtain ⟨j, hj, hbound⟩ := exists_units_bound
  obtain ⟨hseconds, hrest⟩ := seconds_and_rest hnanos
  have hwhole := units_of_seconds m (show m.natAbs / 1000000 * 1000 ≤ 2 ^ 53 by omega)
  have hpart := units_of_rest m (show m.natAbs % 1000000 * 1000 ≤ 2 ^ 53 by omega)
  rw [← hseconds] at hwhole
  rw [← hrest] at hpart
  have hsum : (ofInt d.wholeSeconds * ofNat 1000).units +
      (ofInt d.subsecondNanos / ofNat 1000000).units = m.sign *
        (m.natAbs / 1000000 * 1000 * unitsPerOne + quotient (m.natAbs % 1000000) : Nat) := by
    rw [hwhole.2, hpart.2, Int.natCast_add, Int.mul_add]
  have hsize : m.natAbs / 1000000 * 1000 * unitsPerOne + quotient (m.natAbs % 1000000) <
      2 ^ j := by
    have hle : quotient (m.natAbs % 1000000) ≤ m.natAbs % 1000000 * unitsPerOne :=
      quotient_le (by omega)
    have hlt := hbound (m.natAbs / 1000000 * 1000 + m.natAbs % 1000000) (by omega)
    rw [Nat.add_mul] at hlt
    exact Nat.lt_of_le_of_lt (Nat.add_le_add_left hle _) hlt
  have hfits : ((ofInt d.wholeSeconds * ofNat 1000).units +
      (ofInt d.subsecondNanos / ofNat 1000000).units).natAbs < 2 ^ j := by
    rw [hsum]
    exact Nat.lt_of_le_of_lt (nat_abs_sign_mul_le m _) hsize
  obtain ⟨hfinite, hunits⟩ := units_add hj hwhole.1 hpart.1 hfits
  rw [hsum, rounded_units_sign_mul] at hunits
  exact ⟨hfinite, hunits⟩

end

end Milliseconds

open Milliseconds

/-- Away from leap seconds a time of less than `2 ^ 53` microseconds is read back from its number of
milliseconds up to one microsecond, and is read back itself if the milliseconds are exact or short
enough. -/
theorem Value.microseconds_from_milliseconds {H : Type} {m : Int} (hm : m.natAbs < 2 ^ 53) :
    (∀ d : Duration, d.nanos = m * 1000 → ∃ (k : Int) (e : Duration),
      (number (toNumber (.duration d : Value H)) : Value H).toDuration? = some e ∧
        e.nanos = k * 1000 ∧ (k - m).natAbs ≤ 1 ∧ (ReturnsParted m.natAbs → e = d)) ∧
    (∀ t : DateTime, t.isLeapSecond = false → t.storedNanos = m * 1000 →
      ∃ (k : Int) (u : DateTime),
        (number (toNumber (.dateTime t : Value H)) : Value H).toDateTime? = some u ∧
          u.isLeapSecond = false ∧ u.storedNanos = k * 1000 ∧ (k - m).natAbs ≤ 1 ∧
            (Returns m.natAbs → u = t)) := by
  constructor
  · intro d hnanos
    obtain ⟨hfinite, hunits⟩ := units_total_milliseconds hm hnanos
    obtain ⟨hmicros, hnear⟩ := whole_microseconds_of_near hm hfinite hunits (by decide)
      (is_near_parted (k := 53) (by omega))
    generalize hk : m.sign * (back (parted m.natAbs) : Int) = k at hmicros hnear
    have hrange : (k * 1000).natAbs ≤ Duration.longest := by
      rw [Duration.longest]
      omega
    refine ⟨k, ⟨k * 1000, hrange⟩, ?_, rfl, hnear, fun hreturns => ?_⟩
    · rw [toNumber, toDuration?, if_pos hfinite, hmicros]
      exact Duration.of_nanos_eq_some_iff.2 ⟨hrange, rfl⟩
    · rw [back_parted hm hreturns, Int.sign_mul_natAbs] at hk
      exact Duration.eq_of_nanos (by rw [hnanos, hk])
  · intro t hleap hnanos
    obtain ⟨hfinite, hunits⟩ := units_epoch_milliseconds hm hleap hnanos
    obtain ⟨hmicros, hnear⟩ := whole_microseconds_of_near hm hfinite hunits (by decide)
      (is_near_quotient (k := 53) (by omega))
    generalize hk : m.sign * (back (quotient m.natAbs) : Int) = k at hmicros hnear
    have hrange : DateTime.InRange (k * 1000) := by
      rw [DateTime.in_range_iff, nanosPerSecond, DateTime.earliest, DateTime.latest]
      omega
    obtain ⟨u, hu, huleap, hunanos⟩ := DateTime.of_nanos_of_in_range hrange
    refine ⟨k, u, ?_, huleap, hunanos, hnear, fun hreturns => ?_⟩
    · rw [toNumber, toDateTime?, if_pos hfinite, hmicros]
      exact hu
    · rw [back_quotient hm hreturns, Int.sign_mul_natAbs] at hk
      exact DateTime.eq_of_stored_nanos huleap hleap (by rw [hunanos, hnanos, hk])

/-- A duration of half a minute back, and the date-time that long before 1970, whose milliseconds are
ten places shorter than the microseconds, but no whole number of eighths. -/
theorem Value.microseconds_from_milliseconds_half_minute :
    let d : Duration := ⟨-33554433000, by decide⟩
    let t : DateTime := ⟨-34, 445567000, by decide, by decide, by decide⟩
    ReturnsParted 33554433 ∧ t.isLeapSecond = false ∧
      (number (toNumber (.duration d : Value Empty)) : Value Empty).toDuration? = some d ∧
        (number (toNumber (.dateTime t : Value Empty)) : Value Empty).toDateTime? = some t := by
  intro d t
  obtain ⟨hspan, hinstant⟩ :=
    Value.microseconds_from_milliseconds (H := Empty) (m := -33554433) (by decide)
  obtain ⟨-, e, he, -, -, hsame⟩ := hspan d rfl
  obtain ⟨-, u, hu, -, -, -, hsame'⟩ := hinstant t rfl rfl
  refine ⟨by decide, rfl, ?_, ?_⟩
  · rw [he, hsame (by decide)]
  · rw [hu, hsame' (by decide)]

/-- A time of 1005 microseconds comes back a microsecond shorter, since a thousand times the double
next to 1.005 is rounded below 1005; and beyond `2 ^ 43` milliseconds durations share a number. -/
theorem Value.microsecond_lost_in_milliseconds :
    let d : Duration := ⟨1005000, by decide⟩
    let t : DateTime := ⟨0, 1005000, by decide, by decide, by decide⟩
    let long : Duration := ⟨8796093022208001000, by decide⟩
    let longer : Duration := ⟨8796093022208002000, by decide⟩
    let back := (number (toNumber (.duration d : Value Empty)) : Value Empty).toDuration?
    let back' := (number (toNumber (.dateTime t : Value Empty)) : Value Empty).toDateTime?
    (back = some ⟨1004000, by decide⟩ ∧ back ≠ some d) ∧
      (back' = some ⟨0, 1004000, by decide, by decide, by decide⟩ ∧ back' ≠ some t) ∧
      (long ≠ longer ∧
        toNumber (.duration long : Value Empty) = toNumber (.duration longer : Value Empty)) := by
  decide +kernel

end Formula
