import Formula.Duration
import Formula.Proofs.Binary64.Monotone

/-!
# The milliseconds of a duration keep the order

Seconds and the rest of a duration become milliseconds apart, and each of the two, their product and
their sum is rounded. Up to `2 ^ 58` milliseconds the result is not less for a longer duration, and
beyond it is not less for one that is longer by two seconds, `length_units_mono`.
-/

namespace Formula.Duration

open Binary64

/-- The units of the milliseconds of so many seconds. -/
def secondUnits (seconds : Nat) : Nat :=
  rounded (rounded (seconds * unitsPerOne) 1 * 1000) 1

/-- The units of the milliseconds of so many nanoseconds below a second. -/
def restUnits (rest : Nat) : Nat :=
  rounded (rest * unitsPerOne) 1000000

/-- The units of the milliseconds of so many nanoseconds. -/
def lengthUnits (nanos : Nat) : Nat :=
  rounded (secondUnits (nanos / nanosPerSecond) + restUnits (nanos % nanosPerSecond)) 1

variable {seconds more rest : Nat}

/-- More seconds are not fewer milliseconds. -/
theorem second_units_mono (h : seconds ≤ more) : secondUnits seconds ≤ secondUnits more :=
  rounded_mono 1 (Nat.mul_le_mul_right 1000 (rounded_mono 1 (Nat.mul_le_mul_right _ h)))

/-- More nanoseconds are not fewer milliseconds. -/
theorem rest_units_mono {rest more : Nat} (h : rest ≤ more) : restUnits rest ≤ restUnits more :=
  rounded_mono 1000000 (Nat.mul_le_mul_right _ h)

/-- Less than a second is less than a thousand milliseconds. -/
theorem rest_units_lt (h : rest < nanosPerSecond) : restUnits rest < 1000 * unitsPerOne := by
  have hone : unitsPerOne = 2 ^ 20 * 2 ^ 1054 := by decide +kernel
  generalize 1054 = j at hone
  have hpos := Nat.two_pow_pos j
  have hle : rest * unitsPerOne ≤ (1000 * 2 ^ 20 - 1) * 2 ^ j * 1000000 := by
    rw [nanosPerSecond] at h
    rw [hone, Nat.mul_left_comm]
    have hrest := Nat.mul_le_mul_right (2 ^ j) (Nat.le_sub_one_of_lt h)
    omega
  have hbelow : restUnits rest ≤ (1000 * 2 ^ 20 - 1) * 2 ^ j :=
    rounded_le (by decide) (by decide) hle
  omega

/-- The milliseconds of the whole seconds are not more than those of all nanoseconds. -/
theorem second_units_le (nanos : Nat) :
    secondUnits (nanos / nanosPerSecond) ≤ lengthUnits nanos := by
  have hwhole : rounded (secondUnits (nanos / nanosPerSecond)) 1 ≤ lengthUnits nanos :=
    rounded_mono 1 (Nat.le_add_right _ _)
  rwa [secondUnits, rounded_rounded] at hwhole

/-- Up to `2 ^ 53` whole seconds are exact and rounded only in milliseconds. -/
theorem second_units_eq (h : seconds ≤ 2 ^ 53) :
    secondUnits seconds = rounded (1000 * seconds * unitsPerOne) 1 := by
  rw [secondUnits, rounded_whole h, Nat.mul_right_comm, Nat.mul_comm seconds]

/-- Up to `2 ^ 56` milliseconds whole seconds are exact. -/
theorem second_units_exact (h : 125 * seconds ≤ 2 ^ 53) :
    secondUnits seconds = 1000 * seconds * unitsPerOne := by
  obtain ⟨j, -, hone⟩ := units_per_one_eq
  have hone : unitsPerOne = 2 ^ j := hone
  have hgrid : 1000 * seconds * unitsPerOne = 125 * seconds * 2 ^ (j + 3) := by
    rw [hone, Nat.pow_add]
    ring
  have hexact := rounded_exact (e := j + 3) Nat.one_pos h
  rw [second_units_eq (by omega), hgrid]
  rwa [Nat.mul_one] at hexact

/-- Where the places of milliseconds are worth 16 or 32, and so many seconds are rounded up, the
milliseconds of a second more are not fewer than those of less than a second more. -/
theorem places_le {k one part c q q' : Nat} (hk : k = 4 ∨ k = 5) (hpos : 0 < one)
    (hpart : part < 1000 * one) (hup : 1000 * seconds * one < c * (2 ^ k * one))
    (hnear : 2 * (c * (2 ^ k * one)) ≤ 2 * (1000 * seconds * one) + 2 ^ k * one)
    (hsum : 2 * (q * (2 ^ k * one)) ≤ 2 * (c * (2 ^ k * one) + part) + 2 ^ k * one)
    (hnext : 2 * (1000 * (seconds + 1) * one) ≤ 2 * (q' * (2 ^ k * one)) + 2 ^ k * one) :
    q ≤ q' := by
  have hup : 1000 * seconds < 2 ^ k * c :=
    Nat.lt_of_mul_lt_mul_right (a := one) (by linarith)
  have hnear : 2 * (2 ^ k * c) ≤ 2000 * seconds + 2 ^ k :=
    Nat.le_of_mul_le_mul_right (by linarith) hpos
  have hsum : 2 * (2 ^ k * q) < 2 * (2 ^ k * c) + 2000 + 2 ^ k :=
    Nat.lt_of_mul_lt_mul_right (a := one) (by linarith)
  have hnext : 2000 * seconds + 2000 ≤ 2 * (2 ^ k * q') + 2 ^ k :=
    Nat.le_of_mul_le_mul_right (by linarith) hpos
  -- A thousand is a multiple of eight, so the seconds were rounded up by 8 or 16.
  rcases hk with rfl | rfl <;> omega

/-- Where the places of milliseconds are worth 16 or 32 the milliseconds of a second more are not
fewer than those of less than a second more. -/
theorem sum_le_next_of_places {k : Nat} (hk : k = 4 ∨ k = 5)
    (hlow : 2 ^ (52 + k) ≤ 1000 * seconds) (hhigh : 1000 * seconds + 1000 + 2 ^ k ≤ 2 ^ (53 + k))
    (hrest : rest < nanosPerSecond) :
    rounded (secondUnits seconds + restUnits rest) 1 ≤ secondUnits (seconds + 1) := by
  have hseconds : seconds + 1 ≤ 2 ^ 53 := by
    rcases hk with rfl | rfl <;> omega
  have hpos := units_per_one_pos
  have hplace := Nat.mul_pos (Nat.two_pow_pos k) hpos
  have hpart := rest_units_lt hrest
  have hplaces {n : Nat} (hfrom : 1000 * seconds * unitsPerOne ≤ n)
      (hto : n < (1000 * seconds + 1000 + 2 ^ k) * unitsPerOne) :
      ∃ c, rounded n 1 = c * (2 ^ k * unitsPerOne) ∧
        2 * n ≤ 2 * (c * (2 ^ k * unitsPerOne)) + 2 ^ k * unitsPerOne ∧
        2 * (c * (2 ^ k * unitsPerOne)) ≤ 2 * n + 2 ^ k * unitsPerOne := by
    obtain ⟨c, hc⟩ := exists_rounded_ones (Nat.le_trans (Nat.mul_le_mul_right _ hlow) hfrom)
    have herror := rounded_error_ones rfl (Nat.lt_of_lt_of_le hto (Nat.mul_le_mul_right _ hhigh))
    rw [hc] at herror
    exact ⟨c, hc, herror⟩
  rw [second_units_eq (Nat.le_of_succ_le hseconds), second_units_eq hseconds]
  obtain ⟨c, hc, -, hnear⟩ := hplaces (n := 1000 * seconds * unitsPerOne) (Nat.le_refl _)
    (by linarith)
  rw [hc]
  generalize unitsPerOne = one at *
  obtain ⟨q', hq', hnext, -⟩ := hplaces (n := 1000 * (seconds + 1) * one) (by linarith)
    (by linarith)
  rcases Nat.lt_or_ge (1000 * seconds * one) (c * (2 ^ k * one)) with hup | hdown
  · obtain ⟨q, hq, -, hsum⟩ := hplaces (n := c * (2 ^ k * one) + restUnits rest) (by omega)
      (by linarith)
    rw [hq, hq']
    exact Nat.mul_le_mul_right _ (places_le hk hpos hpart hup hnear hsum hnext)
  · -- Rounded down, the seconds leave the sum at most a second more.
    refine rounded_mono 1 ?_
    linarith

/-- Up to `2 ^ 58` milliseconds the milliseconds of a second more are not fewer than those of less
than a second more. -/
theorem sum_le_next (hrest : rest < nanosPerSecond)
    (h : seconds * nanosPerSecond + rest ≤ 2 ^ 58 * 1000000) :
    rounded (secondUnits seconds + restUnits rest) 1 ≤ secondUnits (seconds + 1) := by
  have hpart := rest_units_lt hrest
  rw [nanosPerSecond] at h hrest
  rcases Nat.lt_or_ge 72057594037927 seconds with hlarge | hexact
  · -- The places change at `2 ^ 57` and at `2 ^ 58`, within a second each.
    by_cases hchange : seconds = 144115188075855
    · rw [hchange]
      refine Nat.le_trans (rounded_mono 1 (Nat.add_le_add_left hpart.le _)) ?_
      decide +kernel
    · by_cases hlast : seconds = 288230376151711
      · have hle : restUnits rest ≤ restUnits 744000000 := rest_units_mono (by omega)
        rw [hlast]
        refine Nat.le_trans (rounded_mono 1 (Nat.add_le_add_left hle _)) ?_
        decide +kernel
      · rcases Nat.lt_or_ge seconds 144115188075855 with hfew | hmany
        · exact sum_le_next_of_places (.inl rfl) (by omega) (by omega) hrest
        · exact sum_le_next_of_places (.inr rfl) (by omega) (by omega) hrest
  · rw [second_units_exact (by omega)]
    rw [second_units_eq (by omega)]
    refine rounded_mono 1 ?_
    linarith

/-- So many seconds are rounded by at most one. -/
theorem rounded_seconds_error (h : seconds < 2 ^ 54) :
    seconds * unitsPerOne ≤ rounded (seconds * unitsPerOne) 1 + unitsPerOne ∧
      rounded (seconds * unitsPerOne) 1 ≤ seconds * unitsPerOne + unitsPerOne := by
  have herror := rounded_error_ones (e := 1) rfl (Nat.mul_lt_mul_of_pos_right h units_per_one_pos)
  omega

/-- Three seconds more are two more as a double. -/
theorem add_two_le_rounded (h : seconds + 3 < 2 ^ 54) :
    rounded (seconds * unitsPerOne) 1 + 2 * unitsPerOne ≤
      rounded ((seconds + 3) * unitsPerOne) 1 := by
  obtain ⟨-, hle⟩ := rounded_seconds_error (show seconds < 2 ^ 54 by omega)
  obtain ⟨hmore, -⟩ := rounded_seconds_error h
  have hpos := units_per_one_pos
  rcases Nat.lt_or_ge seconds (2 ^ 53) with hexact | hlarge
  · rw [rounded_whole (Nat.le_of_lt hexact)]
    linarith
  · -- Both are even numbers of seconds, so there is no odd distance.
    have heven {n : Nat} (hn : 2 ^ 53 ≤ n) :
        ∃ c, rounded (n * unitsPerOne) 1 = c * (2 ^ 1 * unitsPerOne) :=
      exists_rounded_ones (e := 1) (Nat.mul_le_mul_right unitsPerOne hn)
    obtain ⟨c, hc⟩ := heven hlarge
    obtain ⟨c', hc'⟩ := heven (n := seconds + 3) (by omega)
    rw [hc] at hle ⊢
    rw [hc'] at hmore ⊢
    have hlow : 2 * c ≤ seconds + 1 := Nat.le_of_mul_le_mul_right (by linarith) hpos
    have hhigh : seconds + 2 ≤ 2 * c' := Nat.le_of_mul_le_mul_right (by linarith) hpos
    have hgap : c + 1 ≤ c' := by omega
    have hdistance := Nat.mul_le_mul_right (2 ^ 1 * unitsPerOne) hgap
    linarith

/-- The milliseconds of three seconds more are not fewer than those of less than a second more. -/
theorem sum_le_third (hrest : rest < nanosPerSecond) (h : 1000 * (seconds + 1) < 2 ^ 63) :
    rounded (secondUnits seconds + restUnits rest) 1 ≤ secondUnits (seconds + 3) := by
  have hpart := rest_units_lt hrest
  have hgap := add_two_le_rounded (show seconds + 3 < 2 ^ 54 by omega)
  obtain ⟨-, hsize⟩ := rounded_seconds_error (show seconds < 2 ^ 54 by omega)
  have hlimit := Nat.mul_lt_mul_of_pos_right h units_per_one_pos
  have hproduct : rounded (seconds * unitsPerOne) 1 * 1000 < 2 ^ 63 * unitsPerOne := by linarith
  obtain ⟨-, herror⟩ := rounded_error_ones (b := 63) (e := 10) rfl hproduct
  refine rounded_mono 1 ?_
  rw [← secondUnits] at herror
  linarith

/-- The milliseconds of a longer time are not fewer, if the shorter one has at most `2 ^ 58`
milliseconds, if both have the same whole seconds, or if they are two seconds apart. -/
theorem length_units_mono {m n : Nat} (h : m ≤ n) (hn : n ≤ longest)
    (hclear : m ≤ 2 ^ 58 * 1000000 ∨ m / nanosPerSecond = n / nanosPerSecond ∨
      m + 2 * nanosPerSecond ≤ n) : lengthUnits m ≤ lengthUnits n := by
  have hrest : m % nanosPerSecond < nanosPerSecond := Nat.mod_lt m (by decide)
  have hm := Nat.div_add_mod m nanosPerSecond
  have hn' := Nat.div_add_mod n nanosPerSecond
  have hseconds : m / nanosPerSecond ≤ n / nanosPerSecond := Nat.div_le_div_right h
  rcases Nat.lt_or_ge (n % nanosPerSecond) (m % nanosPerSecond) with hless | hmore
  · -- The longer time has less beyond its whole seconds, so it has more of these.
    refine Nat.le_trans ?_ (second_units_le n)
    rcases hclear with hshort | hsame | hapart
    · refine Nat.le_trans (sum_le_next hrest ?_) (second_units_mono ?_)
      · rwa [Nat.mul_comm, hm]
      · rw [nanosPerSecond] at *
        omega
    · rw [hsame] at hm
      omega
    · rw [longest] at hn
      refine Nat.le_trans (sum_le_third hrest ?_) (second_units_mono ?_)
      · rw [nanosPerSecond] at *
        omega
      · rw [nanosPerSecond] at *
        omega
  · exact rounded_mono 1 (Nat.add_le_add (second_units_mono hseconds) (rest_units_mono hmore))

section

variable (d : Duration)

/-- The whole seconds of a duration and the rest have its sign. -/
theorem seconds_and_rest_eq :
    d.wholeSeconds = d.nanos.sign * (d.nanos.natAbs / nanosPerSecond : Nat) ∧
      d.subsecondNanos = d.nanos.sign * (d.nanos.natAbs % nanosPerSecond : Nat) := by
  have hdiv := sign_mul_tdiv d.nanos d.nanos.natAbs nanosPerSecond
  rw [Int.sign_mul_natAbs] at hdiv
  refine ⟨hdiv, ?_⟩
  rw [subsecondNanos, Int.tmod_def, hdiv, Int.mul_left_comm, Int.natCast_emod, Int.emod_def,
    Int.mul_sub, Int.sign_mul_natAbs]
  rfl

/-- Numbers of up to 66 bits are so few units that their doubles are finite. -/
theorem exists_length_bound : ∃ j ≤ 2097, ∀ n ≤ 2 ^ 66 * unitsPerOne, n < 2 ^ j := by
  obtain ⟨j, hj, hone⟩ := units_per_one_eq
  refine ⟨67 + j, by omega, fun n hn => Nat.lt_of_le_of_lt hn ?_⟩
  rw [hone, Nat.pow_add]
  exact Nat.mul_lt_mul_of_pos_right (by decide) (Nat.two_pow_pos j)

/-- A number of seconds of up to 54 bits has up to 65 bits in milliseconds. -/
theorem second_units_lt (h : seconds < 2 ^ 54) : secondUnits seconds < 2 ^ 65 * unitsPerOne := by
  obtain ⟨-, hsize⟩ := rounded_seconds_error h
  have hlimit := Nat.mul_lt_mul_of_pos_right h units_per_one_pos
  have hproduct : rounded (seconds * unitsPerOne) 1 * 1000 < 2 ^ 65 * unitsPerOne := by linarith
  obtain ⟨-, herror⟩ := rounded_error_ones (b := 65) (e := 12) rfl hproduct
  rw [← secondUnits] at herror
  linarith

/-- The seconds of a duration are so many units of milliseconds, with its sign. -/
theorem units_of_whole_seconds :
    (ofInt d.wholeSeconds * ofNat 1000).isFinite = true ∧
      (ofInt d.wholeSeconds * ofNat 1000).units =
        d.nanos.sign * secondUnits (d.nanos.natAbs / nanosPerSecond) := by
  have hrange := d.inRange
  rw [longest] at hrange
  have hseconds : d.nanos.natAbs / nanosPerSecond < 2 ^ 54 := by
    rw [nanosPerSecond]
    omega
  obtain ⟨j, hj, hbound⟩ := exists_length_bound
  rw [(seconds_and_rest_eq d).1]
  generalize d.nanos.natAbs / nanosPerSecond = seconds at hseconds ⊢
  obtain ⟨hfinite, hunits⟩ := units_of_int_rounded (k := d.nanos.sign * seconds) (j := 54)
    (by decide) (Nat.lt_of_le_of_lt (nat_abs_sign_mul_le _ _) hseconds)
  rw [Int.mul_assoc, ← Int.natCast_mul, rounded_units_sign_mul] at hunits
  refine units_mul_nat hj (by decide) hfinite hunits (hbound _ ?_)
  obtain ⟨-, hsize⟩ := rounded_seconds_error hseconds
  have hlimit := Nat.mul_le_mul_right unitsPerOne hseconds
  rw [Nat.succ_mul] at hlimit
  omega

/-- The rest of a duration is so many units of milliseconds, with its sign. -/
theorem units_of_subsecond_nanos :
    (ofInt d.subsecondNanos / ofNat 1000000).isFinite = true ∧
      (ofInt d.subsecondNanos / ofNat 1000000).units =
        d.nanos.sign * restUnits (d.nanos.natAbs % nanosPerSecond) := by
  have hrest : d.nanos.natAbs % nanosPerSecond < 1000000000 := Nat.mod_lt _ (by decide)
  obtain ⟨j, hj, hbound⟩ := exists_length_bound
  rw [(seconds_and_rest_eq d).2]
  generalize d.nanos.natAbs % nanosPerSecond = rest at hrest ⊢
  obtain ⟨hfinite, hunits⟩ := units_of_sign_mul d.nanos (n := rest) (by omega)
  exact units_div_nat hj (by decide) (by decide) hfinite hunits
    (hbound _ (Nat.mul_le_mul_right _ (by omega)))

/-- The milliseconds of a duration are those of its length, with its sign. -/
theorem units_of_length : d.totalMilliseconds.isFinite = true ∧
    d.totalMilliseconds.units = d.nanos.sign * lengthUnits d.nanos.natAbs := by
  obtain ⟨j, hj, hbound⟩ := exists_length_bound
  have hrange := d.inRange
  rw [longest] at hrange
  have hfew : d.nanos.natAbs / nanosPerSecond < 2 ^ 54 := by
    rw [nanosPerSecond]
    omega
  have hwhole := second_units_lt hfew
  have hpart := rest_units_lt (Nat.mod_lt d.nanos.natAbs (show 0 < nanosPerSecond by decide))
  obtain ⟨hseconds, hsecondUnits⟩ := units_of_whole_seconds d
  obtain ⟨hrest, hrestUnits⟩ := units_of_subsecond_nanos d
  have hsum : (ofInt d.wholeSeconds * ofNat 1000).units +
      (ofInt d.subsecondNanos / ofNat 1000000).units =
        d.nanos.sign * (secondUnits (d.nanos.natAbs / nanosPerSecond) +
          restUnits (d.nanos.natAbs % nanosPerSecond) : Nat) := by
    rw [hsecondUnits, hrestUnits, Int.natCast_add, Int.mul_add]
  have hfits : ((ofInt d.wholeSeconds * ofNat 1000).units +
      (ofInt d.subsecondNanos / ofNat 1000000).units).natAbs < 2 ^ j := by
    rw [hsum]
    exact Nat.lt_of_le_of_lt (nat_abs_sign_mul_le _ _) (hbound _ (by linarith))
  obtain ⟨hfinite, hunits⟩ := units_add hj hseconds hrest hfits
  rw [hsum, rounded_units_sign_mul] at hunits
  exact ⟨hfinite, hunits⟩

end

end Formula.Duration
