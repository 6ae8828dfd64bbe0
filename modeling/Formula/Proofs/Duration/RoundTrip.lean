import Formula.Proofs.Duration.Text
import Formula.Proofs.Binary64.Text

/-!
# The text of a duration reads back

The text of a duration is read as the duration without what is beyond its whole ticks,
`of_text_to_text`; nothing is lost of a duration that was read from a text, since the text form
expresses whole ticks only.
-/

namespace Formula.Duration

open Numeral

/-- The duration without what is beyond its whole ticks, toward zero. -/
def wholeTicks (d : Duration) : Duration where
  nanos := d.nanos.tdiv nanosPerTick * nanosPerTick
  inRange := by
    have hrange := d.inRange
    rw [Int.natAbs_mul, Int.natAbs_tdiv]
    exact Nat.le_trans (Nat.div_mul_le_self _ _) hrange

/-- The number of digits that pad a number. -/
theorem length_padded {width n : Nat} (hwidth : 0 < width) (h : n < 10 ^ width) :
    (padded width n).length = width := by
  have hlength := (Nat.length_toDigits_le_iff (by decide) hwidth).2 h
  simp only [padded, List.length_append, List.length_replicate]
  omega

/-- A number with zeros in front is digits. -/
theorem all_digits_padded (width n : Nat) : AllDigits (padded width n) := by
  intro c hc
  rcases List.mem_append.1 hc with hc | hc
  · rw [List.eq_of_mem_replicate hc]
    rfl
  · exact Binary64.Scientific.all_digits_to_digits n c hc

/-- Zeros in front of a number do not change it. -/
theorem digits_value_padded (width n : Nat) : digitsValue (padded width n) = n := by
  rw [padded, digitsValue, Nat.ofDigitChars_append, Nat.ofDigitChars_replicate_zero, Nat.mul_zero,
    Nat.ofDigitChars_ten_toDigits]

/-- A number with zeros in front up to at least one digit is a run of digits. -/
theorem is_run_padded (width n : Nat) : IsRun Char.isDigit (padded width n) :=
  ⟨all_digits_padded width n, List.append_ne_nil_of_right_ne_nil _ Nat.toDigits_ne_nil⟩

namespace Parts

/-- The parts that seconds and ticks are written as: no day field and no fraction where they are
zero. -/
def ofTicks (negative : Bool) (seconds ticks : Nat) : Parts where
  negative := negative
  days := if 0 < seconds / 86400 then some (Nat.toDigits 10 (seconds / 86400)) else none
  hours := padded 2 (seconds / 3600 % 24)
  minutes := padded 2 (seconds / 60 % 60)
  seconds := some
    { whole := padded 2 (seconds % 60)
      fraction := if 0 < ticks then some (padded 7 ticks) else none }

/-- The parts that ticks of less than a second are written as are of the text form. -/
theorem of_ticks_written (negative : Bool) (seconds : Nat) {ticks : Nat} (hticks : ticks < 10 ^ 7) :
    (ofTicks negative seconds ticks).IsWritten := by
  have hfield {n : Nat} (h : n < 10 ^ 2) :
      IsRun Char.isDigit (padded 2 n) ∧ (padded 2 n).length ≤ 2 :=
    ⟨is_run_padded 2 n, Nat.le_of_eq (length_padded (by decide) h)⟩
  refine ⟨⟨?_, hfield (by omega), hfield (by omega), ?_, ?_⟩, ?_, ?_, ?_⟩
  · intro digits hmem
    obtain ⟨-, hdigits⟩ := Option.ite_none_right_eq_some.1 hmem
    obtain rfl := Option.some.inj hdigits
    exact ⟨Binary64.Scientific.all_digits_to_digits _, Nat.toDigits_ne_nil⟩
  · intro digits hmem
    obtain rfl := Option.some.inj hmem
    exact hfield (by omega)
  · intro digits hmem
    obtain ⟨-, hdigits⟩ := Option.ite_none_right_eq_some.1 hmem
    obtain rfl := Option.some.inj hdigits
    exact ⟨is_run_padded 7 ticks, Nat.le_of_eq (length_padded (by decide) hticks)⟩
  · rw [ofTicks, digits_value_padded]
    omega
  · rw [ofTicks, digits_value_padded]
    omega
  · change digitsValue (padded 2 (seconds % 60)) ≤ 59
    rw [digits_value_padded]
    omega

/-- The parts that seconds and ticks are written as have their length. -/
theorem magnitude_of_ticks (negative : Bool) (seconds : Nat) {ticks : Nat}
    (hticks : ticks < 10 ^ 7) : (ofTicks negative seconds ticks).magnitude =
      seconds * nanosPerSecond + ticks * nanosPerTick := by
  have hdays : fieldNumber (if 0 < seconds / 86400 then some (Nat.toDigits 10 (seconds / 86400))
      else none) = seconds / 86400 := by
    split
    · exact Nat.ofDigitChars_ten_toDigits
    · rw [fieldNumber]
      omega
  have hfraction : ((if 0 < ticks then some (padded 7 ticks) else none).map fractionNanos).getD 0 =
      ticks * nanosPerTick := by
    split
    · rw [Option.map_some, Option.getD_some, fractionNanos, digits_value_padded,
        length_padded (by decide) hticks]
      rfl
    · rename_i hzero
      rw [Option.map_none, Option.getD_none, Nat.eq_zero_of_not_pos hzero, Nat.zero_mul]
  have hwhole : fieldNumber (ofTicks negative seconds ticks).wholeSeconds? = seconds % 60 :=
    digits_value_padded 2 (seconds % 60)
  have hclock : seconds / 86400 * 86400 + seconds / 3600 % 24 * 3600 + seconds / 60 % 60 * 60 +
      seconds % 60 = seconds := by
    omega
  rw [magnitude, hwhole]
  simp only [ofTicks, fraction?, Option.bind_some, hdays, digits_value_padded, hfraction, hclock]

end Parts

variable (d : Duration)

/-- The whole ticks beyond the whole seconds are less than a second. -/
theorem ticks_lt : d.nanos.natAbs % nanosPerSecond / nanosPerTick < 10 ^ 7 := by
  rw [nanosPerSecond, nanosPerTick]
  omega

/-- The text of a duration is the parts of its seconds and ticks side by side. -/
theorem to_chars_eq : d.toChars =
    (Parts.ofTicks (decide (d.nanos < 0)) (d.nanos.natAbs / nanosPerSecond)
      (d.nanos.natAbs % nanosPerSecond / nanosPerTick)).toChars := by
  have hdays (n : Nat) : daysChars (if 0 < n then some (Nat.toDigits 10 n) else none) =
      if 0 < n then Nat.toDigits 10 n ++ ['.'] else [] := by
    split <;> rfl
  have hfraction (n : Nat) : fractionChars (if 0 < n then some (padded 7 n) else none) =
      if 0 < n then '.' :: padded 7 n else [] := by
    split <;> rfl
  simp only [toChars, Parts.toChars, Parts.ofTicks, secondsChars, hdays, hfraction,
    decide_eq_true_eq, List.append_assoc, List.cons_append, List.nil_append]

/-- The whole ticks of a duration are those of its length, with its sign. -/
theorem nanos_whole_ticks : d.wholeTicks.nanos =
    if d.nanos < 0 then -((d.nanos.natAbs / nanosPerTick * nanosPerTick : Nat) : Int)
    else (d.nanos.natAbs / nanosPerTick * nanosPerTick : Nat) := by
  change d.nanos.tdiv nanosPerTick * nanosPerTick = _
  generalize d.nanos = n
  rcases Int.lt_or_le n 0 with hneg | hpos
  · obtain ⟨m, rfl⟩ : ∃ m : Nat, n = -m := ⟨n.natAbs, by omega⟩
    rw [if_pos hneg, Int.neg_tdiv, Int.natAbs_neg, Int.natAbs_natCast, Int.natCast_mul,
      Int.ofNat_tdiv, Int.neg_mul]
  · obtain ⟨m, rfl⟩ : ∃ m : Nat, n = m := ⟨n.natAbs, by omega⟩
    rw [if_neg (Int.not_lt.2 hpos), Int.natAbs_natCast, Int.natCast_mul, Int.ofNat_tdiv]

/-- The text of a duration is read as its whole ticks. -/
theorem of_chars_to_chars : ofChars? d.toChars = some d.wholeTicks := by
  have hrange := d.inRange
  have hlength : (Parts.ofTicks (decide (d.nanos < 0)) (d.nanos.natAbs / nanosPerSecond)
      (d.nanos.natAbs % nanosPerSecond / nanosPerTick)).magnitude =
      d.nanos.natAbs / nanosPerTick * nanosPerTick := by
    rw [Parts.magnitude_of_ticks _ _ d.ticks_lt, nanosPerSecond, nanosPerTick]
    omega
  refine of_chars_eq_some_iff.2 ⟨_, d.to_chars_eq, Parts.of_ticks_written _ _ d.ticks_lt, ?_, ?_⟩
  · rw [hlength]
    exact Nat.le_trans (Nat.div_mul_le_self _ _) hrange
  · rw [hlength, nanos_whole_ticks]
    simp [Parts.ofTicks]

/-- What the text form can express is whole ticks. -/
theorem Parts.tick_dvd_magnitude {p : Parts} (h : p.IsWritten) : nanosPerTick ∣ p.magnitude := by
  rw [magnitude, ← fraction_number fun digits hmem => (h.spelled.fraction digits hmem).2]
  exact Nat.dvd_add (Nat.dvd_mul_left_of_dvd (by decide) _) (Nat.dvd_mul_left _ _)

/-- A duration that was read is whole ticks. -/
theorem whole_ticks_of_read {text : List Char} {d : Duration} (h : ofChars? text = some d) :
    d.wholeTicks = d := by
  obtain ⟨p, -, hwritten, -, hd⟩ := of_chars_eq_some_iff.1 h
  have hticks : (nanosPerTick : Int) ∣ p.magnitude :=
    Int.natCast_dvd_natCast.2 (Parts.tick_dvd_magnitude hwritten)
  have hd : (nanosPerTick : Int) ∣ d.nanos := by
    rw [hd]
    split
    · exact Int.dvd_neg.2 hticks
    · exact hticks
  exact eq_of_nanos (Int.tdiv_mul_cancel hd)

/-- The text of a duration is read as the duration up to its whole ticks, at either end of the range
too; so the text of a duration that was read is read as the same duration. -/
theorem of_text_to_text (d : Duration) :
    ofText? d.toText = some d.wholeTicks ∧
      ∀ text, ofText? text = some d → ofText? d.toText = some d := by
  have hread : ofText? d.toText = some d.wholeTicks := by
    rw [ofText?, toText, String.toList_ofList]
    exact d.of_chars_to_chars
  refine ⟨hread, fun text h => ?_⟩
  rw [hread, whole_ticks_of_read h]

/-- The longest negative duration, read from a text with fewer digits than its own. -/
theorem of_text_to_text_longest :
    ofText? "-106751991167.7:12:55.807" = some ⟨-longest, by decide⟩ ∧
      ofText? (toText ⟨-longest, by decide⟩) = some ⟨-longest, by decide⟩ := by
  have hread : ofText? "-106751991167.7:12:55.807" = some ⟨-longest, by decide⟩ := by
    decide +kernel
  exact ⟨hread, (of_text_to_text _).2 _ hread⟩

end Formula.Duration
