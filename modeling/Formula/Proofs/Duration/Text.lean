import Formula.Proofs.Duration.Parts
import Formula.Proofs.Numeral

/-!
# Reading a duration's text

A text is read as a duration exactly if it is `[-][D.]h:m[:s[.f]]` in digits of ASCII with a time of
day behind the days, and its length is in range, `of_text_iff_written`. That is so because the parts
of a text are told apart exactly where they stand side by side, each field is read as its number,
and a sum of fields, none of which is negative, is in range as soon as the last sum is.
-/

namespace Formula.Duration

open Numeral

variable {digits : List Char}

/-- The digits of ASCII are decimal digits. -/
theorem is_decimal_digit_of_is_digit {c : Char} (h : c.isDigit = true) :
    isDecimalDigit c = true := by
  obtain ⟨hlow, hhigh⟩ := Char.isDigit_iff_toNat.1 h
  refine List.any_eq_true.2 ⟨(0x30, 0x39), List.mem_cons_self, ?_⟩
  rw [Bool.and_eq_true, decide_eq_true_eq, decide_eq_true_eq]
  exact ⟨hlow, hhigh⟩

/-- A field has a number if it holds digits of ASCII and the number has 63 bits. -/
theorem field_value_eq_some_iff {n : Nat} :
    fieldValue? digits = some n ↔ AllDigits digits ∧ digitsValue digits = n ∧ n < 2 ^ 63 := by
  rw [fieldValue?]
  constructor
  · intro h
    split at h
    · rename_i hfield
      obtain rfl := Option.some.inj h
      exact ⟨List.all_eq_true.1 hfield.1, rfl, hfield.2⟩
    · exact nomatch h
  · rintro ⟨hdigits, rfl, hbits⟩
    exact if_pos ⟨List.all_eq_true.2 hdigits, hbits⟩

/-- The number of an optional field; a missing one counts as zero. -/
def fieldNumber : Option (List Char) → Nat
  | some digits => digitsValue digits
  | none => 0

/-- A field of seven digits is below ten million. -/
theorem field_number_lt {field : Option (List Char)}
    (h : ∀ digits ∈ field, AllDigits digits ∧ digits.length = 7) : fieldNumber field < 10 ^ 7 := by
  cases field with
  | none => exact Nat.pow_pos (by decide)
  | some digits =>
      obtain ⟨hdigits, hlength⟩ := h digits rfl
      exact hlength ▸ digits_value_lt hdigits

/-- A missing field has a number, and one that is there as fields have. -/
theorem optional_value_eq_some_iff {field : Option (List Char)} {n : Nat} :
    optionalValue? field = some n ↔
      (∀ digits ∈ field, AllDigits digits) ∧ fieldNumber field = n ∧ n < 2 ^ 63 := by
  cases field with
  | none =>
      constructor
      · intro h
        obtain rfl := Option.some.inj h
        exact ⟨nofun, rfl, by decide⟩
      · rintro ⟨-, rfl, -⟩
        rfl
  | some digits =>
      rw [optionalValue?, field_value_eq_some_iff]
      simp [fieldNumber]

/-- A duration is its number of nanoseconds. -/
theorem eq_of_nanos {d e : Duration} (h : d.nanos = e.nanos) : d = e := by
  cases d
  cases e
  cases h
  rfl

/-- A number of nanoseconds is a duration if it is not too long. -/
theorem of_nanos_eq_some_iff {nanos : Int} {d : Duration} :
    ofNanos? nanos = some d ↔ nanos.natAbs ≤ longest ∧ d.nanos = nanos := by
  rw [ofNanos?]
  constructor
  · intro h
    split at h
    · rename_i hrange
      obtain rfl := Option.some.inj h
      exact ⟨hrange, rfl⟩
    · exact nomatch h
  · rintro ⟨hrange, rfl⟩
    exact dif_pos hrange

/-- Nanoseconds that are added to others can be taken together, since none are negative. -/
theorem of_nanos_bind_add (a b : Nat) :
    ((ofNanos? a).bind fun d => d.addNanos? b) = ofNanos? (a + b : Nat) := by
  ext d
  simp only [Option.bind_eq_some_iff, addNanos?, add?, bind, of_nanos_eq_some_iff]
  constructor
  · rintro ⟨first, ⟨-, hfirst⟩, second, ⟨-, hsecond⟩, hrange, hd⟩
    rw [hfirst, hsecond] at hrange hd
    exact ⟨hrange, hd⟩
  · rintro ⟨hrange, hd⟩
    refine ⟨⟨a, by omega⟩, ⟨by omega, rfl⟩, ⟨b, by omega⟩, ⟨by omega, rfl⟩, ?_⟩
    exact ⟨hrange, hd⟩

/-- Fields are the duration of their sum, if that is not too long. -/
theorem of_fields_eq (days hours minutes seconds ticks : Nat) :
    ofFields? days hours minutes seconds ticks =
      ofNanos? ((days * 86400 + hours * 3600 + minutes * 60 + seconds) * nanosPerSecond +
        ticks * nanosPerTick : Nat) := by
  simp only [ofFields?, bind, ← Option.bind_assoc, of_nanos_bind_add]
  simp only [Nat.add_mul]

/-- The nanoseconds of the digits behind a point, tenths of a second first. -/
def fractionNanos (digits : List Char) : Nat :=
  digitsValue digits * 10 ^ (9 - digits.length)

/-- The ticks of a fraction are its nanoseconds, since it has no more digits than ticks have. -/
theorem tick_digits_value (h : digits.length ≤ 7) :
    digitsValue (tickDigits digits) * nanosPerTick = fractionNanos digits := by
  have hplaces : 9 - digits.length = 7 - digits.length + 2 := by omega
  rw [tickDigits, digits_value_append_zeros, fractionNanos, hplaces, Nat.pow_add, Nat.mul_assoc]
  rfl

/-- The zeros behind a fraction are digits. -/
theorem all_digits_tick_digits : AllDigits (tickDigits digits) ↔ AllDigits digits := by
  constructor
  · intro h c hc
    exact h c (List.mem_append_left _ hc)
  · intro h c hc
    rcases List.mem_append.1 hc with hc | hc
    · exact h c hc
    · rw [List.eq_of_mem_replicate hc]
      rfl

/-- There are seven digits of ticks. -/
theorem length_tick_digits (h : digits.length ≤ 7) : (tickDigits digits).length = 7 := by
  rw [tickDigits, List.length_append, List.length_replicate]
  omega

namespace Parts

variable {p : Parts}

/-- The length of the duration that parts stand for, in nanoseconds. -/
def magnitude (p : Parts) : Nat :=
  (fieldNumber p.days * 86400 + digitsValue p.hours * 3600 + digitsValue p.minutes * 60 +
      fieldNumber p.wholeSeconds?) * nanosPerSecond + (p.fraction?.map fractionNanos).getD 0

/-- The parts are digits of ASCII, as many as the text form allows, and the fields below the days
are of a time of day. -/
structure IsWritten (p : Parts) : Prop where
  spelled : p.SpelledBy Char.isDigit
  hours_le : digitsValue p.hours ≤ 23
  minutes_le : digitsValue p.minutes ≤ 59
  seconds_le : fieldNumber p.wholeSeconds? ≤ 59

/-- The ticks of the fraction are its nanoseconds. -/
theorem fraction_number (h : ∀ digits ∈ p.fraction?, digits.length ≤ 7) :
    fieldNumber (p.fraction?.map tickDigits) * nanosPerTick =
      (p.fraction?.map fractionNanos).getD 0 := by
  cases hfraction : p.fraction? with
  | none => exact Nat.zero_mul _
  | some digits => exact tick_digits_value (h digits hfraction)

/-- Digits of a class are digits of a wider one. -/
theorem SpelledBy.mono {isDigit isWide : Char → Bool} (h : p.SpelledBy isDigit)
    (hwide : ∀ c, isDigit c = true → isWide c = true) : p.SpelledBy isWide := by
  have hrun {digits : List Char} (hdigits : IsRun isDigit digits) : IsRun isWide digits :=
    ⟨fun c hc => hwide c (hdigits.1 c hc), hdigits.2⟩
  exact ⟨fun digits hmem => hrun (h.days digits hmem), h.hours.imp_left hrun,
    h.minutes.imp_left hrun, fun digits hmem => (h.seconds digits hmem).imp_left hrun,
    fun digits hmem => (h.fraction digits hmem).imp_left hrun⟩

/-- Parts that are digits of some script are digits of ASCII if the fields say so. -/
theorem SpelledBy.of_all_digits (h : p.SpelledBy isDecimalDigit)
    (hdays : ∀ digits ∈ p.days, AllDigits digits) (hhours : AllDigits p.hours)
    (hminutes : AllDigits p.minutes) (hseconds : ∀ digits ∈ p.wholeSeconds?, AllDigits digits)
    (hfraction : ∀ digits ∈ p.fraction?, AllDigits digits) : p.SpelledBy Char.isDigit where
  days digits hmem := ⟨hdays digits hmem, (h.days digits hmem).2⟩
  hours := ⟨⟨hhours, h.hours.1.2⟩, h.hours.2⟩
  minutes := ⟨⟨hminutes, h.minutes.1.2⟩, h.minutes.2⟩
  seconds digits hmem :=
    ⟨⟨hseconds digits hmem, (h.seconds digits hmem).1.2⟩, (h.seconds digits hmem).2⟩
  fraction digits hmem :=
    ⟨⟨hfraction digits hmem, (h.fraction digits hmem).1.2⟩, (h.fraction digits hmem).2⟩

variable {d : Duration}

/-- Parts that have a duration are of the text form and not too long. -/
theorem written_of_to_duration (h : p.SpelledBy isDecimalDigit) (hread : p.toDuration? = some d) :
    p.IsWritten ∧ p.magnitude ≤ longest ∧
      d.nanos = if p.negative then -(p.magnitude : Int) else p.magnitude := by
  have hticks := fraction_number fun digits hmem => (h.fraction digits hmem).2
  simp only [toDuration?, bind, Option.bind_eq_some_iff, optional_value_eq_some_iff,
    field_value_eq_some_iff] at hread
  obtain ⟨days, ⟨hdays, rfl, -⟩, hours, ⟨hhours, rfl, -⟩, minutes, ⟨hminutes, rfl, -⟩, seconds,
    ⟨hseconds, rfl, -⟩, hread⟩ := hread
  split at hread
  · exact nomatch hread
  · rename_i hbounds
    simp only [Option.bind_eq_some_iff, optional_value_eq_some_iff, of_fields_eq,
      of_nanos_eq_some_iff] at hread
    obtain ⟨ticks, ⟨hfraction, rfl, -⟩, size, ⟨hrange, hsize⟩, hread⟩ := hread
    obtain rfl := Option.some.inj hread
    rw [hticks] at hrange hsize
    change (p.magnitude : Int).natAbs ≤ longest at hrange
    change size.nanos = (p.magnitude : Int) at hsize
    have hfraction : ∀ digits ∈ p.fraction?, AllDigits digits := fun digits hmem =>
      all_digits_tick_digits.1 (hfraction _ (Option.mem_map_of_mem _ hmem))
    have hspelled := h.of_all_digits hdays hhours hminutes hseconds hfraction
    refine ⟨⟨hspelled, by omega, by omega, by omega⟩, hrange, ?_⟩
    rw [← hsize]
    split <;> rfl

/-- Parts of the text form that are not too long have a duration. -/
theorem to_duration_of_written (h : p.IsWritten) (hrange : p.magnitude ≤ longest)
    (hd : d.nanos = if p.negative then -(p.magnitude : Int) else p.magnitude) :
    p.toDuration? = some d := by
  obtain ⟨hspelled, hhours, hminutes, hseconds⟩ := h
  have hticks := fraction_number fun digits hmem => (hspelled.fraction digits hmem).2
  have hdaysBits : fieldNumber p.days < 2 ^ 63 := by
    simp only [magnitude, nanosPerSecond, longest] at hrange
    omega
  have hfraction : ∀ digits ∈ p.fraction?.map tickDigits,
      AllDigits digits ∧ digits.length = 7 := by
    intro digits hmem
    obtain ⟨fraction, hfraction, rfl⟩ := Option.mem_map.1 hmem
    obtain ⟨⟨hdigits, -⟩, hlength⟩ := hspelled.fraction fraction hfraction
    exact ⟨all_digits_tick_digits.2 hdigits, length_tick_digits hlength⟩
  have hticksBits : fieldNumber (p.fraction?.map tickDigits) < 2 ^ 63 :=
    Nat.lt_of_lt_of_le (field_number_lt hfraction) (by decide)
  simp only [toDuration?, bind, Option.bind_eq_some_iff, optional_value_eq_some_iff,
    field_value_eq_some_iff]
  refine ⟨_, ⟨fun digits hmem => (hspelled.days digits hmem).1, rfl, hdaysBits⟩,
    _, ⟨hspelled.hours.1.1, rfl, by omega⟩, _, ⟨hspelled.minutes.1.1, rfl, by omega⟩,
    _, ⟨fun digits hmem => (hspelled.seconds digits hmem).1.1, rfl, by omega⟩, ?_⟩
  rw [if_neg (by omega)]
  simp only [Option.bind_eq_some_iff, optional_value_eq_some_iff, of_fields_eq,
    of_nanos_eq_some_iff]
  refine ⟨_, ⟨fun digits hmem => (hfraction digits hmem).1, rfl, hticksBits⟩,
    ⟨p.magnitude, hrange⟩, ?_, congrArg some (eq_of_nanos ?_)⟩
  · rw [hticks]
    exact ⟨hrange, rfl⟩
  · rw [hd]
    split <;> rfl

end Parts

/-- A text is read as a duration if it is written so and not too long. -/
theorem of_chars_eq_some_iff {text : List Char} {d : Duration} : ofChars? text = some d ↔
    ∃ p : Parts, text = p.toChars ∧ p.IsWritten ∧ p.magnitude ≤ longest ∧
      d.nanos = if p.negative then -(p.magnitude : Int) else p.magnitude := by
  rw [ofChars?, Option.bind_eq_some_iff]
  constructor
  · rintro ⟨p, hread, hd⟩
    obtain ⟨htext, hspelled⟩ := Parts.read_eq_some_iff.1 hread
    exact ⟨p, htext, Parts.written_of_to_duration hspelled hd⟩
  · rintro ⟨p, htext, hwritten, hrange, hd⟩
    have hspelled := hwritten.spelled.mono fun _ => is_decimal_digit_of_is_digit
    exact ⟨p, Parts.read_eq_some_iff.2 ⟨htext, hspelled⟩,
      Parts.to_duration_of_written hwritten hrange hd⟩

/-- A text is read as a duration exactly if it is `[-][D.]h:m[:s[.f]]` in digits of ASCII, with a
time of day behind the days, and its length is in range; the duration has that length and that
sign. Any other text is read as none. -/
theorem of_text_iff_written (text : String) :
    (∀ d : Duration, ofText? text = some d ↔
      ∃ p : Parts, text.toList = p.toChars ∧ p.IsWritten ∧ p.magnitude ≤ longest ∧
        d.nanos = if p.negative then -(p.magnitude : Int) else p.magnitude) ∧
    (ofText? text = none ↔
      ¬∃ p : Parts, text.toList = p.toChars ∧ p.IsWritten ∧ p.magnitude ≤ longest) := by
  refine ⟨fun d => of_chars_eq_some_iff, ?_⟩
  rw [← not_iff_not, not_not, ← Ne, Option.ne_none_iff_exists']
  constructor
  · rintro ⟨d, hd⟩
    obtain ⟨p, htext, hwritten, hrange, -⟩ := of_chars_eq_some_iff.1 hd
    exact ⟨p, htext, hwritten, hrange⟩
  · rintro ⟨p, htext, hwritten, hrange⟩
    have hsigned : (if p.negative then -(p.magnitude : Int) else p.magnitude).natAbs ≤ longest := by
      split <;> omega
    exact ⟨⟨_, hsigned⟩, of_chars_eq_some_iff.2 ⟨p, htext, hwritten, hrange, rfl⟩⟩

-- A digit of another script is told apart as hours but has no number, and so have too many days.
example : (Parts.read? "\u0661:00".toList).isSome = true ∧ ofText? "\u0661:00" = none ∧
    ofText? "106751991167.07:12:55.807" = some ⟨longest, by decide⟩ ∧
    ofText? "106751991167.07:12:55.8070001" = none := by decide +kernel

end Formula.Duration
