import Formula.Proofs.Calendar
import Formula.Proofs.Duration.RoundTrip
import Formula.Proofs.Lexer.Spelling
import Formula.Value.Coercion

/-!
# The text of a date-time reads back

The text of a date-time whose year has four digits is read as that date-time to the nanosecond, leap
seconds included, and any other text of a date-time is read as none, `date_time_to_text`: with a sign
in front it is no instant, and as a date alone it is too long.
-/

namespace Formula

/-- A text that starts with no blank keeps what it starts with. -/
theorem Text.trim_start_eq_self {text : List Char}
    (h : ∀ c ∈ text.head?, isBlank c = false) : trimStart text = text := by
  cases text with
  | nil => rfl
  | cons c text => exact List.dropWhile_cons_of_neg (by simp [h c rfl])

/-- A text that neither starts nor ends with a blank keeps both ends. -/
theorem Text.trim_eq_self {text : List Char} (hfirst : ∀ c ∈ text.head?, isBlank c = false)
    (hlast : ∀ c ∈ text.getLast?, isBlank c = false) : trim text = text := by
  rw [trim, trim_start_eq_self hfirst, trim_start_eq_self, List.reverse_reverse]
  rwa [List.head?_reverse]

namespace DateTime

open Duration Numeral

variable {width n : Nat}

/-- A character is read where it stands. -/
theorem read_char_cons (c : Char) (rest : List Char) : readChar c (c :: rest) = some rest :=
  if_pos rfl

/-- Digits of a fixed number are read from a number with zeros in front. -/
theorem read_fixed_padded (hwidth : 0 < width) (h : n < 10 ^ width) (rest : List Char) :
    readFixed width (padded width n ++ rest) = some (n, rest) := by
  have hlength := length_padded hwidth h
  have hdigits := List.all_eq_true.2 (all_digits_padded width n)
  simp only [readFixed, List.take_left' hlength, List.drop_left' hlength, digits_value_padded,
    hlength, hdigits, and_self, if_true]

/-- A fraction of at most nine digits is read as its nanoseconds. -/
theorem read_fraction_padded (hwidth : 0 < width) (hnine : width ≤ 9) (h : n < 10 ^ width) :
    readFraction ('.' :: padded width n ++ ['Z']) = some (n * 10 ^ (9 - width), ['Z']) := by
  have hlength := length_padded hwidth h
  have hend : EndsDigits ['Z'] := by
    intro c hc
    obtain rfl : 'Z' = c := Option.some.inj hc
    rfl
  have hread := read_digits_append (all_digits_padded width n) hend
  have hvalue := digits_value_padded width n
  rw [List.cons_append, readFraction, hread]
  generalize padded width n = digits at hlength hvalue
  cases digits with
  | nil => exact absurd hlength (Nat.ne_of_lt hwidth)
  | cons first more =>
      have hkept : (first :: more).take 9 = first :: more := List.take_of_length_le (by omega)
      simp only [hkept, hvalue, hlength]
      rfl

/-- The fraction of a second is read back. -/
theorem read_fraction_chars {nanos : Nat} (h : nanos < 1000000000) :
    readFraction (fractionChars nanos ++ ['Z']) = some (nanos, ['Z']) := by
  unfold fractionChars
  split
  · rename_i hzero
    rw [hzero]
    rfl
  · split
    · rw [read_fraction_padded (by decide) (by decide) (by omega)]
      congr 2
      omega
    · split
      · rw [read_fraction_padded (by decide) (by decide) (by omega)]
        congr 2
        omega
      · rw [read_fraction_padded (by decide) (by decide) h, Nat.sub_self, Nat.pow_zero, Nat.mul_one]

/-- The text of a year starts with a sign or a digit, and so with no blank. -/
theorem exists_year_chars (year : Int) :
    ∃ first rest, yearChars year = first :: rest ∧ Text.isBlank first = false := by
  obtain ⟨first, rest, hdigits⟩ := List.exists_cons_of_ne_nil (is_run_padded 4 year.natAbs).2
  have hfirst := all_digits_padded 4 year.natAbs
  rw [hdigits] at hfirst
  rw [yearChars, hdigits]
  split
  · exact ⟨'-', first :: rest, rfl, by decide⟩
  · split
    · exact ⟨'+', first :: rest, rfl, by decide⟩
    · exact ⟨first, rest, rfl, Lexeme.not_blank_of_digit (hfirst first List.mem_cons_self)⟩

/-- The text of a day and a time of day in universal time, behind the year. -/
def instantChars (date : Date) (hour minute second nanos : Nat) : List Char :=
  '-' :: (padded 2 date.month ++ '-' :: (padded 2 date.day ++ 'T' :: (padded 2 hour ++
    ':' :: (padded 2 minute ++ ':' :: (padded 2 second ++ (fractionChars nanos ++ ['Z']))))))

section

variable {date : Date} {hour minute second nanos : Nat}

/-- A date that exists and a time of day are read back, second sixty as a leap second. -/
theorem read_instant_chars (hyear : 0 ≤ date.year ∧ date.year ≤ 9999) (hdate : date.isValid = true)
    (hhour : hour < 24) (hminute : minute < 60) (hsecond : second ≤ 60)
    (hnanos : nanos < 1000000000) :
    readInstant (padded 4 date.year.natAbs ++ instantChars date hour minute second nanos) =
      if second = 60 then
        ofParts? (date.dayNumber * 86400 + hour * 3600 + minute * 60 + 59) (nanos + nanosPerSecond)
      else ofParts? (date.dayNumber * 86400 + hour * 3600 + minute * 60 + second) nanos := by
  obtain ⟨hmonth, hday⟩ := Date.lt_of_is_valid hdate
  have hwritten : (⟨date.year.natAbs, date.month, date.day⟩ : Date) = date := by
    rw [Int.natAbs_of_nonneg hyear.1]
  have hread {n : Nat} (h : n < 100) (rest : List Char) :
      readFixed 2 (padded 2 n ++ rest) = some (n, rest) :=
    read_fixed_padded (by decide) h rest
  have hfour : date.year.natAbs < 10 ^ 4 := by omega
  unfold readInstant instantChars
  dsimp only [Option.bind_eq_bind]
  rw [read_fixed_padded (by decide) hfour, Option.bind_some]
  dsimp only
  rw [read_char_cons, Option.bind_some, hread hmonth, Option.bind_some]
  dsimp only
  rw [read_char_cons, Option.bind_some, hread hday, Option.bind_some]
  dsimp only
  rw [hread (by omega), Option.bind_some]
  dsimp only
  rw [read_char_cons, Option.bind_some, hread (by omega), Option.bind_some]
  dsimp only
  rw [read_char_cons, Option.bind_some, hread (by omega), Option.bind_some]
  dsimp only
  rw [read_fraction_chars hnanos, Option.bind_some]
  dsimp only
  have hzulu : readOffset ['Z'] = some 0 := rfl
  have hsum (s : Int) : (date.dayNumber * 1440 + hour * 60 + minute) * 60 + s - 0 =
      date.dayNumber * 86400 + hour * 3600 + minute * 60 + s := by
    omega
  rw [hzulu, Option.bind_some, hwritten, if_pos ⟨.inl rfl, hdate, hhour, hminute, hsecond⟩, hsum,
    hsum]

/-- Up to two digits in front of what is no digit are read from a number with zeros in front. -/
theorem read_short_padded {n : Nat} (h : n < 100) (rest : List Char) :
    readShort (padded 2 n ++ rest) = some (n, rest) := by
  have hlength : (padded 2 n).length = 2 := length_padded (by decide) h
  have hdigits := all_digits_padded 2 n
  have htrim : Text.trimStart (padded 2 n ++ rest) = padded 2 n ++ rest := by
    refine Text.trim_start_eq_self fun c hc => ?_
    rw [List.head?_append_of_ne_nil _ (is_run_padded 2 n).2] at hc
    exact Lexeme.not_blank_of_digit (hdigits c (List.mem_of_mem_head? hc))
  rw [readShort, htrim]
  simp only [List.take_left' hlength, List.takeWhile_eq_self_iff.2 hdigits, digits_value_padded,
    List.drop_left, if_neg (is_run_padded 2 n).2]

/-- A year of any size is read behind a sign. -/
theorem exists_read_year {sign : Char} (hsign : sign = '-' ∨ sign = '+') (year : Nat)
    {rest : List Char} (hend : EndsDigits rest) :
    ∃ y, readYear (sign :: (padded 4 year ++ rest)) = some (y, rest) := by
  obtain ⟨first, more, hyear⟩ := List.exists_cons_of_ne_nil (is_run_padded 4 year).2
  have hread := read_digits_append (all_digits_padded 4 year) hend
  have hsigned (s : Int) :
      readYear.signed s (padded 4 year ++ rest) = some (s * digitsValue (first :: more), rest) := by
    rw [readYear.signed, hread, hyear]
  rcases hsign with rfl | rfl
  · exact ⟨_, hsigned (-1)⟩
  · exact ⟨_, hsigned 1⟩

/-- A day with a time of day behind it is not read as a day alone. -/
theorem read_day_chars {sign : Char} {year : Nat} (hsign : sign = '-' ∨ sign = '+')
    (hdate : date.isValid = true) :
    readDay (sign :: padded 4 year ++ instantChars date hour minute second nanos) = none := by
  obtain ⟨hmonth, hday⟩ := Date.lt_of_is_valid hdate
  have hend : EndsDigits (instantChars date hour minute second nanos) := by
    intro c hc
    obtain rfl : '-' = c := Option.some.inj hc
    rfl
  have htrim (rest : List Char) : Text.trimStart (sign :: rest) = sign :: rest := by
    refine Text.trim_start_eq_self fun c hc => ?_
    obtain rfl : sign = c := Option.some.inj hc
    rcases hsign with rfl | rfl <;> decide
  obtain ⟨y, hread⟩ := exists_read_year hsign year hend
  unfold readDay
  dsimp only [Option.bind_eq_bind]
  rw [List.cons_append, htrim, hread, instantChars, Option.bind_some]
  dsimp only
  rw [read_char_cons, Option.bind_some, read_short_padded hmonth, Option.bind_some]
  dsimp only
  rw [read_char_cons, Option.bind_some, read_short_padded hday, Option.bind_some]
  exact if_neg fun h => List.cons_ne_nil _ _ h.1

end

section

variable (t : DateTime)

/-- The text of a date-time is its year with the day and the time of day behind it. -/
theorem to_chars_eq : t.toChars = yearChars t.date.year ++ instantChars t.date t.hour t.minute
    (if t.isLeapSecond then t.second + 1 else t.second) (t.nanos % nanosPerSecond) := by
  simp [toChars, instantChars]

/-- The parts of a date-time are those of a date-time. -/
theorem of_parts_self : ofParts? t.seconds t.nanos = some t :=
  dif_pos ⟨t.inRange, t.nanos_lt, t.leap_at_minute_end⟩

/-- The seconds of a date-time are those of its day and of its time of day. -/
theorem seconds_eq :
    t.date.dayNumber * 86400 + t.hour * 3600 + t.minute * 60 + t.second = t.seconds := by
  simp only [date, (Date.day_number_of_day_number _).2, hour, minute, second, secondOfDay]
  omega

/-- The text of a date-time with a year of four digits is read back. -/
theorem read_instant_to_chars (hyear : 0 ≤ t.date.year ∧ t.date.year ≤ 9999) :
    readInstant t.toChars = some t := by
  have hdate : t.date.isValid = true := (Date.day_number_of_day_number _).1
  have hchars : yearChars t.date.year = padded 4 t.date.year.natAbs := by
    rw [yearChars, if_neg (Int.not_lt.2 hyear.1), if_neg (Int.not_lt.2 hyear.2)]
  have hbound : t.secondOfDay < 86400 := by
    rw [secondOfDay]
    omega
  have hhour : t.hour < 24 := by
    rw [hour]
    omega
  have hminute : t.minute < 60 := Nat.mod_lt _ (by decide)
  have hsecond : t.second < 60 := Nat.mod_lt _ (by decide)
  have hfraction : t.nanos % nanosPerSecond < 1000000000 := Nat.mod_lt _ (by decide)
  have hseconds := t.seconds_eq
  have hlt := t.nanos_lt
  rw [to_chars_eq, hchars]
  cases hleap : t.isLeapSecond with
  | false =>
      have hnanos : t.nanos % nanosPerSecond = t.nanos :=
        Nat.mod_eq_of_lt (Nat.lt_of_not_le (of_decide_eq_false hleap))
      rw [if_neg Bool.false_ne_true, read_instant_chars hyear hdate hhour hminute
        (Nat.le_of_lt hsecond) hfraction, if_neg (Nat.ne_of_lt hsecond), hnanos,
        hseconds, of_parts_self]
  | true =>
      have hle : nanosPerSecond ≤ t.nanos := of_decide_eq_true hleap
      have hlast : t.second = 59 := by
        have hend := t.leap_at_minute_end hle
        rw [second, secondOfDay]
        omega
      have hnanos : t.nanos % nanosPerSecond + nanosPerSecond = t.nanos := by
        rw [nanosPerSecond] at hle ⊢
        omega
      rw [hlast] at hseconds
      rw [if_pos rfl, hlast, read_instant_chars hyear hdate hhour hminute (Nat.le_refl 60) hfraction,
        if_pos rfl, hnanos]
      exact (congrArg (ofParts? · t.nanos) hseconds).trans t.of_parts_self

/-- The text of a date-time with another year is not read. -/
theorem of_text_to_chars_of_signed (hyear : ¬(0 ≤ t.date.year ∧ t.date.year ≤ 9999)) :
    ofText? t.toChars = none := by
  have hdate : t.date.isValid = true := (Date.day_number_of_day_number _).1
  obtain ⟨sign, hsign, hchars⟩ : ∃ sign, (sign = '-' ∨ sign = '+') ∧
      yearChars t.date.year = sign :: padded 4 t.date.year.natAbs := by
    by_cases hneg : t.date.year < 0
    · exact ⟨'-', .inl rfl, by rw [yearChars, if_pos hneg]⟩
    · exact ⟨'+', .inr rfl, by rw [yearChars, if_neg hneg, if_pos (by omega)]⟩
  have hinstant (rest : List Char) : readInstant (sign :: rest) = none := by
    have hfixed : readFixed 4 (sign :: rest) = none :=
      if_neg fun h => by rcases hsign with rfl | rfl <;> simp [Char.isDigit] at h
    rw [readInstant, hfixed]
    rfl
  rw [to_chars_eq, hchars, ofText?, read_day_chars hsign hdate, List.cons_append, hinstant]
  rfl

/-- The text of a date-time has no blanks around it. -/
theorem trim_to_chars : Text.trim t.toChars = t.toChars := by
  refine Text.trim_eq_self ?_ ?_
  · intro c hc
    obtain ⟨first, rest, hyear, hblank⟩ := exists_year_chars t.date.year
    rw [to_chars_eq, hyear] at hc
    obtain rfl : first = c := Option.some.inj hc
    exact hblank
  · intro c hc
    obtain rfl : 'Z' = c := by
      rw [toChars, List.getLast?_append] at hc
      exact Option.some.inj hc
    decide

end

end DateTime

/-- The text of a date-time is read as that date-time if its year has four digits, leap seconds
included, and as none otherwise. -/
theorem date_time_to_text {H : Type} [HostObject H] (t : DateTime) :
    (Value.string (Value.toText (.dateTime t : Value H)) : Value H).toDateTime? =
      if 0 ≤ t.date.year ∧ t.date.year ≤ 9999 then some t else none := by
  change DateTime.ofText? (Text.trim t.toText.toList) = _
  rw [DateTime.toText, String.toList_ofList, t.trim_to_chars]
  split
  · rename_i hyear
    rw [DateTime.ofText?, t.read_instant_to_chars hyear]
    rfl
  · rename_i hyear
    exact t.of_text_to_chars_of_signed hyear

-- Half a second into the leap second at the end of 2016.
example : DateTime.ofText? "2016-12-31T23:59:60.5Z".toList =
    DateTime.ofParts? 1483228799 1500000000 := by
  decide +kernel

end Formula
