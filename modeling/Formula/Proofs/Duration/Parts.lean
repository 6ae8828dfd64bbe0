import Formula.Duration.Text
import Mathlib

/-!
# The parts of a duration's text

Reading tells apart exactly the texts that are the parts side by side, `read_eq_some_iff`. The day
field and the hours start alike; which of them digits belong to is seen from the separator after
them, since no separator is a digit.
-/

namespace Formula.Duration

/-- Some characters of a class of digits. -/
def IsRun (isDigit : Char → Bool) (digits : List Char) : Prop :=
  (∀ c ∈ digits, isDigit c = true) ∧ digits ≠ []

/-- The text of the day field. -/
def daysChars : Option (List Char) → List Char
  | some digits => digits ++ ['.']
  | none => []

/-- The text of the fraction. -/
def fractionChars : Option (List Char) → List Char
  | some digits => '.' :: digits
  | none => []

/-- The text of the seconds and their fraction. -/
def secondsChars : Option SecondsPart → List Char
  | some part => ':' :: (part.whole ++ fractionChars part.fraction)
  | none => []

namespace Parts

/-- The text of some parts. -/
def toChars (p : Parts) : List Char :=
  (if p.negative then ['-'] else []) ++
    (daysChars p.days ++ (p.hours ++ ':' :: (p.minutes ++ secondsChars p.seconds)))

/-- The parts are digits of a class, as many as the text form allows. -/
structure SpelledBy (isDigit : Char → Bool) (p : Parts) : Prop where
  days : ∀ digits ∈ p.days, IsRun isDigit digits
  hours : IsRun isDigit p.hours ∧ p.hours.length ≤ 2
  minutes : IsRun isDigit p.minutes ∧ p.minutes.length ≤ 2
  seconds : ∀ digits ∈ p.wholeSeconds?, IsRun isDigit digits ∧ digits.length ≤ 2
  fraction : ∀ digits ∈ p.fraction?, IsRun isDigit digits ∧ digits.length ≤ 7

end Parts

/-- No digit comes next. -/
def EndsRun (rest : List Char) : Prop :=
  ∀ c ∈ rest.head?, isDecimalDigit c = false

variable {text digits rest : List Char}

/-- A colon ends a run of digits. -/
theorem ends_run_colon (rest : List Char) : EndsRun (':' :: rest) := by
  rintro c hc
  obtain rfl : ':' = c := Option.some.inj hc
  decide

/-- A point ends a run of digits. -/
theorem ends_run_point (rest : List Char) : EndsRun ('.' :: rest) := by
  rintro c hc
  obtain rfl : '.' = c := Option.some.inj hc
  decide

/-- A run of digits ends before a fraction and before nothing. -/
theorem ends_run_fraction (fraction : Option (List Char)) : EndsRun (fractionChars fraction) := by
  cases fraction with
  | none => exact nofun
  | some digits => exact ends_run_point digits

/-- A run of digits ends before the seconds and before nothing. -/
theorem ends_run_seconds (seconds : Option SecondsPart) : EndsRun (secondsChars seconds) := by
  cases seconds with
  | none => exact nofun
  | some part => exact ends_run_colon _

/-- Digits are taken up to where they end. -/
theorem take_run_append (hdigits : ∀ c ∈ digits, isDecimalDigit c = true) (hrest : EndsRun rest) :
    (digits ++ rest).takeWhile isDecimalDigit = digits ∧
      (digits ++ rest).dropWhile isDecimalDigit = rest := by
  rw [List.takeWhile_append_of_pos hdigits, List.dropWhile_append_of_pos hdigits]
  cases rest with
  | nil => simp
  | cons c rest => simp [hrest c rfl]

/-- Where the digits that a text starts with are dropped no digit comes next. -/
theorem ends_run_drop (text : List Char) : EndsRun (text.dropWhile isDecimalDigit) := by
  intro c hc
  have hhead := List.head?_dropWhile_not isDecimalDigit text
  rw [Option.mem_def.1 hc] at hhead
  simpa using hhead

/-- The digits that a text starts with are digits. -/
theorem all_take_run (text : List Char) :
    ∀ c ∈ text.takeWhile isDecimalDigit, isDecimalDigit c = true :=
  List.all_eq_true.1 List.all_takeWhile

/-- A run is read as a whole if it is not too long. -/
theorem read_run_eq_some_iff {most : Nat} : readRun most text = some (digits, rest) ↔
    text = digits ++ rest ∧ (IsRun isDecimalDigit digits ∧ digits.length ≤ most) ∧
      EndsRun rest := by
  constructor
  · intro h
    rw [readRun] at h
    split at h
    · exact nomatch h
    · rename_i hbounds
      obtain ⟨rfl, rfl⟩ := Prod.mk.inj (Option.some.inj h)
      rw [not_or, Nat.not_lt] at hbounds
      exact ⟨List.takeWhile_append_dropWhile.symm, ⟨⟨all_take_run text, hbounds.1⟩, hbounds.2⟩,
        ends_run_drop text⟩
  · rintro ⟨rfl, ⟨⟨hdigits, hne⟩, hlength⟩, hrest⟩
    obtain ⟨htake, hdrop⟩ := take_run_append hdigits hrest
    rw [readRun, htake, hdrop]
    exact if_neg (not_or.2 ⟨hne, Nat.not_lt.2 hlength⟩)

/-- A fraction is read if it is the rest of the text. -/
theorem read_fraction_eq_some_iff {fraction : Option (List Char)} :
    readFraction text = some fraction ↔ text = fractionChars fraction ∧
      ∀ digits ∈ fraction, IsRun isDecimalDigit digits ∧ digits.length ≤ 7 := by
  constructor
  · intro h
    unfold readFraction at h
    split at h
    · obtain rfl := Option.some.inj h
      exact ⟨rfl, nofun⟩
    · simp only [bind, Option.bind_eq_some_iff] at h
      obtain ⟨⟨digits, rest⟩, hread, h⟩ := h
      obtain ⟨rfl, hrun, -⟩ := read_run_eq_some_iff.1 hread
      cases rest with
      | cons => exact nomatch h
      | nil =>
          obtain rfl := Option.some.inj h
          rw [List.append_nil]
          exact ⟨rfl, by simpa using hrun⟩
    · exact nomatch h
  · rintro ⟨rfl, hrun⟩
    cases fraction with
    | none => rfl
    | some digits =>
        have hread := read_run_eq_some_iff.2 ⟨(List.append_nil digits).symm, hrun digits rfl, nofun⟩
        rw [fractionChars, readFraction, hread]
        rfl

/-- Seconds are read if they are the rest of the text. -/
theorem read_seconds_eq_some_iff {seconds : Option SecondsPart} :
    readSeconds text = some seconds ↔ text = secondsChars seconds ∧
      (∀ digits ∈ seconds.map (·.whole), IsRun isDecimalDigit digits ∧ digits.length ≤ 2) ∧
      (∀ digits ∈ seconds.bind (·.fraction),
        IsRun isDecimalDigit digits ∧ digits.length ≤ 7) := by
  constructor
  · intro h
    unfold readSeconds at h
    split at h
    · obtain rfl := Option.some.inj h
      exact ⟨rfl, nofun, nofun⟩
    · simp only [bind, Option.bind_eq_some_iff] at h
      obtain ⟨⟨whole, rest⟩, hread, fraction, hfraction, h⟩ := h
      obtain ⟨rfl, hrun, -⟩ := read_run_eq_some_iff.1 hread
      obtain ⟨rfl, hfractionRun⟩ := read_fraction_eq_some_iff.1 hfraction
      obtain rfl := Option.some.inj h
      exact ⟨rfl, by simpa using hrun, by simpa using hfractionRun⟩
    · exact nomatch h
  · rintro ⟨rfl, hrun, hfractionRun⟩
    cases seconds with
    | none => rfl
    | some part =>
        have hread := read_run_eq_some_iff.2
          ⟨rfl, hrun part.whole rfl, ends_run_fraction part.fraction⟩
        have hfraction : readFraction (fractionChars part.fraction) = some part.fraction :=
          read_fraction_eq_some_iff.2 ⟨rfl, hfractionRun⟩
        rw [secondsChars, readSeconds, hread]
        change (readFraction (fractionChars part.fraction)).bind _ = _
        rw [hfraction]
        rfl

/-- What is left of a text after the day field. -/
theorem eq_days_append (text : List Char) :
    text = daysChars (readDays text).1 ++ (readDays text).2 ∧
      ∀ digits ∈ (readDays text).1, IsRun isDecimalDigit digits := by
  have hall := all_take_run text
  have happend := List.takeWhile_append_dropWhile (p := isDecimalDigit) (l := text)
  unfold readDays
  generalize text.takeWhile isDecimalDigit = digits at hall happend
  generalize text.dropWhile isDecimalDigit = rest at happend
  split
  · exact ⟨by simp [daysChars, ← happend], by simpa [IsRun] using hall⟩
  · exact ⟨rfl, nofun⟩

/-- The day field is read up to its point, and none where digits end with a colon. -/
theorem read_days_append {days : Option (List Char)}
    (hdays : ∀ digits ∈ days, IsRun isDecimalDigit digits)
    (hdigits : IsRun isDecimalDigit digits) (rest : List Char) :
    readDays (daysChars days ++ (digits ++ ':' :: rest)) = (days, digits ++ ':' :: rest) := by
  cases days with
  | none =>
      obtain ⟨htake, hdrop⟩ := take_run_append hdigits.1 (ends_run_colon rest)
      rw [daysChars, List.nil_append, readDays, htake, hdrop]
      cases digits <;> rfl
  | some first =>
      obtain ⟨hall, hne⟩ := hdays first rfl
      obtain ⟨c, more, rfl⟩ := List.exists_cons_of_ne_nil hne
      obtain ⟨htake, hdrop⟩ := take_run_append hall (ends_run_point (digits ++ ':' :: rest))
      rw [daysChars, List.append_assoc, List.singleton_append, readDays, htake, hdrop]
      rfl

/-- What is left of a text after a minus. -/
theorem eq_minus_append (text : List Char) :
    text = (if (readMinus text).1 then ['-'] else []) ++ (readMinus text).2 := by
  unfold readMinus
  split <;> rfl

/-- A minus is read in front of a text that starts with none. -/
theorem read_minus_append (negative : Bool) (hrest : text.head? ≠ some '-') :
    readMinus ((if negative then ['-'] else []) ++ text) = (negative, text) := by
  cases negative with
  | true => rfl
  | false =>
      change readMinus text = (false, text)
      unfold readMinus
      split
      · exact absurd rfl hrest
      · rfl

/-- Digits do not start with a minus. -/
theorem head_ne_minus (hdigits : IsRun isDecimalDigit digits) (rest : List Char) :
    (digits ++ rest).head? ≠ some '-' := by
  obtain ⟨hall, hne⟩ := hdigits
  obtain ⟨c, more, rfl⟩ := List.exists_cons_of_ne_nil hne
  intro hc
  obtain rfl : c = '-' := Option.some.inj hc
  have hminus : isDecimalDigit '-' = false := by decide
  exact Bool.false_ne_true (hminus.symm.trans (hall '-' List.mem_cons_self))

namespace Parts

/-- The parts of a text are told apart exactly if it is these parts side by side. -/
theorem read_eq_some_iff {p : Parts} :
    read? text = some p ↔ text = p.toChars ∧ p.SpelledBy isDecimalDigit := by
  constructor
  · intro h
    have hminus := eq_minus_append text
    obtain ⟨hdays, hdaysRun⟩ := eq_days_append (readMinus text).2
    simp only [read?, bind, Option.bind_eq_some_iff] at h
    obtain ⟨⟨hours, rest⟩, hread, h⟩ := h
    obtain ⟨hhours, hhoursRun, -⟩ := read_run_eq_some_iff.1 hread
    dsimp only at h
    split at h
    · simp only [Option.bind_eq_some_iff] at h
      obtain ⟨⟨minutes, rest⟩, hread, seconds, hseconds, h⟩ := h
      obtain ⟨rfl, hminutesRun, -⟩ := read_run_eq_some_iff.1 hread
      obtain ⟨rfl, hsecondsRun, hfractionRun⟩ := read_seconds_eq_some_iff.1 hseconds
      obtain rfl := Option.some.inj h
      refine ⟨?_, hdaysRun, hhoursRun, hminutesRun, hsecondsRun, hfractionRun⟩
      rw [toChars, ← hhours, ← hdays]
      exact hminus
    · exact nomatch h
  · rintro ⟨rfl, h⟩
    have hstart : (daysChars p.days ++
        (p.hours ++ ':' :: (p.minutes ++ secondsChars p.seconds))).head? ≠ some '-' := by
      cases hdays : p.days with
      | none => exact head_ne_minus h.hours.1 _
      | some digits =>
          rw [daysChars, List.append_assoc]
          exact head_ne_minus (h.days digits hdays) _
    have hhours := read_run_eq_some_iff.2
      ⟨rfl, h.hours, ends_run_colon (p.minutes ++ secondsChars p.seconds)⟩
    have hminutes := read_run_eq_some_iff.2 ⟨rfl, h.minutes, ends_run_seconds p.seconds⟩
    have hseconds := read_seconds_eq_some_iff.2 ⟨rfl, h.seconds, h.fraction⟩
    simp only [read?, toChars, read_minus_append _ hstart, read_days_append h.days h.hours.1,
      hhours, hminutes, hseconds, bind, Option.bind_some]
    rfl

end Parts

end Formula.Duration
