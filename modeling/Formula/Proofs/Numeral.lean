import Formula.Binary64.Numeral
import Formula.Token.Lexer
import Mathlib

/-!
# Reading number text

Text that starts with a digit is a numeral if it consists of digits with an optional fraction and an
optional exponent. The lexer cuts number tokens of this shape, so every one of them is read, and one
without a point of its own also with a point in front.
-/

namespace Formula

namespace Numeral

variable {digits whole fraction tail rest text : List Char}

/-- Whether a text consists of digits. -/
def AllDigits (digits : List Char) : Prop :=
  ∀ c ∈ digits, c.isDigit = true

/-- Whether no digit comes next. -/
def EndsDigits (rest : List Char) : Prop :=
  ∀ c, rest.head? = some c → c.isDigit = false

/-- A digit differs from what is no digit. -/
theorem ne_of_is_digit {c d : Char} (hc : c.isDigit = true) (hd : d.isDigit = false) : c ≠ d := by
  rintro rfl
  rw [hc] at hd
  exact nomatch hd

/-- The digits that a text starts with are digits. -/
theorem all_digits_take (text : List Char) : AllDigits (text.takeWhile Char.isDigit) := by
  have h := List.all_takeWhile (p := Char.isDigit) (l := text)
  exact List.all_eq_true.1 h

/-- No digits are taken where they end. -/
theorem take_digits_of_ends (hrest : EndsDigits rest) : rest.takeWhile Char.isDigit = [] := by
  cases rest with
  | nil => rfl
  | cons c rest => simp [hrest c rfl]

/-- Digits are taken up to where they end. -/
theorem take_digits_append (hdigits : AllDigits digits) (hrest : EndsDigits rest) :
    (digits ++ rest).takeWhile Char.isDigit = digits := by
  rw [List.takeWhile_append_of_pos hdigits, take_digits_of_ends hrest, List.append_nil]

/-- Digits are read up to where they end. -/
theorem read_digits_append (hdigits : AllDigits digits) (hrest : EndsDigits rest) :
    readDigits (digits ++ rest) = (digits, rest) := by
  have hdrop : (digits ++ rest).dropWhile Char.isDigit = rest := by
    rw [List.dropWhile_append_of_pos hdigits]
    cases rest with
    | nil => rfl
    | cons c rest => simp [hrest c rfl]
  rw [readDigits, take_digits_append hdigits hrest, hdrop]

/-- Digits spell a number below the power of ten that has as many zeros. -/
theorem digits_value_lt (h : AllDigits digits) : digitsValue digits < 10 ^ digits.length := by
  induction digits with
  | nil => exact Nat.one_pos
  | cons c digits ih =>
      have hrest := ih fun d hd => h d (List.mem_cons_of_mem _ hd)
      obtain ⟨hlow, hhigh⟩ := Char.isDigit_iff_toNat.1 (h c List.mem_cons_self)
      have hdigit : c.toNat - '0'.toNat ≤ 9 := by
        change 48 ≤ c.toNat at hlow
        change c.toNat ≤ 57 at hhigh
        change c.toNat - 48 ≤ 9
        omega
      rw [digitsValue, Nat.ofDigitChars_cons, Nat.ofDigitChars_eq_ofDigitChars_zero, Nat.mul_zero,
        Nat.zero_add, List.length_cons, Nat.pow_succ]
      calc 10 ^ digits.length * (c.toNat - '0'.toNat) + digitsValue digits
          < 10 ^ digits.length * (c.toNat - '0'.toNat) + 10 ^ digits.length :=
            Nat.add_lt_add_left hrest _
        _ = 10 ^ digits.length * (c.toNat - '0'.toNat + 1) := (Nat.mul_succ _ _).symm
        _ ≤ 10 ^ digits.length * 10 := Nat.mul_le_mul_left _ (Nat.succ_le_succ hdigit)

/-- Digits side by side spell the first number times a power of ten, and the second number. -/
theorem digits_value_append (front back : List Char) :
    digitsValue (front ++ back) = digitsValue front * 10 ^ back.length + digitsValue back := by
  rw [digitsValue, Nat.ofDigitChars_append, Nat.ofDigitChars_eq_ofDigitChars_zero, Nat.mul_comm]
  rfl

/-- A digit is told by its number. -/
theorem eq_of_digit_value {c d : Char} (hc : c.isDigit = true) (hd : d.isDigit = true)
    (h : digitsValue [c] = digitsValue [d]) : c = d := by
  have hc := (Char.isDigit_iff_toNat.1 hc).1
  have hd := (Char.isDigit_iff_toNat.1 hd).1
  simp only [digitsValue, Nat.ofDigitChars_cons, Nat.ofDigitChars_nil] at h
  exact Char.toNat_inj.1 (by omega)

/-- Equally many digits that spell the same number are the same. -/
theorem eq_of_digits_value {digits' : List Char} (h : AllDigits digits) (h' : AllDigits digits')
    (hlength : digits.length = digits'.length) (hvalue : digitsValue digits = digitsValue digits') :
    digits = digits' := by
  induction digits generalizing digits' with
  | nil => exact (List.length_eq_zero_iff.1 hlength.symm).symm
  | cons c digits ih =>
      obtain ⟨c', more, rfl⟩ := List.exists_cons_of_length_eq_add_one hlength.symm
      obtain ⟨hc, hdigits⟩ := List.forall_mem_cons.1 h
      obtain ⟨hc', hmore⟩ := List.forall_mem_cons.1 h'
      have hlength : digits.length = more.length := Nat.succ.inj hlength
      have hlt := digits_value_lt hdigits
      have hlt' := digits_value_lt hmore
      have hpos : 0 < 10 ^ more.length := Nat.pow_pos (by decide)
      rw [← List.singleton_append, ← List.singleton_append (l := more), digits_value_append,
        digits_value_append, hlength] at hvalue
      rw [hlength] at hlt
      -- The number of the other digits is the remainder by the power of ten.
      have hrest := congrArg (· % 10 ^ more.length) hvalue
      rw [Nat.mul_add_mod_of_lt hlt, Nat.mul_add_mod_of_lt hlt'] at hrest
      rw [hrest] at hvalue
      have hfirst := Nat.eq_of_mul_eq_mul_right hpos (Nat.add_right_cancel hvalue)
      rw [eq_of_digit_value hc hc' hfirst, ih hdigits hmore hlength hrest]

/-- Zeros behind digits multiply their number. -/
theorem digits_value_append_zeros (digits : List Char) (n : Nat) :
    digitsValue (digits ++ List.replicate n '0') = digitsValue digits * 10 ^ n := by
  rw [digitsValue, Nat.ofDigitChars_append, Nat.ofDigitChars_replicate_zero, Nat.mul_comm]
  rfl

/-- Whether a text is a mark, an optional sign and at least one digit, or empty. -/
def IsExponent (tail : List Char) : Prop :=
  tail = [] ∨ ∃ mark sign digits, tail = mark :: (sign ++ digits) ∧ (mark = 'e' ∨ mark = 'E') ∧
    (sign = [] ∨ sign = ['+'] ∨ sign = ['-']) ∧ AllDigits digits ∧ digits ≠ []

/-- A sign is read up to the first digit. -/
theorem read_sign_append {sign : List Char} (hsign : sign = [] ∨ sign = ['+'] ∨ sign = ['-'])
    (hdigits : AllDigits digits) : ∃ negative, readSign (sign ++ digits) = (negative, digits) := by
  rcases hsign with rfl | rfl | rfl
  · cases digits with
    | nil => exact ⟨false, rfl⟩
    | cons first rest =>
        have hfirst : first.isDigit = true := hdigits first List.mem_cons_self
        have hminus : first ≠ '-' := ne_of_is_digit hfirst rfl
        have hplus : first ≠ '+' := ne_of_is_digit hfirst rfl
        exact ⟨false, by simp [readSign, hminus, hplus]⟩
  · exact ⟨false, rfl⟩
  · exact ⟨true, rfl⟩

/-- What is left after a sign has an optional sign in front. -/
theorem eq_sign_append (text : List Char) :
    ∃ sign, (sign = [] ∨ sign = ['+'] ∨ sign = ['-']) ∧ text = sign ++ (readSign text).2 := by
  unfold readSign
  split
  · exact ⟨['-'], .inr (.inr rfl), rfl⟩
  · exact ⟨['+'], .inr (.inl rfl), rfl⟩
  · exact ⟨[], .inl rfl, rfl⟩

/-- What is read as an exponent is one. -/
theorem is_exponent_of_read {exponent : Int} (h : readExponent tail = some exponent) :
    IsExponent tail := by
  cases tail with
  | nil => exact .inl rfl
  | cons mark rest =>
      obtain ⟨sign, hsign, hrest⟩ := eq_sign_append rest
      rw [readExponent] at h
      split at h
      · rename_i hmark
        have hall := all_digits_take (readSign rest).2
        have happend := List.takeWhile_append_dropWhile (p := Char.isDigit) (l := (readSign rest).2)
        simp only [readDigits] at h
        generalize (readSign rest).2.takeWhile Char.isDigit = digits at h hall happend
        generalize (readSign rest).2.dropWhile Char.isDigit = after at h happend
        cases digits with
        | nil => exact nomatch h
        | cons first more =>
            cases after with
            | nil =>
                rw [← happend, List.append_nil] at hrest
                exact .inr ⟨mark, sign, first :: more, by rw [hrest], hmark, hsign, hall, nofun⟩
            | cons => exact nomatch h
      · exact nomatch h

/-- An exponent is read as one. -/
theorem read_is_exponent (h : IsExponent tail) : ∃ exponent, readExponent tail = some exponent := by
  rcases h with rfl | ⟨mark, sign, digits, rfl, hmark, hsign, hdigits, hne⟩
  · exact ⟨0, rfl⟩
  · obtain ⟨negative, hread⟩ := read_sign_append hsign hdigits
    have hend := read_digits_append hdigits (show EndsDigits [] from nofun)
    rw [List.append_nil] at hend
    rw [readExponent, if_pos hmark, hread]
    simp only [hend]
    cases digits with
    | nil => exact absurd rfl hne
    | cons first rest => exact ⟨_, rfl⟩

/-- An exponent starts with its mark. -/
theorem IsExponent.head (h : IsExponent tail) (c : Char) (hc : tail.head? = some c) :
    c = 'e' ∨ c = 'E' := by
  rcases h with rfl | ⟨mark, sign, digits, rfl, hmark, -⟩
  · exact nomatch hc
  · obtain rfl : mark = c := by simpa using hc
    exact hmark

/-- An exponent has no point. -/
theorem IsExponent.not_point (h : IsExponent tail) : '.' ∉ tail := by
  rcases h with rfl | ⟨mark, sign, digits, rfl, hmark, hsign, hdigits, -⟩
  · simp
  · have hpoint : '.' ∉ digits := fun hmem => nomatch hdigits '.' hmem
    rcases hmark with rfl | rfl <;> rcases hsign with rfl | rfl | rfl <;> simpa using hpoint

/-- Digits end before an exponent. -/
theorem IsExponent.ends_digits (h : IsExponent tail) : EndsDigits tail := by
  intro c hc
  rcases h.head c hc with rfl | rfl <;> rfl

/-- Text that starts with a digit is read as digits. -/
theorem read_of_digit {first : Char} (hfirst : first.isDigit = true) (rest : List Char) :
    read? (first :: rest) = readDecimal false (first :: rest) := by
  have hminus : first ≠ '-' := ne_of_is_digit hfirst rfl
  have hplus : first ≠ '+' := ne_of_is_digit hfirst rfl
  have hlower : first.toLower = first := by
    simp only [Char.isDigit, Bool.and_eq_true, decide_eq_true_eq] at hfirst
    simp only [Char.toLower]
    split
    · rename_i hupper
      simp at hfirst hupper
      grind
    · rfl
  have hi : first ≠ 'i' := ne_of_is_digit hfirst rfl
  have hn : first ≠ 'n' := ne_of_is_digit hfirst rfl
  simp [read?, readSign, hlower, hminus, hplus, hi, hn]

/-- Digits with an exponent are a numeral. -/
theorem read_whole (hwhole : AllDigits whole) (hne : whole ≠ []) {exponent : Int}
    (htail : readExponent tail = some exponent) :
    read? (whole ++ tail) = some (.decimal false (digitsValue whole) exponent) := by
  obtain ⟨first, more, rfl⟩ := List.exists_cons_of_ne_nil hne
  have hfraction : readFraction tail = ([], tail) := by
    unfold readFraction
    split
    · rcases (is_exponent_of_read htail).head '.' rfl with h | h <;> simp at h
    · rfl
  rw [List.cons_append, read_of_digit (hwhole first List.mem_cons_self), readDecimal,
    ← List.cons_append, read_digits_append hwhole (is_exponent_of_read htail).ends_digits]
  simp [hfraction, htail]

/-- Digits with a fraction and an exponent are a numeral. -/
theorem read_fraction (hwhole : AllDigits whole) (hne : whole ≠ []) (hfraction : AllDigits fraction)
    {exponent : Int} (htail : readExponent tail = some exponent) :
    read? (whole ++ '.' :: (fraction ++ tail)) =
      some (.decimal false (digitsValue (whole ++ fraction)) (exponent - fraction.length)) := by
  obtain ⟨first, more, rfl⟩ := List.exists_cons_of_ne_nil hne
  have hpoint : EndsDigits ('.' :: (fraction ++ tail)) := by
    intro c hc
    obtain rfl : '.' = c := by simpa using hc
    rfl
  rw [List.cons_append, read_of_digit (hwhole first List.mem_cons_self), readDecimal,
    ← List.cons_append, read_digits_append hwhole hpoint]
  simp [readFraction, read_digits_append hfraction (is_exponent_of_read htail).ends_digits, htail]

/-- A fraction that reads with a point in front has no point of its own. -/
theorem not_point_of_read {value : Numeral} (h : read? ('0' :: '.' :: text) = some value) :
    '.' ∉ text := by
  have hzero : readDigits ('0' :: '.' :: text) = (['0'], '.' :: text) := rfl
  rw [read_of_digit rfl, readDecimal, hzero] at h
  simp only [readFraction, readDigits] at h
  obtain ⟨exponent, hexponent, -⟩ := Option.map_eq_some_iff.1 (by simpa using h)
  have hpoint : '.' ∉ text.takeWhile Char.isDigit := fun hmem =>
    nomatch all_digits_take text '.' hmem
  rw [← List.takeWhile_append_dropWhile (p := Char.isDigit) (l := text), List.mem_append]
  rintro (hmem | hmem)
  · exact hpoint hmem
  · exact (is_exponent_of_read hexponent).not_point hmem

end Numeral

namespace Lexeme

open Numeral

variable {text : List Char}

/-- The exponent of a lexeme is one. -/
theorem is_exponent_exponent_part (text : List Char) : IsExponent (exponentPart text) := by
  unfold exponentPart
  split
  · rename_i mark rest
    split
    · rename_i hmark
      dsimp only
      split
      · exact .inl rfl
      · rename_i digits hne
        refine .inr ⟨mark, _, _, rfl, hmark, ?_, all_digits_take _, fun h => hne h⟩
        cases rest with
        | nil => simp
        | cons c rest =>
            by_cases hplus : c = '+'
            · simp [hplus]
            by_cases hminus : c = '-'
            · simp [hminus]
            simp [hplus, hminus]
    · exact .inl rfl
  · exact .inl rfl

/-- Whether a text is a point with digits, or empty. -/
def IsFraction (fraction : List Char) : Prop :=
  fraction = [] ∨ ∃ digits, fraction = '.' :: digits ∧ AllDigits digits ∧ digits ≠ []

/-- The fraction of a lexeme is one. -/
theorem is_fraction_fraction_part (text : List Char) : IsFraction (fractionPart text) := by
  unfold fractionPart
  split
  · rename_i rest
    split
    · exact .inl rfl
    · rename_i hne
      exact .inr ⟨_, rfl, all_digits_take rest, fun h => hne h⟩
  · exact .inl rfl

/-- A number lexeme is digits with an optional fraction and an optional exponent. -/
theorem number_part_shape {first : Char} (hfirst : first.isDigit = true) (rest : List Char) :
    ∃ whole fraction tail, numberPart (first :: rest) = whole ++ (fraction ++ tail) ∧
      AllDigits whole ∧ whole ≠ [] ∧ IsFraction fraction ∧ IsExponent tail :=
  ⟨(first :: rest).takeWhile Char.isDigit, _, _, List.append_assoc _ _ _, all_digits_take _,
    by simp [hfirst], is_fraction_fraction_part _, is_exponent_exponent_part _⟩

/-- The text of a number lexeme is a numeral without a sign. -/
theorem read_number_part {first : Char} (hfirst : first.isDigit = true) (rest : List Char) :
    ∃ digits exponent,
      Numeral.read? (numberPart (first :: rest)) = some (.decimal false digits exponent) := by
  obtain ⟨whole, _, tail, heq, hwhole, hne, rfl | ⟨digits, rfl, hdigits, -⟩, htail⟩ :=
    number_part_shape hfirst rest
  · obtain ⟨exponent, hexponent⟩ := read_is_exponent htail
    exact ⟨_, _, by rw [heq]; exact read_whole hwhole hne hexponent⟩
  · obtain ⟨exponent, hexponent⟩ := read_is_exponent htail
    exact ⟨_, _, by rw [heq]; exact read_fraction hwhole hne hdigits hexponent⟩

/-- The text of a number lexeme that has no point is a numeral with a point in front. -/
theorem read_point_number_part {first : Char} (hfirst : first.isDigit = true) (rest : List Char)
    (hpoint : '.' ∉ numberPart (first :: rest)) :
    ∃ digits exponent,
      Numeral.read? ('0' :: '.' :: numberPart (first :: rest)) =
        some (.decimal false digits exponent) := by
  obtain ⟨whole, _, tail, heq, hwhole, hne, rfl | ⟨digits, rfl, hdigits, -⟩, htail⟩ :=
    number_part_shape hfirst rest
  · obtain ⟨exponent, hexponent⟩ := read_is_exponent htail
    have hzero : AllDigits ['0'] := by simp [AllDigits]
    exact ⟨_, _, by rw [heq]; exact read_fraction hzero nofun hwhole hexponent⟩
  · simp [heq] at hpoint

end Lexeme

end Formula
