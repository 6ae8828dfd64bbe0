import Formula.Proofs.Lexer

/-!
# Text that spells tokens

`Spells text follows spelled` says that wherever the text stands, it is read as tokens of which
`spelled` holds, as long as `follows` holds of what comes after it. Symbols, words, numbers and
quoted strings spell the token that they are the text of, and texts side by side spell the tokens of
both.
-/

namespace Formula

/-- Whether a name is an identifier. -/
def IsIdentifier (name : String) : Prop :=
  ∃ first tail, name.toList = first :: tail ∧ Lexeme.isIdentifierStart first = true ∧
    ∀ c ∈ tail, Lexeme.isIdentifierPart c = true

namespace Lexeme

open Unread

/-- Whether a text is read as tokens with a property wherever it stands, if what follows allows
it. -/
def Spells (text : List Char) (follows : List Char → Prop) (spelled : List Token → Prop) : Prop :=
  ∀ position rest, follows rest → ∃ ts position',
    tokens ⟨position, text ++ rest⟩ = ts ++ tokens ⟨position', rest⟩ ∧ spelled ts

/-- Whether tokens are one token of a kind with a text. -/
def IsToken (kind : TokenKind) (said : String) (ts : List Token) : Prop :=
  ∃ token, ts = [token] ∧ token.kind = kind ∧ token.text = said

section

variable {text front back : List Char} {follows follows' : List Char → Prop}
  {spelled spelled' : List Token → Prop}

/-- What is spelled has every weaker property, before what is stricter. -/
theorem Spells.imp (h : Spells text follows spelled)
    (hfollows : ∀ rest, follows' rest → follows rest)
    (hspelled : ∀ ts, spelled ts → spelled' ts) : Spells text follows' spelled' := by
  intro position rest hrest
  obtain ⟨ts, position', heq, hts⟩ := h position rest (hfollows rest hrest)
  exact ⟨ts, position', heq, hspelled ts hts⟩

/-- What is spelled has every weaker property. -/
theorem Spells.weaken (h : Spells text follows spelled)
    (hspelled : ∀ ts, spelled ts → spelled' ts) : Spells text follows spelled' :=
  h.imp (fun _ hrest => hrest) hspelled

/-- Texts side by side spell the tokens of both. -/
theorem Spells.append (hfront : Spells front follows spelled)
    (hback : Spells back follows' spelled')
    (hfollows : ∀ rest, follows' rest → follows (back ++ rest)) :
    Spells (front ++ back) follows' fun ts =>
      ∃ us vs, ts = us ++ vs ∧ spelled us ∧ spelled' vs := by
  intro position rest hrest
  obtain ⟨us, position', hus, hspelled⟩ := hfront position (back ++ rest) (hfollows rest hrest)
  obtain ⟨vs, position'', hvs, hspelled'⟩ := hback position' rest hrest
  refine ⟨us ++ vs, position'', ?_, us, vs, rfl, hspelled, hspelled'⟩
  rw [List.append_assoc, hus, hvs, List.append_assoc]

/-- A blank in front spells nothing. -/
theorem Spells.blank (h : Spells text follows spelled) : Spells (' ' :: text) follows spelled := by
  intro position rest hrest
  rw [List.cons_append, tokens_of_blank rfl]
  exact h (position + 1) rest hrest

/-- Text that is read as one lexeme spells one token. -/
theorem spells_of_read {first : Char} {tail : List Char} {kind : TokenKind} {said : String}
    (hblank : Text.isBlank first = false)
    (hread : ∀ rest, follows rest → read first (tail ++ rest) = ⟨kind, said, tail.length⟩) :
    Spells (first :: tail) follows (IsToken kind said) := by
  intro position rest hrest
  rw [List.cons_append, tokens_of_not_blank hblank, hread rest hrest]
  refine ⟨[⟨kind, said, position⟩], position + 1 + tail.length, ?_, _, rfl, rfl, rfl⟩
  simp

end

/-- The characters above the blank and below the first blank that is not of ASCII are not blank. -/
theorem not_blank_of_bounds {c : Char} (hlow : 0x20 < c.toNat) (hhigh : c.toNat < 0x85) :
    Text.isBlank c = false := by
  simp [Text.isBlank, Text.blankRanges, Text.Ranges.contains]
  omega

/-- Whether no character follows that could be the second of a symbol. -/
def EndsSymbol (rest : List Char) : Prop :=
  ∀ c, rest.head? = some c → c ≠ '=' ∧ c ≠ '<' ∧ c ≠ '>' ∧ c ≠ '&' ∧ c ≠ '|'

/-- A character that makes a symbol is not blank and starts nothing else. -/
theorem single_symbol_start {first : Char} {symbol : Symbol}
    (hsingle : singleSymbol? first = some symbol) :
    Text.isBlank first = false ∧ isIdentifierStart first = false ∧ first.isDigit = false ∧
      first ≠ '"' := by
  unfold singleSymbol? at hsingle
  split at hsingle <;> first | decide | exact nomatch hsingle

/-- The first character of two that make a symbol makes one alone. -/
theorem single_symbol_of_double {first second : Char} {symbol : Symbol}
    (hdouble : doubleSymbol? first second = some symbol) :
    ∃ other, singleSymbol? first = some other := by
  unfold doubleSymbol? at hdouble
  split at hdouble <;> first | exact ⟨_, rfl⟩ | exact nomatch hdouble

/-- A symbol of one character is read where no second one follows. -/
theorem spells_single {first : Char} {symbol : Symbol}
    (hsingle : singleSymbol? first = some symbol) :
    Spells [first] EndsSymbol (IsToken (.punctuation symbol) symbol.text) := by
  have hfirst := single_symbol_start hsingle
  refine spells_of_read hfirst.1 fun rest hrest => ?_
  have hdouble : rest.head?.bind (doubleSymbol? first) = none := by
    cases rest with
    | nil => rfl
    | cons c rest =>
        have hc := hrest c rfl
        simp only [List.head?_cons, Option.bind_some]
        unfold doubleSymbol?
        split <;> simp_all
  simp [read, hfirst, symbolPart?, hdouble, hsingle]

/-- A symbol of two characters is read anywhere. -/
theorem spells_double {first second : Char} {symbol : Symbol}
    (hdouble : doubleSymbol? first second = some symbol) :
    Spells [first, second] EndsSymbol (IsToken (.punctuation symbol) symbol.text) := by
  obtain ⟨other, hsingle⟩ := single_symbol_of_double hdouble
  have hfirst := single_symbol_start hsingle
  refine spells_of_read hfirst.1 fun rest _ => ?_
  simp [read, hfirst, symbolPart?, hdouble]

/-- A symbol is read from its text. -/
theorem spells_symbol (symbol : Symbol) :
    Spells symbol.text.toList EndsSymbol (IsToken (.punctuation symbol) symbol.text) := by
  cases symbol <;> first | exact spells_single rfl | exact spells_double rfl

/-- Whether no character follows that could continue a word. -/
def EndsWord (rest : List Char) : Prop :=
  ∀ c, rest.head? = some c → isIdentifierPart c = false

/-- A character that starts an identifier is not blank. -/
theorem not_blank_of_identifier_start {c : Char} (h : isIdentifierStart c = true) :
    Text.isBlank c = false := by
  simp only [isIdentifierStart, Char.isAlpha, Char.isUpper, Char.isLower, Bool.or_eq_true,
    Bool.and_eq_true, decide_eq_true_eq, ge_iff_le, UInt32.le_iff_toNat_le] at h
  rcases h with (⟨hlow, hhigh⟩ | ⟨hlow, hhigh⟩) | rfl
  · exact not_blank_of_bounds (Nat.lt_of_lt_of_le (by decide) hlow)
      (Nat.lt_of_le_of_lt hhigh (by decide))
  · exact not_blank_of_bounds (Nat.lt_of_lt_of_le (by decide) hlow)
      (Nat.lt_of_le_of_lt hhigh (by decide))
  · decide

/-- A lexeme of the kind of identifiers starts like one. -/
theorem identifier_start_of_identifier {first : Char} {rest : List Char}
    (h : (read first rest).kind = .identifier) : isIdentifierStart first = true := by
  unfold read at h
  split at h
  · assumption
  · split at h
    · exact nomatch h
    · split at h
      · exact nomatch h
      · split at h <;> exact nomatch h

/-- An identifier is read from its text where the word ends. -/
theorem spells_word {name : String} (h : IsIdentifier name) :
    Spells name.toList EndsWord (IsToken .identifier name) := by
  obtain ⟨first, tail, hname, hfirst, htail⟩ := h
  rw [hname]
  refine spells_of_read (not_blank_of_identifier_start hfirst) fun rest hrest => ?_
  have htake : (tail ++ rest).takeWhile isIdentifierPart = tail := by
    rw [List.takeWhile_append_of_pos htail]
    cases rest with
    | nil => simp
    | cons c rest => simp [hrest c rfl]
  have hsaid : String.ofList (first :: tail) = name := by rw [← hname, String.ofList_toList]
  simp only [read, if_pos hfirst, htake, hsaid]

/-- Whether what follows is what may follow an operand in printed text. -/
def Closes (rest : List Char) : Prop :=
  rest = [] ∨ (∃ c more, rest = c :: more ∧ c ∈ [' ', ')', ']', ',', '[']) ∨
    ∃ c more, rest = '.' :: c :: more ∧ isIdentifierStart c = true

/-- The first character of what may follow an operand is none of a word, a number or a string. -/
theorem Closes.head {rest : List Char} (h : Closes rest) {c : Char} (hc : rest.head? = some c) :
    c ∈ [' ', ')', ']', ',', '[', '.'] := by
  rcases h with rfl | ⟨d, more, rfl, hd⟩ | ⟨d, more, rfl, -⟩
  · exact nomatch hc
  · obtain rfl : d = c := by simpa using hc
    simp only [List.mem_cons, List.not_mem_nil, or_false] at hd ⊢
    tauto
  · obtain rfl : '.' = c := by simpa using hc
    decide

/-- A word ends before what may follow an operand. -/
theorem Closes.ends_word {rest : List Char} (h : Closes rest) : EndsWord rest := by
  intro c hc
  have hmem := h.head hc
  simp only [List.mem_cons, List.not_mem_nil, or_false] at hmem
  rcases hmem with rfl | rfl | rfl | rfl | rfl | rfl <;> rfl

/-- A symbol ends before what may follow an operand. -/
theorem Closes.ends_symbol {rest : List Char} (h : Closes rest) : EndsSymbol rest := by
  intro c hc
  have hmem := h.head hc
  simp only [List.mem_cons, List.not_mem_nil, or_false] at hmem
  rcases hmem with rfl | rfl | rfl | rfl | rfl | rfl <;> decide

/-- Digits end before what may follow an operand. -/
theorem Closes.ends_digits {rest : List Char} (h : Closes rest) : Numeral.EndsDigits rest := by
  intro c hc
  have hmem := h.head hc
  simp only [List.mem_cons, List.not_mem_nil, or_false] at hmem
  rcases hmem with rfl | rfl | rfl | rfl | rfl | rfl <;> rfl

/-- What may follow an operand is no fraction. -/
theorem Closes.fraction_part {rest : List Char} (h : Closes rest) : fractionPart rest = [] := by
  rcases h with rfl | ⟨d, more, rfl, hd⟩ | ⟨d, more, rfl, hd⟩
  · rfl
  · simp only [List.mem_cons, List.not_mem_nil, or_false] at hd
    rcases hd with rfl | rfl | rfl | rfl | rfl <;> rfl
  · have hdigit : d.isDigit = false := by
      by_contra hdigit
      rw [not_identifier_start_of_digit (by simpa using hdigit)] at hd
      exact nomatch hd
    simp [fractionPart, hdigit]

/-- What may follow an operand is no exponent. -/
theorem Closes.exponent_part {rest : List Char} (h : Closes rest) : exponentPart rest = [] := by
  cases rest with
  | nil => rfl
  | cons c more =>
      have hmem := h.head rfl
      simp only [List.mem_cons, List.not_mem_nil, or_false] at hmem
      rcases hmem with rfl | rfl | rfl | rfl | rfl | rfl <;> rfl

/-- A digit is not blank. -/
theorem not_blank_of_digit {c : Char} (h : c.isDigit = true) : Text.isBlank c = false := by
  simp only [Char.isDigit, Bool.and_eq_true, decide_eq_true_eq, ge_iff_le,
    UInt32.le_iff_toNat_le] at h
  exact not_blank_of_bounds (Nat.lt_of_lt_of_le (by decide) h.1)
    (Nat.lt_of_le_of_lt h.2 (by decide))

/-- Whether no character follows that could continue a number. -/
structure EndsNumber (rest : List Char) : Prop where
  digits : Numeral.EndsDigits rest
  fraction : fractionPart rest = []
  exponent : exponentPart rest = []

/-- A number ends before what may follow an operand. -/
theorem Closes.ends_number {rest : List Char} (h : Closes rest) : EndsNumber rest :=
  ⟨h.ends_digits, h.fraction_part, h.exponent_part⟩

/-- An exponent goes on with all digits that follow it. -/
theorem exponent_part_digits {mark : Char} {sign digits : List Char}
    (hmark : mark = 'e' ∨ mark = 'E') (hsign : sign = [] ∨ sign = ['+'] ∨ sign = ['-'])
    (hdigits : Numeral.AllDigits digits) (hne : digits ≠ []) (rest : List Char) :
    exponentPart (mark :: (sign ++ digits) ++ rest) =
      mark :: (sign ++ digits) ++ rest.takeWhile Char.isDigit := by
  obtain ⟨first, more, rfl⟩ := List.exists_cons_of_ne_nil hne
  have hfirst : first.isDigit = true := hdigits first List.mem_cons_self
  have hplus : first ≠ '+' := Numeral.ne_of_is_digit hfirst rfl
  have hminus : first ≠ '-' := Numeral.ne_of_is_digit hfirst rfl
  have htake : (first :: (more ++ rest)).takeWhile Char.isDigit =
      first :: more ++ rest.takeWhile Char.isDigit :=
    List.takeWhile_append_of_pos hdigits
  rw [List.cons_append, exponentPart, if_pos hmark]
  rcases hsign with rfl | rfl | rfl <;> simp [hplus, hminus, htake]

/-- An exponent is cut where a number ends. -/
theorem exponent_part_append {tail rest : List Char} (htail : Numeral.IsExponent tail)
    (hrest : EndsNumber rest) : exponentPart (tail ++ rest) = tail := by
  rcases htail with rfl | ⟨mark, sign, digits, rfl, hmark, hsign, hdigits, hne⟩
  · exact hrest.exponent
  · rw [exponent_part_digits hmark hsign hdigits hne, Numeral.take_digits_of_ends hrest.digits,
      List.append_nil]

/-- Digits end before an exponent and where a number ends. -/
theorem ends_digits_append {tail rest : List Char} (htail : Numeral.IsExponent tail)
    (hrest : EndsNumber rest) : Numeral.EndsDigits (tail ++ rest) := by
  cases tail with
  | nil => exact hrest.digits
  | cons mark tail => exact fun c hc => htail.ends_digits c hc

/-- An exponent does not start with a fraction. -/
theorem fraction_part_exponent {tail : List Char} (htail : Numeral.IsExponent tail)
    (hne : tail ≠ []) (rest : List Char) : fractionPart (tail ++ rest) = [] := by
  obtain ⟨mark, more, rfl⟩ := List.exists_cons_of_ne_nil hne
  have hpoint : mark ≠ '.' := by
    rcases htail.head mark rfl with rfl | rfl <;> decide
  simp [fractionPart, hpoint]

/-- A fraction goes on with all digits that follow it. -/
theorem fraction_part_digits {digits : List Char} (hdigits : Numeral.AllDigits digits)
    (hne : digits ≠ []) (rest : List Char) :
    fractionPart ('.' :: digits ++ rest) = '.' :: digits ++ rest.takeWhile Char.isDigit := by
  rw [List.cons_append, fractionPart, List.takeWhile_append_of_pos hdigits]
  split
  · rename_i hnil
    exact absurd (List.append_eq_nil_iff.1 hnil).1 hne
  · rfl

/-- A fraction is cut before what is neither a digit nor a fraction. -/
theorem fraction_part_append {fraction rest : List Char} (hfraction : IsFraction fraction)
    (hdigits : Numeral.EndsDigits rest) (hnone : fractionPart rest = []) :
    fractionPart (fraction ++ rest) = fraction := by
  rcases hfraction with rfl | ⟨digits, rfl, hall, hne⟩
  · exact hnone
  · rw [fraction_part_digits hall hne, Numeral.take_digits_of_ends hdigits, List.append_nil]

/-- Digits end before a fraction and where they end behind it. -/
theorem ends_digits_fraction {fraction rest : List Char} (hfraction : IsFraction fraction)
    (hdigits : Numeral.EndsDigits rest) : Numeral.EndsDigits (fraction ++ rest) := by
  rcases hfraction with rfl | ⟨digits, rfl, -, -⟩
  · exact hdigits
  · intro c hc
    obtain rfl : '.' = c := by simpa using hc
    rfl

/-- A number text is its digits, then what is cut as its fraction and as its exponent. -/
theorem number_part_of_ends {whole rest : List Char} (hwhole : Numeral.AllDigits whole)
    (hrest : Numeral.EndsDigits rest) :
    numberPart (whole ++ rest) =
      whole ++ (fractionPart rest ++ exponentPart (rest.drop (fractionPart rest).length)) := by
  rw [numberPart, Numeral.take_digits_append hwhole hrest]
  simp only [← List.drop_drop, List.drop_left, List.append_assoc]

/-- A number text is cut where a number ends. -/
theorem number_part_append {whole fraction tail rest : List Char}
    (hwhole : Numeral.AllDigits whole) (hfraction : IsFraction fraction)
    (htail : Numeral.IsExponent tail) (hrest : EndsNumber rest) :
    numberPart (whole ++ (fraction ++ (tail ++ rest))) = whole ++ (fraction ++ tail) := by
  have hdigits := ends_digits_append htail hrest
  have hnone : fractionPart (tail ++ rest) = [] := by
    by_cases hne : tail = []
    · rw [hne]
      exact hrest.fraction
    · exact fraction_part_exponent htail hne rest
  rw [number_part_of_ends hwhole (ends_digits_fraction hfraction hdigits),
    fraction_part_append hfraction hdigits hnone, List.drop_left, exponent_part_append htail hrest]

/-- A number text is read as a number where it ends. -/
theorem spells_number_text {whole fraction tail : List Char} (hwhole : Numeral.AllDigits whole)
    (hne : whole ≠ []) (hfraction : IsFraction fraction) (htail : Numeral.IsExponent tail) :
    Spells (whole ++ (fraction ++ tail)) EndsNumber
      (IsToken .number (String.ofList (whole ++ (fraction ++ tail)))) := by
  obtain ⟨first, more, rfl⟩ := List.exists_cons_of_ne_nil hne
  have hfirst : first.isDigit = true := hwhole first List.mem_cons_self
  rw [List.cons_append]
  refine spells_of_read (not_blank_of_digit hfirst) fun rest hrest => ?_
  have hnumber := number_part_append hwhole hfraction htail hrest
  rw [List.cons_append, List.cons_append] at hnumber
  rw [List.append_assoc, List.append_assoc, read_of_digit hfirst, hnumber]
  simp

/-- Digits with an optional fraction are read as a number before what may follow an operand. -/
theorem spells_number {whole fraction : List Char} (hwhole : Numeral.AllDigits whole)
    (hne : whole ≠ []) (hfraction : Numeral.AllDigits fraction) :
    Spells (whole ++ if fraction = [] then [] else '.' :: fraction) Closes
      (IsToken .number
        (String.ofList (whole ++ if fraction = [] then [] else '.' :: fraction))) := by
  have hshape : IsFraction (if fraction = [] then [] else '.' :: fraction) := by
    split
    · exact .inl rfl
    · rename_i hfractionNe
      exact .inr ⟨fraction, rfl, hfraction, hfractionNe⟩
  have hspells := spells_number_text hwhole hne hshape (.inl rfl)
  rw [List.append_nil] at hspells
  exact hspells.imp (fun _ hrest => hrest.ends_number) fun _ hts => hts

/-- A text with every quote written twice. -/
def doubled (said : List Char) : List Char :=
  said.flatMap fun c => if c = '"' then ['"', '"'] else [c]

/-- The text of a quoted string. -/
theorem to_list_quote_text (said : String) :
    (quoteText said).toList = '"' :: (doubled said.toList ++ ['"']) := by
  simp [quoteText, doubled]

/-- A quote in front is written twice, and any other character once. -/
theorem doubled_cons (c : Char) (said : List Char) :
    doubled (c :: said) = (if c = '"' then ['"', '"'] else [c]) ++ doubled said :=
  List.flatMap_cons

/-- A string says what is written with its quotes twice, and what the rest of it says. -/
theorem string_part_doubled (said back : List Char) :
    stringPart (doubled said ++ back) =
      (said ++ (stringPart back).1, (doubled said).length + (stringPart back).2) := by
  induction said with
  | nil => simp [doubled]
  | cons c said ih =>
      rw [doubled_cons]
      by_cases hc : c = '"'
      · simp [hc, stringPart, ih]
        omega
      · simp [hc, stringPart, ih]
        omega

/-- A quote behind which no other one stands closes a string. -/
theorem string_part_quote {rest : List Char} (hrest : rest.head? ≠ some '"') :
    stringPart ('"' :: rest) = ([], 1) := by
  cases rest with
  | nil => rfl
  | cons c rest =>
      have hc : c ≠ '"' := by simpa using hrest
      simp [stringPart, hc]

/-- A string is read from its quoted text where no further quote follows. -/
theorem spells_quote (said : String) :
    Spells (quoteText said).toList (fun rest => rest.head? ≠ some '"') (IsToken .string said) := by
  rw [to_list_quote_text]
  refine spells_of_read (by decide) fun rest hrest => ?_
  have hpart := string_part_doubled said.toList ('"' :: rest)
  rw [string_part_quote hrest] at hpart
  rw [List.append_assoc, List.singleton_append, read]
  simp [hpart, isIdentifierStart]

end Lexeme

/-- The text of an identifier token is an identifier. -/
theorem Token.is_identifier {text : String} {token : Token} (h : token ∈ tokenize text)
    (hkind : token.kind = .identifier) : IsIdentifier token.text := by
  obtain ⟨first, rest, -, hread, htext⟩ := Unread.exists_read_of_mem_tokens h
  have hfirst := Lexeme.identifier_start_of_identifier (hread.symm.trans hkind)
  refine ⟨first, rest.takeWhile Lexeme.isIdentifierPart, ?_, hfirst, fun c hc => ?_⟩
  · simp [htext, Lexeme.read, hfirst]
  · exact List.all_eq_true.1 List.all_takeWhile c hc

end Formula
