import Formula.Proofs.Lexer.Spelling

/-!
# The lexical grammar

`IsLexeme kind lexeme` is the grammar of words, numbers, closed strings and symbols. `Written` says
how a token is written before what follows it: a word, a number or a symbol as the longest lexeme that
starts there, a string with its quotes, and a character that starts no lexeme as itself. A token is
written in this way if and only if it is read, `read_writes` and `Written.read`.
-/

namespace Formula.Lexeme

open Numeral

/-- The lexical grammar: the texts that tokens of a kind are written with. -/
inductive IsLexeme : TokenKind → List Char → Prop where
  | word {name : String} : IsIdentifier name → IsLexeme .identifier name.toList
  | number {whole fraction tail : List Char} :
      AllDigits whole → whole ≠ [] → IsFraction fraction → IsExponent tail →
      IsLexeme .number (whole ++ (fraction ++ tail))
  | string (said : String) : IsLexeme .string (quoteText said).toList
  | symbol (symbol : Symbol) : IsLexeme (.punctuation symbol) symbol.text.toList

/-- Whether a text is a lexeme of a kind, and no lexeme of any kind that starts where it does, before
`rest`, is longer. -/
structure Longest (kind : TokenKind) (lexeme rest : List Char) : Prop where
  is_lexeme : IsLexeme kind lexeme
  le_length : ∀ other longer, IsLexeme other longer → longer <+: lexeme ++ rest →
    longer.length ≤ lexeme.length

/-- Whether `front`, before `back`, is what follows the opening quote of a string that says `said`:
every quote of it twice, and then the closing quote, behind which no other quote stands. The closing
quote is missing only if nothing follows. -/
def EndsString (said front back : List Char) : Prop :=
  front = doubled said ++ ['"'] ∧ back.head? ≠ some '"' ∨ front = doubled said ∧ back = []

/-- `Written kind said lexeme rest` says that a token of a kind with the text `said` is written
`lexeme` before `rest`: a string with its quotes, and any other token as its text. -/
inductive Written : TokenKind → String → List Char → List Char → Prop where
  | longest {kind} {said : String} {lexeme rest} :
      kind ≠ .string → said.toList = lexeme → Longest kind lexeme rest →
      Written kind said lexeme rest
  | string {said : String} {front rest} :
      EndsString said.toList front rest → Written .string said ('"' :: front) rest
  | unknown {said : String} {c rest} :
      said.toList = [c] → Text.isBlank c = false → c ≠ '"' →
      (∀ kind lexeme, IsLexeme kind lexeme → ¬lexeme <+: c :: rest) →
      Written .unknown said [c] rest

/-- The kind of token that a character starts; symbols and unknown characters have none here. -/
def startKind? (c : Char) : Option TokenKind :=
  if isIdentifierStart c then some .identifier
  else if c.isDigit then some .number
  else if c = '"' then some .string
  else none

section

variable {first c d : Char} {symbol : Symbol} {rest text : List Char} {kind : TokenKind}

/-- The text of a symbol is one character or two. -/
theorem symbol_text_cases (symbol : Symbol) :
    (∃ c, symbol.text.toList = [c] ∧ singleSymbol? c = some symbol) ∨
      ∃ c d, symbol.text.toList = [c, d] ∧ doubleSymbol? c d = some symbol := by
  cases symbol <;>
    first
    | exact .inl ⟨_, rfl, rfl⟩
    | exact .inr ⟨_, _, rfl, rfl⟩

/-- A character that makes a symbol starts nothing else. -/
theorem start_kind_of_single (h : singleSymbol? c = some symbol) : startKind? c = none := by
  obtain ⟨-, hword, hdigit, hquote⟩ := single_symbol_start h
  simp [startKind?, hword, hdigit, hquote]

/-- What a lexeme starts with tells its kind. -/
theorem IsLexeme.start {lexeme : List Char} (h : IsLexeme kind lexeme) :
    ∃ first tail, lexeme = first :: tail ∧
      (startKind? first = some kind ∨
        startKind? first = none ∧ ∃ symbol, kind = .punctuation symbol) := by
  cases h with
  | word hname =>
      obtain ⟨first, tail, hname, hfirst, -⟩ := hname
      exact ⟨first, tail, hname, .inl (if_pos hfirst)⟩
  | number hwhole hne =>
      obtain ⟨first, more, rfl⟩ := List.exists_cons_of_ne_nil hne
      have hfirst := hwhole first List.mem_cons_self
      refine ⟨first, _, rfl, .inl ?_⟩
      simp [startKind?, not_identifier_start_of_digit hfirst, hfirst]
  | string said => exact ⟨'"', _, by simp [quoteText]; rfl, .inl rfl⟩
  | symbol symbol =>
      rcases symbol_text_cases symbol with ⟨c, htext, hc⟩ | ⟨c, d, htext, hcd⟩
      · exact ⟨c, _, htext, .inr ⟨start_kind_of_single hc, symbol, rfl⟩⟩
      · obtain ⟨other, hc⟩ := single_symbol_of_double hcd
        exact ⟨c, _, htext, .inr ⟨start_kind_of_single hc, symbol, rfl⟩⟩

/-- A lexeme at the start of a text takes its first character, which tells the kind of the
lexeme. -/
theorem IsLexeme.at_start {lexeme : List Char} (h : IsLexeme kind lexeme)
    (hstarts : lexeme <+: first :: rest) :
    ∃ tail, lexeme = first :: tail ∧ tail <+: rest ∧
      (startKind? first = some kind ∨
        startKind? first = none ∧ ∃ symbol, kind = .punctuation symbol) := by
  obtain ⟨head, tail, rfl, hkind⟩ := h.start
  obtain ⟨rfl, htail⟩ := List.cons_prefix_cons.1 hstarts
  exact ⟨tail, rfl, htail, hkind⟩

/-- A lexeme is of the kind that its first character starts. -/
theorem IsLexeme.kind_eq {lexeme : List Char} {started : TokenKind} (h : IsLexeme kind lexeme)
    (hstarts : lexeme <+: first :: rest) (hstart : startKind? first = some started) :
    kind = started := by
  obtain ⟨tail, -, -, hkind | ⟨hnone, -⟩⟩ := h.at_start hstarts
  · exact Option.some.inj (hkind.symm.trans hstart)
  · exact nomatch hnone.symm.trans hstart

/-- A lexeme that starts with a character of no kind is a symbol. -/
theorem IsLexeme.kind_punctuation {lexeme : List Char} (h : IsLexeme kind lexeme)
    (hstarts : lexeme <+: first :: rest) (hstart : startKind? first = none) :
    ∃ symbol, kind = .punctuation symbol := by
  obtain ⟨tail, -, -, hkind | ⟨-, hsymbol⟩⟩ := h.at_start hstarts
  · exact nomatch hkind.symm.trans hstart
  · exact hsymbol

/-! ### Words -/

/-- Characters of a class at the start of a text are among those that are taken. -/
theorem length_le_take {p : Char → Bool} {front : List Char} (hfront : ∀ c ∈ front, p c = true)
    (hstarts : front <+: text) : front.length ≤ (text.takeWhile p).length := by
  obtain ⟨back, rfl⟩ := hstarts
  rw [List.takeWhile_append_of_pos hfront, List.length_append]
  exact Nat.le_add_right _ _

/-- The word that is read is the longest lexeme. -/
theorem longest_word (hfirst : isIdentifierStart first = true) :
    Longest .identifier (first :: rest.takeWhile isIdentifierPart)
      (rest.dropWhile isIdentifierPart) where
  is_lexeme := by
    have hname : IsIdentifier (String.ofList (first :: rest.takeWhile isIdentifierPart)) :=
      ⟨first, _, String.toList_ofList, hfirst, List.all_eq_true.1 List.all_takeWhile⟩
    simpa using IsLexeme.word hname
  le_length other longer hlonger hstarts := by
    rw [List.cons_append, List.takeWhile_append_dropWhile] at hstarts
    obtain rfl := hlonger.kind_eq hstarts (if_pos hfirst)
    obtain ⟨tail, heq, htail, -⟩ := hlonger.at_start hstarts
    cases hlonger with
    | word hname =>
        obtain ⟨head, parts, hname, -, hparts⟩ := hname
        obtain ⟨rfl, rfl⟩ := List.cons.inj (hname.symm.trans heq)
        rw [hname, List.length_cons, List.length_cons]
        exact Nat.succ_le_succ (length_le_take hparts htail)

/-! ### Numbers -/

/-- An exponent at the start of a text is no longer than the one that is cut. -/
theorem length_le_exponent_part {tail : List Char} (htail : IsExponent tail) (rest : List Char) :
    tail.length ≤ (exponentPart (tail ++ rest)).length := by
  rcases htail with rfl | ⟨mark, sign, digits, rfl, hmark, hsign, hdigits, hne⟩
  · exact Nat.zero_le _
  · rw [exponent_part_digits hmark hsign hdigits hne, List.length_append]
    exact Nat.le_add_right _ _

/-- A number at the start of a text is no longer than the one that is cut. -/
theorem length_le_number_part {whole fraction tail : List Char} (hwhole : AllDigits whole)
    (hfraction : IsFraction fraction) (htail : IsExponent tail) (rest : List Char) :
    (whole ++ (fraction ++ tail)).length ≤
      (numberPart (whole ++ (fraction ++ (tail ++ rest)))).length := by
  by_cases hne : tail = []
  · subst hne
    rcases hfraction with rfl | ⟨digits, rfl, hdigits, hdigitsNe⟩
    · have htake : numberPart (whole ++ rest) = (whole ++ rest).takeWhile Char.isDigit ++ _ :=
        List.append_assoc _ _ _
      rw [List.nil_append, List.nil_append, List.nil_append, List.append_nil, htake,
        List.takeWhile_append_of_pos hwhole, List.length_append, List.length_append]
      omega
    · have hpoint : EndsDigits ('.' :: digits ++ rest) := by
        intro c hc
        obtain rfl : '.' = c := by simpa using hc
        rfl
      rw [List.nil_append, number_part_of_ends hwhole hpoint,
        fraction_part_digits hdigits hdigitsNe]
      simp only [List.length_append, List.length_nil]
      omega
  · -- The exponent ends the digits before it, so that only it can go on.
    have hdigits : EndsDigits (tail ++ rest) := by
      obtain ⟨mark, more, rfl⟩ := List.exists_cons_of_ne_nil hne
      exact fun c hc => htail.ends_digits c hc
    have hlength := length_le_exponent_part htail rest
    rw [number_part_of_ends hwhole (ends_digits_fraction hfraction hdigits),
      fraction_part_append hfraction hdigits (fraction_part_exponent htail hne rest),
      List.drop_left]
    simp only [List.length_append]
    omega

/-- What is cut as a fraction stands at the start of the text. -/
theorem fraction_part_at_start (text : List Char) : fractionPart text <+: text := by
  unfold fractionPart
  split
  · split
    · exact List.nil_prefix
    · exact List.cons_prefix_cons.2 ⟨rfl, List.takeWhile_prefix _⟩
  · exact List.nil_prefix

/-- What is cut as an exponent stands at the start of the text. -/
theorem exponent_part_at_start (text : List Char) : exponentPart text <+: text := by
  unfold exponentPart
  split
  · rename_i mark rest
    split
    · dsimp only
      split
      · exact List.nil_prefix
      · rw [List.cons_append, List.cons_prefix_cons]
        refine ⟨rfl, ?_⟩
        have hsign : (rest.take 1).filter (fun c => c = '+' || c = '-') <+: rest := by
          cases rest with
          | nil => exact List.nil_prefix
          | cons c rest => by_cases hc : (c = '+' || c = '-') = true <;> simp [hc]
        have hrest := List.prefix_iff_eq_append.1 hsign
        conv => rhs; rw [← hrest]
        exact (List.prefix_append_right_inj _).2 (List.takeWhile_prefix _)
    · exact List.nil_prefix
  · exact List.nil_prefix

/-- The digits at the start of a text end where the others begin. -/
theorem ends_digits_drop (text : List Char) : EndsDigits (text.dropWhile Char.isDigit) := by
  intro c hc
  have hhead := List.head?_dropWhile_not Char.isDigit text
  rw [hc] at hhead
  exact hhead

/-- What is cut as a number stands at the start of the text. -/
theorem number_part_at_start (text : List Char) : numberPart text <+: text := by
  have hsplit : text.takeWhile Char.isDigit ++ text.dropWhile Char.isDigit = text :=
    List.takeWhile_append_dropWhile
  have hnumber := number_part_of_ends (all_digits_take text) (ends_digits_drop text)
  rw [hsplit] at hnumber
  rw [hnumber]
  conv => rhs; rw [← hsplit]
  rw [List.prefix_append_right_inj]
  have hrest := List.prefix_iff_eq_append.1 (fraction_part_at_start (text.dropWhile Char.isDigit))
  conv => rhs; rw [← hrest]
  exact (List.prefix_append_right_inj _).2 (exponent_part_at_start _)

/-- The number that is read is the longest lexeme. -/
theorem longest_number (hfirst : first.isDigit = true) :
    Longest .number (numberPart (first :: rest))
      ((first :: rest).drop (numberPart (first :: rest)).length) where
  is_lexeme := by
    obtain ⟨whole, fraction, tail, heq, hwhole, hne, hfraction, htail⟩ :=
      number_part_shape hfirst rest
    rw [heq]
    exact .number hwhole hne hfraction htail
  le_length other longer hlonger hstarts := by
    rw [List.prefix_iff_eq_append.1 (number_part_at_start _)] at hstarts
    have hstart : startKind? first = some .number := by
      simp [startKind?, not_identifier_start_of_digit hfirst, hfirst]
    obtain rfl := hlonger.kind_eq hstarts hstart
    cases hlonger with
    | number hwhole _ hfraction htail =>
        obtain ⟨after, hafter⟩ := hstarts
        have hlength := length_le_number_part hwhole hfraction htail after
        rw [List.append_assoc, List.append_assoc] at hafter
        rwa [hafter] at hlength

/-! ### Strings -/

/-- What ends a string is read as the rest of the string. -/
theorem EndsString.string_part {said front back : List Char} (h : EndsString said front back) :
    stringPart (front ++ back) = (said, front.length) := by
  rcases h with ⟨rfl, hback⟩ | ⟨rfl, rfl⟩
  · rw [List.append_assoc, List.singleton_append, string_part_doubled, string_part_quote hback,
      List.append_nil, List.length_append, List.length_singleton]
  · rw [string_part_doubled, stringPart, List.append_nil, Nat.add_zero]

/-- A character in front of what a string says is written once, and a quote twice. -/
theorem EndsString.cons {said front back : List Char} (h : EndsString said front back) (c : Char) :
    EndsString (c :: said) ((if c = '"' then ['"', '"'] else [c]) ++ front) back := by
  rcases h with ⟨rfl, hback⟩ | ⟨rfl, rfl⟩
  · exact .inl ⟨by rw [doubled_cons, List.append_assoc], hback⟩
  · exact .inr ⟨(doubled_cons c said).symm, rfl⟩

/-- A string is read up to what ends it. -/
theorem ends_string_of_part (text : List Char) :
    ∃ front back, text = front ++ back ∧ (stringPart text).2 = front.length ∧
      EndsString (stringPart text).1 front back := by
  fun_induction stringPart text with
  | case1 => exact ⟨[], [], rfl, rfl, .inr ⟨rfl, rfl⟩⟩
  | case2 rest said taken hrest ih =>
      obtain ⟨front, back, rfl, htaken, hends⟩ := ih
      rw [hrest] at htaken hends
      exact ⟨_, back, rfl, congrArg (· + 2) htaken, hends.cons '"'⟩
  | case3 rest hrest =>
      refine ⟨['"'], rest, rfl, rfl, .inl ⟨rfl, fun hhead => ?_⟩⟩
      obtain ⟨more, rfl⟩ := List.head?_eq_some_iff.1 hhead
      exact hrest more rfl rfl
  | case4 c rest hnot hc said taken hrest ih =>
      obtain ⟨front, back, rfl, htaken, hends⟩ := ih
      rw [hrest] at htaken hends
      have hcons := hends.cons c
      rw [if_neg hc] at hcons
      exact ⟨_, back, rfl, congrArg (· + 1) htaken, hcons⟩

/-! ### Symbols and unknown characters -/

/-- Two characters that make a symbol are its text. -/
theorem text_of_double (h : doubleSymbol? c d = some symbol) : symbol.text.toList = [c, d] := by
  unfold doubleSymbol? at h
  split at h <;> first | exact Option.some.inj h ▸ rfl | exact nomatch h

/-- A character that makes a symbol is its text. -/
theorem text_of_single (h : singleSymbol? c = some symbol) : symbol.text.toList = [c] := by
  unfold singleSymbol? at h
  split at h <;> first | exact Option.some.inj h ▸ rfl | exact nomatch h

/-- A symbol at the start of a text is made by the first character or by the first two. -/
theorem symbol_at_start (h : symbol.text.toList <+: first :: rest) :
    singleSymbol? first = some symbol ∨ rest.head?.bind (doubleSymbol? first) = some symbol := by
  rcases symbol_text_cases symbol with ⟨c, htext, hc⟩ | ⟨c, d, htext, hcd⟩
  · rw [htext, List.cons_prefix_cons] at h
    exact .inl (h.1 ▸ hc)
  · rw [htext, List.cons_prefix_cons] at h
    obtain ⟨rfl, more, rfl⟩ := h
    exact .inr hcd

/-- A character of no kind that starts no symbol starts no lexeme. -/
theorem not_lexeme_of_symbol_part (hstart : startKind? first = none)
    (hnone : symbolPart? first rest = none) {lexeme : List Char} (h : IsLexeme kind lexeme) :
    ¬lexeme <+: first :: rest := by
  intro hstarts
  obtain ⟨symbol, rfl⟩ := h.kind_punctuation hstarts hstart
  cases h with
  | symbol =>
      unfold symbolPart? at hnone
      rcases symbol_at_start hstarts with hsingle | hdouble
      · rw [hsingle] at hnone
        split at hnone <;> exact nomatch hnone
      · rw [hdouble] at hnone
        exact nomatch hnone

/-- The symbol that is read is the longest lexeme. -/
theorem longest_symbol {extra : Nat} (hstart : startKind? first = none)
    (hsymbol : symbolPart? first rest = some (symbol, extra)) :
    ∃ tail back, rest = tail ++ back ∧ tail.length = extra ∧ symbol.text.toList = first :: tail ∧
      Longest (.punctuation symbol) (first :: tail) back := by
  unfold symbolPart? at hsymbol
  cases hdouble : rest.head?.bind (doubleSymbol? first) with
  | some double =>
      obtain ⟨rfl, rfl⟩ : double = symbol ∧ 1 = extra := by simpa [hdouble] using hsymbol
      obtain ⟨d, hhead, hd⟩ := Option.bind_eq_some_iff.1 hdouble
      obtain ⟨back, rfl⟩ := List.head?_eq_some_iff.1 hhead
      refine ⟨[d], back, rfl, rfl, text_of_double hd, ?_, ?_⟩
      · exact text_of_double hd ▸ IsLexeme.symbol double
      · intro other longer hlonger hstarts
        obtain ⟨symbol, rfl⟩ := hlonger.kind_punctuation hstarts hstart
        cases hlonger with
        | symbol =>
            rcases symbol_text_cases symbol with ⟨c, htext, -⟩ | ⟨c, d, htext, -⟩
            · exact htext ▸ Nat.le_succ 1
            · exact htext ▸ Nat.le_refl 2
  | none =>
      obtain ⟨hsingle, rfl⟩ : singleSymbol? first = some symbol ∧ 0 = extra := by
        simpa [hdouble] using hsymbol
      refine ⟨[], rest, rfl, rfl, text_of_single hsingle, ?_, ?_⟩
      · exact text_of_single hsingle ▸ IsLexeme.symbol symbol
      · intro other longer hlonger hstarts
        obtain ⟨symbol, rfl⟩ := hlonger.kind_punctuation hstarts hstart
        cases hlonger with
        | symbol =>
            rcases symbol_at_start hstarts with hother | hother
            · rw [text_of_single hother]
            · exact nomatch hdouble.symm.trans hother

/-! ### Reading -/

/-- What is read from the start of a text is written there. -/
theorem read_writes (hblank : Text.isBlank first = false) (rest : List Char) :
    ∃ tail back, rest = tail ++ back ∧ tail.length = (read first rest).extra ∧
      Written (read first rest).kind (read first rest).text (first :: tail) back := by
  by_cases hword : isIdentifierStart first = true
  · have hread : read first rest =
        ⟨.identifier, String.ofList (first :: rest.takeWhile isIdentifierPart),
          (rest.takeWhile isIdentifierPart).length⟩ := by
      simp [read, hword]
    rw [hread]
    refine ⟨_, _, List.takeWhile_append_dropWhile.symm, rfl, ?_⟩
    exact .longest (by simp) String.toList_ofList (longest_word hword)
  by_cases hdigit : first.isDigit = true
  · have hlongest : Longest .number _ ((first :: rest).drop _) := longest_number hdigit
    obtain ⟨back, hback⟩ := number_part_at_start (first :: rest)
    rw [read_of_digit hdigit]
    cases hnumber : numberPart (first :: rest) with
    | nil =>
        obtain ⟨head, tail, hcons, -⟩ := hlongest.is_lexeme.start
        cases hnumber.symm.trans hcons
    | cons head tail =>
        rw [hnumber] at hback hlongest
        obtain ⟨rfl, rfl⟩ := List.cons.inj hback
        refine ⟨tail, back, rfl, rfl, .longest (by simp) String.toList_ofList ?_⟩
        simpa using hlongest
  by_cases hquote : first = '"'
  · obtain ⟨front, back, rfl, htaken, hends⟩ := ends_string_of_part rest
    have hread : read first (front ++ back) =
        ⟨.string, String.ofList (stringPart (front ++ back)).1,
          (stringPart (front ++ back)).2⟩ := by
      simp [read, hquote, isIdentifierStart]
    rw [hread, hquote]
    refine ⟨front, back, rfl, htaken.symm, .string ?_⟩
    rwa [String.toList_ofList]
  · have hstart : startKind? first = none := by
      simp [startKind?, hword, hdigit, hquote]
    cases hsymbol : symbolPart? first rest with
    | some found =>
        obtain ⟨symbol, extra⟩ := found
        have hread : read first rest = ⟨.punctuation symbol, symbol.text, extra⟩ := by
          simp [read, hword, hdigit, hquote, hsymbol]
        obtain ⟨tail, back, rfl, hextra, htext, hlongest⟩ := longest_symbol hstart hsymbol
        rw [hread]
        exact ⟨tail, back, rfl, hextra, .longest (by simp) htext hlongest⟩
    | none =>
        have hread : read first rest = ⟨.unknown, String.ofList [first], 0⟩ := by
          simp [read, hword, hdigit, hquote, hsymbol]
        rw [hread]
        refine ⟨[], rest, rfl, rfl, .unknown String.toList_ofList hblank hquote ?_⟩
        intro kind lexeme hlexeme
        exact not_lexeme_of_symbol_part hstart hsymbol hlexeme

/-- A symbol is told by its text. -/
theorem symbol_eq_of_text {other : Symbol} (h : symbol.text.toList = other.text.toList) :
    symbol = other := by
  rcases symbol_text_cases symbol with ⟨c, htext, hsymbol⟩ | ⟨c, d, htext, hsymbol⟩
  · rcases symbol_text_cases other with ⟨c', htext', hother⟩ | ⟨c', d', htext', -⟩
    · obtain rfl : c = c' := by simpa [htext, htext'] using h
      exact Option.some.inj (hsymbol.symm.trans hother)
    · exact nomatch htext.symm.trans (h.trans htext')
  · rcases symbol_text_cases other with ⟨c', htext', -⟩ | ⟨c', d', htext', hother⟩
    · exact nomatch htext.symm.trans (h.trans htext')
    · obtain ⟨rfl, rfl⟩ : c = c' ∧ d = d' := by simpa [htext, htext'] using h
      exact Option.some.inj (hsymbol.symm.trans hother)

/-- A lexeme is of one kind. -/
theorem IsLexeme.kind_unique {other : TokenKind} {lexeme : List Char} (h : IsLexeme kind lexeme)
    (hother : IsLexeme other lexeme) : kind = other := by
  obtain ⟨first, tail, rfl, hkind | ⟨hnone, symbol, rfl⟩⟩ := h.start
  · exact (hother.kind_eq (List.prefix_refl _) hkind).symm
  · obtain ⟨symbol', rfl⟩ := hother.kind_punctuation (List.prefix_refl _) hnone
    generalize htext : first :: tail = lexeme at h hother
    cases h
    generalize htext' : symbol.text.toList = lexeme at hother
    cases hother
    rw [symbol_eq_of_text htext']

/-- A lexeme does not start with a blank. -/
theorem IsLexeme.not_blank {lexeme : List Char} (h : IsLexeme kind lexeme)
    (hstarts : lexeme <+: first :: rest) : Text.isBlank first = false := by
  cases h with
  | word hname =>
      obtain ⟨head, tail, hname, hhead, -⟩ := hname
      rw [hname, List.cons_prefix_cons] at hstarts
      exact hstarts.1 ▸ not_blank_of_identifier_start hhead
  | number hwhole hne =>
      obtain ⟨head, tail, rfl⟩ := List.exists_cons_of_ne_nil hne
      rw [List.cons_append, List.cons_prefix_cons] at hstarts
      exact hstarts.1 ▸ not_blank_of_digit (hwhole head List.mem_cons_self)
  | string said =>
      rw [to_list_quote_text, List.cons_prefix_cons] at hstarts
      exact hstarts.1 ▸ by decide
  | symbol symbol =>
      rcases symbol_at_start hstarts with hsingle | hdouble
      · exact (single_symbol_start hsingle).1
      · obtain ⟨d, -, hd⟩ := Option.bind_eq_some_iff.1 hdouble
        obtain ⟨other, hsingle⟩ := single_symbol_of_double hd
        exact (single_symbol_start hsingle).1

/-- Of two texts that make up the same, of which neither is longer, both are the same. -/
theorem eq_of_longest {lexeme lexeme' back back' : List Char} {other : TokenKind}
    (h : Longest kind lexeme back) (hother : Longest other lexeme' back')
    (heq : lexeme ++ back = lexeme' ++ back') : kind = other ∧ lexeme = lexeme' := by
  have hle := hother.le_length _ _ h.is_lexeme (heq ▸ List.prefix_append _ _)
  have hge := h.le_length _ _ hother.is_lexeme (heq ▸ List.prefix_append _ _)
  obtain ⟨rfl, -⟩ := List.append_inj heq (Nat.le_antisymm hle hge)
  exact ⟨h.is_lexeme.kind_unique hother.is_lexeme, rfl⟩

/-- No two tokens are written at the start of one text. -/
theorem Written.unique {kind' : TokenKind} {said said' : String}
    {lexeme lexeme' back back' : List Char} (h : Written kind said lexeme back)
    (h' : Written kind' said' lexeme' back') (heq : lexeme ++ back = lexeme' ++ back') :
    kind = kind' ∧ said = said' ∧ lexeme = lexeme' := by
  have hfront : lexeme <+: lexeme' ++ back' := heq ▸ List.prefix_append lexeme back
  have hfront' : lexeme' <+: lexeme ++ back := heq ▸ List.prefix_append lexeme' back'
  -- Tokens that are written in different ways have different first characters.
  cases h with
  | longest hkind hsaid hlongest =>
      cases h' with
      | longest hkind' hsaid' hlongest' =>
          obtain ⟨rfl, rfl⟩ := eq_of_longest hlongest hlongest' heq
          exact ⟨rfl, String.toList_inj.1 (hsaid.trans hsaid'.symm), rfl⟩
      | string hends' => exact absurd (hlongest.is_lexeme.kind_eq hfront rfl) hkind
      | unknown hsaid' hblank' hquote' hnone' =>
          exact absurd hfront (hnone' _ _ hlongest.is_lexeme)
  | string hends =>
      cases h' with
      | longest hkind' hsaid' hlongest' =>
          exact absurd (hlongest'.is_lexeme.kind_eq hfront' rfl) hkind'
      | string hends' =>
          rename_i front front'
          have hrest : front ++ back = front' ++ back' := (List.cons.inj heq).2
          have hpart := hends.string_part
          rw [hrest, hends'.string_part] at hpart
          obtain ⟨hsaid, hlength⟩ := Prod.mk.inj hpart
          obtain ⟨rfl, -⟩ := List.append_inj hrest hlength.symm
          exact ⟨rfl, String.toList_inj.1 hsaid.symm, rfl⟩
      | unknown hsaid' hblank' hquote' => exact absurd (List.cons.inj heq).1.symm hquote'
  | unknown hsaid hblank hquote hnone =>
      cases h' with
      | longest hkind' hsaid' hlongest' =>
          exact absurd hfront' (hnone _ _ hlongest'.is_lexeme)
      | string hends' => exact absurd (List.cons.inj heq).1 hquote
      | unknown hsaid' =>
          obtain ⟨rfl, -⟩ := List.cons.inj heq
          exact ⟨rfl, String.toList_inj.1 (hsaid.trans hsaid'.symm), rfl⟩

/-- What a token is written with does not start with a blank. -/
theorem Written.not_blank {said : String} {tail back : List Char}
    (h : Written kind said (first :: tail) back) : Text.isBlank first = false := by
  generalize hlexeme : first :: tail = lexeme at h
  cases h with
  | longest hkind hsaid hlongest =>
      subst hlexeme
      exact hlongest.is_lexeme.not_blank (List.prefix_refl _)
  | string =>
      obtain ⟨rfl, -⟩ := List.cons.inj hlexeme
      decide
  | unknown hsaid hblank =>
      obtain ⟨rfl, -⟩ := List.cons.inj hlexeme
      exact hblank

/-- What is written at the start of a text is read from it. -/
theorem Written.read {said : String} {tail back : List Char}
    (h : Written kind said (first :: tail) back) :
    Lexeme.read first (tail ++ back) = ⟨kind, said, tail.length⟩ := by
  -- What is read is written there as well.
  obtain ⟨tail', back', heq, hextra, hwritten⟩ := read_writes h.not_blank (tail ++ back)
  obtain ⟨hkind, hsaid, hlexeme⟩ := h.unique hwritten (congrArg (first :: ·) heq)
  obtain rfl := (List.cons.inj hlexeme).2
  rw [hkind, hsaid, hextra]

/-- A token is written with at least one character. -/
theorem Written.exists_cons {said : String} {lexeme : List Char} (h : Written kind said lexeme rest) :
    ∃ first tail, lexeme = first :: tail := by
  cases h with
  | longest hkind hsaid hlongest =>
      obtain ⟨first, tail, heq, -⟩ := hlongest.is_lexeme.start
      exact ⟨first, tail, heq⟩
  | string => exact ⟨_, _, rfl⟩
  | unknown => exact ⟨_, _, rfl⟩

/-- What is written before a text is written before everything with which that starts. -/
theorem Written.of_front {said : String} {lexeme front : List Char}
    (h : Written kind said lexeme rest) (hfront : front <+: rest) :
    Written kind said lexeme front := by
  obtain ⟨back, rfl⟩ := hfront
  have hlonger (longer : List Char) (hstarts : longer <+: lexeme ++ front) :
      longer <+: lexeme ++ (front ++ back) := by
    rw [← List.append_assoc]
    exact hstarts.trans (List.prefix_append _ _)
  cases h with
  | longest hkind hsaid hlongest =>
      refine .longest hkind hsaid ⟨hlongest.is_lexeme, fun other longer hother hstarts => ?_⟩
      exact hlongest.le_length other longer hother (hlonger longer hstarts)
  | string hends =>
      refine .string ?_
      rcases hends with ⟨hclosed, hquote⟩ | ⟨hopen, hnil⟩
      · refine .inl ⟨hclosed, fun hhead => hquote ?_⟩
        rw [List.head?_append, hhead, Option.some_or]
      · exact .inr ⟨hopen, (List.append_eq_nil_iff.1 hnil).1⟩
  | unknown hsaid hblank hquote hnone =>
      refine .unknown hsaid hblank hquote fun kind lexeme hlexeme hstarts => ?_
      exact hnone kind lexeme hlexeme (hlonger lexeme hstarts)

end

end Formula.Lexeme
