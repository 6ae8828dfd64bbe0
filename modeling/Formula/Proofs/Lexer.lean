import Formula.Proofs.Numeral
import Formula.Token.Lexer

/-!
# The tokens of a source

How tokens are read one by one: blanks are passed over and every other character starts a lexeme.
From this, by `source_induction`, what holds of all tokens of a source: they stand in order within
it, and the text of every number token is a numeral.
-/

namespace Formula

namespace Unread

variable {position : Nat} {c first : Char} {rest : List Char}

/-- Blanks in front of a token are passed over. -/
theorem next_of_blank (hc : Text.isBlank c = true) :
    next ⟨position, c :: rest⟩ = next ⟨position + 1, rest⟩ := by
  have hskip : skipBlanks ⟨position, c :: rest⟩ = skipBlanks ⟨position + 1, rest⟩ := by
    simp only [skipBlanks, List.takeWhile_cons_of_pos hc, List.length_cons, List.drop_succ_cons,
      Unread.mk.injEq, and_true]
    omega
  rw [next, next, hskip]

/-- A character that is not blank starts a lexeme. -/
theorem next_of_not_blank (hfirst : Text.isBlank first = false) :
    next ⟨position, first :: rest⟩ =
      (⟨(Lexeme.read first rest).kind, (Lexeme.read first rest).text, position⟩,
        ⟨position + 1 + (Lexeme.read first rest).extra,
          rest.drop (Lexeme.read first rest).extra⟩) := by
  have hskip : skipBlanks ⟨position, first :: rest⟩ = ⟨position, first :: rest⟩ := by
    simp [skipBlanks, hfirst]
  rw [next, hskip]

/-- Nothing has no tokens. -/
theorem tokens_nil : tokens ⟨position, []⟩ = [] := by
  rw [tokens]
  rfl

/-- Blanks in front of tokens are passed over. -/
theorem tokens_of_blank (hc : Text.isBlank c = true) :
    tokens ⟨position, c :: rest⟩ = tokens ⟨position + 1, rest⟩ := by
  rw [tokens, next_of_blank hc, ← tokens]

/-- The lexeme at the start is the first token, and what is left holds the others. -/
theorem tokens_of_not_blank (hfirst : Text.isBlank first = false) :
    tokens ⟨position, first :: rest⟩ =
      ⟨(Lexeme.read first rest).kind, (Lexeme.read first rest).text, position⟩ ::
        tokens ⟨position + 1 + (Lexeme.read first rest).extra,
          rest.drop (Lexeme.read first rest).extra⟩ := by
  rw [tokens, next_of_not_blank hfirst, dif_neg (read_kind_ne first rest)]

/-- A property of sources holds if it is kept by a blank and by a lexeme in front. -/
theorem source_induction {motive : List Char → Prop} (nil : motive [])
    (blank : ∀ c rest, Text.isBlank c = true → motive rest → motive (c :: rest))
    (lexeme : ∀ first rest, Text.isBlank first = false →
      motive (rest.drop (Lexeme.read first rest).extra) → motive (first :: rest))
    (source : List Char) : motive source := by
  match source with
  | [] => exact nil
  | c :: rest =>
      cases hc : Text.isBlank c with
      | true => exact blank c rest hc (source_induction nil blank lexeme rest)
      | false => exact lexeme c rest hc (source_induction nil blank lexeme _)
termination_by source.length
decreasing_by
  · rw [List.length_drop, List.length_cons]
    omega
  · exact Nat.lt_succ_self _

/-- Every token is a lexeme with a position, and does not start with a blank. -/
theorem exists_read_of_mem_tokens {source : List Char} {token : Token}
    (h : token ∈ tokens ⟨position, source⟩) :
    ∃ first rest, Text.isBlank first = false ∧ token.kind = (Lexeme.read first rest).kind ∧
      token.text = (Lexeme.read first rest).text := by
  induction source using source_induction generalizing position with
  | nil =>
      rw [tokens_nil] at h
      exact nomatch h
  | blank c rest hc ih =>
      rw [tokens_of_blank hc] at h
      exact ih h
  | lexeme first rest hfirst ih =>
      rw [tokens_of_not_blank hfirst, List.mem_cons] at h
      rcases h with rfl | h
      · exact ⟨first, rest, hfirst, rfl, rfl⟩
      · exact ih h

/-- Every token stands within its source. -/
theorem position_bounds {source : List Char} {token : Token}
    (h : token ∈ tokens ⟨position, source⟩) :
    position ≤ token.position ∧ token.position < position + source.length := by
  induction source using source_induction generalizing position with
  | nil =>
      rw [tokens_nil] at h
      exact nomatch h
  | blank c rest hc ih =>
      rw [tokens_of_blank hc] at h
      have hbounds := ih h
      simp only [List.length_cons]
      omega
  | lexeme first rest hfirst ih =>
      rw [tokens_of_not_blank hfirst, List.mem_cons] at h
      rcases h with rfl | h
      · simp
      · have hbounds := ih h
        simp only [List.length_drop, List.length_cons] at hbounds ⊢
        omega

/-- The tokens of a source stand in order. -/
theorem pairwise_position_lt (position : Nat) (source : List Char) :
    (tokens ⟨position, source⟩).Pairwise fun first second => first.position < second.position := by
  induction source using source_induction generalizing position with
  | nil =>
      rw [tokens_nil]
      exact .nil
  | blank c rest hc ih =>
      rw [tokens_of_blank hc]
      exact ih (position + 1)
  | lexeme first rest hfirst ih =>
      rw [tokens_of_not_blank hfirst]
      refine .cons (fun token htoken => ?_) (ih _)
      have hbounds := position_bounds htoken
      dsimp only
      omega

end Unread

/-- A lexeme of the kind of numbers starts with a digit. -/
theorem Lexeme.is_digit_of_number {first : Char} {rest : List Char}
    (h : (read first rest).kind = .number) : first.isDigit = true := by
  unfold read at h
  split at h
  · exact nomatch h
  · split at h
    · assumption
    · split at h
      · exact nomatch h
      · split at h <;> exact nomatch h

/-- A digit starts no identifier. -/
theorem Lexeme.not_identifier_start_of_digit {c : Char} (hc : c.isDigit = true) :
    isIdentifierStart c = false := by
  have hunderscore : c ≠ '_' := Numeral.ne_of_is_digit hc rfl
  simp only [Char.isDigit, Bool.and_eq_true, decide_eq_true_eq, ge_iff_le,
    UInt32.le_iff_toNat_le] at hc
  simp [isIdentifierStart, Char.isAlpha, Char.isUpper, Char.isLower, hunderscore,
    UInt32.le_iff_toNat_le] at hc ⊢
  omega

/-- A digit starts a number lexeme. -/
theorem Lexeme.read_of_digit {first : Char} (hfirst : first.isDigit = true) (rest : List Char) :
    read first rest = ⟨.number, String.ofList (numberPart (first :: rest)),
      (numberPart (first :: rest)).length - 1⟩ := by
  simp [read, not_identifier_start_of_digit hfirst, hfirst]

namespace Token

variable {text : String} {token : Token}

/-- No token of a source is the end of input. -/
theorem kind_ne_end_of_input (h : token ∈ tokenize text) : token.kind ≠ .endOfInput := by
  obtain ⟨first, rest, -, hkind, -⟩ := Unread.exists_read_of_mem_tokens h
  rw [hkind]
  exact Unread.read_kind_ne first rest

/-- The text of a number token starts with a digit and is a number text. -/
theorem number_text (h : token ∈ tokenize text) (hkind : token.kind = .number) :
    ∃ first rest, first.isDigit = true ∧
      token.text.toList = Lexeme.numberPart (first :: rest) := by
  obtain ⟨first, rest, -, hread, htext⟩ := Unread.exists_read_of_mem_tokens h
  have hfirst := Lexeme.is_digit_of_number (hread.symm.trans hkind)
  refine ⟨first, rest, hfirst, ?_⟩
  rw [htext, Lexeme.read_of_digit hfirst, String.toList_ofList]

/-- The text of a number token spells digits with an exponent. -/
theorem read_number (h : token ∈ tokenize text) (hkind : token.kind = .number) :
    ∃ digits exponent, Binary64.read? token.text = some (.ofDecimal false digits exponent) := by
  obtain ⟨first, rest, hfirst, htext⟩ := number_text h hkind
  obtain ⟨digits, exponent, hread⟩ := Lexeme.read_number_part hfirst rest
  exact ⟨digits, exponent, by rw [Binary64.read?, htext, hread]; rfl⟩

/-- The text of a number token that has no point spells a number with a point in front. -/
theorem read_point_number (h : token ∈ tokenize text) (hkind : token.kind = .number)
    (hpoint : '.' ∉ token.text.toList) :
    ∃ digits exponent,
      Binary64.read? ("0." ++ token.text) = some (.ofDecimal false digits exponent) := by
  obtain ⟨first, rest, hfirst, htext⟩ := number_text h hkind
  rw [htext] at hpoint
  obtain ⟨digits, exponent, hread⟩ := Lexeme.read_point_number_part hfirst rest hpoint
  refine ⟨digits, exponent, ?_⟩
  rw [Binary64.read?, String.toList_append, htext]
  exact congrArg (Option.map Numeral.toBinary64) hread

end Token

end Formula
