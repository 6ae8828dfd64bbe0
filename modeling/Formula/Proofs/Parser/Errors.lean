import Formula.Proofs.Parser.Limits
import Formula.Proofs.Parser.Offence

/-!
# Errors of the parser

Without limits an error of the parser is about the first token with which a source goes wrong: the
tokens before it begin a source that is accepted, and with it they begin none. This is
`error_at_first_offence`; an error names one such token, `Offends.unique`.
-/

namespace Formula

open Grammar Tokens Lexeme

variable {H : Type}

/-- Where an error is reported; a refusal is reported nowhere. -/
def ParseError.position? : ParseError → Option Nat
  | .unexpectedToken _ found => some found.position
  | .invalidToken token => some token.position
  | .invalidNumber _ position => some position
  | .identifierExpected _ position => some position
  | .tooDeep _ => none

/-- Whether an error is reported at a dot. -/
def ParseError.AtDot : ParseError → Prop
  | .invalidToken token => token.kind = .punctuation .dot
  | .invalidNumber .. | .identifierExpected .. => True
  | .unexpectedToken .. | .tooDeep _ => False

/-- An error that says the same as another one is no refusal if that is none. -/
theorem ParseError.ne_too_deep_of_unplaced {error error' : ParseError}
    (h : error'.unplaced = error.unplaced) (hdeep : ∀ limit, error ≠ .tooDeep limit) :
    ∀ limit, error' ≠ .tooDeep limit := by
  rintro limit rfl
  cases error with
  | tooDeep other => exact hdeep other rfl
  | _ => exact nomatch h

namespace Tokens

/-- The contents of tokens and of the end of input behind them. -/
def contents (ts : Tokens) : List (TokenKind × String) :=
  (ts.rest ++ [Token.endOfInput ts.endPosition]).map Token.content

/-- Some tokens and the one behind them begin the contents of them all. -/
theorem contents_prepend (front : List Token) (rest : Tokens) :
    (front ++ [rest.current]).map Token.content <+: (prepend front rest).contents := by
  obtain ⟨_ | ⟨token, more⟩, last⟩ := rest <;> simp [contents, prepend, current]

/-- Tokens whose contents begin with those of other ones start with tokens that agree with these. -/
theorem exists_agree {front : List Token} {rest ts : Tokens}
    (h : (front ++ [rest.current]).map Token.content <+: ts.contents) :
    ∃ front' rest', ts = prepend front' rest' ∧ Parser.Agree front rest front' rest' := by
  obtain ⟨others, last⟩ := ts
  induction front generalizing others with
  | nil =>
      refine ⟨[], ⟨others, last⟩, rfl, rfl, ?_⟩
      cases others with
      | nil => simpa [contents, current, eq_comm] using h
      | cons token others => simpa [contents, current, eq_comm] using h
  | cons token front ih =>
      cases others with
      | nil => simp [contents] at h
      | cons token' others =>
          obtain ⟨hcontent, hmore⟩ := List.cons_prefix_cons.1 h
          obtain ⟨front', rest', heq, hfront, hnext⟩ := ih others hmore
          refine ⟨token' :: front', rest', ?_, ?_, hnext⟩
          · obtain ⟨rfl, rfl⟩ := Tokens.mk.inj heq
            rfl
          · rw [List.map_cons, List.map_cons, hcontent, hfront]

/-- The tokens of a source that stand before a position are the same however they are told off. -/
theorem front_eq_of_position {text : String} {front front' : List Token} {rest rest' : Tokens}
    (h : ofText text = prepend front rest) (h' : ofText text = prepend front' rest')
    (hposition : rest.current.position = rest'.current.position) : front = front' := by
  rw [← tokens_before_current h, ← tokens_before_current h', tokensBefore, tokensBefore, hposition]

end Tokens

namespace Parser

section

variable {error : ParseError} {before before' : List Token} {rest rest' : Tokens}

/-- An error is reported at the token that offends or at the dot just before it. -/
theorem Offends.position (h : Offends error before rest) (hdeep : ∀ limit, error ≠ .tooDeep limit) :
    ∃ position, error.position? = some position ∧
      (¬error.AtDot ∧ position = rest.current.position ∨
        error.AtDot ∧ ∃ front dot, before = front ++ [dot] ∧ dot.kind = .punctuation .dot ∧
          position = dot.position) := by
  cases h with
  | unexpected => exact ⟨_, rfl, .inl ⟨id, rfl⟩⟩
  | invalid hkind => exact ⟨_, rfl, .inl ⟨hkind, rfl⟩⟩
  | point hdot => exact ⟨_, rfl, .inr ⟨hdot, _, _, rfl, hdot, rfl⟩⟩
  | number hdot => exact ⟨_, rfl, .inr ⟨trivial, _, _, rfl, hdot, rfl⟩⟩
  | name hdot => exact ⟨_, rfl, .inr ⟨trivial, _, _, rfl, hdot, rfl⟩⟩
  | deep => exact absurd rfl (hdeep _)

/-- An error is about one token of a source. -/
theorem Offends.unique {text : String} (hdeep : ∀ limit, error ≠ .tooDeep limit)
    (heq : ofText text = prepend before rest) (heq' : ofText text = prepend before' rest')
    (h : Offends error before rest) (h' : Offends error before' rest') : before = before' := by
  obtain ⟨position, hposition, hplace⟩ := h.position hdeep
  obtain ⟨position', hposition', hplace'⟩ := h'.position hdeep
  obtain rfl := Option.some.inj (hposition.symm.trans hposition')
  rcases hplace with ⟨hnot, hcurrent⟩ | ⟨hdot, front, dot, rfl, -, hcurrent⟩
  · rcases hplace' with ⟨-, hcurrent'⟩ | ⟨hdot', -⟩
    · exact front_eq_of_position heq heq' (hcurrent.symm.trans hcurrent')
    · exact absurd hdot' hnot
  · rcases hplace' with ⟨hnot', -⟩ | ⟨-, front', dot', rfl, -, hcurrent'⟩
    · exact absurd hdot hnot'
    · rw [prepend_append] at heq heq'
      obtain rfl := front_eq_of_position heq heq' (hcurrent.symm.trans hcurrent')
      have hlist := List.append_cancel_left (congrArg Tokens.rest (heq.symm.trans heq'))
      rw [(List.cons.inj hlist).1]

end

/-- The number tokens of a source can be read. -/
theorem numbers_read_of_text (text : String) : NumbersRead (ofText text) := by
  intro token htoken hkind
  obtain ⟨digits, exponent, hvalue⟩ := Token.read_number htoken hkind
  refine ⟨by simp [hvalue], fun hpoint => ?_⟩
  obtain ⟨digits', exponent', hvalue'⟩ := Token.read_point_number htoken hkind hpoint
  simp [hvalue']

/-- An expression at the start of a source pinpoints errors. -/
theorem expression_decides (limits : Limits) {ts : Tokens} (hnumbers : NumbersRead ts) :
    Decides (Viable H .expression) (min limits.maxDepth (limits.maxHeight + 1))
      (expression (H := H) limits) ts := by
  have hnested := (nested_reliable (H := H) limits limits.maxDepth).1.pinpoints ts hnumbers
  exact .bind hnested fun parsed _ _ _ _ => .ok parsed.expr

/-- A whole source, with what is left behind the expression, which is nothing. -/
def whole (limits : Limits) (ts : Tokens) : Except ParseError (Expr H × Tokens) := do
  let (expr, rest) ← expression limits ts
  let _ ← rest.expect .endOfInput
  return (expr, rest)

/-- A whole source pinpoints errors. -/
theorem whole_decides (limits : Limits) {ts : Tokens} (hnumbers : NumbersRead ts) :
    Decides (Viable H .expression) (min limits.maxDepth (limits.maxHeight + 1)) (whole (H := H) limits)
      ts := by
  refine .bind (expression_decides limits hnumbers) ?_
  intro e used rest hread heq
  subst heq
  obtain ⟨consumed, n, heq, hderives, -⟩ := expression_eq_ok_iff.1 hread
  obtain rfl : used = consumed := List.append_cancel_right (congrArg Tokens.rest heq)
  exact .expect_end ⟨[], nofun, e, n, by simpa using hderives⟩ e

end Parser

namespace Expr

/-- A text is parsed as its tokens are. -/
theorem parse_whole_eq (limits : Limits) (text : String) :
    parseWhole (H := H) limits text = Prod.fst <$> Parser.whole limits (ofText text) := by
  rw [parseWhole, Parser.whole]
  cases Parser.expression (H := H) limits (ofText text) with
  | error error => rfl
  | ok result =>
      obtain ⟨e, rest⟩ := result
      dsimp only [bind, Except.bind]
      cases rest.expect .endOfInput <;> rfl

/-- A text is refused or wrong if and only if its tokens are. -/
theorem parse_whole_eq_error_iff {limits : Limits} {text : String} {error : ParseError} :
    parseWhole (H := H) limits text = .error error ↔
      Parser.whole (H := H) limits (ofText text) = .error error := by
  rw [parse_whole_eq]
  cases Parser.whole (H := H) limits (ofText text) with
  | error other =>
      constructor
      · intro h
        exact congrArg _ (Except.error.inj h)
      · intro h
        exact congrArg _ (Except.error.inj h)
  | ok result => exact ⟨nofun, nofun⟩

/-- Whether a text is an expression, under large enough limits. -/
def IsAccepted (H : Type) (text : String) : Prop :=
  ∃ (limits : Limits) (e : Expr H), parseWhole limits text = .ok e

/-- Shown tokens that derive an expression are displayed as a text that is accepted. -/
theorem is_accepted_displayed {ts : List Token} {e : Expr H} {n : Nat}
    (hshown : ∀ token ∈ ts, IsShown token) (hderives : Derives .expression ts e n) :
    IsAccepted H (displayed ts) := by
  let limits : Limits := ⟨n, e.height⟩
  cases hparse : parseWhole (H := H) limits (displayed ts) with
  | ok e => exact ⟨limits, e, hparse⟩
  | error error =>
      -- The displayed tokens themselves are read, and they agree with those of the text.
      have hread : Parser.whole limits (prepend ts ⟨[], 0⟩) = .ok (e, ⟨[], 0⟩) := by
        have hend : Stops .expression ts (Tokens.mk [] 0).current := stops_of_delimits (.inl rfl)
        have hyields := Parser.expression_yields limits hderives hend
        rw [Parser.whole, hyields.eq_of_fits ⟨Nat.le_refl n, Nat.le_max_right 1 _⟩]
        rfl
      have hdecides := Parser.whole_decides (H := H) limits
        (Parser.numbers_read_of_text (displayed ts))
      obtain ⟨before, rest, heq, -, -, hsame⟩ :=
        hdecides.fails error (parse_whole_eq_error_iff.1 hparse)
      have hcontents : (ofText (displayed ts)).contents = (prepend ts ⟨[], 0⟩).contents := by
        simp [contents, ofText, prepend, content_of_displayed hshown]
        rfl
      have hfront := contents_prepend before rest
      rw [← heq, hcontents] at hfront
      obtain ⟨before', rest', heq', hagree⟩ := exists_agree hfront
      obtain ⟨error', herror', -⟩ := hsame before' rest' hagree
      rw [← heq'] at herror'
      cases hread.symm.trans herror'

/-- Shown tokens that begin an expression begin a text that is accepted. -/
theorem exists_accepted_of_viable {before : List Token}
    (hbefore : ∀ token ∈ before, IsShown token) (hviable : Viable H .expression before) :
    ∃ accepted, IsAccepted H accepted ∧
      before.map Token.content <+: (tokenize accepted).map Token.content := by
  obtain ⟨more, hmore, e, n, hderives⟩ := hviable
  have hshown : ∀ token ∈ before ++ more, IsShown token := by
    intro token htoken
    rcases List.mem_append.1 htoken with htoken | htoken
    · exact hbefore token htoken
    · exact hmore token htoken
  refine ⟨displayed (before ++ more), is_accepted_displayed hshown hderives, ?_⟩
  rw [content_of_displayed hshown, List.map_append]
  exact List.prefix_append _ _

/-- No accepted text goes on with the token about which an error of another text is. -/
theorem not_is_accepted_of_fails {limits : Limits} {accepted : String} {error : ParseError}
    (hdeep : ∀ limit, error ≠ .tooDeep limit) {before : List Token} {rest : Tokens}
    (hsame : ∀ before' rest', Parser.Agree before rest before' rest' → ∃ error',
      Parser.whole (H := H) limits (prepend before' rest') = .error error' ∧
        error'.unplaced = error.unplaced ∧ Parser.Offends error' before' rest')
    (haccepted : IsAccepted H accepted) :
    ¬(before ++ [rest.current]).map Token.content <+: (ofText accepted).contents := by
  intro hfront
  obtain ⟨before', rest', heq, hagree⟩ := exists_agree hfront
  obtain ⟨error', herror', hunplaced, -⟩ := hsame before' rest' hagree
  rw [← heq] at herror'
  obtain ⟨limits', e, hparse⟩ := haccepted
  -- With limits that are larger than both the text would be wrong and accepted.
  let larger : Limits :=
    ⟨max limits.maxDepth limits'.maxDepth, max limits.maxHeight limits'.maxHeight⟩
  have hwrong : parseWhole (H := H) larger accepted = .error error' :=
    error_of_settles
      (parse_whole_settles (Nat.le_max_left _ _) (Nat.le_max_left _ _) accepted)
      (parse_whole_eq_error_iff.2 herror') (ParseError.ne_too_deep_of_unplaced hunplaced hdeep)
  have hright : Parser.Settles (parseWhole limits' accepted) (parseWhole (H := H) larger accepted) :=
    parse_whole_settles (Nat.le_max_right _ _) (Nat.le_max_right _ _) accepted
  rw [hparse, hwrong] at hright
  rcases hright with hright | ⟨limit, hright⟩
  · exact nomatch hright
  · exact nomatch hright

/-- With limits that are too large to matter, an error is about one token of the text. The tokens
before it begin a text that is accepted; with it, where the end of input counts as a token, they begin
none. The error is reported at this token or at the dot just before it. -/
theorem error_at_first_offence (text : String) (limits : Limits) (error : ParseError)
    (hdepth : (tokenize text).length < limits.maxDepth)
    (hheight : (tokenize text).length ≤ limits.maxHeight)
    (h : parseWhole (H := H) limits text = .error error) :
    ∃ before rest, ofText text = prepend before rest ∧ Parser.Offends error before rest ∧
      (∀ before' rest', ofText text = prepend before' rest' → Parser.Offends error before' rest' →
        before' = before) ∧
      (∃ accepted, IsAccepted H accepted ∧
        before.map Token.content <+: (tokenize accepted).map Token.content) ∧
      (∀ accepted, IsAccepted H accepted →
        ¬(before ++ [rest.current]).map Token.content <+: (ofText accepted).contents) ∧
      ∃ position, error.position? = some position ∧
        (position = rest.current.position ∨
          ∃ front dot, before = front ++ [dot] ∧ dot.kind = .punctuation .dot ∧
            position = dot.position) := by
  have hdecides := Parser.whole_decides (H := H) limits (Parser.numbers_read_of_text text)
  obtain ⟨before, rest, heq, hoffends, hjustified, hsame⟩ :=
    hdecides.fails error (parse_whole_eq_error_iff.1 h)
  have hlength : before.length ≤ (tokenize text).length := by
    have hlist : tokenize text = before ++ rest.rest := congrArg Tokens.rest heq
    simp [hlist]
  have hdeep (limit : Nat) : error ≠ .tooDeep limit := by
    rintro rfl
    have hbound : min limits.maxDepth (limits.maxHeight + 1) ≤ before.length := hjustified
    omega
  have hviable : Viable H .expression before := by
    cases error with
    | tooDeep limit => exact absurd rfl (hdeep limit)
    | _ => exact hjustified
  refine ⟨before, rest, heq, hoffends, ?_, ?_, ?_, ?_⟩
  · intro before' rest' heq' hoffends'
    exact hoffends'.unique hdeep heq' heq hoffends
  · refine exists_accepted_of_viable (fun token htoken => ?_) hviable
    have hmem : token ∈ (ofText text).rest := by
      rw [heq]
      exact List.mem_append_left _ htoken
    exact Token.is_shown hmem
  · intro accepted haccepted
    exact not_is_accepted_of_fails hdeep hsame haccepted
  · obtain ⟨position, hposition, ⟨-, hplace⟩ | ⟨-, hplace⟩⟩ := hoffends.position hdeep
    · exact ⟨position, hposition, .inl hplace⟩
    · exact ⟨position, hposition, .inr hplace⟩

/-- The text `a+.f` goes wrong at its last token: the point could start a number, but nothing that is
accepted begins with all of its tokens. -/
theorem error_at_first_offence_behind_point :
    (∃ accepted, IsAccepted Empty accepted ∧
      (tokenize "a+.").map Token.content <+: (tokenize accepted).map Token.content) ∧
    ∀ accepted, IsAccepted Empty accepted →
      ¬(tokenize "a+.f").map Token.content <+: (ofText accepted).contents := by
  let front : List Token := [⟨.identifier, "a", 0⟩, ⟨.punctuation .plus, "+", 1⟩]
  let dot : Token := ⟨.punctuation .dot, ".", 2⟩
  let name : Token := ⟨.identifier, "f", 3⟩
  have hfront : tokenize "a+." = front ++ [dot] := by decide +kernel
  have htokens : tokenize "a+.f" = front ++ [dot] ++ [name] := by decide +kernel
  have hfits : (tokenize "a+.f").length ≤ 4 := by rw [htokens]; rfl
  have hparse : parseWhole (H := Empty) {} "a+.f" = .error (.invalidToken dot) := by
    rw [parseWhole, ofText, htokens]
    rfl
  obtain ⟨before, rest, heq, -, hunique, hsome, hnone, -⟩ := error_at_first_offence "a+.f" {} _
    (Nat.lt_of_le_of_lt hfits (by decide)) (Nat.le_trans hfits (by decide)) hparse
  have hsource : ofText "a+.f" = prepend (front ++ [dot]) ⟨[name], 4⟩ := by
    rw [ofText, htokens]
    rfl
  obtain rfl := hunique _ _ hsource (.point rfl)
  have hrest : [name] = rest.rest :=
    List.append_cancel_left (congrArg Tokens.rest (hsource.symm.trans heq))
  have hcurrent : rest.current = name := by rw [current, ← hrest]; rfl
  rw [hcurrent, ← htokens] at hnone
  rw [hfront]
  exact ⟨hsome, hnone⟩

end Expr

end Formula
