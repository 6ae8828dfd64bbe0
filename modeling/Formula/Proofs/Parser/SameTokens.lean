import Formula.Proofs.Parser.Errors
import Formula.Proofs.Parser.OnDemand

/-!
# Parsing depends on the tokens alone

Texts whose tokens have the same contents are read as the same tree, up to the same token, or are
wrong in the same way at the same token, however they are laid out: `parse_of_same_tokens`. The limits
may be any. It follows from how far a rule looks, since texts with the same contents agree as far as
that.
-/

namespace Formula

open Grammar Tokens

variable {H : Type}

/-- The tokens of a text with the end of input behind them. -/
def sourceTokens (text : String) : List Token :=
  tokenize text ++ [.endOfInput text.length]

/-- Whether a token of one text and a token of another one stand at the same index. -/
def SameIndex (text text' : String) (token token' : Token) : Prop :=
  ∃ index : Nat,
    (sourceTokens text)[index]? = some token ∧ (sourceTokens text')[index]? = some token'

/-- Whether positions in two texts are those of tokens at the same index. -/
def SamePlace (text text' : String) (position position' : Nat) : Prop :=
  ∃ token token', SameIndex text text' token token' ∧ position = token.position ∧
    position' = token'.position

/-- Whether the results for two texts are alike: both succeed, with related results, or both fail with
errors that say the same and are reported at the same place, if at any. -/
inductive Alike {α : Type} (text text' : String) (related : α → α → Prop) :
    Except ParseError α → Except ParseError α → Prop where
  | ok {a a'} : related a a' → Alike text text' related (.ok a) (.ok a')
  | error {error error'} :
      error'.unplaced = error.unplaced →
      Option.Rel (SamePlace text text') error.position? error'.position? →
      Alike text text' related (.error error) (.error error')

section

variable {text text' : String}

/-- Results that are alike stay so if what is related stays related. -/
theorem Alike.map {α β : Type} {related : α → α → Prop} {related' : β → β → Prop} {f : α → β}
    {result result' : Except ParseError α} (h : Alike text text' related result result')
    (hf : ∀ a a', related a a' → related' (f a) (f a')) :
    Alike text text' related' (f <$> result) (f <$> result') := by
  cases h with
  | ok hrelated => exact .ok (hf _ _ hrelated)
  | error hunplaced hplace => exact .error hunplaced hplace

/-- The token behind some tokens of a text stands at the index that is their number. -/
theorem source_tokens_current {front : List Token} {rest : Tokens}
    (h : ofText text = prepend front rest) :
    (sourceTokens text)[front.length]? = some rest.current := by
  have hlist : tokenize text = front ++ rest.rest := congrArg Tokens.rest h
  have hend : text.length = rest.endPosition := congrArg Tokens.endPosition h
  rw [sourceTokens, hlist, hend, List.append_assoc,
    List.getElem?_append_right (Nat.le_refl _), Nat.sub_self]
  obtain ⟨_ | ⟨token, more⟩, last⟩ := rest <;> rfl

/-- Tokens behind as many others stand at the same index. -/
theorem same_index_current {front front' : List Token} {rest rest' : Tokens}
    (h : ofText text = prepend front rest) (h' : ofText text' = prepend front' rest')
    (hlength : front'.length = front.length) :
    SameIndex text text' rest.current rest'.current :=
  ⟨front.length, source_tokens_current h, hlength ▸ source_tokens_current h'⟩

/-- Errors that say the same are both reported at a dot or both not. -/
theorem ParseError.at_dot_iff_of_unplaced {error error' : ParseError}
    (h : error'.unplaced = error.unplaced) : error'.AtDot ↔ error.AtDot := by
  cases error <;> cases error' <;> simp_all [unplaced, AtDot]

/-- Errors that say the same, about tokens at the same index, are reported at the same place. -/
theorem Parser.Offends.same_place {error error' : ParseError} {before before' : List Token}
    {rest rest' : Tokens} (hoffends : Offends error before rest)
    (hoffends' : Offends error' before' rest') (hunplaced : error'.unplaced = error.unplaced)
    (h : ofText text = prepend before rest) (h' : ofText text' = prepend before' rest')
    (hlength : before'.length = before.length) :
    Option.Rel (SamePlace text text') error.position? error'.position? := by
  by_cases hdeep : ∃ limit, error = .tooDeep limit
  · obtain ⟨limit, rfl⟩ := hdeep
    cases error' with
    | tooDeep => exact .none
    | _ => simp [ParseError.unplaced] at hunplaced
  · have hdeep : ∀ limit, error ≠ .tooDeep limit := not_exists.1 hdeep
    have hdots := ParseError.at_dot_iff_of_unplaced hunplaced
    obtain ⟨position, hposition, hplace⟩ := hoffends.position hdeep
    obtain ⟨position', hposition', hplace'⟩ :=
      hoffends'.position (ParseError.ne_too_deep_of_unplaced hunplaced hdeep)
    rw [hposition, hposition']
    refine .some ?_
    rcases hplace with ⟨hnot, hcurrent⟩ | ⟨hdot, front, dot, rfl, -, hcurrent⟩
    · rcases hplace' with ⟨-, hcurrent'⟩ | ⟨hdot', -⟩
      · exact ⟨_, _, same_index_current h h' hlength, hcurrent, hcurrent'⟩
      · exact absurd (hdots.1 hdot') hnot
    · rcases hplace' with ⟨hnot', -⟩ | ⟨-, front', dot', rfl, -, hcurrent'⟩
      · exact absurd (hdots.2 hdot) hnot'
      · -- The dot stands just before the token that offends, in both texts.
        rw [prepend_append] at h h'
        rw [List.length_append, List.length_append] at hlength
        have hfront : front'.length = front.length := Nat.add_right_cancel hlength
        exact ⟨dot, dot', same_index_current h h' hfront, hcurrent, hcurrent'⟩

/-- Texts with tokens of the same contents have the same contents, the end of input included. -/
theorem contents_of_same_tokens
    (h : (tokenize text').map Token.content = (tokenize text).map Token.content) :
    (ofText text').contents = (ofText text).contents := by
  rw [contents, contents, List.map_append, List.map_append, ofText, ofText, h]
  rfl

/-- A rule that decides on the tokens of a text comes to a like result on tokens of the same
contents. -/
theorem alike_of_decides {α : Type} {viable : List Token → Prop} {bound : Nat}
    {rule : Tokens → Except ParseError (α × Tokens)}
    (hdecides : Parser.Decides viable bound rule (ofText text))
    (h : (tokenize text').map Token.content = (tokenize text).map Token.content) :
    Alike text text'
      (fun result result' => result'.1 = result.1 ∧
        SameIndex text text' result.2.current result'.2.current)
      (rule (ofText text)) (rule (ofText text')) := by
  -- Wherever the tokens of the one text are told off, those of the other one are told off alike.
  have hagree {front : List Token} {rest : Tokens} (heq : ofText text = prepend front rest) :
      ∃ front' rest', ofText text' = prepend front' rest' ∧
        Parser.Agree front rest front' rest' := by
    have hprefix := contents_prepend front rest
    rw [← heq, ← contents_of_same_tokens h] at hprefix
    exact exists_agree hprefix
  cases hrule : rule (ofText text) with
  | ok result =>
      obtain ⟨a, rest⟩ := result
      obtain ⟨used, heq, hsame⟩ := hdecides.reads a rest hrule
      obtain ⟨used', rest', heq', hused⟩ := hagree heq
      have hlength := congrArg List.length hused.front
      rw [List.length_map, List.length_map] at hlength
      rw [heq', hsame used' rest' hused]
      exact .ok ⟨rfl, same_index_current heq heq' hlength⟩
  | error error =>
      obtain ⟨before, rest, heq, hoffends, -, hsame⟩ := hdecides.fails error hrule
      obtain ⟨before', rest', heq', hbefore⟩ := hagree heq
      obtain ⟨error', herror', hunplaced, hoffends'⟩ := hsame before' rest' hbefore
      have hlength := congrArg List.length hbefore.front
      rw [List.length_map, List.length_map] at hlength
      rw [heq', herror']
      exact .error hunplaced (hoffends.same_place hoffends' hunplaced heq heq' hlength)

end

namespace Expr

/-- The start of a text is parsed as its tokens are. -/
theorem parse_start_eq (limits : Limits) (text : String) :
    parseStart (H := H) limits text =
      (fun (e, rest) => (e, rest.current)) <$> Parser.expression limits (ofText text) := by
  rw [parseStart]
  cases Parser.expression (H := H) limits (ofText text) <;> rfl

/-- The expression that a whole text is stops on the end of input. -/
theorem parse_start_of_parse_whole {limits : Limits} {text : String} {e : Expr H}
    (h : parseWhole limits text = .ok e) :
    parseStart limits text = .ok (e, .endOfInput text.length) := by
  obtain ⟨n, hderives, hfits⟩ := parse_whole_eq_ok_iff.1 h
  refine parse_start_eq_ok_iff.2 ⟨tokenize text, ⟨[], text.length⟩, n, ?_, rfl, hderives, ?_, hfits⟩
  · simp [ofText, prepend]
  · exact stops_of_delimits (.inl rfl)

/-- Parsing depends on a text only through the kinds and texts of its tokens. Two texts that agree in
these are read under the same limits as the same tree, which stops on the same token of the list, or
fail with the same error but for its position, which is that of the same token of the list. A text
that is accepted as a whole stops on the end of input. A parser that reads tokens on demand, and looks
ahead, comes to the same results as the one that reads their list. -/
theorem parse_of_same_tokens (limits : Limits) (text : String) :
    (∀ text', (tokenize text').map Token.content = (tokenize text).map Token.content →
      Alike text text'
        (fun (result result' : Expr H × Token) => result'.1 = result.1 ∧
          SameIndex text text' result.2 result'.2)
        (parseStart limits text) (parseStart limits text') ∧
      Alike text text' (fun e e' : Expr H => e' = e)
        (parseWhole limits text) (parseWhole limits text')) ∧
    (∀ e : Expr H, parseWhole limits text = .ok e →
      parseStart limits text = .ok (e, .endOfInput text.length)) ∧
    parseStartOnDemand (H := H) limits text = parseStart limits text ∧
    parseWholeOnDemand (H := H) limits text = parseWhole limits text := by
  refine ⟨fun text' h => ⟨?_, ?_⟩, fun e => parse_start_of_parse_whole,
    parse_start_on_demand_eq limits text, parse_whole_on_demand_eq limits text⟩
  · have hdecides := Parser.expression_decides (H := H) limits (Parser.numbers_read_of_text text)
    rw [parse_start_eq, parse_start_eq]
    exact (alike_of_decides hdecides h).map fun _ _ hrelated => hrelated
  · have hdecides := Parser.whole_decides (H := H) limits (Parser.numbers_read_of_text text)
    rw [parse_whole_eq, parse_whole_eq]
    exact (alike_of_decides hdecides h).map fun _ _ hrelated => hrelated.1

/-- A member with blanks around its dot is the member that it is without them. -/
theorem parse_of_same_tokens_with_blanks :
    parseWhole {} " a . b" = .ok (.member (.identifier "a") "b" : Expr Empty) := by
  have htokens : tokenize "a.b" =
      [⟨.identifier, "a", 0⟩, ⟨.punctuation .dot, ".", 1⟩, ⟨.identifier, "b", 2⟩] := by
    decide +kernel
  have hparse : parseWhole {} "a.b" = .ok (.member (.identifier "a") "b" : Expr Empty) := by
    rw [parseWhole, ofText, htokens]
    rfl
  have halike :=
    ((parse_of_same_tokens (H := Empty) {} "a.b").1 " a . b" (by decide +kernel)).2
  rw [hparse] at halike
  generalize parseWhole {} " a . b" = result at halike ⊢
  cases halike with
  | ok hsame => rw [hsame]

end Expr

end Formula
