import Formula.Proofs.Lexer
import Formula.Proofs.Parser.Sound

/-!
# The parser and the grammar

The parser reads exactly the phrases of the grammar that fit its limits, `expression_eq_ok_iff`.
From this it follows that the grammar is unambiguous, and that with limits that do not matter a text is
read as a tree if and only if its tokens derive that tree, `parse_whole_iff_derives`.
-/

namespace Formula

open Grammar Tokens

variable {H : Type}

namespace Parser

/-- A phrase that stops where its tokens end is read if it fits the limits, and is too deep
otherwise. -/
theorem expression_yields (limits : Limits) {ts : List Token} {e : Expr H} {n : Nat}
    (h : Derives .expression ts e n) {rest : Tokens} (hstops : Stops .expression ts rest.current) :
    Yields (n ≤ limits.maxDepth ∧ e.height ≤ max 1 limits.maxHeight)
      (expression limits (prepend ts rest)) (.ok (e, rest)) :=
  (((nested_completes limits limits.maxDepth).1 rest h hstops).bind_eq rfl).congr
    (and_congr_left' Nat.lt_succ_iff)

/-- An expression is read if and only if it is a phrase that stops where its tokens end and that
fits the limits. -/
theorem expression_eq_ok_iff {limits : Limits} {ts rest : Tokens} {e : Expr H} :
    expression limits ts = .ok (e, rest) ↔
      ∃ consumed n, ts = prepend consumed rest ∧ Derives .expression consumed e n ∧
        Stops .expression consumed rest.current ∧ n ≤ limits.maxDepth ∧
        e.height ≤ max 1 limits.maxHeight := by
  constructor
  · intro h
    obtain ⟨⟨parsed, after⟩, hnested, hresult⟩ := bind_eq_ok.1 h
    obtain ⟨rfl, rfl⟩ := Prod.mk.inj (Except.ok.inj hresult)
    obtain ⟨consumed, n, rfl, hderives, hstops⟩ := (nested_sound limits limits.maxDepth).1 hnested
    have hyields := expression_yields limits hderives hstops
    refine ⟨consumed, n, rfl, hderives, hstops, ?_⟩
    by_contra hnot
    obtain ⟨limit, hlimit⟩ := hyields.too_deep hnot
    rw [List.nil_append, h] at hlimit
    exact nomatch hlimit
  · rintro ⟨consumed, n, rfl, hderives, hstops, hfits⟩
    exact (expression_yields limits hderives hstops).eq_of_fits hfits

end Parser

namespace Grammar

/-- Two derivations of the same tokens have the same tree, and neither has the greater nesting. -/
theorem derives_nesting_le {ts : List Token} {e e' : Expr H} {n n' : Nat}
    (h : Derives .expression ts e n) (h' : Derives .expression ts e' n') : n ≤ n' ∧ e = e' := by
  -- With limits that the second derivation just fits the parser reads its tree, so the first one
  -- is not too deep.
  let limits : Limits := ⟨n', max e.height e'.height⟩
  have hheight : e.height ≤ max 1 limits.maxHeight ∧ e'.height ≤ max 1 limits.maxHeight := by
    dsimp only [limits]
    omega
  have hend : Stops .expression ts (Tokens.mk [] 0).current := stops_of_delimits (.inl rfl)
  have hread := (Parser.expression_yields limits h' hend).eq_of_fits ⟨Nat.le_refl n', hheight.2⟩
  have hyields := Parser.expression_yields limits h hend
  by_cases hle : n ≤ n'
  · have hother := hyields.eq_of_fits ⟨hle, hheight.1⟩
    rw [hread] at hother
    exact ⟨hle, (Prod.mk.inj (Except.ok.inj hother)).1.symm⟩
  · obtain ⟨limit, hlimit⟩ := hyields.too_deep fun hfits => hle hfits.1
    rw [hread] at hlimit
    exact nomatch hlimit

/-- No tokens derive two trees, or one tree with two nestings. -/
theorem derives_unique {ts : List Token} {e e' : Expr H} {n n' : Nat}
    (h : Derives .expression ts e n) (h' : Derives .expression ts e' n') : e = e' ∧ n = n' :=
  ⟨(derives_nesting_le h h').2,
    Nat.le_antisymm (derives_nesting_le h h').1 (derives_nesting_le h' h).1⟩

end Grammar

namespace Tokens

/-- Tokens of a source are at their end only if none is left. -/
theorem eq_of_expect_end {text : String} {consumed : List Token} {rest after : Tokens}
    (htext : ofText text = prepend consumed rest) (h : rest.expect .endOfInput = .ok after) :
    consumed = tokenize text := by
  have hlist : tokenize text = consumed ++ rest.rest := congrArg Tokens.rest htext
  obtain ⟨_ | ⟨token, more⟩, stop⟩ := rest
  · simpa using hlist.symm
  · have hmem : token ∈ tokenize text := by simp [hlist]
    have hkind : token.hasKind .endOfInput = false :=
      decide_eq_false (Token.kind_ne_end_of_input hmem)
    simp [expect, current, hkind] at h

end Tokens

namespace Expr

/-- A text whose tokens derive a tree is read as the tree if it fits the limits, and is too deep
otherwise. -/
theorem parse_whole_yields (limits : Limits) {text : String} {e : Expr H} {n : Nat}
    (h : Derives .expression (tokenize text) e n) :
    Parser.Yields (n ≤ limits.maxDepth ∧ e.height ≤ max 1 limits.maxHeight)
      (parseWhole limits text) (.ok e) := by
  have hend : Stops .expression (tokenize text) (Tokens.mk [] text.length).current :=
    stops_of_delimits (.inl rfl)
  have heq : ofText text = prepend (tokenize text) (Tokens.mk [] text.length) := by
    simp [ofText, prepend]
  rw [parseWhole, heq]
  exact (Parser.expression_yields limits h hend).bind_eq rfl

/-- A text is read as a tree if and only if its tokens derive the tree within the limits. -/
theorem parse_whole_eq_ok_iff {limits : Limits} {text : String} {e : Expr H} :
    parseWhole limits text = .ok e ↔
      ∃ n, Derives .expression (tokenize text) e n ∧ n ≤ limits.maxDepth ∧
        e.height ≤ max 1 limits.maxHeight := by
  constructor
  · intro h
    obtain ⟨⟨parsed, rest⟩, hread, hexpect⟩ := Parser.bind_eq_ok.1 h
    obtain ⟨after, hend, hresult⟩ := Parser.bind_eq_ok.1 hexpect
    obtain rfl := Except.ok.inj hresult
    obtain ⟨consumed, n, heq, hderives, -, hfits⟩ := Parser.expression_eq_ok_iff.1 hread
    obtain rfl := eq_of_expect_end heq hend
    exact ⟨n, hderives, hfits⟩
  · rintro ⟨n, hderives, hfits⟩
    exact (parse_whole_yields limits hderives).eq_of_fits hfits

/-- With limits that are too large to matter, a text is read as a tree if and only if its tokens
derive the tree; no tokens derive two trees. A number is missing from the grammar only for a point
in front of a number token that has a point of its own. -/
theorem parse_whole_iff_derives (text : String) (limits : Limits)
    (hdepth : (tokenize text).length ≤ limits.maxDepth)
    (hheight : (tokenize text).length ≤ limits.maxHeight) :
    (∀ e : Expr H, parseWhole limits text = .ok e ↔
      ∃ n, Derives .expression (tokenize text) e n) ∧
    (∀ token ∈ tokenize text, token.kind = .number →
      (Binary64.read? token.text).isSome ∧
      ('.' ∉ token.text.toList → (Binary64.read? ("0." ++ token.text)).isSome)) ∧
    ∀ (ts : List Token) (e e' : Expr H) (n n' : Nat),
      Derives .expression ts e n → Derives .expression ts e' n' → e = e' := by
  refine ⟨?_, ?_, ?_⟩
  · intro e
    rw [parse_whole_eq_ok_iff]
    refine exists_congr fun n => ⟨fun h => h.1, fun h => ⟨h, ?_⟩⟩
    obtain ⟨hnesting, htall⟩ := derives_length_bounds h
    rw [if_pos rfl] at hnesting
    omega
  · intro token hmem hkind
    constructor
    · obtain ⟨digits, exponent, hvalue⟩ := Token.read_number hmem hkind
      simp [hvalue]
    · intro hpoint
      obtain ⟨digits, exponent, hvalue⟩ := Token.read_point_number hmem hkind hpoint
      simp [hvalue]
  · intro ts e e' n n' h h'
    exact (derives_unique h h').1

/-- In `a-b-c*d` the product binds tighter than the differences, which associate to the left. -/
theorem parse_whole_difference_of_product :
    parseWhole {} "a-b-c*d" = .ok (.binary .subtract
      (.binary .subtract (.identifier "a") (.identifier "b"))
      (.binary .multiply (.identifier "c") (.identifier "d")) : Expr Empty) := by
  refine ((parse_whole_iff_derives "a-b-c*d" {} (by decide +kernel) (by decide +kernel)).1 _).2
    ⟨1, ?_⟩
  have htokens : tokenize "a-b-c*d" =
      [⟨.identifier, "a", 0⟩, ⟨.punctuation .minus, "-", 1⟩, ⟨.identifier, "b", 2⟩,
        ⟨.punctuation .minus, "-", 3⟩, ⟨.identifier, "c", 4⟩, ⟨.punctuation .star, "*", 5⟩,
        ⟨.identifier, "d", 6⟩] := by
    decide +kernel
  have hname (name : String) (position k : Nat) (hword : keyword? (H := Empty) name = none) :
      Derives (.level k) [⟨.identifier, name, position⟩] (.identifier (H := Empty) name) 0 :=
    derives_level_mono (Nat.zero_le k) (.access (.primary (.name rfl hword)))
  have hminus (position : Nat) : (Token.mk (.punctuation .minus) "-" position).kind =
      .punctuation BinaryOp.subtract.punctuation := rfl
  have hstar (position : Nat) : (Token.mk (.punctuation .star) "*" position).kind =
      .punctuation BinaryOp.multiply.punctuation := rfl
  have hfirst := Derives.binary .subtract (hname "a" 0 2 rfl) (hminus 1) (by decide)
    (hname "b" 2 1 rfl)
  have hproduct := Derives.binary .multiply (hname "c" 4 1 rfl) (hstar 5) (by decide)
    (hname "d" 6 0 rfl)
  have hsecond := Derives.binary .subtract hfirst (hminus 3) (by decide) hproduct
  rw [htokens]
  exact .operands (derives_level_mono (by decide) hsecond)

end Expr

end Formula
