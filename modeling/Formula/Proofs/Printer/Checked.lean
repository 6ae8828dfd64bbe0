import Formula.Command
import Formula.Proofs.Parser.Limits
import Formula.Proofs.Printer.Parsed

/-!
# Checking printed text

A printed tree has its parentheses written out, so it nests deeper than the text that it was read
from and can be refused under the limits that the text fitted. This is all that can happen to it:
`check_text_of_check_text` says which limits accept a printed tree, and that it is then printed as it
stands.
-/

namespace Formula

open Grammar

namespace Expr

variable {H : Type}

/-- Only the root is the root without its infinite numbers. -/
theorem without_infinities_ne_root {e : Expr H} (h : e ≠ .root) : e.withoutInfinities ≠ .root := by
  cases e with
  | root => exact absurd rfl h
  | literal value =>
      cases value with
      | number x => cases x <;> simp [withoutInfinities]
      | _ => simp [withoutInfinities]
  | _ => simp [withoutInfinities]

section

variable [HostObject H]

/-- A number literal is printed as its literal text. -/
theorem to_text_number (x : Binary64) : (number x : Expr H).toText = Value.numberLiteral x := by
  rw [number, toText, literalText, Value.toLiteral?, Option.getD_some]

/-- A literal without a sign is printed as the quotient that it is read as if it is infinite. -/
theorem to_text_literal_without_infinities {value : Value H} (h : (Expr.literal value).Normal) :
    (Expr.literal value).withoutInfinities.toText = (Expr.literal value).toText := by
  cases value with
  | number x =>
      cases x with
      | infinite negative =>
          obtain rfl : negative = false := h.2
          have hone : Value.numberLiteral 1 = "1" := by decide +kernel
          have hzero : Value.numberLiteral 0 = "0" := by decide +kernel
          have hquotient : (binary .divide (number 1) (number 0) : Expr H).toText = "(1 / 0)" := by
            rw [toText, to_text_number, to_text_number, hone, hzero]
            decide +kernel
          exact hquotient
      | _ => rfl
  | _ => rfl

mutual
/-- A tree in normal form is printed as it is without its infinite numbers. -/
theorem to_text_without_infinities (e : Expr H) (h : e.Normal) :
    e.withoutInfinities.toText = e.toText := by
  match e with
  | .literal value => exact to_text_literal_without_infinities h
  | .root => rfl
  | .member target name =>
      by_cases hroot : target = .root
      · subst hroot
        rfl
      · rw [withoutInfinities, to_text_member hroot,
          to_text_member (without_infinities_ne_root hroot), to_text_without_infinities target h]
  | .index target args =>
      rw [withoutInfinities, toText, toText, to_text_without_infinities target h.1,
        arg_texts_without_infinities args h.2]
  | .call target name args =>
      rw [withoutInfinities, toText, toText, to_text_without_infinities target h.1,
        arg_texts_without_infinities args h.2]
  | .unary op operand =>
      rw [withoutInfinities, toText, toText, to_text_without_infinities operand h]
  | .binary op left right =>
      rw [withoutInfinities, toText, toText, to_text_without_infinities left h.1,
        to_text_without_infinities right h.2.1]
  | .conditional condition yes no =>
      rw [withoutInfinities, toText, toText, to_text_without_infinities condition h.1,
        to_text_without_infinities yes h.2.1, to_text_without_infinities no h.2.2]

/-- Arguments in normal form are printed as they are without their infinite numbers. -/
theorem arg_texts_without_infinities (args : List (Expr H)) (h : NormalArgs args) :
    argTexts (argsWithoutInfinities args) = argTexts args := by
  match args with
  | [] => rfl
  | arg :: rest =>
      rw [argsWithoutInfinities, argTexts, argTexts, to_text_without_infinities arg h.1,
        arg_texts_without_infinities rest h.2]
end

/-- The tokens of the printed text of a tree that was read derive the tree without its infinite
numbers, with at most two levels of nesting for each level of the tree. -/
theorem derives_printed {limits : Limits} {text : String} {e : Expr H}
    (h : parseWhole limits text = .ok e) :
    ∃ n, Derives .expression (tokenize e.toText) e.withoutInfinities n ∧
      n ≤ 2 * e.withoutInfinities.height := by
  let large : Limits := ⟨2 * e.withoutInfinities.height, e.withoutInfinities.height⟩
  have hprinted : parseWhole large e.toText = .ok e.withoutInfinities :=
    parse_whole_printed (.inr h) (Nat.le_refl _) (Nat.le_refl _)
  obtain ⟨n, hderives, hdepth, -⟩ := parse_whole_eq_ok_iff.1 hprinted
  exact ⟨n, hderives, hdepth⟩

end

end Expr

/-- A text is accepted by a check if it is one expression, and printed as the tree of it. -/
theorem check_text_eq_ok_iff {limits : Limits} {text printed : String} :
    checkText limits text = .ok printed ↔
      ∃ e : Expr Empty, Expr.parseWhole limits text = .ok e ∧ printed = e.toText := by
  unfold checkText
  constructor
  · intro h
    split at h
    · rename_i e hparse
      exact ⟨e, hparse, (Except.ok.inj h).symm⟩
    · cases h
  · rintro ⟨e, hparse, rfl⟩
    rw [hparse]

/-- A text that is no expression is refused by a check with the error of the parser. -/
theorem check_text_of_parse_error {limits : Limits} {text : String} {error : ParseError}
    (h : Expr.parseWhole (H := Empty) limits text = .error error) :
    checkText limits text = .error (.expression (.parse error)) := by
  rw [checkText, h]

/-- What a check prints is accepted by a check under the same or other limits, and printed as it
stands, if and only if they admit the nesting of the printed text and the height of its tree, which
is the tree that was printed but for infinite numbers, read as quotients. The nesting is at most twice
the height. Under limits that do not admit them the text is refused as too deep. -/
theorem check_text_of_check_text {limits : Limits} {text printed : String}
    (h : checkText limits text = .ok printed) :
    ∃ (e : Expr Empty) (n : Nat), Expr.parseWhole limits text = .ok e ∧ printed = e.toText ∧
      Derives .expression (tokenize printed) e.withoutInfinities n ∧
      n ≤ 2 * e.withoutInfinities.height ∧
      ∀ again : Limits,
        (checkText again printed = .ok printed ↔
          n ≤ again.maxDepth ∧ e.withoutInfinities.height ≤ max 1 again.maxHeight) ∧
        (checkText again printed ≠ .ok printed →
          ∃ limit, checkText again printed = .error (.expression (.parse (.tooDeep limit)))) := by
  obtain ⟨e, hparse, rfl⟩ := check_text_eq_ok_iff.1 h
  obtain ⟨n, hderives, hnesting⟩ := Expr.derives_printed hparse
  have hnormal : e.Normal := (Expr.printable_of_parse (Expr.parse_of_parse_whole hparse)).2
  have haccepted : ∀ again : Limits,
      n ≤ again.maxDepth ∧ e.withoutInfinities.height ≤ max 1 again.maxHeight →
        checkText again e.toText = .ok e.toText := by
    intro again hfits
    exact check_text_eq_ok_iff.2 ⟨e.withoutInfinities,
      (Expr.parse_whole_yields again hderives).eq_of_fits hfits,
      (Expr.to_text_without_infinities e hnormal).symm⟩
  have hrefused : ∀ again : Limits,
      ¬(n ≤ again.maxDepth ∧ e.withoutInfinities.height ≤ max 1 again.maxHeight) →
        ∃ limit, checkText again e.toText = .error (.expression (.parse (.tooDeep limit))) := by
    intro again hexceeds
    obtain ⟨limit, hlimit⟩ := (Expr.parse_whole_yields again hderives).too_deep hexceeds
    exact ⟨limit, check_text_of_parse_error hlimit⟩
  refine ⟨e, n, hparse, rfl, hderives, hnesting, fun again => ⟨⟨?_, haccepted again⟩, ?_⟩⟩
  · intro hchecked
    by_contra hexceeds
    obtain ⟨limit, hlimit⟩ := hrefused again hexceeds
    rw [hchecked] at hlimit
    cases hlimit
  · intro hchecked
    exact hrefused again fun hfits => hchecked (haccepted again hfits)

/-- The quotient that an infinite number is printed as is accepted and printed as it stands under
the limits that admit two levels of a tree and some nesting. -/
theorem check_text_of_check_text_infinity :
    checkText {} "1e999" = .ok "(1 / 0)" ∧ ∃ n, ∀ again : Limits,
      checkText again "(1 / 0)" = .ok "(1 / 0)" ↔ n ≤ again.maxDepth ∧ 2 ≤ max 1 again.maxHeight := by
  have hchecked : checkText {} "1e999" = .ok "(1 / 0)" := by decide +kernel
  obtain ⟨e, n, hparse, -, -, -, hagain⟩ := check_text_of_check_text hchecked
  have htokens : tokenize "1e999" = [⟨.number, "1e999", 0⟩] := by decide +kernel
  have hnumber : Derives .primary (tokenize "1e999") (.number (.infinite false) : Expr Empty) 0 := by
    rw [htokens]
    exact .number rfl (by decide +kernel)
  have hphrase := Derives.operands (derives_level_mono (Nat.zero_le _) (.access (.primary hnumber)))
  obtain ⟨m, hderives, -⟩ := Expr.parse_whole_eq_ok_iff.1 hparse
  obtain rfl := (derives_unique hphrase hderives).1
  exact ⟨hchecked, n, fun again => (hagain again).1⟩

/-- Thirty-two negations fit the default limits, but not the parentheses that they are printed
with. -/
theorem check_text_printed_too_deep :
    checkText {} "!!!!!!!!!!!!!!!!!!!!!!!!!!!!!!!!a" =
      .ok ("(!(!(!(!(!(!(!(!(!(!(!(!(!(!(!(!(!(!(!(!(!(!(!(!(!(!(!(!(!(!(!(!a" ++
        "))))))))))))))))))))))))))))))))") ∧
    checkText {} ("(!(!(!(!(!(!(!(!(!(!(!(!(!(!(!(!(!(!(!(!(!(!(!(!(!(!(!(!(!(!(!(!a" ++
        "))))))))))))))))))))))))))))))))") =
      .error (.expression (.parse (.tooDeep 64))) := by
  constructor <;> decide +kernel

end Formula
