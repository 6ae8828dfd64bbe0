import Formula.Expr.Printer
import Formula.Proofs.Binary64.Text
import Formula.Proofs.Parser.Correct
import Formula.Proofs.Printer.Phrases

/-!
# Reading printed text

Printed text of an expression is read again, though not always as the same tree: a number that the
language has no literal for is printed as an operation. `reread` is the tree that printed text is
read as, `parse_whole_to_text`.
-/

namespace Formula

open Grammar Lexeme

variable {H : Type}

/-- Whether a value is one that the language has literals for. -/
def Value.IsPlain : Value H → Prop
  | .null | .number _ | .boolean _ | .string _ => True
  | _ => False

/-- A value with a literal text is plain. -/
theorem Value.is_plain_of_to_literal [HostObject H] {value : Value H} {text : String}
    (h : value.toLiteral? = some text) : value.IsPlain := by
  cases value <;> trivial

namespace Expr

mutual
/-- Whether an expression can be written down: its literals are plain, its names identifiers, no
bare name is a keyword, and the root is only what bare names are members of. -/
def Printable : Expr H → Prop
  | .literal value => value.IsPlain
  | .root => False
  | .member .root name => IsIdentifier name ∧ name ≠ "true" ∧ name ≠ "false" ∧ name ≠ "null"
  | .member target name => target.Printable ∧ IsIdentifier name
  | .index target args => target.Printable ∧ PrintableArgs args
  | .call target name args => target.Printable ∧ IsIdentifier name ∧ PrintableArgs args
  | .unary _ operand => operand.Printable
  | .binary _ left right => left.Printable ∧ right.Printable
  | .conditional condition yes no => condition.Printable ∧ yes.Printable ∧ no.Printable

/-- Whether arguments can be written down. -/
def PrintableArgs : List (Expr H) → Prop
  | [] => True
  | arg :: rest => arg.Printable ∧ PrintableArgs rest
end

/-- The operation that a number is written as: a quotient if it is not finite, and a negation if it
has a sign. -/
def rereadNumber : Binary64 → Expr H
  | .nan => .binary .divide (.number 0) (.number 0)
  | .infinite negative =>
    .binary .divide (if negative then .unary .negate (.number 1) else .number 1) (.number 0)
  | n => if n.isNegative then .unary .negate (.number n.abs) else .number n

mutual
/-- The tree that the printed text of an expression is read as. -/
def reread : Expr H → Expr H
  | .literal (.number n) => rereadNumber n
  | .literal value => .literal value
  | .root => .root
  | .member target name => .member target.reread name
  | .index target args => .index target.reread (rereadArgs args)
  | .call target name args => .call target.reread name (rereadArgs args)
  | .unary op operand => .unary op operand.reread
  | .binary op left right => .binary op left.reread (rightOperand op right.reread)
  | .conditional condition yes no => .conditional condition.reread yes.reread no.reread

/-- The trees that the printed texts of arguments are read as. -/
def rereadArgs : List (Expr H) → List (Expr H)
  | [] => []
  | arg :: rest => arg.reread :: rereadArgs rest
end

/-- Digits of which some stand before the point open a text. -/
theorem opens_digits {whole : List Char} (hwhole : Numeral.AllDigits whole) (hne : whole ≠ [])
    (back : List Char) : Opens (whole ++ back) := by
  refine Opens.append ⟨hne, fun c hc => ?_⟩ back
  have hdigit := hwhole c (List.mem_of_mem_head? hc)
  refine ⟨?_, ?_, ?_, ?_, ?_⟩ <;> exact Numeral.ne_of_is_digit hdigit rfl

/-- Digits with an optional fraction are read as the number that they spell. -/
theorem reads_digits {whole fraction : List Char} (hwhole : Numeral.AllDigits whole)
    (hne : whole ≠ []) (hfraction : Numeral.AllDigits fraction) {x : Binary64}
    (hread : Binary64.read? (String.ofList
      (whole ++ if fraction = [] then [] else '.' :: fraction)) = some x) :
    Reads (H := H) (whole ++ if fraction = [] then [] else '.' :: fraction) (.number x) 0 where
  opens := opens_digits hwhole hne _
  spells := by
    refine (spells_number hwhole hne hfraction).weaken ?_
    rintro ts ⟨token, rfl, hkind, htext⟩
    exact ⟨0, Nat.le_refl 0, .primary (.number hkind (by rw [htext, hread]))⟩

/-- A finite number without a sign is read from its text. -/
theorem reads_number {x : Binary64} (hfinite : x.isFinite = true) (hsign : x.isNegative = false) :
    Reads (H := H) x.toText.toList (.number x) 0 := by
  have hread := Binary64.read_to_text hfinite hsign
  rw [Binary64.to_text_eq_positional hfinite hsign, Binary64.Scientific.positional_eq] at hread ⊢
  rw [String.toList_ofList]
  obtain ⟨hwhole, hne⟩ := Binary64.Scientific.all_digits_whole (Binary64.shortest .up x)
  exact reads_digits hwhole hne (Binary64.Scientific.all_digits_fraction _) hread

/-- The digits of a whole number are read as its double. -/
theorem reads_repr (n : Nat) : Reads (H := H) (Nat.repr n).toList (.number (.ofNat n)) 0 := by
  have hread := Binary64.read_repr n
  have hnil : Numeral.AllDigits [] := nofun
  rw [Nat.repr] at hread ⊢
  rw [String.toList_ofList]
  simpa using reads_digits (Binary64.Scientific.all_digits_to_digits n) Nat.toDigits_ne_nil hnil
    (by simpa using hread)

/-- The digit zero is read as zero. -/
theorem reads_zero : Reads (H := H) ['0'] (.number 0) 0 :=
  reads_repr 0

/-- The digit one is read as one. -/
theorem reads_one : Reads (H := H) ['1'] (.number 1) 0 :=
  reads_repr 1

/-- The text of a number literal is read as the operation that the number is written as. -/
theorem reads_number_literal (x : Binary64) :
    Reads (H := H) (Value.numberLiteral x).toList (rereadNumber x)
      (2 * (rereadNumber (H := H) x).height - 2) := by
  have hzero := reads_zero (H := H)
  have hone := reads_one (H := H)
  cases x with
  | nan =>
      refine (reads_binary .divide hzero.opens hzero.operand hzero).mono ?_
      simp [rereadNumber, height, number]
  | infinite negative =>
      cases negative with
      | false =>
          refine (reads_binary .divide hone.opens hone.operand hzero).mono ?_
          simp [rereadNumber, height, number]
      | true =>
          have hleft := spells_unary .negate hone
          refine (reads_binary .divide (UnaryOp.negate.opens_symbol.append _) hleft hzero).mono ?_
          simp [rereadNumber, height, number]
  | finite negative significand shift hcanonical =>
      have hread := reads_number (H := H) (x := .finite false significand shift hcanonical) rfl rfl
      cases negative with
      | false => exact hread
      | true =>
          have hnegated := reads_unary .negate hread
          simpa [rereadNumber, Value.numberLiteral, Binary64.isNegative, Binary64.abs, height,
            number, UnaryOp.symbol] using hnegated

/-- A word that is no keyword is read as a bare name. -/
theorem reads_name {name : String} (hname : IsIdentifier name)
    (hkeyword : keyword? (H := H) name = none) :
    Reads (H := H) name.toList (.member .root name) 0 where
  opens := hname.opens
  spells := by
    refine (spells_word hname).imp (fun _ hrest => hrest.ends_word) ?_
    rintro ts ⟨token, rfl, hkind, rfl⟩
    exact ⟨0, Nat.le_refl 0, .primary (.name hkind hkeyword)⟩

/-- A keyword is an identifier. -/
theorem is_identifier_keyword {word : String} {value : Value H}
    (hkeyword : keyword? word = some value) : IsIdentifier word := by
  unfold keyword? at hkeyword
  split at hkeyword
  · exact ⟨'t', ['r', 'u', 'e'], rfl, rfl, by simp [isIdentifierPart]⟩
  · exact ⟨'f', ['a', 'l', 's', 'e'], rfl, rfl, by simp [isIdentifierPart]⟩
  · exact ⟨'n', ['u', 'l', 'l'], rfl, rfl, by simp [isIdentifierPart]⟩
  · exact nomatch hkeyword

/-- A keyword is read as the literal that it stands for. -/
theorem reads_keyword {word : String} {value : Value H} (hkeyword : keyword? word = some value) :
    Reads word.toList (.literal value) 0 where
  opens := (is_identifier_keyword hkeyword).opens
  spells := by
    refine (spells_word (is_identifier_keyword hkeyword)).imp (fun _ hrest => hrest.ends_word) ?_
    rintro ts ⟨token, rfl, hkind, rfl⟩
    exact ⟨0, Nat.le_refl 0, .primary (.keyword hkind hkeyword)⟩

/-- A quoted string is read as the string. -/
theorem reads_quote (said : String) :
    Reads (H := H) (quoteText said).toList (.literal (.string said)) 0 where
  opens := by
    simp [quoteText, Opens, EndsSymbol]
  spells := by
    refine (spells_quote said).imp (fun _ hrest hhead => ?_) ?_
    · exact absurd (hrest.head hhead) (by decide)
    · rintro ts ⟨token, rfl, hkind, rfl⟩
      exact ⟨0, Nat.le_refl 0, .primary (.string hkind)⟩

/-- A text that is read as an operand is an expression, if the limits admit its height and one more
than its nesting. -/
theorem parse_whole_of_reads {text : String} {e : Expr H} {bound : Nat}
    (h : Reads text.toList e bound) {limits : Limits} (hdepth : bound + 1 ≤ limits.maxDepth)
    (hheight : e.height ≤ limits.maxHeight) : parseWhole limits text = .ok e := by
  -- The whole text is spelled at the start of a source with nothing behind it.
  obtain ⟨ts, position, htokens, hphrase⟩ := h.operand 0 [] (.inl rfl)
  obtain ⟨n, hn, hderives⟩ := hphrase.expression
  have htokenize : tokenize text = ts := by
    rw [List.append_nil] at htokens
    rw [tokenize, Unread.ofText, htokens, Unread.tokens_nil, List.append_nil]
  rw [parse_whole_eq_ok_iff, htokenize]
  exact ⟨n, hderives, by omega, by omega⟩

/-- A member of anything but the root can be written down if its target can. -/
theorem printable_member {target : Expr H} {name : String} (h : target ≠ .root) :
    (member target name).Printable ↔ target.Printable ∧ IsIdentifier name := by
  cases target with
  | root => exact absurd rfl h
  | _ => rfl

/-- A word is no keyword if it is none of the three. -/
theorem keyword_eq_none_iff {name : String} :
    keyword? (H := H) name = none ↔ name ≠ "true" ∧ name ≠ "false" ∧ name ≠ "null" := by
  unfold keyword?
  split <;> simp_all

/-- Only the root is read as the root. -/
theorem reread_ne_root {e : Expr H} (h : e ≠ .root) : e.reread ≠ .root := by
  cases e with
  | root => exact absurd rfl h
  | literal value =>
      cases value with
      | number x =>
          cases x with
          | nan | infinite => exact nofun
          | finite negative => cases negative <;> exact nofun
      | _ => exact nofun
  | _ => exact nofun

variable [HostObject H]

/-- The text of a plain literal is read as the tree of the literal. -/
theorem reads_literal {value : Value H} (hplain : value.IsPlain) :
    Reads (literalText value).toList (reread (.literal value))
      (2 * (reread (.literal value)).height - 2) := by
  cases value with
  | null =>
      have hnull : keyword? "null" = some (.null : Value H) := rfl
      exact reads_keyword hnull
  | boolean b =>
      have hboolean : keyword? (boolText b) = some (.boolean b : Value H) := by cases b <;> rfl
      exact reads_keyword hboolean
  | number x => exact reads_number_literal x
  | string said => exact reads_quote said
  | dateTime | duration | sequence | record | host => exact absurd hplain nofun

/-- The text of a member of anything but the root. -/
theorem to_text_member {target : Expr H} {name : String} (h : target ≠ .root) :
    (member target name).toText = target.toText ++ "." ++ name := by
  cases target with
  | root => exact absurd rfl h
  | _ => rfl

mutual
/-- The text of an expression that can be written down is read as `reread` says, with a nesting
below twice the height of that tree. -/
theorem reads_to_text (e : Expr H) (h : e.Printable) :
    Reads e.toText.toList e.reread (2 * e.reread.height - 2) := by
  match e with
  | .literal value => exact reads_literal h
  | .root => exact h.elim
  | .index target args =>
      have ih := reads_index (reads_to_text target h.1) (reads_arg_texts args h.2)
      simp only [toText, String.toList_append, List.append_assoc] at ih ⊢
      refine ih.mono ?_
      simp only [reread, height]
      omega
  | .call target name args =>
      have ih := reads_call (reads_to_text target h.1) h.2.1 (reads_arg_texts args h.2.2)
      simp only [toText, String.toList_append, List.append_assoc] at ih ⊢
      refine ih.mono ?_
      simp only [reread, height]
      omega
  | .unary op operand =>
      have hpos := operand.reread.height_pos
      have ih := reads_unary op (reads_to_text operand h)
      simp only [toText, String.toList_append, List.append_assoc] at ih ⊢
      refine ih.mono ?_
      simp only [reread, height]
      omega
  | .binary op left right =>
      -- The parentheses and the operator cost one level each, of the two that a node brings.
      have hpos := left.reread.height_pos
      have hleft := reads_to_text left h.1
      have ih := reads_binary op hleft.opens hleft.operand (reads_to_text right h.2)
      simp only [toText, String.toList_append, List.append_assoc, List.cons_append] at ih ⊢
      refine ih.mono ?_
      simp only [reread, height, height_right_operand]
      omega
  | .conditional condition yes no =>
      have hpos := condition.reread.height_pos
      have ih := reads_conditional (reads_to_text condition h.1) (reads_to_text yes h.2.1)
        (reads_to_text no h.2.2)
      simp only [toText, String.toList_append, List.append_assoc, List.cons_append] at ih ⊢
      refine ih.mono ?_
      simp only [reread, height]
      omega
  | .member target name =>
      -- A bare name is a word, and has to be no keyword; any other member stands behind its target.
      by_cases hroot : target = .root
      · subst hroot
        exact reads_name h.1 (keyword_eq_none_iff.2 h.2)
      · rw [printable_member hroot] at h
        have ih := reads_member (reads_to_text target h.1) h.2
        rw [to_text_member hroot, reread, height_member (reread_ne_root hroot)]
        simp only [String.toList_append, List.append_assoc]
        exact ih.mono (by omega)

/-- The texts of arguments that can be written down are read as `rereadArgs` says. -/
theorem reads_arg_texts (args : List (Expr H)) (h : PrintableArgs args) :
    ReadsArgs (argTexts args) (rereadArgs args) (2 * argsHeight (rereadArgs args) - 1) := by
  match args with
  | [] => exact reads_args_nil
  | arg :: rest =>
      have hpos := arg.reread.height_pos
      have hcons := reads_args_cons (reads_to_text arg h.1) (reads_arg_texts rest h.2)
      rw [argTexts, rereadArgs, argsHeight]
      refine hcons.mono ?_
      omega
end

/-- The text of an expression is read as a whole if the limits admit its height. -/
theorem parse_whole_to_text {e : Expr H} (h : e.Printable) {limits : Limits}
    (hheight : e.reread.height ≤ limits.maxHeight)
    (hdepth : 2 * e.reread.height ≤ limits.maxDepth) :
    parseWhole limits e.toText = .ok e.reread := by
  have hpos := e.reread.height_pos
  exact parse_whole_of_reads (reads_to_text e h) (by omega) hheight

/-- Whether a text is read as a tree, whatever the limits are as long as they are large enough. -/
def ReadsUnlimited (text : String) (e : Expr H) : Prop :=
  ∃ bound, ∀ limits : Limits, bound ≤ limits.maxDepth → bound ≤ limits.maxHeight →
    parseWhole limits text = .ok e

/-- The text of an expression is read as a whole if the limits are large enough. -/
theorem reads_unlimited_to_text {e : Expr H} (h : e.Printable) :
    ReadsUnlimited e.toText e.reread :=
  ⟨2 * e.reread.height, fun _ hdepth hheight => parse_whole_to_text h (by omega) hdepth⟩

end Expr

end Formula
