import Formula.Proofs.Binary64.Exact
import Formula.Proofs.Parser.Limits
import Formula.Proofs.Printer.Reread

/-!
# Printing what was parsed

Trees that a text was read as are in normal form: their numbers have no sign, and their constant
shift counts are 32-bit integers. The printed text of such a tree is read as the tree itself, up to
numbers that are too large for a double, `parse_whole_printed`.
-/

namespace Formula

open Grammar

variable {H : Type}

namespace Expr

mutual
/-- The tree with every infinite number written as a quotient. -/
def withoutInfinities : Expr H → Expr H
  | .literal (.number (.infinite _)) => .binary .divide (.number 1) (.number 0)
  | .literal value => .literal value
  | .root => .root
  | .member target name => .member target.withoutInfinities name
  | .index target args => .index target.withoutInfinities (argsWithoutInfinities args)
  | .call target name args => .call target.withoutInfinities name (argsWithoutInfinities args)
  | .unary op operand => .unary op operand.withoutInfinities
  | .binary op left right => .binary op left.withoutInfinities right.withoutInfinities
  | .conditional condition yes no =>
    .conditional condition.withoutInfinities yes.withoutInfinities no.withoutInfinities

/-- The arguments with every infinite number written as a quotient. -/
def argsWithoutInfinities : List (Expr H) → List (Expr H)
  | [] => []
  | arg :: rest => arg.withoutInfinities :: argsWithoutInfinities rest
end

mutual
/-- Whether the numbers of a tree have no sign and its constant shift counts are 32-bit integers. -/
def Normal : Expr H → Prop
  | .literal (.number n) => n.IsUnsigned
  | .literal _ | .root => True
  | .member target _ => target.Normal
  | .index target args | .call target _ args => target.Normal ∧ NormalArgs args
  | .unary _ operand => operand.Normal
  | .binary op left right => left.Normal ∧ right.Normal ∧ rightOperand op right = right
  | .conditional condition yes no => condition.Normal ∧ yes.Normal ∧ no.Normal

/-- Whether arguments are in normal form. -/
def NormalArgs : List (Expr H) → Prop
  | [] => True
  | arg :: rest => arg.Normal ∧ NormalArgs rest
end

/-- A right operand that is no number is taken as it is. -/
theorem right_operand_of_not_number (op : BinaryOp) {right : Expr H}
    (h : ∀ n, right ≠ .number n) : rightOperand op right = right := by
  unfold rightOperand
  split
  · exact absurd rfl (h _)
  · exact absurd rfl (h _)
  · rfl

/-- A number is printed as itself or as an operation. -/
theorem reread_number_cases (x : Binary64) :
    rereadNumber (H := H) x = .number x ∨ ∀ n, rereadNumber (H := H) x ≠ .number n := by
  cases x with
  | nan | infinite => exact .inr nofun
  | finite negative =>
      cases negative with
      | false => exact .inl rfl
      | true => exact .inr nofun

/-- A right operand that is taken as it is is also taken as its text is read. -/
theorem right_operand_reread {op : BinaryOp} {right : Expr H}
    (h : rightOperand op right = right) : rightOperand op right.reread = right.reread := by
  cases right with
  | literal value =>
      cases value with
      | number x =>
          rcases reread_number_cases (H := H) x with hsame | hother
          · rw [reread, hsame]
            exact h
          · exact right_operand_of_not_number op hother
      | _ => exact right_operand_of_not_number op nofun
  | _ => exact right_operand_of_not_number op nofun

/-- A number without a sign is read as itself, up to infinity. -/
theorem reread_number_of_unsigned {x : Binary64} (h : x.IsUnsigned) :
    rereadNumber (H := H) x = (Expr.number x).withoutInfinities := by
  obtain ⟨hnan, hsign⟩ := h
  cases x with
  | nan => exact nomatch hnan
  | infinite negative =>
      obtain rfl : negative = false := hsign
      rfl
  | finite negative =>
      obtain rfl : negative = false := hsign
      rfl

mutual
/-- The text of a tree in normal form is read as the tree itself, up to its infinite numbers. -/
theorem reread_of_normal (e : Expr H) (h : e.Normal) : e.reread = e.withoutInfinities := by
  match e with
  | .literal value =>
      cases value with
      | number x => exact reread_number_of_unsigned h
      | _ => rfl
  | .root => rfl
  | .member target name => rw [reread, withoutInfinities, reread_of_normal target h]
  | .index target args =>
      rw [reread, withoutInfinities, reread_of_normal target h.1, reread_args_of_normal args h.2]
  | .call target name args =>
      rw [reread, withoutInfinities, reread_of_normal target h.1, reread_args_of_normal args h.2]
  | .unary op operand => rw [reread, withoutInfinities, reread_of_normal operand h]
  | .binary op left right =>
      rw [reread, withoutInfinities, right_operand_reread h.2.2, reread_of_normal left h.1,
        reread_of_normal right h.2.1]
  | .conditional condition yes no =>
      rw [reread, withoutInfinities, reread_of_normal condition h.1, reread_of_normal yes h.2.1,
        reread_of_normal no h.2.2]

/-- The texts of arguments in normal form are read as the arguments, up to infinite numbers. -/
theorem reread_args_of_normal (args : List (Expr H)) (h : NormalArgs args) :
    rereadArgs args = argsWithoutInfinities args := by
  match args with
  | [] => rfl
  | arg :: rest =>
      rw [rereadArgs, argsWithoutInfinities, reread_of_normal arg h.1,
        reread_args_of_normal rest h.2]
end

/-- An operator that has taken a right operand takes it again as it is. -/
theorem right_operand_idem (op : BinaryOp) (right : Expr H) :
    rightOperand op (rightOperand op right) = rightOperand op right := by
  rcases right_operand_cases op right with hsame | ⟨hop, x, rfl⟩
  · rw [hsame, hsame]
  · rw [right_operand_shift hop, right_operand_shift hop, Binary64.to_int32_of_to_int32]

/-- A right operand in normal form stays so, and so does what can be written down. -/
theorem printable_right_operand (op : BinaryOp) {right : Expr H} (h : right.Printable)
    (hnormal : right.Normal) :
    (rightOperand op right).Printable ∧ (rightOperand op right).Normal := by
  rcases right_operand_cases op right with hsame | ⟨hop, x, rfl⟩
  · rw [hsame]
    exact ⟨h, hnormal⟩
  · rw [right_operand_shift hop]
    exact ⟨trivial, Binary64.of_int_to_int32_unsigned hnormal.2⟩

/-- The literal that a keyword stands for can be written down and is in normal form. -/
theorem printable_keyword {word : String} {value : Value H}
    (hkeyword : keyword? word = some value) :
    (Expr.literal value).Printable ∧ (Expr.literal value).Normal := by
  unfold keyword? at hkeyword
  split at hkeyword
  · obtain rfl := Option.some.inj hkeyword
    exact ⟨trivial, trivial⟩
  · obtain rfl := Option.some.inj hkeyword
    exact ⟨trivial, trivial⟩
  · obtain rfl := Option.some.inj hkeyword
    exact ⟨trivial, trivial⟩
  · exact nomatch hkeyword

mutual
/-- The trees of phrases of a text can be written down and are in normal form. -/
theorem derives_printable {text : String} {c : Category} {ts : List Token} {e : Expr H} {n : Nat}
    (h : Derives c ts e n) (hts : ∀ token ∈ ts, token ∈ tokenize text) :
    e.Printable ∧ e.Normal := by
  match h with
  | .number hkind hread =>
      obtain ⟨digits, exponent, hvalue⟩ := Token.read_number (hts _ List.mem_cons_self) hkind
      obtain rfl := Option.some.inj (hvalue.symm.trans hread)
      exact ⟨trivial, Binary64.of_decimal_unsigned digits exponent⟩
  | .fraction _ hkind hpoint hread =>
      obtain ⟨digits, exponent, hvalue⟩ :=
        Token.read_point_number (hts _ (by simp)) hkind hpoint
      obtain rfl := Option.some.inj (hvalue.symm.trans hread)
      exact ⟨trivial, Binary64.of_decimal_unsigned digits exponent⟩
  | .string _ => exact ⟨trivial, trivial⟩
  | .keyword _ hkeyword => exact printable_keyword hkeyword
  | .name hkind hkeyword =>
      have hname := Token.is_identifier (hts _ List.mem_cons_self) hkind
      exact ⟨⟨hname, keyword_eq_none_iff.1 hkeyword⟩, trivial⟩
  | .group _ h _ =>
      exact derives_printable h fun token htoken => hts token (by simp [htoken])
  | .primary h | .access h | .tighter h | .operands h => exact derives_printable h hts
  | .member h _ hkind =>
      have ih := derives_printable h fun token htoken => hts token (by simp [htoken])
      have hname := Token.is_identifier (hts _ (by simp)) hkind
      exact ⟨(printable_member (derives_ne_root h)).2 ⟨ih.1, hname⟩, ih.2⟩
  | .call h _ hkind _ hargs _ =>
      have ih := derives_printable h fun token htoken => hts token (by simp [htoken])
      have ihargs := derives_args_printable hargs fun token htoken => hts token (by simp [htoken])
      have hname := Token.is_identifier (hts _ (by simp)) hkind
      exact ⟨⟨ih.1, hname, ihargs.1⟩, ih.2, ihargs.2⟩
  | .index h _ hargs _ =>
      have ih := derives_printable h fun token htoken => hts token (by simp [htoken])
      have ihargs := derives_args_printable hargs fun token htoken => hts token (by simp [htoken])
      exact ⟨⟨ih.1, ihargs.1⟩, ih.2, ihargs.2⟩
  | .plus _ h =>
      exact derives_printable h fun token htoken => hts token (by simp [htoken])
  | .unary _ _ h =>
      have ih := derives_printable h fun token htoken => hts token (by simp [htoken])
      exact ⟨ih.1, ih.2⟩
  | .binary op hleft _ _ hright =>
      -- The right operand has been narrowed, so narrowing it again changes nothing.
      have ihleft := derives_printable hleft fun token htoken => hts token (by simp [htoken])
      have ihright := derives_printable hright fun token htoken => hts token (by simp [htoken])
      have hnarrowed := printable_right_operand op ihright.1 ihright.2
      exact ⟨⟨ihleft.1, hnarrowed.1⟩, ihleft.2, hnarrowed.2, right_operand_idem op _⟩
  | .conditional h _ hyes _ hno =>
      have ih := derives_printable h fun token htoken => hts token (by simp [htoken])
      have ihyes := derives_printable hyes fun token htoken => hts token (by simp [htoken])
      have ihno := derives_printable hno fun token htoken => hts token (by simp [htoken])
      exact ⟨⟨ih.1, ihyes.1, ihno.1⟩, ih.2, ihyes.2, ihno.2⟩

/-- The trees of arguments of a text can be written down and are in normal form. -/
theorem derives_args_printable {text : String} {ts : List Token} {es : List (Expr H)} {n : Nat}
    (h : DerivesArgs ts es n) (hts : ∀ token ∈ ts, token ∈ tokenize text) :
    PrintableArgs es ∧ NormalArgs es := by
  match h with
  | .none => exact ⟨trivial, trivial⟩
  | .one h =>
      have ih := derives_printable h hts
      exact ⟨⟨ih.1, trivial⟩, ih.2, trivial⟩
  | .more h _ hrest _ =>
      have ih := derives_printable h fun token htoken => hts token (by simp [htoken])
      have ihrest := derives_args_printable hrest fun token htoken => hts token (by simp [htoken])
      exact ⟨⟨ih.1, ihrest.1⟩, ih.2, ihrest.2⟩
end

/-- An expression that a text starts with can be written down and is in normal form. -/
theorem printable_of_parse {limits : Limits} {text : String} {e : Expr H}
    (h : parse limits text = .ok e) : e.Printable ∧ e.Normal := by
  obtain ⟨⟨parsed, stop⟩, hstart, hresult⟩ := Parser.bind_eq_ok.1 h
  obtain rfl := Except.ok.inj hresult
  obtain ⟨consumed, rest, n, heq, -, hderives, -⟩ := parse_start_eq_ok_iff.1 hstart
  have hlist : tokenize text = consumed ++ rest.rest := congrArg Tokens.rest heq
  exact derives_printable hderives fun token htoken =>
    hlist ▸ List.mem_append_left _ htoken

/-- A text that is one expression starts with the expression. -/
theorem parse_of_parse_whole {limits : Limits} {text : String} {e : Expr H}
    (h : parseWhole limits text = .ok e) : parse limits text = .ok e := by
  obtain ⟨⟨parsed, rest⟩, hread, hexpect⟩ := Parser.bind_eq_ok.1 h
  obtain ⟨after, -, hresult⟩ := Parser.bind_eq_ok.1 hexpect
  obtain rfl := Except.ok.inj hresult
  rw [parse, parseStart, hread]
  rfl

/-- The printed text of a tree that was read is read as the same tree, except that an infinite
number is read as the quotient that it is printed as. -/
theorem parse_whole_printed [HostObject H] {given limits : Limits} {text : String} {e : Expr H}
    (h : parse given text = .ok e ∨ parseWhole given text = .ok e)
    (hheight : e.withoutInfinities.height ≤ limits.maxHeight)
    (hdepth : 2 * e.withoutInfinities.height ≤ limits.maxDepth) :
    parseWhole limits e.toText = .ok e.withoutInfinities := by
  obtain ⟨hprintable, hnormal⟩ := printable_of_parse (h.elim id parse_of_parse_whole)
  rw [← reread_of_normal e hnormal] at hheight hdepth ⊢
  exact parse_whole_to_text hprintable hheight hdepth

/-- The text `1e999` is read as an infinite number, which is printed as a quotient. -/
theorem parse_whole_printed_infinity :
    parseWhole {} (toText (.number (.infinite false) : Expr Empty)) =
      .ok (.binary .divide (.number 1) (.number 0) : Expr Empty) := by
  have htokens : tokenize "1e999" = [⟨.number, "1e999", 0⟩] := by decide +kernel
  have hnumber : Binary64.read? "1e999" = some (.infinite false) := by decide +kernel
  have hphrase : Derives .expression (tokenize "1e999")
      (.number (.infinite false) : Expr Empty) 1 := by
    rw [htokens]
    exact .operands (derives_level_mono (Nat.zero_le _) (.access (.primary (.number rfl hnumber))))
  have hparse : parseWhole {} "1e999" = .ok (.number (.infinite false) : Expr Empty) :=
    parse_whole_eq_ok_iff.2 ⟨1, hphrase, by decide, by decide⟩
  exact parse_whole_printed (.inr hparse) (by decide) (by decide)

end Expr

end Formula
