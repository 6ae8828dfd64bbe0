import Formula.Proofs.Numeral
import Formula.Proofs.Parser.Complete

/-!
# Soundness of the parser

What a rule reads is a phrase of its category, which stops before the token that the rule leaves.
The main theorem is `nested_sound`. Nesting and height need no tracking here: a phrase that was read
fits the limits, since the parser refuses every other one.
-/

namespace Formula

namespace Tokens

/-- Only without tokens the current one is the end of input. -/
theorem delimits_of_length_eq_zero {ts : Tokens} (h : ts.rest.length = 0) :
    Grammar.Delimits ts.current.kind := by
  obtain ⟨_ | ⟨token, rest⟩, stop⟩ := ts
  · exact .inl rfl
  · simp at h

/-- Unless the end of input is asked for, a kind is that of a token that stands in front. -/
theorem exists_prepend_of_kind {ts : Tokens} {kind : TokenKind} (h : ts.current.kind = kind)
    (hkind : kind ≠ .endOfInput) : ∃ token after, token.kind = kind ∧ ts = prepend [token] after :=
  ⟨ts.current, ts.advance, h, eq_prepend_current (h ▸ hkind)⟩

end Tokens

namespace Parser

open Grammar Tokens

variable {H : Type} {limits : Limits} {expression operand : Rule H}

/-- The tokens `ts` up to `rest` extend the tokens `front` to a phrase that stops there. -/
def Extends (c : Category) (front : List Token) (ts : Tokens) (parsed : Parsed H)
    (rest : Tokens) : Prop :=
  ∃ consumed n, ts = prepend consumed rest ∧ Derives c (front ++ consumed) parsed.expr n ∧
    Stops c (front ++ consumed) rest.current

/-- What the rule reads is a phrase of a category that stops before the tokens it leaves. -/
def Sound (c : Category) (rule : Rule H) : Prop :=
  ∀ ⦃ts : Tokens⦄ ⦃parsed : Parsed H⦄ ⦃rest : Tokens⦄, rule ts = .ok (parsed, rest) →
    Extends c [] ts parsed rest

/-- A phrase may be extended by nothing. -/
theorem Extends.nil {c : Category} {front : List Token} {parsed : Parsed H} {n : Nat}
    {rest : Tokens} (hderives : Derives c front parsed.expr n)
    (hstops : Stops c front rest.current) : Extends c front rest parsed rest :=
  ⟨[], n, rfl, by rwa [List.append_nil], by rwa [List.append_nil]⟩

/-- What extends a longer front extends a shorter one with the tokens between them. -/
theorem Extends.append {c : Category} {front used : List Token} {parsed : Parsed H}
    {after rest : Tokens} (h : Extends c (front ++ used) after parsed rest) :
    Extends c front (prepend used after) parsed rest := by
  obtain ⟨consumed, n, rfl, hderives, hstops⟩ := h
  rw [List.append_assoc] at hderives hstops
  exact ⟨used ++ consumed, n, (prepend_append _ _ _).symm, hderives, hstops⟩

/-- A node that is made has the tree it was made for. -/
theorem expr_of_node {expr : Expr H} {height : Nat} {parsed : Parsed H}
    (h : node limits expr height = .ok parsed) : parsed.expr = expr := by
  unfold node at h
  split at h
  · exact nomatch h
  · obtain rfl := Except.ok.inj h
    rfl

/-- A number leaf holds the number that its text spells. -/
theorem read_of_number_leaf {text : String} {position : Nat} {parsed : Parsed H}
    (h : numberLeaf text position = .ok parsed) :
    ∃ value, Binary64.read? text = some value ∧ parsed.expr = .number value := by
  unfold numberLeaf at h
  split at h
  · obtain rfl := Except.ok.inj h
    exact ⟨_, by assumption, rfl⟩
  · exact nomatch h

/-- Text that reads with a point in front has no point of its own. -/
theorem not_point_of_read {text : String} {value : Binary64}
    (h : Binary64.read? ("0." ++ text) = some value) : '.' ∉ text.toList := by
  obtain ⟨numeral, hnumeral, -⟩ := Option.map_eq_some_iff.1 h
  exact Numeral.not_point_of_read (by simpa using hnumeral)

/-- A primary of one token stops anywhere. -/
theorem stops_singleton (token next : Token) : Stops .primary [token] next :=
  ⟨nofun, fun _ => not_ends_in_member_singleton token⟩

/-- Literals, names and groups are primaries. -/
theorem primary_sound (hexpr : Sound .expression expression) :
    Sound .primary (primary expression) := by
  intro ts parsed rest h
  unfold primary at h
  dsimp only at h
  -- A number, a point with a number, a string, a word, a group, and what is no primary.
  split at h
  · rename_i hkind
    obtain ⟨token, after, htoken, rfl⟩ := exists_prepend_of_kind hkind nofun
    obtain ⟨leaf, hleaf, h⟩ := bind_eq_ok.1 h
    obtain ⟨rfl, rfl⟩ := Prod.mk.inj (Except.ok.inj h)
    obtain ⟨value, hvalue, hleaf⟩ := read_of_number_leaf hleaf
    exact ⟨[token], 0, rfl, hleaf ▸ .number htoken hvalue, stops_singleton _ _⟩
  · rename_i hkind
    obtain ⟨dot, after, hdot, rfl⟩ := exists_prepend_of_kind hkind nofun
    split at h
    · rename_i hnumber
      have hnumber : after.current.kind = .number := of_decide_eq_true hnumber
      obtain ⟨token, after, htoken, rfl⟩ := exists_prepend_of_kind hnumber nofun
      obtain ⟨leaf, hleaf, h⟩ := bind_eq_ok.1 h
      obtain ⟨rfl, rfl⟩ := Prod.mk.inj (Except.ok.inj h)
      obtain ⟨value, hvalue, hleaf⟩ := read_of_number_leaf hleaf
      refine ⟨[dot, token], 0, rfl, ?_, nofun, fun _ => ?_⟩
      · rw [hleaf]
        exact .fraction hdot htoken (not_point_of_read hvalue) hvalue
      · rw [show [] ++ [dot, token] = [dot] ++ [token] from rfl]
        exact not_ends_in_member (by simp [htoken])
    · exact nomatch h
  · rename_i hkind
    obtain ⟨token, after, htoken, rfl⟩ := exists_prepend_of_kind hkind nofun
    obtain ⟨rfl, rfl⟩ := Prod.mk.inj (Except.ok.inj h)
    exact ⟨[token], 0, rfl, .string htoken, stops_singleton _ _⟩
  · rename_i hkind
    obtain ⟨token, after, htoken, rfl⟩ := exists_prepend_of_kind hkind nofun
    obtain ⟨rfl, rfl⟩ := Prod.mk.inj (Except.ok.inj h)
    refine ⟨[token], 0, rfl, ?_, stops_singleton _ _⟩
    rw [word_leaf_eq]
    split
    · exact .keyword htoken (by assumption)
    · exact .name htoken (by assumption)
  · rename_i hkind
    obtain ⟨opening, after, hopening, rfl⟩ := exists_prepend_of_kind hkind nofun
    obtain ⟨⟨inner, afterInner⟩, hinner, h⟩ := bind_eq_ok.1 h
    obtain ⟨afterClosing, hclosing, h⟩ := bind_eq_ok.1 h
    obtain ⟨rfl, rfl⟩ := Prod.mk.inj (Except.ok.inj h)
    obtain ⟨consumed, n, heq, hderives, -⟩ := hexpr hinner
    obtain ⟨closing, hkindClosing, rfl⟩ := expect_eq_ok hclosing
    obtain rfl : after = prepend consumed (prepend [closing] afterClosing) := heq
    refine ⟨opening :: consumed ++ [closing], n, ?_, .group hopening hderives hkindClosing,
      nofun, fun _ => not_ends_in_member (by simp [hkindClosing])⟩
    rw [prepend_append]
    rfl
  · exact nomatch h

/-- At least one expression with commas between them and a closing symbol are arguments. -/
theorem argument_list_sound (hexpr : Sound .expression expression) (close : Symbol) (fuel : Nat)
    {ts : Tokens} {args : List (Parsed H)} {rest : Tokens}
    (h : argumentList expression close fuel ts = .ok (args, rest)) :
    ∃ consumed n closing, ts = prepend (consumed ++ [closing]) rest ∧
      closing.kind = .punctuation close ∧ DerivesArgs consumed (args.map Parsed.expr) n ∧
      args ≠ [] := by
  induction fuel generalizing ts args with
  | zero => cases h
  | succ fuel ih =>
      rw [argumentList, bind_eq_ok] at h
      obtain ⟨⟨arg, afterArg⟩, harg, h⟩ := h
      obtain ⟨consumed, n, rfl, hderives, -⟩ := hexpr harg
      dsimp only at h
      split at h
      · rename_i hcomma
        obtain ⟨⟨more, afterMore⟩, hmore, hargs⟩ := bind_eq_ok.1 h
        obtain ⟨rfl, rfl⟩ := Prod.mk.inj (Except.ok.inj hargs)
        obtain ⟨comma, after, hkind, rfl⟩ :=
          exists_prepend_of_kind (of_decide_eq_true hcomma) (by decide)
        obtain ⟨consumedMore, m, closing, heq, hclosing, hderivesMore, hne⟩ := ih hmore
        refine ⟨consumed ++ comma :: consumedMore, max n m, closing, ?_, hclosing,
          .more hderives hkind hderivesMore (by simpa using hne), List.cons_ne_nil _ _⟩
        obtain rfl : after = prepend (consumedMore ++ [closing]) afterMore := heq
        simp [prepend]
      · obtain ⟨after, hclosing, hargs⟩ := bind_eq_ok.1 h
        obtain ⟨rfl, rfl⟩ := Prod.mk.inj (Except.ok.inj hargs)
        obtain ⟨closing, hkind, rfl⟩ := expect_eq_ok hclosing
        exact ⟨consumed, n, closing, (prepend_append _ _ _).symm, hkind, .one hderives,
          List.cons_ne_nil _ _⟩

/-- What is read as arguments is arguments and a closing symbol. -/
theorem arguments_sound (hexpr : Sound .expression expression) {close : Symbol} {ts : Tokens}
    {args : List (Parsed H)} {rest : Tokens}
    (h : arguments expression close ts = .ok (args, rest)) :
    ∃ consumed n closing, ts = prepend (consumed ++ [closing]) rest ∧
      closing.kind = .punctuation close ∧ DerivesArgs consumed (args.map Parsed.expr) n := by
  unfold arguments at h
  split at h
  · rename_i hclose
    obtain ⟨rfl, rfl⟩ := Prod.mk.inj (Except.ok.inj h)
    obtain ⟨closing, after, hclosing, rfl⟩ :=
      exists_prepend_of_kind (of_decide_eq_true hclose) nofun
    exact ⟨[], 0, closing, rfl, hclosing, .none⟩
  · obtain ⟨consumed, n, closing, heq, hclosing, hderives, -⟩ :=
      argument_list_sound hexpr close _ h
    exact ⟨consumed, n, closing, heq, hclosing, hderives⟩

/-- The loop extends an access that stands before it. The fuel has to be as large as the number of
tokens. -/
theorem accesses_sound (hexpr : Sound .expression expression) (fuel : Nat) {front : List Token}
    {target : Parsed H} {n : Nat} (hfront : Derives .access front target.expr n) {ts : Tokens}
    (hfuel : ts.rest.length ≤ fuel)
    (hcall : ts.current.kind = .punctuation .leftParen → ¬EndsInMember front)
    {parsed : Parsed H} {rest : Tokens}
    (h : accesses limits expression fuel target ts = .ok (parsed, rest)) :
    Extends .access front ts parsed rest := by
  induction fuel generalizing front target n ts with
  | zero =>
      obtain ⟨rfl, rfl⟩ := Prod.mk.inj (Except.ok.inj h)
      exact .nil hfront (stops_of_delimits (delimits_of_length_eq_zero (Nat.le_zero.1 hfuel)))
  | succ fuel ih =>
      -- A dot with a name, with or without arguments, and brackets go on; all else ends the loop.
      by_cases hkind : ts.current.kind = .punctuation .dot
      · obtain ⟨dot, after, hdot, rfl⟩ := exists_prepend_of_kind hkind (by decide)
        by_cases hkind : after.current.kind = .identifier
        · obtain ⟨name, after, hname, rfl⟩ := exists_prepend_of_kind hkind (by decide)
          by_cases hkind : after.current.kind = .punctuation .leftParen
          · obtain ⟨opening, after, hopening, rfl⟩ := exists_prepend_of_kind hkind (by decide)
            obtain ⟨⟨args, afterArgs⟩, hargs, hnode⟩ :=
              bind_eq_ok.1 ((accesses_call hdot hname hopening after fuel target).symm.trans h)
            obtain ⟨made, hmade, hloop⟩ := bind_eq_ok.1 hnode
            obtain ⟨consumed, m, closing, rfl, hclosing, hderives⟩ := arguments_sound hexpr hargs
            have hcalled := Derives.call hfront hdot hname hopening hderives hclosing
            rw [← expr_of_node hmade, List.append_assoc] at hcalled
            have hextends := ih hcalled (by simp at hfuel ⊢; omega)
              (fun _ => by
                rw [← List.append_assoc]
                exact not_ends_in_member (by simp [hclosing])) hloop
            simpa [prepend] using hextends.append
          · obtain ⟨made, hmade, hloop⟩ :=
              bind_eq_ok.1 ((accesses_member hdot hname hkind fuel target).symm.trans h)
            have hmember := Derives.member hfront hdot hname
            rw [← expr_of_node hmade] at hmember
            exact (ih hmember (by simp at hfuel ⊢; omega) (fun hparen => absurd hparen hkind)
              hloop).append
        · rw [accesses] at h
          have hnot : after.current.hasKind .identifier = false := decide_eq_false hkind
          simp [starts_with_eq, hdot, hnot] at h
      · by_cases hkind : ts.current.kind = .punctuation .leftBracket
        · obtain ⟨opening, after, hopening, rfl⟩ := exists_prepend_of_kind hkind (by decide)
          obtain ⟨⟨args, afterArgs⟩, hargs, hnode⟩ :=
            bind_eq_ok.1 ((accesses_index hopening after fuel target).symm.trans h)
          obtain ⟨made, hmade, hloop⟩ := bind_eq_ok.1 hnode
          obtain ⟨consumed, m, closing, rfl, hclosing, hderives⟩ := arguments_sound hexpr hargs
          have hindexed := Derives.index hfront hopening hderives hclosing
          rw [← expr_of_node hmade, List.append_assoc] at hindexed
          have hextends := ih hindexed (by simp at hfuel ⊢; omega)
            (fun _ => by
              rw [← List.append_assoc]
              exact not_ends_in_member (by simp [hclosing])) hloop
          simpa [prepend] using hextends.append
        · have hstop : ¬Continues .access ts.current.kind := by simp [Continues, *]
          rw [accesses_stop hstop] at h
          obtain ⟨rfl, rfl⟩ := Prod.mk.inj (Except.ok.inj h)
          exact .nil hfront ⟨hstop, hcall⟩

/-- A primary with what follows it is an access. -/
theorem access_sound (hexpr : Sound .expression expression) :
    Sound .access (access limits expression) := by
  intro ts parsed rest h
  obtain ⟨⟨target, after⟩, htarget, hloop⟩ := bind_eq_ok.1 h
  obtain ⟨front, n, rfl, hfront, hstops⟩ := primary_sound hexpr htarget
  exact (accesses_sound hexpr _ (.primary hfront) (Nat.le_refl _) hstops.not_call hloop).append

/-- Operands with their prefix operators are operands. -/
theorem unary_sound (hoperand : Sound (.level 0) operand) (hexpr : Sound .expression expression) :
    Sound (.level 0) (unary limits operand expression) := by
  intro ts parsed rest h
  unfold unary at h
  split at h
  · rename_i hplus
    obtain ⟨sign, after, hsign, rfl⟩ := exists_prepend_of_kind (of_decide_eq_true hplus) nofun
    obtain ⟨consumed, n, heq, hderives, hstops⟩ := hoperand h
    obtain rfl : after = prepend consumed rest := heq
    exact ⟨sign :: consumed, n + 1, rfl, .plus hsign hderives,
      hstops.append [] (derives_ne_nil hderives) (by simp [hsign])⟩
  · split at h
    · rename_i op hop
      obtain ⟨sign, after, hsign, rfl⟩ := exists_prepend_of_kind (unary_op_eq_some.1 hop) nofun
      obtain ⟨⟨inner, afterInner⟩, hinner, hnode⟩ := bind_eq_ok.1 h
      obtain ⟨made, hmade, hresult⟩ := bind_eq_ok.1 hnode
      obtain ⟨rfl, rfl⟩ := Prod.mk.inj (Except.ok.inj hresult)
      obtain ⟨consumed, n, heq, hderives, hstops⟩ := hoperand hinner
      obtain rfl : after = prepend consumed afterInner := heq
      refine ⟨sign :: consumed, n + 1, rfl, ?_, hstops.append [] (derives_ne_nil hderives) ?_⟩
      · rw [expr_of_node hmade]
        exact .unary op hsign hderives
      · rw [hsign]
        cases op <;> exact nofun
    · obtain ⟨consumed, n, rfl, hderives, hstops⟩ := access_sound hexpr h
      refine ⟨consumed, n, rfl, .access hderives, ?_, hstops.not_call⟩
      -- The tightest level holds no binary operator.
      rintro (hcontinues | ⟨level, hle, op, hop, -⟩)
      · exact hstops.not_continues hcontinues
      · obtain rfl := Nat.le_zero.1 hle
        simp [operators] at hop

/-- The loop extends operands that stand before it. The fuel has to be as large as the number of
tokens. -/
theorem left_fold_sound {k : Nat} (hlevel : Sound (.level k) operand) (fuel : Nat)
    {front : List Token} {left : Parsed H} {n : Nat}
    (hfront : Derives (.level (k + 1)) front left.expr n) {ts : Tokens}
    (hfuel : ts.rest.length ≤ fuel) (hstops : Stops (.level k) front ts.current)
    {parsed : Parsed H} {rest : Tokens}
    (h : leftFold limits (k + 1) operand fuel left ts = .ok (parsed, rest)) :
    Extends (.level (k + 1)) front ts parsed rest := by
  induction fuel generalizing front left n ts with
  | zero =>
      obtain ⟨rfl, rfl⟩ := Prod.mk.inj (Except.ok.inj h)
      exact .nil hfront (stops_of_delimits (delimits_of_length_eq_zero (Nat.le_zero.1 hfuel)))
  | succ fuel ih =>
      by_cases hop : ∃ op ∈ operators (k + 1), ts.current.kind = .punctuation op.punctuation
      · obtain ⟨op, hop, hkind⟩ := hop
        obtain ⟨sign, after, hsign, rfl⟩ := exists_prepend_of_kind hkind nofun
        obtain ⟨⟨right, afterRight⟩, hright, hnode⟩ :=
          bind_eq_ok.1 ((left_fold_binary hsign hop after fuel left).symm.trans h)
        obtain ⟨made, hmade, hloop⟩ := bind_eq_ok.1 hnode
        obtain ⟨consumed, m, rfl, hderives, hstopsRight⟩ := hlevel hright
        have hbinary := Derives.binary op hfront hsign hop hderives
        rw [← expr_of_node hmade] at hbinary
        have hdot : sign.kind ≠ .punctuation .dot := by
          rw [hsign]
          cases op <;> exact nofun
        have hstops := hstopsRight.append front (derives_ne_nil hderives) hdot
        exact (ih hbinary (by simp at hfuel ⊢; omega) hstops hloop).append
      · have hstop (op : BinaryOp) (hlevel : op ∈ operators (k + 1)) :
            ts.current.kind ≠ .punctuation op.punctuation := fun hkind => hop ⟨op, hlevel, hkind⟩
        rw [left_fold_stop hstop] at h
        obtain ⟨rfl, rfl⟩ := Prod.mk.inj (Except.ok.inj h)
        refine .nil hfront ⟨?_, hstops.not_call⟩
        -- An operator of a tighter level would have continued the last operand.
        rintro (haccess | ⟨level, hle, op, hlevel, hkind⟩)
        · exact hstops.not_continues (.inl haccess)
        · rcases Nat.lt_or_eq_of_le hle with hlt | rfl
          · exact hstops.not_continues (.inr ⟨level, Nat.le_of_lt_succ hlt, op, hlevel, hkind⟩)
          · exact hstop op hlevel hkind

/-- Operands with the operators of the levels up to `k` between them are phrases of the level. -/
theorem binary_sound (hlevel : Sound (.level 0) operand) (k : Nat) :
    Sound (.level k) (binary limits operand k) := by
  induction k with
  | zero => exact hlevel
  | succ k ih =>
      intro ts parsed rest h
      obtain ⟨⟨left, after⟩, hleft, hloop⟩ := bind_eq_ok.1 h
      obtain ⟨front, n, rfl, hfront, hstops⟩ := ih hleft
      exact (left_fold_sound ih _ (.tighter hfront) (Nat.le_refl _) hstops hloop).append

/-- Whole expressions are expressions of the grammar. -/
theorem conditional_sound (hoperand : Sound (.level 0) operand)
    (hexpr : Sound .expression expression) :
    Sound .expression (conditional limits operand expression) := by
  intro ts parsed rest h
  obtain ⟨⟨condition, after⟩, hcondition, hbranches⟩ := bind_eq_ok.1 h
  obtain ⟨consumed, n, rfl, hderives, hstops⟩ :=
    binary_sound (unary_sound hoperand hexpr) BinaryOp.levelCount hcondition
  dsimp only at hbranches
  split at hbranches
  · rename_i hquestion
    obtain ⟨question, after, hkind, rfl⟩ :=
      exists_prepend_of_kind (of_decide_eq_true hquestion) nofun
    obtain ⟨⟨yes, afterYes⟩, hyes, hmore⟩ := bind_eq_ok.1 hbranches
    obtain ⟨afterColon, hcolon, hlast⟩ := bind_eq_ok.1 hmore
    obtain ⟨⟨no, afterNo⟩, hno, hnode⟩ := bind_eq_ok.1 hlast
    obtain ⟨made, hmade, hresult⟩ := bind_eq_ok.1 hnode
    obtain ⟨rfl, rfl⟩ := Prod.mk.inj (Except.ok.inj hresult)
    obtain ⟨consumedYes, m, heq, hderivesYes, -⟩ := hexpr hyes
    obtain rfl : after = prepend consumedYes afterYes := heq
    obtain ⟨colon, hkindColon, rfl⟩ := expect_eq_ok hcolon
    obtain ⟨consumedNo, l, rfl, hderivesNo, hstopsNo⟩ := hexpr hno
    refine ⟨consumed ++ question :: consumedYes ++ colon :: consumedNo, max n (max m l) + 1,
      by simp [prepend], ?_, ?_⟩
    · rw [expr_of_node hmade]
      exact .conditional hderives hkind hderivesYes hkindColon hderivesNo
    · exact hstopsNo.append _ (derives_ne_nil hderivesNo) (by simp [hkindColon])
  · rename_i hquestion
    obtain ⟨rfl, rfl⟩ := Prod.mk.inj (Except.ok.inj hbranches)
    refine ⟨consumed, n + 1, rfl, .operands hderives, ?_, hstops.not_call⟩
    rintro (haccess | ⟨op, hkind⟩ | hkind)
    · exact hstops.not_continues (.inl haccess)
    · obtain ⟨k, hlt, hlevel⟩ := exists_mem_operators op
      exact hstops.not_continues (.inr ⟨k + 1, hlt, op, hlevel, hkind⟩)
    · exact hquestion (decide_eq_true hkind)

/-- With a budget of nested constructs, what is read is expressions and operands of prefix
operators. -/
theorem nested_sound (limits : Limits) (budget : Nat) :
    Sound (H := H) .expression (nested limits budget .expression) ∧
      Sound (H := H) (.level 0) (nested limits budget .operand) := by
  induction budget with
  | zero =>
      constructor
      · intro ts parsed rest h
        cases h
      · intro ts parsed rest h
        cases h
  | succ budget ih => exact ⟨conditional_sound ih.2 ih.1, unary_sound ih.2 ih.1⟩

end Parser

end Formula
