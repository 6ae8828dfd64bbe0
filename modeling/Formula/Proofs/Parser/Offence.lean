import Formula.Proofs.Parser.Operand

/-!
# The token that offends

With operands that pinpoint their errors, the levels of operators and whole expressions do, and so
does the parser, `nested_reliable`. A refusal has as many tokens before it as the limits have levels of
nesting or of height.
-/

namespace Formula

namespace Parser

open Grammar Tokens Lexeme

variable {H : Type} {limits : Limits} {expression operand : Rule H} {bound depth : Nat}

/-- The operators of a level that follow a left operand pinpoint errors. -/
theorem operator_loop_decides {k level : Nat}
    (hoperand : Reliable limits depth (.level k) level operand)
    (hheight : level ≤ limits.maxHeight + 1) {front : List Token} {left : Parsed H} {n : Nat}
    {ts : Tokens} (hfront : Derives (.level (k + 1)) front left.expr n)
    (htall : left.height ≤ front.length) (hnumbers : NumbersRead ts) :
    Decides (fun before => Viable H (.level (k + 1)) (front ++ before)) (level - front.length)
      (operatorLoop limits (k + 1) operand left) ts := by
  induction hlength : ts.rest.length using Nat.strongRecOn generalizing front left n ts with
  | ind length ih =>
      cases hop : opOnLevel? (k + 1) ts.current.kind with
      | some op =>
          obtain ⟨hlevel, hkind⟩ := op_on_level_eq_some.1 hop
          obtain ⟨sign, after, hsign, rfl⟩ := exists_prepend_of_kind hkind (by simp)
          have hinner : Decides (fun before => Viable H (.level (k + 1)) (front ++ (sign :: before)))
              (level - front.length - 1) (fun rest => do
                let result ← operand rest
                let parsed ← node limits (.binary op left.expr (rightOperand op result.1.expr))
                  (1 + max left.height result.1.height)
                operatorLoop limits (k + 1) operand parsed result.2) after := by
            refine .bind ((hoperand.pinpoints after hnumbers.of_prepend).imp
              (fun _ hbefore => hbefore.binary hfront hsign hlevel) (by omega)) ?_
            intro right used rest hread heq
            subst heq
            obtain ⟨⟨m, hderives⟩, htallRight⟩ := hoperand.derives hread
            dsimp only
            refine .node (by omega) fun made hmade => ?_
            have hmadeTall := height_of_node hmade
            have hbinary := Derives.binary op hfront hsign hlevel hderives
            rw [← expr_of_node hmade] at hbinary
            have hdecides := ih rest.rest.length (by rw [← hlength]; simp; omega) hbinary
              (by simp; omega) hnumbers.of_prepend.of_prepend rfl
            exact hdecides.imp (fun before hbefore => by simpa using hbefore) (by simp; omega)
          refine .of_token (fun sign' rest' hsign' _ => ?_) hinner
          exact operator_loop_binary hoperand.sound (hsign'.trans hsign) hlevel rest' left
      | none =>
          refine .of_current (fun ts' hsame => ?_) (.ok left)
          refine left_fold_stop (fun op hlevel hkind => ?_) _ left
          rw [hsame] at hkind
          cases hop.symm.trans (op_on_level_eq_some.2 ⟨hlevel, hkind⟩)

/-- Operands with the operators of the levels up to `k` between them pinpoint errors. -/
theorem binary_reliable {level : Nat} (hoperand : Reliable limits depth (.level 0) level operand)
    (hheight : level ≤ limits.maxHeight + 1) (k : Nat) :
    Reliable limits depth (.level k) level (binary limits operand k) := by
  refine ⟨binary_sound hoperand.sound k, binary_completes hoperand.completes k, ?_⟩
  induction k with
  | zero => exact hoperand.pinpoints
  | succ k ih =>
      have hlevel : Reliable limits depth (.level k) level (binary limits operand k) :=
        ⟨binary_sound hoperand.sound k, binary_completes hoperand.completes k, ih⟩
      intro ts hnumbers
      refine .bind ((ih ts hnumbers).imp (fun _ => Viable.looser) (Nat.le_refl level)) ?_
      intro left used rest hread heq
      subst heq
      obtain ⟨⟨n, hderives⟩, htall⟩ := hlevel.derives hread
      exact operator_loop_decides hlevel hheight (.tighter hderives) htall hnumbers.of_prepend

/-- The branches of a conditional pinpoint errors. -/
theorem branches_decide (hexpr : Reliable limits depth .expression bound expression) {level : Nat}
    (hlevel : level ≤ bound + 1) (hheight : level ≤ limits.maxHeight + 1) {used : List Token}
    {condition : Parsed H} {n : Nat}
    (hcondition : Derives (.level BinaryOp.levelCount) used condition.expr n)
    (htall : condition.height ≤ used.length) {question : Token}
    (hquestion : question.kind = .punctuation .question) {ts : Tokens} (hnumbers : NumbersRead ts) :
    Decides (fun before => Viable H .expression (used ++ question :: before)) (level - used.length - 1)
      (fun rest => do
        let (yes, rest) ← expression rest
        let rest ← rest.expect (.punctuation .colon)
        let (no, rest) ← expression rest
        let height := 1 + max (max condition.height yes.height) no.height
        let parsed ← node limits (.conditional condition.expr yes.expr no.expr) height
        return (parsed, rest)) ts := by
  refine .bind ((hexpr.pinpoints ts hnumbers).imp
    (fun _ hbefore => hbefore.yes hcondition hquestion) (by omega)) ?_
  intro yes usedYes restYes hreadYes heqYes
  subst heqYes
  obtain ⟨⟨m, hyes⟩, htallYes⟩ := hexpr.derives hreadYes
  refine .expect ?_ fun colon rest hcolon heq => ?_
  · simpa using (viable_of_derives hyes).yes hcondition hquestion
  · subst heq
    refine .bind ((hexpr.pinpoints rest hnumbers.of_prepend.of_prepend).imp
      (fun _ hbefore => hbefore.no hcondition hquestion hyes hcolon) (by omega)) ?_
    intro no usedNo restNo hreadNo heqNo
    subst heqNo
    obtain ⟨-, htallNo⟩ := hexpr.derives hreadNo
    exact .node (by omega) fun made _ => .ok made

/-- Whole expressions pinpoint errors. -/
theorem conditional_pinpoints {bound' : Nat}
    (hoperand : Reliable limits depth (.level 0) bound' operand)
    (hexpr : Reliable limits (depth + 1) .expression bound expression) {level : Nat}
    (hlevel : level ≤ bound + 1) (hlevel' : level ≤ bound' + 1)
    (hheight : level ≤ limits.maxHeight + 1) :
    Pinpoints .expression level (conditional limits operand expression) := by
  intro ts hnumbers
  have hunary : Reliable limits (depth + 1) (.level 0) level (unary limits operand expression) :=
    ⟨unary_sound hoperand.sound hexpr.sound, unary_completes hoperand.completes hexpr.completes,
      unary_pinpoints hoperand hexpr (Nat.succ_pos _) hlevel hlevel' hheight⟩
  have hoperands := binary_reliable hunary hheight BinaryOp.levelCount
  refine .bind ((hoperands.pinpoints ts hnumbers).imp (fun _ => Viable.expression)
    (Nat.le_refl level)) ?_
  intro condition used rest hread heq
  subst heq
  obtain ⟨⟨n, hcondition⟩, htall⟩ := hoperands.derives hread
  by_cases hkind : rest.current.kind = .punctuation .question
  · obtain ⟨question, after, hquestion, rfl⟩ := exists_prepend_of_kind hkind (by simp)
    refine .of_token (fun question' rest' hquestion' _ => ?_) (branches_decide hexpr hlevel hheight
      hcondition htall hquestion hnumbers.of_prepend.of_prepend)
    simp only [starts_with_eq, current_prepend_cons, hquestion', hquestion, decide_true, if_true,
      advance_prepend_cons, prepend_nil]
  · refine .of_current (fun ts' hsame => ?_) (.ok condition)
    simp only [starts_with_eq, hsame, hkind, decide_false, Bool.false_eq_true, if_false]
    rfl

/-- With a budget of nested constructs, expressions and operands of prefix operators are read
reliably, and a refusal has as many tokens before it as the budget or the height has levels. -/
theorem nested_reliable (limits : Limits) (budget : Nat) :
    Reliable (H := H) limits (budget + 1) .expression (min budget (limits.maxHeight + 1))
        (nested limits budget .expression) ∧
      Reliable (H := H) limits budget (.level 0) (min budget (limits.maxHeight + 1))
        (nested limits budget .operand) := by
  induction budget with
  | zero =>
      obtain ⟨hexprSound, hoperandSound⟩ := nested_sound (H := H) limits 0
      obtain ⟨hexprCompletes, hoperandCompletes⟩ := nested_completes (H := H) limits 0
      have hrefuses (c : Category) (kind : Nested) :
          Pinpoints (H := H) c (min 0 (limits.maxHeight + 1)) (nested limits 0 kind) := by
        intro ts _
        refine .fail [] (by rw [nested]) .deep (Nat.zero_min _).le ?_
        intro before' rest' _
        exact ⟨_, by rw [nested], rfl, .deep⟩
      exact ⟨⟨hexprSound, hexprCompletes, hrefuses _ _⟩,
        ⟨hoperandSound, hoperandCompletes, hrefuses _ _⟩⟩
  | succ budget ih =>
      obtain ⟨hexpr, hoperand⟩ := ih
      obtain ⟨hexprSound, hoperandSound⟩ := nested_sound (H := H) limits (budget + 1)
      obtain ⟨hexprCompletes, hoperandCompletes⟩ := nested_completes (H := H) limits (budget + 1)
      refine ⟨⟨hexprSound, hexprCompletes, ?_⟩, ⟨hoperandSound, hoperandCompletes, ?_⟩⟩
      · exact conditional_pinpoints hoperand hexpr (by omega) (by omega) (by omega)
      · exact unary_pinpoints hoperand hexpr (Nat.succ_pos _) (by omega) (by omega) (by omega)

end Parser

end Formula
