import Formula.Evaluation
import Formula.Proofs.Binary64.Exact
import Formula.Proofs.Printer.Reread

/-!
# The meaning of printed text

The tree that printed text is read as is evaluated like the tree that was printed, `eval_reread`:
the operations that stand for a number give the number, and a shift by a narrowed count is the shift
by the count.
-/

namespace Formula

open Grammar

variable {H : Type}

/-- A count narrowed to 32 bits shifts as far. -/
theorem Value.shift_count_narrowed (x : Binary64) :
    shiftCount (.number (.ofInt x.toInt32) : Value H) = shiftCount (.number x : Value H) := by
  simp only [shiftCount, toInt32, toNumber, Binary64.to_int32_of_to_int32]

variable [HostObject H]

/-- A bitwise operator that does not depend on the bits of its right operand takes all numbers
alike. -/
theorem Value.bitwise_number (op : BinaryOp) (f : BitVec 64 → BitVec 64) (left : Value H)
    (x y : Binary64) :
    bitwise op (fun a _ => f a) left (.number x) =
      bitwise op (fun a _ => f a) left (.number y) := by
  have hintegral : isIntegral (.number x : Value H) = isIntegral (.number y : Value H) := rfl
  have hname : typeName (.number x : Value H) = typeName (.number y : Value H) := rfl
  rw [bitwise, bitwise, unsupported, unsupported, hintegral, hname]

/-- A number as a count narrowed to 32 bits has the same results. -/
theorem Value.binary_narrowed (op : BinaryOp) (hop : op.isShift = true) (left : Value H)
    (x : Binary64) :
    Value.binary op left (.number (.ofInt x.toInt32)) = Value.binary op left (.number x) := by
  cases op with
  | shiftLeft | shiftRight =>
      rw [Value.binary, Value.binary, shift_count_narrowed, bitwise_number]
  | _ => exact nomatch hop

namespace Expr

section

variable {σ : Type} (binding : Binding σ H) (root : Value H)

/-- A shift takes the values of both operands. -/
theorem eval_shift {op : BinaryOp} (hop : op.isShift = true) (left right : Expr H) :
    eval binding root (.binary op left right) = (do
      let left ← eval binding root left
      let right ← eval binding root right
      liftM (Value.binary op left right)) := by
  cases op with
  | shiftLeft | shiftRight => rfl
  | _ => exact nomatch hop

/-- Narrowing a constant count changes no result. -/
theorem eval_right_operand (op : BinaryOp) (left right : Expr H) :
    eval binding root (.binary op left (rightOperand op right)) =
      eval binding root (.binary op left right) := by
  rcases right_operand_cases op right with hsame | ⟨hop, x, rfl⟩
  · rw [hsame]
  · rw [right_operand_shift hop, eval_shift binding root hop, eval_shift binding root hop]
    simp only [number, eval, pure_bind, Value.binary_narrowed op hop]

/-- The operation that a number is written as gives the number. -/
theorem eval_reread_number (x : Binary64) :
    eval binding root (rereadNumber x) = pure (.number x) := by
  cases x with
  | nan =>
      have hquotient : Binary64.div 0 0 = .nan := by decide +kernel
      simp only [rereadNumber, number, eval, pure_bind, Value.binary, Value.arithmetic, hquotient]
      rfl
  | infinite negative =>
      cases negative with
      | false =>
          have hquotient : Binary64.div 1 0 = .infinite false := by decide +kernel
          simp only [rereadNumber, number, Bool.false_eq_true, if_false, eval, pure_bind,
            Value.binary, Value.arithmetic, hquotient]
          rfl
      | true =>
          have hquotient : Binary64.div (-1) 0 = .infinite true := by decide +kernel
          have hone : liftM (Value.unary .negate (.number 1 : Value H)) =
              (pure (.number (-1)) : Action σ (Value H)) := rfl
          simp only [rereadNumber, number, if_true, eval, pure_bind, hone, Value.binary,
            Value.arithmetic, hquotient]
          rfl
  | finite negative significand shift hcanonical =>
      cases negative with
      | false => rfl
      | true => rfl

mutual
/-- The tree that the text of an expression is read as is evaluated like the expression. -/
theorem eval_reread (e : Expr H) : eval binding root e.reread = eval binding root e := by
  match e with
  | .literal value =>
      cases value with
      | number x => exact eval_reread_number binding root x
      | _ => rfl
  | .root => rfl
  | .member target name => rw [reread, eval, eval, eval_reread target]
  | .index target args => rw [reread, eval, eval, eval_reread target, eval_args_reread args]
  | .call target name args => rw [reread, eval, eval, eval_reread target, eval_args_reread args]
  | .unary op operand => rw [reread, eval, eval, eval_reread operand]
  | .binary op left right =>
      -- Without the narrowing the operands differ only by being read again.
      have hleft := eval_reread left
      have hright := eval_reread right
      rw [reread, eval_right_operand]
      cases op <;> simp only [eval, hleft, hright]
  | .conditional condition yes no =>
      rw [reread, eval, eval, eval_reread condition, eval_reread yes, eval_reread no]

/-- The trees that the texts of arguments are read as are evaluated like the arguments. -/
theorem eval_args_reread (args : List (Expr H)) :
    evalArgs binding root (rereadArgs args) = evalArgs binding root args := by
  match args with
  | [] => rfl
  | arg :: rest => rw [rereadArgs, evalArgs, evalArgs, eval_reread arg, eval_args_reread rest]
end

end

/-- Whether two trees are evaluated alike: with every binding they give the same value or the same
error, and make the same calls in the same order. -/
def SameMeaning (e e' : Expr H) : Prop :=
  ∀ (σ : Type) (binding : Binding σ H) (root : Value H),
    eval binding root e = eval binding root e' ∧
    eval binding.recording root e = eval binding.recording root e'

/-- Trees that every binding evaluates alike have the same meaning. -/
theorem same_meaning_of_eval_eq {e e' : Expr H}
    (h : ∀ {σ : Type} (binding : Binding σ H) (root : Value H),
      eval binding root e = eval binding root e') : SameMeaning e e' :=
  fun _ binding root => ⟨h binding root, h binding.recording root⟩

/-- The text of an expression that can be written down is read as a tree with the same meaning. In
particular the literal text of a value gives the value, and narrowing a constant count keeps the
meaning of a shift. -/
theorem printing_keeps_meaning :
    (∀ e : Expr H, e.Printable → ∃ e', ReadsUnlimited e.toText e' ∧ SameMeaning e' e) ∧
    (∀ (value : Value H) (text : String), value.toLiteral? = some text →
      ∃ e', ReadsUnlimited text e' ∧
        ∀ (σ : Type) (binding : Binding σ H) (root : Value H),
          eval binding root e' = pure value) ∧
    ∀ (op : BinaryOp) (left right : Expr H),
      SameMeaning (.binary op left (Parser.narrowed op right)) (.binary op left right) := by
  have hprinted : ∀ e : Expr H, e.Printable →
      ∃ e', ReadsUnlimited e.toText e' ∧ SameMeaning e' e := by
    intro e h
    refine ⟨e.reread, reads_unlimited_to_text h, same_meaning_of_eval_eq ?_⟩
    intro σ binding root
    exact eval_reread binding root e
  refine ⟨hprinted, ?_, ?_⟩
  · intro value text htext
    have hliteral : toText (.literal value) = text := by
      rw [toText, literalText, htext, Option.getD_some]
    obtain ⟨e', hreads, hmeaning⟩ := hprinted (.literal value) (Value.is_plain_of_to_literal htext)
    refine ⟨e', hliteral ▸ hreads, ?_⟩
    intro σ binding root
    exact (hmeaning σ binding root).1
  · intro op left right
    rw [Parser.narrowed_eq]
    apply same_meaning_of_eval_eq
    intro σ binding root
    exact eval_right_operand binding root op left right

/-- The negation of an infinity, which is printed as an operation within another. -/
theorem printing_keeps_meaning_of_infinity :
    let e : Expr Empty := .unary .negate (.number (.infinite true))
    ∃ e', ReadsUnlimited e.toText e' ∧ SameMeaning e' e :=
  printing_keeps_meaning.1 _ trivial

end Expr

end Formula
