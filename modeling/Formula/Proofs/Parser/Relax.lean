import Formula.Expr.Parser
import Mathlib

/-!
# Relaxed limits

Larger limits change nothing but refusals. `Settles x y` says that the result `y` is the result `x`
unless that is too deep; every rule passes this on from the rules that it is built of, and so it
holds of the parser, `expression_settles`.
-/

namespace Formula.Parser

variable {α β H : Type} {limits limits' : Limits} {expression expression' : Rule H}
  {operand operand' : Rule H}

/-- Whether `y` is the result `x` unless that is too deep. -/
def Settles (x y : Except ParseError α) : Prop :=
  x = y ∨ ∃ limit, x = .error (.tooDeep limit)

/-- Every result is settled. -/
theorem settles_refl (x : Except ParseError α) : Settles x x :=
  .inl rfl

/-- A sequence settles as its parts do. -/
theorem settles_bind {x y : Except ParseError α} {f g : α → Except ParseError β}
    (h : Settles x y) (hf : ∀ a, Settles (f a) (g a)) : Settles (x >>= f) (y >>= g) := by
  rcases h with rfl | ⟨limit, rfl⟩
  · cases x with
    | error error => exact .inl rfl
    | ok a => exact hf a
  · exact .inr ⟨limit, rfl⟩

/-- Whether every result of one rule is that of another unless it is too deep. -/
def Relaxes (rule rule' : Rule H) : Prop :=
  ∀ ts, Settles (rule ts) (rule' ts)

/-- A node that is within a limit is within every larger one. -/
theorem node_settles (h : limits.maxHeight ≤ limits'.maxHeight) (expr : Expr H) (height : Nat) :
    Settles (node limits expr height) (node limits' expr height) := by
  unfold node
  split
  · exact .inr ⟨_, rfl⟩
  · rw [if_neg (by omega)]
    exact .inl rfl

theorem primary_relaxes (h : Relaxes expression expression') :
    Relaxes (primary expression) (primary expression') := by
  intro ts
  unfold primary
  dsimp only
  -- Only a group reads an expression; the other primaries do not depend on the limits.
  split
  case h_5 => exact settles_bind (h _) fun _ => settles_refl _
  all_goals exact settles_refl _

theorem argument_list_settles (h : Relaxes expression expression') (close : Symbol) (fuel : Nat)
    (ts : Tokens) :
    Settles (argumentList expression close fuel ts) (argumentList expression' close fuel ts) := by
  induction fuel generalizing ts with
  | zero => exact settles_refl _
  | succ fuel ih =>
      rw [argumentList, argumentList]
      refine settles_bind (h ts) fun ⟨arg, rest⟩ => ?_
      dsimp only
      split
      · exact settles_bind (ih _) fun _ => settles_refl _
      · exact settles_refl _

theorem arguments_settles (h : Relaxes expression expression') (close : Symbol) (ts : Tokens) :
    Settles (arguments expression close ts) (arguments expression' close ts) := by
  unfold arguments
  split
  · exact settles_refl _
  · exact argument_list_settles h close _ ts

theorem accesses_relaxes (hheight : limits.maxHeight ≤ limits'.maxHeight)
    (h : Relaxes expression expression') (fuel : Nat) (target : Parsed H) :
    Relaxes (accesses limits expression fuel target)
      (accesses limits' expression' fuel target) := by
  induction fuel generalizing target with
  | zero =>
      intro ts
      exact settles_refl _
  | succ fuel ih =>
      intro ts
      rw [accesses, accesses]
      dsimp only
      split
      · split
        · split
          · exact settles_bind (arguments_settles h _ _) fun _ =>
              settles_bind (node_settles hheight _ _) fun _ => ih _ _
          · exact settles_bind (node_settles hheight _ _) fun _ => ih _ _
        · exact settles_refl _
      · split
        · exact settles_bind (arguments_settles h _ _) fun _ =>
            settles_bind (node_settles hheight _ _) fun _ => ih _ _
        · exact settles_refl _

theorem access_relaxes (hheight : limits.maxHeight ≤ limits'.maxHeight)
    (h : Relaxes expression expression') :
    Relaxes (access limits expression) (access limits' expression') := by
  intro ts
  exact settles_bind (primary_relaxes h ts) fun _ => accesses_relaxes hheight h _ _ _

theorem unary_relaxes (hheight : limits.maxHeight ≤ limits'.maxHeight)
    (hoperand : Relaxes operand operand') (h : Relaxes expression expression') :
    Relaxes (unary limits operand expression) (unary limits' operand' expression') := by
  intro ts
  unfold unary
  split
  · exact hoperand _
  · split
    · exact settles_bind (hoperand _) fun _ =>
        settles_bind (node_settles hheight _ _) fun _ => settles_refl _
    · exact access_relaxes hheight h ts

theorem left_fold_relaxes (hheight : limits.maxHeight ≤ limits'.maxHeight)
    (h : Relaxes operand operand') (level fuel : Nat) (left : Parsed H) :
    Relaxes (leftFold limits level operand fuel left)
      (leftFold limits' level operand' fuel left) := by
  induction fuel generalizing left with
  | zero =>
      intro ts
      exact settles_refl _
  | succ fuel ih =>
      intro ts
      rw [leftFold, leftFold]
      split
      · exact settles_bind (h _) fun _ =>
          settles_bind (node_settles hheight _ _) fun _ => ih _ _
      · exact settles_refl _

theorem binary_relaxes (hheight : limits.maxHeight ≤ limits'.maxHeight)
    (h : Relaxes operand operand') (level : Nat) :
    Relaxes (binary limits operand level) (binary limits' operand' level) := by
  induction level with
  | zero => exact h
  | succ level ih =>
      intro ts
      exact settles_bind (ih ts) fun _ => left_fold_relaxes hheight ih _ _ _ _

theorem conditional_relaxes (hheight : limits.maxHeight ≤ limits'.maxHeight)
    (hoperand : Relaxes operand operand') (h : Relaxes expression expression') :
    Relaxes (conditional limits operand expression) (conditional limits' operand' expression') := by
  intro ts
  have hcondition := binary_relaxes hheight (unary_relaxes hheight hoperand h) BinaryOp.levelCount
  refine settles_bind (hcondition ts) fun ⟨condition, rest⟩ => ?_
  dsimp only
  split
  · exact settles_bind (h _) fun _ => settles_bind (settles_refl _) fun _ =>
      settles_bind (h _) fun _ =>
        settles_bind (node_settles hheight _ _) fun _ => settles_refl _
  · exact settles_refl _

/-- A larger budget under a larger limit on the height changes nothing but refusals. -/
theorem nested_relaxes (hheight : limits.maxHeight ≤ limits'.maxHeight) {budget budget' : Nat}
    (hbudget : budget ≤ budget') (what : Nested) :
    Relaxes (H := H) (nested limits budget what) (nested limits' budget' what) := by
  induction budget generalizing budget' what with
  | zero =>
      intro ts
      exact .inr ⟨limits.maxDepth, rfl⟩
  | succ budget ih =>
      obtain ⟨budget', rfl⟩ := Nat.exists_eq_add_one.2 (Nat.zero_lt_of_lt hbudget)
      have hbudget : budget ≤ budget' := Nat.le_of_succ_le_succ hbudget
      cases what with
      | expression =>
          exact conditional_relaxes hheight (ih hbudget .operand) (ih hbudget .expression)
      | operand => exact unary_relaxes hheight (ih hbudget .operand) (ih hbudget .expression)

/-- Larger limits change nothing but refusals. -/
theorem expression_settles (hdepth : limits.maxDepth ≤ limits'.maxDepth)
    (hheight : limits.maxHeight ≤ limits'.maxHeight) (ts : Tokens) :
    Settles (Parser.expression (H := H) limits ts) (Parser.expression limits' ts) :=
  settles_bind (nested_relaxes hheight hdepth .expression ts) fun _ => settles_refl _

end Formula.Parser
