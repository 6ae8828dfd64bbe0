import Formula.Evaluation
import Formula.Proofs.Height

/-!
# The depth of an evaluation

Evaluating an expression evaluates the expressions nested in it. `evalLevel` is one level of this
recursion and `evalWithin` a bounded number of levels; the height of an expression is enough of
them, `eval_within_eq`.
-/

namespace Formula.Expr

variable {σ H : Type}

/-- The target of an access. The root is no expression to evaluate. -/
def evalTarget (nested : Expr H → Action σ (Value H)) (root : Value H) :
    Expr H → Action σ (Value H)
  | .root => pure root
  | target => nested target

/-- The values of arguments, from left to right. -/
def evalEach (nested : Expr H → Action σ (Value H)) : List (Expr H) → Action σ (List (Value H))
  | [] => pure []
  | arg :: rest => do
    let value ← nested arg
    let values ← evalEach nested rest
    return value :: values

variable {f g : Expr H → Action σ (Value H)} {root : Value H}

/-- Targets have the same value if they do as expressions. -/
theorem eval_target_congr {target : Expr H} (h : target ≠ .root → f target = g target) :
    evalTarget f root target = evalTarget g root target := by
  cases target with
  | root => rfl
  | _ => exact h nofun

/-- Arguments have the same values if everything up to the height of the tallest does. -/
theorem eval_each_congr {args : List (Expr H)} (h : ∀ e, e.height ≤ argsHeight args → f e = g e) :
    evalEach f args = evalEach g args := by
  induction args with
  | nil => rfl
  | cons arg rest ih =>
      simp only [argsHeight] at h
      rw [evalEach, evalEach, h arg (by omega), ih fun e he => h e (by omega)]

variable [HostObject H]

/-- One level of an evaluation: the value of an expression, of which the nested expressions are
evaluated by `nested`. -/
def evalLevel (binding : Binding σ H) (root : Value H) (nested : Expr H → Action σ (Value H)) :
    Expr H → Action σ (Value H)
  | .literal value => pure value
  | .root => pure root
  | .member target name => do
    let target ← evalTarget nested root target
    requireTarget (.member name) target
    binding.getMember target name
  | .index target args => do
    let target ← evalTarget nested root target
    requireTarget .index target
    let args ← evalEach nested args
    binding.getIndex target args
  | .call target name args => do
    let target ← evalTarget nested root target
    requireTarget (.method name) target
    let args ← evalEach nested args
    binding.invoke target name args
  | .unary op operand => do
    let operand ← nested operand
    liftM (Value.unary op operand)
  | .binary .and left right => do
    let left ← nested left
    if left.toBoolean then
      let right ← nested right
      return .boolean right.toBoolean
    else return .boolean false
  | .binary .or left right => do
    let left ← nested left
    if left.toBoolean then return .boolean true
    else
      let right ← nested right
      return .boolean right.toBoolean
  | .binary op left right => do
    let left ← nested left
    let right ← nested right
    liftM (Value.binary op left right)
  | .conditional condition yes no => do
    let condition ← nested condition
    if condition.toBoolean then nested yes else nested no

/-- The value of an expression from at most `depth` levels of evaluation; what is nested deeper has
the outcome `stuck`. -/
def evalWithin (stuck : Action σ (Value H)) (binding : Binding σ H) (root : Value H) :
    Nat → Expr H → Action σ (Value H)
  | 0, _ => stuck
  | depth + 1, e => evalLevel binding root (evalWithin stuck binding root depth) e

variable {binding : Binding σ H}

/-- Arguments are evaluated one by one. -/
theorem eval_args_eq (args : List (Expr H)) :
    evalArgs binding root args = evalEach (eval binding root) args := by
  induction args with
  | nil => rw [evalArgs, evalEach]
  | cons arg rest ih => rw [evalArgs, evalEach, ih]

/-- The value of a target is that of an expression. -/
theorem eval_target_eq (target : Expr H) :
    evalTarget (eval binding root) root target = eval binding root target := by
  cases target with
  | root => rw [evalTarget, eval]
  | _ => rfl

/-- An evaluation goes level by level. -/
theorem eval_level_eval (e : Expr H) :
    evalLevel binding root (eval binding root) e = eval binding root e := by
  cases e with
  | literal | root => rw [evalLevel, eval]
  | member | index | call => simp only [evalLevel, eval, eval_target_eq, eval_args_eq]
  | unary => rw [evalLevel, eval]
  | binary op => cases op <;> rw [evalLevel, eval] <;> exact nofun
  | conditional => rw [evalLevel, eval]

/-- One level has the value of evaluations that agree below the height of an expression. -/
theorem eval_level_congr {e : Expr H}
    (h : ∀ nested, nested.height < e.height → f nested = g nested) :
    evalLevel binding root f e = evalLevel binding root g e := by
  cases e with
  | literal | root => rfl
  | member target name =>
      have htarget : evalTarget f root target = evalTarget g root target :=
        eval_target_congr fun hne => h target (by rw [height_member hne]; omega)
      rw [evalLevel, evalLevel, htarget]
  | index target args | call target name args =>
      simp only [height] at h
      have htarget : evalTarget f root target = evalTarget g root target :=
        eval_target_congr fun _ => h target (by omega)
      have hargs : evalEach f args = evalEach g args :=
        eval_each_congr fun arg harg => h arg (by omega)
      rw [evalLevel, evalLevel, htarget, hargs]
  | unary op operand =>
      simp only [height] at h
      rw [evalLevel, evalLevel, h operand (by omega)]
  | binary op left right =>
      simp only [height] at h
      have hleft := h left (by omega)
      have hright := h right (by omega)
      cases op <;> simp only [evalLevel, hleft, hright]
  | conditional condition yes no =>
      simp only [height] at h
      rw [evalLevel, evalLevel, h condition (by omega), h yes (by omega), h no (by omega)]

/-- The height of an expression bounds how deep its evaluation recurses. -/
theorem eval_within_eq (stuck : Action σ (Value H)) (binding : Binding σ H) (root : Value H)
    {depth : Nat} {e : Expr H} (h : e.height ≤ depth) :
    evalWithin stuck binding root depth e = eval binding root e := by
  induction depth generalizing e with
  | zero =>
      have hpos := e.height_pos
      omega
  | succ depth ih =>
      rw [evalWithin, ← eval_level_eval]
      exact eval_level_congr fun nested hnested => ih (by omega)

end Formula.Expr
