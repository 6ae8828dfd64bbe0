import Formula.Binding
import Formula.Expr.Parser
import Formula.Value.Operation

/-!
# Evaluation

An expression is evaluated against a root value, with a binding for what it does to values. Operands
and arguments are evaluated from left to right; the right operand of `&&` and `||` and the branches
of a conditional only when they are needed. A null target is refused before its arguments are
evaluated, so a binding never sees one.
-/

namespace Formula

namespace Expr

variable {σ H : Type} [HostObject H]

/-- Refuses null as the target of an access. -/
def requireTarget (access : Access) (target : Value H) : Action σ Unit :=
  if target.isNull then throw (.nullReference access) else pure ()

mutual
/-- The value of an expression. -/
def eval (binding : Binding σ H) (root : Value H) : Expr H → Action σ (Value H)
  | .literal value => pure value
  | .root => pure root
  | .member target name => do
    let target ← eval binding root target
    requireTarget (.member name) target
    binding.getMember target name
  | .index target args => do
    let target ← eval binding root target
    requireTarget .index target
    let args ← evalArgs binding root args
    binding.getIndex target args
  | .call target name args => do
    let target ← eval binding root target
    requireTarget (.method name) target
    let args ← evalArgs binding root args
    binding.invoke target name args
  | .unary op operand => do
    let operand ← eval binding root operand
    liftM (Value.unary op operand)
  | .binary .and left right => do
    let left ← eval binding root left
    if left.toBoolean then
      let right ← eval binding root right
      return .boolean right.toBoolean
    else return .boolean false
  | .binary .or left right => do
    let left ← eval binding root left
    if left.toBoolean then return .boolean true
    else
      let right ← eval binding root right
      return .boolean right.toBoolean
  | .binary op left right => do
    let left ← eval binding root left
    let right ← eval binding root right
    liftM (Value.binary op left right)
  | .conditional condition yes no => do
    let condition ← eval binding root condition
    if condition.toBoolean then eval binding root yes else eval binding root no

/-- The values of arguments, from left to right. -/
def evalArgs (binding : Binding σ H) (root : Value H) : List (Expr H) → Action σ (List (Value H))
  | [] => pure []
  | arg :: rest => do
    let value ← eval binding root arg
    let values ← evalArgs binding root rest
    return value :: values
end

end Expr

/-- Parses the expression that a text starts with and evaluates it. -/
def evaluate {σ H : Type} [HostObject H] (binding : Binding σ H) (limits : Limits) (text : String)
    (root : Value H) (state : σ) : Except Error (Value H) × σ :=
  match Expr.parse limits text with
  | .error error => (.error (.parse error), state)
  | .ok expr =>
    match (expr.eval binding root).run.run state with
    | (result, state) => (result.mapError .evaluation, state)

end Formula
