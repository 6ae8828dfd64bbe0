import Formula.Value

/-!
# Expression trees

An expression is a tree of literals, accesses to the root and what it leads to, operators and
conditionals. A bare name is a member of the root. `height` counts the operators and accesses on the
longest path, and bounds how deep an evaluation recurses.
-/

namespace Formula

/-- An expression tree. -/
inductive Expr (H : Type) where
  | literal (value : Value H)
  | root
  | member (target : Expr H) (name : String)
  | index (target : Expr H) (args : List (Expr H))
  | call (target : Expr H) (name : String) (args : List (Expr H))
  | unary (op : UnaryOp) (operand : Expr H)
  | binary (op : BinaryOp) (left right : Expr H)
  | conditional (condition yes no : Expr H)

namespace Expr

variable {H : Type}

instance : Inhabited (Expr H) := ⟨.root⟩

/-- A number literal. -/
def number (n : Binary64) : Expr H :=
  .literal (.number n)

/-- A bare name. -/
def identifier (name : String) : Expr H :=
  .member .root name

/-- The double of a number literal. -/
def asNumberLiteral? : Expr H → Option Binary64
  | .literal (.number n) => some n
  | _ => none

mutual
/-- The number of nodes on the longest path; a literal, the root and a bare name count one. -/
def height : Expr H → Nat
  | .literal _ | .root | .member .root _ => 1
  | .member target _ => target.height + 1
  | .index target args | .call target _ args => max target.height (argsHeight args) + 1
  | .unary _ operand => operand.height + 1
  | .binary _ left right => max left.height right.height + 1
  | .conditional condition yes no => max condition.height (max yes.height no.height) + 1

/-- The height of the tallest argument, zero without one. -/
def argsHeight : List (Expr H) → Nat
  | [] => 0
  | arg :: rest => max arg.height (argsHeight rest)
end

end Expr

end Formula
