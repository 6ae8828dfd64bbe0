import Formula.Expr
import Mathlib

/-!
# The height of a tree

The height of every node from those of its parts.
-/

namespace Formula.Expr

variable {H : Type}

/-- A tree has at least one node. -/
theorem height_pos (e : Expr H) : 1 ≤ e.height := by
  cases e with
  | member target name => cases target <;> simp [height]
  | _ => simp [height]

/-- A member of anything but the root is one taller than its target. -/
theorem height_member {target : Expr H} {name : String} (h : target ≠ .root) :
    (member target name).height = target.height + 1 := by
  cases target with
  | root => exact absurd rfl h
  | _ => simp [height]

/-- A call is one taller than its target and its arguments. -/
theorem height_call (target : Expr H) (name : String) (args : List (Expr H)) :
    (call target name args).height = 1 + max target.height (argsHeight args) := by
  simp [height, Nat.add_comm]

/-- An index is one taller than its target and its arguments. -/
theorem height_index (target : Expr H) (args : List (Expr H)) :
    (index target args).height = 1 + max target.height (argsHeight args) := by
  simp [height, Nat.add_comm]

end Formula.Expr
