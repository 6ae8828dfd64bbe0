/-!
# Operators

The prefix operators and the binary operators with their symbols. The binary operators stand on ten
levels; an operator of a looser level is applied after one of a tighter level.
-/

namespace Formula

/-- The prefix operators. A prefix plus is no operator, since it has no effect. -/
inductive UnaryOp where
  | negate
  | not
  | complement
  deriving DecidableEq, Repr

/-- The symbol of a prefix operator. -/
def UnaryOp.symbol : UnaryOp → String
  | .negate => "-"
  | .not => "!"
  | .complement => "~"

/-- The binary operators. -/
inductive BinaryOp where
  | add
  | subtract
  | multiply
  | divide
  | modulo
  | shiftLeft
  | shiftRight
  | equal
  | notEqual
  | lessThan
  | lessEqual
  | greaterThan
  | greaterEqual
  | bitAnd
  | bitXor
  | bitOr
  | and
  | or
  deriving DecidableEq, Repr

namespace BinaryOp

/-- The symbol of a binary operator. -/
def symbol : BinaryOp → String
  | .add => "+"
  | .subtract => "-"
  | .multiply => "*"
  | .divide => "/"
  | .modulo => "%"
  | .shiftLeft => "<<"
  | .shiftRight => ">>"
  | .equal => "=="
  | .notEqual => "!="
  | .lessThan => "<"
  | .lessEqual => "<="
  | .greaterThan => ">"
  | .greaterEqual => ">="
  | .bitAnd => "&"
  | .bitXor => "^"
  | .bitOr => "|"
  | .and => "&&"
  | .or => "||"

/-- The number of levels. -/
def levelCount : Nat := 10

/-- The level of an operator, from one for the tightest to `levelCount` for the loosest. -/
def level : BinaryOp → Nat
  | .multiply | .divide | .modulo => 1
  | .add | .subtract => 2
  | .shiftLeft | .shiftRight => 3
  | .lessThan | .lessEqual | .greaterThan | .greaterEqual => 4
  | .equal | .notEqual => 5
  | .bitAnd => 6
  | .bitXor => 7
  | .bitOr => 8
  | .and => 9
  | .or => 10

/-- Whether an operator shifts; its right operand is then a count. -/
def isShift : BinaryOp → Bool
  | .shiftLeft | .shiftRight => true
  | _ => false

end BinaryOp

end Formula
