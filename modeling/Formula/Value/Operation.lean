import Formula.Value.Order

/-!
# Operators on values

What each operator does with operands that are already evaluated. Arithmetic on numbers follows the
doubles; a plus with a string concatenates; date-times and durations have sums and differences that
fail out of range; bitwise operators work on signed 64-bit integers.
-/

namespace Formula.Value

variable {H : Type} [HostObject H]

/-- Whether the bitwise operators take a value: numbers, booleans, null and numeric text. -/
def isIntegral : Value H → Bool
  | .number _ | .boolean _ | .null => true
  | .string s => (readNumber? s).isSome
  | _ => false

/-- A prefix operator. -/
def unary (op : UnaryOp) (operand : Value H) : Except EvalError (Value H) :=
  match op, operand with
  | .not, _ => .ok (.boolean !operand.toBoolean)
  | .negate, .number n => .ok (.number (-n))
  | .negate, .duration d => .ok (.duration d.neg)
  | .complement, _ =>
    if operand.isIntegral then .ok (ofInt (-operand.toInt64 - 1))
    else .error (.unsupportedUnary op operand.typeName)
  | .negate, _ => .error (.unsupportedUnary op operand.typeName)

/-- The error of an operator that has no rule for the types of its operands. -/
def unsupported (op : BinaryOp) (left right : Value H) : Except EvalError (Value H) :=
  .error (.unsupportedBinary op left.typeName right.typeName)

/-- The result of date-time or duration arithmetic, which may leave the range. -/
def inRange (op : BinaryOp) {α : Type} (wrap : α → Value H) : Option α → Except EvalError (Value H)
  | some result => .ok (wrap result)
  | none => .error (.overflow op)

/-- A date-time moved by a duration. -/
def shiftDateTime (t : DateTime) (d : Duration) : Except EvalError (Value H) :=
  inRange .add .dateTime (t.add? d)

/-- `+`: a sum, or the concatenation of texts as soon as one operand is a string. -/
def add (left right : Value H) : Except EvalError (Value H) :=
  match left, right with
  | .number a, .number b => .ok (.number (a + b))
  | .string _, _ | _, .string _ => .ok (.string (left.toText ++ right.toText))
  | .dateTime t, .duration d | .duration d, .dateTime t => shiftDateTime t d
  | .duration a, .duration b => inRange .add .duration (a.add? b)
  | _, _ => unsupported .add left right

/-- `-`: a difference. -/
def subtract (left right : Value H) : Except EvalError (Value H) :=
  match left, right with
  | .number a, .number b => .ok (.number (a - b))
  | .dateTime a, .dateTime b => .ok (.duration (a.since b))
  | .dateTime t, .duration d => inRange .subtract .dateTime (t.sub? d)
  | .duration a, .duration b => inRange .subtract .duration (a.sub? b)
  | _, _ => unsupported .subtract left right

/-- An operator on two numbers only. -/
def arithmetic (op : BinaryOp) (f : Binary64 → Binary64 → Binary64) (left right : Value H) :
    Except EvalError (Value H) :=
  match left, right with
  | .number a, .number b => .ok (.number (f a b))
  | _, _ => unsupported op left right

/-- The count of a shift: the right operand modulo 64, a negative one counting from the end. -/
def shiftCount (count : Value H) : Nat :=
  (count.toInt32 % 64).toNat

/-- An operator on the 64 bits of two integers. -/
def bitwise (op : BinaryOp) (f : BitVec 64 → BitVec 64 → BitVec 64) (left right : Value H) :
    Except EvalError (Value H) :=
  if left.isIntegral && right.isIntegral then
    .ok (ofInt (f (BitVec.ofInt 64 left.toInt64) (BitVec.ofInt 64 right.toInt64)).toInt)
  else unsupported op left right

/-- A comparison; it is false for operands that cannot be compared. -/
def relation (holds : Ordering → Bool) (left right : Value H) : Except EvalError (Value H) :=
  .ok (.boolean ((left.compare? right).any holds))

/-- A binary operator on evaluated operands. -/
def binary (op : BinaryOp) (left right : Value H) : Except EvalError (Value H) :=
  match op with
  | .add => add left right
  | .subtract => subtract left right
  | .multiply => arithmetic op Binary64.mul left right
  | .divide => arithmetic op Binary64.div left right
  | .modulo => arithmetic op Binary64.rem left right
  | .shiftLeft => bitwise op (fun a _ => a <<< right.shiftCount) left right
  | .shiftRight => bitwise op (fun a _ => a.sshiftRight right.shiftCount) left right
  | .bitAnd => bitwise op (· &&& ·) left right
  | .bitXor => bitwise op (· ^^^ ·) left right
  | .bitOr => bitwise op (· ||| ·) left right
  | .equal => .ok (.boolean (left.looseEq right))
  | .notEqual => .ok (.boolean !left.looseEq right)
  | .lessThan => relation (· == .lt) left right
  | .lessEqual => relation (· != .gt) left right
  | .greaterThan => relation (· == .gt) left right
  | .greaterEqual => relation (· != .lt) left right
  | .and => .ok (.boolean (left.toBoolean && right.toBoolean))
  | .or => .ok (.boolean (left.toBoolean || right.toBoolean))

end Formula.Value
