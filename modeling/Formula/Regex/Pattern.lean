import Formula.Regex.CharSet

/-!
# Patterns

The tree of a regular expression, of which only matching counts: groups capture nothing and
repetitions have no preference. `size` estimates the space that its automaton would take, in units
of a single step.
-/

namespace Formula.Regex

/-- A condition on the place between two characters. -/
inductive Assertion where
  | textStart
  | textEnd
  | lineStart (carriageReturns : Bool)
  | lineEnd (carriageReturns : Bool)
  | wordBoundary (ascii : Bool)
  | notWordBoundary (ascii : Bool)
  | wordStart (ascii : Bool)
  | wordEnd (ascii : Bool)
  | wordStartHalf (ascii : Bool)
  | wordEndHalf (ascii : Bool)
  deriving DecidableEq, Repr

namespace Assertion

/-- Whether a character, if there is one, belongs to a word. -/
def isWord (ascii : Bool) (c : Option Char) : Bool :=
  c.any fun c => (if ascii then CharSet.asciiWord else CharSet.word).contains c.toNat

/-- Whether the condition holds between two characters, of which either may be missing. -/
def holds (before after : Option Char) : Assertion → Bool
  | .textStart => before.isNone
  | .textEnd => after.isNone
  | .lineStart false => before.isNone || before = some '\n'
  | .lineEnd false => after.isNone || after = some '\n'
  | .lineStart true =>
    before.isNone || before = some '\n' || (before = some '\r' && after ≠ some '\n')
  | .lineEnd true =>
    after.isNone || after = some '\r' || (after = some '\n' && before ≠ some '\r')
  | .wordBoundary ascii => isWord ascii before != isWord ascii after
  | .notWordBoundary ascii => isWord ascii before == isWord ascii after
  | .wordStart ascii => !isWord ascii before && isWord ascii after
  | .wordEnd ascii => isWord ascii before && !isWord ascii after
  | .wordStartHalf ascii => !isWord ascii before
  | .wordEndHalf ascii => !isWord ascii after

end Assertion

/-- A pattern; a repetition without a greatest count has no upper bound. -/
inductive Pattern where
  | empty
  | chars (set : CharSet)
  | assertion (condition : Assertion)
  | sequence (first second : Pattern)
  | choice (first second : Pattern)
  | repetition (pattern : Pattern) (least : Nat) (greatest : Option Nat)

namespace CharSet

/-- A rough count of the steps that a set takes in an automaton. -/
def size : CharSet → Nat
  | .ranges items => items.foldr (fun range size => (if range.2 < 0x80 then 1 else 3) + size) 0
  | .union a b | .intersection a b | .difference a b | .symmetricDifference a b => a.size + b.size
  | .complement a => a.size + 10
  | .folded a => 2 * a.size
  | .foldedAscii a => a.size

end CharSet

namespace Pattern

/-- A rough count of the steps of the automaton for a pattern, in which repetitions are written
out. -/
def size : Pattern → Nat
  | .empty | .assertion _ => 1
  | .chars set => set.size
  | .sequence first second => first.size + second.size
  | .choice first second => first.size + second.size + 1
  | .repetition pattern least greatest =>
    match greatest with
    | none => (max least 1) * pattern.size + 1
    | some greatest => greatest * pattern.size + (greatest - least) + 1

/-- The largest size that a pattern may have. -/
def maxSize : Nat := 300000

end Pattern

end Formula.Regex
