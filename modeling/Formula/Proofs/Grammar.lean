import Formula.Binary64.Numeral
import Formula.Expr
import Formula.Proofs.Height
import Formula.Token

/-!
# The grammar of expressions

The grammar as a relation between tokens and trees. `Derives c ts e n` says that the tokens `ts`
form a phrase of the category `c`, that `e` is its tree, and that `n` is its nesting: the largest
number of constructs around an operand. The constructs that count are whole expressions, which includes
groups, arguments and the branches of a conditional, and the operands of prefix operators.

The relation is written as the grammar is documented, with a left-recursive rule for every level of
binary operators. It names the `operators` of each level itself, and `mem_operators_iff` finds the
parser's levels to be the same. `derives_length_bounds` bounds nesting and height by the number of tokens.
-/

namespace Formula

/-- The symbol that a prefix operator is written with. -/
def UnaryOp.punctuation : UnaryOp → Symbol
  | .negate => .minus
  | .not => .exclamation
  | .complement => .tilde

/-- The symbol that a binary operator is written with. -/
def BinaryOp.punctuation : BinaryOp → Symbol
  | .add => .plus
  | .subtract => .minus
  | .multiply => .star
  | .divide => .slash
  | .modulo => .percent
  | .shiftLeft => .shiftLeft
  | .shiftRight => .shiftRight
  | .equal => .equal
  | .notEqual => .notEqual
  | .lessThan => .less
  | .lessEqual => .lessEqual
  | .greaterThan => .greater
  | .greaterEqual => .greaterEqual
  | .bitAnd => .ampersand
  | .bitXor => .caret
  | .bitOr => .bar
  | .and => .doubleAmpersand
  | .or => .doubleBar

/-- The symbol of a prefix operator has the operator's text. -/
theorem UnaryOp.text_punctuation (op : UnaryOp) : op.punctuation.text = op.symbol := by
  cases op <;> rfl

/-- The symbol of a binary operator has the operator's text. -/
theorem BinaryOp.text_punctuation (op : BinaryOp) : op.punctuation.text = op.symbol := by
  cases op <;> rfl

namespace Grammar

variable {H : Type}

/-- The categories of phrases. `level k` holds operands with binary operators of the levels up to
`k` between them, `level 0` operands with their prefix operators. -/
inductive Category where
  | expression
  | level (k : Nat)
  | access
  | primary
  deriving DecidableEq

/-- The operators of each level, from the tightest to the loosest. -/
def operators : Nat → List BinaryOp
  | 1 => [.multiply, .divide, .modulo]
  | 2 => [.add, .subtract]
  | 3 => [.shiftLeft, .shiftRight]
  | 4 => [.lessThan, .lessEqual, .greaterThan, .greaterEqual]
  | 5 => [.equal, .notEqual]
  | 6 => [.bitAnd]
  | 7 => [.bitXor]
  | 8 => [.bitOr]
  | 9 => [.and]
  | 10 => [.or]
  | _ => []

/-- The levels that the parser looks operators up by are those of the grammar. -/
theorem mem_operators_iff {op : BinaryOp} {k : Nat} : op ∈ operators k ↔ op.level = k := by
  constructor
  · intro h
    unfold operators at h
    split at h <;> fin_cases h <;> rfl
  · rintro rfl
    cases op <;> decide

/-- Every operator stands on one of the ten levels. -/
theorem exists_mem_operators (op : BinaryOp) : ∃ k < 10, op ∈ operators (k + 1) := by
  cases op <;> decide

/-- The words that stand for a literal. -/
def keyword? : String → Option (Value H)
  | "true" => some (.boolean true)
  | "false" => some (.boolean false)
  | "null" => some .null
  | _ => none

/-- The right operand of an operator: a literal number that counts a shift becomes a 32-bit
integer. -/
def rightOperand : BinaryOp → Expr H → Expr H
  | .shiftLeft, .literal (.number n) | .shiftRight, .literal (.number n) =>
    .number (.ofInt n.toInt32)
  | _, right => right

mutual
/-- `Derives c ts e n` says the tokens `ts` form a phrase of category `c` with tree `e` and nesting
`n`. -/
inductive Derives : Category → List Token → Expr H → Nat → Prop where
  | number {token value} :
      token.kind = .number → Binary64.read? token.text = some value →
      Derives .primary [token] (.number value) 0
  | fraction {dot token value} :
      dot.kind = .punctuation .dot → token.kind = .number → '.' ∉ token.text.toList →
      Binary64.read? ("0." ++ token.text) = some value →
      Derives .primary [dot, token] (.number value) 0
  | string {token} :
      token.kind = .string → Derives .primary [token] (.literal (.string token.text)) 0
  | keyword {token value} :
      token.kind = .identifier → keyword? token.text = some value →
      Derives .primary [token] (.literal value) 0
  | name {token} :
      token.kind = .identifier → keyword? (H := H) token.text = none →
      Derives .primary [token] (.member .root token.text) 0
  | group {opening ts closing e n} :
      opening.kind = .punctuation .leftParen → Derives .expression ts e n →
      closing.kind = .punctuation .rightParen →
      Derives .primary (opening :: ts ++ [closing]) e n
  | primary {ts e n} : Derives .primary ts e n → Derives .access ts e n
  | member {ts e n dot name} :
      Derives .access ts e n → dot.kind = .punctuation .dot → name.kind = .identifier →
      Derives .access (ts ++ [dot, name]) (.member e name.text) n
  | call {ts e n dot name opening args es m closing} :
      Derives .access ts e n → dot.kind = .punctuation .dot → name.kind = .identifier →
      opening.kind = .punctuation .leftParen → DerivesArgs args es m →
      closing.kind = .punctuation .rightParen →
      Derives .access (ts ++ dot :: name :: opening :: args ++ [closing])
        (.call e name.text es) (max n m)
  | index {ts e n opening args es m closing} :
      Derives .access ts e n →
      opening.kind = .punctuation .leftBracket → DerivesArgs args es m →
      closing.kind = .punctuation .rightBracket →
      Derives .access (ts ++ opening :: args ++ [closing]) (.index e es) (max n m)
  | access {ts e n} : Derives .access ts e n → Derives (.level 0) ts e n
  | plus {sign ts e n} :
      sign.kind = .punctuation .plus → Derives (.level 0) ts e n →
      Derives (.level 0) (sign :: ts) e (n + 1)
  | unary {sign ts e n} (op : UnaryOp) :
      sign.kind = .punctuation op.punctuation → Derives (.level 0) ts e n →
      Derives (.level 0) (sign :: ts) (.unary op e) (n + 1)
  | tighter {k ts e n} : Derives (.level k) ts e n → Derives (.level (k + 1)) ts e n
  | binary {k left l n sign right r m} (op : BinaryOp) :
      Derives (.level (k + 1)) left l n → sign.kind = .punctuation op.punctuation →
      op ∈ operators (k + 1) → Derives (.level k) right r m →
      Derives (.level (k + 1)) (left ++ sign :: right) (.binary op l (rightOperand op r)) (max n m)
  | operands {ts e n} : Derives (.level 10) ts e n → Derives .expression ts e (n + 1)
  | conditional {condition c n question yes y m colon no z k} :
      Derives (.level 10) condition c n →
      question.kind = .punctuation .question → Derives .expression yes y m →
      colon.kind = .punctuation .colon → Derives .expression no z k →
      Derives .expression (condition ++ question :: yes ++ colon :: no)
        (.conditional c y z) (max n (max m k) + 1)

/-- `DerivesArgs ts es n` says the tokens `ts` are expressions with commas between them. -/
inductive DerivesArgs : List Token → List (Expr H) → Nat → Prop where
  | none : DerivesArgs [] [] 0
  | one {ts e n} : Derives .expression ts e n → DerivesArgs ts [e] n
  | more {ts e n comma rest es m} :
      Derives .expression ts e n → comma.kind = .punctuation .comma →
      DerivesArgs rest es m → es ≠ [] →
      DerivesArgs (ts ++ comma :: rest) (e :: es) (max n m)
end

/-- Whether a kind of token starts an access or a primary. -/
def StartsPrimary (kind : TokenKind) : Prop :=
  kind = .number ∨ kind = .string ∨ kind = .identifier ∨ kind = .punctuation .dot ∨
    kind = .punctuation .leftParen

/-- Whether a kind of token starts a phrase of a category. -/
def Starts (c : Category) (kind : TokenKind) : Prop :=
  StartsPrimary kind ∨ (c ≠ .primary ∧ c ≠ .access ∧
    (kind = .punctuation .plus ∨ ∃ op : UnaryOp, kind = .punctuation op.punctuation))

/-- The first token of a phrase starts a phrase of its category. -/
theorem derives_head {c : Category} {ts : List Token} {e : Expr H} {n : Nat}
    (h : Derives c ts e n) : ∃ token rest, ts = token :: rest ∧ Starts c token.kind := by
  match h with
  | .number hkind _ | .string hkind | .keyword hkind _ | .name hkind _ =>
      exact ⟨_, _, rfl, .inl (by simp [StartsPrimary, hkind])⟩
  | .fraction hkind _ _ _ | .group hkind _ _ =>
      exact ⟨_, _, rfl, .inl (by simp [StartsPrimary, hkind])⟩
  | .primary h =>
      obtain ⟨token, rest, rfl, hstart⟩ := derives_head h
      exact ⟨token, rest, rfl, .inl (by simpa [Starts] using hstart)⟩
  | .member h _ _ | .call h _ _ _ _ _ | .index h _ _ _ =>
      obtain ⟨token, rest, rfl, hstart⟩ := derives_head h
      exact ⟨token, _, rfl, hstart⟩
  | .access h =>
      obtain ⟨token, rest, rfl, hstart⟩ := derives_head h
      exact ⟨token, rest, rfl, .inl (by simpa [Starts] using hstart)⟩
  | .plus hkind _ => exact ⟨_, _, rfl, .inr (by simp [hkind])⟩
  | .unary op hkind _ => exact ⟨_, _, rfl, .inr ⟨nofun, nofun, .inr ⟨op, hkind⟩⟩⟩
  | .tighter h | .operands h =>
      obtain ⟨token, rest, rfl, hstart⟩ := derives_head h
      exact ⟨token, rest, rfl, by simpa [Starts] using hstart⟩
  | .binary _ h _ _ _ | .conditional h _ _ _ _ =>
      obtain ⟨token, rest, rfl, hstart⟩ := derives_head h
      exact ⟨token, _, rfl, by simpa [Starts] using hstart⟩

/-- No phrase is empty. -/
theorem derives_ne_nil {c : Category} {ts : List Token} {e : Expr H} {n : Nat}
    (h : Derives c ts e n) : ts ≠ [] := by
  obtain ⟨token, rest, rfl, -⟩ := derives_head h
  exact nofun

/-- The first token of arguments, of which there is at least one, starts an expression. -/
theorem derives_args_head {ts : List Token} {es : List (Expr H)} {n : Nat}
    (h : DerivesArgs ts es n) (hne : es ≠ []) :
    ∃ token rest, ts = token :: rest ∧ Starts .expression token.kind := by
  cases h with
  | none => exact absurd rfl hne
  | one h => exact derives_head h
  | more h =>
      obtain ⟨token, rest, rfl, hstart⟩ := derives_head h
      exact ⟨token, _, rfl, hstart⟩

/-- Operands of a level are operands of the looser levels too. -/
theorem derives_level_mono {k l : Nat} (hle : k ≤ l) {ts : List Token} {e : Expr H} {n : Nat}
    (h : Derives (.level k) ts e n) : Derives (.level l) ts e n := by
  induction hle with
  | refl => exact h
  | step _ ih => exact .tighter ih

/-- The root alone is no phrase, only what a bare name is a member of. -/
theorem derives_ne_root {c : Category} {ts : List Token} {e : Expr H} {n : Nat}
    (h : Derives c ts e n) : e ≠ .root := by
  match h with
  | .number .. | .fraction .. | .string .. | .keyword .. | .name .. => exact nofun
  | .member .. | .call .. | .index .. | .unary .. | .binary .. | .conditional .. => exact nofun
  | .group _ h _ | .primary h | .access h | .plus _ h | .tighter h | .operands h =>
      exact derives_ne_root h

/-- A number that counts a shift becomes a 32-bit integer. -/
theorem right_operand_shift {op : BinaryOp} (hop : op.isShift = true) (x : Binary64) :
    rightOperand (H := H) op (.number x) = .number (.ofInt x.toInt32) := by
  cases op with
  | shiftLeft | shiftRight => rfl
  | _ => exact nomatch hop

/-- An operator takes its right operand as it is, unless that is a number that counts a shift. -/
theorem right_operand_cases (op : BinaryOp) (right : Expr H) :
    rightOperand op right = right ∨ op.isShift = true ∧ ∃ x, right = .number x := by
  unfold rightOperand
  split
  · exact .inr ⟨rfl, _, rfl⟩
  · exact .inr ⟨rfl, _, rfl⟩
  · exact .inl rfl

/-- Narrowing a count keeps the height. -/
theorem height_right_operand (op : BinaryOp) (right : Expr H) :
    (rightOperand op right).height = right.height := by
  rcases right_operand_cases op right with hsame | ⟨hop, x, rfl⟩
  · rw [hsame]
  · rw [right_operand_shift hop]
    simp [Expr.number, Expr.height]

mutual
/-- A phrase has more tokens than nesting, where a whole expression counts itself, and is at least
as long as its tree is tall. -/
theorem derives_length_bounds {c : Category} {ts : List Token} {e : Expr H} {n : Nat}
    (h : Derives c ts e n) :
    n < ts.length + (if c = .expression then 1 else 0) ∧ e.height ≤ ts.length := by
  match h with
  | .number .. | .fraction .. | .string .. | .keyword .. | .name .. =>
      simp [Expr.number, Expr.height]
  | .group _ h _ =>
      have ih := derives_length_bounds h
      simp at ih ⊢
      omega
  | .primary h | .access h | .tighter h =>
      simpa using derives_length_bounds h
  | .operands h =>
      simpa using derives_length_bounds h
  | .member h _ _ =>
      have ih := derives_length_bounds h
      simp [Expr.height_member (derives_ne_root h)] at ih ⊢
      omega
  | .call h _ _ _ hargs _ | .index h _ hargs _ =>
      have ih := derives_length_bounds h
      have ihargs := derives_args_length_bounds hargs
      simp [Expr.height] at ih ⊢
      omega
  | .plus _ h | .unary _ _ h =>
      have ih := derives_length_bounds h
      simp [Expr.height] at ih ⊢
      omega
  | .binary _ hleft _ _ hright =>
      have ihleft := derives_length_bounds hleft
      have ihright := derives_length_bounds hright
      simp [Expr.height, height_right_operand] at ihleft ihright ⊢
      omega
  | .conditional h _ hyes _ hno =>
      have ih := derives_length_bounds h
      have ihyes := derives_length_bounds hyes
      have ihno := derives_length_bounds hno
      simp [Expr.height] at ih ihyes ihno ⊢
      omega

/-- Arguments have at least as many tokens as nesting, and as the tallest of their trees is tall. -/
theorem derives_args_length_bounds {ts : List Token} {es : List (Expr H)} {n : Nat}
    (h : DerivesArgs ts es n) : n ≤ ts.length ∧ Expr.argsHeight es ≤ ts.length := by
  match h with
  | .none => simp [Expr.argsHeight]
  | .one h =>
      have ih := derives_length_bounds h
      simp [Expr.argsHeight] at ih ⊢
      omega
  | .more h _ hrest _ =>
      have ih := derives_length_bounds h
      have ihrest := derives_args_length_bounds hrest
      simp [Expr.argsHeight] at ih ⊢
      omega
end

end Grammar

end Formula
