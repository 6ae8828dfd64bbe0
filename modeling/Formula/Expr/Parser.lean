import Formula.Expr
import Formula.Token.Lexer
import Formula.Value.Coercion

/-!
# Parsing

The parser reads an expression from a list of tokens and leaves the rest. Nesting is bounded by a
budget that each expression and each operand of a prefix operator spends one of, on which the parser
recurses; the height of the tree is bounded as it is built. The grammar, loosest level first:

    expression := binary ("?" expression ":" expression)?
    binary     := the ten levels of `BinaryOp.level`, each associating to the left
    unary      := ("-" | "+" | "!" | "~") unary | access
    access     := primary ("." name ("(" arguments ")")? | "[" arguments "]")*
    primary    := number | "." number | string | name | "(" expression ")"
    arguments  := (expression ("," expression)*)?
-/

namespace Formula

/-- The bounds on nesting and on the height of the tree. -/
structure Limits where
  maxDepth : Nat := 64
  maxHeight : Nat := 256
  deriving DecidableEq, Repr

/-- The tokens that are left, and the position where the source ends. -/
structure Tokens where
  rest : List Token
  endPosition : Nat
  deriving DecidableEq, Repr

namespace Tokens

/-- All tokens of a source. -/
def ofText (text : String) : Tokens :=
  ⟨tokenize text, text.length⟩

/-- The current token, the end of input if none is left. -/
def current (ts : Tokens) : Token :=
  ts.rest.headD (.endOfInput ts.endPosition)

/-- The tokens after the current one. -/
def advance (ts : Tokens) : Tokens :=
  { ts with rest := ts.rest.tail }

/-- Whether the current token is the given symbol. -/
def startsWith (ts : Tokens) (symbol : Symbol) : Bool :=
  ts.current.isSymbol symbol

/-- The tokens after the current one, which has to be of the given kind. -/
def expect (kind : TokenKind) (ts : Tokens) : Except ParseError Tokens :=
  if ts.current.hasKind kind then .ok ts.advance
  else .error (.unexpectedToken kind ts.current)

end Tokens

/-- A tree with its height. -/
structure Parsed (H : Type) where
  expr : Expr H
  height : Nat

namespace Parser

variable {H : Type}

/-- A rule of the grammar: a tree and the tokens that it leaves. -/
abbrev Rule (H : Type) : Type := Tokens → Except ParseError (Parsed H × Tokens)

/-- A tree that is not taller than the limit. -/
def node (limits : Limits) (expr : Expr H) (height : Nat) : Except ParseError (Parsed H) :=
  if limits.maxHeight < height then .error (.tooDeep limits.maxHeight) else .ok ⟨expr, height⟩

/-- A tree of one node, which no limit refuses. -/
def leaf (expr : Expr H) : Parsed H := ⟨expr, 1⟩

/-- The number that a text spells; `position` is where it starts. -/
def numberLeaf (text : String) (position : Nat) : Except ParseError (Parsed H) :=
  match Binary64.read? text with
  | some n => .ok (leaf (.number n))
  | none => .error (.invalidNumber text position)

/-- The tree of a bare word: a keyword is a literal and any other name a member of the root. -/
def wordLeaf (word : String) : Parsed H :=
  leaf <|
    if word = "true" then .literal (.boolean true)
    else if word = "false" then .literal (.boolean false)
    else if word = "null" then .literal .null
    else .identifier word

/-- A literal, a name or a group. A number may start with its point; the token after the point then
holds its fraction. -/
def primary (expression : Rule H) : Rule H := fun ts =>
  let token := ts.current
  match token.kind with
  | .number => do
    let parsed ← numberLeaf token.text token.position
    return (parsed, ts.advance)
  | .punctuation .dot =>
    let fraction := ts.advance.current
    if fraction.hasKind .number then do
      let parsed ← numberLeaf ("0." ++ fraction.text) token.position
      return (parsed, ts.advance.advance)
    else .error (.invalidToken token)
  | .string => .ok (leaf (.literal (.string token.text)), ts.advance)
  | .identifier => .ok (wordLeaf token.text, ts.advance)
  | .punctuation .leftParen => do
    let (parsed, rest) ← expression ts.advance
    let rest ← rest.expect (.punctuation .rightParen)
    return (parsed, rest)
  | _ => .error (.invalidToken token)

/-- Expressions with commas between them up to `close`, of which there is at least one. `fuel`
bounds their number; the number of tokens suffices. -/
def argumentList (expression : Rule H) (close : Symbol) :
    Nat → Tokens → Except ParseError (List (Parsed H) × Tokens)
  | 0, ts => .error (.unexpectedToken (.punctuation close) ts.current)
  | fuel + 1, ts => do
    let (arg, rest) ← expression ts
    if rest.startsWith .comma then
      let (args, rest) ← argumentList expression close fuel rest.advance
      return (arg :: args, rest)
    else
      let rest ← rest.expect (.punctuation close)
      return ([arg], rest)

/-- The arguments after an opening symbol, up to `close`. -/
def arguments (expression : Rule H) (close : Symbol) (ts : Tokens) :
    Except ParseError (List (Parsed H) × Tokens) :=
  if ts.startsWith close then .ok ([], ts.advance)
  else argumentList expression close (ts.rest.length + 1) ts

/-- The height of the tallest of some trees, zero without one. -/
def tallest (args : List (Parsed H)) : Nat :=
  args.foldr (fun arg height => max arg.height height) 0

/-- The member accesses, calls and indices that follow a target. `fuel` bounds their number; the
number of tokens suffices. -/
def accesses (limits : Limits) (expression : Rule H) : Nat → Parsed H → Rule H
  | 0, target, ts => .ok (target, ts)
  | fuel + 1, target, ts =>
    if ts.startsWith .dot then
      let name := ts.advance.current
      if name.hasKind .identifier then do
        let rest := ts.advance.advance
        if rest.startsWith .leftParen then
          let (args, rest) ← arguments expression .rightParen rest.advance
          let call := .call target.expr name.text (args.map Parsed.expr)
          let parsed ← node limits call (1 + max target.height (tallest args))
          accesses limits expression fuel parsed rest
        else
          let parsed ← node limits (.member target.expr name.text) (target.height + 1)
          accesses limits expression fuel parsed rest
      else .error (.identifierExpected name ts.current.position)
    else if ts.startsWith .leftBracket then do
      let (args, rest) ← arguments expression .rightBracket ts.advance
      let index := .index target.expr (args.map Parsed.expr)
      let parsed ← node limits index (1 + max target.height (tallest args))
      accesses limits expression fuel parsed rest
    else .ok (target, ts)

/-- A primary with all that follows it. -/
def access (limits : Limits) (expression : Rule H) : Rule H := fun ts => do
  let (target, rest) ← primary expression ts
  accesses limits expression rest.rest.length target rest

/-- The prefix operator of a symbol. -/
def unaryOp? : TokenKind → Option UnaryOp
  | .punctuation .minus => some .negate
  | .punctuation .exclamation => some .not
  | .punctuation .tilde => some .complement
  | _ => none

/-- An operand with its prefix operators; a plus leaves no node. `operand` reads what a prefix
operator stands before. -/
def unary (limits : Limits) (operand expression : Rule H) : Rule H := fun ts =>
  if ts.startsWith .plus then operand ts.advance
  else
    match unaryOp? ts.current.kind with
    | some op => do
      let (parsed, rest) ← operand ts.advance
      let parsed ← node limits (.unary op parsed.expr) (parsed.height + 1)
      return (parsed, rest)
    | none => access limits expression ts

/-- The binary operator of a symbol. -/
def binaryOp? : TokenKind → Option BinaryOp
  | .punctuation .plus => some .add
  | .punctuation .minus => some .subtract
  | .punctuation .star => some .multiply
  | .punctuation .slash => some .divide
  | .punctuation .percent => some .modulo
  | .punctuation .shiftLeft => some .shiftLeft
  | .punctuation .shiftRight => some .shiftRight
  | .punctuation .equal => some .equal
  | .punctuation .notEqual => some .notEqual
  | .punctuation .less => some .lessThan
  | .punctuation .lessEqual => some .lessEqual
  | .punctuation .greater => some .greaterThan
  | .punctuation .greaterEqual => some .greaterEqual
  | .punctuation .ampersand => some .bitAnd
  | .punctuation .caret => some .bitXor
  | .punctuation .bar => some .bitOr
  | .punctuation .doubleAmpersand => some .and
  | .punctuation .doubleBar => some .or
  | _ => none

/-- The binary operator of a symbol on one level. -/
def opOnLevel? (level : Nat) (kind : TokenKind) : Option BinaryOp :=
  (binaryOp? kind).filter fun op => op.level = level

/-- A right operand as its operator takes it: a number literal that counts a shift is narrowed to a
32-bit integer. -/
def narrowed (op : BinaryOp) (right : Expr H) : Expr H :=
  if op.isShift then
    match right.asNumberLiteral? with
    | some count => .number (.ofInt count.toInt32)
    | none => right
  else right

/-- The operators of one level that follow a left operand, applied from the left. `fuel` bounds
their number; the number of tokens suffices. -/
def leftFold (limits : Limits) (level : Nat) (operand : Rule H) : Nat → Parsed H → Rule H
  | 0, left, ts => .ok (left, ts)
  | fuel + 1, left, ts =>
    match opOnLevel? level ts.current.kind with
    | some op => do
      let (right, rest) ← operand ts.advance
      let tree := .binary op left.expr (narrowed op right.expr)
      let parsed ← node limits tree (1 + max left.height right.height)
      leftFold limits level operand fuel parsed rest
    | none => .ok (left, ts)

/-- Operands with the operators of the given level and of the tighter ones between them. -/
def binary (limits : Limits) (operand : Rule H) : Nat → Rule H
  | 0, ts => operand ts
  | level + 1, ts => do
    let (left, rest) ← binary limits operand level ts
    leftFold limits (level + 1) (binary limits operand level) rest.rest.length left rest

/-- A whole expression: a condition with its two branches, or operands alone. -/
def conditional (limits : Limits) (operand expression : Rule H) : Rule H := fun ts => do
  let (condition, rest) ← binary limits (unary limits operand expression) BinaryOp.levelCount ts
  if rest.startsWith .question then
    let (yes, rest) ← expression rest.advance
    let rest ← rest.expect (.punctuation .colon)
    let (no, rest) ← expression rest
    let height := 1 + max (max condition.height yes.height) no.height
    let parsed ← node limits (.conditional condition.expr yes.expr no.expr) height
    return (parsed, rest)
  else return (condition, rest)

/-- What a level of nesting is spent on. -/
inductive Nested where
  | expression
  | operand
  deriving DecidableEq, Repr

/-- A nested expression or operand, with a budget of levels. -/
def nested (limits : Limits) : Nat → Nested → Rule H
  | 0, _, _ => .error (.tooDeep limits.maxDepth)
  | budget + 1, .expression, ts =>
    conditional limits (nested limits budget .operand) (nested limits budget .expression) ts
  | budget + 1, .operand, ts =>
    unary limits (nested limits budget .operand) (nested limits budget .expression) ts

/-- An expression at the start of some tokens. -/
def expression (limits : Limits) (ts : Tokens) : Except ParseError (Expr H × Tokens) := do
  let (parsed, rest) ← nested limits limits.maxDepth .expression ts
  return (parsed.expr, rest)

end Parser

namespace Expr

variable {H : Type}

/-- Parses the expression that a text starts with, and gives the token that it stops on. -/
def parseStart (limits : Limits) (text : String) : Except ParseError (Expr H × Token) := do
  let (expr, rest) ← Parser.expression limits (.ofText text)
  return (expr, rest.current)

/-- Parses the expression that a text starts with; what follows it is ignored. -/
def parse (limits : Limits) (text : String) : Except ParseError (Expr H) := do
  let (expr, _) ← parseStart limits text
  return expr

/-- Parses a text that is one expression. -/
def parseWhole (limits : Limits) (text : String) : Except ParseError (Expr H) := do
  let (expr, rest) ← Parser.expression limits (.ofText text)
  let _ ← rest.expect .endOfInput
  return expr

end Expr

end Formula
