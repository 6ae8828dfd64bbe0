import Formula.Expr.Parser
import Formula.Token.Cursor

/-!
# A parser that reads tokens on demand

A parser need not split its text into tokens first: it can move a cursor over the text. Such a parser
is given here rule by rule. Where one token does not suffice it scans on and puts back what was
unread, which leaves the cursor as it was, `Reader.run_peek`.
-/

namespace Formula

/-- A computation that moves a cursor, or fails as a parser does. -/
abbrev Reader (α : Type) : Type :=
  StateT Cursor (Except ParseError) α

namespace Reader

/-- The current token. -/
def current : Reader Token :=
  return (← get).token

/-- Moves to the next token. -/
def advance : Reader Unit :=
  modify fun cursor => cursor.moveNext.2

/-- A reader that moves goes on behind the current token. -/
theorem run_advance {β : Type} (next : Unit → Reader β) (cursor : Cursor) :
    (advance >>= next).run cursor = (next ()).run cursor.moveNext.2 :=
  rfl

/-- Scans the next token, which does not become the current one. -/
def scan : Reader Token := do
  let cursor ← get
  set { cursor with unread := cursor.unread.next.2 }
  return cursor.unread.next.1

/-- Scans some tokens on from a given one, at most up to the end of input. -/
def scanOn (token : Token) : Nat → Reader Token
  | 0 => return token
  | count + 1 => do
    if token.hasKind .endOfInput then return token
    else
      let next ← scan
      scanOn next count

/-- Looks some tokens ahead: scans them, and puts back what was unread before. -/
def peek (count : Nat) : Reader Token := do
  let saved := (← get).unread
  let token ← scanOn (← current) count
  modify fun cursor => { cursor with unread := saved }
  return token

/-- Scanning on comes to the token ahead, and changes only what is unread. -/
theorem run_scan_on (token : Token) (count : Nat) (cursor : Cursor) :
    ∃ unread, (scanOn token count).run cursor =
      .ok (Cursor.lookAhead token cursor.unread count, { cursor with unread }) := by
  induction count generalizing token cursor with
  | zero => exact ⟨cursor.unread, rfl⟩
  | succ count ih =>
      rw [scanOn, Cursor.lookAhead]
      split
      · exact ⟨cursor.unread, rfl⟩
      · exact ih cursor.unread.next.1 { cursor with unread := cursor.unread.next.2 }

/-- Looking ahead gives the token ahead and leaves the cursor as it was. -/
theorem run_peek (count : Nat) (cursor : Cursor) :
    (peek count).run cursor = .ok (cursor.peekToken count, cursor) := by
  obtain ⟨unread, hscan⟩ := run_scan_on cursor.token count cursor
  show ((scanOn cursor.token count).run cursor >>= fun result =>
    Except.ok (result.1, { result.2 with unread := cursor.unread })) = _
  rw [hscan]
  rfl

/-- Whether the current token is the given symbol. -/
def startsWith (symbol : Symbol) : Reader Bool :=
  return (← current).isSymbol symbol

/-- Moves behind the current token, which has to be of the given kind. -/
def expect (kind : TokenKind) : Reader Unit := do
  let token ← current
  if token.hasKind kind then advance
  else throw (.unexpectedToken kind token)

/-- How often a loop can go round: each round takes a token, and each token a character. -/
def rounds : Reader Nat :=
  return (← get).unread.rest.length + 2

/-- A loop goes round as often as there are characters left, and twice more. -/
theorem run_rounds {β : Type} (next : Nat → Reader β) (cursor : Cursor) :
    (rounds >>= next).run cursor = (next (cursor.unread.rest.length + 2)).run cursor :=
  rfl

variable {H : Type}

/-- A literal, a name or a group. -/
def primary (expression : Reader (Parsed H)) : Reader (Parsed H) := do
  let token ← current
  match token.kind with
  | .number =>
    advance
    Parser.numberLeaf token.text token.position
  | .punctuation .dot =>
    advance
    let fraction ← current
    if fraction.hasKind .number then
      advance
      Parser.numberLeaf ("0." ++ fraction.text) token.position
    else throw (.invalidToken token)
  | .string =>
    advance
    return Parser.leaf (.literal (.string token.text))
  | .identifier =>
    advance
    return Parser.wordLeaf token.text
  | .punctuation .leftParen =>
    advance
    let parsed ← expression
    expect (.punctuation .rightParen)
    return parsed
  | _ => throw (.invalidToken token)

/-- Expressions with commas between them up to `close`, of which there is at least one. `fuel` bounds
their number. -/
def argumentList (expression : Reader (Parsed H)) (close : Symbol) :
    Nat → Reader (List (Parsed H))
  | 0 => do
    let token ← current
    throw (.unexpectedToken (.punctuation close) token)
  | fuel + 1 => do
    let arg ← expression
    if ← startsWith .comma then
      advance
      let args ← argumentList expression close fuel
      return arg :: args
    else
      expect (.punctuation close)
      return [arg]

/-- The arguments between two symbols. -/
def arguments (expression : Reader (Parsed H)) (opening close : Symbol) :
    Reader (List (Parsed H)) := do
  expect (.punctuation opening)
  if ← startsWith close then
    advance
    return []
  else argumentList expression close (← rounds)

/-- The member accesses, calls and indices that follow a target. A name is a call if a parenthesis
is seen behind it, before the cursor has moved there. `fuel` bounds their number. -/
def accesses (limits : Limits) (expression : Reader (Parsed H)) :
    Nat → Parsed H → Reader (Parsed H)
  | 0, target => return target
  | fuel + 1, target => do
    if ← startsWith .dot then
      let dot ← current
      advance
      let name ← current
      if name.hasKind .identifier then
        let next ← peek 1
        if next.isSymbol .leftParen then
          advance
          let args ← arguments expression .leftParen .rightParen
          let call := .call target.expr name.text (args.map Parsed.expr)
          let parsed ← Parser.node limits call (1 + max target.height (Parser.tallest args))
          accesses limits expression fuel parsed
        else
          advance
          let parsed ← Parser.node limits (.member target.expr name.text) (target.height + 1)
          accesses limits expression fuel parsed
      else throw (.identifierExpected name dot.position)
    else if ← startsWith .leftBracket then
      let args ← arguments expression .leftBracket .rightBracket
      let index := .index target.expr (args.map Parsed.expr)
      let parsed ← Parser.node limits index (1 + max target.height (Parser.tallest args))
      accesses limits expression fuel parsed
    else return target

/-- A primary with all that follows it. -/
def access (limits : Limits) (expression : Reader (Parsed H)) : Reader (Parsed H) := do
  let target ← primary expression
  accesses limits expression (← rounds) target

/-- An operand with its prefix operators; a plus leaves no node. -/
def unary (limits : Limits) (operand expression : Reader (Parsed H)) : Reader (Parsed H) := do
  if ← startsWith .plus then
    advance
    operand
  else
    let token ← current
    match Parser.unaryOp? token.kind with
    | some op =>
      advance
      let parsed ← operand
      Parser.node limits (.unary op parsed.expr) (parsed.height + 1)
    | none => access limits expression

/-- The operators of one level that follow a left operand, applied from the left. `fuel` bounds their
number. -/
def leftFold (limits : Limits) (level : Nat) (operand : Reader (Parsed H)) :
    Nat → Parsed H → Reader (Parsed H)
  | 0, left => return left
  | fuel + 1, left => do
    let token ← current
    match Parser.opOnLevel? level token.kind with
    | some op =>
      advance
      let right ← operand
      let tree := .binary op left.expr (Parser.narrowed op right.expr)
      let parsed ← Parser.node limits tree (1 + max left.height right.height)
      leftFold limits level operand fuel parsed
    | none => return left

/-- Operands with the operators of the given level and of the tighter ones between them. -/
def binary (limits : Limits) (operand : Reader (Parsed H)) : Nat → Reader (Parsed H)
  | 0 => operand
  | level + 1 => do
    let left ← binary limits operand level
    leftFold limits (level + 1) (binary limits operand level) (← rounds) left

/-- A whole expression: a condition with its two branches, or operands alone. -/
def conditional (limits : Limits) (operand expression : Reader (Parsed H)) :
    Reader (Parsed H) := do
  let condition ← binary limits (unary limits operand expression) BinaryOp.levelCount
  if ← startsWith .question then
    advance
    let yes ← expression
    expect (.punctuation .colon)
    let no ← expression
    let height := 1 + max (max condition.height yes.height) no.height
    Parser.node limits (.conditional condition.expr yes.expr no.expr) height
  else return condition

/-- A nested expression or operand, with a budget of levels. -/
def nested (limits : Limits) : Nat → Parser.Nested → Reader (Parsed H)
  | 0, _ => throw (.tooDeep limits.maxDepth)
  | budget + 1, .expression =>
    conditional limits (nested limits budget .operand) (nested limits budget .expression)
  | budget + 1, .operand =>
    unary limits (nested limits budget .operand) (nested limits budget .expression)

/-- An expression, and the token that it stops on. -/
def start (limits : Limits) : Reader (Expr H × Token) := do
  let parsed ← nested limits limits.maxDepth .expression
  let stop ← current
  return (parsed.expr, stop)

/-- An expression behind which the input ends. -/
def whole (limits : Limits) : Reader (Expr H) := do
  let parsed ← nested limits limits.maxDepth .expression
  expect .endOfInput
  return parsed.expr

/-- Runs a reader from the first token of a text. -/
def runOn {α : Type} (reader : Reader α) (text : String) : Except ParseError α := do
  let (a, _) ← reader.run (Cursor.start text).moveNext.2
  return a

end Reader

namespace Expr

variable {H : Type}

/-- Parses the expression that a text starts with, reading tokens on demand, and gives the token that
it stops on. -/
def parseStartOnDemand (limits : Limits) (text : String) : Except ParseError (Expr H × Token) :=
  (Reader.start limits).runOn text

/-- Parses a text that is one expression, reading tokens on demand. -/
def parseWholeOnDemand (limits : Limits) (text : String) : Except ParseError (Expr H) :=
  (Reader.whole limits).runOn text

end Expr

end Formula
