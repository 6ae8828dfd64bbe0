/-!
# Tokens

A token has a kind, a text and the position of its first character. The text of a string token is
what the string says, without the quotes around it.
-/

namespace Formula

/-- The punctuation of the language. -/
inductive Symbol where
  | dot
  | leftParen
  | rightParen
  | leftBracket
  | rightBracket
  | comma
  | plus
  | minus
  | star
  | slash
  | percent
  | assign
  | equal
  | notEqual
  | less
  | lessEqual
  | greater
  | greaterEqual
  | shiftLeft
  | shiftRight
  | ampersand
  | doubleAmpersand
  | bar
  | doubleBar
  | caret
  | exclamation
  | tilde
  | question
  | colon
  deriving DecidableEq, Repr

/-- The source text of a symbol. -/
def Symbol.text : Symbol → String
  | .dot => "."
  | .leftParen => "("
  | .rightParen => ")"
  | .leftBracket => "["
  | .rightBracket => "]"
  | .comma => ","
  | .plus => "+"
  | .minus => "-"
  | .star => "*"
  | .slash => "/"
  | .percent => "%"
  | .assign => "="
  | .equal => "=="
  | .notEqual => "!="
  | .less => "<"
  | .lessEqual => "<="
  | .greater => ">"
  | .greaterEqual => ">="
  | .shiftLeft => "<<"
  | .shiftRight => ">>"
  | .ampersand => "&"
  | .doubleAmpersand => "&&"
  | .bar => "|"
  | .doubleBar => "||"
  | .caret => "^"
  | .exclamation => "!"
  | .tilde => "~"
  | .question => "?"
  | .colon => ":"

/-- The kinds of token. `unknown` is a single character that starts no other token. -/
inductive TokenKind where
  | endOfInput
  | unknown
  | number
  | string
  | identifier
  | punctuation (symbol : Symbol)
  deriving DecidableEq, Repr

/-- The name of a symbol in a token listing. -/
def Symbol.name : Symbol → String
  | .dot => "Dot"
  | .leftParen => "LParen"
  | .rightParen => "RParen"
  | .leftBracket => "LBracket"
  | .rightBracket => "RBracket"
  | .comma => "Comma"
  | .plus => "Plus"
  | .minus => "Minus"
  | .star => "Star"
  | .slash => "Slash"
  | .percent => "Percent"
  | .assign => "Assign"
  | .equal => "EqEq"
  | .notEqual => "NotEq"
  | .less => "Lt"
  | .lessEqual => "LtEq"
  | .greater => "Gt"
  | .greaterEqual => "GtEq"
  | .shiftLeft => "Shl"
  | .shiftRight => "Shr"
  | .ampersand => "Amp"
  | .doubleAmpersand => "AmpAmp"
  | .bar => "Pipe"
  | .doubleBar => "PipePipe"
  | .caret => "Caret"
  | .exclamation => "Bang"
  | .tilde => "Tilde"
  | .question => "Question"
  | .colon => "Colon"

/-- The name of a kind in a token listing. -/
def TokenKind.name : TokenKind → String
  | .endOfInput => "Eof"
  | .unknown => "Unknown"
  | .number => "Number"
  | .string => "String"
  | .identifier => "Identifier"
  | .punctuation symbol => symbol.name

/-- A token; `position` counts the characters before it. -/
structure Token where
  kind : TokenKind
  text : String
  position : Nat
  deriving DecidableEq, Repr

/-- A text with every quote written twice and quotes around it. -/
def quoteText (text : String) : String :=
  "\"" ++ String.ofList (text.toList.flatMap fun c => if c = '"' then ['"', '"'] else [c]) ++ "\""

namespace Token

/-- The token after the last one, at the length of the source. -/
def endOfInput (position : Nat) : Token :=
  ⟨.endOfInput, "", position⟩

/-- Whether a token has the given kind. -/
def hasKind (token : Token) (kind : TokenKind) : Bool :=
  token.kind = kind

/-- Whether a token is the given symbol. -/
def isSymbol (token : Token) (symbol : Symbol) : Bool :=
  token.kind = .punctuation symbol

/-- How a token is shown in messages and listings. -/
def display (token : Token) : String :=
  match token.kind with
  | .endOfInput => "end of input"
  | .string => quoteText token.text
  | _ => token.text

end Token

end Formula
