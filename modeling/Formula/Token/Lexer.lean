import Formula.Text.Blank
import Formula.Token

/-!
# Reading tokens

A lexeme is the part of the source that one token is written with. Blanks separate lexemes, and a
lexeme is always the longest one that can start where it starts. `tokens` reads a whole source;
the end of the source is no token of the list.
-/

namespace Formula

/-- A token as it stands in the source: `extra` counts its characters after the first. -/
structure Lexeme where
  kind : TokenKind
  text : String
  extra : Nat
  deriving DecidableEq, Repr

namespace Lexeme

/-- Whether a character can start an identifier. -/
def isIdentifierStart (c : Char) : Bool :=
  c.isAlpha || c = '_'

/-- Whether a character can continue an identifier. -/
def isIdentifierPart (c : Char) : Bool :=
  c.isAlphanum || c = '_'

/-- The point and fraction digits that a text starts with; a point without digits is left alone. -/
def fractionPart : List Char → List Char
  | '.' :: rest =>
    match rest.takeWhile Char.isDigit with
    | [] => []
    | digits => '.' :: digits
  | _ => []

/-- The exponent that a text starts with; a mark without digits is left alone. -/
def exponentPart : List Char → List Char
  | mark :: rest =>
    if mark = 'e' ∨ mark = 'E' then
      let sign := rest.take 1 |>.filter fun c => c = '+' || c = '-'
      match (rest.drop sign.length).takeWhile Char.isDigit with
      | [] => []
      | digits => mark :: sign ++ digits
    else []
  | [] => []

/-- The number text that a text starts with. -/
def numberPart (text : List Char) : List Char :=
  let whole := text.takeWhile Char.isDigit
  let fraction := fractionPart (text.drop whole.length)
  whole ++ fraction ++ exponentPart (text.drop (whole.length + fraction.length))

/-- What a string says after its opening quote, and how many characters it takes up to and with its
closing quote. A quote written twice is one quote; a string that is not closed runs to the end. -/
def stringPart : List Char → List Char × Nat
  | [] => ([], 0)
  | '"' :: '"' :: rest =>
    match stringPart rest with
    | (said, taken) => ('"' :: said, taken + 2)
  | c :: rest =>
    if c = '"' then ([], 1)
    else
      match stringPart rest with
      | (said, taken) => (c :: said, taken + 1)

/-- The symbol of one character that stands alone. -/
def singleSymbol? : Char → Option Symbol
  | '.' => some .dot
  | '(' => some .leftParen
  | ')' => some .rightParen
  | '[' => some .leftBracket
  | ']' => some .rightBracket
  | ',' => some .comma
  | '+' => some .plus
  | '-' => some .minus
  | '*' => some .star
  | '/' => some .slash
  | '%' => some .percent
  | '=' => some .assign
  | '<' => some .less
  | '>' => some .greater
  | '&' => some .ampersand
  | '|' => some .bar
  | '^' => some .caret
  | '!' => some .exclamation
  | '~' => some .tilde
  | '?' => some .question
  | ':' => some .colon
  | _ => none

/-- The symbol of two characters side by side. -/
def doubleSymbol? : Char → Char → Option Symbol
  | '=', '=' => some .equal
  | '!', '=' => some .notEqual
  | '<', '=' => some .lessEqual
  | '>', '=' => some .greaterEqual
  | '<', '<' => some .shiftLeft
  | '>', '>' => some .shiftRight
  | '&', '&' => some .doubleAmpersand
  | '|', '|' => some .doubleBar
  | _, _ => none

/-- The symbol that a text starts with, if two characters make one then that one. -/
def symbolPart? (first : Char) (rest : List Char) : Option (Symbol × Nat) :=
  match rest.head?.bind (doubleSymbol? first) with
  | some symbol => some (symbol, 1)
  | none => (singleSymbol? first).map (·, 0)

/-- The lexeme that starts with the character `first`, which is not blank. -/
def read (first : Char) (rest : List Char) : Lexeme :=
  if isIdentifierStart first then
    let tail := rest.takeWhile isIdentifierPart
    ⟨.identifier, String.ofList (first :: tail), tail.length⟩
  else if first.isDigit then
    let number := numberPart (first :: rest)
    ⟨.number, String.ofList number, number.length - 1⟩
  else if first = '"' then
    match stringPart rest with
    | (said, taken) => ⟨.string, String.ofList said, taken⟩
  else
    match symbolPart? first rest with
    | some (symbol, extra) => ⟨.punctuation symbol, symbol.text, extra⟩
    | none => ⟨.unknown, String.ofList [first], 0⟩

end Lexeme

/-- The part of a source that has not been read, and how many characters stand before it. -/
structure Unread where
  position : Nat
  rest : List Char
  deriving DecidableEq, Repr

namespace Unread

/-- A source of which nothing has been read. -/
def ofText (text : List Char) : Unread := ⟨0, text⟩

/-- The unread part without the blanks that it starts with. -/
def skipBlanks (unread : Unread) : Unread :=
  let blanks := unread.rest.takeWhile Text.isBlank
  ⟨unread.position + blanks.length, unread.rest.drop blanks.length⟩

/-- The next token and what is unread after it; at the end this is the end of input again. -/
def next (unread : Unread) : Token × Unread :=
  match unread.skipBlanks with
  | ⟨position, []⟩ => (.endOfInput position, ⟨position, []⟩)
  | ⟨position, first :: rest⟩ =>
    let lexeme := Lexeme.read first rest
    (⟨lexeme.kind, lexeme.text, position⟩,
      ⟨position + 1 + lexeme.extra, rest.drop lexeme.extra⟩)

/-- A lexeme is never the end of input. -/
theorem read_kind_ne (first : Char) (rest : List Char) :
    (Lexeme.read first rest).kind ≠ .endOfInput := by
  unfold Lexeme.read
  split
  · simp
  · split
    · simp
    · split
      · simp
      · split <;> simp

/-- Reading a token that is not the end of input leaves less to read. -/
theorem next_rest_length_lt {unread : Unread} (htoken : unread.next.1.kind ≠ .endOfInput) :
    unread.next.2.rest.length < unread.rest.length := by
  have hskip : unread.skipBlanks.rest.length ≤ unread.rest.length := by
    simp [skipBlanks]
  rcases hstart : unread.skipBlanks with ⟨position, _ | ⟨first, rest⟩⟩
  · simp [next, hstart, Token.endOfInput] at htoken
  · simp only [hstart, List.length_cons] at hskip
    simp only [next, hstart, List.length_drop]
    omega

/-- The tokens of the unread part, in order. -/
def tokens (unread : Unread) : List Token :=
  if _hToken : unread.next.1.kind = .endOfInput then []
  else unread.next.1 :: tokens unread.next.2
termination_by unread.rest.length
decreasing_by exact next_rest_length_lt _hToken

end Unread

/-- The tokens of a source text. -/
def tokenize (text : String) : List Token :=
  (Unread.ofText text.toList).tokens

/-- One line of a token listing: the position right-aligned in four columns, the kind left-aligned
in twelve, and the token. -/
def Token.listingLine (token : Token) : String :=
  let position := Nat.repr token.position
  let kind := token.kind.name
  "".pushn ' ' (4 - position.length) ++ position ++ "  "
    ++ kind.pushn ' ' (12 - kind.length) ++ " " ++ token.display

/-- The listing of a source, a line for each token. -/
def tokenListing (text : String) : List String :=
  (tokenize text).map Token.listingLine

end Formula
