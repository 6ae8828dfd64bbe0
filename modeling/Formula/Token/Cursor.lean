import Formula.Token.Lexer

/-!
# A cursor over tokens

A cursor stands on one token of a source and moves forward on demand. Looking ahead, by characters
or by tokens, does not move it.
-/

namespace Formula

/-- A cursor: the source, what of it is unread, and the current token. -/
structure Cursor where
  source : List Char
  unread : Unread
  token : Token
  deriving DecidableEq, Repr

namespace Cursor

/-- A cursor before the first token; until it moves, its token is an end of input at zero. -/
def start (text : String) : Cursor :=
  ⟨text.toList, .ofText text.toList, .endOfInput 0⟩

/-- How many characters have been read. -/
def position (cursor : Cursor) : Nat :=
  cursor.unread.position

/-- Whether all characters have been read. -/
def isAtEnd (cursor : Cursor) : Bool :=
  cursor.source.length ≤ cursor.position

/-- The cursor on the next token, and whether that is a token and not the end of input. -/
def moveNext (cursor : Cursor) : Bool × Cursor :=
  match cursor.unread.next with
  | (token, unread) => (!token.hasKind .endOfInput, { cursor with unread, token })

/-- The character `delta` places from the last one that was read; outside the source it is NUL. -/
def peekChar (cursor : Cursor) (delta : Int) : Char :=
  match (cursor.position : Int) - 1 + delta with
  | .ofNat index => cursor.source.getD index '\x00'
  | .negSucc _ => '\x00'

/-- The token `count` tokens after `current`, which is followed by `unread`. -/
def lookAhead (current : Token) (unread : Unread) : Nat → Token
  | 0 => current
  | count + 1 =>
    if current.hasKind .endOfInput then current
    else lookAhead unread.next.1 unread.next.2 count

/-- The token `count` tokens after the current one, or the end of input. -/
def peekToken (cursor : Cursor) (count : Nat) : Token :=
  lookAhead cursor.token cursor.unread count

end Cursor

end Formula
