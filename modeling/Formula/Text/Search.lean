/-!
# Searching texts

Where a text stands in another one, and the pieces between its occurrences. Occurrences are found
from the left and do not overlap.
-/

namespace Formula.Text

/-- The number of bytes before the first place where `part` stands in a text, in UTF-8. -/
def bytesBefore? (part : List Char) : List Char → Option Nat
  | [] => if part.isEmpty then some 0 else none
  | c :: rest =>
    if part.isPrefixOf (c :: rest) then some 0 else (bytesBefore? part rest).map (· + c.utf8Size)

/-- The number of characters in the first bytes of a text. -/
def charsWithin (bytes : Nat) : List Char → Nat
  | [] => 0
  | c :: rest => if bytes = 0 then 0 else charsWithin (bytes - c.utf8Size) rest + 1

/-- Whether `part` stands somewhere in a text. -/
def contains (part text : List Char) : Bool :=
  (bytesBefore? part text).isSome

/-- A text with one more character in its first piece. -/
def extendFirst (c : Char) : List (List Char) → List (List Char)
  | piece :: pieces => (c :: piece) :: pieces
  | [] => [[c]]

/-- The pieces of a text between the occurrences of a separator that is not empty; `skip` characters
of the text belong to an occurrence that has been found. -/
def pieces (separator : List Char) : Nat → List Char → List (List Char)
  | _, [] => [[]]
  | skip + 1, _ :: rest => pieces separator skip rest
  | 0, c :: rest =>
    if separator.isPrefixOf (c :: rest) then [] :: pieces separator (separator.length - 1) rest
    else extendFirst c (pieces separator 0 rest)

/-- The pieces of a text between the occurrences of a separator; an empty one separates nothing. -/
def split (separator text : List Char) : List (List Char) :=
  if separator.isEmpty then [text] else pieces separator 0 text

/-- A text with `new` in place of each occurrence of `old`, which is not empty. -/
def replace (old new text : List Char) : List Char :=
  new.intercalate (pieces old 0 text)

end Formula.Text
