import Formula.Power
import Formula.Regex.Pattern

/-!
# Reading patterns

The written form of patterns: alternatives of pieces with repetitions, groups, flags, escapes and
bracketed classes. A text that breaks a rule of the form has no pattern. Flags hold to the end of
the group that they stand in. Nesting is bounded, and reading recurses on that bound.
-/

namespace Formula.Regex

/-- The flags that change how a pattern is read. -/
structure Flags where
  ignoreCase : Bool := false
  multiLine : Bool := false
  dotAll : Bool := false
  unicode : Bool := true
  carriageReturns : Bool := false
  spaced : Bool := false
  deriving DecidableEq, Repr

namespace Flags

/-- The flags with the one of a letter set; the letter `U` chooses a preference and has no
effect. -/
def set? (flags : Flags) (letter : Char) (value : Bool) : Option Flags :=
  match letter with
  | 'i' => some { flags with ignoreCase := value }
  | 'm' => some { flags with multiLine := value }
  | 's' => some { flags with dotAll := value }
  | 'u' => some { flags with unicode := value }
  | 'R' => some { flags with carriageReturns := value }
  | 'x' => some { flags with spaced := value }
  | 'U' => some flags
  | _ => none

/-- A set as the flags have it read: without regard to letter case if they say so. -/
def fold (flags : Flags) (set : CharSet) : CharSet :=
  if flags.ignoreCase then if flags.unicode then .folded set else .foldedAscii set else set

/-- Reads the letters of a flag group up to the mark that ends it: the flags, whether there are any
letters, the mark and the rest. A letter stands once, and a dash turns the letters after it off. -/
def read? (negated dangling : Bool) (seen : List Char) (flags : Flags) :
    List Char → Option (Flags × Bool × Char × List Char)
  | [] => none
  | c :: rest =>
    if c = ':' ∨ c = ')' then if dangling then none else some (flags, !seen.isEmpty, c, rest)
    else if c = '-' then if negated then none else read? true true seen flags rest
    else if seen.contains c then none
    else
      match flags.set? c !negated with
      | some flags => read? negated false (c :: seen) flags rest
      | none => none

end Flags

/-- A text without the blanks and comments that it starts with. -/
def skipComments (inComment : Bool) : List Char → List Char
  | [] => []
  | c :: rest =>
    if inComment then skipComments (c ≠ '\n') rest
    else if Text.isBlank c then skipComments false rest
    else if c = '#' then skipComments true rest
    else c :: rest

/-- A text from its next character that counts. -/
def skipSpace (flags : Flags) (text : List Char) : List Char :=
  if flags.spaced then skipComments false text else text

/-- A decimal number below `2 ^ 32` with blanks around it; no digits at all are no number. -/
def decimal? (flags : Flags) (text : List Char) : Option Nat × List Char :=
  let text := text.dropWhile Text.isBlank
  let digits := text.takeWhile Char.isDigit
  let rest := skipSpace flags ((text.drop digits.length).dropWhile Text.isBlank)
  let value := Nat.ofDigitChars 10 digits 0
  (if digits.isEmpty ∨ twoPow 32 ≤ value then none else some value, rest)

/-- What an escape stands for. -/
inductive Escape where
  | char (c : Char)
  | set (set : CharSet)
  | assertion (condition : Assertion)

/-- Whether a character has a meaning of its own in patterns. -/
def isMeta (c : Char) : Bool :=
  ['\\', '.', '+', '*', '?', '(', ')', '|', '[', ']', '\x7b', '\x7d', '^', '$', '#', '&', '-',
    '~'].contains c

/-- Whether a backslash before a character makes it stand for itself: all of ASCII but letters,
digits and angle brackets. -/
def isEscapable (c : Char) : Bool :=
  isMeta c || (c.toNat < 0x80 && !c.isAlphanum && c ≠ '<' && c ≠ '>')

/-- The value of hexadecimal digits, of which there are some. -/
def hexValue? (digits : List Char) : Option Nat :=
  if digits.isEmpty then none
  else
    let digit? (c : Char) : Option Nat :=
      let lower := c.toLower
      if c.isDigit then some (c.toNat - '0'.toNat)
      else if 'a' ≤ lower ∧ lower ≤ 'f' then some (lower.toNat - 'a'.toNat + 10)
      else none
    digits.foldlM (fun value c => (digit? c).map (value * 16 + ·)) 0

/-- The character of hexadecimal digits; surrogates are no characters. -/
def hexChar? (digits : List Char) : Option Char := do
  let value ← hexValue? digits
  if value < 0xD800 ∨ (0xE000 ≤ value ∧ value ≤ 0x10FFFF) then some (Char.ofNat value) else none

/-- The next characters that count, as many as asked for. -/
def takeSpaced (flags : Flags) : Nat → List Char → Option (List Char × List Char)
  | 0, text => some ([], text)
  | count + 1, text =>
    match skipSpace flags text with
    | [] => none
    | c :: rest => (takeSpaced flags count rest).map fun (taken, rest) => (c :: taken, rest)

/-- The characters that count up to a closing brace, and what follows it. -/
def upToBrace (flags : Flags) (text : List Char) : Option (List Char × List Char) :=
  let inner := text.takeWhile fun c => c ≠ '\x7d'
  match text.drop inner.length with
  | [] => none
  | _ :: rest =>
    some (if flags.spaced then inner.filter fun c => !Text.isBlank c else inner, rest)

/-- A character given by its code, after the mark: digits in braces, or a fixed count of them. -/
def hexEscape? (flags : Flags) (mark : Char) (text : List Char) :
    Option (Char × List Char) :=
  match skipSpace flags text with
  | '\x7b' :: rest => do
    let (digits, rest) ← upToBrace flags rest
    return (← hexChar? digits, rest)
  | text => do
    let count := if mark = 'x' then 2 else if mark = 'u' then 4 else 8
    let (digits, rest) ← takeSpaced flags count text
    let c ← hexChar? digits
    if mark = 'x' ∧ !flags.unicode ∧ 0x7F < c.toNat then none else some (c, rest)

/-- The set that the inside of property braces names: a name, or a property and a value with a mark
between them. -/
def propertySet? (name : List Char) : Option CharSet :=
  let mark (c : Char) : Bool := c ≠ ':' && c ≠ '='
  let unequal := (name.zip (name.drop 1)).findIdx? fun pair => pair = ('!', '=')
  match unequal with
  | some place => (CharSet.valued? (name.take place) (name.drop (place + 2))).map .complement
  | none =>
    let colon := name.takeWhile fun c => c ≠ ':'
    let property := if colon.length < name.length then colon else name.takeWhile mark
    if property.length < name.length then
      CharSet.valued? property (name.drop (property.length + 1))
    else CharSet.named? name

/-- A property, after the mark: one letter or a name in braces. -/
def propertyEscape? (flags : Flags) (negated : Bool) (text : List Char) :
    Option (CharSet × List Char) :=
  if !flags.unicode then none
  else
    match skipSpace flags text with
    | [] => none
    | '\x7b' :: rest => do
      let (name, rest) ← upToBrace flags rest
      return (.complementIf negated (flags.fold (← propertySet? name)), rest)
    | c :: rest => do
      return (.complementIf negated (flags.fold (← CharSet.named? [c])), rest)

/-- The set of a letter class; outside the Unicode mode its complement would match parts of
characters and is refused. -/
def letterSet? (flags : Flags) (letter : Char) : Option CharSet :=
  let ranges := match letter.toLower with
    | 'd' => if flags.unicode then Text.Category.decimalNumber else [(0x30, 0x39)]
    | 's' => if flags.unicode then Text.blankRanges else [(0x09, 0x0D), (0x20, 0x20)]
    | _ => if flags.unicode then CharSet.word else CharSet.asciiWord
  if letter.isUpper then
    if flags.unicode then some (.complement (.ranges ranges)) else none
  else some (.ranges ranges)

/-- A word boundary with a name in braces, after its letter; braces that start otherwise are left
to a repetition. -/
def wordBoundary? (flags : Flags) (text : List Char) : Option (Assertion × List Char) :=
  let ascii := !flags.unicode
  let plain := some (.wordBoundary ascii, text)
  match text with
  | '\x7b' :: rest =>
    let isNameChar (c : Char) : Bool := c.isAlpha || c = '-'
    match skipSpace flags rest with
    | [] => none
    | c :: _ =>
      if !isNameChar c then plain
      else do
        let (name, rest) ← upToBrace flags rest
        match String.ofList name with
        | "start" => return (.wordStart ascii, rest)
        | "end" => return (.wordEnd ascii, rest)
        | "start-half" => return (.wordStartHalf ascii, rest)
        | "end-half" => return (.wordEndHalf ascii, rest)
        | _ => none
  | _ => plain

/-- An escape after its backslash. -/
def escape? (flags : Flags) : List Char → Option (Escape × List Char)
  | [] => none
  | c :: rest =>
    if c = 'x' ∨ c = 'u' ∨ c = 'U' then
      (hexEscape? flags c rest).map fun (c, rest) => (.char c, rest)
    else if c = 'p' ∨ c = 'P' then
      (propertyEscape? flags (c = 'P') rest).map fun (set, rest) => (.set set, rest)
    else if ['d', 's', 'w', 'D', 'S', 'W'].contains c then
      (letterSet? flags c).map fun set => (.set set, rest)
    else if isEscapable c then some (.char c, rest)
    else
      let ascii := !flags.unicode
      match c with
      | 'a' => some (.char '\x07', rest)
      | 'f' => some (.char '\x0c', rest)
      | 't' => some (.char '\t', rest)
      | 'n' => some (.char '\n', rest)
      | 'r' => some (.char '\r', rest)
      | 'v' => some (.char '\x0b', rest)
      | 'A' => some (.assertion .textStart, rest)
      | 'z' => some (.assertion .textEnd, rest)
      | 'b' => (wordBoundary? flags rest).map fun (found, rest) => (.assertion found, rest)
      | 'B' => some (.assertion (.notWordBoundary ascii), rest)
      | '<' => some (.assertion (.wordStart ascii), rest)
      | '>' => some (.assertion (.wordEnd ascii), rest)
      | _ => none

/-- A part that has been read, with the depth of its nesting. -/
structure Part (α : Type) where
  value : α
  depth : Nat

/-- One item of a bracketed class. -/
inductive ClassItem where
  | char (c : Char)
  | set (set : CharSet)

/-- The set of an item. -/
def ClassItem.toSet : ClassItem → CharSet
  | .char c => .single c
  | .set items => items

/-- Reads one item of a bracketed class. -/
def classItem? (flags : Flags) : List Char → Option (ClassItem × List Char)
  | '\\' :: rest =>
    match escape? flags rest with
    | some (.char c, rest) => some (.char c, rest)
    | some (.set set, rest) => some (.set set, rest)
    | _ => none
  | c :: rest => some (.char c, rest)
  | [] => none

/-- An item of a bracketed class, or a range of characters with a dash between its ends. -/
def classRange? (flags : Flags) (text : List Char) : Option (CharSet × List Char) := do
  let (first, rest) ← classItem? flags text
  let rest := skipSpace flags rest
  match rest with
  | [] => none
  | '-' :: after =>
    match skipSpace flags after with
    | [] => none
    | ']' :: _ | '-' :: _ => return (first.toSet, rest)
    | after =>
      let (second, rest) ← classItem? flags after
      match first, second with
      | .char low, .char high =>
        if low ≤ high then return (.ranges [(low.toNat, high.toNat)], rest) else none
      | _, _ => none
  | _ => return (first.toSet, rest)

/-- A class of ASCII in brackets and colons, after its opening bracket. -/
def asciiClass? (flags : Flags) (text : List Char) : Option (CharSet × List Char) := do
  let ':' :: rest := text | none
  let (negated, rest) := match rest with
    | '^' :: rest => (true, rest)
    | rest => (false, rest)
  let name := rest.takeWhile fun c => c ≠ ':'
  let ':' :: ']' :: rest := rest.drop name.length | none
  let set ← CharSet.asciiClass? (String.ofList name)
  return (.complementIf negated (flags.fold set), rest)

/-- The operations between the operands of a bracketed class. -/
inductive SetOp where
  | intersection
  | difference
  | symmetricDifference
  deriving DecidableEq, Repr

/-- What has been read of a bracketed class: the operand to the left of the last operation, and the
items after it. -/
structure ClassSoFar where
  left : Option (SetOp × Part CharSet)
  items : List (Part CharSet)

namespace ClassSoFar

/-- The items as one set. -/
def operand (soFar : ClassSoFar) : Part CharSet :=
  match soFar.items with
  | [] => ⟨.empty, 0⟩
  | [item] => item
  | items =>
    ⟨items.foldl (fun set item => .union set item.value) .empty,
      items.foldl (fun depth item => max depth item.depth) 0 + 1⟩

/-- The whole class so far; letter case is folded in the operands of an operation. -/
def whole (flags : Flags) (soFar : ClassSoFar) : Part CharSet :=
  let right := soFar.operand
  match soFar.left with
  | none => right
  | some (op, left) =>
    let a := flags.fold left.value
    let b := flags.fold right.value
    let set := match op with
      | .intersection => CharSet.intersection a b
      | .difference => .difference a b
      | .symmetricDifference => .symmetricDifference a b
    ⟨set, max left.depth right.depth + 1⟩

/-- The class with one more item. -/
def add (soFar : ClassSoFar) (item : Part CharSet) : ClassSoFar :=
  { soFar with items := item :: soFar.items }

end ClassSoFar

/-- The start of a bracketed class after its opening bracket: whether it is negated, and the dashes
or the closing bracket that stand for themselves there. -/
def classStart? (flags : Flags) (text : List Char) : Option (Bool × ClassSoFar × List Char) :=
  let text := skipSpace flags text
  let (negated, text) := match text with
    | '^' :: rest => (true, skipSpace flags rest)
    | _ => (false, text)
  let (dashes, text) := leadingDashes text.length text
  match dashes, text with
  | 0, ']' :: rest => some (negated, ⟨none, [⟨.single ']', 0⟩]⟩, skipSpace flags rest)
  | _, [] => none
  | count, text => some (negated, ⟨none, List.replicate count ⟨.single '-', 0⟩⟩, text)
where
  /-- The number of dashes at the start of a text, and the rest. -/
  leadingDashes : Nat → List Char → Nat × List Char
    | 0, text => (0, text)
    | fuel + 1, text =>
      match text with
      | '-' :: rest =>
        match leadingDashes fuel (skipSpace flags rest) with
        | (count, rest) => (count + 1, rest)
      | _ => (0, text)

/-- The items and operations of a bracketed class up to its closing bracket. `nested` reads a class
inside, after its opening bracket; `fuel` bounds the number of items. -/
def classItems? (flags : Flags) (nested : List Char → Option (Part CharSet × List Char)) :
    Nat → ClassSoFar → List Char → Option (Part CharSet × List Char)
  | 0, _, _ => none
  | fuel + 1, soFar, text =>
    match skipSpace flags text with
    | [] => none
    | ']' :: rest => some (soFar.whole flags, rest)
    | '[' :: rest =>
      match asciiClass? flags rest with
      | some (set, rest) => classItems? flags nested fuel (soFar.add ⟨set, 0⟩) rest
      | none =>
        match nested rest with
        | some (item, rest) => classItems? flags nested fuel (soFar.add item) rest
        | none => none
    | '&' :: '&' :: rest =>
      classItems? flags nested fuel ⟨some (.intersection, soFar.whole flags), []⟩ rest
    | '-' :: '-' :: rest =>
      classItems? flags nested fuel ⟨some (.difference, soFar.whole flags), []⟩ rest
    | '~' :: '~' :: rest =>
      classItems? flags nested fuel ⟨some (.symmetricDifference, soFar.whole flags), []⟩ rest
    | text =>
      match classRange? flags text with
      | some (set, rest) => classItems? flags nested fuel (soFar.add ⟨set, 0⟩) rest
      | none => none

/-- A bracketed class after its opening bracket, with a budget for classes inside. -/
def bracketed? (flags : Flags) : Nat → List Char → Option (Part CharSet × List Char)
  | 0, _ => none
  | budget + 1, text => do
    let (negated, soFar, rest) ← classStart? flags text
    let (inner, rest) ← classItems? flags (bracketed? flags budget) (rest.length + 1) soFar rest
    if negated && !flags.unicode then none
    else return (⟨.complementIf negated (flags.fold inner.value), inner.depth + 1⟩, rest)

/-- How deep a pattern may be nested. -/
def maxNesting : Nat := 250

/-- What is left to read, and the names that groups have taken. -/
structure Reading where
  rest : List Char
  names : List (List Char)

/-- The pattern of a part. -/
abbrev Piece : Type := Part Pattern

/-- One element of a sequence: a piece, or flags, which cannot be repeated. -/
inductive Element where
  | flags
  | piece (value : Piece)

/-- The pattern of elements that stand one after the other. -/
def sequenceOf (elements : List Element) : Piece :=
  let pieces := elements.map fun element => match element with
    | .flags => (⟨.empty, 0⟩ : Piece)
    | .piece piece => piece
  match pieces with
  | [] => ⟨.empty, 0⟩
  | [piece] => piece
  | pieces =>
    ⟨pieces.foldr (fun piece pattern => .sequence piece.value pattern) .empty,
      pieces.foldl (fun depth piece => max depth piece.depth) 0 + 1⟩

/-- The pattern of alternatives, the last of which is in front. -/
def choiceOf : List Piece → Piece
  | [] => ⟨.empty, 0⟩
  | [piece] => piece
  | last :: pieces =>
    ⟨pieces.foldl (fun pattern piece => .choice piece.value pattern) last.value,
      pieces.foldl (fun depth piece => max depth piece.depth) last.depth + 1⟩

/-- The dot: any character but the ends of lines, unless the flags let it match these too. Outside
the Unicode mode it would match parts of characters and is refused. -/
def dotSet? (flags : Flags) : Option CharSet :=
  if !flags.unicode then none
  else if flags.dotAll then some .all
  else if flags.carriageReturns then some (.complement (.ranges [(0x0A, 0x0A), (0x0D, 0x0D)]))
  else some (.complement (.ranges [(0x0A, 0x0A)]))

/-- The start of the text or, if the flags say so, of a line. -/
def startAssertion (flags : Flags) : Assertion :=
  if flags.multiLine then .lineStart flags.carriageReturns else .textStart

/-- The end of the text or, if the flags say so, of a line. -/
def endAssertion (flags : Flags) : Assertion :=
  if flags.multiLine then .lineEnd flags.carriageReturns else .textEnd

/-- A character, an escape, a dot or an assertion. -/
def primitive? (flags : Flags) : List Char → Option (Pattern × List Char)
  | [] => none
  | '\\' :: rest =>
    match escape? flags rest with
    | some (.char c, rest) => some (.chars (flags.fold (.single c)), rest)
    | some (.set set, rest) => some (.chars set, rest)
    | some (.assertion condition, rest) => some (.assertion condition, rest)
    | none => none
  | '.' :: rest => (dotSet? flags).map fun set => (.chars set, rest)
  | '^' :: rest => some (.assertion (startAssertion flags), rest)
  | '$' :: rest => some (.assertion (endAssertion flags), rest)
  | c :: rest => some (.chars (flags.fold (.single c)), rest)

/-- A text without a question mark that it starts with, which only chooses a preference. -/
def skipPreference : List Char → List Char
  | '?' :: rest => rest
  | text => text

/-- The counts of a repetition in braces, after the opening one: a number, or two with a comma
between them. Without a first number there has to be a second one. -/
def counts? (flags : Flags) (text : List Char) : Option (Nat × Option Nat × List Char) :=
  match skipSpace flags text with
  | [] => none
  | text =>
    let close (least : Nat) (greatest : Option Nat) :
        List Char → Option (Nat × Option Nat × List Char)
      | '\x7d' :: rest =>
        if greatest.all fun greatest => least ≤ greatest then some (least, greatest, rest)
        else none
      | _ => none
    match decimal? flags text with
    | (least, ',' :: rest) =>
      match skipSpace flags rest, least with
      | '\x7d' :: rest, some least => close least none ('\x7d' :: rest)
      | '\x7d' :: _, none => none
      | rest, least =>
        match decimal? flags rest with
        | (some greatest, rest) => close (least.getD 0) (some greatest) rest
        | (none, _) => none
    | (some least, rest) => close least (some least) rest
    | (none, _) => none

/-- A piece that is repeated. -/
def repeated (piece : Piece) (least : Nat) (greatest : Option Nat) : Piece :=
  ⟨.repetition piece.value least greatest, piece.depth + 1⟩

/-- Whether a character can stand in the name of a group. -/
def isNameChar (first : Bool) (c : Char) : Bool :=
  let letter := Text.alphabetic.contains c.toNat
  if first then c = '_' || letter
  else c = '_' || c = '.' || c = '[' || c = ']' || letter
    || CharSet.numerals.contains c.toNat

/-- The name of a group up to its closing angle bracket, which no group has taken. -/
def groupName? (reading : Reading) : Option Reading :=
  let name := reading.rest.takeWhile fun c => c ≠ '>'
  let isValid := match name with
    | [] => false
    | first :: others => isNameChar true first && others.all (isNameChar false)
  match reading.rest.drop name.length with
  | _ :: rest =>
    if isValid && !reading.names.contains name then some ⟨rest, name :: reading.names⟩ else none
  | [] => none

/-- Reads the inside of a group. -/
abbrev Inside : Type := Flags → Reading → Option (Piece × Reading)

/-- The inside of a group and its closing parenthesis. -/
def closed? (inside : Inside) (flags : Flags) (reading : Reading) :
    Option (Element × Reading) := do
  let (piece, reading) ← inside flags reading
  let ')' :: rest := reading.rest | none
  return (.piece ⟨piece.value, piece.depth + 1⟩, { reading with rest })

/-- A group or flags after the opening parenthesis, with the flags that hold afterwards. -/
def group? (inside : Inside) (flags : Flags) (reading : Reading) :
    Option (Element × Flags × Reading) :=
  let text := skipSpace flags reading.rest
  let named (rest : List Char) : Option (Element × Flags × Reading) := do
    let reading ← groupName? { reading with rest }
    let (element, reading) ← closed? inside flags reading
    return (element, flags, reading)
  match text with
  | '?' :: '=' :: _ | '?' :: '!' :: _ | '?' :: '<' :: '=' :: _ | '?' :: '<' :: '!' :: _ => none
  | '?' :: 'P' :: '<' :: rest => named rest
  | '?' :: '<' :: rest => named rest
  | '?' :: rest => do
    let (inner, any, mark, rest) ← Flags.read? false false [] flags rest
    if mark = ')' then
      if any then return (.flags, inner, { reading with rest }) else none
    else
      let (element, reading) ← closed? inside inner { reading with rest }
      return (element, flags, reading)
  | rest => do
    let (element, reading) ← closed? inside flags { reading with rest }
    return (element, flags, reading)

/-- The elements of a sequence, the last one in front, up to a bar, a closing parenthesis or the
end. `fuel` bounds their number; the number of characters suffices. -/
def elements? (inside : Inside) :
    Nat → Flags → List Element → Reading → Option (List Element × Flags × Reading)
  | 0, _, _, _ => none
  | fuel + 1, flags, done, reading =>
    let repeatLast (least : Nat) (greatest : Option Nat) (rest : List Char) :
        Option (List Element × Flags × Reading) :=
      match done with
      | .piece piece :: done =>
        elements? inside fuel flags (.piece (repeated piece least greatest) :: done)
          { reading with rest := skipPreference rest }
      | _ => none
    match skipSpace flags reading.rest with
    | [] => some (done, flags, { reading with rest := [] })
    | '|' :: rest => some (done, flags, { reading with rest := '|' :: rest })
    | ')' :: rest => some (done, flags, { reading with rest := ')' :: rest })
    | '(' :: rest =>
      match group? inside flags { reading with rest } with
      | some (element, flags, reading) => elements? inside fuel flags (element :: done) reading
      | none => none
    | '[' :: rest =>
      match bracketed? flags maxNesting rest with
      | some (set, rest) =>
        let piece : Piece := ⟨.chars set.value, set.depth⟩
        elements? inside fuel flags (.piece piece :: done) { reading with rest }
      | none => none
    | '?' :: rest => repeatLast 0 (some 1) rest
    | '*' :: rest => repeatLast 0 none rest
    | '+' :: rest => repeatLast 1 none rest
    | '\x7b' :: rest =>
      match counts? flags rest with
      | some (least, greatest, rest) => repeatLast least greatest (skipSpace flags rest)
      | none => none
    | text =>
      match primitive? flags text with
      | some (pattern, rest) =>
        elements? inside fuel flags (.piece ⟨pattern, 0⟩ :: done) { reading with rest }
      | none => none

/-- Alternatives with bars between them, the ones before in front. `fuel` bounds their number; the
number of characters suffices. -/
def alternatives? (inside : Inside) :
    Nat → Flags → List Piece → Reading → Option (Piece × Reading)
  | 0, _, _, _ => none
  | fuel + 1, flags, done, reading => do
    let (elements, flags, reading) ←
      elements? inside (reading.rest.length + 1) flags [] reading
    let done := sequenceOf elements.reverse :: done
    match reading.rest with
    | '|' :: rest => alternatives? inside fuel flags done { reading with rest }
    | _ => return (choiceOf done, reading)

/-- The inside of a group, with a budget for the groups in it. -/
def inside? : Nat → Inside
  | 0, _, _ => none
  | budget + 1, flags, reading =>
    alternatives? (inside? budget) (reading.rest.length + 1) flags [] reading

/-- Reads a text as a pattern that is neither nested too deep nor too large. -/
def Pattern.read? (text : List Char) : Option Pattern := do
  let (piece, reading) ← inside? (maxNesting + 1) {} ⟨text, []⟩
  if reading.rest.isEmpty && piece.depth ≤ maxNesting && piece.value.size ≤ maxSize then
    return piece.value
  else none

end Formula.Regex
