import Formula.Json
import Formula.Binary64.Numeral

/-!
# Reading JSON

A text is read strictly: one document with blanks around it. Containers may be nested up to a limit.
A number with a fraction or an exponent, or too large for an integer of 64 bits, is a double: its
leading digits that fit 64 bits are scaled by a power of ten, with one rounding for each.
-/

namespace Formula.Json

/-- What is read from the start of a text, and the rest. -/
abbrev Rule (α : Type) : Type := List Char → Option (α × List Char)

/-- A text without the blanks of JSON that it starts with. -/
def skipBlanks (text : List Char) : List Char :=
  text.dropWhile fun c => c = ' ' || c = '\n' || c = '\t' || c = '\r'

/-- The value of a hexadecimal digit. -/
def hexDigit? (c : Char) : Option Nat :=
  if c.isDigit then some (c.toNat - '0'.toNat)
  else if 'a' ≤ c ∧ c ≤ 'f' then some (c.toNat - 'a'.toNat + 10)
  else if 'A' ≤ c ∧ c ≤ 'F' then some (c.toNat - 'A'.toNat + 10)
  else none

/-- The code unit that four hexadecimal digits spell. -/
def codeUnit? : Rule Nat
  | a :: b :: c :: d :: rest => do
    let a ← hexDigit? a
    let b ← hexDigit? b
    let c ← hexDigit? c
    let d ← hexDigit? d
    return (((a * 16 + b) * 16 + c) * 16 + d, rest)
  | _ => none

/-- The character of a code unit escape, after its mark; a pair of surrogates is one character, and
a lone surrogate none. -/
def unicodeEscape? : Rule Char := fun text => do
  let (high, rest) ← codeUnit? text
  if 0xD800 ≤ high ∧ high ≤ 0xDBFF then
    let '\\' :: 'u' :: rest := rest | none
    let (low, rest) ← codeUnit? rest
    if 0xDC00 ≤ low ∧ low ≤ 0xDFFF then
      return (Char.ofNat (0x10000 + (high - 0xD800) * 0x400 + (low - 0xDC00)), rest)
    else none
  else if 0xDC00 ≤ high ∧ high ≤ 0xDFFF then none
  else return (Char.ofNat high, rest)

/-- The character of an escape, after its backslash. -/
def escape? : Rule Char
  | '"' :: rest => some ('"', rest)
  | '\\' :: rest => some ('\\', rest)
  | '/' :: rest => some ('/', rest)
  | 'b' :: rest => some ('\x08', rest)
  | 'f' :: rest => some ('\x0c', rest)
  | 'n' :: rest => some ('\n', rest)
  | 'r' :: rest => some ('\r', rest)
  | 't' :: rest => some ('\t', rest)
  | 'u' :: rest => unicodeEscape? rest
  | _ => none

/-- The characters of a string after its opening quote. `fuel` bounds their number; the number of
characters of the text suffices. -/
def stringChars? : Nat → Rule (List Char)
  | 0, _ => none
  | _ + 1, [] => none
  | fuel + 1, c :: rest =>
    if c = '"' then some ([], rest)
    else if c = '\\' then do
      let (c, rest) ← escape? rest
      let (cs, rest) ← stringChars? fuel rest
      return (c :: cs, rest)
    else if c.toNat < 0x20 then none
    else do
      let (cs, rest) ← stringChars? fuel rest
      return (c :: cs, rest)

/-- A string after its opening quote. -/
def string? : Rule String := fun text => do
  let (cs, rest) ← stringChars? (text.length + 1) text
  return (String.ofList cs, rest)

/-- The longest number below `2 ^ 64` that some digits start with, and how many digits are left. -/
def leadingDigits (n : Nat) : List Char → Nat × Nat
  | [] => (n, 0)
  | c :: rest =>
    let next := n * 10 + (c.toNat - '0'.toNat)
    if next < twoPow 64 then leadingDigits next rest else (n, rest.length + 1)

/-- A double times `10 ^ exponent`, with steps of `10 ^ 308` where the power is too large for a
double; `fuel` bounds the steps. A result that is too large is none. -/
def scaleByTens? : Nat → Binary64 → Int → Option Binary64
  | 0, x, _ => some (.mul x 0)
  | fuel + 1, x, exponent =>
    if exponent.natAbs ≤ 308 then
      let power : Binary64 := .ofNat (tenPow exponent.natAbs)
      if 0 ≤ exponent then
        let scaled := x * power
        if scaled.isFinite then some scaled else none
      else some (x / power)
    else if x.isZero then some x
    else if 0 ≤ exponent then none
    else scaleByTens? fuel (x / .ofNat (tenPow 308)) (exponent + 308)

/-- The double for the digits of a number: those of its whole part, those of its fraction, and its
exponent. -/
def realValue? (whole fraction : List Char) (exponent : Int) : Option Binary64 :=
  match leadingDigits 0 whole with
  | (significand, dropped) =>
    match leadingDigits significand fraction with
    | (significand, unread) =>
      let taken := fraction.length - unread
      scaleByTens? 5 (.ofNat significand) (dropped - taken + exponent)

/-- An exponent after its mark. -/
def exponent? (text : List Char) : Option (Int × List Char) :=
  match Numeral.readSign text with
  | (negative, rest) =>
    match Numeral.readDigits rest with
    | ([], _) => none
    | (digits, rest) =>
      let size : Int := Numeral.digitsValue digits
      some (if negative then -size else size, rest)

/-- The digits after a point, if there is one; then there has to be one at least. -/
def fraction? : Rule (List Char)
  | '.' :: rest =>
    match Numeral.readDigits rest with
    | ([], _) => none
    | result => some result
  | text => some ([], text)

/-- An exponent with its mark, if there is one. -/
def optionalExponent? : Rule (Option Int)
  | c :: rest =>
    if c = 'e' ∨ c = 'E' then (exponent? rest).map fun (exponent, rest) => (some exponent, rest)
    else some (none, c :: rest)
  | [] => some (none, [])

/-- The digits before the point: a single zero, or digits that start with another one. -/
def whole? (text : List Char) : Option (List Char × List Char) :=
  match Numeral.readDigits text with
  | ([], _) => none
  | ('0' :: _ :: _, _) => none
  | result => some result

/-- An integer of 64 bits, signed if it is negative; negative zero is none. -/
def integer? (negative : Bool) (size : Nat) : Option Json :=
  if negative then
    if 0 < size ∧ size ≤ twoPow 63 then some (.integer (-size)) else none
  else if size < twoPow 64 then some (.integer size)
  else none

/-- A number after its sign. -/
def number? (negative : Bool) : Rule Json := fun text => do
  let (whole, rest) ← whole? text
  let (fraction, rest) ← fraction? rest
  let (exponent, rest) ← optionalExponent? rest
  let real? : Option Json := do
    let size ← realValue? whole fraction (exponent.getD 0)
    ofBinary64? (if negative then -size else size)
  let result ←
    if fraction.isEmpty && exponent.isNone then
      integer? negative (Numeral.digitsValue whole) <|> real?
    else real?
  return (result, rest)

/-- A word at the start of a text. -/
def word? (word : List Char) (result : Json) : Rule Json := fun text =>
  if word.isPrefixOf text then some (result, text.drop word.length) else none

/-- The items of an array up to its closing bracket, of which there is at least one. `fuel` bounds
their number; the number of characters of the text suffices. -/
def items? (value : Rule Json) : Nat → Rule (List Json)
  | 0, _ => none
  | fuel + 1, text => do
    let (item, rest) ← value (skipBlanks text)
    match skipBlanks rest with
    | ',' :: rest =>
      let (items, rest) ← items? value fuel rest
      return (item :: items, rest)
    | ']' :: rest => return ([item], rest)
    | _ => none

/-- A member of an object: its name, a colon and its value. -/
def member? (value : Rule Json) : Rule (String × Json) := fun text => do
  let '"' :: rest := skipBlanks text | none
  let (name, rest) ← string? rest
  let ':' :: rest := skipBlanks rest | none
  let (member, rest) ← value (skipBlanks rest)
  return ((name, member), rest)

/-- The members of an object up to its closing brace, of which there is at least one. `fuel` bounds
their number; the number of characters of the text suffices. -/
def members? (value : Rule Json) : Nat → Rule (List (String × Json))
  | 0, _ => none
  | fuel + 1, text => do
    let (member, rest) ← member? value text
    match skipBlanks rest with
    | ',' :: rest =>
      let (members, rest) ← members? value fuel rest
      return (member :: members, rest)
    | '\x7d' :: rest => return ([member], rest)
    | _ => none

/-- An array after its opening bracket. -/
def array? (value : Rule Json) : Rule Json := fun text =>
  match skipBlanks text with
  | ']' :: rest => some (.array [], rest)
  | text => (items? value text.length text).map fun (items, rest) => (.array items, rest)

/-- An object after its opening brace. -/
def object? (value : Rule Json) : Rule Json := fun text =>
  match skipBlanks text with
  | '\x7d' :: rest => some (.object [], rest)
  | text => (members? value text.length text).map fun (members, rest) => (ofMembers members, rest)

/-- A document that is no container. -/
def scalar? : Rule Json
  | '"' :: rest => (string? rest).map fun (s, rest) => (.string s, rest)
  | '-' :: rest => number? true rest
  | text =>
    word? ['n', 'u', 'l', 'l'] .null text
      <|> word? ['t', 'r', 'u', 'e'] (.boolean true) text
      <|> word? ['f', 'a', 'l', 's', 'e'] (.boolean false) text
      <|> number? false text

/-- A document; the budget is the number of containers that may still be opened inside each
other. -/
def value? : Nat → Rule Json
  | 0, text => scalar? text
  | budget + 1, text =>
    match text with
    | '[' :: rest => array? (value? budget) rest
    | '\x7b' :: rest => object? (value? budget) rest
    | text => scalar? text

/-- How many containers may be opened inside each other. -/
def maxNesting : Nat := 127

/-- Reads a text that is one document. -/
def read? (text : String) : Option Json := do
  let (document, rest) ← value? maxNesting (skipBlanks text.toList)
  if (skipBlanks rest).isEmpty then some document else none

end Formula.Json
