import Formula.Json
import Formula.Binary64.Shortest

/-!
# Printing JSON

A document is printed in one line without blanks, or with a line for each item and member. A double
is printed with the fewest digits that read back, and always so that it reads as a double.
-/

namespace Formula.Json

/-- A hexadecimal digit in lower case. -/
def hexChar (n : Nat) : Char :=
  Nat.digitChar n

/-- A character as it stands in a string. -/
def escaped (c : Char) : List Char :=
  match c with
  | '"' => ['\\', '"']
  | '\\' => ['\\', '\\']
  | '\x08' => ['\\', 'b']
  | '\x0c' => ['\\', 'f']
  | '\n' => ['\\', 'n']
  | '\r' => ['\\', 'r']
  | '\t' => ['\\', 't']
  | c =>
    if c.toNat < 0x20 then
      ['\\', 'u', '0', '0', hexChar (c.toNat / 16), hexChar (c.toNat % 16)]
    else [c]

/-- A string with its quotes. -/
def quoted (s : String) : String :=
  String.ofList ('"' :: s.toList.flatMap escaped ++ ['"'])

/-- The exponents of a double that is printed without one: `0.1` has zero and `1` has one. -/
def isPlainExponent (exponent : Int) : Bool :=
  -5 < exponent && exponent ≤ 16

/-- A number without an exponent, always with a fraction. -/
def plainReal (s : Binary64.Scientific) : List Char :=
  match s.fractionDigits with
  | [] => s.wholeDigits ++ ['.', '0']
  | fraction => s.wholeDigits ++ '.' :: fraction

/-- A number with one digit before the point and an exponent. -/
def exponentReal (s : Binary64.Scientific) (exponent : Int) : List Char :=
  let sign := if exponent < 0 then '-' else '+'
  let power := 'e' :: sign :: Nat.toDigits 10 exponent.natAbs
  match Nat.toDigits 10 s.digits with
  | first :: second :: rest => first :: '.' :: second :: rest ++ power
  | digits => digits ++ power

/-- The text of a double. -/
def realText (x : Binary64) : String :=
  let s := Binary64.shortest .even x
  let exponent := (Nat.toDigits 10 s.digits).length + s.exponent
  let digits := if isPlainExponent exponent then plainReal s else exponentReal s (exponent - 1)
  String.ofList (if x.isNegative then '-' :: digits else digits)

mutual
/-- The text of a document in one line. -/
def compact : Json → String
  | .null => "null"
  | .boolean b => if b then "true" else "false"
  | .integer n => Int.repr n
  | .real x _ => realText x
  | .string s => quoted s
  | .array items => "[" ++ ",".intercalate (compactItems items) ++ "]"
  | .object members => "\x7b" ++ ",".intercalate (compactMembers members) ++ "\x7d"

/-- The texts of items. -/
def compactItems : List Json → List String
  | [] => []
  | item :: rest => item.compact :: compactItems rest

/-- The texts of members. -/
def compactMembers : List (String × Json) → List String
  | [] => []
  | (name, member) :: rest => (quoted name ++ ":" ++ member.compact) :: compactMembers rest
end

/-- The start of a line at a depth. -/
def lineStart (depth : Nat) : String :=
  "\n".pushn ' ' (2 * depth)

/-- Parts between an opening and a closing mark, each on a line of its own. -/
def block (depth : Nat) (opening closing : String) (parts : List String) : String :=
  if parts.isEmpty then opening ++ closing
  else
    opening ++ lineStart (depth + 1) ++ ("," ++ lineStart (depth + 1)).intercalate parts
      ++ lineStart depth ++ closing

mutual
/-- The text of a document at a depth, with a line for each item and member. -/
def prettyAt (depth : Nat) : Json → String
  | .array items => block depth "[" "]" (prettyItems (depth + 1) items)
  | .object members => block depth "\x7b" "\x7d" (prettyMembers (depth + 1) members)
  | document => document.compact

/-- The texts of items. -/
def prettyItems (depth : Nat) : List Json → List String
  | [] => []
  | item :: rest => prettyAt depth item :: prettyItems depth rest

/-- The texts of members. -/
def prettyMembers (depth : Nat) : List (String × Json) → List String
  | [] => []
  | (name, member) :: rest =>
    (quoted name ++ ": " ++ prettyAt depth member) :: prettyMembers depth rest
end

/-- The text of a document with a line for each item and member. -/
def pretty (document : Json) : String :=
  prettyAt 0 document

end Formula.Json
