import Formula.Binary64.Text
import Formula.DateTime.Text
import Formula.Value

/-!
# The text of a value

Every value has a text, which concatenation and conversion use. Some values also have a literal,
source text that evaluates back to them.
-/

namespace Formula

/-- The text of a boolean. -/
def boolText (b : Bool) : String :=
  if b then "true" else "false"

/-- Texts with a comma and a blank between them. -/
def commaSeparated (texts : List String) : String :=
  ", ".intercalate texts

namespace Value

variable {H : Type} [HostObject H]

mutual
/-- The canonical text; that of null is empty. -/
def toText : Value H → String
  | .null => ""
  | .number n => n.toText
  | .boolean b => boolText b
  | .string s => s
  | .dateTime t => t.toText
  | .duration d => d.toText
  | .sequence items => "[" ++ commaSeparated (itemTexts items) ++ "]"
  | .record _ fields => "\x7b" ++ commaSeparated (fieldTexts fields) ++ "\x7d"
  | .host _ object => HostObject.text object

/-- The texts of items. -/
def itemTexts : List (Value H) → List String
  | [] => []
  | item :: rest => item.toText :: itemTexts rest

/-- The texts of fields, each a key and a value. -/
def fieldTexts : List (String × Value H) → List String
  | [] => []
  | (key, value) :: rest => (key ++ ": " ++ value.toText) :: fieldTexts rest
end

/-- Source text for a number. The grammar has neither signed nor infinite literals, so these are
written as operations in parentheses. -/
def numberLiteral : Binary64 → String
  | .nan => "(0 / 0)"
  | .infinite negative => if negative then "(-1 / 0)" else "(1 / 0)"
  | n => if n.isNegative then "(-" ++ n.abs.toText ++ ")" else n.toText

/-- Source text that evaluates to the value; null, booleans, numbers and strings have one. -/
def toLiteral? : Value H → Option String
  | .null => some "null"
  | .boolean b => some (boolText b)
  | .number n => some (numberLiteral n)
  | .string s => some (quoteText s)
  | _ => none

end Value

end Formula
