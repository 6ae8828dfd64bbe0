import Formula.Regex.Search
import Formula.Text.Case
import Formula.Text.Search
import Formula.Value.Operation

/-!
# Built-in members of strings

Strings count and cut by characters. Arguments are taken as texts or as 32-bit integers, whatever
their types are.
-/

namespace Formula.Builtin

variable {H : Type} [HostObject H]

/-- The member of a string with a name. -/
def stringMember? (s : String) : String → Option (Value H)
  | "Length" => some (.ofNat s.length)
  | _ => none

/-- The text of an argument as characters. -/
def argChars (arg : Value H) : List Char :=
  arg.toText.toList

/-- The characters of a text as a value. -/
def ofChars (text : List Char) : Value H :=
  .string (String.ofList text)

/-- The place of a text in another one, or minus one. A text is found at a byte, and the characters
before that byte are counted. -/
def indexOf (part text : List Char) : Int :=
  match Text.bytesBefore? part text with
  | some bytes => Text.charsWithin bytes text
  | none => -1

/-- The characters from `start` on, or `count` of them; neither may leave the text. -/
def substring (text : List Char) (start : Int) (count? : Option Int) :
    Except EvalError (List Char) :=
  let length := text.length
  if start < 0 ∨ (length : Int) < start then .error (.indexOutOfRange start length)
  else
    match count? with
    | none => .ok (text.drop start.toNat)
    | some count =>
      if count < 0 ∨ (length : Int) < start + count then
        .error (.invalidArgument (.substringLength count length))
      else .ok ((text.drop start.toNat).take count.toNat)

/-- Whether a pattern matches somewhere in a text. -/
def isMatch (pattern text : List Char) : Except EvalError Bool :=
  match Regex.isMatch? pattern text with
  | some found => .ok found
  | none => .error (.invalidArgument .malformedPattern)

/-- The method of a string with a name and arguments. -/
def stringMethod? (s : String) : String → List (Value H) → Option (Except EvalError (Value H))
  | "ToUpper", [] => some (.ok (ofChars (Text.toUpper s.toList)))
  | "ToLower", [] => some (.ok (ofChars (Text.toLower s.toList)))
  | "Trim", [] => some (.ok (ofChars (Text.trim s.toList)))
  | "Contains", [part] => some (.ok (.boolean (Text.contains (argChars part) s.toList)))
  | "StartsWith", [part] => some (.ok (.boolean ((argChars part).isPrefixOf s.toList)))
  | "EndsWith", [part] => some (.ok (.boolean ((argChars part).isSuffixOf s.toList)))
  | "IndexOf", [part] => some (.ok (.ofInt (indexOf (argChars part) s.toList)))
  | "Substring", [start] => some ((substring s.toList start.toInt32 none).map ofChars)
  | "Substring", [start, count] =>
    some ((substring s.toList start.toInt32 (some count.toInt32)).map ofChars)
  | "Replace", [old, new] =>
    let part := argChars old
    some <|
      if part.isEmpty then .error (.invalidArgument .emptySearch)
      else .ok (ofChars (Text.replace part (argChars new) s.toList))
  | "Split", [separator] =>
    some (.ok (.sequence ((Text.split (argChars separator) s.toList).map ofChars)))
  | "IsMatch", [pattern] => some ((isMatch (argChars pattern) s.toList).map .boolean)
  | _, _ => none

end Formula.Builtin
