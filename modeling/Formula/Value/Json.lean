import Formula.Json
import Formula.Record
import Formula.Value.Text

/-!
# Values and JSON documents

Objects become records and records objects. What JSON lacks is written as its text, and a number
that is not finite as null; an integral number is written as an integer as long as doubles hold
every integer of its size.
-/

namespace Formula

/-- A number as a document. -/
def Json.ofNumber (n : Binary64) : Json :=
  if n.isIntegral && n.units.natAbs < twoPow 53 * Binary64.unitsPerOne then .integer n.toInt64
  else (Json.ofBinary64? n).getD .null

namespace Value

variable {H : Type}

mutual
/-- The value of a document. -/
def ofJson : Json → Value H
  | .null => .null
  | .boolean b => .boolean b
  | .integer n => .number (.ofInt n)
  | .real x _ => .number x
  | .string s => .string s
  | .array items => .sequence (ofJsonItems items)
  | .object members => (Record.ofEntries (ofJsonMembers members)).toValue none

/-- The values of items. -/
def ofJsonItems : List Json → List (Value H)
  | [] => []
  | item :: rest => ofJson item :: ofJsonItems rest

/-- The values of members. -/
def ofJsonMembers : List (String × Json) → List (String × Value H)
  | [] => []
  | (name, member) :: rest => (name, ofJson member) :: ofJsonMembers rest
end

variable [HostObject H]

mutual
/-- The document of a value. -/
def toJson : Value H → Json
  | .null => .null
  | .boolean b => .boolean b
  | .number n => Json.ofNumber n
  | .string s => .string s
  | .dateTime t => .string t.toText
  | .duration d => .string d.toText
  | .sequence items => .array (toJsonItems items)
  | .record _ fields => Json.ofMembers (toJsonFields fields)
  | .host _ object => .string (HostObject.text object)

/-- The documents of items. -/
def toJsonItems : List (Value H) → List Json
  | [] => []
  | item :: rest => item.toJson :: toJsonItems rest

/-- The documents of fields. -/
def toJsonFields : List (String × Value H) → List (String × Json)
  | [] => []
  | (key, value) :: rest => (key, value.toJson) :: toJsonFields rest
end

end Value

end Formula
