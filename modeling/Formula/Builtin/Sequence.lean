import Formula.Value.Operation

/-!
# Built-in members of sequences

Items are searched by the equality of the language.
-/

namespace Formula.Builtin

variable {H : Type} [HostObject H]

/-- The member of a sequence with a name. -/
def sequenceMember? (items : List (Value H)) : String → Option (Value H)
  | "Count" | "Length" => some (.ofNat items.length)
  | _ => none

/-- The place of the first item that equals a value, or minus one. -/
def indexOfItem (items : List (Value H)) (item : Value H) : Int :=
  match items.findIdx? fun other => other.looseEq item with
  | some index => index
  | none => -1

/-- The method of a sequence with a name and arguments. -/
def sequenceMethod? (items : List (Value H)) :
    String → List (Value H) → Option (Except EvalError (Value H))
  | "Contains", [item] => some (.ok (.boolean (items.any fun other => other.looseEq item)))
  | "IndexOf", [item] => some (.ok (.ofInt (indexOfItem items item)))
  | _, _ => none

end Formula.Builtin
