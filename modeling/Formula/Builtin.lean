import Formula.Builtin.Number
import Formula.Builtin.Sequence
import Formula.Builtin.Text
import Formula.Builtin.Time

/-!
# Built-in members

The members and methods that values have without a host. Methods are chosen by name and by the
number of arguments, and every value has `ToString`.
-/

namespace Formula.Builtin

variable {H : Type} [HostObject H]

/-- The built-in member of a value with a name. -/
def member? (v : Value H) (name : String) : Option (Value H) :=
  match v with
  | .string s => stringMember? s name
  | .sequence items => sequenceMember? items name
  | .dateTime t => dateTimeMember? t name
  | .duration d => durationMember? d name
  | _ => none

/-- The method that only values of its type have. -/
def typeMethod? (v : Value H) (name : String) (args : List (Value H)) :
    Option (Except EvalError (Value H)) :=
  match v with
  | .string s => stringMethod? s name args
  | .number n => numberMethod? n name args
  | .sequence items => sequenceMethod? items name args
  | .dateTime t => dateTimeMethod? t name args
  | .duration d => durationMethod? d name args
  | _ => none

/-- The method that every value has. -/
def commonMethod? (v : Value H) : String → List (Value H) → Option (Except EvalError (Value H))
  | "ToString", [] => some (.ok (.string v.toText))
  | _, _ => none

/-- The built-in method of a value with a name and arguments. -/
def method? (v : Value H) (name : String) (args : List (Value H)) :
    Option (Except EvalError (Value H)) :=
  typeMethod? v name args <|> commonMethod? v name args

/-- The member of a record that is not one of its keys. -/
def recordMember? (fields : List (String × Value H)) : String → Option (Value H)
  | "Count" => some (.ofNat fields.length)
  | _ => none

/-- The method of a record with a name and arguments. -/
def recordMethod? (fields : List (String × Value H)) :
    String → List (Value H) → Option (Except EvalError (Value H))
  | "ContainsKey", [key] => some (.ok (.boolean (Fields.lookup? key.toText fields).isSome))
  | "Keys", [] => some (.ok (.sequence (fields.map fun field => .string field.1)))
  | _, _ => none

end Formula.Builtin
