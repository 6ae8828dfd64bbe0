import Formula.DateTime
import Formula.Error
import Formula.Fields

/-!
# Values

A value is a literal, an intermediate result or something that the host of an expression supplies.
`H` is the type of the host's own objects; what an expression can do with one is stated by the class
`HostObject`, whose defaults decline.
-/

namespace Formula

/-- A dynamically typed value. Records and host objects are shared: two of them with the same
identity are one object, and a record without an identity is shared with nothing. -/
inductive Value (H : Type) where
  | null
  | number (n : Binary64)
  | boolean (b : Bool)
  | string (s : String)
  | dateTime (t : DateTime)
  | duration (d : Duration)
  | sequence (items : List (Value H))
  | record (identity : Option Nat) (fields : List (String × Value H))
  | host (identity : Nat) (object : H)

/-- A computation that may change the state of the host and may fail. -/
abbrev Action (σ : Type) : Type → Type := ExceptT EvalError (StateM σ)

/-- What a type of host objects exposes to expressions. An answer of `none` means that the object
has no such thing. -/
class HostObject (H : Type) where
  /-- What methods may change. -/
  State : Type
  /-- The name of the object's type in messages. -/
  typeName : H → String
  /-- The text of the object. -/
  text : H → String := typeName
  /-- The entry of a key; it hides a member of the same name. -/
  lookup? : H → String → Option (Value H) := fun _ _ => none
  /-- Whether an index is the text of a key. -/
  isMapping : H → Bool := fun _ => false
  /-- The member of a name. -/
  member? : H → String → Option (Value H) := fun _ _ => none
  /-- The element at some indices. -/
  index? : H → List (Value H) → Option (Action State (Value H)) := fun _ _ => none
  /-- The method of a name, applied to arguments. -/
  invoke? : H → String → List (Value H) → Option (Action State (Value H)) := fun _ _ _ => none
  /-- The order of the object beside a value. -/
  naturalOrder? : H → Value H → Option Ordering := fun _ _ => none
  /-- Whether the object is built like another one, which is a record or a host object. -/
  structuralEq : H → Value H → Bool := fun _ _ => false

/-- No host objects at all. -/
instance : HostObject Empty where
  State := Unit
  typeName := nofun

namespace Value

variable {H : Type}

instance : Inhabited (Value H) := ⟨.null⟩

/-- Whether a value is null. -/
def isNull : Value H → Bool
  | .null => true
  | _ => false

/-- The text of a string. -/
def asString? : Value H → Option String
  | .string s => some s
  | _ => none

/-- The double of a number. -/
def asNumber? : Value H → Option Binary64
  | .number n => some n
  | _ => none

/-- The items of a sequence. -/
def asSequence? : Value H → Option (List (Value H))
  | .sequence items => some items
  | _ => none

/-- A count as a number. -/
def ofNat (n : Nat) : Value H :=
  .number (.ofNat n)

/-- An integer as a number. -/
def ofInt (n : Int) : Value H :=
  .number (.ofInt n)

variable [HostObject H]

/-- The name of a value's type in messages. -/
def typeName : Value H → String
  | .null => "null"
  | .number _ => "number"
  | .boolean _ => "boolean"
  | .string _ => "string"
  | .dateTime _ => "datetime"
  | .duration _ => "duration"
  | .sequence _ => "sequence"
  | .record .. => "record"
  | .host _ object => HostObject.typeName object

end Value

end Formula
