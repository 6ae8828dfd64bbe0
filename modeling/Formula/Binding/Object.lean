import Formula.Binding
import Formula.Builtin

/-!
# The object binding

The binding that asks host objects first and falls back on the built-in members. A key of a record
hides its members; an index of a sequence or a string is a number.
-/

namespace Formula.Binding

variable {H : Type} [HostObject H]

/-- An index of a sequence or a string; text that is no number is refused. -/
def indexArg (index : Value H) : Except EvalError Int :=
  if index.toNumber.isNaN then
    .error (.invalidArgument (.indexNotNumber (index.toLiteral?.getD index.typeName)))
  else .ok index.toInt32

/-- The item at an index. -/
def itemAt {α : Type} (items : List α) (index : Int) : Except EvalError α :=
  match (if index < 0 then none else items[index.toNat]?) with
  | some item => .ok item
  | none => .error (.indexOutOfRange index items.length)

/-- The member of a value, without an error for its absence. -/
def objectMember? (v : Value H) (name : String) : Option (Value H) :=
  match v with
  | .record _ fields => Fields.lookup? name fields <|> Builtin.recordMember? fields name
  | .host _ object => HostObject.lookup? object name <|> HostObject.member? object name
  | other => Builtin.member? other name

/-- The member of a value. -/
def objectMember (v : Value H) (name : String) : Except EvalError (Value H) :=
  if v.isNull then .error (.nullReference (.member name))
  else
    match objectMember? v name with
    | some value => .ok value
    | none => .error (.unknownMember v.typeName name)

/-- The entry of a mapping. -/
def entryAt (lookup? : String → Option (Value H)) (key : String) : Except EvalError (Value H) :=
  match lookup? key with
  | some value => .ok value
  | none => .error (.keyNotFound key)

/-- The element of a value at some indices. -/
def objectIndex (v : Value H) (args : List (Value H)) : Action (HostObject.State H) (Value H) :=
  match v, args with
  | .null, _ => throw (.nullReference .index)
  | .sequence items, [index] => liftM do itemAt items (← indexArg index)
  | .string s, [index] => liftM do
    let c ← itemAt s.toList (← indexArg index)
    return .string (String.ofList [c])
  | .record _ fields, [key] => liftM (entryAt (Fields.lookup? · fields) key.toText)
  | .host _ object, args =>
    match HostObject.isMapping object, args with
    | true, [key] => liftM (entryAt (HostObject.lookup? object) key.toText)
    | _, _ => (HostObject.index? object args).getD (throw (.noIndexer v.typeName))
  | _, _ => throw (.noIndexer v.typeName)

/-- The method of a value, without an error for its absence. -/
def objectMethod? (v : Value H) (name : String) (args : List (Value H)) :
    Option (Action (HostObject.State H) (Value H)) :=
  match v with
  | .record _ fields =>
    (Builtin.recordMethod? fields name args <|> Builtin.method? v name args).map liftM
  | .host _ object =>
    HostObject.invoke? object name args <|> (Builtin.method? v name args).map liftM
  | _ => (Builtin.method? v name args).map liftM

/-- The result of a method of a value. -/
def objectInvoke (v : Value H) (name : String) (args : List (Value H)) :
    Action (HostObject.State H) (Value H) :=
  if v.isNull then throw (.nullReference (.method name))
  else (objectMethod? v name args).getD (throw (.unknownMethod v.typeName name args.length))

/-- The default binding. -/
def object : Binding (HostObject.State H) H where
  getMember v name := liftM (objectMember v name)
  getIndex := objectIndex
  invoke := objectInvoke

end Formula.Binding
