import Formula.Value

/-!
# Bindings

A binding answers the member accesses, indices and method calls of an expression. `recording` adds a
log of the calls that are made to a binding.
-/

namespace Formula

/-- How an expression reaches into values; `σ` is the state that an answer may change. -/
structure Binding (σ H : Type) where
  getMember : Value H → String → Action σ (Value H)
  getIndex : Value H → List (Value H) → Action σ (Value H)
  invoke : Value H → String → List (Value H) → Action σ (Value H)

/-- A question that was put to a binding, with the values that it was about. -/
inductive Call (H : Type) where
  | member (target : Value H) (name : String)
  | index (target : Value H) (args : List (Value H))
  | method (target : Value H) (name : String) (args : List (Value H))

namespace Binding

variable {σ H : Type}

/-- The answer of a binding to a call. -/
def answer (binding : Binding σ H) : Call H → Action σ (Value H)
  | .member target name => binding.getMember target name
  | .index target args => binding.getIndex target args
  | .method target name args => binding.invoke target name args

/-- A binding from its answers to calls. -/
def ofAnswers (answer : Call H → Action σ (Value H)) : Binding σ H where
  getMember target name := answer (.member target name)
  getIndex target args := answer (.index target args)
  invoke target name args := answer (.method target name args)

/-- The binding that also writes each call to a log, the last one in front, before answering it. -/
def recording (binding : Binding σ H) : Binding (σ × List (Call H)) H :=
  ofAnswers fun call => ExceptT.mk fun (state, log) =>
    match (binding.answer call).run.run state with
    | (result, state) => (result, (state, call :: log))

end Binding

end Formula
