import Formula.Binding.Object
import Formula.Proofs.Evaluation.Skip

/-!
# Eager evaluation

`evalEagerly` evaluates all parts of every node before it looks at their values. Evaluation leaves out
parts that it does not need, and with a binding that has no state this only spares calls: wherever
eager evaluation has a value, evaluation has it too, and the calls it makes are some of the eager ones
in the same order, `eval_of_eval_eagerly`.
-/

namespace Formula

variable {σ H α β : Type}

/-- Whether the answers of a binding are the same in every state. -/
def Binding.Stateless (binding : Binding σ H) : Prop :=
  ∀ question s s', ((binding.answer question).run.run s).1 =
    ((binding.answer question).run.run s').1

namespace Expr

section

variable [HostObject H]

mutual
/-- The value of an expression all parts of which are evaluated: both operands of `&&` and `||` like
those of any other operator, and both branches of a conditional. -/
def evalEagerly (binding : Binding σ H) (root : Value H) : Expr H → Action σ (Value H)
  | .literal value => pure value
  | .root => pure root
  | .member target name => do
    let target ← evalEagerly binding root target
    requireTarget (.member name) target
    binding.getMember target name
  | .index target args => do
    let target ← evalEagerly binding root target
    requireTarget .index target
    let args ← evalArgsEagerly binding root args
    binding.getIndex target args
  | .call target name args => do
    let target ← evalEagerly binding root target
    requireTarget (.method name) target
    let args ← evalArgsEagerly binding root args
    binding.invoke target name args
  | .unary op operand => do
    let operand ← evalEagerly binding root operand
    liftM (Value.unary op operand)
  | .binary op left right => do
    let left ← evalEagerly binding root left
    let right ← evalEagerly binding root right
    liftM (Value.binary op left right)
  | .conditional condition yes no => do
    let condition ← evalEagerly binding root condition
    let yes ← evalEagerly binding root yes
    let no ← evalEagerly binding root no
    return if condition.toBoolean then yes else no

/-- The values of arguments, from left to right. -/
def evalArgsEagerly (binding : Binding σ H) (root : Value H) :
    List (Expr H) → Action σ (List (Value H))
  | [] => pure []
  | arg :: rest => do
    let value ← evalEagerly binding root arg
    let values ← evalArgsEagerly binding root rest
    return value :: values
end

end

/-- The calls that a recording makes from a state on, from the first to the last. -/
def callsFrom (recording : Action (σ × List (Call H)) α) (s : σ) : List (Call H) :=
  (recording.run.run (s, [])).2.2.reverse

/-- `Spares eager recorded lazy` says that wherever `eager` has a value, its recording `recorded`
has it too, and so has `lazy` from every state, which makes some of the calls that are recorded. -/
def Spares (eager : Action σ α) (recorded lazy : Action (σ × List (Call H)) α) : Prop :=
  ∀ s a s₁, eager.run.run s = (.ok a, s₁) → ∃ calls,
    (∀ log, recorded.run.run (s, log) = (.ok a, (s₁, calls ++ log))) ∧
    ∀ s', ∃ s₁' fewer, (∀ log, lazy.run.run (s', log) = (.ok a, (s₁', fewer ++ log))) ∧
      fewer.Sublist calls

namespace Spares

variable {eager : Action σ α} {recorded lazy : Action (σ × List (Call H)) α}

/-- A result that does not come from the binding makes no calls. -/
theorem lift (result : Except EvalError α) :
    Spares (H := H) (liftM result : Action σ α) (liftM result) (liftM result) := by
  intro s a s₁ h
  cases result with
  | error error => exact nomatch (Prod.mk.inj h).1
  | ok value =>
      obtain ⟨⟨⟩, rfl⟩ := Prod.mk.inj h
      exact ⟨[], fun _ => rfl, fun s' => ⟨s', [], fun _ => rfl, .refl _⟩⟩

/-- A value makes no calls. -/
theorem pure (a : α) :
    Spares (H := H) (Pure.pure a : Action σ α) (Pure.pure a) (Pure.pure a) :=
  lift (.ok a)

/-- A target is refused or taken without a call. -/
theorem require (access : Access) (target : Value H) :
    Spares (H := H) (requireTarget access target : Action σ Unit) (requireTarget access target)
      (requireTarget access target) := by
  unfold requireTarget
  split
  · exact lift (.error _)
  · exact pure ()

/-- The answer of a stateless binding to a question is one call. -/
theorem answer {binding : Binding σ H} (hstateless : binding.Stateless) (question : Call H) :
    Spares (binding.answer question) (binding.recording.answer question)
      (binding.recording.answer question) := by
  intro s a s₁ h
  refine ⟨[question], fun log => ?_, fun s' => ?_⟩
  · rw [Binding.run_recording_answer, h]
    rfl
  · have hsame := hstateless question s s'
    rw [h] at hsame
    refine ⟨((binding.answer question).run.run s').2, [question], fun log => ?_, .refl _⟩
    rw [Binding.run_recording_answer, ← hsame]
    rfl

/-- Sequences spare calls if their parts do. -/
theorem bind (h : Spares eager recorded lazy) {f : α → Action σ β}
    {g k : α → Action (σ × List (Call H)) β} (hf : ∀ a, Spares (f a) (g a) (k a)) :
    Spares (eager >>= f) (recorded >>= g) (lazy >>= k) := by
  intro s b s₂ hrun
  obtain ⟨a, s₁, heager, hnext⟩ := run_bind_eq_ok.1 hrun
  obtain ⟨calls, hrecorded, hlazy⟩ := h s a s₁ heager
  obtain ⟨more, hrecordedNext, hlazyNext⟩ := hf a s₁ b s₂ hnext
  refine ⟨more ++ calls, fun log => ?_, fun s' => ?_⟩
  · rw [run_bind_of_ok (hrecorded log), hrecordedNext, List.append_assoc]
  · obtain ⟨s₁', fewer, hfirst, hsub⟩ := hlazy s'
    obtain ⟨s₂', fewer', hsecond, hsub'⟩ := hlazyNext s₁'
    refine ⟨s₂', fewer' ++ fewer, fun log => ?_, hsub'.append hsub⟩
    rw [run_bind_of_ok (hfirst log), hsecond, List.append_assoc]

/-- An access spares calls if its target does, and what it does with the target. -/
theorem bind_target {eager : Action σ (Value H)}
    {recorded lazy : Action (σ × List (Call H)) (Value H)} (h : Spares eager recorded lazy)
    {access : Access} {f : Value H → Action σ β} {g k : Value H → Action (σ × List (Call H)) β}
    (hf : ∀ target, Spares (f target) (g target) (k target)) :
    Spares (do let target ← eager; requireTarget access target; f target)
      (do let target ← recorded; requireTarget access target; g target)
      (do let target ← lazy; requireTarget access target; k target) :=
  h.bind fun target => (require access target).bind fun _ => hf target

/-- All calls of an action are spared if what comes next does not depend on its value. -/
theorem skip (h : Spares eager recorded lazy) {f : α → Action σ β}
    {g : α → Action (σ × List (Call H)) β} {other : Action (σ × List (Call H)) β}
    (hf : ∀ a, Spares (f a) (g a) other) :
    Spares (eager >>= f) (recorded >>= g) other := by
  intro s b s₂ hrun
  obtain ⟨a, s₁, heager, hnext⟩ := run_bind_eq_ok.1 hrun
  obtain ⟨calls, hrecorded, -⟩ := h s a s₁ heager
  obtain ⟨more, hrecordedNext, hother⟩ := hf a s₁ b s₂ hnext
  refine ⟨more ++ calls, fun log => ?_, fun s' => ?_⟩
  · rw [run_bind_of_ok (hrecorded log), hrecordedNext, List.append_assoc]
  · obtain ⟨s₁', fewer, hrun', hsub⟩ := hother s'
    exact ⟨s₁', fewer, hrun', hsub.trans (List.sublist_append_left _ _)⟩

end Spares

variable [HostObject H]

/-- An operator that its left operand decides has the same value for every right operand. -/
theorem binary_of_decided {op : BinaryOp} {left : Value H} (h : decidedBy op left = true)
    (right : Value H) : Value.binary op left right = .ok (.boolean left.toBoolean) := by
  cases op with
  | and =>
      have hleft : left.toBoolean = false := by simpa [decidedBy] using h
      simp [Value.binary, hleft]
  | or =>
      have hleft : left.toBoolean = true := h
      simp [Value.binary, hleft]
  | _ => simp [decidedBy] at h

section

variable {binding : Binding σ H} (root : Value H)

mutual
/-- Evaluation with a stateless binding spares calls of eager evaluation. -/
theorem spares_eval (hstateless : binding.Stateless) (e : Expr H) :
    Spares (evalEagerly binding root e) (evalEagerly binding.recording root e)
      (eval binding.recording root e) := by
  match e with
  | .literal value => exact .pure value
  | .root => exact .pure root
  | .member target name =>
      rw [evalEagerly, evalEagerly, eval]
      refine (spares_eval hstateless target).bind_target fun target => ?_
      exact .answer hstateless (.member target name)
  | .index target args =>
      rw [evalEagerly, evalEagerly, eval]
      refine (spares_eval hstateless target).bind_target fun target => ?_
      refine (spares_eval_args hstateless args).bind fun args => ?_
      exact .answer hstateless (.index target args)
  | .call target name args =>
      rw [evalEagerly, evalEagerly, eval]
      refine (spares_eval hstateless target).bind_target fun target => ?_
      refine (spares_eval_args hstateless args).bind fun args => ?_
      exact .answer hstateless (.method target name args)
  | .unary op operand =>
      rw [evalEagerly, evalEagerly, eval]
      exact (spares_eval hstateless operand).bind fun operand => .lift (Value.unary op operand)
  | .binary op left right =>
      rw [evalEagerly, evalEagerly, eval_binary]
      refine (spares_eval hstateless left).bind fun left => ?_
      have hright := spares_eval hstateless right
      split
      · -- The left operand decides, whatever the value of the right one is.
        rename_i hdecided
        refine hright.skip fun right => ?_
        rw [binary_of_decided hdecided]
        exact .lift (.ok (Value.boolean left.toBoolean))
      · exact hright.bind fun right => .lift (Value.binary op left right)
  | .conditional condition yes no =>
      rw [evalEagerly, evalEagerly, eval]
      refine (spares_eval hstateless condition).bind fun condition => ?_
      have hyes := spares_eval hstateless yes
      have hno := spares_eval hstateless no
      cases condition.toBoolean with
      | true =>
          have hchosen := hyes.bind fun yes => hno.skip fun _ => Spares.pure yes
          rwa [bind_pure] at hchosen
      | false =>
          have hchosen := hyes.skip fun _ => hno.bind Spares.pure
          rwa [bind_pure (eval binding.recording root no)] at hchosen

/-- The evaluation of arguments spares calls of their eager evaluation. -/
theorem spares_eval_args (hstateless : binding.Stateless) (args : List (Expr H)) :
    Spares (evalArgsEagerly binding root args) (evalArgsEagerly binding.recording root args)
      (evalArgs binding.recording root args) := by
  match args with
  | [] => exact .pure []
  | arg :: rest =>
      rw [evalArgsEagerly, evalArgsEagerly, evalArgs]
      refine (spares_eval hstateless arg).bind fun value => ?_
      exact (spares_eval_args hstateless rest).bind fun values => .pure (value :: values)
end

/-- With a stateless binding an expression that has a value when it is evaluated eagerly has the same
value when it is evaluated, and the calls that evaluation makes are some of the eager ones, in the same
order. -/
theorem eval_of_eval_eagerly (hstateless : binding.Stateless) (e : Expr H) {s : σ} {value : Value H}
    (h : ((evalEagerly binding root e).run.run s).1 = .ok value) :
    (outcome binding root e s).1 = .ok value ∧
      (callsFrom (eval binding.recording root e) s).Sublist
        (callsFrom (evalEagerly binding.recording root e) s) := by
  obtain ⟨calls, hrecorded, hlazy⟩ :=
    spares_eval root hstateless e s value _ (Prod.ext h rfl)
  obtain ⟨s₁, fewer, hrun, hsub⟩ := hlazy s
  refine ⟨congrArg Prod.fst (outcome_of_recording (hrun [])), ?_⟩
  rw [callsFrom, callsFrom, hrun, hrecorded, List.append_nil, List.append_nil]
  exact hsub.reverse

/-- A left operand that decides spares the calls of the right one, which has a value too. -/
theorem eval_of_eval_eagerly_decided :
    let root : Value Empty := .record none [("a", .boolean true), ("b", .record none [("c", .null)])]
    let e : Expr Empty := .binary .or (.identifier "a") (.member (.identifier "b") "c")
    ((evalEagerly Binding.object root e).run.run ()).1 = .ok (.boolean true) ∧
      (outcome Binding.object root e ()).1 = .ok (.boolean true) ∧
      (callsFrom (eval Binding.object.recording root e) ()).Sublist
        (callsFrom (evalEagerly Binding.object.recording root e) ()) := by
  intro root e
  have hstateless : (Binding.object (H := Empty)).Stateless := by
    intro question s s'
    rfl
  exact ⟨rfl, eval_of_eval_eagerly root hstateless e rfl⟩

end

end Expr

end Formula
