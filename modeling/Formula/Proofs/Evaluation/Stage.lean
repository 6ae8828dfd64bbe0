import Formula.Evaluation
import Formula.Proofs.Expr.Occurrence

/-!
# Evaluation by stages

The evaluation of a node goes from stage to stage. With the values of some of its parts at hand it
goes on to another part, puts a question to the binding, or is done; `nextStage` says which. The
main theorem is `eval_eq_resume`: an evaluation is nothing but its stages. `Advances` says how far the
evaluation of a node comes, and its lemmas what follows from the stage that it comes to. Every
evaluation comes to an end (`Advances.exists_end`).
-/

namespace Formula.Expr

variable {σ H : Type}

/-- What the evaluation of a node does next. -/
inductive Stage (H : Type) where
  /-- It evaluates the part at an index. -/
  | part (index : Nat) (expr : Expr H)
  /-- It puts a question to the binding, the answer to which is the result. -/
  | ask (question : Call H)
  /-- It has a result. -/
  | done (result : Except EvalError (Value H))

/-- Whether an operator needs no right operand beside the value of its left one. -/
def decidedBy (op : BinaryOp) (left : Value H) : Bool :=
  match op with
  | .and => !left.toBoolean
  | .or => left.toBoolean
  | _ => false

/-- The stage of an access whose target has a value: null is refused, and the question is put with
the values of all arguments. -/
def accessStage (access : Access) (target : Value H) (args : List (Expr H)) (values : List (Value H))
    (question : Call H) : Stage H :=
  if target.isNull then .done (.error (.nullReference access))
  else
    match args[values.length]? with
    | some arg => .part (values.length + 1) arg
    | none => .ask question

section

variable [HostObject H]

/-- The stage of a node with the values of the parts that were evaluated. -/
def nextStage (root : Value H) : Expr H → List (Value H) → Stage H
  | .literal value, _ => .done (.ok value)
  | .root, _ => .done (.ok root)
  | .member target _, [] | .index target _, [] | .call target _ _, [] => .part 0 target
  | .member _ name, target :: values =>
    accessStage (.member name) target [] values (.member target name)
  | .index _ args, target :: values =>
    accessStage .index target args values (.index target values)
  | .call _ name args, target :: values =>
    accessStage (.method name) target args values (.method target name values)
  | .unary _ operand, [] => .part 0 operand
  | .unary op _, value :: _ => .done (Value.unary op value)
  | .binary _ left _, [] => .part 0 left
  | .binary op _ right, [left] =>
    if decidedBy op left then .done (.ok (.boolean left.toBoolean)) else .part 1 right
  | .binary op _ _, left :: right :: _ => .done (Value.binary op left right)
  | .conditional condition _ _, [] => .part 0 condition
  | .conditional _ yes no, [condition] =>
    if condition.toBoolean then .part 1 yes else .part 2 no
  | .conditional _ _ _, _ :: value :: _ => .done (.ok value)

variable (binding : Binding σ H) (root : Value H)

/-- The evaluation of a node from the values of some parts on, with at most `fuel` stages; after
them it has the outcome `stuck`. -/
def resume (stuck : Action σ (Value H)) (e : Expr H) : Nat → List (Value H) → Action σ (Value H)
  | 0, _ => stuck
  | fuel + 1, values =>
    match nextStage root e values with
    | .part _ part => do
      let value ← eval binding root part
      resume stuck e fuel (values ++ [value])
    | .ask question => binding.answer question
    | .done result => liftM result

variable {binding root} {stuck : Action σ (Value H)} {e part : Expr H} {values : List (Value H)}

/-- A stage that evaluates a part goes on with its value. -/
theorem resume_part {i : Nat} (h : nextStage root e values = .part i part) (fuel : Nat) :
    resume binding root stuck e (fuel + 1) values = (do
      let value ← eval binding root part
      resume binding root stuck e fuel (values ++ [value])) := by
  rw [resume, h]

/-- A stage that puts a question ends with the answer. -/
theorem resume_ask {question : Call H} (h : nextStage root e values = .ask question) (fuel : Nat) :
    resume binding root stuck e (fuel + 1) values = binding.answer question := by
  rw [resume, h]

/-- A stage that is done ends with its result. -/
theorem resume_done {result : Except EvalError (Value H)}
    (h : nextStage root e values = .done result) (fuel : Nat) :
    resume binding root stuck e (fuel + 1) values = liftM result := by
  rw [resume, h]

/-- An access goes through its arguments. -/
theorem resume_args (binding : Binding σ H) (root : Value H) (stuck : Action σ (Value H)) {e : Expr H}
    {access : Access} {target : Value H} {args : List (Expr H)}
    (ask : List (Value H) → Call H)
    (hstage : ∀ values, nextStage root e (target :: values) =
      accessStage access target args values (ask values))
    (htarget : target.isNull = false) {fuel : Nat} (values : List (Value H))
    (hfuel : args.length - values.length < fuel) :
    resume binding root stuck e fuel (target :: values) = (do
      let more ← evalArgs binding root (args.drop values.length)
      binding.answer (ask (values ++ more))) := by
  induction fuel generalizing values with
  | zero => exact absurd hfuel (Nat.not_lt_zero _)
  | succ fuel ih =>
      have hnext := hstage values
      rw [accessStage, htarget, if_neg Bool.false_ne_true] at hnext
      cases harg : args[values.length]? with
      | none =>
          rw [harg] at hnext
          rw [resume_ask hnext, List.drop_eq_nil_of_le (List.getElem?_eq_none_iff.1 harg), evalArgs,
            pure_bind, List.append_nil]
      | some arg =>
          rw [harg] at hnext
          obtain ⟨hlength, rfl⟩ := List.getElem?_eq_some_iff.1 harg
          rw [resume_part hnext, List.drop_eq_getElem_cons hlength, evalArgs, bind_assoc]
          refine bind_congr fun value => ?_
          rw [List.cons_append, ih (values ++ [value]) (by simp; omega)]
          simp

/-- An access whose target has a value is refused, or it goes through its arguments. -/
theorem resume_access (binding : Binding σ H) (root : Value H) (stuck : Action σ (Value H))
    {e : Expr H} {access : Access} {args : List (Expr H)}
    (ask : Value H → List (Value H) → Call H)
    (hstage : ∀ target values, nextStage root e (target :: values) =
      accessStage access target args values (ask target values))
    (target : Value H) {fuel : Nat} (hfuel : args.length < fuel) :
    resume binding root stuck e fuel [target] = (do
      requireTarget access target
      let values ← evalArgs binding root args
      binding.answer (ask target values)) := by
  cases htarget : target.isNull with
  | true =>
      obtain ⟨fuel, rfl⟩ := Nat.exists_eq_add_one.2 (Nat.zero_lt_of_lt hfuel)
      have hnext := hstage target []
      rw [accessStage, htarget, if_pos rfl] at hnext
      rw [resume_done hnext, requireTarget, htarget]
      rfl
  | false =>
      have hargs := resume_args binding root stuck (ask target) (hstage target) htarget []
        (by simpa using hfuel)
      simpa [requireTarget, htarget] using hargs

/-- A binary operator takes the value of its left operand, and that of its right one unless the left
one decides. -/
theorem eval_binary (op : BinaryOp) (left right : Expr H) :
    eval binding root (.binary op left right) = (do
      let left ← eval binding root left
      if decidedBy op left then return .boolean left.toBoolean
      else
        let right ← eval binding root right
        liftM (Value.binary op left right)) := by
  cases op
  case and | or =>
    rw [eval]
    refine bind_congr fun left => ?_
    cases hleft : left.toBoolean <;> simp only [decidedBy, Value.binary, hleft] <;> rfl
  all_goals rfl

/-- An evaluation goes stage by stage, with no more than one stage for each part. -/
theorem eval_eq_resume (stuck : Action σ (Value H)) (e : Expr H) {fuel : Nat}
    (hfuel : e.parts.length < fuel) :
    eval binding root e = resume binding root stuck e fuel [] := by
  obtain ⟨fuel, rfl⟩ := Nat.exists_eq_add_one.2 (Nat.zero_lt_of_lt hfuel)
  have hfuel : e.parts.length ≤ fuel := Nat.le_of_lt_succ hfuel
  cases e with
  | literal | root => rfl
  | member target name =>
      rw [eval, resume_part rfl]
      refine bind_congr fun value => ?_
      have haccess := resume_access binding root stuck
        (e := .member target name) (fun value _ => .member value name) (fun _ _ => rfl) value hfuel
      simpa [evalArgs, Binding.answer] using haccess.symm
  | index target args =>
      rw [eval, resume_part rfl]
      refine bind_congr fun value => ?_
      exact (resume_access binding root stuck .index (fun _ _ => rfl) value hfuel).symm
  | call target name args =>
      rw [eval, resume_part rfl]
      refine bind_congr fun value => ?_
      exact (resume_access binding root stuck (.method · name ·) (fun _ _ => rfl) value hfuel).symm
  | unary op operand =>
      obtain ⟨fuel, rfl⟩ := Nat.exists_eq_add_one.2 hfuel
      rfl
  | binary op left right =>
      obtain ⟨fuel, rfl⟩ := Nat.exists_eq_add_of_le' (show 2 ≤ fuel from hfuel)
      rw [eval_binary, resume_part rfl]
      refine bind_congr fun value => ?_
      cases hdecided : decidedBy op value with
      | true =>
          have hnext : nextStage root (.binary op left right) [value] =
              .done (.ok (.boolean value.toBoolean)) := by simp [nextStage, hdecided]
          exact (resume_done hnext _).symm
      | false =>
          have hnext : nextStage root (.binary op left right) [value] = .part 1 right := by
            simp [nextStage, hdecided]
          rw [if_neg Bool.false_ne_true, List.nil_append, resume_part hnext]
          rfl
  | conditional condition yes no =>
      obtain ⟨fuel, rfl⟩ := Nat.exists_eq_add_of_le' (show 3 ≤ fuel from hfuel)
      rw [eval, resume_part rfl]
      refine bind_congr fun value => ?_
      cases hvalue : value.toBoolean with
      | true =>
          have hnext : nextStage root (.conditional condition yes no) [value] = .part 1 yes := by
            simp [nextStage, hvalue]
          exact ((resume_part hnext _).trans (bind_pure _)).symm
      | false =>
          have hnext : nextStage root (.conditional condition yes no) [value] = .part 2 no := by
            simp [nextStage, hvalue]
          exact ((resume_part hnext _).trans (bind_pure _)).symm

end

/-- An access goes on to an argument only if there is one, and in their order. -/
theorem access_stage_eq_part {access : Access} {target : Value H} {args : List (Expr H)}
    {values : List (Value H)} {question : Call H} {i : Nat} {part : Expr H}
    (h : accessStage access target args values question = .part i part) :
    i = values.length + 1 ∧ args[values.length]? = some part := by
  unfold accessStage at h
  split at h
  · exact nomatch h
  · split at h
    · rename_i arg harg
      obtain ⟨rfl, rfl⟩ := Stage.part.inj h
      exact ⟨rfl, harg⟩
    · exact nomatch h

section

variable [HostObject H] {root : Value H} {e part : Expr H} {values : List (Value H)} {i : Nat}

/-- The part that is evaluated is the first one without a value. Only the branches of a conditional
stand in each other's place. -/
theorem part_of_next_stage (h : nextStage root e values = .part i part) :
    e.parts[i]? = some part ∧ (i = values.length ∨
      values.length = 1 ∧ i = 2 ∧ ∃ condition yes no, e = .conditional condition yes no) := by
  cases e with
  | literal | root => exact nomatch h
  | member | index | call =>
      cases values with
      | nil =>
          obtain ⟨rfl, rfl⟩ := Stage.part.inj h
          exact ⟨rfl, .inl rfl⟩
      | cons value values =>
          simp only [nextStage] at h
          obtain ⟨rfl, harg⟩ := access_stage_eq_part h
          exact ⟨harg, .inl rfl⟩
  | unary =>
      cases values with
      | nil =>
          obtain ⟨rfl, rfl⟩ := Stage.part.inj h
          exact ⟨rfl, .inl rfl⟩
      | cons => exact nomatch h
  | binary =>
      match values with
      | [] =>
          obtain ⟨rfl, rfl⟩ := Stage.part.inj h
          exact ⟨rfl, .inl rfl⟩
      | [value] =>
          simp only [nextStage] at h
          split at h
          · exact nomatch h
          · obtain ⟨rfl, rfl⟩ := Stage.part.inj h
            exact ⟨rfl, .inl rfl⟩
      | _ :: _ :: _ => exact nomatch h
  | conditional =>
      match values with
      | [] =>
          obtain ⟨rfl, rfl⟩ := Stage.part.inj h
          exact ⟨rfl, .inl rfl⟩
      | [value] =>
          simp only [nextStage] at h
          split at h
          · obtain ⟨rfl, rfl⟩ := Stage.part.inj h
            exact ⟨rfl, .inl rfl⟩
          · obtain ⟨rfl, rfl⟩ := Stage.part.inj h
            exact ⟨rfl, .inr ⟨rfl, rfl, _, _, _, rfl⟩⟩
      | _ :: _ :: _ => exact nomatch h

/-- Parts are evaluated from left to right. -/
theorem next_index_lt {values' : List (Value H)} {j : Nat} {part' : Expr H}
    (h : nextStage root e values = .part i part) (h' : nextStage root e values' = .part j part')
    (hlength : values.length < values'.length) : i < j := by
  obtain ⟨-, hi⟩ := part_of_next_stage h
  obtain ⟨-, hj⟩ := part_of_next_stage h'
  rcases hi with rfl | ⟨hone, rfl, condition, yes, no, rfl⟩
  · omega
  · -- Both the condition and a branch have values, so the conditional is done.
    match values', hlength with
    | [_], hlength => exact absurd hlength (by simp [hone])
    | _ :: _ :: _, _ => exact nomatch h'

/-- The part that is evaluated is the one at the index. -/
theorem part_at_next_index (h : nextStage root e values = .part i part) :
    e.parts[i]? = some part :=
  (part_of_next_stage h).1

/-- No more parts have values than there are. -/
theorem length_lt_of_part (h : nextStage root e values = .part i part) :
    values.length < e.parts.length := by
  obtain ⟨hpart, hi⟩ := part_of_next_stage h
  obtain ⟨hlt, -⟩ := List.getElem?_eq_some_iff.1 hpart
  omega

end

/-- An action after a result. -/
theorem run_bind_of_ok {α β : Type} {x : Action σ α} {f : α → Action σ β} {s s' : σ} {a : α}
    (h : x.run.run s = (.ok a, s')) : (x >>= f).run.run s = (f a).run.run s' := by
  rw [ExceptT.run_bind, StateT.run_bind, h]
  rfl

/-- No action after an error. -/
theorem run_bind_of_error {α β : Type} {x : Action σ α} {f : α → Action σ β} {s s' : σ}
    {error : EvalError} (h : x.run.run s = (.error error, s')) :
    (x >>= f).run.run s = (.error error, s') := by
  rw [ExceptT.run_bind, StateT.run_bind, h]
  rfl

variable [HostObject H]

/-- The result of evaluating an expression from a state, and the state that it leaves. -/
def outcome (binding : Binding σ H) (root : Value H) (e : Expr H) (s : σ) :
    Except EvalError (Value H) × σ :=
  (eval binding root e).run.run s

/-- `Advances binding root e s values s'` says the evaluation of `e` from the state `s` comes to the
values `values` of the parts that it evaluates, in the state `s'`. -/
inductive Advances (binding : Binding σ H) (root : Value H) (e : Expr H) (s : σ) :
    List (Value H) → σ → Prop where
  | start : Advances binding root e s [] s
  | part {values i part s₁ value s₂} :
      Advances binding root e s values s₁ → nextStage root e values = .part i part →
      outcome binding root part s₁ = (.ok value, s₂) →
      Advances binding root e s (values ++ [value]) s₂

variable {binding : Binding σ H} {root : Value H} {e : Expr H} {s s₁ : σ}
  {values : List (Value H)}

/-- An evaluation that comes to some values goes on from them. -/
theorem Advances.outcome_eq (h : Advances binding root e s values s₁) (stuck : Action σ (Value H))
    (fuel : Nat) (hfuel : e.parts.length < fuel + values.length) :
    outcome binding root e s = (resume binding root stuck e fuel values).run.run s₁ := by
  induction h generalizing fuel with
  | start => rw [outcome, eval_eq_resume stuck e (show e.parts.length < fuel from hfuel)]
  | part _ hnext hvalue ih =>
      rw [List.length_append, List.length_singleton] at hfuel
      rw [ih (fuel + 1) (by omega), resume_part hnext, run_bind_of_ok hvalue]

/-- An evaluation that comes to some values goes on with the stage behind them. -/
theorem Advances.outcome_eq_resume (h : Advances binding root e s values s₁) :
    outcome binding root e s =
      (resume binding root (pure root) e (e.parts.length + 1) values).run.run s₁ :=
  h.outcome_eq (pure root) _ (by omega)

/-- An evaluation that comes to a result has it. -/
theorem Advances.outcome_of_done (h : Advances binding root e s values s₁)
    {result : Except EvalError (Value H)} (hnext : nextStage root e values = .done result) :
    outcome binding root e s = (result, s₁) := by
  rw [h.outcome_eq_resume, resume_done hnext]
  cases result <;> rfl

/-- An evaluation that comes to a question has the answer to it. -/
theorem Advances.outcome_of_ask (h : Advances binding root e s values s₁) {question : Call H}
    (hnext : nextStage root e values = .ask question) :
    outcome binding root e s = (binding.answer question).run.run s₁ := by
  rw [h.outcome_eq_resume, resume_ask hnext]

/-- An evaluation that comes to a part that fails has its error. -/
theorem Advances.outcome_of_error (h : Advances binding root e s values s₁) {i : Nat}
    {part : Expr H} (hnext : nextStage root e values = .part i part) {error : EvalError} {s₂ : σ}
    (hpart : outcome binding root part s₁ = (.error error, s₂)) :
    outcome binding root e s = (.error error, s₂) := by
  rw [h.outcome_eq_resume, resume_part hnext, run_bind_of_error hpart]

/-- With as many parts an evaluation has come to the same values and the same state. -/
theorem Advances.unique (h : Advances binding root e s values s₁) {values' : List (Value H)} {s₁' : σ}
    (h' : Advances binding root e s values' s₁') (hlength : values.length = values'.length) :
    values = values' ∧ s₁ = s₁' := by
  induction h generalizing values' s₁' with
  | start =>
      cases h' with
      | start => exact ⟨rfl, rfl⟩
      | part => exact absurd hlength (by simp)
  | part _ hnext hvalue ih =>
      cases h' with
      | start => exact absurd hlength (by simp)
      | part h' hnext' hvalue' =>
          obtain ⟨rfl, rfl⟩ := ih h' (by simpa using hlength)
          rw [hnext] at hnext'
          obtain ⟨rfl, rfl⟩ := Stage.part.inj hnext'
          rw [hvalue] at hvalue'
          obtain ⟨⟨⟩, rfl⟩ := Prod.mk.inj hvalue'
          exact ⟨rfl, rfl⟩

/-- Before an evaluation comes to more values it comes to fewer, and to a part that has a value. -/
theorem Advances.exists_before (h : Advances binding root e s values s₁) {n : Nat}
    (hn : n < values.length) :
    ∃ values' s' i part value s'', Advances binding root e s values' s' ∧ values'.length = n ∧
      nextStage root e values' = .part i part ∧ outcome binding root part s' = (.ok value, s'') := by
  induction h with
  | start => exact absurd hn (Nat.not_lt_zero n)
  | @part values i part s₁ value s₂ hadvances hnext hvalue ih =>
      rw [List.length_append, List.length_singleton] at hn
      rcases Nat.lt_succ_iff_lt_or_eq.1 hn with hlt | rfl
      · exact ih hlt
      · exact ⟨values, s₁, i, part, value, s₂, hadvances, rfl, hnext, hvalue⟩

/-- The stage at which the evaluation of a node ends: it has a result, it puts a question to the
binding, or it evaluates a part that fails. -/
inductive Ends (binding : Binding σ H) (root : Value H) (e : Expr H) (values : List (Value H))
    (s : σ) : Prop where
  | done {result} : nextStage root e values = .done result → Ends binding root e values s
  | ask {question} : nextStage root e values = .ask question → Ends binding root e values s
  | error {i part error s'} : nextStage root e values = .part i part →
      outcome binding root part s = (.error error, s') → Ends binding root e values s

/-- Every evaluation comes to an end. -/
theorem Advances.exists_end (h : Advances binding root e s values s₁) :
    ∃ values s₁, Advances binding root e s values s₁ ∧ Ends binding root e values s₁ := by
  -- Every part that is evaluated leaves fewer parts without a value.
  induction hleft : e.parts.length - values.length generalizing values s₁ with
  | zero =>
      cases hnext : nextStage root e values with
      | part i part =>
          have hlength := length_lt_of_part hnext
          omega
      | ask => exact ⟨values, s₁, h, .ask hnext⟩
      | done => exact ⟨values, s₁, h, .done hnext⟩
  | succ left ih =>
      cases hnext : nextStage root e values with
      | part i part =>
          rcases hpart : outcome binding root part s₁ with ⟨error | value, s₂⟩
          · exact ⟨values, s₁, h, .error hnext hpart⟩
          · refine ih (h.part hnext hpart) ?_
            rw [List.length_append, List.length_singleton]
            omega
      | ask => exact ⟨values, s₁, h, .ask hnext⟩
      | done => exact ⟨values, s₁, h, .done hnext⟩

/-- No evaluation goes on behind its end. -/
theorem Advances.length_le_of_ends (h : Advances binding root e s values s₁)
    (hends : Ends binding root e values s₁) {values' : List (Value H)} {s₁' : σ}
    (h' : Advances binding root e s values' s₁') : values'.length ≤ values.length := by
  by_contra hlt
  obtain ⟨values₀, s₀, i, part, value, s₂, h₀, hlength, hnext, hvalue⟩ :=
    h'.exists_before (Nat.lt_of_not_le hlt)
  obtain ⟨rfl, rfl⟩ := h₀.unique h hlength
  cases hends with
  | done hdone => exact nomatch hnext.symm.trans hdone
  | ask hask => exact nomatch hnext.symm.trans hask
  | error hnext' herror =>
      obtain ⟨rfl, rfl⟩ := Stage.part.inj (hnext.symm.trans hnext')
      exact nomatch (Prod.mk.inj (hvalue.symm.trans herror)).1

end Formula.Expr
