import Formula.Proofs.Evaluation.Stage

/-!
# What an evaluation reaches

`Reaches` says that an evaluation comes to the subexpression at a path, and in
which state. `Puts` says what an access asks the binding, which by `Advances.puts` is what its
evaluation comes to.
-/

namespace Formula.Expr

variable {σ H : Type} [HostObject H]

/-- `Reaches binding root e s path sub s'` says that evaluating `e` from the state `s` comes to
evaluate the subexpression `sub` at `path`, from the state `s'`. -/
inductive Reaches (binding : Binding σ H) (root : Value H) :
    Expr H → σ → Path → Expr H → σ → Prop where
  | here {e s} : Reaches binding root e s [] e s
  | part {e s values s₁ i part path sub s₂} :
      Advances binding root e s values s₁ → nextStage root e values = .part i part →
      Reaches binding root part s₁ path sub s₂ → Reaches binding root e s (i :: path) sub s₂

/-- `Puts binding root e s question s'` says that evaluating the access `e` from the state `s` puts a
question in the state `s'`: its target has a value, which is not null, and so has each argument. -/
inductive Puts (binding : Binding σ H) (root : Value H) : Expr H → σ → Call H → σ → Prop where
  | member {target name s value s'} :
      outcome binding root target s = (.ok value, s') → value.isNull = false →
      Puts binding root (.member target name) s (.member value name) s'
  | index {target args s value s₁ values s'} :
      outcome binding root target s = (.ok value, s₁) → value.isNull = false →
      (evalArgs binding root args).run.run s₁ = (.ok values, s') →
      Puts binding root (.index target args) s (.index value values) s'
  | method {target name args s value s₁ values s'} :
      outcome binding root target s = (.ok value, s₁) → value.isNull = false →
      (evalArgs binding root args).run.run s₁ = (.ok values, s') →
      Puts binding root (.call target name args) s (.method value name values) s'

variable {binding : Binding σ H} {root : Value H} {e : Expr H} {s s₁ : σ}
  {values : List (Value H)}

/-- The subexpression that an evaluation reaches is the one at the path. -/
theorem Reaches.at_path {path : Path} {sub : Expr H} {s' : σ}
    (h : Reaches binding root e s path sub s') : e.at? path = some sub := by
  induction h with
  | here => rfl
  | part _ hnext _ ih => rw [at?, part_at_next_index hnext, Option.bind_some, ih]

/-- A subexpression that is reached and fails makes the expression fail. -/
theorem Reaches.outcome_of_error {path : Path} {sub : Expr H} {s' s₂ : σ} {error : EvalError}
    (h : Reaches binding root e s path sub s')
    (hsub : outcome binding root sub s' = (.error error, s₂)) :
    outcome binding root e s = (.error error, s₂) := by
  induction h with
  | here => exact hsub
  | part hadvances hnext _ ih => exact hadvances.outcome_of_error hnext (ih hsub)

omit [HostObject H] in
/-- An action that goes on with a result has one if both actions have. -/
theorem run_bind_eq_ok {α β : Type} {x : Action σ α} {f : α → Action σ β} {b : β} {s' : σ} :
    (x >>= f).run.run s = (.ok b, s') ↔
      ∃ a s₁, x.run.run s = (.ok a, s₁) ∧ (f a).run.run s₁ = (.ok b, s') := by
  rcases hx : x.run.run s with ⟨error | a, s₁⟩
  · rw [run_bind_of_error hx]
    constructor
    · intro h
      exact nomatch (Prod.mk.inj h).1
    · intro h
      obtain ⟨a, s₁, hx', -⟩ := h
      exact nomatch (Prod.mk.inj hx').1
  · rw [run_bind_of_ok hx]
    constructor
    · intro h
      exact ⟨a, s₁, rfl, h⟩
    · intro h
      obtain ⟨a', s₁', hx', h⟩ := h
      obtain ⟨⟨⟩, rfl⟩ := Prod.mk.inj hx'
      exact h

/-- Arguments have values if the first one has and then the others. -/
theorem eval_args_cons_eq_ok {arg : Expr H} {rest : List (Expr H)} {s' : σ} :
    (evalArgs binding root (arg :: rest)).run.run s = (.ok values, s') ↔
      ∃ value s₁ others, outcome binding root arg s = (.ok value, s₁) ∧
        (evalArgs binding root rest).run.run s₁ = (.ok others, s') ∧ value :: others = values := by
  rw [evalArgs, run_bind_eq_ok]
  constructor
  · intro h
    obtain ⟨value, s₁, harg, h⟩ := h
    obtain ⟨others, s₂, hrest, h⟩ := run_bind_eq_ok.1 h
    obtain ⟨⟨⟩, rfl⟩ := Prod.mk.inj h
    exact ⟨value, s₁, others, harg, hrest, rfl⟩
  · intro h
    obtain ⟨value, s₁, others, harg, hrest, rfl⟩ := h
    exact ⟨value, s₁, harg, run_bind_eq_ok.2 ⟨others, s', hrest, rfl⟩⟩

/-- Arguments with one more behind them. -/
theorem eval_args_append_singleton {args : List (Expr H)} {arg : Expr H} {value : Value H} {s' : σ}
    (h : (evalArgs binding root args).run.run s = (.ok values, s₁))
    (harg : outcome binding root arg s₁ = (.ok value, s')) :
    (evalArgs binding root (args ++ [arg])).run.run s = (.ok (values ++ [value]), s') := by
  induction args generalizing s values with
  | nil =>
      obtain ⟨⟨⟩, rfl⟩ := Prod.mk.inj h
      exact eval_args_cons_eq_ok.2 ⟨value, s', [], harg, rfl, rfl⟩
  | cons first rest ih =>
      obtain ⟨firstValue, s₀, others, hfirst, hrest, rfl⟩ := eval_args_cons_eq_ok.1 h
      exact eval_args_cons_eq_ok.2 ⟨firstValue, s₀, others ++ [value], hfirst, ih hrest, rfl⟩

/-- The values that the evaluation of an access comes to are those of its first parts. -/
theorem Advances.eval_args (h : Advances binding root e s values s₁) (haccess : e.isAccess = true) :
    (evalArgs binding root (e.parts.take values.length)).run.run s = (.ok values, s₁) := by
  induction h with
  | start => rfl
  | part _ hnext hvalue ih =>
      obtain ⟨hpart, rfl | ⟨-, -, condition, yes, no, rfl⟩⟩ := part_of_next_stage hnext
      · rw [List.length_append, List.length_singleton, List.take_add_one, hpart]
        exact eval_args_append_singleton ih hvalue
      · exact nomatch haccess

omit [HostObject H] in
/-- An access that has all values puts its question about a target that is not null. -/
theorem access_stage_eq_ask {access : Access} {target : Value H} {args : List (Expr H)}
    {question question' : Call H} (h : accessStage access target args values question = .ask question') :
    target.isNull = false ∧ args.length ≤ values.length ∧ question' = question := by
  unfold accessStage at h
  split at h
  · exact nomatch h
  · split at h
    · exact nomatch h
    · rename_i hnull _ hargs
      exact ⟨eq_false_of_ne_true hnull, List.getElem?_eq_none_iff.1 hargs, (Stage.ask.inj h).symm⟩

/-- The question that an evaluation comes to is about the values of its target and its arguments. -/
theorem Advances.puts (h : Advances binding root e s values s₁) {question : Call H}
    (hnext : nextStage root e values = .ask question) :
    e.isAccess = true ∧ Puts binding root e s question s₁ := by
  cases e with
  | literal | root => cases hnext
  | unary => cases values <;> cases hnext
  | binary | conditional =>
      rcases values with _ | ⟨value, _ | ⟨other, values⟩⟩
      · cases hnext
      · simp only [nextStage] at hnext
        split at hnext <;> cases hnext
      · cases hnext
  | member target name | index target args | call target name args =>
      cases values with
      | nil => cases hnext
      | cons value values =>
          simp only [nextStage] at hnext
          obtain ⟨hvalue, hlength, rfl⟩ := access_stage_eq_ask hnext
          have hparts := h.eval_args rfl
          rw [parts, List.length_cons, List.take_succ_cons, List.take_of_length_le hlength] at hparts
          obtain ⟨_, s₀, _, htarget, hargs, heq⟩ := eval_args_cons_eq_ok.1 hparts
          obtain ⟨rfl, rfl⟩ := List.cons.inj heq
          first
          | exact ⟨rfl, .index htarget hvalue hargs⟩
          | exact ⟨rfl, .method htarget hvalue hargs⟩
          | obtain ⟨-, rfl⟩ := Prod.mk.inj hargs
            exact ⟨rfl, .member htarget hvalue⟩

end Formula.Expr
