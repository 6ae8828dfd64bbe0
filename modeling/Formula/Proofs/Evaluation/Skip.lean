import Formula.Proofs.Evaluation.Calls

/-!
# What an evaluation skips

A subexpression that an evaluation does not reach may be any other: neither the result nor the calls
change. Nor are there more such subexpressions than those, as `unreached_iff_replaceable` says.
`Skips` lists the reasons for which an evaluation does not reach a subexpression.
-/

namespace Formula.Expr

variable {σ H : Type}

/-- The stage of a node with another part at an index. -/
def Stage.setPart (i : Nat) (new : Expr H) : Stage H → Stage H
  | .part j sub => .part j (if i = j then new else sub)
  | stage => stage

/-- An access with another argument goes on to that one. -/
theorem access_stage_set (access : Access) (target : Value H) (args : List (Expr H)) (i : Nat)
    (new : Expr H) (values : List (Value H)) (question : Call H) :
    accessStage access target (args.set i new) values question =
      (accessStage access target args values question).setPart (i + 1) new := by
  unfold accessStage
  split
  · rfl
  · rw [List.getElem?_set]
    by_cases hi : i = values.length
    · subst hi
      cases harg : args[values.length]? with
      | none => simp [Nat.not_lt.2 (List.getElem?_eq_none_iff.1 harg), Stage.setPart]
      | some arg =>
          obtain ⟨hlength, -⟩ := List.getElem?_eq_some_iff.1 harg
          simp [hlength, Stage.setPart]
    · cases args[values.length]? <;> simp [hi, Stage.setPart]

/-- An access with another target goes on to the same arguments. -/
theorem access_stage_set_target (access : Access) (target : Value H) (args : List (Expr H))
    (new : Expr H) (values : List (Value H)) (question : Call H) :
    (accessStage access target args values question).setPart 0 new =
      accessStage access target args values question := by
  unfold accessStage
  split
  · rfl
  · cases args[values.length]? <;> simp [Stage.setPart]

variable [HostObject H]

/-- A node with another part at an index has the same stages, but with the other part. -/
theorem next_stage_set_part (root : Value H) (e : Expr H) (i : Nat) (new : Expr H)
    (values : List (Value H)) :
    nextStage root (e.setPart i new) values = (nextStage root e values).setPart i new := by
  cases e with
  | literal | root => cases values <;> rfl
  | member target name =>
      cases values with
      | nil => cases i <;> simp [setPart, nextStage, Stage.setPart]
      | cons value values =>
          cases i with
          | zero => exact (access_stage_set_target _ _ [] _ values _).symm
          | succ i => exact access_stage_set _ _ [] i new values _
  | index target args | call target name args =>
      cases values with
      | nil => cases i <;> simp [setPart, nextStage, Stage.setPart]
      | cons value values =>
          cases i with
          | zero => exact (access_stage_set_target _ _ args _ values _).symm
          | succ i => exact access_stage_set _ _ args i new values _
  | unary op operand =>
      cases values <;> cases i <;> simp [setPart, nextStage, Stage.setPart]
  | binary op left right =>
      rcases values with _ | ⟨value, _ | ⟨other, values⟩⟩
      · rcases i with _ | _ | i <;> simp [setPart, nextStage, Stage.setPart]
      · rcases i with _ | _ | i <;> simp only [setPart, nextStage] <;> split <;>
          simp [Stage.setPart]
      · rcases i with _ | _ | i <;> rfl
  | conditional condition yes no =>
      rcases values with _ | ⟨value, _ | ⟨other, values⟩⟩
      · rcases i with _ | _ | _ | i <;> simp [setPart, nextStage, Stage.setPart]
      · rcases i with _ | _ | _ | i <;> simp only [setPart, nextStage] <;> split <;>
          simp [Stage.setPart]
      · rcases i with _ | _ | _ | i <;> rfl

variable {binding : Binding σ H} {root : Value H} {e : Expr H} {s s₁ : σ}
  {values : List (Value H)} {i : Nat} {new : Expr H}

/-- Whether an evaluation reaches the subexpression at a path. -/
def Reached (binding : Binding σ H) (root : Value H) (e : Expr H) (s : σ) (path : Path) : Prop :=
  ∃ sub s', Reaches binding root e s path sub s'

/-- A node with another part comes to the same values up to that part. -/
theorem Advances.set_part (h : Advances binding root e s values s₁) {j : Nat} {part : Expr H}
    (hnext : nextStage root e values = .part j part) (hj : j ≤ i) :
    Advances binding root (e.setPart i new) s values s₁ := by
  induction h generalizing j part with
  | start => exact .start
  | @part values i₀ sub s₁ value s₂ _ hnext₀ hvalue ih =>
      have hlt : i₀ < j := next_index_lt hnext₀ hnext (by simp)
      have hnext' : nextStage root (e.setPart i new) values = .part i₀ sub := by
        rw [next_stage_set_part, hnext₀, Stage.setPart, if_neg (by omega)]
      exact (ih hnext₀ (by omega)).part hnext' hvalue

/-- A node with another part comes to the same values if that part has the same outcome. -/
theorem Advances.set_part_of_same (h : Advances binding root e s values s₁)
    (hsame : ∀ values s₁ part, Advances binding root e s values s₁ →
      nextStage root e values = .part i part →
      outcome binding root new s₁ = outcome binding root part s₁) :
    Advances binding root (e.setPart i new) s values s₁ := by
  induction h with
  | start => exact .start
  | @part values j part s₁ value s₂ hadvances hnext hvalue ih =>
      by_cases hj : i = j
      · subst hj
        have hnext' : nextStage root (e.setPart i new) values = .part i new := by
          rw [next_stage_set_part, hnext, Stage.setPart, if_pos rfl]
        exact ih.part hnext' ((hsame values s₁ part hadvances hnext).trans hvalue)
      · have hnext' : nextStage root (e.setPart i new) values = .part j part := by
          rw [next_stage_set_part, hnext, Stage.setPart, if_neg hj]
        exact ih.part hnext' hvalue

/-- A node with another part has the same outcome if that part has, wherever it is evaluated. -/
theorem outcome_set_part (hsame : ∀ values s₁ part, Advances binding root e s values s₁ →
      nextStage root e values = .part i part →
      outcome binding root new s₁ = outcome binding root part s₁) :
    outcome binding root (e.setPart i new) s = outcome binding root e s := by
  obtain ⟨values, s₁, hadvances, hends⟩ :=
    Advances.exists_end (.start : Advances binding root e s [] s)
  have hset := hadvances.set_part_of_same hsame
  have hstage := next_stage_set_part root e i new values
  cases hends with
  | done hnext =>
      rw [hnext] at hstage
      rw [hset.outcome_of_done hstage, hadvances.outcome_of_done hnext]
  | ask hnext =>
      rw [hnext] at hstage
      rw [hset.outcome_of_ask hstage, hadvances.outcome_of_ask hnext]
  | @error j part error s₂ hnext herror =>
      rw [hnext, Stage.setPart] at hstage
      rw [hadvances.outcome_of_error hnext herror]
      refine hset.outcome_of_error hstage ?_
      split
      · subst i
        rw [hsame values s₁ part hadvances hnext, herror]
      · exact herror

/-- A subexpression that is not reached may be any other. -/
theorem outcome_replace_at {path : Path} (h : ¬ Reached binding root e s path) (new : Expr H) :
    outcome binding root (e.replaceAt path new) s = outcome binding root e s := by
  induction path generalizing e s with
  | nil => exact absurd ⟨e, s, .here⟩ h
  | cons i path ih =>
      rw [replaceAt]
      cases hpart : e.parts[i]? with
      | none => rfl
      | some part =>
          refine outcome_set_part fun values s₁ part' hadvances hnext => ?_
          obtain rfl : part = part' := by
            rw [part_at_next_index hnext] at hpart
            exact (Option.some.inj hpart).symm
          refine ih fun hreached => h ?_
          obtain ⟨sub, s', hreaches⟩ := hreached
          exact ⟨sub, s', .part hadvances hnext hreaches⟩

/-- An evaluation that reaches a subexpression reaches any other in its place. -/
theorem Reaches.replace_at {path : Path} {sub : Expr H} {s' : σ}
    (h : Reaches binding root e s path sub s') (new : Expr H) :
    Reaches binding root (e.replaceAt path new) s path new s' := by
  induction h with
  | here => exact .here
  | part hadvances hnext _ ih =>
      rw [replaceAt, part_at_next_index hnext]
      refine .part (hadvances.set_part hnext (Nat.le_refl _)) ?_ ih
      rw [next_stage_set_part, hnext, Stage.setPart, if_pos rfl]

/-- A recording has the outcome of the evaluation. -/
theorem outcome_of_recording {t : σ × List (Call H)} {result : Except EvalError (Value H)}
    {t' : σ × List (Call H)} (h : outcome binding.recording root e t = (result, t')) :
    outcome binding root e t.1 = (result, t'.1) := by
  obtain ⟨exchanges, htranscript⟩ := exists_transcript binding root e t.1
  have hrecorded := htranscript.recorded t.2
  rw [h] at hrecorded
  obtain ⟨rfl, rfl⟩ := Prod.mk.inj hrecorded
  rfl

/-- What a recording reaches is reached without it. -/
theorem Reached.of_recording {t : σ × List (Call H)} {path : Path}
    (h : Reached binding.recording root e t path) : Reached binding root e t.1 path := by
  have hadvances : ∀ {e t values t₁}, Advances binding.recording root e t values t₁ →
      Advances binding root e t.1 values t₁.1 := by
    intro e t values t₁ h
    induction h with
    | start => exact .start
    | part _ hnext hvalue ih => exact ih.part hnext (outcome_of_recording hvalue)
  obtain ⟨sub, t', hreaches⟩ := h
  refine ⟨sub, t'.1, ?_⟩
  induction hreaches with
  | here => exact .here
  | part h hnext _ ih => exact .part (hadvances h) hnext ih

/-- Why an evaluation does not reach the subexpression at a path. -/
inductive Skips (binding : Binding σ H) (root : Value H) : Expr H → σ → Path → Prop where
  /-- The left operand decides. -/
  | right {op left right s value s₁ path} : outcome binding root left s = (.ok value, s₁) →
      decidedBy op value = true → Skips binding root (.binary op left right) s (1 :: path)
  /-- The condition holds, or it does not. -/
  | branch {condition yes no s value s₁ i path} : outcome binding root condition s = (.ok value, s₁) →
      i = (if value.toBoolean then 2 else 1) →
      Skips binding root (.conditional condition yes no) s (i :: path)
  /-- The target of an index is null. -/
  | indexArg {target args s value s₁ i path} : outcome binding root target s = (.ok value, s₁) →
      value.isNull = true → Skips binding root (.index target args) s ((i + 1) :: path)
  /-- The target of a call is null. -/
  | callArg {target name args s value s₁ i path} : outcome binding root target s = (.ok value, s₁) →
      value.isNull = true → Skips binding root (.call target name args) s ((i + 1) :: path)
  /-- A part before it fails. -/
  | later {e s values s₁ i part error s₂ j path} : Advances binding root e s values s₁ →
      nextStage root e values = .part i part →
      outcome binding root part s₁ = (.error error, s₂) → i < j →
      Skips binding root e s (j :: path)
  /-- It is in a part whose evaluation does not reach it. -/
  | inner {e s values s₁ i part path} : Advances binding root e s values s₁ →
      nextStage root e values = .part i part → Skips binding root part s₁ path →
      Skips binding root e s (i :: path)

/-- An evaluation that needs no part beside its first one comes to no other. -/
theorem Advances.index_eq_zero {part : Expr H} {s' : σ} (h : Advances binding root e s values s')
    (hnext : nextStage root e values = .part i part) {first : Expr H} {value : Value H}
    (hfirst : nextStage root e [] = .part 0 first)
    (hvalue : outcome binding root first s = (.ok value, s₁))
    (hdone : ∀ j sub, nextStage root e [value] ≠ .part j sub) : i = 0 := by
  have hadvances : Advances binding root e s [value] s₁ := .part .start hfirst hvalue
  rcases Nat.lt_trichotomy values.length 1 with hlt | hlength | hlt
  · obtain ⟨-, hindex⟩ := part_of_next_stage hnext
    omega
  · obtain ⟨rfl, rfl⟩ := h.unique hadvances hlength
    exact absurd hnext (hdone i part)
  · obtain ⟨values', s₀, j, sub, _, _, h', hlength, hnext', -⟩ := h.exists_before hlt
    obtain ⟨rfl, rfl⟩ := h'.unique hadvances hlength
    exact absurd hnext' (hdone j sub)

/-- A conditional comes to no branch but the one that its condition chooses. -/
theorem Advances.index_of_branch {condition yes no : Expr H} {value : Value H}
    (h : outcome binding root condition s = (.ok value, s₁)) {s' : σ} {part : Expr H}
    (h' : Advances binding root (.conditional condition yes no) s values s')
    (hnext : nextStage root (.conditional condition yes no) values = .part i part) :
    i ≠ if value.toBoolean then 2 else 1 := by
  have hfirst : Advances binding root (.conditional condition yes no) s [value] s₁ :=
    .part .start rfl h
  rcases values with _ | ⟨value, _ | ⟨other, values⟩⟩
  · obtain ⟨rfl, -⟩ := Stage.part.inj hnext
    split <;> simp
  · obtain ⟨⟨⟩, rfl⟩ := h'.unique hfirst rfl
    simp only [nextStage] at hnext
    split at hnext
    · obtain ⟨rfl, -⟩ := Stage.part.inj hnext
      simp [*]
    · obtain ⟨rfl, -⟩ := Stage.part.inj hnext
      simp [*]
  · cases hnext

/-- An evaluation with a part that fails comes to no part behind it. -/
theorem Advances.index_le_of_error {part : Expr H} {error : EvalError} {s₂ : σ}
    (h : Advances binding root e s values s₁) (hnext : nextStage root e values = .part i part)
    (herror : outcome binding root part s₁ = (.error error, s₂)) {values' : List (Value H)} {s' : σ}
    {j : Nat} {part' : Expr H} (h' : Advances binding root e s values' s')
    (hnext' : nextStage root e values' = .part j part') : j ≤ i := by
  rcases Nat.lt_or_eq_of_le (h.length_le_of_ends (.error hnext herror) h') with hlt | hlength
  · exact Nat.le_of_lt (next_index_lt hnext' hnext hlt)
  · obtain ⟨rfl, rfl⟩ := h'.unique h hlength
    obtain ⟨rfl, -⟩ := Stage.part.inj (hnext'.symm.trans hnext)
    exact Nat.le_refl j

/-- An evaluation comes to a part once. -/
theorem Advances.state_of_part {part : Expr H} (h : Advances binding root e s values s₁)
    (hnext : nextStage root e values = .part i part) {values' : List (Value H)} {s' : σ}
    {part' : Expr H} (h' : Advances binding root e s values' s')
    (hnext' : nextStage root e values' = .part i part') : part' = part ∧ s' = s₁ := by
  rcases Nat.lt_trichotomy values.length values'.length with hlt | hlength | hlt
  · exact absurd (next_index_lt hnext hnext' hlt) (Nat.lt_irrefl i)
  · obtain ⟨rfl, rfl⟩ := h.unique h' hlength
    obtain ⟨-, rfl⟩ := Stage.part.inj (hnext.symm.trans hnext')
    exact ⟨rfl, rfl⟩
  · exact absurd (next_index_lt hnext' hnext hlt) (Nat.lt_irrefl i)

/-- What is skipped is not reached. -/
theorem Skips.not_reached {path : Path} (h : Skips binding root e s path) :
    ¬ Reached binding root e s path := by
  intro hreached
  obtain ⟨sub, s', hreaches⟩ := hreached
  induction h with
  | right hleft hdecided =>
      cases hreaches with
      | part hadvances hnext _ =>
          have hzero := hadvances.index_eq_zero hnext rfl hleft (by simp [nextStage, hdecided])
          cases hzero
  | branch hcondition hindex =>
      cases hreaches with
      | part hadvances hnext _ => exact hadvances.index_of_branch hcondition hnext hindex
  | indexArg htarget hnull | callArg htarget hnull =>
      cases hreaches with
      | part hadvances hnext _ =>
          have hzero := hadvances.index_eq_zero hnext rfl htarget
            (by simp [nextStage, accessStage, hnull])
          cases hzero
  | later h hnext herror hlt =>
      cases hreaches with
      | part hadvances hnext' _ =>
          exact absurd hlt (Nat.not_lt.2 (h.index_le_of_error hnext herror hadvances hnext'))
  | inner h hnext _ ih =>
      cases hreaches with
      | part hadvances hnext' hreaches =>
          obtain ⟨rfl, rfl⟩ := h.state_of_part hnext hadvances hnext'
          exact ih hreaches

/-- The subexpressions that an evaluation does not reach, those that it skips among them, are just
those that may be any other without a change of the result, the state that is left, or the calls. -/
theorem unreached_iff_replaceable (binding : Binding σ H) (root : Value H) (e : Expr H) (s : σ)
    (path : Path) :
    (Skips binding root e s path → ¬ Reached binding root e s path) ∧
      (¬ Reached binding root e s path ↔ ∀ new,
        outcome binding root (e.replaceAt path new) s = outcome binding root e s ∧
        outcome binding.recording root (e.replaceAt path new) (s, []) =
          outcome binding.recording root e (s, [])) := by
  refine ⟨Skips.not_reached, ?_, ?_⟩
  · intro h new
    exact ⟨outcome_replace_at h new, outcome_replace_at (fun hrec => h hrec.of_recording) new⟩
  · intro hsame hreached
    obtain ⟨sub, s', hreaches⟩ := hreached
    -- Accesses to null fail, each with its own error.
    have hfails (name : String) :
        outcome binding root e s = (.error (.nullReference (.member name)), s') := by
      rw [← (hsame (.member (.literal .null) name)).1]
      exact (hreaches.replace_at _).outcome_of_error rfl
    have hsame := (hfails "a").symm.trans (hfails "b")
    simp at hsame

end Formula.Expr
