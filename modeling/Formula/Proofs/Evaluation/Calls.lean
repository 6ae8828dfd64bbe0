import Formula.Proofs.Evaluation.Reach

/-!
# The calls of an evaluation

An evaluation has exchanges with a binding: it puts the questions of accesses, each about values that
were found before, and goes on with the answers. `exists_transcript` says which exchanges these are.
The evaluation of a part has its exchanges between those of the parts before and behind it, so the
transcript of a node is made of those of its parts (`Advances.exists_exchanges`).
-/

namespace Formula

variable {σ H : Type}

/-- A question that was put to a binding: the path to the access that put it, the state before it, and
the answer. -/
structure Exchange (σ H : Type) where
  path : Expr.Path
  question : Call H
  before : σ
  answer : Except EvalError (Value H)

namespace Exchange

/-- The exchange as one of a node that has the expression as a part. -/
def within (exchange : Exchange σ H) (i : Nat) : Exchange σ H :=
  { exchange with path := i :: exchange.path }

/-- The paths of the exchanges of a part. -/
theorem map_path_within (exchanges : List (Exchange σ H)) (i : Nat) :
    (exchanges.map (within · i)).map path = (exchanges.map path).map (i :: ·) := by
  simp [within, Function.comp_def]

/-- The questions of the exchanges of a part. -/
theorem map_question_within (exchanges : List (Exchange σ H)) (i : Nat) :
    (exchanges.map (within · i)).map question = exchanges.map question := by
  simp [within, Function.comp_def]

end Exchange

/-- A recording binding answers as the binding does, and writes the question in front of its log. -/
theorem Binding.run_recording_answer (binding : Binding σ H) (question : Call H) (s : σ)
    (log : List (Call H)) :
    (binding.recording.answer question).run.run (s, log) =
      (((binding.answer question).run.run s).1,
        ((binding.answer question).run.run s).2, question :: log) := by
  cases question <;> rfl

namespace Expr

variable [HostObject H] {binding : Binding σ H} {root : Value H} {e : Expr H} {s s₁ : σ}
  {values : List (Value H)} {exchanges : List (Exchange σ H)}

/-- The evaluation of an expression has an exchange: it reaches the access at the path, which puts the
question, and the answer is that of the binding. -/
def Makes (binding : Binding σ H) (root : Value H) (e : Expr H) (s : σ)
    (exchange : Exchange σ H) : Prop :=
  ∃ node s₀, Reaches binding root e s exchange.path node s₀ ∧
    Puts binding root node s₀ exchange.question exchange.before ∧
    ((binding.answer exchange.question).run.run exchange.before).1 = exchange.answer

/-- The exchanges that the evaluation of an expression has with a binding, from the first to the
last. -/
structure Transcript (binding : Binding σ H) (root : Value H) (e : Expr H) (s : σ)
    (exchanges : List (Exchange σ H)) : Prop where
  /-- They are all that a recording of the evaluation has. -/
  recorded : ∀ log, outcome binding.recording root e (s, log) =
    ((outcome binding root e s).1, (outcome binding root e s).2,
      (exchanges.map Exchange.question).reverse ++ log)
  /-- Their accesses are in post-order. -/
  ordered : (exchanges.map Exchange.path).Sublist e.accessPaths
  made : ∀ exchange ∈ exchanges, Makes binding root e s exchange
  /-- An error is the last answer, and the result. -/
  failed : ∀ exchange ∈ exchanges, ∀ error, exchange.answer = .error error →
    exchanges.getLast? = some exchange ∧ (outcome binding root e s).1 = .error error

/-- The exchanges that the evaluation of a node has before it comes to some values. -/
structure Advances.Exchanges (binding : Binding σ H) (root : Value H) (e : Expr H) (s : σ)
    (values : List (Value H)) (s₁ : σ) (exchanges : List (Exchange σ H)) : Prop where
  recorded : ∀ log, Advances binding.recording root e (s, log) values
    (s₁, (exchanges.map Exchange.question).reverse ++ log)
  /-- Their accesses are in parts before the one that is evaluated next. -/
  ordered : ∃ n, (∀ i part, nextStage root e values = .part i part → n ≤ i) ∧
    (exchanges.map Exchange.path).Sublist (accessPathsFrom 0 (e.parts.take n))
  made : ∀ exchange ∈ exchanges, Makes binding root e s exchange
  answered : ∀ exchange ∈ exchanges, ∃ value, exchange.answer = .ok value

/-- An exchange of a part is one of the node. -/
theorem Makes.within {exchange : Exchange σ H} {i : Nat} {sub : Expr H}
    (h : Makes binding root sub s₁ exchange) (hadvances : Advances binding root e s values s₁)
    (hnext : nextStage root e values = .part i sub) :
    Makes binding root e s (exchange.within i) := by
  obtain ⟨node, s₀, hreaches, hputs, hanswer⟩ := h
  exact ⟨node, s₀, .part hadvances hnext hreaches, hputs, hanswer⟩

/-- Every answer is a value if the expression has one. -/
theorem Transcript.succeeded (h : Transcript binding root e s exchanges) {value : Value H}
    (hvalue : (outcome binding root e s).1 = .ok value) {exchange : Exchange σ H}
    (hmem : exchange ∈ exchanges) : ∃ answer, exchange.answer = .ok answer := by
  cases hanswer : exchange.answer with
  | ok answer => exact ⟨answer, rfl⟩
  | error error =>
      have herror := (h.failed exchange hmem error hanswer).2
      rw [hvalue] at herror
      exact nomatch herror

section

variable {i : Nat} {sub : Expr H} {more : List (Exchange σ H)}

/-- The exchanges of a part are behind those before it. -/
theorem Advances.Exchanges.made_append (h : Advances.Exchanges binding root e s values s₁ exchanges)
    (hadvances : Advances binding root e s values s₁) (hnext : nextStage root e values = .part i sub)
    (hsub : Transcript binding root sub s₁ more) :
    ∀ exchange ∈ exchanges ++ more.map (·.within i), Makes binding root e s exchange := by
  intro exchange hmem
  rcases List.mem_append.1 hmem with hmem | hmem
  · exact h.made exchange hmem
  · obtain ⟨inner, hinner, rfl⟩ := List.mem_map.1 hmem
    exact (hsub.made inner hinner).within hadvances hnext

/-- The accesses of a part come behind those before it. -/
theorem Advances.Exchanges.ordered_append
    (h : Advances.Exchanges binding root e s values s₁ exchanges)
    (hnext : nextStage root e values = .part i sub) (hsub : Transcript binding root sub s₁ more) :
    ((exchanges ++ more.map (·.within i)).map Exchange.path).Sublist
      (accessPathsFrom 0 (e.parts.take (i + 1))) := by
  obtain ⟨n, hn, hordered⟩ := h.ordered
  rw [List.map_append, Exchange.map_path_within]
  exact sublist_access_paths_from (hn i sub hnext) (part_at_next_index hnext) hordered
    hsub.ordered

/-- A recording of a part goes on with the log. -/
theorem Transcript.recorded_append (hsub : Transcript binding root sub s₁ more)
    (exchanges : List (Exchange σ H)) (i : Nat) (log : List (Call H)) :
    outcome binding.recording root sub (s₁, (exchanges.map Exchange.question).reverse ++ log) =
      ((outcome binding root sub s₁).1, (outcome binding root sub s₁).2,
        ((exchanges ++ more.map (·.within i)).map Exchange.question).reverse ++ log) := by
  rw [hsub.recorded, List.map_append, Exchange.map_question_within, List.reverse_append,
    List.append_assoc]

/-- With a part that has a value come its exchanges. -/
theorem Advances.Exchanges.part (h : Advances.Exchanges binding root e s values s₁ exchanges)
    (hadvances : Advances binding root e s values s₁) (hnext : nextStage root e values = .part i sub)
    {value : Value H} {s₂ : σ} (hvalue : outcome binding root sub s₁ = (.ok value, s₂))
    (hsub : Transcript binding root sub s₁ more) :
    Advances.Exchanges binding root e s (values ++ [value]) s₂
      (exchanges ++ more.map (·.within i)) where
  recorded log := by
    refine (h.recorded log).part hnext ?_
    rw [hsub.recorded_append, hvalue]
  ordered := ⟨i + 1, fun _ _ hnext' => next_index_lt hnext hnext' (by simp),
    h.ordered_append hnext hsub⟩
  made := h.made_append hadvances hnext hsub
  answered := by
    intro exchange hmem
    rcases List.mem_append.1 hmem with hmem | hmem
    · exact h.answered exchange hmem
    · obtain ⟨inner, hinner, rfl⟩ := List.mem_map.1 hmem
      obtain ⟨answer, hanswer⟩ := hsub.succeeded (congrArg Prod.fst hvalue) hinner
      exact ⟨answer, hanswer⟩

/-- With a part that fails end the exchanges. -/
theorem Advances.Exchanges.error (h : Advances.Exchanges binding root e s values s₁ exchanges)
    (hadvances : Advances binding root e s values s₁) (hnext : nextStage root e values = .part i sub)
    {error : EvalError} {s₂ : σ} (herror : outcome binding root sub s₁ = (.error error, s₂))
    (hsub : Transcript binding root sub s₁ more) :
    Transcript binding root e s (exchanges ++ more.map (·.within i)) where
  recorded log := by
    have hrecorded := hsub.recorded_append exchanges i log
    rw [herror] at hrecorded
    rw [(h.recorded log).outcome_of_error hnext hrecorded, hadvances.outcome_of_error hnext herror]
  ordered :=
    (h.ordered_append hnext hsub).trans (access_paths_take_sublist e (i + 1))
  made := h.made_append hadvances hnext hsub
  failed := by
    intro exchange hmem error' hanswer
    rcases List.mem_append.1 hmem with hmem | hmem
    · obtain ⟨value, hvalue⟩ := h.answered exchange hmem
      rw [hvalue] at hanswer
      exact nomatch hanswer
    · obtain ⟨inner, hinner, rfl⟩ := List.mem_map.1 hmem
      obtain ⟨hlast, hresult⟩ := hsub.failed inner hinner error' hanswer
      rw [herror] at hresult
      obtain ⟨⟩ := hresult
      rw [hadvances.outcome_of_error hnext herror]
      exact ⟨by simp [List.getLast?_append, hlast], rfl⟩

end

/-- With a result end the exchanges. -/
theorem Advances.Exchanges.done (h : Advances.Exchanges binding root e s values s₁ exchanges)
    (hadvances : Advances binding root e s values s₁) {result : Except EvalError (Value H)}
    (hnext : nextStage root e values = .done result) :
    Transcript binding root e s exchanges where
  recorded log := by
    rw [(h.recorded log).outcome_of_done hnext, hadvances.outcome_of_done hnext]
  ordered := by
    obtain ⟨n, -, hordered⟩ := h.ordered
    exact hordered.trans (access_paths_take_sublist e n)
  made := h.made
  failed := by
    intro exchange hmem error hanswer
    obtain ⟨value, hvalue⟩ := h.answered exchange hmem
    rw [hvalue] at hanswer
    exact nomatch hanswer

/-- With a question end the exchanges. -/
theorem Advances.Exchanges.ask (h : Advances.Exchanges binding root e s values s₁ exchanges)
    (hadvances : Advances binding root e s values s₁) {question : Call H}
    (hnext : nextStage root e values = .ask question) :
    Transcript binding root e s (exchanges ++
      [⟨[], question, s₁, ((binding.answer question).run.run s₁).1⟩]) where
  recorded log := by
    rw [(h.recorded log).outcome_of_ask hnext, hadvances.outcome_of_ask hnext,
      Binding.run_recording_answer]
    simp
  ordered := by
    obtain ⟨n, -, hordered⟩ := h.ordered
    obtain ⟨haccess, -⟩ := hadvances.puts hnext
    rw [access_paths_eq, haccess, if_pos rfl, List.map_append]
    exact (hordered.trans (access_paths_from_take_sublist 0 e.parts n)).append (.refl _)
  made := by
    intro exchange hmem
    rcases List.mem_append.1 hmem with hmem | hmem
    · exact h.made exchange hmem
    · obtain rfl := List.mem_singleton.1 hmem
      obtain ⟨-, hputs⟩ := hadvances.puts hnext
      exact ⟨e, s, .here, hputs, rfl⟩
  failed := by
    intro exchange hmem error hanswer
    rcases List.mem_append.1 hmem with hmem | hmem
    · obtain ⟨value, hvalue⟩ := h.answered exchange hmem
      rw [hvalue] at hanswer
      exact nomatch hanswer
    · obtain rfl := List.mem_singleton.1 hmem
      rw [hadvances.outcome_of_ask hnext]
      exact ⟨List.getLast?_concat, hanswer⟩

/-- What an evaluation comes to, it comes to with exchanges, if its parts have transcripts. -/
theorem Advances.exists_exchanges (h : Advances binding root e s values s₁)
    (hparts : ∀ sub ∈ e.parts, ∀ s, ∃ exchanges, Transcript binding root sub s exchanges) :
    ∃ exchanges, Advances.Exchanges binding root e s values s₁ exchanges := by
  induction h with
  | start =>
      refine ⟨[], fun log => .start, ⟨0, fun _ _ _ => Nat.zero_le _, List.nil_sublist _⟩, ?_, ?_⟩
      all_goals exact fun _ hmem => nomatch hmem
  | part hadvances hnext hvalue ih =>
      obtain ⟨exchanges, hexchanges⟩ := ih
      obtain ⟨more, hmore⟩ :=
        hparts _ (List.mem_of_getElem? (part_at_next_index hnext)) _
      exact ⟨_, hexchanges.part hadvances hnext hvalue hmore⟩

/-- Every evaluation has a transcript. -/
theorem exists_transcript (binding : Binding σ H) (root : Value H) (e : Expr H) (s : σ) :
    ∃ exchanges, Transcript binding root e s exchanges := by
  induction e using parts_induction generalizing s with
  | node e ih =>
      obtain ⟨values, s₁, hadvances, hend⟩ :=
        Advances.exists_end (.start : Advances binding root e s [] s)
      obtain ⟨exchanges, hexchanges⟩ := hadvances.exists_exchanges ih
      cases hend with
      | done hnext => exact ⟨_, hexchanges.done hadvances hnext⟩
      | ask hnext => exact ⟨_, hexchanges.ask hadvances hnext⟩
      | error hnext herror =>
          obtain ⟨more, hmore⟩ := ih _ (List.mem_of_getElem? (part_at_next_index hnext)) _
          exact ⟨_, hexchanges.error hadvances hnext herror hmore⟩

/-- An evaluation puts its questions in post-order, those of an access at most once: about a target
that has a value and is not null, and about the values of all arguments. An error is the last answer,
and the result; with a value, every answer is one. -/
theorem exists_transcript_in_post_order (binding : Binding σ H) (root : Value H) (e : Expr H)
    (s : σ) :
    ∃ exchanges, Transcript binding root e s exchanges ∧ (exchanges.map Exchange.path).Nodup ∧
      ∀ value, (outcome binding root e s).1 = .ok value →
        ∀ exchange ∈ exchanges, ∃ answer, exchange.answer = .ok answer := by
  obtain ⟨exchanges, h⟩ := exists_transcript binding root e s
  refine ⟨exchanges, h, (nodup_access_paths e).sublist h.ordered, ?_⟩
  intro value hvalue exchange hmem
  exact h.succeeded hvalue hmem

end Expr

end Formula
