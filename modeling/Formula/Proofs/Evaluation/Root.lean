import Formula.Binding.Object
import Formula.Proofs.Printer.Parsed

/-!
# What an expression sees of its root

A text has no word for the root itself: in the tree that it is read as, the root is only what bare
names are members of. So roots that give the same members to the bare names of an expression are one
root to it, `evaluate_of_same_members`. Roots that the binding answers alike for are one root to
every tree that has the root only as a target, `eval_of_answers_alike`.
-/

namespace Formula.Expr

variable {H : Type}

mutual
/-- The bare names of an expression, from left to right. -/
def bareNames : Expr H → List String
  | .literal _ | .root => []
  | .member .root name => [name]
  | .member target _ => target.bareNames
  | .index target args | .call target _ args => target.bareNames ++ argsBareNames args
  | .unary _ operand => operand.bareNames
  | .binary _ left right => left.bareNames ++ right.bareNames
  | .conditional condition yes no => condition.bareNames ++ yes.bareNames ++ no.bareNames

/-- The bare names of arguments, from left to right. -/
def argsBareNames : List (Expr H) → List String
  | [] => []
  | arg :: rest => arg.bareNames ++ argsBareNames rest
end

/-- A member of anything but the root has the bare names of its target. -/
theorem bare_names_member {target : Expr H} {name : String} (h : target ≠ .root) :
    (member target name).bareNames = target.bareNames := by
  cases target with
  | root => exact absurd rfl h
  | _ => rfl

mutual
/-- Whether the root stands in an expression only as the target of accesses. -/
def HidesRoot : Expr H → Prop
  | .literal _ => True
  | .root => False
  | .member target _ => target = .root ∨ target.HidesRoot
  | .index target args | .call target _ args =>
    (target = .root ∨ target.HidesRoot) ∧ ArgsHideRoot args
  | .unary _ operand => operand.HidesRoot
  | .binary _ left right => left.HidesRoot ∧ right.HidesRoot
  | .conditional condition yes no => condition.HidesRoot ∧ yes.HidesRoot ∧ no.HidesRoot

/-- Whether the root stands in arguments only as the target of accesses. -/
def ArgsHideRoot : List (Expr H) → Prop
  | [] => True
  | arg :: rest => arg.HidesRoot ∧ ArgsHideRoot rest
end

mutual
/-- An expression that can be written down hides the root. -/
theorem Printable.hides_root (e : Expr H) (h : e.Printable) : e.HidesRoot := by
  match e with
  | .literal _ => trivial
  | .root => exact h.elim
  | .member target name =>
      by_cases hroot : target = .root
      · exact .inl hroot
      · rw [printable_member hroot] at h
        exact .inr (Printable.hides_root target h.1)
  | .index target args =>
      exact ⟨.inr (Printable.hides_root target h.1), printable_args_hide_root args h.2⟩
  | .call target name args =>
      exact ⟨.inr (Printable.hides_root target h.1), printable_args_hide_root args h.2.2⟩
  | .unary op operand => exact Printable.hides_root operand h
  | .binary op left right =>
      exact ⟨Printable.hides_root left h.1, Printable.hides_root right h.2⟩
  | .conditional condition yes no =>
      exact ⟨Printable.hides_root condition h.1, Printable.hides_root yes h.2.1,
        Printable.hides_root no h.2.2⟩

/-- Arguments that can be written down hide the root. -/
theorem printable_args_hide_root (args : List (Expr H)) (h : PrintableArgs args) :
    ArgsHideRoot args := by
  match args with
  | [] => trivial
  | arg :: rest => exact ⟨Printable.hides_root arg h.1, printable_args_hide_root rest h.2⟩
end

variable [HostObject H]

/-- Whether two roots have the same member, or the same error for it, under each of some names. -/
def SameMembers (names : List String) (root root' : Value H) : Prop :=
  ∀ name ∈ names, Binding.object.getMember root name = Binding.object.getMember root' name

/-- Roots with the same members under some names have them under fewer. -/
theorem SameMembers.mono {names more : List String} {root root' : Value H}
    (h : SameMembers more root root') (hnames : names ⊆ more) : SameMembers names root root' :=
  fun name hname => h name (hnames hname)

/-- The value of a bare name is what the binding answers. A null root is refused before the binding is
asked, with the error that the binding has for it. -/
theorem eval_identifier (root : Value H) (name : String) :
    eval Binding.object root (.identifier name) = Binding.object.getMember root name := by
  cases root with
  | null => rfl
  | _ => rfl

section

variable {root root' : Value H}

mutual
/-- An expression that can be written down has the same value for roots with the same members under
its bare names. -/
theorem eval_of_same_members (e : Expr H) (h : e.Printable)
    (hsame : SameMembers e.bareNames root root') :
    eval Binding.object root e = eval Binding.object root' e := by
  match e with
  | .literal value => rfl
  | .root => exact h.elim
  | .member target name =>
      by_cases hroot : target = .root
      · subst hroot
        have hname := hsame name List.mem_cons_self
        rwa [← eval_identifier, ← eval_identifier] at hname
      · rw [printable_member hroot] at h
        rw [bare_names_member hroot] at hsame
        rw [eval, eval, eval_of_same_members target h.1 hsame]
  | .index target args =>
      have htarget := eval_of_same_members target h.1 (hsame.mono (List.subset_append_left _ _))
      have hargs := eval_args_of_same_members args h.2 (hsame.mono (List.subset_append_right _ _))
      rw [eval, eval, htarget, hargs]
  | .call target name args =>
      have htarget := eval_of_same_members target h.1 (hsame.mono (List.subset_append_left _ _))
      have hargs := eval_args_of_same_members args h.2.2 (hsame.mono (List.subset_append_right _ _))
      rw [eval, eval, htarget, hargs]
  | .unary op operand => rw [eval, eval, eval_of_same_members operand h hsame]
  | .binary op left right =>
      have hleft := eval_of_same_members left h.1 (hsame.mono (List.subset_append_left _ _))
      have hright := eval_of_same_members right h.2 (hsame.mono (List.subset_append_right _ _))
      cases op <;> simp only [eval, hleft, hright]
  | .conditional condition yes no =>
      have hfront := hsame.mono (List.subset_append_left _ _)
      have hcondition :=
        eval_of_same_members condition h.1 (hfront.mono (List.subset_append_left _ _))
      have hyes := eval_of_same_members yes h.2.1 (hfront.mono (List.subset_append_right _ _))
      have hno := eval_of_same_members no h.2.2 (hsame.mono (List.subset_append_right _ _))
      rw [eval, eval, hcondition, hyes, hno]

/-- Arguments that can be written down have the same values for roots with the same members under
their bare names. -/
theorem eval_args_of_same_members (args : List (Expr H)) (h : PrintableArgs args)
    (hsame : SameMembers (argsBareNames args) root root') :
    evalArgs Binding.object root args = evalArgs Binding.object root' args := by
  match args with
  | [] => rfl
  | arg :: rest =>
      have harg := eval_of_same_members arg h.1 (hsame.mono (List.subset_append_left _ _))
      have hrest := eval_args_of_same_members rest h.2 (hsame.mono (List.subset_append_right _ _))
      rw [evalArgs, evalArgs, harg, hrest]
end

end

/-- A text that is read as an expression has the same value or the same error for all roots that have
the same members under the bare names of the expression, and leaves the host in the same state. Without
bare names it has the same value for all roots. -/
theorem evaluate_of_same_members {limits : Limits} {text : String} {e : Expr H}
    (h : parse limits text = .ok e) :
    (∀ root root' : Value H, SameMembers e.bareNames root root' → ∀ state,
      evaluate Binding.object limits text root state =
        evaluate Binding.object limits text root' state) ∧
    (e.bareNames = [] → ∀ (root root' : Value H) state,
      evaluate Binding.object limits text root state =
        evaluate Binding.object limits text root' state) := by
  have hevaluate : ∀ root root' : Value H, SameMembers e.bareNames root root' → ∀ state,
      evaluate Binding.object limits text root state =
        evaluate Binding.object limits text root' state := by
    intro root root' hsame state
    rw [evaluate, evaluate, h]
    simp only [eval_of_same_members e (printable_of_parse h).1 hsame]
  refine ⟨hevaluate, fun hnone root root' => hevaluate root root' fun name hname => ?_⟩
  rw [hnone] at hname
  exact nomatch hname

/-- Two records that share only one of their entries are one root to an expression with its name. -/
theorem evaluate_of_same_members_in_records :
    let record : Value Empty := .record (some 1) [("a", .record none [("b", .number 2)])]
    let other : Value Empty := .record none [("a", .record none [("b", .number 2)]), ("c", .null)]
    parse {} "a.b + a[\"b\"]" = .ok (.binary .add (.member (.identifier "a") "b")
      (.index (.identifier "a") [.literal (.string "b")]) : Expr Empty) ∧
    SameMembers ["a", "a"] record other ∧
    evaluate Binding.object {} "a.b + a[\"b\"]" record () =
      evaluate Binding.object {} "a.b + a[\"b\"]" other () := by
  intro record other
  have htokens : tokenize "a.b + a[\"b\"]" =
      [⟨.identifier, "a", 0⟩, ⟨.punctuation .dot, ".", 1⟩, ⟨.identifier, "b", 2⟩,
        ⟨.punctuation .plus, "+", 4⟩, ⟨.identifier, "a", 6⟩, ⟨.punctuation .leftBracket, "[", 7⟩,
        ⟨.string, "b", 8⟩, ⟨.punctuation .rightBracket, "]", 11⟩] := by
    decide +kernel
  have hparse : parse {} "a.b + a[\"b\"]" = .ok (.binary .add (.member (.identifier "a") "b")
      (.index (.identifier "a") [.literal (.string "b")]) : Expr Empty) := by
    rw [parse, parseStart, Tokens.ofText, htokens]
    rfl
  have hsame : SameMembers ["a", "a"] record other := by
    intro name hname
    obtain rfl : name = "a" := by simpa using hname
    rfl
  exact ⟨hparse, hsame, (evaluate_of_same_members hparse).1 record other hsame ()⟩

section

variable {σ : Type}

/-- Two roots of which a binding has the same to say, whatever it is asked. -/
structure AnswersAlike (binding : Binding σ H) (root root' : Value H) : Prop where
  null : root.isNull = root'.isNull
  member : ∀ name, binding.getMember root name = binding.getMember root' name
  index : ∀ args, binding.getIndex root args = binding.getIndex root' args
  method : ∀ name args, binding.invoke root name args = binding.invoke root' name args

variable {binding : Binding σ H} {root root' : Value H}

/-- An access is the same for two roots if the value of its target is, or if its target is the root
and the binding has the same answer for both. -/
theorem access_of_answers_alike (hnull : root.isNull = root'.isNull) {target : Expr H}
    (htarget : target = .root ∨ eval binding root target = eval binding root' target)
    (access : Access) (ask : Value H → Action σ (Value H)) (hask : ask root = ask root') :
    (do
      let target ← eval binding root target
      requireTarget access target
      ask target) =
    (do
      let target ← eval binding root' target
      requireTarget access target
      ask target) := by
  rcases htarget with rfl | htarget
  · simp only [eval, pure_bind, requireTarget, hnull, hask]
  · rw [htarget]

mutual
/-- An expression that hides the root has the same value for roots that the binding answers alike
for. -/
theorem eval_of_answers_alike (e : Expr H) (h : e.HidesRoot)
    (halike : AnswersAlike binding root root') : eval binding root e = eval binding root' e := by
  match e with
  | .literal _ => rfl
  | .root => exact h.elim
  | .member target name =>
      have htarget := h.imp_right fun h => eval_of_answers_alike target h halike
      rw [eval, eval]
      exact access_of_answers_alike halike.null htarget _ _ (halike.member name)
  | .index target args =>
      have htarget := h.1.imp_right fun h => eval_of_answers_alike target h halike
      rw [eval, eval, eval_args_of_answers_alike args h.2 halike]
      refine access_of_answers_alike halike.null htarget _ _ ?_
      simp only [halike.index]
  | .call target name args =>
      have htarget := h.1.imp_right fun h => eval_of_answers_alike target h halike
      rw [eval, eval, eval_args_of_answers_alike args h.2 halike]
      refine access_of_answers_alike halike.null htarget _ _ ?_
      simp only [halike.method]
  | .unary op operand => rw [eval, eval, eval_of_answers_alike operand h halike]
  | .binary op left right =>
      have hleft := eval_of_answers_alike left h.1 halike
      have hright := eval_of_answers_alike right h.2 halike
      cases op <;> simp only [eval, hleft, hright]
  | .conditional condition yes no =>
      rw [eval, eval, eval_of_answers_alike condition h.1 halike,
        eval_of_answers_alike yes h.2.1 halike, eval_of_answers_alike no h.2.2 halike]

/-- Arguments that hide the root have the same values for roots that the binding answers alike
for. -/
theorem eval_args_of_answers_alike (args : List (Expr H)) (h : ArgsHideRoot args)
    (halike : AnswersAlike binding root root') :
    evalArgs binding root args = evalArgs binding root' args := by
  match args with
  | [] => rfl
  | arg :: rest =>
      rw [evalArgs, evalArgs, eval_of_answers_alike arg h.1 halike,
        eval_args_of_answers_alike rest h.2 halike]
end

/-- Text has the same result for roots that the binding answers alike for. -/
theorem evaluate_of_answers_alike (halike : AnswersAlike binding root root') (limits : Limits)
    (text : String) (state : σ) :
    evaluate binding limits text root state = evaluate binding limits text root' state := by
  rw [evaluate, evaluate]
  split
  · rfl
  · rename_i e hparse
    simp only [eval_of_answers_alike e (printable_of_parse hparse).1.hides_root halike]

end

end Formula.Expr
