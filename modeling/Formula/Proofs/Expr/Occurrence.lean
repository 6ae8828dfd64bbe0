import Formula.Expr
import Mathlib

/-!
# Occurrences of subexpressions

A path leads from an expression to one of its subexpressions: each step is the index of a part of a
node, from left to right. `at?` is the subexpression at a path and `replaceAt` the expression with
another one there. `accessPaths` lists the nodes that put a question to a binding in post-order.
-/

namespace Formula.Expr

variable {H : Type}

/-- The expressions that a node is made of, from left to right. -/
def parts : Expr H → List (Expr H)
  | .literal _ | .root => []
  | .member target _ => [target]
  | .index target args | .call target _ args => target :: args
  | .unary _ operand => [operand]
  | .binary _ left right => [left, right]
  | .conditional condition yes no => [condition, yes, no]

/-- The node with another part at an index. -/
def setPart : Expr H → Nat → Expr H → Expr H
  | .member _ name, 0, new => .member new name
  | .index _ args, 0, new => .index new args
  | .index target args, i + 1, new => .index target (args.set i new)
  | .call _ name args, 0, new => .call new name args
  | .call target name args, i + 1, new => .call target name (args.set i new)
  | .unary op _, 0, new => .unary op new
  | .binary op _ right, 0, new => .binary op new right
  | .binary op left _, 1, new => .binary op left new
  | .conditional _ yes no, 0, new => .conditional new yes no
  | .conditional condition _ no, 1, new => .conditional condition new no
  | .conditional condition yes _, 2, new => .conditional condition yes new
  | e, _, _ => e

/-- A way from an expression to one of its subexpressions. -/
abbrev Path : Type := List Nat

/-- The subexpression at a path. -/
def at? (e : Expr H) : Path → Option (Expr H)
  | [] => some e
  | i :: path => e.parts[i]?.bind fun part => part.at? path

/-- The expression with another subexpression at a path. -/
def replaceAt (e : Expr H) : Path → Expr H → Expr H
  | [], new => new
  | i :: path, new =>
    match e.parts[i]? with
    | some part => e.setPart i (part.replaceAt path new)
    | none => e

/-- Setting a part sets it among the parts and leaves the others. -/
theorem parts_set_part (e : Expr H) (i : Nat) (new : Expr H) :
    (e.setPart i new).parts = e.parts.set i new := by
  cases e with
  | literal | root => rfl
  | member | unary => cases i <;> rfl
  | index | call => cases i <;> rfl
  | binary => match i with | 0 | 1 | _ + 2 => rfl
  | conditional => match i with | 0 | 1 | 2 | _ + 3 => rfl

/-- A part is smaller than its node. -/
theorem size_of_part_lt {e part : Expr H} (h : part ∈ e.parts) : sizeOf part < sizeOf e := by
  cases e with
  | literal | root => exact nomatch h
  | index target args | call target name args =>
      rcases List.mem_cons.1 h with rfl | harg
      · simp only [index.sizeOf_spec, call.sizeOf_spec]
        omega
      · have hlt := List.sizeOf_lt_of_mem harg
        simp only [index.sizeOf_spec, call.sizeOf_spec]
        omega
  | member | unary | binary | conditional =>
      simp only [parts, List.mem_cons, List.not_mem_nil, or_false] at h
      rcases h with rfl | rfl | rfl <;> simp <;> omega

/-- What holds of an expression if it holds of its parts holds of every expression. -/
theorem parts_induction {motive : Expr H → Prop}
    (node : ∀ e, (∀ part ∈ e.parts, motive part) → motive e) (e : Expr H) : motive e :=
  node e fun part hpart =>
    have : sizeOf part < sizeOf e := size_of_part_lt hpart
    parts_induction node part
termination_by sizeOf e

/-- Whether a node puts a question to a binding. -/
def isAccess : Expr H → Bool
  | .member .. | .index .. | .call .. => true
  | _ => false

mutual
/-- The paths to all accesses in post-order: the target, then the arguments from left to right, then
the access itself. -/
def accessPaths : Expr H → List Path
  | .literal _ | .root => []
  | .member target _ => target.accessPaths.map (0 :: ·) ++ [[]]
  | .index target args | .call target _ args =>
    target.accessPaths.map (0 :: ·) ++ accessPathsFrom 1 args ++ [[]]
  | .unary _ operand => operand.accessPaths.map (0 :: ·)
  | .binary _ left right => left.accessPaths.map (0 :: ·) ++ right.accessPaths.map (1 :: ·)
  | .conditional condition yes no =>
    condition.accessPaths.map (0 :: ·) ++ yes.accessPaths.map (1 :: ·)
      ++ no.accessPaths.map (2 :: ·)

/-- The paths to all accesses in arguments, of which the first is the part at index `i`. -/
def accessPathsFrom (i : Nat) : List (Expr H) → List Path
  | [] => []
  | arg :: rest => arg.accessPaths.map (i :: ·) ++ accessPathsFrom (i + 1) rest
end

/-- The accesses of a node are those of its parts and then the node itself. -/
theorem access_paths_eq (e : Expr H) :
    e.accessPaths = accessPathsFrom 0 e.parts ++ if e.isAccess then [[]] else [] := by
  cases e <;> simp [accessPaths, accessPathsFrom, parts, isAccess]

/-- The accesses of some parts and of more parts behind them. -/
theorem access_paths_from_append (i : Nat) (es fs : List (Expr H)) :
    accessPathsFrom i (es ++ fs) = accessPathsFrom i es ++ accessPathsFrom (i + es.length) fs := by
  induction es generalizing i with
  | nil => rfl
  | cons e es ih =>
      rw [List.cons_append, accessPathsFrom, ih, accessPathsFrom, List.append_assoc,
        List.length_cons, Nat.add_right_comm, Nat.add_assoc]

/-- The accesses of the first parts come first. -/
theorem access_paths_from_take_sublist (i : Nat) (es : List (Expr H)) (n : Nat) :
    (accessPathsFrom i (es.take n)).Sublist (accessPathsFrom i es) := by
  have happend := access_paths_from_append i (es.take n) (es.drop n)
  rw [List.take_append_drop] at happend
  rw [happend]
  exact List.sublist_append_left _ _

/-- The accesses of the first parts of a node are accesses of the node, in the same order. -/
theorem access_paths_take_sublist (e : Expr H) (n : Nat) :
    (accessPathsFrom 0 (e.parts.take n)).Sublist e.accessPaths := by
  rw [access_paths_eq]
  exact (access_paths_from_take_sublist 0 e.parts n).trans (List.sublist_append_left _ _)

/-- Accesses of the first parts and then accesses of a later one, each in post-order, are in
post-order. -/
theorem sublist_access_paths_from {es : List (Expr H)} {n i : Nat} {part : Expr H}
    {paths paths' : List Path} (hn : n ≤ i) (hpart : es[i]? = some part)
    (h : paths.Sublist (accessPathsFrom 0 (es.take n))) (h' : paths'.Sublist part.accessPaths) :
    (paths ++ paths'.map (i :: ·)).Sublist (accessPathsFrom 0 (es.take (i + 1))) := by
  obtain ⟨hlength, rfl⟩ := List.getElem?_eq_some_iff.1 hpart
  rw [List.take_succ_eq_append_getElem hlength, access_paths_from_append, accessPathsFrom,
    List.length_take_of_le (Nat.le_of_lt hlength), Nat.zero_add, accessPathsFrom, List.append_nil]
  have htake := access_paths_from_take_sublist 0 (es.take i) n
  rw [List.take_take, Nat.min_eq_left hn] at htake
  exact (h.trans htake).append (h'.map _)

/-- An access of some parts is an access of one of them. -/
theorem mem_access_paths_from {i : Nat} {es : List (Expr H)} {path : Path} :
    path ∈ accessPathsFrom i es ↔
      ∃ j part tail, es[j]? = some part ∧ tail ∈ part.accessPaths ∧ path = (i + j) :: tail := by
  induction es generalizing i with
  | nil => simp [accessPathsFrom]
  | cons e es ih =>
      rw [accessPathsFrom, List.mem_append, ih, List.mem_map]
      constructor
      · rintro (⟨tail, htail, rfl⟩ | ⟨j, part, tail, hpart, htail, rfl⟩)
        · exact ⟨0, e, tail, rfl, htail, rfl⟩
        · exact ⟨j + 1, part, tail, hpart, htail, by rw [Nat.add_right_comm, Nat.add_assoc]⟩
      · rintro ⟨_ | j, part, tail, hpart, htail, rfl⟩
        · obtain rfl : e = part := by simpa using hpart
          exact .inl ⟨tail, htail, rfl⟩
        · exact .inr ⟨j, part, tail, by simpa using hpart, htail,
            by rw [Nat.add_right_comm, Nat.add_assoc]⟩

/-- The paths of the list are those that lead to an access. -/
theorem mem_access_paths {e : Expr H} {path : Path} :
    path ∈ e.accessPaths ↔ ∃ node, e.at? path = some node ∧ node.isAccess = true := by
  induction path generalizing e with
  | nil =>
      rw [access_paths_eq, List.mem_append, mem_access_paths_from]
      simp [at?]
  | cons i path ih =>
      rw [access_paths_eq, List.mem_append, mem_access_paths_from]
      have hself : (i :: path) ∉ (if e.isAccess then [[]] else [] : List Path) := by
        split <;> simp
      simp only [hself, or_false, at?]
      constructor
      · rintro ⟨j, part, tail, hpart, htail, heq⟩
        obtain ⟨rfl, rfl⟩ := List.cons.inj heq
        rw [Nat.zero_add, hpart]
        exact ih.1 htail
      · rintro ⟨node, hnode, haccess⟩
        obtain ⟨part, hpart, hat⟩ := Option.bind_eq_some_iff.1 hnode
        exact ⟨i, part, path, hpart, ih.2 ⟨node, hat, haccess⟩, by rw [Nat.zero_add]⟩

/-- No access of some parts stands twice in their list, if none of one part does. -/
theorem nodup_access_paths_from {es : List (Expr H)} (i : Nat)
    (h : ∀ part ∈ es, part.accessPaths.Nodup) : (accessPathsFrom i es).Nodup := by
  induction es generalizing i with
  | nil => simp [accessPathsFrom]
  | cons first es ih =>
      have hfirst : (first.accessPaths.map (i :: ·)).Nodup :=
        (h first List.mem_cons_self).map fun _ _ heq => (List.cons.inj heq).2
      have hrest := ih (i + 1) fun part hpart => h part (List.mem_cons_of_mem _ hpart)
      rw [accessPathsFrom]
      refine hfirst.append hrest ?_
      -- The paths into the first part start with a smaller index than the others.
      intro path hpath hpath'
      obtain ⟨tail, -, rfl⟩ := List.mem_map.1 hpath
      obtain ⟨j, part, tail', -, -, heq⟩ := mem_access_paths_from.1 hpath'
      have hindex := (List.cons.inj heq).1
      omega

/-- No access stands twice in the list. -/
theorem nodup_access_paths (e : Expr H) : e.accessPaths.Nodup := by
  induction e using parts_induction with
  | node e ih =>
      rw [access_paths_eq]
      refine List.Nodup.append (nodup_access_paths_from 0 ih) ?_ ?_
      · split <;> simp
      · intro path hpath hself
        obtain ⟨_, _, _, _, _, rfl⟩ := mem_access_paths_from.1 hpath
        split at hself <;> simp at hself

end Formula.Expr
