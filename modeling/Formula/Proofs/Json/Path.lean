import Formula.Proofs.Json.NormalForm
import Formula.Proofs.Parser.Prefix

/-!
# Paths into documents

A path is a bare name with steps behind it, each of which spells a member of an object or an item of
an array. Its text is read as a chain of accesses, `parse_whole_path`, and the evaluation of the chain
follows the path through the document, `eval_step`. So evaluating the text gives the part of the
document that the path selects, `evaluate_path`.
-/

namespace Formula

section

variable {σ H : Type} [HostObject H] {binding : Binding σ H} {root value : Value H}
  {target : Expr H}

/-- A member of what has a value is a question about the value. -/
theorem Expr.eval_member_of_target (htarget : target.eval binding root = pure value)
    (hvalue : value.isNull = false) (name : String) :
    (member target name).eval binding root = binding.getMember value name := by
  rw [eval, htarget, pure_bind, requireTarget, hvalue, if_neg Bool.false_ne_true, pure_bind]

/-- An index with a literal of what has a value is a question about the value. -/
theorem Expr.eval_index_of_target (htarget : target.eval binding root = pure value)
    (hvalue : value.isNull = false) (arg : Value H) :
    (index target [literal arg]).eval binding root = binding.getIndex value [arg] := by
  rw [eval, htarget, pure_bind, requireTarget, hvalue, if_neg Bool.false_ne_true, pure_bind,
    evalArgs, evalArgs, eval, pure_bind, pure_bind, pure_bind]

/-- A number of at most 31 bits is the index that it stands for. -/
theorem Binding.index_arg_of_nat {index : Nat} (h : index < 2 ^ 31) :
    indexArg (.number (.ofNat index) : Value H) = .ok (index : Int) := by
  have hbits : (index : Int).natAbs < 2 ^ 53 := by omega
  have hnumber : (Binary64.ofInt index).isNaN = false :=
    Binary64.is_nan_of_finite (Binary64.units_of_int hbits).1
  have hint : (Binary64.ofInt index).toInt32 = index :=
    Binary64.to_int_clamped_of_int hbits (by omega) (by omega)
  rw [← Binary64.of_int_nat_cast, indexArg, Value.toNumber, hnumber, if_neg Bool.false_ne_true]
  exact congrArg Except.ok hint

end

namespace Json

/-- A step from a document to one of its parts. A member is spelled by its name, if that is an
identifier, or by its key in quotes; an item by its index, which has at most 31 bits. -/
inductive Step where
  | member (name : String) (identifier : IsIdentifier name)
  | entry (key : String)
  | item (index : Nat) (bounded : index < 2 ^ 31)

/-- A path starts with the name of a member, which is no keyword. -/
structure Path where
  name : String
  identifier : IsIdentifier name
  plain : name ≠ "true" ∧ name ≠ "false" ∧ name ≠ "null"
  steps : List Step

variable {H : Type}

namespace Step

/-- The part that a step leads to. -/
def select? : Step → Json → Option Json
  | .member key _, .object members | .entry key, .object members => Fields.lookup? key members
  | .item index _, .array items => items[index]?
  | _, _ => none

/-- The text of a step. -/
def text : Step → String
  | .member name _ => "." ++ name
  | .entry key => "[" ++ quoteText key ++ "]"
  | .item index _ => "[" ++ Nat.repr index ++ "]"

/-- The access that a step is. -/
def access : Step → Expr H → Expr H
  | .member name _, target => .member target name
  | .entry key, target => .index target [.literal (.string key)]
  | .item index _, target => .index target [.number (.ofNat index)]

/-- An access is not the root. -/
theorem access_ne_root (step : Step) (target : Expr H) : step.access target ≠ .root := by
  cases step <;> exact nofun

/-- An access is one higher than its target. -/
theorem height_access (step : Step) {target : Expr H} (h : target ≠ .root) :
    (step.access target).height = target.height + 1 := by
  have hpos := target.height_pos
  cases step with
  | member name identifier => exact Expr.height_member h
  | entry key =>
      simp only [access, Expr.height, Expr.argsHeight]
      omega
  | item index bounded =>
      simp only [access, Expr.number, Expr.height, Expr.argsHeight]
      omega

/-- An operand with an argument in brackets behind it is an index. -/
theorem reads_brackets {text argText : String} {target arg : Expr H}
    (h : Reads text.toList target 1) (harg : Reads argText.toList arg 0) :
    Reads (text ++ ("[" ++ argText ++ "]")).toList (.index target [arg]) 1 := by
  have hindex := reads_index h (reads_args_cons harg reads_args_nil)
  simpa [commaSeparated] using hindex

/-- An operand with a step behind it is an access. -/
theorem reads_access (step : Step) {text : String} {target : Expr H}
    (h : Reads text.toList target 1) :
    Reads (text ++ step.text).toList (step.access target) 1 := by
  cases step with
  | member name identifier =>
      have hmember := reads_member h identifier
      simpa [Step.text, access] using hmember
  | entry key => exact reads_brackets h (Expr.reads_quote key)
  | item index bounded => exact reads_brackets h (Expr.reads_repr index)

/-- What a step leads to is well formed if the document is. -/
theorem select_well_formed {step : Step} {document part : Json} (hdocument : document.WellFormed)
    (h : step.select? document = some part) : part.WellFormed := by
  have hobject {members : List (String × Json)} {key : String}
      (hmembers : (object members).WellFormed)
      (hkey : Fields.lookup? key members = some part) : part.WellFormed := by
    cases hmembers with
    | object hsorted hall => exact hall _ (Fields.mem_of_lookup hkey)
  unfold select? at h
  split at h
  · exact hobject hdocument h
  · exact hobject hdocument h
  · cases hdocument with
    | array hitems => exact hitems part (List.mem_of_getElem? h)
  · exact nomatch h

/-- The value of a member is the value of the part that its key leads to. -/
theorem lookup_value {members : List (String × Json)} {key : String} {part : Json}
    (h : Fields.lookup? key members = some part) :
    Fields.lookup? key (Fields.mapValues (Value.ofJson (H := H)) members) =
      some (Value.ofJson part) := by
  rw [Fields.lookup_map_values, h, Option.map_some]

variable [HostObject H] {root : Value H} {target : Expr H}

/-- An access to what has the value of a document has the value of the part that the step leads
to. -/
theorem eval_access {step : Step} {document part : Json} (hdocument : document.WellFormed)
    (htarget : target.eval Binding.object root = pure (Value.ofJson document))
    (h : step.select? document = some part) :
    (step.access target).eval Binding.object root = pure (Value.ofJson part) := by
  -- Only objects and arrays have parts, so a target whose part is wanted is never null.
  unfold select? at h
  split at h
  · rename_i name identifier members
    cases hdocument with
    | object hsorted =>
        rw [Value.of_json_object hsorted] at htarget
        rw [access, Expr.eval_member_of_target htarget rfl]
        show liftM (Binding.objectMember (.record none _) name) = _
        rw [Binding.objectMember, Binding.objectMember?, lookup_value h]
        rfl
  · rename_i key members
    cases hdocument with
    | object hsorted =>
        rw [Value.of_json_object hsorted] at htarget
        rw [access, Expr.eval_index_of_target htarget rfl]
        show liftM (Binding.entryAt (fun name => Fields.lookup? name _) key) = _
        rw [Binding.entryAt, lookup_value h]
        rfl
  · rename_i index bounded items
    have hitems : (Value.ofJsonItems items : List (Value H))[index]? = some (Value.ofJson part) := by
      rw [Value.of_json_items_eq_map, List.getElem?_map, h, Option.map_some]
    rw [access, Expr.number, Expr.eval_index_of_target htarget rfl]
    show liftM (Binding.indexArg (.number (.ofNat index) : Value H) >>=
      Binding.itemAt (Value.ofJsonItems items)) = _
    rw [Binding.index_arg_of_nat bounded]
    show liftM (Binding.itemAt (Value.ofJsonItems items) index) = _
    rw [Binding.itemAt, if_neg (by omega), Int.toNat_natCast, hitems]
    rfl
  · exact nomatch h

end Step

namespace Path

/-- The step to the member whose name the path starts with. -/
def first (path : Path) : Step :=
  .member path.name path.identifier

/-- The number of steps. -/
def length (path : Path) : Nat :=
  path.steps.length + 1

/-- The part of a document that a path leads to. -/
def select? (path : Path) (document : Json) : Option Json :=
  (path.first :: path.steps).foldlM (fun part step => step.select? part) document

/-- The text of a path. -/
def text (path : Path) : String :=
  path.steps.foldl (fun text step => text ++ step.text) path.name

/-- The tree of a path. -/
def tree (path : Path) : Expr H :=
  (path.first :: path.steps).foldl (fun target step => step.access target) .root

end Path

/-- An operand with steps behind it is a chain of accesses. -/
theorem reads_steps (steps : List Step) {text : String} {target : Expr H}
    (h : Reads text.toList target 1) :
    Reads (steps.foldl (fun text step => text ++ step.text) text).toList
      (steps.foldl (fun target step => step.access target) target) 1 := by
  induction steps generalizing text target with
  | nil => exact h
  | cons step steps ih => exact ih (step.reads_access h)

/-- Each step of a chain of accesses makes it one higher. -/
theorem height_steps (steps : List Step) {target : Expr H} (h : target ≠ .root) :
    (steps.foldl (fun target step => step.access target) target).height =
      target.height + steps.length := by
  induction steps generalizing target with
  | nil => rfl
  | cons step steps ih =>
      rw [List.foldl_cons, ih (step.access_ne_root target), step.height_access h, List.length_cons]
      omega

/-- A chain of accesses to the value of a document has the value of the part that the steps lead
to. -/
theorem eval_steps [HostObject H] {root : Value H} {steps : List Step} {target : Expr H}
    {document part : Json} (hdocument : document.WellFormed)
    (htarget : target.eval Binding.object root = pure (Value.ofJson document))
    (h : steps.foldlM (fun part step => step.select? part) document = some part) :
    (steps.foldl (fun target step => step.access target) target).eval Binding.object root =
      pure (Value.ofJson part) := by
  induction steps generalizing target document with
  | nil =>
      obtain rfl : document = part := Option.some.inj h
      exact htarget
  | cons step steps ih =>
      rw [List.foldlM_cons] at h
      obtain ⟨next, hnext, h⟩ := Option.bind_eq_some_iff.1 h
      exact ih (Step.select_well_formed hdocument hnext) (Step.eval_access hdocument htarget hnext) h

/-- The text of a path is one expression, the tree of the path. -/
theorem parse_whole_path (path : Path) {limits : Limits} (hdepth : 2 ≤ limits.maxDepth)
    (hheight : path.length ≤ limits.maxHeight) :
    Expr.parseWhole limits path.text = .ok (path.tree : Expr H) := by
  have hname := Expr.reads_name (H := H) path.identifier (Expr.keyword_eq_none_iff.2 path.plain)
  have hreads := reads_steps path.steps (hname.mono (Nat.zero_le 1))
  refine Expr.parse_whole_of_reads hreads hdepth ?_
  have hne : (Expr.member .root path.name : Expr H) ≠ .root := nofun
  rw [height_steps path.steps hne, Expr.height, Nat.add_comm]
  exact hheight

/-- Evaluating the text of a path against an input gives the part of the input's document that the
path leads to, in its normal form. -/
theorem evaluate_path (path : Path) (limits : Limits) {input : String} {document part : Json}
    (hread : read? input = some document) (hselect : path.select? document = some part)
    (hdepth : 2 ≤ limits.maxDepth) (hheight : path.length ≤ limits.maxHeight) :
    evaluateText limits path.text (some input) = .ok (Value.ofJson part : Value Empty).toJson := by
  have heval : path.tree.eval Binding.object (Value.ofJson document : Value Empty) =
      pure (Value.ofJson part) :=
    eval_steps (well_formed_of_read hread) rfl hselect
  rw [Expr.evaluate_text_of_parse_whole (parse_whole_path path hdepth hheight), Expr.evalInput]
  simp only [readInput, hread]
  show Except.mapError _ (Except.map _ ((path.tree.eval Binding.object
    (Value.ofJson document : Value Empty)).run.run ()).1) = _
  rw [heval]
  rfl

/-- A key with a quote in it, an item and a member whose name is a keyword. -/
theorem evaluate_path_of_three_steps :
    evaluateText ⟨2, 4⟩ "a[\"x\"\"y\"][1].true"
      (some "\x7b\"a\":\x7b\"x\\\"y\":[0,\x7b\"true\":7\x7d]\x7d\x7d") =
        .ok (.integer 7) := by
  have ha : IsIdentifier "a" := ⟨'a', [], rfl, rfl, nofun⟩
  have hkeyword : Grammar.keyword? "true" = some (.boolean true : Value Empty) := rfl
  have htrue : IsIdentifier "true" := Expr.is_identifier_keyword hkeyword
  have hnumber : (Value.ofJson (.integer 7) : Value Empty).toJson = .integer 7 :=
    of_number_of_int (by decide)
  have hread : read? "\x7b\"a\":\x7b\"x\\\"y\":[0,\x7b\"true\":7\x7d]\x7d\x7d" =
      some (.object [("a", .object [("x\"y", .array [.integer 0,
        .object [("true", .integer 7)]])])]) := by
    rfl
  have hevaluate := evaluate_path
    ⟨"a", ha, by decide, [.entry "x\"y", .item 1 (by decide), .member "true" htrue]⟩ ⟨2, 4⟩
    hread rfl (Nat.le_refl 2) (Nat.le_refl 4)
  rw [hnumber] at hevaluate
  exact hevaluate

end Json

end Formula
