import Formula.Binding.Object
import Formula.Record
import Formula.Value.Json
import Formula.Proofs.Evaluation.Root
import Formula.Proofs.Fields
import Formula.Proofs.Value.Equality

/-!
# A record forgets how it was written

Each write answers what the key had, and leaves the record of all entries written so far,
`exchange_all_of_entries`. That record has the last value of each key, and so have all views of it;
records that were written in two ways are one record if the last values agree, `views_agree`.
-/

namespace Formula.Record

variable {H : Type}

/-- Records with the same fields are the same. -/
theorem eq_of_fields {record record' : Record H} (h : record.fields = record'.fields) :
    record = record' := by
  cases record
  cases record'
  cases h
  rfl

/-- Records with the same values are the same. -/
theorem eq_of_get {record record' : Record H} (h : ∀ key, record.get? key = record'.get? key) :
    record = record' :=
  eq_of_fields (record.sorted.eq_of_lookup record'.sorted h)

/-- The record of some entries has the last value of each key. -/
theorem get_of_entries (key : String) (entries : List (String × Value H)) :
    (ofEntries entries).get? key = Fields.lastValue? key entries :=
  Fields.lookup_of_entries key entries

/-- The keys of a record are those that have a value. -/
theorem mem_keys_iff {record : Record H} {key : String} :
    key ∈ record.keys ↔ ∃ value, record.get? key = some value := by
  rw [← Option.ne_none_iff_exists', get?, Ne, Fields.lookup_eq_none_iff, not_not, keys]

/-- An entry stands in a record exactly if its key has its value. -/
theorem mem_fields_iff {record : Record H} {key : String} {value : Value H} :
    (key, value) ∈ record.fields ↔ record.get? key = some value :=
  ⟨record.sorted.lookup_of_mem, Fields.mem_of_lookup⟩

/-- The keys of a record increase. -/
theorem keys_increasing (record : Record H) : record.keys.Pairwise (· < ·) :=
  List.pairwise_map.2 record.sorted

/-- The size of a record is the number of keys that have a value. -/
theorem size_eq_card {record : Record H} {names : List String}
    (h : ∀ key, key ∈ record.keys ↔ key ∈ names) : record.size = names.toFinset.card := by
  have hnodup : record.keys.Nodup := record.keys_increasing.imp ne_of_lt
  have hset : record.keys.toFinset = names.toFinset := by
    ext key
    rw [List.mem_toFinset, List.mem_toFinset, h]
  rw [← hset, List.toFinset_card_of_nodup hnodup, keys, List.length_map, size]

/-! ### Writing entries one by one -/

/-- Writes entries one by one: the answers, and the record that is left. -/
def exchangeAll (record : Record H) : List (String × Value H) → List (Option (Value H)) × Record H
  | [] => ([], record)
  | (key, value) :: rest =>
    let exchanged := record.exchange key value
    let others := exchangeAll exchanged.2 rest
    (exchanged.1 :: others.1, others.2)

/-- One more write answers the last value of its key. -/
theorem exchange_of_entries (entries : List (String × Value H)) (key : String) (value : Value H) :
    (ofEntries entries).exchange key value =
      (Fields.lastValue? key entries, ofEntries (entries ++ [(key, value)])) := by
  refine Prod.ext ?_ (eq_of_fields ?_)
  · exact ((Fields.sorted_of_entries entries).exchange_fst key value).trans
      (Fields.lookup_of_entries key entries)
  · exact (Fields.exchange_snd key value _).trans
      (Fields.of_entries_append entries (key, value)).symm

/-- Each write answers the last value that its key had before, and all of them leave the record of
the entries. -/
theorem exchange_all_of_entries (done entries : List (String × Value H)) :
    (ofEntries done).exchangeAll entries =
      (entries.mapIdx fun i entry => Fields.lastValue? entry.1 (done ++ entries.take i),
        ofEntries (done ++ entries)) := by
  induction entries generalizing done with
  | nil => rw [exchangeAll, List.mapIdx_nil, List.append_nil]
  | cons entry rest ih =>
      obtain ⟨key, value⟩ := entry
      simp only [exchangeAll, exchange_of_entries, ih]
      simp [List.mapIdx_cons]

/-- What writing entries into the empty record answers and leaves. -/
theorem exchange_all_empty (entries : List (String × Value H)) :
    (empty : Record H).exchangeAll entries =
      (entries.mapIdx fun i entry => Fields.lastValue? entry.1 (entries.take i),
        ofEntries entries) :=
  exchange_all_of_entries [] entries

/-! ### Views -/

variable [HostObject H]

/-- Whether all views of a record show a value under a key. -/
structure Shows (record : Record H) (identity : Option Nat) (key : String) (value : Value H) :
    Prop where
  get : record.get? key = some value
  index : Binding.object.getIndex (record.toValue identity) [.string key] = pure value
  member : Binding.object.getMember (record.toValue identity) key = pure value
  contained :
    Binding.object.invoke (record.toValue identity) "ContainsKey" [.string key] =
      pure (.boolean true)
  listed : key ∈ record.keys
  entry : (key, value) ∈ record.fields

/-- Whether no view of a record shows a value under a key. The member `Count` is there all the same.
-/
structure Lacks (record : Record H) (identity : Option Nat) (key : String) : Prop where
  get : record.get? key = none
  index :
    Binding.object.getIndex (record.toValue identity) [.string key] = throw (.keyNotFound key)
  member :
    Binding.object.getMember (record.toValue identity) key =
      if key = "Count" then pure (.ofNat record.size) else throw (.unknownMember "record" key)
  contained :
    Binding.object.invoke (record.toValue identity) "ContainsKey" [.string key] =
      pure (.boolean false)
  listed : key ∉ record.keys
  entry : ∀ value, (key, value) ∉ record.fields

/-- A record answers whether it has a key. -/
theorem invoke_contains_key (record : Record H) (identity : Option Nat) (key : String) :
    Binding.object.invoke (record.toValue identity) "ContainsKey" [.string key] =
      pure (.boolean (record.get? key).isSome) :=
  rfl

/-- A record answers its keys. -/
theorem invoke_keys (record : Record H) (identity : Option Nat) :
    Binding.object.invoke (record.toValue identity) "Keys" [] =
      pure (.sequence (record.keys.map .string)) := by
  rw [keys, List.map_map]
  rfl

/-- All views show the value that a key has. -/
theorem shows_of_get {record : Record H} {key : String} {value : Value H}
    (h : record.get? key = some value) (identity : Option Nat) :
    record.Shows identity key value where
  get := h
  index := by
    show liftM (Binding.entryAt record.get? key) = _
    rw [Binding.entryAt, h]
    rfl
  member := by
    have hmember : Binding.objectMember? (record.toValue identity) key = some value :=
      congrArg (· <|> Builtin.recordMember? record.fields key) h
    show liftM (Binding.objectMember (record.toValue identity) key) = _
    rw [Binding.objectMember, hmember]
    rfl
  contained := by rw [invoke_contains_key, h, Option.isSome_some]
  listed := mem_keys_iff.2 ⟨value, h⟩
  entry := mem_fields_iff.2 h

/-- No view shows a value for a key that has none. -/
theorem lacks_of_get {record : Record H} {key : String} (h : record.get? key = none)
    (identity : Option Nat) : record.Lacks identity key where
  get := h
  index := by
    show liftM (Binding.entryAt record.get? key) = _
    rw [Binding.entryAt, h]
    rfl
  member := by
    have hmember : Binding.objectMember? (record.toValue identity) key =
        Builtin.recordMember? record.fields key :=
      congrArg (· <|> Builtin.recordMember? record.fields key) h
    show liftM (Binding.objectMember (record.toValue identity) key) = _
    rw [Binding.objectMember, hmember]
    by_cases hcount : key = "Count"
    · rw [hcount]
      rfl
    · rw [if_neg hcount, Builtin.recordMember?.eq_2 _ _ hcount]
      rfl
  contained := by rw [invoke_contains_key, h, Option.isSome_none]
  listed := fun hmem => by
    obtain ⟨value, hvalue⟩ := mem_keys_iff.1 hmem
    exact nomatch h.symm.trans hvalue
  entry := fun value hmem => nomatch h.symm.trans (mem_fields_iff.1 hmem)

/-- The binding has the same to say of a record whatever its identity is. -/
theorem answers_alike (record : Record H) (identity identity' : Option Nat) :
    Expr.AnswersAlike Binding.object (record.toValue identity) (record.toValue identity') where
  null := rfl
  member _ := rfl
  index args := by
    match args with
    | [] | [_] | _ :: _ :: _ => rfl
  method name args := by
    rfl

/-! ### Two ways to write a record -/

/-- Whether two records, each with an identity of its own, are one to the host and to every
expression. An expression can take the root itself for a value only if it was not read from a text;
then the identities have to be the same. -/
structure Indistinguishable (record : Record H) (identity : Option Nat) (record' : Record H)
    (identity' : Option Nat) : Prop where
  same : record = record'
  equal : Value.NoNaN (Value.fieldNumbers record.fields) →
    Value.fieldsEq record.fields record'.fields = true ∧
    (record.toValue identity).structuralEq (record'.toValue identity') = true ∧
    (record.toValue identity).looseEq (record'.toValue identity') = true
  text : (record.toValue identity).toText = (record'.toValue identity').toText
  json : (record.toValue identity).toJson = (record'.toValue identity').toJson
  evaluated : ∀ limits text state,
    evaluate Binding.object limits text (record.toValue identity) state =
      evaluate Binding.object limits text (record'.toValue identity') state
  tree : ∀ e : Expr H, identity = identity' ∨ e.HidesRoot →
    e.eval Binding.object (record.toValue identity) =
      e.eval Binding.object (record'.toValue identity')

/-- A record without not-a-number is equal to itself, also as two values. -/
theorem equal_self {record : Record H} (h : Value.NoNaN (Value.fieldNumbers record.fields))
    (identity identity' : Option Nat) :
    Value.fieldsEq record.fields record.fields = true ∧
    (record.toValue identity).structuralEq (record.toValue identity') = true ∧
    (record.toValue identity).looseEq (record.toValue identity') = true := by
  have hfields := Value.fields_eq_self record.fields h
  have halike : (record.toValue identity).structuralEq (record.toValue identity') = true := by
    rw [toValue, toValue, Value.structuralEq, hfields, Bool.or_true]
  have hcompare : (record.toValue identity).compare? (record.toValue identity') = some .eq :=
    Value.compare_of_alike_scalars (by simp [toValue]) (by simp [toValue]) halike
  refine ⟨hfields, halike, ?_⟩
  rw [Value.looseEq, hcompare]
  rfl

/-- The identity of a record does not matter. -/
theorem indistinguishable_self (record : Record H) (identity identity' : Option Nat) :
    record.Indistinguishable identity record identity' where
  same := rfl
  equal h := equal_self h identity identity'
  text := rfl
  json := rfl
  evaluated := Expr.evaluate_of_answers_alike (record.answers_alike identity identity')
  tree e h := by
    rcases h with rfl | hhides
    · rfl
    · exact Expr.eval_of_answers_alike e hhides (record.answers_alike identity identity')

/-- Entries that are written one by one into the empty record answer what their keys had before. All
views of the record that is left show each key that was written with its last value, and no other
key. The keys, and the entries, increase and are as many as the keys that were written. Entries with
the same last values leave a record that nobody can tell from this one. -/
theorem views_agree (entries : List (String × Value H)) (identity : Option Nat) :
    let written := (empty : Record H).exchangeAll entries
    let record := written.2
    written.1 = (entries.mapIdx fun i entry => Fields.lastValue? entry.1 (entries.take i)) ∧
    (∀ key, if key ∈ entries.map Prod.fst then
        ∃ value, Fields.lastValue? key entries = some value ∧ record.Shows identity key value
      else record.Lacks identity key) ∧
    Binding.object.invoke (record.toValue identity) "Keys" [] =
      pure (.sequence (record.keys.map .string)) ∧
    record.keys.Pairwise (· < ·) ∧ record.keys = record.fields.map Prod.fst ∧
    record.keys.length = record.size ∧
    record.size = (entries.map Prod.fst).toFinset.card ∧
    ∀ (others : List (String × Value H)) (identity' : Option Nat),
      (∀ key, Fields.lastValue? key others = Fields.lastValue? key entries) →
      record.Indistinguishable identity ((empty : Record H).exchangeAll others).2 identity' := by
  intro written record
  have hwritten : written = _ := exchange_all_empty entries
  have hget (key : String) : record.get? key = Fields.lastValue? key entries := by
    rw [← get_of_entries]
    exact congrArg (fun written => written.2.get? key) hwritten
  refine ⟨congrArg Prod.fst hwritten, fun key => ?_, invoke_keys record identity,
    keys_increasing record, rfl, List.length_map _, size_eq_card fun key => ?_,
    fun others identity' hsame => ?_⟩
  · split
    · rename_i hkey
      obtain ⟨value, hvalue⟩ :=
        Option.ne_none_iff_exists'.1 (mt Fields.last_value_eq_none_iff.1 (not_not.2 hkey))
      exact ⟨value, hvalue, shows_of_get ((hget key).trans hvalue) identity⟩
    · rename_i hkey
      exact lacks_of_get ((hget key).trans (Fields.last_value_eq_none_iff.2 hkey)) identity
  · rw [mem_keys_iff, hget, ← Option.ne_none_iff_exists', Ne, Fields.last_value_eq_none_iff,
      not_not]
  · have hrecord : ((empty : Record H).exchangeAll others).2 = record := by
      refine eq_of_get fun key => ?_
      rw [exchange_all_empty, get_of_entries, hsame, hget]
    rw [hrecord]
    exact indistinguishable_self record identity identity'

/-- A value that is overwritten, and a key with the name of a member, written in two orders. -/
theorem views_agree_after_overwriting :
    let entries : List (String × Value Empty) :=
      [("b", .number 1), ("Count", .string "many"), ("b", .number 2)]
    let others : List (String × Value Empty) :=
      [("Count", .null), ("b", .number 2), ("Count", .string "many")]
    let record := ((empty : Record Empty).exchangeAll entries).2
    let record' := ((empty : Record Empty).exchangeAll others).2
    (∀ key, Fields.lastValue? key others = Fields.lastValue? key entries) ∧
    ((empty : Record Empty).exchangeAll entries).1 = [none, none, some (.number 1)] ∧
    record.Shows (some 1) "Count" (.string "many") ∧ record.Lacks (some 1) "a" ∧
    record.keys = ["Count", "b"] ∧ record.Indistinguishable (some 1) record' (some 2) ∧
    Value.NoNaN (Value.fieldNumbers record.fields) ∧
    (record.toValue (some 1)).looseEq (record'.toValue (some 2)) = true ∧
    (Expr.call .root "Keys" [] : Expr Empty).eval Binding.object (record.toValue (some 1)) =
      (Expr.call .root "Keys" []).eval Binding.object (record'.toValue (some 2)) := by
  intro entries others record record'
  have hsame (key : String) : Fields.lastValue? key others = Fields.lastValue? key entries := by
    simp only [Fields.lastValue?, entries, others, List.reverse_cons, List.reverse_nil,
      List.nil_append, List.cons_append, Fields.lookup?]
    by_cases hcount : "Count" = key
    · subst hcount
      rfl
    · simp only [if_neg hcount]
      split <;> rfl
  have hfields : record.fields = [("Count", .string "many"), ("b", .number 2)] := rfl
  have hnan : Value.NoNaN (Value.fieldNumbers record.fields) := by
    intro n hn
    rw [hfields] at hn
    have htwo : n = .ofNat 2 := List.mem_singleton.1 hn
    rw [htwo]
    exact Binary64.is_nan_of_nat 2
  obtain ⟨hanswers, hviews, -, -, -, -, -, hothers⟩ := views_agree entries (some 1)
  have hcount := hviews "Count"
  have ha := hviews "a"
  rw [if_pos (by decide)] at hcount
  rw [if_neg (by decide)] at ha
  obtain ⟨value, hvalue, hshows⟩ := hcount
  obtain rfl := Option.some.inj hvalue
  have hone := hothers others (some 2) hsame
  exact ⟨hsame, hanswers, hshows, ha, congrArg (List.map Prod.fst) hfields, hone, hnan,
    (hone.equal hnan).2.2, hone.tree _ (.inr ⟨.inl rfl, trivial⟩)⟩

end Formula.Record
