import Formula.Binding.Object
import Formula.Proofs.Binary64.Integer
import Formula.Proofs.Text.Search

/-!
# The members of strings agree

`Length`, `IndexOf`, `Substring` and the indexer count characters from different ends: from an
argument that went through a double and 32 bits, from a byte that was found, or along the text. They
speak of the same places nevertheless, and `Contains`, `StartsWith` and `EndsWith` of the same
parts, `string_members_agree`.
-/

namespace Formula.Builtin

section

variable (part text : List Char)

/-- A text that is contained is found at its first place, and another one nowhere. -/
theorem index_of_cases :
    (∃ i : Nat, indexOf part text = i ∧ Text.contains part text = true ∧
      Text.FirstAt part text i) ∨
    (indexOf part text = -1 ∧ Text.contains part text = false ∧
      ∀ j, ¬part <+: text.drop j) := by
  rw [indexOf, Text.contains]
  cases h : Text.bytesBefore? part text with
  | none => exact .inr ⟨rfl, rfl, Text.not_prefix_of_bytes_before h⟩
  | some bytes =>
      obtain ⟨i, rfl, hfirst⟩ := Text.first_at_of_bytes_before h
      have hchars := Text.chars_within_byte_length (text.take i) (text.drop i)
      rw [List.take_append_drop, List.length_take_of_le hfirst.le_length] at hchars
      exact .inl ⟨i, congrArg Nat.cast hchars, rfl, hfirst⟩

end

section

variable {text part : List Char} {start count : Int}

/-- A start that leaves the text is refused. -/
theorem substring_of_start_outside (h : start < 0 ∨ (text.length : Int) < start)
    (count? : Option Int) :
    substring text start count? = .error (.indexOutOfRange start text.length) := by
  unfold substring
  exact if_pos h

/-- A length that leaves the text behind the start is refused. -/
theorem substring_of_count_outside (hstart : 0 ≤ start) (hlength : start ≤ text.length)
    (h : count < 0 ∨ (text.length : Int) < start + count) :
    substring text start (some count) =
      .error (.invalidArgument (.substringLength count text.length)) := by
  rw [substring]
  exact (if_neg (by omega)).trans (if_pos h)

/-- From a start within the text the rest is given. -/
theorem substring_from (hstart : 0 ≤ start) (hlength : start ≤ text.length) :
    substring text start none = .ok (text.drop start.toNat) := by
  rw [substring]
  exact if_neg (by omega)

/-- From a start within the text so many characters are given, if there are. -/
theorem substring_within (hstart : 0 ≤ start) (hcount : 0 ≤ count)
    (h : start + count ≤ text.length) :
    substring text start (some count) = .ok ((text.drop start.toNat).take count.toNat) := by
  rw [substring]
  exact (if_neg (by omega)).trans (if_neg (by omega))

/-- As many characters as `part` has are `part` exactly if it stands at the start. -/
theorem substring_eq_ok_iff : substring text start (some part.length) = .ok part ↔
    0 ≤ start ∧ start ≤ text.length ∧ part <+: text.drop start.toNat := by
  by_cases hstart : start < 0 ∨ (text.length : Int) < start
  · rw [substring_of_start_outside hstart]
    exact iff_of_false (by simp) (by omega)
  · have hlow : 0 ≤ start := by omega
    have hhigh : start ≤ text.length := by omega
    by_cases hcount : (text.length : Int) < start + part.length
    · rw [substring_of_count_outside hlow hhigh (.inr hcount)]
      refine iff_of_false (by simp) fun h => ?_
      have hle := h.2.2.length_le
      rw [List.length_drop] at hle
      omega
    · rw [substring_within hlow (Int.natCast_nonneg _) (by omega), Int.toNat_natCast,
        Except.ok.injEq, List.prefix_iff_eq_take]
      exact ⟨fun h => ⟨hlow, hhigh, h.symm⟩, fun h => h.2.2.symm⟩

end

variable {H : Type}

/-- A number that is an integer of 32 bits is taken as that integer. -/
theorem to_int32_of_is_exactly {n : Binary64} {k : Int} (h : n.IsExactly k)
    (hlow : -2147483648 ≤ k) (hhigh : k ≤ 2147483647) : (.number n : Value H).toInt32 = k :=
  h.to_int32.trans (by omega)

/-- The characters of a text are cut out exactly if the text is. -/
theorem map_of_chars_eq_ok_iff {result : Except EvalError (List Char)} {t : String} :
    result.map (ofChars (H := H)) = .ok (.string t) ↔ result = .ok t.toList := by
  cases result with
  | error => exact iff_of_false (by simp [Except.map]) (by simp)
  | ok chars =>
      constructor
      · intro h
        obtain rfl := Value.string.inj (Except.ok.inj h)
        rw [String.toList_ofList]
      · intro h
        obtain rfl := Except.ok.inj h
        exact congrArg (fun t => Except.ok (Value.string t)) String.ofList_toList

variable [HostObject H]

/-- A method of a string has a value for some arguments. -/
def Gives (s : String) (name : String) (args : List (Value H)) (value : Value H) : Prop :=
  method? (.string s) name args = some (.ok value)

/-- A method of a string fails for some arguments. -/
def Fails (s : String) (name : String) (args : List (Value H)) (error : EvalError) : Prop :=
  method? (.string s) name args = some (.error error)

section

variable {s t : String} {start count : Value H}

/-- `Substring` with a start gives the text that the start leaves. -/
theorem gives_rest_iff : Gives s "Substring" [start] (.string t) ↔
    substring s.toList start.toInt32 none = .ok t.toList :=
  Iff.trans Option.some_inj map_of_chars_eq_ok_iff

/-- `Substring` with a start and a length gives the text that they leave. -/
theorem gives_part_iff : Gives s "Substring" [start, count] (.string t) ↔
    substring s.toList start.toInt32 (some count.toInt32) = .ok t.toList :=
  Iff.trans Option.some_inj map_of_chars_eq_ok_iff

/-- `Substring` with a start and the length of a text gives the text exactly if it stands there. -/
theorem gives_iff_stands (hcount : count.toInt32 = t.length) :
    Gives s "Substring" [start, count] (.string t) ↔
      0 ≤ start.toInt32 ∧ start.toInt32 ≤ s.length ∧
        t.toList <+: s.toList.drop start.toInt32.toNat := by
  rw [gives_part_iff, hcount, ← String.length_toList, substring_eq_ok_iff, String.length_toList]

/-- A string starts with a text exactly if its front of that length is the text. -/
theorem starts_with_iff (hstart : start.toInt32 = 0) (hcount : count.toInt32 = t.length) :
    t.toList.isPrefixOf s.toList = true ↔
      t.length ≤ s.length ∧ Gives s "Substring" [start, count] (.string t) := by
  rw [gives_iff_stands hcount, hstart, List.isPrefixOf_iff_prefix]
  constructor
  · intro h
    have hle := h.length_le
    rw [String.length_toList, String.length_toList] at hle
    exact ⟨hle, by omega, by omega, h⟩
  · rintro ⟨-, -, -, h⟩
    exact h

/-- A string ends with a text exactly if what is left of it at that distance from its end is the
text. -/
theorem ends_with_iff (hstart : t.length ≤ s.length → start.toInt32 = s.length - t.length) :
    t.toList.isSuffixOf s.toList = true ↔
      t.length ≤ s.length ∧ Gives s "Substring" [start] (.string t) := by
  have hsuffix : t.toList.isSuffixOf s.toList = true ↔ t.length ≤ s.length ∧
      t.toList = s.toList.drop (s.length - t.length) := by
    rw [List.isSuffixOf_iff_suffix]
    constructor
    · intro h
      have hle := h.length_le
      rw [String.length_toList, String.length_toList] at hle
      refine ⟨hle, ?_⟩
      rw [← String.length_toList, ← String.length_toList]
      exact List.suffix_iff_eq_drop.1 h
    · rintro ⟨-, h⟩
      exact h ▸ List.drop_suffix _ _
  rw [hsuffix, gives_rest_iff]
  refine and_congr_right fun hle => ?_
  rw [hstart hle, substring_from (by omega) (by rw [String.length_toList]; omega),
    Except.ok.injEq, show ((s.length : Int) - t.length).toNat = s.length - t.length by omega]
  exact eq_comm

/-- A string is its front and its rest side by side. -/
theorem exists_front_back {k : Nat} (hstart : start.toInt32 = 0) (hcount : count.toInt32 = k)
    (hk : k ≤ s.length) :
    ∃ front back : Value H, Gives s "Substring" [start, count] front ∧
      Gives s "Substring" [count] back ∧ Value.binary .add front back = .ok (.string s) := by
  refine ⟨ofChars (s.toList.take k), ofChars (s.toList.drop k), ?_, ?_, ?_⟩
  · refine gives_part_iff.2 ?_
    rw [hstart, hcount,
      substring_within (by omega) (by omega) (by rw [String.length_toList]; omega),
      String.toList_ofList]
    rfl
  · refine gives_rest_iff.2 ?_
    rw [hcount, substring_from (by omega) (by rw [String.length_toList]; omega),
      String.toList_ofList]
    rfl
  · change Except.ok (Value.string (String.ofList (s.toList.take k) ++
      String.ofList (s.toList.drop k))) = _
    rw [← String.ofList_append, List.take_append_drop, String.ofList_toList]

/-- An item of a string is its part of length one. -/
theorem exists_item {n : Binary64} {i : Nat} (hn : n.IsExactly i)
    (hstart : (.number n : Value H).toInt32 = i) (hcount : count.toInt32 = 1) (hi : i < s.length) :
    ∃ c : Value H, Binding.object.getIndex (.string s) [.number n] = pure c ∧
      Gives s "Substring" [.number n, count] c := by
  have hlt : i < s.toList.length := by rwa [String.length_toList]
  refine ⟨ofChars [s.toList[i]], ?_, ?_⟩
  · have hindex : Binding.indexArg (.number n : Value H) = .ok (i : Int) := by
      rw [Binding.indexArg, Value.toNumber, Binary64.is_nan_of_finite hn.1,
        if_neg Bool.false_ne_true, hstart]
    have hitem : Binding.itemAt s.toList i = .ok s.toList[i] := by
      rw [Binding.itemAt, if_neg (by omega), Int.toNat_natCast, List.getElem?_eq_getElem hlt]
    have hfound : (do
        let c ← Binding.itemAt s.toList (← Binding.indexArg (.number n : Value H))
        return .string (String.ofList [c])) = Except.ok (ofChars (H := H) [s.toList[i]]) := by
      rw [hindex]
      change Binding.itemAt s.toList i >>= _ = _
      rw [hitem]
      rfl
    exact congrArg (liftM (n := Action (HostObject.State H))) hfound
  · refine gives_part_iff.2 ?_
    rw [hstart, hcount, substring_within (by omega) (by omega) (by omega), String.toList_ofList,
      Int.toNat_natCast]
    change Except.ok (List.take 1 _) = _
    rw [List.drop_eq_getElem_cons hlt]
    rfl

/-- A start outside the string is refused, with or without a length. -/
theorem fails_of_start_outside (h : start.toInt32 < 0 ∨ s.length < start.toInt32) :
    Fails s "Substring" [start] (.indexOutOfRange start.toInt32 s.length) ∧
      Fails s "Substring" [start, count] (.indexOutOfRange start.toInt32 s.length) := by
  rw [← String.length_toList] at h ⊢
  have herror := substring_of_start_outside h
  refine ⟨?_, ?_⟩
  · change some ((substring s.toList start.toInt32 none).map ofChars) = _
    rw [herror]
    rfl
  · change some ((substring s.toList start.toInt32 (some count.toInt32)).map ofChars) = _
    rw [herror]
    rfl

/-- A length that leads outside the string is refused. -/
theorem fails_of_count_outside (hlow : 0 ≤ start.toInt32) (hhigh : start.toInt32 ≤ s.length)
    (h : count.toInt32 < 0 ∨ s.length < start.toInt32 + count.toInt32) :
    Fails s "Substring" [start, count]
      (.invalidArgument (.substringLength count.toInt32 s.length)) := by
  rw [← String.length_toList] at hhigh h ⊢
  change some ((substring s.toList start.toInt32 (some count.toInt32)).map ofChars) = _
  rw [substring_of_count_outside hlow hhigh h]
  rfl

end

/-- `IndexOf` gives the first place of a text, exactly, or minus one, and `Contains` tells which. -/
theorem exists_place (s t : String) (hs : s.length ≤ 2147483647) :
    ∃ (place : Binary64) (i : Int) (contains : Bool),
      Gives s "IndexOf" [.string t] (.number place : Value H) ∧ place.IsExactly i ∧
      Gives s "Contains" [.string t] (.boolean contains : Value H) ∧ (contains = true ↔ 0 ≤ i) ∧
      (0 ≤ i → i ≤ s.length ∧ Text.FirstAt t.toList s.toList i.toNat) ∧
      (i < 0 → i = -1 ∧ ∀ j, ¬t.toList <+: s.toList.drop j) := by
  rcases index_of_cases t.toList s.toList with ⟨i, hindex, hcontains, hfirst⟩ |
    ⟨hindex, hcontains, hnowhere⟩
  · have hle := hfirst.le_length
    rw [String.length_toList] at hle
    refine ⟨.ofInt i, i, true, ?_, Binary64.is_exactly_of_int (by omega), ?_, by simp,
      fun _ => ⟨by omega, hfirst⟩, by omega⟩
    · exact congrArg (fun i => some (Except.ok (Value.ofInt i))) hindex
    · exact congrArg (fun b => some (Except.ok (Value.boolean b))) hcontains
  · refine ⟨.ofInt (-1), -1, false, ?_, Binary64.is_exactly_of_int (by decide), ?_, by simp,
      by omega, fun _ => ⟨rfl, hnowhere⟩⟩
    · exact congrArg (fun i => some (Except.ok (Value.ofInt i))) hindex
    · exact congrArg (fun b => some (Except.ok (Value.boolean b))) hcontains

/-- The members of strings of at most `2 ^ 31 - 1` characters agree on places and parts. `Substring`
takes its arguments as 32-bit integers. -/
theorem string_members_agree (s t : String) (hs : s.length ≤ 2147483647)
    (ht : t.length ≤ 2147483647) :
    ∃ (sLength tLength place : Binary64) (i : Int) (contains starts ends : Bool),
      (member? (.string s) "Length" = some (.number sLength : Value H) ∧
        sLength.IsExactly s.length ∧
        member? (.string t) "Length" = some (.number tLength : Value H) ∧
        tLength.IsExactly t.length ∧
        Gives s "IndexOf" [.string t] (.number place : Value H) ∧ place.IsExactly i ∧
        Gives s "Contains" [.string t] (.boolean contains : Value H) ∧
        Gives s "StartsWith" [.string t] (.boolean starts : Value H) ∧
        Gives s "EndsWith" [.string t] (.boolean ends : Value H)) ∧
      -- The first place of `t`, if there is one.
      (contains = true ↔ 0 ≤ i) ∧
      (0 ≤ i → Gives s "Substring" [.number place, .number tLength] (.string t : Value H) ∧
        ∀ start : Value H, start.toInt32 < i →
          ¬Gives s "Substring" [start, .number tLength] (.string t)) ∧
      (i < 0 → i = -1 ∧
        ∀ start : Value H, ¬Gives s "Substring" [start, .number tLength] (.string t)) ∧
      -- Its two ends.
      (starts = true ↔ t.length ≤ s.length ∧
        Gives s "Substring" [.number 0, .number tLength] (.string t : Value H)) ∧
      (ends = true ↔ t.length ≤ s.length ∧ ∃ start : Value H,
        Value.binary .subtract (.number sLength) (.number tLength) = .ok start ∧
          Gives s "Substring" [start] (.string t)) ∧
      -- Its parts.
      (∀ (n : Binary64) (k : Nat), n.IsExactly k → k ≤ s.length → ∃ front back : Value H,
        Gives s "Substring" [.number 0, .number n] front ∧
          Gives s "Substring" [.number n] back ∧
          Value.binary .add front back = .ok (.string s)) ∧
      (∀ (n : Binary64) (k : Nat), n.IsExactly k → k < s.length → ∃ c : Value H,
        Binding.object.getIndex (.string s) [.number n] = pure c ∧
          Gives s "Substring" [.number n, .number 1] c) ∧
      -- What is outside.
      (∀ start count : Value H, start.toInt32 < 0 ∨ s.length < start.toInt32 →
        Fails s "Substring" [start] (.indexOutOfRange start.toInt32 s.length) ∧
          Fails s "Substring" [start, count] (.indexOutOfRange start.toInt32 s.length)) ∧
      (∀ start count : Value H, 0 ≤ start.toInt32 → start.toInt32 ≤ s.length →
        count.toInt32 < 0 ∨ s.length < start.toInt32 + count.toInt32 →
        Fails s "Substring" [start, count]
          (.invalidArgument (.substringLength count.toInt32 s.length))) := by
  obtain ⟨place, i, contains, hplace, hexact, hcontains, hiff, hfound, hnone⟩ :=
    exists_place (H := H) s t hs
  have hsLength : (Binary64.ofNat s.length).IsExactly s.length :=
    Binary64.is_exactly_of_nat (by omega)
  have htLength : (Binary64.ofNat t.length).IsExactly t.length :=
    Binary64.is_exactly_of_nat (by omega)
  have hzero : (.number 0 : Value H).toInt32 = 0 :=
    to_int32_of_is_exactly (Binary64.is_exactly_of_nat (k := 0) (by decide)) (by decide) (by decide)
  have hone : (.number 1 : Value H).toInt32 = 1 :=
    to_int32_of_is_exactly (Binary64.is_exactly_of_nat (k := 1) (by decide)) (by decide) (by decide)
  have hcount : (.number (.ofNat t.length) : Value H).toInt32 = t.length :=
    to_int32_of_is_exactly htLength (by omega) (by omega)
  refine ⟨.ofNat s.length, .ofNat t.length, place, i, contains, t.toList.isPrefixOf s.toList,
    t.toList.isSuffixOf s.toList,
    ⟨rfl, hsLength, rfl, htLength, hplace, hexact, hcontains, rfl, rfl⟩,
    hiff, ?_, ?_, ?_, ?_, ?_, ?_, ?_, ?_⟩
  · intro hi
    obtain ⟨hle, hfirst⟩ := hfound hi
    have hstart : (.number place : Value H).toInt32 = i :=
      to_int32_of_is_exactly hexact (by omega) (by omega)
    refine ⟨(gives_iff_stands hcount).2 ?_, fun start hless hgives => ?_⟩
    · rw [hstart]
      exact ⟨hi, hle, hfirst.stands⟩
    · obtain ⟨hlow, -, hstands⟩ := (gives_iff_stands hcount).1 hgives
      exact hfirst.first _ (by omega) hstands
  · intro hi
    obtain ⟨rfl, hnowhere⟩ := hnone hi
    exact ⟨rfl, fun start hgives => hnowhere _ ((gives_iff_stands hcount).1 hgives).2.2⟩
  · exact starts_with_iff hzero hcount
  · have hdifference : Value.binary .subtract (.number (.ofNat s.length) : Value H)
        (.number (.ofNat t.length)) = .ok (.ofInt (s.length - t.length)) := by
      have hsub := Binary64.of_int_sub_of_int (a := s.length) (b := t.length) (by omega) (by omega)
      rw [Binary64.of_int_nat_cast, Binary64.of_int_nat_cast] at hsub
      exact congrArg (fun n => Except.ok (Value.number n)) hsub
    have hstart (hle : t.length ≤ s.length) :
        (.ofInt (s.length - t.length) : Value H).toInt32 = s.length - t.length :=
      to_int32_of_is_exactly (Binary64.is_exactly_of_int (by omega)) (by omega) (by omega)
    rw [ends_with_iff hstart]
    refine and_congr_right fun _ => ⟨fun h => ⟨_, hdifference, h⟩, ?_⟩
    rintro ⟨start, hstart, h⟩
    rw [hdifference] at hstart
    obtain rfl := Except.ok.inj hstart
    exact h
  · intro n k hn hk
    exact exists_front_back hzero (to_int32_of_is_exactly hn (by omega) (by omega)) hk
  · intro n k hn hk
    exact exists_item hn (to_int32_of_is_exactly hn (by omega) (by omega)) hone hk
  · exact fun start count => fails_of_start_outside
  · exact fun start count => fails_of_count_outside

/-- A text of two characters and five bytes, behind six bytes of another one. -/
theorem string_members_agree_behind_face :
    let s := "a😀b😀c"
    let t := "😀c"
    s.length ≤ 2147483647 ∧ t.length ≤ 2147483647 ∧
    ∃ place tLength : Binary64,
      member? (.string t) "Length" = some (.number tLength : Value Empty) ∧
      Gives s "IndexOf" [.string t] (.number place : Value Empty) ∧
      Gives s "Substring" [.number place, .number tLength] (.string t : Value Empty) ∧
      ∀ start : Value Empty, start.toInt32 < 0 ∨ (5 : Int) < start.toInt32 →
        Fails s "Substring" [start] (.indexOutOfRange start.toInt32 5) := by
  intro s t
  have hs : s.length = 5 := by decide +kernel
  have ht : t.length = 2 := by decide +kernel
  obtain ⟨-, tLength, place, i, contains, -, -,
    ⟨-, -, htLength, -, hplace, -, hcontains, -, -⟩, hiff, hfound, -, -, -, -, -, houtside, -⟩ :=
    string_members_agree (H := Empty) s t (by omega) (by omega)
  have htrue : Text.contains t.toList s.toList = true := by decide +kernel
  obtain rfl : contains = true :=
    (Value.boolean.inj (Except.ok.inj (Option.some.inj hcontains))).symm.trans htrue
  rw [hs] at houtside
  exact ⟨by omega, by omega, place, tLength, htLength, hplace, (hfound (hiff.1 rfl)).1,
    fun start hstart => (houtside start .null hstart).1⟩

end Formula.Builtin
