import Formula.Json.Reader
import Formula.Proofs.Fields

/-!
# Well-formed documents

A document is well formed if the members of its objects stand in order, each name once, and its
integers have 64 bits. The reader gives no other, `well_formed_of_read`. A rule of the reader is
followed through its parts by what all its results have in common, `Gives`.
-/

namespace Formula.Json

/-- The members of objects stand in order, and integers have 64 bits, with a sign if they are
negative. -/
inductive WellFormed : Json → Prop where
  | null : WellFormed .null
  | boolean (b : Bool) : WellFormed (.boolean b)
  | integer {n : Int} (hlow : -2 ^ 63 ≤ n) (hhigh : n < 2 ^ 64) : WellFormed (.integer n)
  | real (x : Binary64) (finite : x.isFinite) : WellFormed (.real x finite)
  | string (s : String) : WellFormed (.string s)
  | array {items : List Json} (hitems : ∀ item ∈ items, WellFormed item) :
      WellFormed (.array items)
  | object {members : List (String × Json)} (hsorted : Fields.Sorted members)
      (hmembers : ∀ member ∈ members, WellFormed member.2) : WellFormed (.object members)

/-- Entries that are well formed make a well-formed object. -/
theorem well_formed_of_members {members : List (String × Json)}
    (h : ∀ member ∈ members, member.2.WellFormed) : (ofMembers members).WellFormed :=
  .object (Fields.sorted_of_entries members) fun member hmember =>
    h member (Fields.mem_of_mem_of_entries hmember)

/-- All results of a rule have a property. -/
def Gives {α : Type} (rule : Rule α) (P : α → Prop) : Prop :=
  ∀ ⦃text : List Char⦄ ⦃result : α⦄ ⦃rest : List Char⦄, rule text = some (result, rest) → P result

section

variable {value : Rule Json}

/-- Items are well formed if all values are. -/
theorem items_well_formed (h : Gives value WellFormed) (fuel : Nat) :
    Gives (items? value fuel) fun items => ∀ item ∈ items, item.WellFormed := by
  induction fuel with
  | zero => exact fun _ _ _ => nofun
  | succ fuel ih =>
      intro text items rest hread
      simp only [items?, Option.bind_eq_bind, Option.bind_eq_some_iff] at hread
      obtain ⟨⟨item, behind⟩, hitem, hread⟩ := hread
      have hhead : item.WellFormed := h hitem
      split at hread
      · simp only [Option.bind_eq_some_iff] at hread
        obtain ⟨⟨more, left⟩, hmore, hread⟩ := hread
        cases hread
        exact List.forall_mem_cons.2 ⟨hhead, ih hmore⟩
      · cases hread
        exact List.forall_mem_singleton.2 hhead
      · exact nomatch hread

/-- A member is well formed if all values are. -/
theorem member_well_formed (h : Gives value WellFormed) :
    Gives (member? value) fun member => member.2.WellFormed := by
  intro text member rest hread
  unfold member? at hread
  split at hread
  · simp only [Option.bind_eq_bind, Option.bind_eq_some_iff] at hread
    obtain ⟨⟨name, behind⟩, -, hread⟩ := hread
    split at hread
    · simp only [Option.bind_eq_some_iff] at hread
      obtain ⟨⟨document, left⟩, hdocument, hread⟩ := hread
      cases hread
      exact h hdocument
    · exact nomatch hread
  · exact nomatch hread

/-- Members are well formed if all values are. -/
theorem members_well_formed (h : Gives value WellFormed) (fuel : Nat) :
    Gives (members? value fuel) fun members => ∀ member ∈ members, member.2.WellFormed := by
  induction fuel with
  | zero => exact fun _ _ _ => nofun
  | succ fuel ih =>
      intro text members rest hread
      simp only [members?, Option.bind_eq_bind, Option.bind_eq_some_iff] at hread
      obtain ⟨⟨member, behind⟩, hmember, hread⟩ := hread
      have hhead : member.2.WellFormed := member_well_formed h hmember
      split at hread
      · simp only [Option.bind_eq_some_iff] at hread
        obtain ⟨⟨more, left⟩, hmore, hread⟩ := hread
        cases hread
        exact List.forall_mem_cons.2 ⟨hhead, ih hmore⟩
      · cases hread
        exact List.forall_mem_singleton.2 hhead
      · exact nomatch hread

/-- An array is well formed if all values are. -/
theorem array_well_formed (h : Gives value WellFormed) : Gives (array? value) WellFormed := by
  intro text document rest hread
  unfold array? at hread
  split at hread
  · cases hread
    exact .array nofun
  · simp only [Option.map_eq_some_iff] at hread
    obtain ⟨⟨items, left⟩, hitems, hread⟩ := hread
    cases hread
    exact .array (items_well_formed h _ hitems)

/-- An object is well formed if all values are. -/
theorem object_well_formed (h : Gives value WellFormed) : Gives (object? value) WellFormed := by
  intro text document rest hread
  unfold object? at hread
  split at hread
  · cases hread
    exact .object List.Pairwise.nil nofun
  · simp only [Option.map_eq_some_iff] at hread
    obtain ⟨⟨members, left⟩, hmembers, hread⟩ := hread
    cases hread
    exact well_formed_of_members (members_well_formed h _ hmembers)

end

/-- An integer that is read has 64 bits. -/
theorem integer_well_formed {negative : Bool} {size : Nat} {document : Json}
    (h : integer? negative size = some document) : document.WellFormed := by
  unfold integer? at h
  split at h
  · split at h
    · rename_i hsize
      cases h
      have hbound : size ≤ 2 ^ 63 := hsize.2
      exact .integer (by omega) (by omega)
    · exact nomatch h
  · split at h
    · rename_i hsize
      cases h
      have hbound : size < 2 ^ 64 := hsize
      exact .integer (by omega) (by omega)
    · exact nomatch h

/-- A double is well formed. -/
theorem real_well_formed {x : Binary64} {document : Json} (h : ofBinary64? x = some document) :
    document.WellFormed := by
  unfold ofBinary64? at h
  split at h
  · cases h
    exact .real x _
  · exact nomatch h

/-- A number is well formed, whether it is an integer or a double. -/
theorem number_well_formed (negative : Bool) : Gives (number? negative) WellFormed := by
  intro text document rest hread
  simp only [number?, Option.bind_eq_bind, Option.bind_eq_some_iff] at hread
  obtain ⟨whole, -, fraction, -, exponent, -, hread⟩ := hread
  split at hread
  · simp only [Option.bind_eq_some_iff, Option.orElse_eq_some] at hread
    obtain ⟨result, hinteger | ⟨-, x, -, hreal⟩, hread⟩ := hread
    · cases hread
      exact integer_well_formed hinteger
    · cases hread
      exact real_well_formed hreal
  · simp only [Option.bind_eq_some_iff] at hread
    obtain ⟨result, ⟨x, -, hreal⟩, hread⟩ := hread
    cases hread
    exact real_well_formed hreal

/-- A word gives its document only. -/
theorem word_gives (word : List Char) (result : Json) : Gives (word? word result) (· = result) := by
  intro text document rest hread
  unfold word? at hread
  split at hread
  · cases hread
    rfl
  · exact nomatch hread

/-- A document that is no container is well formed. -/
theorem scalar_well_formed : Gives scalar? WellFormed := by
  intro text document rest hread
  unfold scalar? at hread
  split at hread
  · simp only [Option.map_eq_some_iff] at hread
    obtain ⟨⟨s, left⟩, -, hread⟩ := hread
    cases hread
    exact .string s
  · exact number_well_formed true hread
  · simp only [Option.orElse_eq_some] at hread
    rcases hread with hnull | ⟨-, htrue | ⟨-, hfalse | ⟨-, hnumber⟩⟩⟩
    · rw [word_gives _ _ hnull]
      exact .null
    · rw [word_gives _ _ htrue]
      exact .boolean true
    · rw [word_gives _ _ hfalse]
      exact .boolean false
    · exact number_well_formed false hnumber

/-- A document is well formed, however many containers it may open. -/
theorem value_well_formed (budget : Nat) : Gives (value? budget) WellFormed := by
  induction budget with
  | zero => exact fun _ _ _ hread => scalar_well_formed hread
  | succ budget ih =>
      intro text document rest hread
      unfold value? at hread
      split at hread
      · exact array_well_formed ih hread
      · exact object_well_formed ih hread
      · exact scalar_well_formed hread

/-- Every document that is read is well formed. -/
theorem well_formed_of_read {text : String} {document : Json} (h : read? text = some document) :
    document.WellFormed := by
  simp only [read?, Option.bind_eq_bind, Option.bind_eq_some_iff] at h
  obtain ⟨⟨result, rest⟩, hvalue, h⟩ := h
  split at h
  · cases h
    exact value_well_formed maxNesting hvalue
  · exact nomatch h

end Formula.Json
