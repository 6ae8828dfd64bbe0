import Formula.Text.Search
import Mathlib

/-!
# The first place of a text in another one

A text is searched for by bytes. The bytes before the first place hold exactly the characters before
it, `chars_within_byte_length`, so that the place can be counted in characters.
-/

namespace Formula.Text

variable {part text : List Char}

/-- The number of bytes of a text in UTF-8. -/
def byteLength (text : List Char) : Nat :=
  (text.map Char.utf8Size).sum

/-- The bytes of the front of a text hold the characters of the front. -/
theorem chars_within_byte_length (before behind : List Char) :
    charsWithin (byteLength before) (before ++ behind) = before.length := by
  induction before with
  | nil => cases behind <;> rfl
  | cons c before ih =>
      have hbytes : byteLength (c :: before) = c.utf8Size + byteLength before := by
        simp [byteLength]
      have hpos : c.utf8Size + byteLength before ≠ 0 := by
        have hsize := c.utf8Size_pos
        omega
      rw [hbytes, List.cons_append, charsWithin, if_neg hpos, Nat.add_sub_cancel_left, ih,
        List.length_cons]

/-- Whether a place in a text is the first one where `part` stands. -/
structure FirstAt (part text : List Char) (i : Nat) : Prop where
  le_length : i ≤ text.length
  stands : part <+: text.drop i
  first : ∀ j < i, ¬part <+: text.drop j

/-- What does not stand in front stands first one further than in the rest. -/
theorem FirstAt.cons {c : Char} {rest : List Char} {i : Nat} (h : FirstAt part rest i)
    (hfront : ¬part <+: c :: rest) : FirstAt part (c :: rest) (i + 1) := by
  refine ⟨Nat.succ_le_succ h.le_length, h.stands, fun j hj => ?_⟩
  cases j with
  | zero => exact hfront
  | succ j => exact h.first j (Nat.lt_of_succ_lt_succ hj)

/-- A byte that is found is where the text stands first. -/
theorem first_at_of_bytes_before {bytes : Nat} (h : bytesBefore? part text = some bytes) :
    ∃ i, bytes = byteLength (text.take i) ∧ FirstAt part text i := by
  induction text generalizing bytes with
  | nil =>
      rw [bytesBefore?] at h
      split at h
      · rename_i hempty
        obtain rfl := Option.some.inj h
        obtain rfl := List.isEmpty_iff.1 hempty
        exact ⟨0, rfl, Nat.le_refl 0, List.nil_prefix, by simp⟩
      · exact nomatch h
  | cons c rest ih =>
      rw [bytesBefore?] at h
      split at h
      · rename_i hfront
        obtain rfl := Option.some.inj h
        exact ⟨0, rfl, Nat.zero_le _, List.isPrefixOf_iff_prefix.1 hfront, by simp⟩
      · rename_i hfront
        obtain ⟨before, hbefore, rfl⟩ := Option.map_eq_some_iff.1 h
        obtain ⟨i, rfl, hfirst⟩ := ih hbefore
        refine ⟨i + 1, ?_, hfirst.cons (mt List.isPrefixOf_iff_prefix.2 hfront)⟩
        simp [byteLength, Nat.add_comm]

/-- A text that is not found stands nowhere. -/
theorem not_prefix_of_bytes_before (h : bytesBefore? part text = none) (j : Nat) :
    ¬part <+: text.drop j := by
  induction text generalizing j with
  | nil =>
      rw [bytesBefore?] at h
      split at h
      · exact nomatch h
      · rename_i hempty
        rw [List.drop_nil, List.prefix_nil, ← List.isEmpty_iff]
        exact hempty
  | cons c rest ih =>
      rw [bytesBefore?] at h
      split at h
      · exact nomatch h
      · rename_i hfront
        cases j with
        | zero => exact mt List.isPrefixOf_iff_prefix.2 hfront
        | succ j => exact ih (Option.map_eq_none_iff.1 h) j

end Formula.Text
