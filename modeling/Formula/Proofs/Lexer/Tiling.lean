import Formula.Proofs.Lexer.Grammar
import Formula.Token.Cursor

/-!
# The tokens of a source tile it

`Tiled position source ts` says that a source is blanks and the lexemes of its tokens in turn. A
source is tiled by its tokens and by no others, `tiled_iff`, so that nothing of a text is lost,
doubled or moved when it is split, and that a token depends on what follows it only as far as that
could make it longer.
-/

namespace Formula

open Lexeme

/-- Whether a source that starts at a position is blanks and the lexemes of tokens in turn, each token
at the position of its lexeme. -/
inductive Tiled : Nat → List Char → List Token → Prop where
  | done {position blanks} :
      (∀ c ∈ blanks, Text.isBlank c = true) → Tiled position blanks []
  | token {position blanks token lexeme rest ts} :
      (∀ c ∈ blanks, Text.isBlank c = true) → token.position = position + blanks.length →
      Written token.kind token.text lexeme rest →
      Tiled (token.position + lexeme.length) rest ts →
      Tiled position (blanks ++ (lexeme ++ rest)) (token :: ts)

section

variable {position : Nat} {source : List Char} {ts : List Token}

/-- A blank in front of a tiled source. -/
theorem Tiled.blank {c : Char} (hc : Text.isBlank c = true) (h : Tiled (position + 1) source ts) :
    Tiled position (c :: source) ts := by
  cases h with
  | done hblanks => exact .done (List.forall_mem_cons.2 ⟨hc, hblanks⟩)
  | @token _ blanks token lexeme rest ts hblanks hposition hwritten hrest =>
      show Tiled position ((c :: blanks) ++ (lexeme ++ rest)) (token :: ts)
      refine .token (List.forall_mem_cons.2 ⟨hc, hblanks⟩) ?_ hwritten hrest
      rw [hposition, List.length_cons]
      omega

/-- A source is tiled by its tokens. -/
theorem tiled_tokens (position : Nat) (source : List Char) :
    Tiled position source (Unread.tokens ⟨position, source⟩) := by
  induction source using Unread.source_induction generalizing position with
  | nil =>
      rw [Unread.tokens_nil]
      exact .done nofun
  | blank c rest hc ih =>
      rw [Unread.tokens_of_blank hc]
      exact (ih (position + 1)).blank hc
  | lexeme first rest hfirst ih =>
      obtain ⟨tail, back, heq, hextra, hwritten⟩ := read_writes hfirst rest
      have hback : rest.drop (Lexeme.read first rest).extra = back := by
        rw [← hextra, heq, List.drop_left]
      rw [Unread.tokens_of_not_blank hfirst, hback, ← hextra]
      rw [hback] at ih
      have htiled := ih (position + 1 + tail.length)
      have hsource : first :: rest = [] ++ (first :: tail ++ back) := by rw [heq]; rfl
      have hposition : position + 1 + tail.length = position + (first :: tail).length := by
        rw [List.length_cons]
        omega
      rw [hsource, hposition]
      exact .token nofun rfl hwritten (ih _)

/-- Blanks in front of tokens are passed over. -/
theorem Unread.tokens_blanks {blanks : List Char} (hblanks : ∀ c ∈ blanks, Text.isBlank c = true)
    (position : Nat) (source : List Char) :
    tokens ⟨position, blanks ++ source⟩ = tokens ⟨position + blanks.length, source⟩ := by
  induction blanks generalizing position with
  | nil => rfl
  | cons c blanks ih =>
      obtain ⟨hc, hblanks⟩ := List.forall_mem_cons.1 hblanks
      have hposition : position + 1 + blanks.length = position + (c :: blanks).length := by
        rw [List.length_cons]
        omega
      rw [List.cons_append, tokens_of_blank hc, ih hblanks, hposition]

/-- The tokens that tile a source are its tokens. -/
theorem Tiled.tokens_eq (h : Tiled position source ts) :
    Unread.tokens ⟨position, source⟩ = ts := by
  induction h with
  | @done position blanks hblanks =>
      have htokens := Unread.tokens_blanks hblanks position []
      rwa [List.append_nil, Unread.tokens_nil] at htokens
  | @token position blanks token lexeme rest ts hblanks hposition hwritten hrest ih =>
      obtain ⟨first, tail, rfl⟩ := hwritten.exists_cons
      have hlength : token.position + (first :: tail).length =
          token.position + 1 + tail.length := by
        rw [List.length_cons]
        omega
      rw [hlength] at ih
      rw [Unread.tokens_blanks hblanks, ← hposition, List.cons_append,
        Unread.tokens_of_not_blank hwritten.not_blank, hwritten.read, List.drop_left, ih]

/-- A source is tiled by its tokens and by no others. -/
theorem tiled_iff : Tiled position source ts ↔ ts = Unread.tokens ⟨position, source⟩ :=
  ⟨fun h => h.tokens_eq.symm, fun h => h ▸ tiled_tokens position source⟩

/-- A source has at least as many characters as tokens. -/
theorem Tiled.length_le (h : Tiled position source ts) : ts.length ≤ source.length := by
  induction h with
  | done => exact Nat.zero_le _
  | token hblanks hposition hwritten hrest ih =>
      obtain ⟨first, tail, rfl⟩ := hwritten.exists_cons
      simp only [List.length_cons, List.length_append]
      omega

end

namespace Unread

/-- Where a source ends of which some part is unread. -/
def endPosition (unread : Unread) : Nat :=
  unread.position + unread.rest.length

/-- Reading on yields the first of the tokens and leaves the others; without any it yields the end of
input. -/
theorem next_eq (unread : Unread) :
    unread.next.1 = unread.tokens.headD (.endOfInput unread.endPosition) ∧
      unread.next.2.tokens = unread.tokens.tail ∧
      unread.next.2.endPosition = unread.endPosition := by
  obtain ⟨position, source⟩ := unread
  induction source using source_induction generalizing position with
  | nil =>
      rw [tokens_nil]
      exact ⟨rfl, tokens_nil, rfl⟩
  | blank c rest hc ih =>
      have hend : endPosition ⟨position, c :: rest⟩ = endPosition ⟨position + 1, rest⟩ := by
        simp only [endPosition, List.length_cons]
        omega
      rw [next_of_blank hc, tokens_of_blank hc, hend]
      exact ih (position + 1)
  | lexeme first rest hfirst ih =>
      obtain ⟨tail, back, heq, hextra, -⟩ := read_writes hfirst rest
      have hlength := congrArg List.length heq
      rw [List.length_append] at hlength
      rw [next_of_not_blank hfirst, tokens_of_not_blank hfirst]
      refine ⟨rfl, rfl, ?_⟩
      simp only [endPosition, List.length_drop, List.length_cons]
      omega

end Unread

namespace Cursor

/-- A cursor after some moves. -/
def moved (cursor : Cursor) : Nat → Cursor
  | 0 => cursor
  | count + 1 => (cursor.moved count).moveNext.2

/-- A cursor that moves leaves one token after the other behind. -/
theorem tokens_moved (cursor : Cursor) (count : Nat) :
    (cursor.moved count).unread.tokens = cursor.unread.tokens.drop count ∧
      (cursor.moved count).unread.endPosition = cursor.unread.endPosition := by
  induction count with
  | zero => exact ⟨rfl, rfl⟩
  | succ count ih =>
      obtain ⟨-, htokens, hend⟩ := (cursor.moved count).unread.next_eq
      refine ⟨?_, hend.trans ih.2⟩
      rw [← List.tail_drop, ← ih.1, ← htokens]
      rfl

/-- A cursor that moves comes to the tokens in order, and behind the last one to the end of input. -/
theorem token_moved (cursor : Cursor) (count : Nat) :
    (cursor.moved (count + 1)).token =
      cursor.unread.tokens[count]?.getD (.endOfInput cursor.unread.endPosition) := by
  obtain ⟨htokens, hend⟩ := cursor.tokens_moved count
  obtain ⟨htoken, -⟩ := (cursor.moved count).unread.next_eq
  rw [htokens, hend, List.headD_eq_head?_getD, List.head?_drop] at htoken
  exact htoken

end Cursor

/-- The tokens of a text tile it: it is blanks and the lexemes of the tokens in turn, where a word, a
number or a symbol is the longest lexeme that starts at its position, and no other tokens tile it.
They stand in order, and a cursor moves over all of them and then to the end of input. -/
theorem tokenize_tiles (text : String) :
    (∀ ts, Tiled 0 text.toList ts ↔ ts = tokenize text) ∧
    (tokenize text).Pairwise (fun first second => first.position < second.position) ∧
    (tokenize text).length ≤ text.length ∧
    ∀ count,
      ((Cursor.start text).moved count).moveNext.1 = decide (count < (tokenize text).length) ∧
      ((Cursor.start text).moved (count + 1)).token =
        (tokenize text)[count]?.getD (.endOfInput text.length) := by
  refine ⟨fun ts => tiled_iff, Unread.pairwise_position_lt 0 text.toList, ?_, fun count => ?_⟩
  · rw [← String.length_toList]
    exact (tiled_tokens 0 text.toList).length_le
  · have hend : (Cursor.start text).unread.endPosition = text.length := by
      show 0 + text.toList.length = text.length
      rw [Nat.zero_add, String.length_toList]
    have htoken : ((Cursor.start text).moved (count + 1)).token =
        (tokenize text)[count]?.getD (.endOfInput text.length) := by
      rw [← hend]
      exact (Cursor.start text).token_moved count
    refine ⟨?_, htoken⟩
    -- A move says whether the token that it comes to is one of the source.
    show (!((Cursor.start text).moved (count + 1)).token.hasKind .endOfInput) = _
    rw [htoken]
    by_cases hcount : count < (tokenize text).length
    · have hmem : (tokenize text)[count] ∈ tokenize text := List.getElem_mem hcount
      have hkind : ((tokenize text)[count]).hasKind .endOfInput = false :=
        decide_eq_false (Token.kind_ne_end_of_input hmem)
      rw [List.getElem?_eq_getElem hcount, Option.getD_some, hkind, decide_eq_true hcount]
      rfl
    · rw [List.getElem?_eq_none (Nat.le_of_not_lt hcount), Option.getD_none,
        decide_eq_false hcount]
      rfl

end Formula
