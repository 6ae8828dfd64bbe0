import Formula.Proofs.Lexer.Display
import Formula.Proofs.Lexer.Tiling

/-!
# Displays read again

The tokens of a text, displayed with blanks between them, are written there as they are displayed: a
string with its quotes doubled and closed, and any other token as its text. So the displays are tiled
by the same tokens laid out one after the other, `tiled_displayed`, and displaying and reading them
again changes nothing more, `tokenize_displayed`.
-/

namespace Formula

open Lexeme

section

variable {text : String} {token : Token} {lexeme rest : List Char}

/-- A token is displayed as it is written, with a closing quote if a string lacks it at the end of
the source. -/
theorem Token.display_of_written (h : Written token.kind token.text lexeme rest) :
    token.display.toList = lexeme ∨ rest = [] ∧ token.display.toList = lexeme ++ ['"'] := by
  obtain ⟨kind, said, position⟩ := token
  dsimp only at h
  cases h with
  | longest hkind hsaid hlongest =>
      have hdisplay : (⟨kind, said, position⟩ : Token).display = said := by
        cases hlongest.is_lexeme with
        | string => exact absurd rfl hkind
        | word | number | symbol => rfl
      rw [hdisplay]
      exact .inl hsaid
  | string hends =>
      rw [Token.display, to_list_quote_text]
      rcases hends with ⟨rfl, -⟩ | ⟨rfl, hrest⟩
      · exact .inl rfl
      · exact .inr ⟨hrest, rfl⟩
  | unknown hsaid => exact .inl hsaid

/-- A token of a text is written before a blank, and at the end, as it is displayed. -/
theorem Token.written_display (h : token ∈ tokenize text) (hrest : AtBlank rest) :
    Written token.kind token.text token.display.toList rest := by
  obtain ⟨first, source, hblank, hkind, htext⟩ := Unread.exists_read_of_mem_tokens h
  -- The display starts as the token is written in its text.
  obtain ⟨tail, hdisplay⟩ : ∃ tail, token.display.toList = first :: tail := by
    obtain ⟨tail, back, -, -, hwritten⟩ := read_writes hblank source
    rw [← hkind, ← htext] at hwritten
    rcases display_of_written hwritten with hdisplay | ⟨-, hdisplay⟩
    · exact ⟨_, hdisplay⟩
    · exact ⟨_, hdisplay⟩
  obtain ⟨_, _, heq, shown, rfl, hshown, hsaid⟩ := Token.is_shown h 0 rest hrest
  rw [hdisplay, List.cons_append, Unread.tokens_of_not_blank hblank] at heq
  obtain rfl := (List.cons.inj heq).1
  obtain ⟨tail', back, hsplit, -, hwritten⟩ := read_writes hblank (tail ++ rest)
  dsimp only at hshown hsaid
  rw [hshown, hsaid] at hwritten
  -- It is written as the whole display, since an open string would end the text.
  rcases display_of_written hwritten with hlexeme | ⟨rfl, hlexeme⟩
  · rw [hdisplay] at hlexeme
    obtain rfl := (List.cons.inj hlexeme).2
    rw [hdisplay, List.append_cancel_left hsplit]
    exact hwritten
  · rw [hdisplay] at hlexeme
    have hlength := congrArg List.length hsplit
    have hlonger := congrArg List.length hlexeme
    simp only [List.length_append, List.length_cons, List.length_nil] at hlength hlonger
    omega

end

/-- Tokens with the positions that they have when they stand as they are displayed, with blanks
between them. -/
def laidOut (position : Nat) : List Token → List Token
  | [] => []
  | token :: ts =>
      { token with position } :: laidOut (position + token.display.length + 1) ts

/-- Tokens that are laid out are the same tokens at other positions. -/
theorem content_laid_out (position : Nat) (ts : List Token) :
    (laidOut position ts).map Token.content = ts.map Token.content := by
  induction ts generalizing position with
  | nil => rfl
  | cons token ts ih => exact congrArg (token.content :: ·) (ih _)

/-- Tokens that are laid out are displayed alike. -/
theorem displayed_laid_out (position : Nat) (ts : List Token) :
    displayed (laidOut position ts) = displayed ts := by
  have hdisplay : (laidOut position ts).map Token.display = ts.map Token.display := by
    induction ts generalizing position with
    | nil => rfl
    | cons token ts ih => exact congrArg (token.display :: ·) (ih _)
  rw [displayed, hdisplay, displayed]

/-- Displays are tiled by the tokens that they display, laid out one after the other. -/
theorem tiled_displayed {ts : List Token}
    (h : ∀ token ∈ ts, ∀ rest, AtBlank rest →
      Written token.kind token.text token.display.toList rest) (position : Nat) :
    Tiled position (displayed ts).toList (laidOut position ts) := by
  induction ts generalizing position with
  | nil => exact .done (List.forall_mem_nil _)
  | cons token ts ih =>
      have hwritten := h token List.mem_cons_self
      have htiled := ih fun other hother => h other (List.mem_cons_of_mem token hother)
      cases ts with
      | nil =>
          have hsource : (displayed [token]).toList = [] ++ (token.display.toList ++ []) := by
            simp [displayed]
          rw [hsource]
          exact .token (List.forall_mem_nil _) rfl (hwritten [] (.inl rfl))
            (.done (List.forall_mem_nil _))
      | cons next ts =>
          have hsource : (displayed (token :: next :: ts)).toList =
              [] ++ (token.display.toList ++ ' ' :: (displayed (next :: ts)).toList) := by
            simp [displayed, String.toList_intercalate]
          rw [hsource]
          refine .token (List.forall_mem_nil _) rfl (hwritten _ (.inr ⟨_, rfl⟩)) ?_
          rw [String.length_toList]
          exact (htiled _).blank rfl

/-- The tokens of a text are read again from their displays with blanks between them, laid out one
after the other: the same kinds and texts in the same order, and every string with its quotes doubled
and closed. To display and read them once more changes neither the displays nor the tokens, of which
it keeps the positions too. -/
theorem tokenize_displayed (text : String) :
    tokenize (displayed (tokenize text)) = laidOut 0 (tokenize text) ∧
    (tokenize (displayed (tokenize text))).map Token.content =
      (tokenize text).map Token.content ∧
    (∀ token ∈ tokenize text, token.kind = .string →
      token.display.toList = '"' :: (doubled token.text.toList ++ ['"'])) ∧
    displayed (tokenize (displayed (tokenize text))) = displayed (tokenize text) ∧
    tokenize (displayed (tokenize (displayed (tokenize text)))) =
      tokenize (displayed (tokenize text)) := by
  have hread : tokenize (displayed (tokenize text)) = laidOut 0 (tokenize text) :=
    (tiled_displayed (fun _ htoken _ => Token.written_display htoken) 0).tokens_eq
  have hshown := displayed_laid_out 0 (tokenize text)
  rw [hread]
  refine ⟨rfl, content_laid_out 0 _, fun token _ hkind => ?_, hshown, by rw [hshown, hread]⟩
  rw [Token.display, hkind, to_list_quote_text]

-- Signs and an open string that stand side by side are shown apart, the string closed.
example : (tokenize (displayed (tokenize "1e+=\"a\"\"b"))).map (fun token =>
    (token.display, token.position)) = [("1", 0), ("e", 2), ("+", 4), ("=", 6),
      ("\"a\"\"b\"", 8)] := by
  decide +kernel

end Formula
