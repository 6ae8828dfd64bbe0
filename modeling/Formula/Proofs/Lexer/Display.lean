import Formula.Proofs.Lexer.Spelling

/-!
# Tokens read back from their display

Every token of a source is read back from how it is displayed, if a blank or nothing follows. Displays
with blanks between them are read as the tokens that they display, `content_of_displayed`.
-/

namespace Formula

/-- What a token is apart from where it stands. -/
def Token.content (token : Token) : TokenKind × String :=
  (token.kind, token.text)

namespace Lexeme

/-- Whether a blank or nothing follows. -/
def AtBlank (rest : List Char) : Prop :=
  rest = [] ∨ ∃ more, rest = ' ' :: more

section

variable {first : Char} {rest other : List Char}

/-- A blank may follow an operand, and so may nothing. -/
theorem AtBlank.closes (h : AtBlank rest) : Closes rest := by
  rcases h with rfl | ⟨more, rfl⟩
  · exact .inl rfl
  · exact .inr (.inl ⟨' ', more, rfl, List.mem_cons_self⟩)

/-- A blank is no quote. -/
theorem AtBlank.not_quote (h : AtBlank rest) : rest.head? ≠ some '"' := by
  rcases h with rfl | ⟨more, rfl⟩ <;> simp

/-- What starts no symbol starts none before a blank. -/
theorem AtBlank.symbol_part (h : AtBlank rest) (hnone : symbolPart? first other = none) :
    symbolPart? first rest = none := by
  have hsingle : singleSymbol? first = none := by
    unfold symbolPart? at hnone
    split at hnone
    · exact nomatch hnone
    · simpa using hnone
  have hdouble : rest.head?.bind (doubleSymbol? first) = none := by
    rcases h with rfl | ⟨more, rfl⟩
    · rfl
    · simp only [List.head?_cons, Option.bind_some]
      unfold doubleSymbol?
      split <;> simp_all
  rw [symbolPart?, hdouble, hsingle]
  rfl

/-- A lexeme of the kind of symbols has the text of its symbol. -/
theorem text_of_punctuation {symbol : Symbol}
    (h : (read first rest).kind = .punctuation symbol) : (read first rest).text = symbol.text := by
  unfold read at h ⊢
  split at h
  · exact nomatch h
  · split at h
    · exact nomatch h
    · split at h
      · exact nomatch h
      · split at h
        · obtain rfl := TokenKind.punctuation.inj h
          simp [*]
        · exact nomatch h

/-- A lexeme of no known kind is one character, and before a blank is one again. -/
theorem read_of_unknown (h : (read first other).kind = .unknown) :
    (read first other).text = String.ofList [first] ∧
      ∀ rest, AtBlank rest → read first rest = ⟨.unknown, String.ofList [first], 0⟩ := by
  unfold read at h
  split at h
  · exact nomatch h
  · rename_i hstart
    split at h
    · exact nomatch h
    · rename_i hdigit
      split at h
      · exact nomatch h
      · rename_i hquote
        cases hsymbol : symbolPart? first other with
        | some symbol => simp [hsymbol] at h
        | none =>
            refine ⟨by simp [read, hstart, hdigit, hquote, hsymbol], fun rest hrest => ?_⟩
            simp [read, hstart, hdigit, hquote, hrest.symbol_part hsymbol]

end

/-- Whether a token is read back from its display before a blank. -/
def IsShown (token : Token) : Prop :=
  Spells token.display.toList AtBlank (IsToken token.kind token.text)

end Lexeme

open Lexeme

/-- A symbol is read back from its display. -/
theorem Token.is_shown_symbol (symbol : Symbol) (position : Nat) :
    IsShown ⟨.punctuation symbol, symbol.text, position⟩ :=
  (spells_symbol symbol).imp (fun _ hrest => hrest.closes.ends_symbol) fun _ hts => hts

/-- A name is read back from its display. -/
theorem Token.is_shown_name {name : String} (h : IsIdentifier name) (position : Nat) :
    IsShown ⟨.identifier, name, position⟩ :=
  (spells_word h).imp (fun _ hrest => hrest.closes.ends_word) fun _ hts => hts

/-- A token of a source is read back from its display. -/
theorem Token.is_shown {text : String} {token : Token} (h : token ∈ tokenize text) :
    IsShown token := by
  obtain ⟨first, rest, hblank, hread, htext⟩ := Unread.exists_read_of_mem_tokens h
  obtain ⟨kind, said, position⟩ := token
  dsimp only at hread htext
  cases hkind : kind with
  | endOfInput => exact absurd hkind (Token.kind_ne_end_of_input h)
  | punctuation symbol =>
      subst hkind
      rw [text_of_punctuation hread.symm] at htext
      subst htext
      exact Token.is_shown_symbol symbol position
  | identifier =>
      subst hkind
      exact Token.is_shown_name (Token.is_identifier h rfl) position
  | string =>
      subst hkind
      exact (spells_quote said).imp (fun _ hrest => hrest.not_quote) fun _ hts => hts
  | number =>
      obtain ⟨first, rest, hfirst, hnumber⟩ := Token.number_text h hkind
      obtain ⟨whole, fraction, tail, heq, hwhole, hne, hfraction, htail⟩ :=
        number_part_shape hfirst rest
      have hsaid : said = String.ofList (whole ++ (fraction ++ tail)) := by
        rw [← heq, ← hnumber, String.ofList_toList]
      subst hkind hsaid
      have hspells := spells_number_text hwhole hne hfraction htail
      rw [IsShown, Token.display, String.toList_ofList]
      exact hspells.imp (fun _ hrest => hrest.closes.ends_number) fun _ hts => hts
  | unknown =>
      subst hkind
      obtain ⟨hsaid, hagain⟩ := read_of_unknown hread.symm
      obtain rfl := htext.trans hsaid
      rw [IsShown, Token.display, String.toList_ofList]
      exact spells_of_read hblank hagain

/-- Displays with blanks between them. -/
def displayed (ts : List Token) : String :=
  String.intercalate " " (ts.map Token.display)

/-- Displays with blanks between them spell the tokens that they display. -/
theorem spells_displayed {ts : List Token} (h : ∀ token ∈ ts, IsShown token) :
    Spells (displayed ts).toList AtBlank fun us =>
      us.map Token.content = ts.map Token.content := by
  induction ts with
  | nil => exact fun position rest _ => ⟨[], position, rfl, rfl⟩
  | cons token ts ih =>
      have htoken : Spells token.display.toList AtBlank fun us =>
          us.map Token.content = [token.content] := by
        refine (h token List.mem_cons_self).weaken fun us hus => ?_
        obtain ⟨token', rfl, hkind, htext⟩ := hus
        rw [List.map_singleton, Token.content, Token.content, hkind, htext]
      have hts := ih fun other hother => h other (List.mem_cons_of_mem token hother)
      cases ts with
      | nil => simpa [displayed] using htoken
      | cons next ts =>
          have htext : (displayed (token :: next :: ts)).toList =
              token.display.toList ++ ' ' :: (displayed (next :: ts)).toList := by
            simp [displayed, String.toList_intercalate]
          rw [htext]
          refine (htoken.append hts.blank fun rest _ => .inr ⟨_, rfl⟩).weaken ?_
          rintro _ ⟨us, vs, rfl, hus, hvs⟩
          rw [List.map_append, hus, hvs]
          rfl

/-- Displays with blanks between them are read as the tokens that they display. -/
theorem content_of_displayed {ts : List Token} (h : ∀ token ∈ ts, IsShown token) :
    (tokenize (displayed ts)).map Token.content = ts.map Token.content := by
  obtain ⟨us, position, heq, hus⟩ := spells_displayed h 0 [] (.inl rfl)
  rw [List.append_nil, Unread.tokens_nil, List.append_nil] at heq
  rw [tokenize, Unread.ofText, heq, hus]

end Formula
