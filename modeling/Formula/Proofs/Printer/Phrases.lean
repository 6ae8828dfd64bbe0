import Formula.Proofs.Lexer.Spelling
import Formula.Proofs.Parser.Complete
import Formula.Value.Text

/-!
# Text that spells phrases

`Reads text e bound` says that a text is read as an operand with the tree `e`, wherever it may stand
in printed text. There is a lemma for each way in which the printer puts texts together.
-/

namespace Formula

open Grammar Lexeme

variable {H : Type}

/-- Whether tokens are a phrase with a tree and a nesting of at most `bound`. -/
def IsPhrase (c : Category) (e : Expr H) (bound : Nat) (ts : List Token) : Prop :=
  ∃ n ≤ bound, Derives c ts e n

/-- Whether a text starts with a character that is the second of no symbol. -/
def Opens (text : List Char) : Prop :=
  text ≠ [] ∧ EndsSymbol text

/-- Whether a text is read as an operand with a tree and a nesting of at most `bound`. -/
structure Reads (text : List Char) (e : Expr H) (bound : Nat) : Prop where
  opens : Opens text
  spells : Spells text Closes (IsPhrase .access e bound)

/-- Whether texts with commas between them are read as arguments with trees and a nesting of at most
`bound`. -/
structure ReadsArgs (texts : List String) (es : List (Expr H)) (bound : Nat) : Prop where
  opens : (commaSeparated texts).toList = [] ∨ Opens (commaSeparated texts).toList
  spells : Spells (commaSeparated texts).toList Closes fun ts => ∃ n ≤ bound, DerivesArgs ts es n
  length_eq : texts.length = es.length

/-- A symbol ends before a text that opens. -/
theorem Opens.ends_symbol {text : List Char} (h : Opens text) (rest : List Char) :
    EndsSymbol (text ++ rest) := by
  obtain ⟨hne, hends⟩ := h
  obtain ⟨c, more, rfl⟩ := List.exists_cons_of_ne_nil hne
  exact hends

/-- A text opens as its front does. -/
theorem Opens.append {front : List Char} (h : Opens front) (back : List Char) :
    Opens (front ++ back) :=
  ⟨List.append_ne_nil_of_left_ne_nil h.1 back, h.ends_symbol back⟩

/-- A blank, a comma and a closing bracket may follow an operand. -/
theorem closes_cons {c : Char} (hc : c ∈ [' ', ')', ']', ',', '[']) (rest : List Char) :
    Closes (c :: rest) :=
  .inr (.inl ⟨c, rest, rfl, hc⟩)

/-- A blank may follow an operand. -/
theorem closes_blank (rest : List Char) : Closes (' ' :: rest) :=
  closes_cons (by decide) rest

/-- An identifier opens. -/
theorem IsIdentifier.opens {name : String} (h : IsIdentifier name) : Opens name.toList := by
  obtain ⟨first, tail, hname, hfirst, -⟩ := h
  rw [hname]
  refine ⟨nofun, fun c hc => ?_⟩
  obtain rfl : first = c := by simpa using hc
  refine ⟨?_, ?_, ?_, ?_, ?_⟩ <;> (rintro rfl; exact nomatch hfirst)

/-- The symbol of a prefix operator opens. -/
theorem UnaryOp.opens_symbol (op : UnaryOp) : Opens op.symbol.toList := by
  cases op <;> exact ⟨by decide, fun c hc => by obtain rfl := Option.some.inj hc; decide⟩

/-- Operands are phrases of the tightest level. -/
theorem IsPhrase.operand {e : Expr H} {bound : Nat} {ts : List Token}
    (h : IsPhrase .access e bound ts) : IsPhrase (.level 0) e bound ts := by
  obtain ⟨n, hn, hderives⟩ := h
  exact ⟨n, hn, .access hderives⟩

/-- Operands with prefix operators are whole expressions, nested once more. -/
theorem IsPhrase.expression {e : Expr H} {bound : Nat} {ts : List Token}
    (h : IsPhrase (.level 0) e bound ts) : IsPhrase .expression e (bound + 1) ts := by
  obtain ⟨n, hn, hderives⟩ := h
  exact ⟨n + 1, by omega, .operands (derives_level_mono (Nat.zero_le _) hderives)⟩

/-- A text that is read as an operand spells a phrase of the tightest level. -/
theorem Reads.operand {text : List Char} {e : Expr H} {bound : Nat} (h : Reads text e bound) :
    Spells text Closes (IsPhrase (.level 0) e bound) :=
  h.spells.weaken fun _ => IsPhrase.operand

/-- A greater bound holds too. -/
theorem Reads.mono {text : List Char} {e : Expr H} {bound bound' : Nat} (h : Reads text e bound)
    (hle : bound ≤ bound') : Reads text e bound' where
  opens := h.opens
  spells := h.spells.weaken fun _ ⟨n, hn, hderives⟩ =>
    ⟨n, Nat.le_trans hn hle, hderives⟩

/-- A greater bound holds for arguments too. -/
theorem ReadsArgs.mono {texts : List String} {es : List (Expr H)} {bound bound' : Nat}
    (h : ReadsArgs texts es bound) (hle : bound ≤ bound') : ReadsArgs texts es bound' where
  opens := h.opens
  spells := h.spells.weaken fun _ ⟨n, hn, hderives⟩ =>
    ⟨n, Nat.le_trans hn hle, hderives⟩
  length_eq := h.length_eq

/-- A text within brackets spells what it does on its own, between two tokens. -/
theorem spells_brackets (opening closing : Symbol)
    (hclosing : ∀ rest, Closes (closing.text.toList ++ rest)) {text : List Char}
    (hopens : text = [] ∨ Opens text) {spelled : List Token → Prop}
    (h : Spells text Closes spelled) :
    Spells (opening.text.toList ++ (text ++ closing.text.toList)) Closes fun ts =>
      ∃ first us last, ts = first :: us ++ [last] ∧ first.kind = .punctuation opening ∧
        last.kind = .punctuation closing ∧ spelled us := by
  have hlast := (spells_symbol closing).imp (fun _ => Closes.ends_symbol) fun _ hts => hts
  refine ((spells_symbol opening).append (h.append hlast fun rest _ => hclosing rest)
    fun rest hrest => ?_).weaken ?_
  · rcases hopens with rfl | hopens
    · exact (hclosing rest).ends_symbol
    · rw [List.append_assoc]
      exact hopens.ends_symbol _
  · rintro ts ⟨_, _, rfl, ⟨first, rfl, hfirst, -⟩, us, _, rfl, hspelled, last, rfl, hlast, -⟩
    exact ⟨first, us, last, rfl, hfirst, hlast, hspelled⟩

/-- An expression in parentheses is an operand. -/
theorem reads_group {text : List Char} {e : Expr H} {bound : Nat} (hopens : Opens text)
    (h : Spells text Closes (IsPhrase .expression e bound)) :
    Reads ('(' :: (text ++ [')'])) e bound where
  opens := ⟨nofun, fun c hc => by
    obtain rfl : '(' = c := by simpa using hc
    decide⟩
  spells := by
    have hgroup := spells_brackets .leftParen .rightParen (closes_cons (by decide)) (.inr hopens) h
    refine hgroup.weaken ?_
    rintro ts ⟨first, us, last, rfl, hfirst, hlast, n, hn, hderives⟩
    exact ⟨n, hn, .primary (.group hfirst hderives hlast)⟩

/-- A prefix operator with its operand is a phrase of the tightest level. -/
theorem spells_unary (op : UnaryOp) {text : List Char} {e : Expr H} {bound : Nat}
    (h : Reads text e bound) :
    Spells (op.symbol.toList ++ text) Closes (IsPhrase (.level 0) (.unary op e) (bound + 1)) := by
  rw [← op.text_punctuation]
  refine ((spells_symbol op.punctuation).append h.spells fun rest _ =>
    h.opens.ends_symbol rest).weaken ?_
  rintro ts ⟨_, us, rfl, ⟨sign, rfl, hsign, -⟩, n, hn, hderives⟩
  exact ⟨n + 1, by omega, .unary op hsign (.access hderives)⟩

/-- Two operands with an operator between them are an expression. -/
theorem spells_binary (op : BinaryOp) {left right : List Char} {l r : Expr H} {bound bound' : Nat}
    (hleft : Spells left Closes (IsPhrase (.level 0) l bound)) (hright : Reads right r bound') :
    Spells (left ++ (' ' :: (op.symbol.toList ++ (' ' :: right)))) Closes
      (IsPhrase .expression (.binary op l (rightOperand op r)) (max bound bound' + 1)) := by
  rw [← op.text_punctuation]
  have hsign := (spells_symbol op.punctuation).append hright.spells.blank
    fun _ _ => (closes_blank _).ends_symbol
  refine (hleft.append hsign.blank fun _ _ => closes_blank _).weaken ?_
  rintro ts ⟨us, _, rfl, ⟨n, hn, hderives⟩, _, vs, rfl, ⟨sign, rfl, hsign, -⟩, m, hm, hderives'⟩
  -- Operands of the tightest level are operands of every level that the operator may stand on.
  obtain ⟨k, hlt, hlevel⟩ := exists_mem_operators op
  have hbinary := Derives.binary op (derives_level_mono (Nat.zero_le (k + 1)) hderives)
    hsign hlevel (derives_level_mono (Nat.zero_le k) (.access hderives'))
  exact ⟨max n m + 1, by omega, .operands (derives_level_mono hlt hbinary)⟩

/-- A condition with two branches is an expression. -/
theorem spells_conditional {condition yes no : List Char} {c y z : Expr H} {b b' b'' : Nat}
    (hcondition : Reads condition c b) (hyes : Reads yes y b') (hno : Reads no z b'') :
    Spells (condition ++ (' ' :: '?' :: ' ' :: (yes ++ (' ' :: ':' :: ' ' :: no)))) Closes
      (IsPhrase .expression (.conditional c y z) (max b (max (b' + 1) (b'' + 1)) + 1)) := by
  have hcolon := (spells_symbol .colon).append hno.spells.blank
    fun _ _ => (closes_blank _).ends_symbol
  have hbranches := hyes.spells.append hcolon.blank fun _ _ => closes_blank _
  have hquestion := (spells_symbol .question).append hbranches.blank
    fun _ _ => (closes_blank _).ends_symbol
  refine (hcondition.spells.append hquestion.blank fun _ _ => closes_blank _).weaken ?_
  rintro ts ⟨us, _, rfl, ⟨n, hn, hderives⟩, _, _, rfl, ⟨question, rfl, hquestion, -⟩, vs, _, rfl,
    hyes, _, ws, rfl, ⟨colon, rfl, hcolon, -⟩, hno⟩
  obtain ⟨m, hm, hderivesYes⟩ := hyes.operand.expression
  obtain ⟨k, hk, hderivesNo⟩ := hno.operand.expression
  refine ⟨max n (max m k) + 1, by omega, ?_⟩
  simpa using Derives.conditional (derives_level_mono (Nat.zero_le _) (.access hderives)) hquestion
    hderivesYes hcolon hderivesNo

/-- A prefix operator with its operand, in parentheses, is an operand. -/
theorem reads_unary (op : UnaryOp) {text : List Char} {e : Expr H} {bound : Nat}
    (h : Reads text e bound) :
    Reads ('(' :: (op.symbol.toList ++ text ++ [')'])) (.unary op e) (bound + 2) := by
  refine reads_group (op.opens_symbol.append text) ((spells_unary op h).weaken ?_)
  exact fun _ => IsPhrase.expression

/-- Two operands with an operator between them, in parentheses, are an operand. -/
theorem reads_binary (op : BinaryOp) {left right : List Char} {l r : Expr H} {bound bound' : Nat}
    (hopens : Opens left) (hleft : Spells left Closes (IsPhrase (.level 0) l bound))
    (hright : Reads right r bound') :
    Reads ('(' :: (left ++ (' ' :: (op.symbol.toList ++ (' ' :: right))) ++ [')']))
      (.binary op l (rightOperand op r)) (max bound bound' + 1) :=
  reads_group (hopens.append _) (spells_binary op hleft hright)

/-- A condition with two branches, in parentheses, is an operand. -/
theorem reads_conditional {condition yes no : List Char} {c y z : Expr H} {b b' b'' : Nat}
    (hcondition : Reads condition c b) (hyes : Reads yes y b') (hno : Reads no z b'') :
    Reads ('(' :: (condition ++ (' ' :: '?' :: ' ' :: (yes ++ (' ' :: ':' :: ' ' :: no))) ++ [')']))
      (.conditional c y z) (max b (max (b' + 1) (b'' + 1)) + 1) :=
  reads_group (hcondition.opens.append _) (spells_conditional hcondition hyes hno)

/-- A dot with a name may follow an operand. -/
theorem closes_dot {name : String} (hname : IsIdentifier name) (rest : List Char) :
    Closes ('.' :: (name.toList ++ rest)) := by
  obtain ⟨first, tail, htext, hfirst, -⟩ := hname
  exact .inr (.inr ⟨first, tail ++ rest, by rw [htext]; rfl, hfirst⟩)

/-- An operand with a dot and a name behind it is a member. -/
theorem reads_member {text : List Char} {e : Expr H} {bound : Nat} {name : String}
    (h : Reads text e bound) (hname : IsIdentifier name) :
    Reads (text ++ ('.' :: name.toList)) (.member e name) bound where
  opens := h.opens.append _
  spells := by
    refine (h.spells.append ((spells_symbol .dot).append (spells_word hname) fun rest _ =>
      hname.opens.ends_symbol rest) fun rest _ => closes_dot hname rest).imp
      (fun _ hrest => hrest.ends_word) ?_
    rintro ts ⟨us, _, rfl, ⟨n, hn, hderives⟩, _, _, rfl, ⟨dot, rfl, hdot, -⟩, token, rfl, hkind,
      rfl⟩
    exact ⟨n, hn, .member hderives hdot hkind⟩

/-- An operand with a dot, a name and arguments behind it is a call. -/
theorem reads_call {text : List Char} {e : Expr H} {bound bound' : Nat} {name : String}
    {texts : List String} {es : List (Expr H)} (h : Reads text e bound) (hname : IsIdentifier name)
    (hargs : ReadsArgs texts es bound') :
    Reads (text ++ ('.' :: (name.toList ++ ('(' :: ((commaSeparated texts).toList ++ [')'])))))
      (.call e name es) (max bound bound') where
  opens := h.opens.append _
  spells := by
    have hparen (rest : List Char) : EndsWord ('(' :: rest) := by
      intro c hc
      obtain rfl : '(' = c := by simpa using hc
      rfl
    have hinner := spells_brackets .leftParen .rightParen (closes_cons (by decide)) hargs.opens
      hargs.spells
    have hcall := (spells_symbol .dot).append ((spells_word hname).append hinner
      fun rest _ => hparen _) fun rest _ => by
        rw [List.append_assoc]
        exact hname.opens.ends_symbol _
    refine (h.spells.append hcall fun rest _ => ?_).weaken ?_
    · simpa [Symbol.text] using closes_dot hname _
    · rintro ts ⟨us, _, rfl, ⟨n, hn, hderives⟩, _, _, rfl, ⟨dot, rfl, hdot, -⟩, _, _, rfl,
        ⟨token, rfl, hkind, rfl⟩, first, vs, last, rfl, hfirst, hlast, m, hm, hargs⟩
      refine ⟨max n m, by omega, ?_⟩
      simpa using Derives.call hderives hdot hkind hfirst hargs hlast

/-- An operand with arguments in brackets behind it is an index. -/
theorem reads_index {text : List Char} {e : Expr H} {bound bound' : Nat} {texts : List String}
    {es : List (Expr H)} (h : Reads text e bound) (hargs : ReadsArgs texts es bound') :
    Reads (text ++ ('[' :: ((commaSeparated texts).toList ++ [']']))) (.index e es)
      (max bound bound') where
  opens := h.opens.append _
  spells := by
    refine (h.spells.append (spells_brackets .leftBracket .rightBracket (closes_cons (by decide))
      hargs.opens hargs.spells) fun _ _ => closes_cons (by decide) _).weaken ?_
    rintro ts ⟨us, _, rfl, ⟨n, hn, hderives⟩, first, vs, last, rfl, hfirst, hlast, m, hm, hargs⟩
    refine ⟨max n m, by omega, ?_⟩
    simpa using Derives.index hderives hfirst hargs hlast

/-- Nothing is no arguments. -/
theorem reads_args_nil : ReadsArgs (H := H) [] [] 0 where
  opens := .inl rfl
  spells position _ _ := ⟨[], position, rfl, 0, Nat.le_refl 0, .none⟩
  length_eq := rfl

/-- An operand in front of arguments is one more argument. -/
theorem reads_args_cons {text : String} {e : Expr H} {bound bound' : Nat} {texts : List String}
    {es : List (Expr H)} (h : Reads text.toList e bound) (hargs : ReadsArgs texts es bound') :
    ReadsArgs (text :: texts) (e :: es) (max (bound + 1) bound') := by
  have hlength := hargs.length_eq
  cases texts with
  | nil =>
      obtain rfl : es = [] := List.length_eq_zero_iff.1 hlength.symm
      refine ⟨.inr ?_, ?_, rfl⟩
      · simpa [commaSeparated] using h.opens
      · simp only [commaSeparated, String.intercalate_singleton]
        refine h.spells.weaken fun ts hts => ?_
        obtain ⟨n, hn, hderives⟩ := hts.operand.expression
        exact ⟨n, by omega, .one hderives⟩
  | cons next texts =>
      have htext : (commaSeparated (text :: next :: texts)).toList =
          text.toList ++ (',' :: ' ' :: (commaSeparated (next :: texts)).toList) := by
        simp [commaSeparated, String.intercalate_cons_cons]
      have hne : es ≠ [] := by
        rintro rfl
        exact nomatch hlength
      refine ⟨.inr (by rw [htext]; exact h.opens.append _), ?_, congrArg (· + 1) hlength⟩
      rw [htext]
      refine (h.spells.append ((spells_symbol .comma).append hargs.spells.blank
        fun rest _ => ?_) fun rest _ => closes_cons (by decide) _).weaken ?_
      · exact (closes_cons (by decide) _).ends_symbol
      · rintro ts ⟨us, _, rfl, hfirst, _, vs, rfl, ⟨comma, rfl, hcomma, -⟩, m, hm, hargs⟩
        obtain ⟨n, hn, hderives⟩ := hfirst.operand.expression
        exact ⟨max n m, by omega, .more hderives hcomma hargs hne⟩

end Formula
