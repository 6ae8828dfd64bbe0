import Formula.Proofs.Parser.Lookahead

/-!
# Tokens that begin a phrase

`Viable H c front` says that shown tokens complete the tokens `front` to a phrase of category `c`.
What begins a part of a phrase, with the parts in front of it, begins the phrase, `Viable.within`; for
each part of each kind of phrase there is a lemma.
-/

namespace Formula

namespace Grammar

open Lexeme

variable {H : Type}

/-- Whether shown tokens complete some tokens to a phrase of a category. -/
def Viable (H : Type) (c : Category) (front : List Token) : Prop :=
  ∃ more, (∀ token ∈ more, IsShown token) ∧ ∃ (e : Expr H) (n : Nat), Derives c (front ++ more) e n

/-- Whether shown tokens complete some tokens to arguments, of which there is at least one. -/
def ViableArgs (H : Type) (front : List Token) : Prop :=
  ∃ more, (∀ token ∈ more, IsShown token) ∧
    ∃ (es : List (Expr H)) (n : Nat), DerivesArgs (front ++ more) es n ∧ es ≠ []

/-- A name, to complete phrases with. -/
def someName : Token := ⟨.identifier, "x", 0⟩

/-- A number, to complete phrases with. -/
def someNumber : Token := ⟨.number, "0", 0⟩

/-- A symbol, to complete phrases with. -/
def someSymbol (symbol : Symbol) : Token := ⟨.punctuation symbol, symbol.text, 0⟩

/-- The name is shown. -/
theorem some_name_is_shown : ∀ token ∈ [someName], IsShown token :=
  List.forall_mem_singleton.2 (Token.is_shown_name ⟨'x', [], rfl, rfl, nofun⟩ 0)

/-- The number is shown. -/
theorem some_number_is_shown : ∀ token ∈ [someNumber], IsShown token := by
  have hmem : someNumber ∈ tokenize "0" := by decide +kernel
  exact List.forall_mem_singleton.2 (Token.is_shown hmem)

/-- The symbol is shown. -/
theorem some_symbol_is_shown (symbol : Symbol) : ∀ token ∈ [someSymbol symbol], IsShown token :=
  List.forall_mem_singleton.2 (Token.is_shown_symbol symbol 0)

/-- The name is a phrase of every category. -/
theorem derives_some_name (c : Category) :
    ∃ (e : Expr H) (n : Nat), Derives c [someName] e n := by
  have hname : Derives (H := H) .primary [someName] (.member .root "x") 0 := .name rfl rfl
  have hlevel : Derives (H := H) (.level 0) [someName] (.member .root "x") 0 :=
    .access (.primary hname)
  cases c with
  | primary => exact ⟨_, _, hname⟩
  | access => exact ⟨_, _, .primary hname⟩
  | level k => exact ⟨_, _, derives_level_mono (Nat.zero_le k) hlevel⟩
  | expression => exact ⟨_, _, .operands (derives_level_mono (Nat.zero_le _) hlevel)⟩

/-- No tokens begin a phrase of every category. -/
theorem viable_nil (c : Category) : Viable H c [] :=
  ⟨[someName], some_name_is_shown, derives_some_name c⟩

/-- A phrase begins itself. -/
theorem viable_of_derives {c : Category} {ts : List Token} {e : Expr H} {n : Nat}
    (h : Derives c ts e n) : Viable H c ts :=
  ⟨[], nofun, e, n, by simpa using h⟩

section

variable {c c' : Category} {before : List Token}

/-- What begins a phrase of one category begins one of every category to which all of them belong. -/
theorem Viable.embed (h : Viable H c before)
    (hembed : ∀ ts (e : Expr H) n, Derives c ts e n →
      ∃ (e' : Expr H) (n' : Nat), Derives c' ts e' n') : Viable H c' before := by
  obtain ⟨more, hmore, e, n, hderives⟩ := h
  exact ⟨more, hmore, hembed _ e n hderives⟩

/-- A phrase with shown tokens behind it is begun by what begins the phrase. -/
theorem Viable.within (h : Viable H c before) (front back : List Token)
    (hback : ∀ token ∈ back, IsShown token)
    (hwithin : ∀ ts (e : Expr H) n, Derives c ts e n →
      ∃ (e' : Expr H) (n' : Nat), Derives c' (front ++ (ts ++ back)) e' n') :
    Viable H c' (front ++ before) := by
  obtain ⟨more, hmore, e, n, hderives⟩ := h
  refine ⟨more ++ back, fun token htoken => ?_, ?_⟩
  · rcases List.mem_append.1 htoken with htoken | htoken
    · exact hmore token htoken
    · exact hback token htoken
  · obtain ⟨e', n', hderives'⟩ := hwithin _ e n hderives
    exact ⟨e', n', by simpa using hderives'⟩

/-- A phrase with arguments and shown tokens behind it is begun by what begins the arguments. -/
theorem ViableArgs.within (h : ViableArgs H before) (front back : List Token)
    (hback : ∀ token ∈ back, IsShown token)
    (hwithin : ∀ ts (es : List (Expr H)) n, DerivesArgs ts es n →
      ∃ (e' : Expr H) (n' : Nat), Derives c' (front ++ (ts ++ back)) e' n') :
    Viable H c' (front ++ before) := by
  obtain ⟨more, hmore, es, n, hderives, -⟩ := h
  refine ⟨more ++ back, fun token htoken => ?_, ?_⟩
  · rcases List.mem_append.1 htoken with htoken | htoken
    · exact hmore token htoken
    · exact hback token htoken
  · obtain ⟨e', n', hderives'⟩ := hwithin _ es n hderives
    exact ⟨e', n', by simpa using hderives'⟩

/-- What begins an expression begins arguments. -/
theorem Viable.args (h : Viable H .expression before) : ViableArgs H before := by
  obtain ⟨more, hmore, e, n, hderives⟩ := h
  exact ⟨more, hmore, [e], n, .one hderives, List.cons_ne_nil _ _⟩

/-- What begins arguments begins them behind another one and a comma. -/
theorem ViableArgs.more (h : ViableArgs H before) {ts : List Token} {e : Expr H} {n : Nat}
    {comma : Token} (hderives : Derives .expression ts e n)
    (hcomma : comma.kind = .punctuation .comma) : ViableArgs H (ts ++ comma :: before) := by
  obtain ⟨more, hmore, es, m, hargs, hne⟩ := h
  refine ⟨more, hmore, e :: es, max n m, ?_, List.cons_ne_nil _ _⟩
  simpa using DerivesArgs.more hderives hcomma hargs hne

/-- What begins a primary begins an access. -/
theorem Viable.access (h : Viable H .primary before) : Viable H .access before :=
  h.embed fun _ e n hderives => ⟨e, n, .primary hderives⟩

/-- What begins an access begins an operand. -/
theorem Viable.operand (h : Viable H .access before) : Viable H (.level 0) before :=
  h.embed fun _ e n hderives => ⟨e, n, .access hderives⟩

/-- What begins operands of one level begins those of the next looser one. -/
theorem Viable.looser {k : Nat} (h : Viable H (.level k) before) : Viable H (.level (k + 1)) before :=
  h.embed fun _ e n hderives => ⟨e, n, .tighter hderives⟩

/-- What begins operands of the loosest level begins an expression. -/
theorem Viable.expression (h : Viable H (.level BinaryOp.levelCount) before) :
    Viable H .expression before :=
  h.embed fun _ e n hderives => ⟨e, n + 1, .operands hderives⟩

/-- What begins an expression begins a group behind a parenthesis. -/
theorem Viable.group (h : Viable H .expression before) {opening : Token}
    (hopening : opening.kind = .punctuation .leftParen) : Viable H .primary (opening :: before) :=
  h.within [opening] [someSymbol .rightParen] (some_symbol_is_shown _)
    fun _ e n hderives => ⟨e, n, .group hopening hderives rfl⟩

/-- What begins an operand begins one behind a plus. -/
theorem Viable.plus (h : Viable H (.level 0) before) {sign : Token}
    (hsign : sign.kind = .punctuation .plus) : Viable H (.level 0) (sign :: before) := by
  refine h.within [sign] [] nofun fun ts e n hderives => ⟨e, n + 1, ?_⟩
  simpa using Derives.plus hsign hderives

/-- What begins an operand begins one behind a prefix operator. -/
theorem Viable.unary (h : Viable H (.level 0) before) {op : UnaryOp} {sign : Token}
    (hsign : sign.kind = .punctuation op.punctuation) : Viable H (.level 0) (sign :: before) := by
  refine h.within [sign] [] nofun fun ts e n hderives => ⟨.unary op e, n + 1, ?_⟩
  simpa using Derives.unary op hsign hderives

/-- What begins a right operand begins operands behind the left one and the operator. -/
theorem Viable.binary {op : BinaryOp} {k : Nat} (h : Viable H (.level k) before) {front : List Token}
    {left : Expr H} {n : Nat} (hfront : Derives (.level (k + 1)) front left n) {sign : Token}
    (hsign : sign.kind = .punctuation op.punctuation) (hlevel : op ∈ operators (k + 1)) :
    Viable H (.level (k + 1)) (front ++ sign :: before) := by
  have hwithin : Viable H (.level (k + 1)) (front ++ [sign] ++ before) :=
    h.within (front ++ [sign]) [] nofun fun ts e m hderives =>
      ⟨_, _, by simpa using Derives.binary op hfront hsign hlevel hderives⟩
  simpa using hwithin

/-- Whether arguments and a closing symbol behind some tokens make an access. -/
def OpensArgs (opened : List Token) (close : Symbol) (make : List (Expr H) → Expr H) : Prop :=
  ∀ ⦃inner : List Token⦄ ⦃closing : Token⦄ ⦃es : List (Expr H)⦄ ⦃n : Nat⦄,
    DerivesArgs inner es n → closing.kind = .punctuation close →
    ∃ m, Derives .access (opened ++ (inner ++ [closing])) (make es) m

/-- What begins arguments begins an access behind what opens them. -/
theorem ViableArgs.opened (h : ViableArgs H before) {opened : List Token} {close : Symbol}
    {make : List (Expr H) → Expr H} (hopened : OpensArgs opened close make) :
    Viable H .access (opened ++ before) :=
  h.within opened [someSymbol close] (some_symbol_is_shown close)
    fun _ es _ hderives => ⟨make es, hopened hderives rfl⟩

section

variable {front : List Token} {target : Expr H} {n : Nat} (hfront : Derives .access front target n)
  {dot name opening : Token}

include hfront in
/-- The name and the parenthesis of a call open its arguments. -/
theorem opens_call (hdot : dot.kind = .punctuation .dot) (hname : name.kind = .identifier)
    (hopening : opening.kind = .punctuation .leftParen) :
    OpensArgs (front ++ [dot, name, opening]) .rightParen (.call target name.text) :=
  fun _ _ _ _ hinner hclosing =>
    ⟨_, by simpa using Derives.call hfront hdot hname hopening hinner hclosing⟩

include hfront in
/-- The bracket of an index opens its arguments. -/
theorem opens_index (hopening : opening.kind = .punctuation .leftBracket) :
    OpensArgs (front ++ [opening]) .rightBracket (.index target) :=
  fun _ _ _ _ hinner hclosing => ⟨_, by simpa using Derives.index hfront hopening hinner hclosing⟩

end

section

variable {condition : List Token} {e : Expr H} {n : Nat}
  (hcondition : Derives (.level BinaryOp.levelCount) condition e n) {question : Token}
  (hquestion : question.kind = .punctuation .question)

include hcondition hquestion in
/-- What begins an expression begins the first branch of a conditional. -/
theorem Viable.yes (h : Viable H .expression before) :
    Viable H .expression (condition ++ question :: before) := by
  have hshown : ∀ token ∈ [someSymbol .colon, someName], IsShown token := by
    intro token htoken
    rcases List.mem_cons.1 htoken with rfl | htoken
    · exact some_symbol_is_shown .colon _ List.mem_cons_self
    · exact some_name_is_shown token htoken
  obtain ⟨name, l, hname⟩ := derives_some_name (H := H) .expression
  have hwithin : Viable H .expression (condition ++ [question] ++ before) :=
    h.within (condition ++ [question]) _ hshown fun ts e m hderives =>
      ⟨_, _, by simpa using Derives.conditional hcondition hquestion hderives rfl hname⟩
  simpa using hwithin

include hcondition hquestion in
/-- What begins an expression begins the second branch of a conditional. -/
theorem Viable.no (h : Viable H .expression before) {yes : List Token} {e' : Expr H} {m : Nat}
    (hyes : Derives .expression yes e' m) {colon : Token}
    (hcolon : colon.kind = .punctuation .colon) :
    Viable H .expression (condition ++ question :: (yes ++ colon :: before)) := by
  have hwithin : Viable H .expression (condition ++ question :: yes ++ [colon] ++ before) :=
    h.within (condition ++ question :: yes ++ [colon]) [] nofun fun ts e l hderives =>
      ⟨_, _, by simpa using Derives.conditional hcondition hquestion hyes hcolon hderives⟩
  simpa using hwithin

end

end

end Grammar

end Formula
