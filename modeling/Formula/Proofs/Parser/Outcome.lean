import Formula.Expr.Parser
import Formula.Proofs.Grammar

/-!
# Outcomes of the parser

How the results of rules compose. `Yields fits result outcome` says that a result is the outcome if
something fits the limits and is refused as too deep otherwise, so that sequences of rules fit if
every part does. `Stops c ts next` says that a phrase of category `c` ends before the token `next`.
-/

namespace Formula

namespace Parser

variable {α β : Type}

/-- A sequence succeeds if both of its parts do. -/
theorem bind_eq_ok {ε : Type} {x : Except ε α} {f : α → Except ε β} {b : β} :
    (x >>= f) = .ok b ↔ ∃ a, x = .ok a ∧ f a = .ok b := by
  cases x with
  | error => exact ⟨nofun, nofun⟩
  | ok a =>
      constructor
      · intro h
        exact ⟨a, rfl, h⟩
      · intro ⟨b, hb, h⟩
        obtain rfl := Except.ok.inj hb
        exact h

/-- A result that is the outcome if something fits the limits, and too deep otherwise. -/
structure Yields (fits : Prop) (result outcome : Except ParseError α) : Prop where
  eq_of_fits : fits → result = outcome
  too_deep : ¬fits → ∃ limit, result = .error (.tooDeep limit)

namespace Yields

variable {p q : Prop}

/-- What surely fits has its outcome. -/
theorem of_eq {result outcome : Except ParseError α} (hp : p) (h : result = outcome) :
    Yields p result outcome :=
  ⟨fun _ => h, fun hnot => absurd hp hnot⟩

/-- Equivalent conditions yield the same. -/
theorem congr {result outcome : Except ParseError α} (h : Yields p result outcome) (hpq : p ↔ q) :
    Yields q result outcome := by
  rwa [← propext hpq]

/-- An outcome that itself depends on the limits. -/
theorem trans {first second third : Except ParseError α} (h : Yields p first second)
    (hsecond : p → Yields q second third) : Yields (p ∧ q) first third where
  eq_of_fits hfits := (h.eq_of_fits hfits.1).trans ((hsecond hfits.1).eq_of_fits hfits.2)
  too_deep hnot := by
    by_cases hp : p
    · rw [h.eq_of_fits hp]
      exact (hsecond hp).too_deep fun hq => hnot ⟨hp, hq⟩
    · exact h.too_deep hp

/-- A sequence fits if both of its parts do. -/
theorem bind {x : Except ParseError α} {a : α} {f : α → Except ParseError β}
    {outcome : Except ParseError β} (h : Yields p x (.ok a)) (hf : p → Yields q (f a) outcome) :
    Yields (p ∧ q) (x >>= f) outcome := by
  have hfirst : Yields p (x >>= f) (f a) := by
    constructor
    · intro hp
      rw [h.eq_of_fits hp]
      rfl
    · intro hnot
      obtain ⟨limit, hlimit⟩ := h.too_deep hnot
      exact ⟨limit, by rw [hlimit]; rfl⟩
  exact hfirst.trans hf

/-- A sequence fits if its first part does and its second part has an outcome of its own. -/
theorem bind_eq {x : Except ParseError α} {a : α} {f : α → Except ParseError β}
    {outcome : Except ParseError β} (h : Yields p x (.ok a)) (hf : f a = outcome) :
    Yields p (x >>= f) outcome :=
  (h.bind fun _ => of_eq trivial hf).congr (iff_of_eq (and_true p))

end Yields

end Parser

namespace Tokens

/-- The tokens `rest` with some tokens in front. -/
def prepend (ts : List Token) (rest : Tokens) : Tokens :=
  { rest with rest := ts ++ rest.rest }

@[simp] theorem prepend_nil (rest : Tokens) : prepend [] rest = rest := rfl

@[simp] theorem prepend_append (ts us : List Token) (rest : Tokens) :
    prepend (ts ++ us) rest = prepend ts (prepend us rest) := by
  simp [prepend]

@[simp] theorem current_prepend_cons (token : Token) (ts : List Token) (rest : Tokens) :
    (prepend (token :: ts) rest).current = token := rfl

@[simp] theorem advance_prepend_cons (token : Token) (ts : List Token) (rest : Tokens) :
    (prepend (token :: ts) rest).advance = prepend ts rest := rfl

@[simp] theorem length_prepend (ts : List Token) (rest : Tokens) :
    (prepend ts rest).rest.length = ts.length + rest.rest.length := by
  simp [prepend]

/-- Tokens start with the given symbol if the current one is of its kind. -/
theorem starts_with_eq (ts : Tokens) (symbol : Symbol) :
    ts.startsWith symbol = decide (ts.current.kind = .punctuation symbol) := rfl

/-- Unless they are at their end, tokens are the current one and those after it. -/
theorem eq_prepend_current {ts : Tokens} (h : ts.current.kind ≠ .endOfInput) :
    ts = prepend [ts.current] ts.advance := by
  obtain ⟨rest, stop⟩ := ts
  cases rest with
  | nil => exact absurd rfl h
  | cons token rest => rfl

/-- An expected symbol is the current token. -/
theorem expect_eq_ok {symbol : Symbol} {ts rest : Tokens}
    (h : ts.expect (.punctuation symbol) = .ok rest) :
    ∃ token, token.kind = .punctuation symbol ∧ ts = prepend [token] rest := by
  unfold expect Token.hasKind at h
  split at h
  · rename_i hcurrent
    obtain rfl := Except.ok.inj h
    have hcurrent : ts.current.kind = .punctuation symbol := by simpa using hcurrent
    exact ⟨ts.current, hcurrent, eq_prepend_current (by rw [hcurrent]; exact nofun)⟩
  · exact nomatch h

/-- A token of the expected kind is passed over. -/
theorem expect_prepend {kind : TokenKind} {token : Token} (hkind : token.kind = kind)
    (rest : Tokens) : (prepend [token] rest).expect kind = .ok rest := by
  simp [expect, Token.hasKind, hkind]

end Tokens

namespace Grammar

/-- Whether a token of the given kind continues a phrase of the category before it. -/
def Continues : Category → TokenKind → Prop
  | .primary, _ => False
  | .access, kind => kind = .punctuation .dot ∨ kind = .punctuation .leftBracket
  | .level k, kind =>
    (kind = .punctuation .dot ∨ kind = .punctuation .leftBracket) ∨
      ∃ level ≤ k, ∃ op ∈ operators level, kind = .punctuation op.punctuation
  | .expression, kind =>
    (kind = .punctuation .dot ∨ kind = .punctuation .leftBracket) ∨
      (∃ op : BinaryOp, kind = .punctuation op.punctuation) ∨ kind = .punctuation .question

/-- Whether tokens end in a dot and a name. -/
def EndsInMember (ts : List Token) : Prop :=
  ∃ front dot name, ts = front ++ [dot, name] ∧ dot.kind = .punctuation .dot ∧
    name.kind = .identifier

/-- Whether a phrase of a category ends before the token `next`. A parenthesis does not follow a
member access, since it makes that a call. -/
structure Stops (c : Category) (ts : List Token) (next : Token) : Prop where
  not_continues : ¬Continues c next.kind
  not_call : next.kind = .punctuation .leftParen → ¬EndsInMember ts

/-- Tokens that end in another kind than a name end in no member access. -/
theorem not_ends_in_member {ts : List Token} {token : Token} (hkind : token.kind ≠ .identifier) :
    ¬EndsInMember (ts ++ [token]) := by
  rintro ⟨front, dot, name, heq, -, hname⟩
  have heq : ts ++ [token] = (front ++ [dot]) ++ [name] := by simpa using heq
  obtain ⟨-, hlast⟩ := List.append_inj' heq rfl
  exact hkind (by rw [List.head_eq_of_cons_eq hlast, hname])

/-- One token is no member access. -/
theorem not_ends_in_member_singleton (token : Token) : ¬EndsInMember [token] := by
  rintro ⟨front, dot, name, heq, -, -⟩
  simpa using congrArg List.length heq

/-- Tokens that end in a member access end in it behind every token other than a dot. -/
theorem EndsInMember.of_append {front back : List Token} {token : Token}
    (h : EndsInMember (front ++ token :: back)) (hback : back ≠ [])
    (hkind : token.kind ≠ .punctuation .dot) : EndsInMember back := by
  obtain ⟨before, dot, name, heq, hdot, hname⟩ := h
  -- The name is the last token of `back`; what stands before it is the dot, so not `token`.
  obtain ⟨middle, last, rfl⟩ := (List.eq_nil_or_concat' back).resolve_left hback
  have heq : (front ++ token :: middle) ++ [last] = (before ++ [dot]) ++ [name] := by
    simpa using heq
  obtain ⟨hinit, hlast⟩ := List.append_inj' heq rfl
  obtain rfl := List.head_eq_of_cons_eq hlast
  rcases List.eq_nil_or_concat' middle with rfl | ⟨middle, inner, rfl⟩
  · obtain ⟨-, htoken⟩ := List.append_inj' hinit rfl
    obtain rfl := List.head_eq_of_cons_eq htoken
    exact absurd hdot hkind
  · have hinit : (front ++ token :: middle) ++ [inner] = before ++ [dot] := by simpa using hinit
    obtain ⟨-, hinner⟩ := List.append_inj' hinit rfl
    obtain rfl := List.head_eq_of_cons_eq hinner
    exact ⟨middle, inner, last, by simp, hdot, hname⟩

/-- Tokens in front do not change that the others end in a member access. -/
theorem EndsInMember.append_left {back : List Token} (h : EndsInMember back)
    (front : List Token) : EndsInMember (front ++ back) := by
  obtain ⟨before, dot, name, rfl, hdot, hname⟩ := h
  exact ⟨front ++ before, dot, name, by simp, hdot, hname⟩

/-- The last part of a phrase stops where the phrase does, if nothing more continues it. -/
theorem Stops.of_append {c inner : Category} (front : List Token) {back : List Token} {next : Token}
    (h : Stops c (front ++ back) next)
    (hcontinues : Continues inner next.kind → Continues c next.kind) : Stops inner back next where
  not_continues hinner := h.not_continues (hcontinues hinner)
  not_call hparen hends := h.not_call hparen (hends.append_left front)

/-- A phrase stops where its last part does, if that stands behind a token other than a dot. -/
theorem Stops.append {c : Category} (front : List Token) {token : Token} {back : List Token}
    {next : Token} (h : Stops c back next) (hback : back ≠ [])
    (hkind : token.kind ≠ .punctuation .dot) : Stops c (front ++ token :: back) next where
  not_continues := h.not_continues
  not_call hparen hends := h.not_call hparen (hends.of_append hback hkind)

end Grammar

namespace Parser

open Grammar

/-- The prefix operator that is read is the one whose symbol stands there. -/
theorem unary_op_eq_some {kind : TokenKind} {op : UnaryOp} :
    unaryOp? kind = some op ↔ kind = .punctuation op.punctuation := by
  constructor
  · intro h
    unfold unaryOp? at h
    split at h <;> cases h <;> rfl
  · rintro rfl
    cases op <;> rfl

/-- The binary operator that is read is the one whose symbol stands there. -/
theorem binary_op_eq_some {kind : TokenKind} {op : BinaryOp} :
    binaryOp? kind = some op ↔ kind = .punctuation op.punctuation := by
  constructor
  · intro h
    unfold binaryOp? at h
    split at h <;> cases h <;> rfl
  · rintro rfl
    cases op <;> rfl

/-- The operator that is read on a level is the one of that level whose symbol stands there. -/
theorem op_on_level_eq_some {level : Nat} {kind : TokenKind} {op : BinaryOp} :
    opOnLevel? level kind = some op ↔
      op ∈ operators level ∧ kind = .punctuation op.punctuation := by
  simp [opOnLevel?, Option.filter_eq_some_iff, binary_op_eq_some, mem_operators_iff, and_comm]

/-- The parser narrows the right operands that the grammar does. -/
theorem narrowed_eq {H : Type} (op : BinaryOp) (right : Expr H) :
    narrowed op right = rightOperand op right := by
  unfold rightOperand
  split
  · rfl
  · rfl
  · rename_i hleft hright
    unfold narrowed BinaryOp.isShift Expr.asNumberLiteral?
    cases op <;> first | rfl | (simp only [if_true]; split <;> simp_all)

end Parser

end Formula
