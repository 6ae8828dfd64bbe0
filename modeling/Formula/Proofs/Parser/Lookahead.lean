import Formula.Proofs.Lexer.Display
import Formula.Proofs.Parser.Outcome

/-!
# How far a rule looks

A rule decides on the tokens that it takes and on the one behind them, `Decides`: what it makes of
some tokens it makes of all others that have the same content up to there. Where it fails, the token
behind those that were taken is the offending one, `Offends`. Sequences of rules pass this on.
-/

namespace Formula

/-- What an error says apart from where its tokens stand. -/
def ParseError.unplaced : ParseError → ParseError
  | .unexpectedToken expected found => .unexpectedToken expected { found with position := 0 }
  | .invalidToken token => .invalidToken { token with position := 0 }
  | .invalidNumber text _ => .invalidNumber text 0
  | .identifierExpected found _ => .identifierExpected { found with position := 0 } 0
  | .tooDeep limit => .tooDeep limit

namespace Parser

open Tokens

/-- `Offends error before rest` says that an error is about the token with which `rest` starts, behind
the tokens `before`: it names that token, or the dot just before it. A refusal is about no token. -/
inductive Offends : ParseError → List Token → Tokens → Prop where
  | unexpected {expected before rest} :
      Offends (.unexpectedToken expected rest.current) before rest
  | invalid {before rest} :
      rest.current.kind ≠ .punctuation .dot → Offends (.invalidToken rest.current) before rest
  | point {before dot rest} :
      dot.kind = .punctuation .dot → Offends (.invalidToken dot) (before ++ [dot]) rest
  | number {before dot rest} :
      dot.kind = .punctuation .dot →
      Offends (.invalidNumber ("0." ++ rest.current.text) dot.position) (before ++ [dot]) rest
  | name {before dot rest} :
      dot.kind = .punctuation .dot →
      Offends (.identifierExpected rest.current dot.position) (before ++ [dot]) rest
  | deep {limit before rest} : Offends (.tooDeep limit) before rest

/-- More tokens in front do not change which one offends. -/
theorem Offends.append {error : ParseError} {before : List Token} {rest : Tokens}
    (h : Offends error before rest) (front : List Token) : Offends error (front ++ before) rest := by
  cases h with
  | unexpected => exact .unexpected
  | invalid hkind => exact .invalid hkind
  | deep => exact .deep
  | point hdot =>
      rw [← List.append_assoc]
      exact .point hdot
  | number hdot =>
      rw [← List.append_assoc]
      exact .number hdot
  | name hdot =>
      rw [← List.append_assoc]
      exact .name hdot

/-- Whether tokens and the token behind them have the same content as others. -/
structure Agree (front : List Token) (rest : Tokens) (front' : List Token) (rest' : Tokens) :
    Prop where
  front : front'.map Token.content = front.map Token.content
  next : rest'.current.content = rest.current.content

section

variable {front front' back used : List Token} {rest rest' : Tokens} {token : Token}

/-- What agrees with no tokens is none. -/
theorem Agree.nil (h : Agree [] rest front' rest') : front' = [] :=
  List.map_eq_nil_iff.1 h.front

/-- What agrees with a token in front has one of its content in front. -/
theorem Agree.cons (h : Agree (token :: front) rest front' rest') :
    ∃ token' more, front' = token' :: more ∧ token'.kind = token.kind ∧ token'.text = token.text ∧
      Agree front rest more rest' := by
  obtain ⟨token', more, rfl, hcontent, hmore⟩ := List.map_eq_cons_iff.1 h.front
  obtain ⟨hkind, htext⟩ := Prod.mk.inj hcontent
  exact ⟨token', more, rfl, hkind, htext, hmore, h.next⟩

/-- What agrees starts with the same content. -/
theorem Agree.current (h : Agree front rest front' rest') :
    (prepend front' rest').current.content = (prepend front rest).current.content := by
  cases front with
  | nil =>
      obtain rfl := h.nil
      exact h.next
  | cons token front =>
      obtain ⟨token', more, rfl, hkind, htext, -⟩ := h.cons
      exact Prod.ext hkind htext

/-- What agrees with two parts is two parts, of which each agrees with its own. -/
theorem Agree.of_append (h : Agree (used ++ back) rest front' rest') :
    ∃ used' back', front' = used' ++ back' ∧
      Agree used (prepend back rest) used' (prepend back' rest') ∧ Agree back rest back' rest' := by
  obtain ⟨used', back', rfl, hused, hback⟩ :=
    List.map_eq_append_iff.1 (h.front.trans (List.map_append))
  have hagree : Agree back rest back' rest' := ⟨hback, h.next⟩
  exact ⟨used', back', rfl, ⟨hused, hagree.current⟩, hagree⟩

end

/-- Whether the tokens before an error justify it: they can go on, or, for a refusal, there are at
least as many as `bound`. -/
def Justified (viable : List Token → Prop) (bound : Nat) : ParseError → List Token → Prop
  | .tooDeep _, before => bound ≤ before.length
  | _, before => viable before

/-- Whether a rule decides on the tokens that it takes and on the one behind them. Of tokens that
agree up to there it reads the same, or it fails with the same error about the same token; before that
token everything is justified. -/
structure Decides {α : Type} (viable : List Token → Prop) (bound : Nat)
    (rule : Tokens → Except ParseError (α × Tokens)) (ts : Tokens) : Prop where
  reads : ∀ a rest, rule ts = .ok (a, rest) → ∃ used, ts = prepend used rest ∧
    ∀ used' rest', Agree used rest used' rest' → rule (prepend used' rest') = .ok (a, rest')
  fails : ∀ error, rule ts = .error error → ∃ before rest, ts = prepend before rest ∧
    Offends error before rest ∧ Justified viable bound error before ∧
    ∀ before' rest', Agree before rest before' rest' → ∃ error',
      rule (prepend before' rest') = .error error' ∧ error'.unplaced = error.unplaced ∧
        Offends error' before' rest'

section

variable {α β : Type} {viable viable' : List Token → Prop} {bound bound' : Nat}
  {rule rule' : Tokens → Except ParseError (α × Tokens)} {ts rest : Tokens}

/-- What justifies an error justifies it with weaker demands. -/
theorem Justified.imp {error : ParseError} {before before' : List Token}
    (h : Justified viable bound error before) (hviable : viable before → viable' before')
    (hbound : bound ≤ before.length → bound' ≤ before'.length) :
    Justified viable' bound' error before' := by
  cases error with
  | tooDeep => exact hbound h
  | _ => exact hviable h

/-- Weaker demands on the tokens before an error. -/
theorem Decides.imp (h : Decides viable bound rule ts)
    (hviable : ∀ before, viable before → viable' before) (hbound : bound' ≤ bound) :
    Decides viable' bound' rule ts where
  reads := h.reads
  fails error herror := by
    obtain ⟨before, rest, heq, hoffends, hjustified, hsame⟩ := h.fails error herror
    exact ⟨before, rest, heq, hoffends,
      hjustified.imp (hviable before) (Nat.le_trans hbound), hsame⟩

/-- A rule that takes nothing decides. -/
theorem Decides.ok (a : α) : Decides viable bound (fun ts => .ok (a, ts)) ts where
  reads a' rest h := by
    obtain ⟨rfl, rfl⟩ := Prod.mk.inj (Except.ok.inj h)
    refine ⟨[], rfl, fun used' rest' hagree => ?_⟩
    obtain rfl := hagree.nil
    rfl
  fails error h := nomatch h

/-- A rule that fails decides if it fails likewise wherever the tokens agree. -/
theorem Decides.fail {error : ParseError} (before : List Token)
    (herror : rule (prepend before rest) = .error error) (hoffends : Offends error before rest)
    (hjustified : Justified viable bound error before)
    (hsame : ∀ before' rest', Agree before rest before' rest' → ∃ error',
      rule (prepend before' rest') = .error error' ∧ error'.unplaced = error.unplaced ∧
        Offends error' before' rest') :
    Decides viable bound rule (prepend before rest) where
  reads a rest h := nomatch herror.symm.trans h
  fails error' h := by
    obtain rfl := Except.error.inj (herror.symm.trans h)
    exact ⟨before, rest, rfl, hoffends, hjustified, hsame⟩

/-- A rule that goes on with another one behind some tokens decides as that one does. -/
theorem Decides.of_front {used : List Token}
    (heq : ∀ used' rest', Agree used rest used' rest' → rule (prepend used' rest') = rule' rest')
    (h : Decides (fun before => viable (used ++ before)) (bound - used.length) rule' rest) :
    Decides viable bound rule (prepend used rest) where
  reads a after hread := by
    rw [heq used rest ⟨rfl, rfl⟩] at hread
    obtain ⟨more, rfl, hsame⟩ := h.reads a after hread
    refine ⟨used ++ more, (prepend_append _ _ _).symm, fun front' rest' hagree => ?_⟩
    obtain ⟨used', more', rfl, hused, hmore⟩ := hagree.of_append
    rw [prepend_append, heq used' _ hused]
    exact hsame more' rest' hmore
  fails error herror := by
    rw [heq used rest ⟨rfl, rfl⟩] at herror
    obtain ⟨before, after, rfl, hoffends, hjustified, hsame⟩ := h.fails error herror
    refine ⟨used ++ before, after, (prepend_append _ _ _).symm, hoffends.append used, ?_, ?_⟩
    · refine hjustified.imp id fun hbound => ?_
      rw [List.length_append]
      omega
    · intro front' rest' hagree
      obtain ⟨used', before', rfl, hused, hbefore⟩ := hagree.of_append
      obtain ⟨error', herror', hunplaced, hoffends'⟩ := hsame before' rest' hbefore
      rw [prepend_append, heq used' _ hused]
      exact ⟨error', herror', hunplaced, hoffends'.append used'⟩

/-- A rule that goes on with another one behind a token decides as that one does. -/
theorem Decides.of_token {token : Token}
    (heq : ∀ token' rest', token'.kind = token.kind → token'.text = token.text →
      rule (prepend [token'] rest') = rule' rest')
    (h : Decides (fun before => viable (token :: before)) (bound - 1) rule' rest) :
    Decides viable bound rule (prepend [token] rest) := by
  refine .of_front (fun used' rest' hagree => ?_) h
  obtain ⟨token', more, rfl, hkind, htext, hagree⟩ := hagree.cons
  obtain rfl := hagree.nil
  exact heq token' rest' hkind htext

/-- A rule that is another one for tokens that start like these decides as that one does. -/
theorem Decides.of_current
    (heq : ∀ ts' : Tokens, ts'.current.kind = ts.current.kind → rule ts' = rule' ts')
    (h : Decides viable bound rule' ts) : Decides viable bound rule ts := by
  have hfront : Decides viable bound rule (prepend [] ts) := by
    refine .of_front (fun used' rest' hagree => ?_) h
    obtain rfl := hagree.nil
    exact heq rest' (Prod.mk.inj hagree.next).1
  exact hfront

/-- A rule that fails at a token decides if it does on all tokens that start like these. -/
theorem Decides.of_invalid (hkind : ts.current.kind ≠ .punctuation .dot) (hviable : viable [])
    (herror : ∀ ts' : Tokens, ts'.current.kind = ts.current.kind →
      rule ts' = .error (.invalidToken ts'.current)) : Decides viable bound rule ts := by
  refine .fail [] (herror ts rfl) (.invalid hkind) hviable fun before' rest' hagree => ?_
  obtain rfl := hagree.nil
  obtain ⟨hsame, htext⟩ := Prod.mk.inj hagree.next
  refine ⟨_, herror rest' hsame, ?_, .invalid (by rwa [hsame])⟩
  simp [ParseError.unplaced, hsame, htext]

/-- A rule that fails behind a dot decides if it does behind every dot before such a token. -/
theorem Decides.of_dot {dot : Token} (error : Token → Token → ParseError)
    (herror : ∀ (dot' : Token) (rest' : Tokens), dot'.kind = dot.kind →
      rest'.current.content = rest.current.content →
      rule (prepend [dot'] rest') = .error (error dot' rest'.current))
    (hoffends : ∀ (dot' : Token) (rest' : Tokens), dot'.kind = dot.kind →
      Offends (error dot' rest'.current) ([] ++ [dot']) rest')
    (hunplaced : ∀ dot' next : Token, dot'.content = dot.content →
      next.content = rest.current.content →
      (error dot' next).unplaced = (error dot rest.current).unplaced)
    (hjustified : Justified viable bound (error dot rest.current) [dot]) :
    Decides viable bound rule (prepend [dot] rest) := by
  refine .fail [dot] (herror dot rest rfl rfl) (hoffends dot rest rfl) hjustified ?_
  intro before' rest' hagree
  obtain ⟨dot', _, rfl, hkind, htext, hagree⟩ := hagree.cons
  obtain rfl := hagree.nil
  exact ⟨_, herror dot' rest' hkind hagree.next,
    hunplaced dot' rest'.current (Prod.ext hkind htext) hagree.next, hoffends dot' rest' hkind⟩

/-- A sequence decides if its parts do. -/
theorem Decides.bind {next : α × Tokens → Except ParseError (β × Tokens)}
    (h : Decides viable bound rule ts)
    (hnext : ∀ a used rest, rule ts = .ok (a, rest) → ts = prepend used rest →
      Decides (fun before => viable (used ++ before)) (bound - used.length)
        (fun rest => next (a, rest)) rest) :
    Decides viable bound (fun ts => rule ts >>= next) ts := by
  cases hrule : rule ts with
  | error error =>
      obtain ⟨before, rest, rfl, hoffends, hjustified, hsame⟩ := h.fails error hrule
      refine .fail before (by rw [hrule]; rfl) hoffends hjustified fun before' rest' hagree => ?_
      obtain ⟨error', herror', hunplaced, hoffends'⟩ := hsame before' rest' hagree
      exact ⟨error', by rw [herror']; rfl, hunplaced, hoffends'⟩
  | ok result =>
      obtain ⟨a, rest⟩ := result
      obtain ⟨used, rfl, hsame⟩ := h.reads a rest hrule
      refine .of_front (fun used' rest' hagree => ?_) (hnext a used rest hrule rfl)
      rw [hsame used' rest' hagree]
      rfl

/-- A sequence that starts with an expected token fails where another one stands, if it can go on
before it. -/
theorem Decides.of_unexpected {kind : TokenKind}
    {next : Tokens → Tokens → Except ParseError (β × Tokens)}
    (hkind : ts.current.kind ≠ kind) (hviable : viable []) :
    Decides viable bound (fun ts => ts.expect kind >>= next ts) ts := by
  have hfails : ∀ ts' : Tokens, ts'.current.kind = ts.current.kind →
      (ts'.expect kind >>= next ts') = .error (.unexpectedToken kind ts'.current) := by
    intro ts' hsame
    have hnot : ts'.current.hasKind kind = false := decide_eq_false (by rwa [hsame])
    simp [Tokens.expect, hnot]
    rfl
  refine .fail [] (hfails ts rfl) .unexpected hviable fun before' rest' hagree => ?_
  obtain rfl := hagree.nil
  obtain ⟨hkind', htext'⟩ := Prod.mk.inj hagree.next
  refine ⟨_, hfails rest' hkind', ?_, .unexpected⟩
  simp [ParseError.unplaced, hkind', htext']

/-- A sequence that starts with an expected symbol decides if it can go on before it, and what comes
behind it decides. -/
theorem Decides.expect {symbol : Symbol} {next : Tokens → Except ParseError (β × Tokens)}
    (hviable : viable [])
    (hnext : ∀ token rest, token.kind = .punctuation symbol → ts = prepend [token] rest →
      Decides (fun before => viable (token :: before)) (bound - 1) next rest) :
    Decides viable bound (fun ts => ts.expect (.punctuation symbol) >>= next) ts := by
  by_cases hkind : ts.current.kind = .punctuation symbol
  · have heq : ts = prepend [ts.current] ts.advance :=
      eq_prepend_current (by rw [hkind]; exact nofun)
    have hdecides := hnext ts.current ts.advance hkind heq
    rw [heq]
    refine .of_token (fun token' rest' hkind' _ => ?_) hdecides
    rw [expect_prepend (hkind'.trans hkind)]
    rfl
  · exact .of_unexpected hkind hviable

/-- The end of the source decides if it can go on before it. -/
theorem Decides.expect_end (hviable : viable []) (a : α) :
    Decides viable bound (fun ts => do
      let _ ← ts.expect .endOfInput
      return (a, ts)) ts := by
  by_cases hkind : ts.current.kind = .endOfInput
  · refine .of_current (fun ts' hsame => ?_) (.ok a)
    have hend : ts'.current.hasKind .endOfInput = true := decide_eq_true (hsame.trans hkind)
    rw [Tokens.expect, if_pos hend]
    rfl
  · exact .of_unexpected hkind hviable

/-- A sequence that starts with a node decides if what comes behind it does. -/
theorem Decides.node {H : Type} {limits : Limits} {expr : Expr H} {height : Nat}
    {next : Parsed H → Tokens → Except ParseError (β × Tokens)}
    (hbound : limits.maxHeight < height → bound = 0)
    (hnext : ∀ parsed, Parser.node limits expr height = .ok parsed →
      Decides viable bound (next parsed) ts) :
    Decides viable bound (fun ts => Parser.node limits expr height >>= fun parsed => next parsed ts)
      ts := by
  cases hnode : Parser.node limits expr height with
  | ok parsed => exact hnext parsed hnode
  | error error =>
      unfold Parser.node at hnode
      split at hnode
      · rename_i hheight
        obtain rfl := Except.error.inj hnode
        refine .fail [] rfl .deep (Nat.le_of_eq (hbound hheight)) ?_
        intro before' rest' _
        exact ⟨_, rfl, rfl, .deep⟩
      · exact nomatch hnode

end

end Parser

end Formula
