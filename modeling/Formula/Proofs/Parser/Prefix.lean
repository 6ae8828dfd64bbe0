import Formula.Command
import Formula.Proofs.Lexer.Tiling
import Formula.Proofs.Parser.Limits
import Formula.Proofs.Printer.Parsed

/-!
# The part of a text that is parsed

An expression that is read from the start of a text is the whole of the text before the token on
which it stops, `parse_whole_of_parse_start`: the tokens there are the same without what follows. So
what is accepted as a whole is evaluated as the same tree where only the start of a text is read.
-/

namespace Formula

open Grammar Tokens

/-- No token of a source stands before the source, and neither does its end. -/
theorem Tiled.le_current_position {position stop : Nat} {source : List Char} {ts more : List Token}
    (h : Tiled position source (ts ++ more)) (hstop : position + source.length = stop) :
    position ≤ (Tokens.mk more stop).current.position := by
  cases more with
  | nil => exact Nat.le_of_add_right_le (Nat.le_of_eq hstop)
  | cons token more =>
      have hmem : token ∈ ts ++ token :: more := List.mem_append_right _ List.mem_cons_self
      rw [tiled_iff.1 h] at hmem
      exact (Unread.position_bounds hmem).1

/-- What stands before a token is tiled by the tokens before it. -/
theorem Tiled.take {position stop : Nat} {source : List Char} {ts more : List Token}
    (h : Tiled position source (ts ++ more)) (hstop : position + source.length = stop) :
    Tiled position (source.take ((Tokens.mk more stop).current.position - position)) ts := by
  induction ts generalizing position source with
  | nil =>
      rw [List.nil_append] at h
      cases h with
      | done hblanks =>
          subst hstop
          show Tiled position (List.take (position + _ - position) _) []
          rw [Nat.add_sub_cancel_left, List.take_length]
          exact .done hblanks
      | @token _ blanks token lexeme rest _ hblanks hposition hwritten hrest =>
          show Tiled position (List.take (token.position - position) _) []
          rw [hposition, Nat.add_sub_cancel_left, List.take_left]
          exact .done hblanks
  | cons token ts ih =>
      cases h with
      | @token _ blanks _ lexeme rest _ hblanks hposition hwritten hrest =>
          have hend : token.position + lexeme.length + rest.length = stop := by
            simp only [List.length_append] at hstop
            omega
          have hfront := ih hrest hend
          have hle := hrest.le_current_position hend
          generalize (Tokens.mk more stop).current.position = cut at hfront hle ⊢
          have hcut : cut - position =
              blanks.length + (lexeme.length + (cut - (token.position + lexeme.length))) := by
            omega
          rw [hcut, List.take_length_add_append, List.take_length_add_append]
          refine .token hblanks hposition (hwritten.of_front ?_) hfront
          exact List.take_prefix _ _

/-- The text before a token consists of the tokens before it. -/
theorem Tokens.tokenize_take {text : String} {consumed : List Token} {rest : Tokens}
    (h : ofText text = prepend consumed rest) :
    tokenize (String.ofList (text.toList.take rest.current.position)) = consumed := by
  have hlist : tokenize text = consumed ++ rest.rest := congrArg Tokens.rest h
  have hend : text.length = rest.endPosition := congrArg Tokens.endPosition h
  have htiled : Tiled 0 text.toList (consumed ++ rest.rest) := tiled_iff.2 hlist.symm
  have hfront := htiled.take (show 0 + text.toList.length = rest.endPosition by
    rw [Nat.zero_add, String.length_toList, hend])
  rw [tokenize, Unread.ofText, String.toList_ofList]
  exact (tiled_iff.1 hfront).symm

/-- A token that was expected is of the kind that was. -/
theorem Tokens.kind_of_expect {kind : TokenKind} {ts rest : Tokens} (h : ts.expect kind = .ok rest) :
    ts.current.kind = kind := by
  unfold expect at h
  split at h
  · rename_i hkind
    exact of_decide_eq_true hkind
  · exact nomatch h

namespace Expr

variable {H : Type}

/-- An expression that a text starts with is the whole of the text before the token on which it
stops. -/
theorem parse_whole_of_parse_start {limits : Limits} {text : String} {e : Expr H} {stop : Token}
    (h : parseStart limits text = .ok (e, stop)) :
    parseWhole limits (String.ofList (text.toList.take stop.position)) = .ok e := by
  obtain ⟨consumed, rest, n, heq, rfl, hderives, -, hfits⟩ := parse_start_eq_ok_iff.1 h
  rw [parse_whole_eq_ok_iff, tokenize_take heq]
  exact ⟨n, hderives, hfits⟩

/-- A text is one expression if and only if it starts with the expression and that stops on the end
of input. -/
theorem parse_whole_eq_ok_iff_start {limits : Limits} {text : String} {e : Expr H} :
    parseWhole limits text = .ok e ↔
      ∃ stop, stop.kind = .endOfInput ∧ parseStart limits text = .ok (e, stop) := by
  constructor
  · intro h
    obtain ⟨⟨parsed, rest⟩, hread, hexpect⟩ := Parser.bind_eq_ok.1 h
    obtain ⟨after, hend, hresult⟩ := Parser.bind_eq_ok.1 hexpect
    obtain rfl := Except.ok.inj hresult
    refine ⟨rest.current, kind_of_expect hend, ?_⟩
    rw [parseStart, hread]
    rfl
  · rintro ⟨stop, hkind, h⟩
    obtain ⟨⟨parsed, rest⟩, hread, hresult⟩ := Parser.bind_eq_ok.1 h
    obtain ⟨rfl, rfl⟩ := Prod.mk.inj (Except.ok.inj hresult)
    have hend : rest.expect .endOfInput = .ok rest.advance :=
      if_pos (decide_eq_true hkind)
    rw [parseWhole, hread]
    show (rest.expect .endOfInput >>= fun _ => pure parsed) = .ok parsed
    rw [hend]
    rfl

/-- A text that is one expression is evaluated as the tree of the expression. -/
theorem evaluate_of_parse_whole {σ : Type} [HostObject H] {limits : Limits} {text : String}
    {e : Expr H} (h : parseWhole limits text = .ok e) (binding : Binding σ H) (root : Value H)
    (state : σ) :
    evaluate binding limits text root state =
      (((e.eval binding root).run.run state).1.mapError .evaluation,
        ((e.eval binding root).run.run state).2) := by
  rw [evaluate, parse_of_parse_whole h]
  rfl

/-- The document for the value of a tree, with the document that an input holds as its root. -/
def evalInput (e : Expr Empty) (input : Option String) : Except CommandError Json := do
  let root ← readInput input
  let result := ((e.eval Binding.object root).run.run ()).1
  (result.map Value.toJson).mapError fun error => .expression (.evaluation error)

/-- A text that is one expression is evaluated against an input as the tree of the expression. -/
theorem evaluate_text_of_parse_whole {limits : Limits} {text : String} {e : Expr Empty}
    (h : parseWhole limits text = .ok e) (input : Option String) :
    evaluateText limits text input = e.evalInput input := by
  rw [evaluateText, evalInput]
  refine bind_congr fun root => ?_
  rw [evaluate_of_parse_whole h]
  cases ((e.eval Binding.object root).run.run ()).1 with
  | ok value => rfl
  | error error => rfl

/-- Evaluating a tree against an input is not refused for a text that is no expression. -/
theorem eval_input_ne_parse (e : Expr Empty) (input : Option String) (error : ParseError) :
    e.evalInput input ≠ .error (.expression (.parse error)) := by
  rw [evalInput]
  cases hinput : readInput input with
  | ok root =>
      show (Except.mapError _ (Except.map _ ((e.eval Binding.object root).run.run ()).1)) ≠ _
      cases ((e.eval Binding.object root).run.run ()).1 with
      | ok value => exact nofun
      | error error => exact nofun
  | error failure =>
      unfold readInput at hinput
      split at hinput
      · exact nomatch hinput
      · split at hinput
        · exact nomatch hinput
        · obtain rfl := Except.error.inj hinput
          exact nofun

/-- Reading the start of a text is reading as a whole what was read of it. The text before the token
on which an expression stops is the expression, under the same limits, and the text is the expression
if and only if it stops on the end of input. So a text that is accepted as a whole is evaluated as the
tree that it is accepted as, and never refused as no expression. -/
theorem parse_start_whole_before_stop (text : String) (limits : Limits) :
    (∀ (e : Expr H) (stop : Token), parseStart limits text = .ok (e, stop) →
      parseWhole limits (String.ofList (text.toList.take stop.position)) = .ok e) ∧
    (∀ e : Expr H, parseWhole limits text = .ok e ↔
      ∃ stop, stop.kind = .endOfInput ∧ parseStart limits text = .ok (e, stop)) ∧
    (∀ [HostObject H] (e : Expr H), parseWhole limits text = .ok e →
      ∀ (σ : Type) (binding : Binding σ H) (root : Value H) (state : σ),
        evaluate binding limits text root state =
          (((e.eval binding root).run.run state).1.mapError .evaluation,
            ((e.eval binding root).run.run state).2)) ∧
    ∀ printed, checkText limits text = .ok printed →
      ∃ e : Expr Empty, printed = e.toText ∧ parseWhole limits text = .ok e ∧
        ∀ input, evaluateText limits text input = e.evalInput input ∧
          ∀ error, evaluateText limits text input ≠ .error (.expression (.parse error)) := by
  refine ⟨fun e stop h => parse_whole_of_parse_start h, fun e => parse_whole_eq_ok_iff_start, ?_, ?_⟩
  · intro _ e h σ binding root state
    exact evaluate_of_parse_whole h binding root state
  · intro printed h
    unfold checkText at h
    split at h
    · rename_i e hparse
      refine ⟨e, (Except.ok.inj h).symm, hparse, fun input => ?_⟩
      rw [evaluate_text_of_parse_whole hparse]
      exact ⟨rfl, e.eval_input_ne_parse input⟩
    · exact nomatch h

end Expr

end Formula
