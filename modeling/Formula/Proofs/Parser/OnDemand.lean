import Formula.Proofs.Lexer.Tiling
import Formula.Proofs.Parser.Loops
import Formula.Proofs.Parser.Reader

/-!
# Parsing on demand

A parser that moves a cursor over a text does what the rules of the grammar do on the list of its
tokens. The cursor stands in the tokens that are left, as long as what it has not read consists of
those behind the current one, and every move keeps this. So nothing depends on when tokens are read,
`parse_start_on_demand_eq` and `parse_whole_on_demand_eq`.
-/

namespace Formula

/-- Whether a cursor stands on the first of some tokens and has not read the others. -/
structure Cursor.StandsIn (cursor : Cursor) (ts : Tokens) : Prop where
  token : cursor.token = ts.current
  unread : cursor.unread.tokens = ts.advance.rest
  endPosition : cursor.unread.endPosition = ts.endPosition

namespace Cursor

variable {cursor : Cursor} {ts : Tokens}

/-- What a cursor comes to is the first of the tokens that it has not read. -/
theorem next_token (cursor : Cursor) :
    cursor.moveNext.2.StandsIn ⟨cursor.unread.tokens, cursor.unread.endPosition⟩ := by
  obtain ⟨htoken, hunread, hend⟩ := cursor.unread.next_eq
  exact ⟨htoken, hunread, hend⟩

/-- A cursor that moves stands in the tokens behind the current one. -/
theorem StandsIn.advance (h : cursor.StandsIn ts) : cursor.moveNext.2.StandsIn ts.advance := by
  have hnext := cursor.next_token
  rwa [h.unread, h.endPosition] at hnext

/-- A cursor that was moved to its first token stands in the tokens of its text. -/
theorem stands_in_of_text (text : String) :
    (Cursor.start text).moveNext.2.StandsIn (.ofText text) := by
  have hend : (Cursor.start text).unread.endPosition = text.length := by
    show 0 + text.toList.length = text.length
    rw [Nat.zero_add, String.length_toList]
  have hnext := (Cursor.start text).next_token
  rwa [hend] at hnext

/-- The token that a cursor sees behind the current one. -/
theorem StandsIn.peek_token (h : cursor.StandsIn ts)
    (hkind : ts.current.kind ≠ .endOfInput) : cursor.peekToken 1 = ts.advance.current := by
  have hnot : cursor.token.hasKind .endOfInput = false :=
    decide_eq_false (by rwa [h.token])
  rw [← h.advance.token, peekToken, lookAhead, hnot]
  rfl

/-- A cursor has at least as many characters left as there are tokens behind the current one. -/
theorem StandsIn.length_le (h : cursor.StandsIn ts) :
    ts.rest.length ≤ cursor.unread.rest.length + 1 := by
  have htiled := (tiled_tokens cursor.unread.position cursor.unread.rest).length_le
  have hunread : (Unread.tokens ⟨cursor.unread.position, cursor.unread.rest⟩).length =
      ts.rest.length - 1 := by
    rw [← Parser.length_advance, ← h.unread]
  omega

end Cursor

namespace Reader

/-- Whether a reader comes to the same result as a rule on a list of tokens: to the same error, or to
the same value, with its cursor standing in the tokens that the rule leaves. -/
inductive Matches {α : Type} :
    Except ParseError (α × Cursor) → Except ParseError (α × Tokens) → Prop where
  | ok {a cursor ts} : Cursor.StandsIn cursor ts → Matches (.ok (a, cursor)) (.ok (a, ts))
  | error {error} : Matches (.error error) (.error error)

/-- Whether a reader does on every cursor what a rule does on the tokens in which it stands. -/
def Follows {α : Type} (reader : Reader α) (rule : Tokens → Except ParseError (α × Tokens)) :
    Prop :=
  ∀ ⦃cursor : Cursor⦄ ⦃ts : Tokens⦄, cursor.StandsIn ts → Matches (reader.run cursor) (rule ts)

section

variable {α β : Type} {cursor : Cursor} {ts : Tokens}

/-- A result goes on alike if what comes next does. -/
theorem Matches.bind {reader : Reader α} {result : Except ParseError (α × Tokens)}
    {next : α → Reader β} {next' : α × Tokens → Except ParseError (β × Tokens)}
    (h : Matches (reader.run cursor) result)
    (hnext : ∀ a ⦃cursor : Cursor⦄ ⦃ts : Tokens⦄, cursor.StandsIn ts →
      Matches ((next a).run cursor) (next' (a, ts))) :
    Matches ((reader >>= next).run cursor) (result >>= next') := by
  rw [StateT.run_bind]
  generalize reader.run cursor = outcome at h
  cases h with
  | ok hstands => exact hnext _ hstands
  | error => exact .error

/-- What reads no tokens goes on alike if what comes next does. -/
theorem matches_lift (result : Except ParseError α) {next : α → Reader β}
    {next' : α → Except ParseError (β × Tokens)}
    (hnext : ∀ a, Matches ((next a).run cursor) (next' a)) :
    Matches ((liftM result >>= next).run cursor) (result >>= next') := by
  cases result with
  | ok a => exact hnext a
  | error error => exact .error

/-- What reads no tokens at the end of a rule. -/
theorem matches_lift_last (h : cursor.StandsIn ts) (result : Except ParseError α) :
    Matches ((liftM result : Reader α).run cursor) (result >>= fun a => .ok (a, ts)) := by
  cases result with
  | ok a => exact .ok h
  | error error => exact .error

/-- The current token is the one in which the cursor stands. -/
theorem run_current (h : cursor.StandsIn ts) (next : Token → Reader β) :
    (current >>= next).run cursor = (next ts.current).run cursor := by
  rw [← h.token]
  rfl

/-- Whether the current token is a symbol is seen on the tokens. -/
theorem run_starts_with (h : cursor.StandsIn ts) (symbol : Symbol) (next : Bool → Reader β) :
    (startsWith symbol >>= next).run cursor = (next (ts.startsWith symbol)).run cursor := by
  rw [Tokens.startsWith, ← h.token]
  rfl

/-- The token behind the current one is the one that follows in the tokens. -/
theorem run_peek_one (h : cursor.StandsIn ts) (hkind : ts.current.kind ≠ .endOfInput)
    (next : Token → Reader β) :
    (peek 1 >>= next).run cursor = (next ts.advance.current).run cursor := by
  rw [StateT.run_bind, run_peek, h.peek_token hkind]
  rfl

/-- An expected token is passed over alike, and its absence is the same error. -/
theorem matches_expect (h : cursor.StandsIn ts) (kind : TokenKind) {next : Unit → Reader β}
    {next' : Tokens → Except ParseError (β × Tokens)}
    (hnext : ∀ ⦃cursor : Cursor⦄ ⦃ts : Tokens⦄, cursor.StandsIn ts →
      Matches ((next ()).run cursor) (next' ts)) :
    Matches ((expect kind >>= next).run cursor) (ts.expect kind >>= next') := by
  rw [expect, bind_assoc, run_current h, Tokens.expect]
  split
  · exact hnext h.advance
  · exact .error

end

section

variable {H : Type} {limits : Limits} {operand expression : Reader (Parsed H)}
  {operandRule expressionRule : Parser.Rule H}

/-- Primaries are read alike. -/
theorem primary_follows (hexpr : Follows expression expressionRule) :
    Follows (primary expression) (Parser.primary expressionRule) := by
  intro cursor ts h
  rw [primary, run_current h, Parser.primary]
  dsimp only
  cases ts.current.kind with
  | endOfInput | unknown => exact .error
  | number =>
      dsimp only
      rw [run_advance]
      exact matches_lift_last h.advance _
  | string | identifier => exact .ok h.advance
  | punctuation symbol =>
      cases symbol with
      | dot =>
          dsimp only
          rw [run_advance, run_current h.advance]
          split
          · exact matches_lift_last h.advance.advance _
          · exact .error
      | leftParen =>
          dsimp only
          rw [run_advance]
          refine (hexpr h.advance).bind fun parsed cursor rest h => ?_
          exact matches_expect h _ fun _ _ h => .ok h
      | _ => exact .error

/-- Arguments with commas between them are read alike. -/
theorem argument_list_follows (hexpr : Follows expression expressionRule) (close : Symbol)
    (fuel : Nat) :
    Follows (argumentList expression close fuel)
      (Parser.argumentList expressionRule close fuel) := by
  induction fuel with
  | zero =>
      intro cursor ts h
      rw [argumentList, run_current h, Parser.argumentList]
      exact .error
  | succ fuel ih =>
      intro cursor ts h
      rw [argumentList, Parser.argumentList]
      refine (hexpr h).bind fun arg cursor rest h => ?_
      rw [run_starts_with h]
      dsimp only
      split
      · rw [run_advance]
        exact (ih h.advance).bind fun args _ _ h => .ok h
      · exact matches_expect h _ fun _ _ h => .ok h

/-- Arguments between two symbols are read alike, where the rule comes behind the first one. -/
theorem arguments_follow (hexpr : Follows expression expressionRule)
    (hsound : Parser.Sound .expression expressionRule) {opening : Symbol} (close : Symbol)
    {cursor : Cursor} {ts : Tokens} (h : cursor.StandsIn ts)
    (hopening : ts.startsWith opening = true) :
    Matches ((arguments expression opening close).run cursor)
      (Parser.arguments expressionRule close ts.advance) := by
  have hexpect : ts.expect (.punctuation opening) = .ok ts.advance := if_pos hopening
  have hmatches : Matches ((arguments expression opening close).run cursor)
      (ts.expect (.punctuation opening) >>= Parser.arguments expressionRule close) := by
    rw [arguments]
    refine matches_expect h _ fun cursor ts h => ?_
    rw [run_starts_with h, Parser.arguments]
    split
    · exact .ok h.advance
    · have hlength := h.length_le
      have hfuel : Parser.argumentList expressionRule close (ts.rest.length + 1) ts =
          Parser.argumentList expressionRule close (cursor.unread.rest.length + 2) ts :=
        Parser.argument_list_fuel hsound close (Nat.lt_succ_self _) (by omega)
      rw [run_rounds, hfuel]
      exact argument_list_follows hexpr close _ h
  rwa [hexpect] at hmatches

/-- Accesses behind a target are read alike. -/
theorem accesses_follow (hexpr : Follows expression expressionRule)
    (hsound : Parser.Sound .expression expressionRule) (fuel : Nat) (target : Parsed H) :
    Follows (accesses limits expression fuel target)
      (Parser.accesses limits expressionRule fuel target) := by
  induction fuel generalizing target with
  | zero =>
      intro cursor ts h
      exact .ok h
  | succ fuel ih =>
      intro cursor ts h
      rw [accesses, run_starts_with h, Parser.accesses]
      dsimp only
      split
      · rw [run_current h, run_advance, run_current h.advance]
        split
        · rename_i hname
          have hkind : ts.advance.current.kind ≠ .endOfInput := by
            rw [of_decide_eq_true hname]
            simp
          rw [run_peek_one h.advance hkind, Tokens.startsWith]
          split
          · rename_i hopening
            rw [run_advance]
            refine (arguments_follow hexpr hsound .rightParen h.advance.advance hopening).bind ?_
            intro args cursor rest h
            exact matches_lift _ fun parsed => ih parsed h
          · rw [run_advance]
            exact matches_lift _ fun parsed => ih parsed h.advance.advance
        · exact .error
      · rw [run_starts_with h]
        split
        · rename_i hopening
          refine (arguments_follow hexpr hsound .rightBracket h hopening).bind ?_
          intro args cursor rest h
          exact matches_lift _ fun parsed => ih parsed h
        · exact .ok h

/-- Primaries with all that follows them are read alike. -/
theorem access_follows (hexpr : Follows expression expressionRule)
    (hsound : Parser.Sound .expression expressionRule) :
    Follows (access limits expression) (Parser.access limits expressionRule) := by
  intro cursor ts h
  refine (primary_follows hexpr h).bind fun target cursor rest h => ?_
  -- The two loops have fuel of their own, which for both is enough for all tokens.
  have hlength := h.length_le
  have hfuel : Parser.accesses limits expressionRule rest.rest.length target rest =
      Parser.accesses limits expressionRule (cursor.unread.rest.length + 2) target rest :=
    Parser.accesses_fuel hsound target (Nat.le_refl _) (by omega)
  dsimp only
  rw [run_rounds, hfuel]
  exact accesses_follow hexpr hsound _ target h

/-- Operands with their prefix operators are read alike. -/
theorem unary_follows (hoperand : Follows operand operandRule)
    (hexpr : Follows expression expressionRule)
    (hsound : Parser.Sound .expression expressionRule) :
    Follows (unary limits operand expression)
      (Parser.unary limits operandRule expressionRule) := by
  intro cursor ts h
  rw [unary, run_starts_with h, Parser.unary]
  split
  · exact hoperand h.advance
  · rw [run_current h]
    cases Parser.unaryOp? ts.current.kind with
    | some op =>
        dsimp only
        rw [run_advance]
        exact (hoperand h.advance).bind fun parsed cursor rest h => matches_lift_last h _
    | none => exact access_follows hexpr hsound h

/-- The operators of a level behind a left operand are read alike. -/
theorem left_fold_follows (hoperand : Follows operand operandRule) (level fuel : Nat)
    (left : Parsed H) :
    Follows (leftFold limits level operand fuel left)
      (Parser.leftFold limits level operandRule fuel left) := by
  induction fuel generalizing left with
  | zero =>
      intro cursor ts h
      exact .ok h
  | succ fuel ih =>
      intro cursor ts h
      rw [leftFold, run_current h, Parser.leftFold]
      cases Parser.opOnLevel? level ts.current.kind with
      | some op =>
          dsimp only
          rw [run_advance]
          refine (hoperand h.advance).bind fun right cursor rest h => ?_
          exact matches_lift _ fun parsed => ih parsed h
      | none => exact .ok h

/-- Operands with the operators of the levels up to `k` between them are read alike. -/
theorem binary_follows (hoperand : Follows operand operandRule)
    (hsound : Parser.Sound (.level 0) operandRule) (k : Nat) :
    Follows (binary limits operand k) (Parser.binary limits operandRule k) := by
  induction k with
  | zero => exact hoperand
  | succ k ih =>
      intro cursor ts h
      refine (ih h).bind fun left cursor rest h => ?_
      have hlength := h.length_le
      have hfuel : Parser.leftFold limits (k + 1) (Parser.binary limits operandRule k)
          rest.rest.length left rest =
          Parser.leftFold limits (k + 1) (Parser.binary limits operandRule k)
          (cursor.unread.rest.length + 2) left rest :=
        Parser.left_fold_fuel (Parser.binary_sound hsound k) (k + 1) left (Nat.le_refl _) (by omega)
      dsimp only
      rw [run_rounds, hfuel]
      exact left_fold_follows ih (k + 1) _ left h

/-- Whole expressions are read alike. -/
theorem conditional_follows (hoperand : Follows operand operandRule)
    (hexpr : Follows expression expressionRule)
    (hoperandSound : Parser.Sound (.level 0) operandRule)
    (hexprSound : Parser.Sound .expression expressionRule) :
    Follows (conditional limits operand expression)
      (Parser.conditional limits operandRule expressionRule) := by
  intro cursor ts h
  have hunary : Follows (unary limits operand expression)
      (Parser.unary limits operandRule expressionRule) := unary_follows hoperand hexpr hexprSound
  have hsound : Parser.Sound (.level 0) (Parser.unary limits operandRule expressionRule) :=
    Parser.unary_sound hoperandSound hexprSound
  refine (binary_follows hunary hsound BinaryOp.levelCount h).bind fun condition cursor rest h => ?_
  rw [run_starts_with h]
  dsimp only
  split
  · rw [run_advance]
    refine (hexpr h.advance).bind fun yes cursor rest h => ?_
    refine matches_expect h _ fun cursor rest h => ?_
    refine (hexpr h).bind fun no cursor rest h => ?_
    exact matches_lift_last h _
  · exact .ok h

/-- Nested expressions and operands are read alike, with every budget. -/
theorem nested_follows (limits : Limits) (budget : Nat) (kind : Parser.Nested) :
    Follows (nested (H := H) limits budget kind) (Parser.nested limits budget kind) := by
  induction budget generalizing kind with
  | zero =>
      intro cursor ts _
      exact .error
  | succ budget ih =>
      obtain ⟨hexpr, hoperand⟩ := Parser.nested_sound (H := H) limits budget
      cases kind with
      | expression => exact conditional_follows (ih .operand) (ih .expression) hoperand hexpr
      | operand => exact unary_follows (ih .operand) (ih .expression) hexpr

/-- An expression and its stop are read alike. -/
theorem start_follows (limits : Limits) :
    Follows (start (H := H) limits) fun ts => do
      let (expr, rest) ← Parser.expression limits ts
      return ((expr, rest.current), rest) := by
  intro cursor ts h
  dsimp only [Parser.expression]
  rw [start, bind_assoc]
  refine (nested_follows limits limits.maxDepth .expression h).bind fun parsed cursor rest h => ?_
  rw [run_current h]
  exact .ok h

/-- An expression up to the end of input is read alike. -/
theorem whole_follows (limits : Limits) :
    Follows (whole (H := H) limits) fun ts => do
      let (expr, rest) ← Parser.expression limits ts
      let after ← rest.expect .endOfInput
      return (expr, after) := by
  intro cursor ts h
  dsimp only [Parser.expression]
  rw [whole, bind_assoc]
  refine (nested_follows limits limits.maxDepth .expression h).bind fun parsed cursor rest h => ?_
  exact matches_expect h _ fun _ _ h => .ok h

end

/-- A reader that follows a rule gives of a text what the rule gives of its tokens. -/
theorem run_on_of_follows {α : Type} {reader : Reader α}
    {rule : Tokens → Except ParseError (α × Tokens)} (h : Follows reader rule) (text : String) :
    reader.runOn text = Prod.fst <$> rule (.ofText text) := by
  have hmatches := h (Cursor.stands_in_of_text text)
  rw [runOn]
  generalize reader.run (Cursor.start text).moveNext.2 = outcome at hmatches
  generalize rule (.ofText text) = result at hmatches
  cases hmatches <;> rfl

end Reader

namespace Expr

variable {H : Type}

/-- Reading tokens on demand, a text starts with the same expression, or is wrong in the same way, as
when its tokens are read from their list. -/
theorem parse_start_on_demand_eq (limits : Limits) (text : String) :
    parseStartOnDemand (H := H) limits text = parseStart limits text := by
  rw [parseStartOnDemand, Reader.run_on_of_follows (Reader.start_follows limits), parseStart]
  cases Parser.expression (H := H) limits (.ofText text) <;> rfl

/-- Reading tokens on demand, a whole text is the same expression, or is wrong in the same way, as
when its tokens are read from their list. -/
theorem parse_whole_on_demand_eq (limits : Limits) (text : String) :
    parseWholeOnDemand (H := H) limits text = parseWhole limits text := by
  rw [parseWholeOnDemand, Reader.run_on_of_follows (Reader.whole_follows limits), parseWhole]
  cases Parser.expression (H := H) limits (.ofText text) with
  | error error => rfl
  | ok result =>
      dsimp only [bind, Except.bind]
      cases result.2.expect .endOfInput <;> rfl

end Expr

end Formula
