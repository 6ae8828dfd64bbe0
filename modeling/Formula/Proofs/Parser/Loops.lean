import Formula.Proofs.Parser.Sound

/-!
# The loops of the parser

The loops of the parser have fuel for as many rounds as there are tokens. With that much or more they
do the same, so behind one round comes the same loop for the tokens that are left: `argumentLoop`,
`accessLoop` and `operatorLoop` with an equation for each way a round can go.
-/

namespace Formula.Parser

open Grammar Tokens

variable {H : Type} {limits : Limits} {expression operand : Rule H}

/-- Sequences are the same if what comes second is for every result of the first part. -/
theorem bind_congr_of_ok {ε α β : Type} {x : Except ε α} {f g : α → Except ε β}
    (h : ∀ a, x = .ok a → f a = g a) : (x >>= f) = x >>= g := by
  cases x with
  | error => rfl
  | ok a => exact h a rfl

/-- A rule that is sound leaves fewer tokens than there were. -/
theorem Sound.length_lt {c : Category} {rule : Rule H} (hrule : Sound c rule) {ts rest : Tokens}
    {parsed : Parsed H} (h : rule ts = .ok (parsed, rest)) : rest.rest.length < ts.rest.length := by
  obtain ⟨consumed, n, rfl, hderives, -⟩ := hrule h
  have hne := List.length_pos_iff.2 (derives_ne_nil hderives)
  rw [length_prepend]
  rw [List.nil_append] at hne
  omega

/-- Arguments leave fewer tokens than there were. -/
theorem arguments_length_lt (hexpr : Sound .expression expression) {close : Symbol}
    {ts rest : Tokens} {args : List (Parsed H)}
    (h : arguments expression close ts = .ok (args, rest)) :
    rest.rest.length < ts.rest.length := by
  obtain ⟨consumed, n, closing, rfl, -, -⟩ := arguments_sound hexpr h
  rw [length_prepend, List.length_append, List.length_singleton]
  omega

/-- Passing over a token leaves one less. -/
theorem length_advance (ts : Tokens) : ts.advance.rest.length = ts.rest.length - 1 :=
  List.length_tail

/-- With fuel for all tokens the loop over arguments does the same. -/
theorem argument_list_fuel (hexpr : Sound .expression expression) (close : Symbol)
    {fuel fuel' : Nat} {ts : Tokens} (h : ts.rest.length < fuel) (h' : ts.rest.length < fuel') :
    argumentList expression close fuel ts = argumentList expression close fuel' ts := by
  induction fuel generalizing fuel' ts with
  | zero => exact absurd h (Nat.not_lt_zero _)
  | succ fuel ih =>
      obtain ⟨fuel', rfl⟩ := Nat.exists_eq_add_one.2 (Nat.zero_lt_of_lt h')
      rw [argumentList, argumentList]
      refine bind_congr_of_ok fun result harg => ?_
      obtain ⟨arg, rest⟩ := result
      have hlength := hexpr.length_lt harg
      have hadvance := length_advance rest
      have hmore : argumentList expression close fuel rest.advance =
          argumentList expression close fuel' rest.advance := ih (by omega) (by omega)
      dsimp only
      rw [hmore]

/-- Without tokens the loop over accesses ends. -/
theorem accesses_end {ts : Tokens} (h : ts.rest.length = 0) (fuel : Nat) (target : Parsed H) :
    accesses limits expression fuel target ts = .ok (target, ts) := by
  have hstop : Stops .access [] ts.current := stops_of_delimits (delimits_of_length_eq_zero h)
  exact accesses_stop hstop.not_continues fuel target

/-- Without tokens the loop over the operators of a level ends. -/
theorem left_fold_end {ts : Tokens} (h : ts.rest.length = 0) (level fuel : Nat) (left : Parsed H) :
    leftFold limits level operand fuel left ts = .ok (left, ts) := by
  have hstop : Stops (.level level) [] ts.current :=
    stops_of_delimits (delimits_of_length_eq_zero h)
  refine left_fold_stop (fun op hlevel hkind => ?_) fuel left
  exact hstop.not_continues (.inr ⟨level, Nat.le_refl _, op, hlevel, hkind⟩)

/-- With fuel for all tokens the loop over accesses does the same. -/
theorem accesses_fuel (hexpr : Sound .expression expression) {fuel fuel' : Nat}
    (target : Parsed H) {ts : Tokens} (h : ts.rest.length ≤ fuel) (h' : ts.rest.length ≤ fuel') :
    accesses limits expression fuel target ts = accesses limits expression fuel' target ts := by
  induction fuel generalizing fuel' target ts with
  | zero => rw [accesses_end (Nat.le_zero.1 h), accesses_end (Nat.le_zero.1 h)]
  | succ fuel ih =>
      cases fuel' with
      | zero => rw [accesses_end (Nat.le_zero.1 h'), accesses_end (Nat.le_zero.1 h')]
      | succ fuel' =>
          have hadvance := length_advance ts
          have hadvanceName := length_advance ts.advance
          have hadvanceArgs := length_advance ts.advance.advance
          rw [accesses, accesses]
          dsimp only
          split
          · split
            · split
              · refine bind_congr_of_ok fun result hargs => ?_
                obtain ⟨args, rest⟩ := result
                have hlength := arguments_length_lt hexpr hargs
                exact bind_congr fun parsed => ih parsed (by dsimp only; omega) (by dsimp only; omega)
              · exact bind_congr fun parsed => ih parsed (by omega) (by omega)
            · rfl
          · split
            · refine bind_congr_of_ok fun result hargs => ?_
              obtain ⟨args, rest⟩ := result
              have hlength := arguments_length_lt hexpr hargs
              exact bind_congr fun parsed => ih parsed (by dsimp only; omega) (by dsimp only; omega)
            · rfl

/-- With fuel for all tokens the loop over the operators of a level does the same. -/
theorem left_fold_fuel {c : Category} (hoperand : Sound c operand) (level : Nat)
    {fuel fuel' : Nat} (left : Parsed H) {ts : Tokens} (h : ts.rest.length ≤ fuel)
    (h' : ts.rest.length ≤ fuel') :
    leftFold limits level operand fuel left ts = leftFold limits level operand fuel' left ts := by
  induction fuel generalizing fuel' left ts with
  | zero => rw [left_fold_end (Nat.le_zero.1 h), left_fold_end (Nat.le_zero.1 h)]
  | succ fuel ih =>
      cases fuel' with
      | zero => rw [left_fold_end (Nat.le_zero.1 h'), left_fold_end (Nat.le_zero.1 h')]
      | succ fuel' =>
          have hadvance := length_advance ts
          rw [leftFold, leftFold]
          split
          · refine bind_congr_of_ok fun result hright => ?_
            obtain ⟨right, rest⟩ := result
            have hlength := hoperand.length_lt hright
            exact bind_congr fun parsed => ih parsed (by omega) (by omega)
          · rfl

/-- The expressions with commas between them up to a symbol. -/
def argumentLoop (expression : Rule H) (close : Symbol) (ts : Tokens) :
    Except ParseError (List (Parsed H) × Tokens) :=
  argumentList expression close (ts.rest.length + 1) ts

/-- All accesses that follow a target. -/
def accessLoop (limits : Limits) (expression : Rule H) (target : Parsed H) : Rule H := fun ts =>
  accesses limits expression ts.rest.length target ts

/-- All operators of a level that follow a left operand. -/
def operatorLoop (limits : Limits) (level : Nat) (operand : Rule H) (left : Parsed H) : Rule H :=
  fun ts => leftFold limits level operand ts.rest.length left ts

/-- One round over arguments. -/
theorem argument_loop_eq (hexpr : Sound .expression expression) (close : Symbol) (ts : Tokens) :
    argumentLoop expression close ts = (do
      let (arg, rest) ← expression ts
      if rest.startsWith .comma then
        let (args, rest) ← argumentLoop expression close rest.advance
        return (arg :: args, rest)
      else
        let rest ← rest.expect (.punctuation close)
        return ([arg], rest)) := by
  rw [argumentLoop, argumentList]
  refine bind_congr_of_ok fun result harg => ?_
  obtain ⟨arg, rest⟩ := result
  have hlength := hexpr.length_lt harg
  have hadvance := length_advance rest
  have hmore : argumentList expression close ts.rest.length rest.advance =
      argumentLoop expression close rest.advance :=
    argument_list_fuel hexpr close (by omega) (Nat.lt_succ_self _)
  dsimp only
  rw [hmore]

section

variable {dot name opening : Token} (hdot : dot.kind = .punctuation .dot)
  (hname : name.kind = .identifier) {rest : Tokens} (target : Parsed H)

include hdot hname in
/-- A round over accesses at a member. -/
theorem access_loop_member (hexpr : Sound .expression expression)
    (hnot : rest.current.kind ≠ .punctuation .leftParen) :
    accessLoop limits expression target (prepend [dot, name] rest) = (do
      let parsed ← node limits (.member target.expr name.text) (target.height + 1)
      accessLoop limits expression parsed rest) := by
  have hfuel : (prepend [dot, name] rest).rest.length = rest.rest.length + 1 + 1 := by
    rw [length_prepend]
    exact Nat.add_comm _ _
  rw [accessLoop, hfuel, accesses_member hdot hname hnot]
  exact bind_congr fun parsed => accesses_fuel hexpr parsed (Nat.le_succ _) (Nat.le_refl _)

include hdot hname in
/-- A round over accesses at a call. -/
theorem access_loop_call (hexpr : Sound .expression expression)
    (hopening : opening.kind = .punctuation .leftParen) :
    accessLoop limits expression target (prepend [dot, name, opening] rest) = (do
      let (args, rest) ← arguments expression .rightParen rest
      let parsed ← node limits (.call target.expr name.text (args.map Parsed.expr))
        (1 + max target.height (tallest args))
      accessLoop limits expression parsed rest) := by
  have hfuel : (prepend [dot, name, opening] rest).rest.length = rest.rest.length + 2 + 1 := by
    rw [length_prepend]
    exact Nat.add_comm _ _
  rw [accessLoop, hfuel, accesses_call hdot hname hopening]
  refine bind_congr_of_ok fun result hargs => ?_
  obtain ⟨args, after⟩ := result
  have hlength := arguments_length_lt hexpr hargs
  exact bind_congr fun parsed =>
    accesses_fuel hexpr parsed (by omega) (Nat.le_refl _)

/-- A round over accesses at an index. -/
theorem access_loop_index (hexpr : Sound .expression expression)
    (hopening : opening.kind = .punctuation .leftBracket) :
    accessLoop limits expression target (prepend [opening] rest) = (do
      let (args, rest) ← arguments expression .rightBracket rest
      let parsed ← node limits (.index target.expr (args.map Parsed.expr))
        (1 + max target.height (tallest args))
      accessLoop limits expression parsed rest) := by
  have hfuel : (prepend [opening] rest).rest.length = rest.rest.length + 1 := by
    rw [length_prepend]
    exact Nat.add_comm _ _
  rw [accessLoop, hfuel, accesses_index hopening]
  refine bind_congr_of_ok fun result hargs => ?_
  obtain ⟨args, after⟩ := result
  have hlength := arguments_length_lt hexpr hargs
  exact bind_congr fun parsed =>
    accesses_fuel hexpr parsed (by omega) (Nat.le_refl _)

end

/-- A round over the operators of a level at one of them. -/
theorem operator_loop_binary {c : Category} (hoperand : Sound c operand) {sign : Token}
    {op : BinaryOp} (hkind : sign.kind = .punctuation op.punctuation) {level : Nat}
    (hlevel : op ∈ operators level) (rest : Tokens) (left : Parsed H) :
    operatorLoop limits level operand left (prepend [sign] rest) = (do
      let (right, rest) ← operand rest
      let parsed ← node limits (.binary op left.expr (rightOperand op right.expr))
        (1 + max left.height right.height)
      operatorLoop limits level operand parsed rest) := by
  have hfuel : (prepend [sign] rest).rest.length = rest.rest.length + 1 := by
    rw [length_prepend]
    exact Nat.add_comm _ _
  rw [operatorLoop, hfuel, left_fold_binary hkind hlevel]
  refine bind_congr_of_ok fun result hright => ?_
  obtain ⟨right, after⟩ := result
  have hlength := hoperand.length_lt hright
  exact bind_congr fun parsed =>
    left_fold_fuel hoperand level parsed (by omega) (Nat.le_refl _)

end Formula.Parser
