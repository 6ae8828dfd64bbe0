import Formula.Proofs.Parser.Outcome

/-!
# Completeness of the parser

Every phrase that stops where its tokens end is read as the tree that it derives, if its nesting is
below the bound of the rule and its tree within the limit on the height; otherwise it is refused as
too deep. The main theorem is `nested_completes`.
-/

namespace Formula

namespace Grammar

/-- The kinds of token that continue no phrase. -/
def Delimits (kind : TokenKind) : Prop :=
  kind = .endOfInput ∨ kind = .punctuation .comma ∨ kind = .punctuation .rightParen ∨
    kind = .punctuation .rightBracket ∨ kind = .punctuation .colon

/-- Every phrase stops before a token that continues none. -/
theorem stops_of_delimits {c : Category} {ts : List Token} {next : Token}
    (h : Delimits next.kind) : Stops c ts next := by
  have hop (op : BinaryOp) : next.kind ≠ .punctuation op.punctuation := by
    rcases h with h | h | h | h | h <;> rw [h] <;> cases op <;> exact nofun
  constructor
  · intro hcontinues
    rcases h with h | h | h | h | h <;> cases c <;> simp_all [Continues]
  · intro hparen
    rcases h with h | h | h | h | h <;> simp [h] at hparen

/-- A token that continues no phrase starts none either. -/
theorem not_delimits_of_starts {c : Category} {kind : TokenKind} (h : Starts c kind) :
    ¬Delimits kind := by
  rintro (rfl | rfl | rfl | rfl | rfl) <;>
    rcases h with h | ⟨-, -, h | ⟨op, h⟩⟩ <;>
    first | (simp [StartsPrimary] at h; done) | (cases op <;> simp [UnaryOp.punctuation] at h)

end Grammar

namespace Parser

open Grammar Tokens

variable {H : Type} {limits : Limits} {bound : Nat} {expression operand : Rule H}

/-- The rule reads the phrases of a category whose nesting is below the bound and whose trees are
within the limit on the height, and refuses the others as too deep. -/
def Completes (limits : Limits) (bound : Nat) (c : Category) (rule : Rule H) : Prop :=
  ∀ ⦃ts : List Token⦄ ⦃e : Expr H⦄ ⦃n : Nat⦄ (rest : Tokens),
    Derives c ts e n → Stops c ts rest.current →
    Yields (n < bound ∧ e.height ≤ max 1 limits.maxHeight) (rule (prepend ts rest))
      (.ok (⟨e, e.height⟩, rest))

/-- A node is made if it is within the limit. -/
theorem node_yields (expr : Expr H) (height : Nat) :
    Yields (height ≤ limits.maxHeight) (node limits expr height) (.ok ⟨expr, height⟩) := by
  unfold node
  split
  · exact ⟨fun hle => absurd hle (by omega), fun _ => ⟨_, rfl⟩⟩
  · exact .of_eq (by omega) rfl

/-- The tree of a bare word, by the words that stand for a literal. -/
theorem word_leaf_eq (word : String) :
    wordLeaf (H := H) word =
      leaf (match keyword? word with
        | some value => .literal value
        | none => .member .root word) := by
  by_cases htrue : word = "true"
  · subst htrue
    rfl
  by_cases hfalse : word = "false"
  · subst hfalse
    rfl
  by_cases hnull : word = "null"
  · subst hnull
    rfl
  simp [wordLeaf, keyword?, htrue, hfalse, hnull, Expr.identifier]

/-- A tree of one node is within every limit. -/
theorem leaf_yields {e : Expr H} {rest : Tokens} {result : Except ParseError (Parsed H × Tokens)}
    (hbound : 0 < bound) (hheight : e.height = 1) (h : result = .ok (leaf e, rest)) :
    Yields (0 < bound ∧ e.height ≤ max 1 limits.maxHeight) result (.ok (⟨e, e.height⟩, rest)) :=
  .of_eq ⟨hbound, by omega⟩ (by rw [h, hheight, leaf])

/-- Literals, names and groups are read. -/
theorem primary_completes (hexpr : Completes limits bound .expression expression)
    (hbound : 0 < bound) : Completes limits bound .primary (primary expression) := by
  intro ts e n rest h _
  cases h with
  | number hkind hvalue =>
      refine leaf_yields hbound rfl ?_
      simp only [primary, current_prepend_cons, hkind, numberLeaf, hvalue]
      rfl
  | fraction hdot hkind _ hvalue =>
      refine leaf_yields hbound rfl ?_
      simp only [primary, current_prepend_cons, advance_prepend_cons, hdot, Token.hasKind, hkind,
        numberLeaf, hvalue]
      rfl
  | string hkind =>
      refine leaf_yields hbound rfl ?_
      simp only [primary, current_prepend_cons, hkind]
      rfl
  | keyword hkind hvalue | name hkind hvalue =>
      refine leaf_yields hbound rfl ?_
      simp only [primary, current_prepend_cons, hkind, word_leaf_eq, hvalue]
      rfl
  | group hopening h hclosing =>
      simp only [primary, List.cons_append, prepend_append, current_prepend_cons, hopening,
        advance_prepend_cons]
      refine (hexpr _ h ?_).bind_eq ?_
      · exact stops_of_delimits (.inr (.inr (.inl hclosing)))
      · simp only [expect_prepend hclosing]
        rfl

/-- Trees as the parser returns them, with their heights. -/
def withHeights (es : List (Expr H)) : List (Parsed H) :=
  es.map fun e => ⟨e, e.height⟩

theorem map_expr_with_heights (es : List (Expr H)) : (withHeights es).map Parsed.expr = es := by
  simp [withHeights, Function.comp_def]

theorem tallest_with_heights (es : List (Expr H)) :
    tallest (withHeights es) = Expr.argsHeight es := by
  induction es with
  | nil => rfl
  | cons e es ih =>
      simp only [tallest, withHeights] at ih
      simp [tallest, withHeights, Expr.argsHeight, ih]

/-- At least one expression with commas between them is read up to the closing symbol. The fuel
has to be as large as the number of tokens. -/
theorem argument_list_completes (hexpr : Completes limits bound .expression expression)
    {close : Symbol} (hdelimits : Delimits (.punctuation close)) {closing : Token}
    (hclosing : closing.kind = .punctuation close) (hcomma : close ≠ .comma)
    {ts : List Token} {es : List (Expr H)} {n : Nat} (h : DerivesArgs ts es n) (hne : es ≠ [])
    (rest : Tokens) (fuel : Nat) (hfuel : ts.length ≤ fuel) :
    Yields (n < bound ∧ Expr.argsHeight es ≤ max 1 limits.maxHeight)
      (argumentList expression close fuel (prepend (ts ++ [closing]) rest))
      (.ok (withHeights es, rest)) := by
  -- Each expression takes one round, and what is behind its comma leaves fuel for the others.
  match h with
  | .none => exact absurd rfl hne
  | .one h =>
      obtain ⟨token, tail, rfl, -⟩ := derives_head h
      obtain ⟨fuel, rfl⟩ := Nat.exists_eq_add_one.2 (Nat.lt_of_lt_of_le (by simp) hfuel)
      simp only [argumentList, prepend_append]
      refine ((hexpr _ h ?_).bind_eq ?_).congr (by simp [Expr.argsHeight])
      · exact stops_of_delimits (by simpa [hclosing] using hdelimits)
      · simp [starts_with_eq, hclosing, hcomma, expect_prepend, withHeights]
  | .more h hkind hmore hmoreNe =>
      have hpos : 0 < fuel := by
        simp only [List.length_append, List.length_cons] at hfuel
        omega
      obtain ⟨fuel, rfl⟩ := Nat.exists_eq_add_one.2 hpos
      have hrest := argument_list_completes hexpr hdelimits hclosing hcomma hmore hmoreNe rest
        fuel (by simp at hfuel; omega)
      simp only [argumentList, prepend_append] at hrest ⊢
      refine ((hexpr _ h ?_).bind fun _ => by
        simp only [starts_with_eq, current_prepend_cons, hkind, decide_true, if_true,
          advance_prepend_cons]
        exact hrest.bind_eq rfl).congr ?_
      · exact stops_of_delimits (.inr (.inl hkind))
      · simp only [Expr.argsHeight]
        omega

/-- Arguments are read up to the closing symbol. -/
theorem arguments_completes (hexpr : Completes limits bound .expression expression)
    (hbound : 0 < bound) {close : Symbol} (hdelimits : Delimits (.punctuation close))
    (hcomma : close ≠ .comma) {closing : Token} (hclosing : closing.kind = .punctuation close)
    {ts : List Token} {es : List (Expr H)} {n : Nat} (h : DerivesArgs ts es n) (rest : Tokens) :
    Yields (n < bound ∧ Expr.argsHeight es ≤ max 1 limits.maxHeight)
      (arguments expression close (prepend (ts ++ [closing]) rest))
      (.ok (withHeights es, rest)) := by
  by_cases hne : es = []
  · subst hne
    cases h
    refine .of_eq ⟨hbound, Nat.zero_le _⟩ ?_
    simp [arguments, starts_with_eq, hclosing, withHeights]
  · obtain ⟨token, tail, rfl, hstart⟩ := derives_args_head h hne
    have hkind : token.kind ≠ .punctuation close := by
      rintro hkind
      exact not_delimits_of_starts hstart (hkind ▸ hdelimits)
    have hlist := argument_list_completes hexpr hdelimits hclosing hcomma h hne rest
      ((prepend (token :: tail ++ [closing]) rest).rest.length + 1) (by simp; omega)
    simpa [arguments, starts_with_eq, hkind] using hlist

/-- One round of the loop at a member. -/
theorem accesses_member {dot name : Token} (hdot : dot.kind = .punctuation .dot)
    (hname : name.kind = .identifier) {rest : Tokens}
    (hnot : rest.current.kind ≠ .punctuation .leftParen) (fuel : Nat) (target : Parsed H) :
    accesses limits expression (fuel + 1) target (prepend [dot, name] rest) = (do
      let parsed ← node limits (.member target.expr name.text) (target.height + 1)
      accesses limits expression fuel parsed rest) := by
  rw [accesses]
  simp [starts_with_eq, hdot, hname, Token.hasKind, hnot]

/-- One round of the loop at a call. -/
theorem accesses_call {dot name opening : Token} (hdot : dot.kind = .punctuation .dot)
    (hname : name.kind = .identifier) (hopening : opening.kind = .punctuation .leftParen)
    (rest : Tokens) (fuel : Nat) (target : Parsed H) :
    accesses limits expression (fuel + 1) target (prepend [dot, name, opening] rest) = (do
      let (args, rest) ← arguments expression .rightParen rest
      let parsed ← node limits (.call target.expr name.text (args.map Parsed.expr))
        (1 + max target.height (tallest args))
      accesses limits expression fuel parsed rest) := by
  rw [accesses]
  simp [starts_with_eq, hdot, hname, hopening, Token.hasKind]

/-- One round of the loop at an index. -/
theorem accesses_index {opening : Token} (hopening : opening.kind = .punctuation .leftBracket)
    (rest : Tokens) (fuel : Nat) (target : Parsed H) :
    accesses limits expression (fuel + 1) target (prepend [opening] rest) = (do
      let (args, rest) ← arguments expression .rightBracket rest
      let parsed ← node limits (.index target.expr (args.map Parsed.expr))
        (1 + max target.height (tallest args))
      accesses limits expression fuel parsed rest) := by
  rw [accesses]
  simp [starts_with_eq, hopening]

/-- The loop ends at a token that continues no access. -/
theorem accesses_stop {rest : Tokens} (h : ¬Continues .access rest.current.kind) (fuel : Nat)
    (target : Parsed H) : accesses limits expression fuel target rest = .ok (target, rest) := by
  simp only [Continues, not_or] at h
  cases fuel with
  | zero => rfl
  | succ fuel =>
      rw [accesses]
      simp [starts_with_eq, h.1, h.2]

/-- Arguments with the node made of them, which `make` builds from their trees. -/
theorem node_of_arguments_yields {p : Prop} {es : List (Expr H)} {rest : Tokens}
    {result : Except ParseError (List (Parsed H) × Tokens)}
    (h : Yields p result (.ok (withHeights es, rest))) (make : List (Expr H) → Expr H)
    (height fuel : Nat) :
    Yields (p ∧ 1 + max height (Expr.argsHeight es) ≤ limits.maxHeight)
      (do
        let (args, rest) ← result
        let parsed ← node limits (make (args.map Parsed.expr)) (1 + max height (tallest args))
        accesses limits expression fuel parsed rest)
      (accesses limits expression fuel ⟨make es, 1 + max height (Expr.argsHeight es)⟩ rest) := by
  refine h.bind fun _ => ?_
  simp only [map_expr_with_heights, tallest_with_heights]
  exact (node_yields _ _).bind_eq rfl

/-- Reading an access comes to the loop with the whole access as the target. -/
theorem accesses_completes (hexpr : Completes limits bound .expression expression)
    (hbound : 0 < bound) {ts : List Token} {e : Expr H} {n : Nat} (h : Derives .access ts e n)
    (rest : Tokens) (hcall : rest.current.kind = .punctuation .leftParen → ¬EndsInMember ts) :
    ∃ fuel, rest.rest.length ≤ fuel ∧
      Yields (n < bound ∧ e.height ≤ max 1 limits.maxHeight)
        (access limits expression (prepend ts rest))
        (accesses limits expression fuel ⟨e, e.height⟩ rest) := by
  cases h with
  | primary h =>
      refine ⟨rest.rest.length, Nat.le_refl _, ?_⟩
      exact (primary_completes hexpr hbound rest h ⟨nofun, hcall⟩).bind_eq rfl
  | member h hdot hname =>
      -- The target comes to the loop at the dot, with fuel for one more round.
      rename_i ts e dot name
      obtain ⟨_ | fuel, hfuel, htarget⟩ := accesses_completes hexpr hbound h
        (prepend [dot, name] rest) (by simp [hdot])
      · simp at hfuel
      have hnot : rest.current.kind ≠ .punctuation .leftParen := fun hparen =>
        hcall hparen ⟨ts, dot, name, rfl, hdot, hname⟩
      refine ⟨fuel, by simp at hfuel; omega, ?_⟩
      rw [prepend_append, Expr.height_member (derives_ne_root h)]
      refine (htarget.trans fun _ => by
        rw [accesses_member hdot hname hnot]
        exact (node_yields _ _).bind_eq rfl).congr ?_
      have hpos := e.height_pos
      dsimp only
      omega
  | call h hdot hname hopening hargs hclosing =>
      rename_i ts e n dot name opening args es m closing
      obtain ⟨_ | fuel, hfuel, htarget⟩ := accesses_completes hexpr hbound h
        (prepend [dot, name, opening] (prepend (args ++ [closing]) rest)) (by simp [hdot])
      · simp at hfuel
      have hinner := arguments_completes hexpr hbound (.inr (.inr (.inl rfl))) nofun hclosing hargs
        rest
      refine ⟨fuel, by simp at hfuel; omega, ?_⟩
      have happend : ts ++ dot :: name :: opening :: args ++ [closing] =
          ts ++ ([dot, name, opening] ++ (args ++ [closing])) := by simp
      rw [happend, prepend_append, prepend_append, Expr.height_call]
      refine (htarget.trans fun _ => by
        rw [accesses_call hdot hname hopening]
        exact node_of_arguments_yields hinner (.call e name.text) e.height fuel).congr ?_
      have hpos := e.height_pos
      omega
  | index h hopening hargs hclosing =>
      rename_i ts e n opening args es m closing
      obtain ⟨_ | fuel, hfuel, htarget⟩ := accesses_completes hexpr hbound h
        (prepend [opening] (prepend (args ++ [closing]) rest)) (by simp [hopening])
      · simp at hfuel
      have hinner := arguments_completes hexpr hbound (.inr (.inr (.inr (.inl rfl)))) nofun hclosing
        hargs rest
      refine ⟨fuel, by simp at hfuel; omega, ?_⟩
      have happend : ts ++ opening :: args ++ [closing] =
          ts ++ ([opening] ++ (args ++ [closing])) := by simp
      rw [happend, prepend_append, prepend_append, Expr.height_index]
      refine (htarget.trans fun _ => by
        rw [accesses_index hopening]
        exact node_of_arguments_yields hinner (.index e) e.height fuel).congr ?_
      have hpos := e.height_pos
      omega
termination_by ts.length

/-- Accesses are read. -/
theorem access_completes (hexpr : Completes limits bound .expression expression)
    (hbound : 0 < bound) : Completes limits bound .access (access limits expression) := by
  intro ts e n rest h hstops
  obtain ⟨fuel, -, hloop⟩ := accesses_completes hexpr hbound h rest hstops.not_call
  rwa [accesses_stop hstops.not_continues] at hloop

/-- Operands with their prefix operators are read. -/
theorem unary_completes (hoperand : Completes limits bound (.level 0) operand)
    (hexpr : Completes limits (bound + 1) .expression expression) :
    Completes limits (bound + 1) (.level 0) (unary limits operand expression) := by
  intro ts e n rest h hstops
  cases h with
  | access h =>
      have haccess := access_completes hexpr (Nat.succ_pos _) rest h
        ⟨fun hcontinues => hstops.not_continues (.inl hcontinues), hstops.not_call⟩
      -- An access starts with neither a plus nor a prefix operator.
      obtain ⟨token, tail, rfl, hstart | ⟨-, hnot, -⟩⟩ := derives_head h
      · have hplus : token.kind ≠ .punctuation .plus := by
          rintro hkind
          simp [StartsPrimary, hkind] at hstart
        have hprefix : unaryOp? token.kind = none := by
          rcases hstart with hkind | hkind | hkind | hkind | hkind <;> rw [hkind] <;> rfl
        simpa [unary, starts_with_eq, hplus, hprefix] using haccess
      · exact absurd rfl hnot
  | plus hkind h =>
      have hinner := hoperand rest h (hstops.of_append [_] id)
      simp only [unary, starts_with_eq, current_prepend_cons, hkind, decide_true, if_true,
        advance_prepend_cons]
      exact hinner.congr (by omega)
  | unary op hkind h =>
      rename_i sign ts e n
      have hplus : sign.kind ≠ .punctuation .plus := by
        rw [hkind]
        cases op <;> decide
      have hheight : (Expr.unary op e).height = e.height + 1 := by simp [Expr.height]
      have hpos := e.height_pos
      simp only [unary, starts_with_eq, current_prepend_cons, hplus, decide_false,
        advance_prepend_cons, unary_op_eq_some.2 hkind, hheight]
      refine ((hoperand rest h (hstops.of_append [sign] id)).bind fun _ =>
        (node_yields _ _).bind_eq ?_).congr ?_
      · rfl
      · dsimp only
        omega

/-- One round of the loop at an operator of the level. -/
theorem left_fold_binary {sign : Token} {op : BinaryOp}
    (hkind : sign.kind = .punctuation op.punctuation) {level : Nat} (hlevel : op ∈ operators level)
    (rest : Tokens) (fuel : Nat) (left : Parsed H) :
    leftFold limits level operand (fuel + 1) left (prepend [sign] rest) = (do
      let (right, rest) ← operand rest
      let parsed ← node limits (.binary op left.expr (rightOperand op right.expr))
        (1 + max left.height right.height)
      leftFold limits level operand fuel parsed rest) := by
  have hop : opOnLevel? level sign.kind = some op := op_on_level_eq_some.2 ⟨hlevel, hkind⟩
  rw [leftFold]
  simp [hop, narrowed_eq]

/-- The loop ends at a token that is no operator of the level. -/
theorem left_fold_stop {rest : Tokens} {level : Nat}
    (h : ∀ op ∈ operators level, rest.current.kind ≠ .punctuation op.punctuation)
    (fuel : Nat) (left : Parsed H) :
    leftFold limits level operand fuel left rest = .ok (left, rest) := by
  cases fuel with
  | zero => rfl
  | succ fuel =>
      have hop : opOnLevel? level rest.current.kind = none := by
        rw [Option.eq_none_iff_forall_ne_some]
        intro op hop
        obtain ⟨hlevel, hkind⟩ := op_on_level_eq_some.1 hop
        exact h op hlevel hkind
      rw [leftFold, hop]

/-- The operators of a level do not continue what binds tighter. -/
theorem stops_before_operator {k : Nat} {ts : List Token} {sign : Token} {op : BinaryOp}
    (hkind : sign.kind = .punctuation op.punctuation) (hlevel : op ∈ operators (k + 1)) :
    Stops (.level k) ts sign := by
  constructor
  · rintro ((hdot | hbracket) | ⟨level, hle, other, hother, hsame⟩)
    · cases op <;> simp [hkind, BinaryOp.punctuation] at hdot
    · cases op <;> simp [hkind, BinaryOp.punctuation] at hbracket
    · obtain rfl : other = op := Option.some.inj
        ((binary_op_eq_some.2 hsame).symm.trans (binary_op_eq_some.2 hkind))
      rw [mem_operators_iff] at hlevel hother
      omega
  · intro hparen
    cases op <;> simp [hkind, BinaryOp.punctuation] at hparen

/-- Reading a level comes to the loop with the whole phrase as the left operand. -/
theorem left_fold_completes {k : Nat} (hlevel : Completes limits bound (.level k) operand)
    {ts : List Token} {e : Expr H} {n : Nat} (h : Derives (.level (k + 1)) ts e n)
    (rest : Tokens) (hstops : Stops (.level k) ts rest.current) :
    ∃ fuel, rest.rest.length ≤ fuel ∧
      Yields (n < bound ∧ e.height ≤ max 1 limits.maxHeight)
        (do
          let (left, rest) ← operand (prepend ts rest)
          leftFold limits (k + 1) operand rest.rest.length left rest)
        (leftFold limits (k + 1) operand fuel ⟨e, e.height⟩ rest) := by
  cases h with
  | tighter h => exact ⟨rest.rest.length, Nat.le_refl _, (hlevel rest h hstops).bind_eq rfl⟩
  | binary op hleft hkind hop hright =>
      rename_i left l n sign right r m
      obtain ⟨_ | fuel, hfuel, hloop⟩ := left_fold_completes hlevel hleft
        (prepend [sign] (prepend right rest)) (stops_before_operator hkind hop)
      · simp at hfuel
      have hheight : (Expr.binary op l (rightOperand op r)).height = 1 + max l.height r.height := by
        simp [Expr.height, height_right_operand, Nat.add_comm]
      have hinner : Stops (.level k) right rest.current :=
        Stops.of_append (left ++ [sign]) (by simpa using hstops) id
      refine ⟨fuel, by simp at hfuel; omega, ?_⟩
      rw [show left ++ sign :: right = left ++ ([sign] ++ right) from rfl, prepend_append,
        prepend_append, hheight]
      refine (hloop.trans fun _ => by
        rw [left_fold_binary hkind hop]
        exact (hlevel rest hright hinner).bind fun _ => (node_yields _ _).bind_eq rfl).congr ?_
      have hpos := l.height_pos
      dsimp only
      omega
termination_by ts.length

/-- Operands with the operators of the levels up to `k` between them are read. -/
theorem binary_completes (hlevel : Completes limits bound (.level 0) operand) (k : Nat) :
    Completes limits bound (.level k) (binary limits operand k) := by
  induction k with
  | zero => exact hlevel
  | succ k ih =>
      intro ts e n rest h hstops
      have hinner : Stops (.level k) ts rest.current := Stops.of_append [] hstops fun
        | .inl haccess => .inl haccess
        | .inr ⟨level, hle, hop⟩ => .inr ⟨level, Nat.le_succ_of_le hle, hop⟩
      obtain ⟨fuel, -, hloop⟩ := left_fold_completes ih h rest hinner
      rw [left_fold_stop fun op hop hkind =>
        hstops.not_continues (.inr ⟨k + 1, Nat.le_refl _, op, hop, hkind⟩)] at hloop
      exact hloop

/-- Whole expressions are read. -/
theorem conditional_completes (hoperand : Completes limits bound (.level 0) operand)
    (hexpr : Completes limits (bound + 1) .expression expression) :
    Completes limits (bound + 2) .expression (conditional limits operand expression) := by
  have hlevels := binary_completes (unary_completes hoperand hexpr) BinaryOp.levelCount
  intro ts e n rest h hstops
  cases h with
  | operands h =>
      have hinner : Stops (.level BinaryOp.levelCount) ts rest.current :=
        Stops.of_append [] hstops fun
          | .inl haccess => .inl haccess
          | .inr ⟨_, _, op, _, hkind⟩ => .inr (.inl ⟨op, hkind⟩)
      have hquestion : rest.current.kind ≠ .punctuation .question := fun hkind =>
        hstops.not_continues (.inr (.inr hkind))
      unfold conditional
      refine ((hlevels rest h hinner).bind_eq ?_).congr (by omega)
      simp [starts_with_eq, hquestion]
      rfl
  | conditional h hquestion hyes hcolon hno =>
      rename_i condition c n question yes y m colon no z k
      -- The condition stops at the question mark, the first branch at the colon.
      have hcondition : Stops (.level BinaryOp.levelCount) condition question := by
        refine ⟨?_, by simp [hquestion]⟩
        rintro (hkind | ⟨_, -, op, -, hkind⟩)
        · simp [hquestion] at hkind
        · cases op <;> simp [hquestion, BinaryOp.punctuation] at hkind
      have hinner : Stops .expression no rest.current :=
        Stops.of_append (condition ++ question :: yes ++ [colon]) (by simpa using hstops) id
      have happend : condition ++ question :: yes ++ colon :: no =
          condition ++ ([question] ++ (yes ++ ([colon] ++ no))) := by simp
      have hheight : (Expr.conditional c y z).height =
          1 + max (max c.height y.height) z.height := by
        simp only [Expr.height]
        omega
      have hpos := c.height_pos
      have hfirst := hlevels (prepend [question] (prepend yes (prepend [colon] (prepend no rest))))
        h hcondition
      have hsecond := hexpr (prepend [colon] (prepend no rest)) hyes
        (stops_of_delimits (.inr (.inr (.inr (.inr hcolon)))))
      have hthird := hexpr rest hno hinner
      unfold conditional
      rw [happend, prepend_append, prepend_append, prepend_append, prepend_append, hheight]
      refine (hfirst.bind fun _ => by
        simp only [starts_with_eq, current_prepend_cons, hquestion, decide_true, if_true,
          advance_prepend_cons, prepend_nil]
        exact hsecond.bind fun _ => (Yields.of_eq trivial (expect_prepend hcolon _)).bind fun _ =>
          hthird.bind fun _ => (node_yields _ _).bind_eq rfl).congr ?_
      simp only [true_and]
      omega

/-- With a budget of nested constructs, expressions and operands of prefix operators are read. -/
theorem nested_completes (limits : Limits) (budget : Nat) :
    Completes (H := H) limits (budget + 1) .expression (nested limits budget .expression) ∧
      Completes (H := H) limits budget (.level 0) (nested limits budget .operand) := by
  induction budget with
  | zero =>
      -- Whole expressions have a nesting of at least one, so without a budget all are too deep.
      constructor
      · intro ts e n rest h _
        have hn : ¬n < 0 + 1 := by cases h <;> omega
        exact ⟨fun hfits => absurd hfits.1 hn, fun _ => ⟨_, rfl⟩⟩
      · intro ts e n rest _ _
        exact ⟨fun hfits => absurd hfits.1 (Nat.not_lt_zero n), fun _ => ⟨_, rfl⟩⟩
  | succ budget ih =>
      exact ⟨conditional_completes ih.2 ih.1, unary_completes ih.2 ih.1⟩

end Parser

end Formula
