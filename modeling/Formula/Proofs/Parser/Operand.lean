import Formula.Proofs.Parser.Loops
import Formula.Proofs.Parser.Viable

/-!
# The token that offends in an operand

A rule pinpoints its errors, `Pinpoints`, if the tokens before the offending one begin a phrase and no
phrase goes on with the offending one, since the rule fails on all tokens that agree up to it. The rule
for operands with what stands before and behind them does, `unary_pinpoints`, if the rules for nested
expressions and operands are `Reliable`.
-/

namespace Formula

namespace Parser

open Grammar Tokens Lexeme

variable {H : Type} {limits : Limits} {expression operand : Rule H} {bound depth : Nat}

/-- Whether the number tokens among some tokens can be read, with a point in front too if they have
none of their own. -/
def NumbersRead (ts : Tokens) : Prop :=
  ∀ token ∈ ts.rest, token.kind = .number →
    (Binary64.read? token.text).isSome ∧
      ('.' ∉ token.text.toList → (Binary64.read? ("0." ++ token.text)).isSome)

/-- The number tokens among the last tokens can be read. -/
theorem NumbersRead.of_prepend {used : List Token} {rest : Tokens}
    (h : NumbersRead (prepend used rest)) : NumbersRead rest :=
  fun token htoken => h token (List.mem_append_right used htoken)

/-- Whether a rule pinpoints its errors: it decides on the tokens that it takes and the one behind
them, the tokens before an error begin a phrase, and a refusal has at least `bound` tokens before
it. -/
def Pinpoints (c : Category) (bound : Nat) (rule : Rule H) : Prop :=
  ∀ ts, NumbersRead ts → Decides (Viable H c) bound rule ts

/-- A rule that reads the phrases of a category, and pinpoints its errors. -/
structure Reliable (limits : Limits) (depth : Nat) (c : Category) (bound : Nat) (rule : Rule H) :
    Prop where
  sound : Sound c rule
  completes : Completes limits depth c rule
  pinpoints : Pinpoints c bound rule

/-- What a reliable rule reads is a phrase that has no fewer tokens than its tree is tall. -/
theorem Reliable.derives {c : Category} {rule : Rule H} (h : Reliable limits depth c bound rule)
    {used : List Token} {rest : Tokens} {parsed : Parsed H}
    (hread : rule (prepend used rest) = .ok (parsed, rest)) :
    (∃ n, Derives c used parsed.expr n) ∧ parsed.height ≤ used.length := by
  obtain ⟨consumed, n, heq, hderives, hstops⟩ := h.sound hread
  obtain rfl : used = consumed := List.append_cancel_right (congrArg Tokens.rest heq)
  rw [List.nil_append] at hderives hstops
  refine ⟨⟨n, hderives⟩, ?_⟩
  -- The rule reads the phrase with the height of its tree.
  have hyields := h.completes rest hderives hstops
  by_cases hfits : n < depth ∧ parsed.expr.height ≤ max 1 limits.maxHeight
  · have heq := Except.ok.inj (hread.symm.trans (hyields.eq_of_fits hfits))
    have hheight : parsed.height = parsed.expr.height := congrArg (·.1.height) heq
    rw [hheight]
    exact (derives_length_bounds hderives).2
  · obtain ⟨limit, hlimit⟩ := hyields.too_deep hfits
    exact nomatch hread.symm.trans hlimit

/-- A number with a point in front begins with the point. -/
theorem viable_point {dot : Token} (hdot : dot.kind = .punctuation .dot) :
    Viable H .primary [dot] := by
  have hsome : (Binary64.read? ("0." ++ someNumber.text)).isSome := by decide +kernel
  obtain ⟨value, hvalue⟩ := Option.isSome_iff_exists.1 hsome
  exact ⟨[someNumber], some_number_is_shown, _, _,
    .fraction hdot rfl (by decide +kernel) hvalue⟩

/-- A token that starts no primary is invalid as one. -/
theorem primary_of_not_starts {ts : Tokens} (h : ¬StartsPrimary ts.current.kind) :
    primary expression ts = .error (.invalidToken ts.current) := by
  simp only [StartsPrimary, not_or] at h
  unfold primary
  dsimp only
  split <;> simp_all

/-- A point that no number follows is invalid. -/
theorem primary_of_point {dot : Token} (hdot : dot.kind = .punctuation .dot) {after : Tokens}
    (h : after.current.kind ≠ .number) :
    primary expression (prepend [dot] after) = .error (.invalidToken dot) := by
  simp [primary, hdot, Token.hasKind, h]

/-- A point in front of a number that has one of its own is invalid. -/
theorem primary_of_two_points {dot : Token} (hdot : dot.kind = .punctuation .dot) {after : Tokens}
    (h : after.current.kind = .number) (hnone : Binary64.read? ("0." ++ after.current.text) = none) :
    primary expression (prepend [dot] after) =
      .error (.invalidNumber ("0." ++ after.current.text) dot.position) := by
  simp [primary, hdot, Token.hasKind, h, numberLeaf, hnone]

/-- A point at the start of a primary pinpoints errors. -/
theorem primary_decides_at_point {dot : Token} (hdot : dot.kind = .punctuation .dot)
    (after : Tokens) :
    Decides (Viable H .primary) bound (primary expression) (prepend [dot] after) := by
  by_cases hkind : after.current.kind = .number
  · cases hvalue : Binary64.read? ("0." ++ after.current.text) with
    | some value =>
        obtain ⟨token, after, htoken, rfl⟩ := exists_prepend_of_kind hkind (by decide)
        rw [← prepend_append]
        refine .of_front (fun used' rest' hagree => ?_) (.ok (leaf (.number value)))
        obtain ⟨dot', _, rfl, hdot', -, hagree⟩ := hagree.cons
        obtain ⟨token', _, rfl, htoken', htext', hagree⟩ := hagree.cons
        obtain rfl := hagree.nil
        have hvalue' : Binary64.read? ("0." ++ token'.text) = some value := by rwa [htext']
        simp [primary, hdot', hdot, Token.hasKind, htoken', htoken, numberLeaf, hvalue']
    | none =>
        refine .of_dot (fun dot next => .invalidNumber ("0." ++ next.text) dot.position) ?_ ?_ ?_
          (viable_point hdot)
        · intro dot' rest' hdot' hnext
          obtain ⟨hkind', htext'⟩ := Prod.mk.inj hnext
          exact primary_of_two_points (hdot'.trans hdot) (hkind'.trans hkind) (by rwa [htext'])
        · intro dot' rest' hdot'
          exact .number (hdot'.trans hdot)
        · intro dot' next _ hnext
          simp [ParseError.unplaced, (Prod.mk.inj hnext).2]
  · refine .of_dot (fun dot _ => .invalidToken dot) ?_ ?_ ?_ (viable_point hdot)
    · intro dot' rest' hdot' hnext
      have hkind' : rest'.current.kind = after.current.kind := (Prod.mk.inj hnext).1
      exact primary_of_point (hdot'.trans hdot) (by rwa [hkind'])
    · intro dot' rest' hdot'
      exact .point (hdot'.trans hdot)
    · intro dot' next hdot' _
      obtain ⟨hkind', htext'⟩ := Prod.mk.inj hdot'
      simp [ParseError.unplaced, hkind', htext']

/-- A group pinpoints errors. -/
theorem primary_decides_at_group (hexpr : Reliable limits depth .expression bound expression)
    {opening : Token} (hopening : opening.kind = .punctuation .leftParen) {after : Tokens}
    (hnumbers : NumbersRead after) :
    Decides (Viable H .primary) (bound + 1) (primary expression) (prepend [opening] after) := by
  have hinner : Decides (fun before => Viable H .primary (opening :: before)) bound
      (fun ts => do
        let result ← expression ts
        let rest ← result.2.expect (.punctuation .rightParen)
        return (result.1, rest)) after := by
    refine .bind ((hexpr.pinpoints after hnumbers).imp (fun _ hbefore => hbefore.group hopening)
      (Nat.le_refl _)) ?_
    intro parsed used rest hread heq
    subst heq
    obtain ⟨⟨n, hderives⟩, -⟩ := hexpr.derives hread
    refine .expect ?_ fun closing rest' _ _ => .ok parsed
    simpa using (viable_of_derives hderives).group hopening
  refine .of_token (fun token' rest' hkind' _ => ?_) hinner
  simp only [primary, current_prepend_cons, hkind'.trans hopening, advance_prepend_cons,
    prepend_nil]

/-- Literals, names and groups pinpoint errors. -/
theorem primary_pinpoints (hexpr : Reliable limits depth .expression bound expression) :
    Pinpoints .primary (bound + 1) (primary expression) := by
  intro ts hnumbers
  by_cases hstarts : StartsPrimary ts.current.kind
  · rcases hstarts with hkind | hkind | hkind | hkind | hkind
    · obtain ⟨token, after, htoken, rfl⟩ := exists_prepend_of_kind hkind (by decide)
      obtain ⟨value, hvalue⟩ :=
        Option.isSome_iff_exists.1 (hnumbers token List.mem_cons_self htoken).1
      refine .of_token (fun token' rest' hkind' htext' => ?_) (.ok (leaf (.number value)))
      simp only [primary, current_prepend_cons, hkind', htoken, numberLeaf, htext', hvalue]
      rfl
    · obtain ⟨token, after, htoken, rfl⟩ := exists_prepend_of_kind hkind (by decide)
      refine .of_token (fun token' rest' hkind' htext' => ?_)
        (.ok (leaf (.literal (.string token.text))))
      simp only [primary, current_prepend_cons, hkind', htoken, htext']
      rfl
    · obtain ⟨token, after, htoken, rfl⟩ := exists_prepend_of_kind hkind (by decide)
      refine .of_token (fun token' rest' hkind' htext' => ?_) (.ok (wordLeaf token.text))
      simp only [primary, current_prepend_cons, hkind', htoken, htext']
      rfl
    · obtain ⟨dot, after, hdot, rfl⟩ := exists_prepend_of_kind hkind (by decide)
      exact primary_decides_at_point hdot after
    · obtain ⟨opening, after, hopening, rfl⟩ := exists_prepend_of_kind hkind (by decide)
      exact primary_decides_at_group hexpr hopening hnumbers.of_prepend
  · refine .of_invalid (fun hdot => hstarts (by simp [StartsPrimary, hdot])) (viable_nil _) ?_
    intro ts' hsame
    exact primary_of_not_starts (by rwa [hsame])

/-- At least one expression with commas between them pinpoints errors. -/
theorem argument_loop_decides (hexpr : Reliable limits depth .expression bound expression)
    (close : Symbol) {ts : Tokens} (hnumbers : NumbersRead ts) :
    Decides (ViableArgs H) bound (argumentLoop expression close) ts := by
  rw [funext (argument_loop_eq hexpr.sound close)]
  induction hlength : ts.rest.length using Nat.strongRecOn generalizing ts with
  | ind length ih =>
      refine .bind ((hexpr.pinpoints ts hnumbers).imp (fun _ => Viable.args) (Nat.le_refl _)) ?_
      intro arg used rest hread heq
      subst heq
      obtain ⟨⟨n, hderives⟩, -⟩ := hexpr.derives hread
      by_cases hcomma : rest.current.kind = .punctuation .comma
      · obtain ⟨comma, after, hkind, rfl⟩ := exists_prepend_of_kind hcomma (by decide)
        have hmore := ih after.rest.length (by rw [← hlength]; simp; omega)
          hnumbers.of_prepend.of_prepend rfl
        rw [← funext (argument_loop_eq hexpr.sound close)] at hmore
        have hinner : Decides (fun before => ViableArgs H (used ++ comma :: before))
            (bound - used.length - 1) (fun rest => do
              let result ← argumentLoop expression close rest
              return (arg :: result.1, result.2)) after :=
          .bind (hmore.imp (fun before hbefore => hbefore.more hderives hkind) (by omega))
            fun args _ _ _ _ => .ok (arg :: args)
        refine .of_token (fun token' rest' hkind' _ => ?_) hinner
        simp [starts_with_eq, hkind', hkind]
      · have hinner : Decides (fun before => ViableArgs H (used ++ before)) (bound - used.length)
            (fun rest => do
              let rest ← rest.expect (.punctuation close)
              return ([arg], rest)) rest := by
          refine .expect ?_ fun closing rest' _ _ => .ok [arg]
          simpa using (viable_of_derives hderives).args
        refine .of_current (fun ts' hsame => ?_) hinner
        simp [starts_with_eq, hsame, hcomma]

/-- Arguments pinpoint errors. -/
theorem arguments_decides (hexpr : Reliable limits depth .expression bound expression)
    (close : Symbol) {ts : Tokens} (hnumbers : NumbersRead ts) :
    Decides (ViableArgs H) bound (arguments expression close) ts := by
  by_cases hclose : ts.current.kind = .punctuation close
  · obtain ⟨closing, after, hclosing, rfl⟩ := exists_prepend_of_kind hclose nofun
    refine .of_token (fun token' rest' hkind' _ => ?_) (.ok [])
    simp [arguments, starts_with_eq, hkind', hclosing]
  · refine .of_current (fun ts' hsame => ?_) (argument_loop_decides hexpr close hnumbers)
    simp [arguments, starts_with_eq, hsame, hclose, argumentLoop]

/-- What is read as arguments is arguments and a closing symbol, no fewer tokens than the tallest of
their trees is tall. -/
theorem Reliable.derives_args (hexpr : Reliable limits depth .expression bound expression)
    (hdepth : 0 < depth) {close : Symbol} (hdelimits : Delimits (.punctuation close))
    (hcomma : close ≠ .comma) {used : List Token} {rest : Tokens} {args : List (Parsed H)}
    (hread : arguments expression close (prepend used rest) = .ok (args, rest)) :
    ∃ inner closing n, used = inner ++ [closing] ∧ closing.kind = .punctuation close ∧
      DerivesArgs inner (args.map Parsed.expr) n ∧ tallest args ≤ inner.length := by
  obtain ⟨inner, n, closing, heq, hclosing, hderives⟩ := arguments_sound hexpr.sound hread
  obtain rfl : used = inner ++ [closing] := List.append_cancel_right (congrArg Tokens.rest heq)
  refine ⟨inner, closing, n, rfl, hclosing, hderives, ?_⟩
  -- The arguments are read with the heights of their trees.
  have hyields :=
    arguments_completes hexpr.completes hdepth hdelimits hcomma hclosing hderives rest
  by_cases hfits : n < depth ∧ Expr.argsHeight (args.map Parsed.expr) ≤ max 1 limits.maxHeight
  · have heq := Except.ok.inj (hread.symm.trans (hyields.eq_of_fits hfits))
    have hargs : args = withHeights (args.map Parsed.expr) := congrArg Prod.fst heq
    rw [hargs, tallest_with_heights]
    exact (derives_args_length_bounds hderives).2
  · obtain ⟨limit, hlimit⟩ := hyields.too_deep hfits
    exact nomatch hread.symm.trans hlimit

/-- A node that is made has the height it was made with. -/
theorem height_of_node {expr : Expr H} {height : Nat} {parsed : Parsed H}
    (h : node limits expr height = .ok parsed) : parsed.height = height := by
  unfold node at h
  split at h
  · exact nomatch h
  · obtain rfl := Except.ok.inj h
    rfl

/-- Whether the loop over accesses decides on fewer than `length` tokens, behind every target. -/
def AccessesDecide (limits : Limits) (expression : Rule H) (level length : Nat) : Prop :=
  ∀ ⦃front : List Token⦄ ⦃target : Parsed H⦄ ⦃n : Nat⦄ ⦃ts : Tokens⦄,
    ts.rest.length < length → Derives .access front target.expr n →
    target.height ≤ front.length → NumbersRead ts →
    Decides (fun before => Viable H .access (front ++ before)) (level - front.length)
      (accessLoop limits expression target) ts

section

variable (hexpr : Reliable limits depth .expression bound expression) (hdepth : 0 < depth)
  {level : Nat} (hlevel : level ≤ bound + 1) (hheight : level ≤ limits.maxHeight + 1)

include hexpr hdepth hlevel hheight in
/-- The arguments behind the tokens `opened`, with the node made of them, pinpoint errors if the loop
behind them does. -/
theorem node_of_arguments_decides {close : Symbol} (hdelimits : Delimits (.punctuation close))
    (hcomma : close ≠ .comma) (opened : List Token) {height : Nat}
    (htall : height < opened.length) {make : List (Expr H) → Expr H}
    (hopened : OpensArgs opened close make) {ts : Tokens} (hnumbers : NumbersRead ts)
    (hloop : AccessesDecide limits expression level ts.rest.length) :
    Decides (fun before => Viable H .access (opened ++ before)) (level - opened.length)
      (fun rest => do
        let (args, rest) ← arguments expression close rest
        let parsed ← node limits (make (args.map Parsed.expr)) (1 + max height (tallest args))
        accessLoop limits expression parsed rest) ts := by
  refine .bind ((arguments_decides hexpr close hnumbers).imp
    (fun _ hbefore => hbefore.opened hopened) (by omega)) ?_
  intro args used rest hread heq
  subst heq
  obtain ⟨inner, closing, n, rfl, hclosing, hderives, htallest⟩ :=
    hexpr.derives_args hdepth hdelimits hcomma hread
  obtain ⟨m, haccess⟩ := hopened hderives hclosing
  refine .node (fun hrefused => ?_) fun made hmade => ?_
  · rw [List.length_append, List.length_singleton]
    omega
  · have hmadeTall := height_of_node hmade
    rw [← expr_of_node hmade] at haccess
    have hdecides := hloop (by simp; omega) haccess (by simp; omega) hnumbers.of_prepend
    refine hdecides.imp (fun before hbefore => ?_) (by simp; omega)
    simpa using hbefore

variable {front : List Token} {target : Parsed H} {n : Nat}
  (hfront : Derives .access front target.expr n) (htall : target.height ≤ front.length)
  {dot name opening : Token} {after : Tokens}

include hexpr hdepth hlevel hheight hfront htall in
/-- A call with what follows it pinpoints errors. -/
theorem access_loop_decides_at_call (hdot : dot.kind = .punctuation .dot)
    (hname : name.kind = .identifier) (hopening : opening.kind = .punctuation .leftParen)
    (hnumbers : NumbersRead after)
    (hloop : AccessesDecide limits expression level after.rest.length) :
    Decides (fun before => Viable H .access (front ++ before)) (level - front.length)
      (accessLoop limits expression target) (prepend [dot, name, opening] after) := by
  have hlength : target.height < (front ++ [dot, name, opening]).length := by
    simp
    omega
  have hinner := node_of_arguments_decides hexpr hdepth hlevel hheight (.inr (.inr (.inl rfl)))
    nofun (front ++ [dot, name, opening]) hlength (opens_call hfront hdot hname hopening) hnumbers
    hloop
  refine .of_front (fun used' rest' hagree => ?_)
    (hinner.imp (fun before hbefore => by simpa using hbefore) (by simp; omega))
  obtain ⟨dot', _, rfl, hdot', -, hagree⟩ := hagree.cons
  obtain ⟨name', _, rfl, hname', htext', hagree⟩ := hagree.cons
  obtain ⟨opening', _, rfl, hopening', -, hagree⟩ := hagree.cons
  obtain rfl := hagree.nil
  rw [access_loop_call (hdot'.trans hdot) (hname'.trans hname) target hexpr.sound
    (hopening'.trans hopening), htext']

include hexpr hdepth hlevel hheight hfront htall in
/-- An index with what follows it pinpoints errors. -/
theorem access_loop_decides_at_index (hopening : opening.kind = .punctuation .leftBracket)
    (hnumbers : NumbersRead after)
    (hloop : AccessesDecide limits expression level after.rest.length) :
    Decides (fun before => Viable H .access (front ++ before)) (level - front.length)
      (accessLoop limits expression target) (prepend [opening] after) := by
  have hlength : target.height < (front ++ [opening]).length := by
    simp
    omega
  have hinner := node_of_arguments_decides hexpr hdepth hlevel hheight
    (.inr (.inr (.inr (.inl rfl)))) nofun (front ++ [opening]) hlength
    (opens_index hfront hopening) hnumbers hloop
  refine .of_token (fun opening' rest' hopening' _ => ?_)
    (hinner.imp (fun before hbefore => by simpa using hbefore) (by simp; omega))
  exact access_loop_index target hexpr.sound (hopening'.trans hopening)

include hexpr hheight hfront htall in
/-- A member with what follows it pinpoints errors. -/
theorem access_loop_decides_at_member (hdot : dot.kind = .punctuation .dot)
    (hname : name.kind = .identifier) (hnot : after.current.kind ≠ .punctuation .leftParen)
    (hnumbers : NumbersRead after) {length : Nat} (hlength : after.rest.length < length)
    (hloop : AccessesDecide limits expression level length) :
    Decides (fun before => Viable H .access (front ++ before)) (level - front.length)
      (accessLoop limits expression target) (prepend [dot, name] after) := by
  have hmember := Derives.member hfront hdot hname
  have hinner : Decides (fun before => Viable H .access (front ++ ([dot, name] ++ before)))
      (level - front.length - 2) (fun rest => do
        let parsed ← node limits (.member target.expr name.text) (target.height + 1)
        accessLoop limits expression parsed rest) after := by
    refine .node (by omega) fun made hmade => ?_
    have hmadeTall := height_of_node hmade
    rw [← expr_of_node hmade] at hmember
    have hdecides := hloop hlength hmember (by simp; omega) hnumbers
    exact hdecides.imp (fun before hbefore => by simpa using hbefore) (by simp; omega)
  refine .of_front (fun used' rest' hagree => ?_) hinner
  obtain ⟨dot', _, rfl, hdot', -, hagree⟩ := hagree.cons
  obtain ⟨name', _, rfl, hname', htext', hagree⟩ := hagree.cons
  obtain rfl := hagree.nil
  have hnot' : rest'.current.kind ≠ .punctuation .leftParen := by
    rwa [(Prod.mk.inj hagree.next).1]
  rw [access_loop_member (hdot'.trans hdot) (hname'.trans hname) target hexpr.sound hnot', htext']

include hfront in
/-- A dot with no name behind it is an error at what stands there instead. -/
theorem access_loop_decides_at_dot (hdot : dot.kind = .punctuation .dot)
    (hnot : after.current.kind ≠ .identifier) :
    Decides (fun before => Viable H .access (front ++ before)) (level - front.length)
      (accessLoop limits expression target) (prepend [dot] after) := by
  refine .of_dot (fun dot next => .identifierExpected next dot.position) ?_ ?_ ?_ ?_
  · intro dot' rest' hdot' hnext
    have hnot' : rest'.current.kind ≠ .identifier := by rwa [(Prod.mk.inj hnext).1]
    have hfuel : (prepend [dot'] rest').rest.length = rest'.rest.length + 1 := by
      rw [length_prepend]
      exact Nat.add_comm _ _
    rw [accessLoop, hfuel, accesses]
    simp [starts_with_eq, hdot', hdot, Token.hasKind, hnot']
  · intro dot' rest' hdot'
    exact .name (hdot'.trans hdot)
  · intro dot' next _ hnext
    obtain ⟨hkind', htext'⟩ := Prod.mk.inj hnext
    simp [ParseError.unplaced, hkind', htext']
  · exact ⟨[someName], some_name_is_shown, _, _, by simpa using Derives.member hfront hdot rfl⟩

include hexpr hdepth hlevel hheight in
/-- What follows a target pinpoints errors. -/
theorem accesses_decide (length : Nat) : AccessesDecide limits expression level length := by
  induction length with
  | zero => exact fun _ _ _ _ hlt => absurd hlt (Nat.not_lt_zero _)
  | succ length ih =>
      intro front target n ts hlt hfront htall hnumbers
      by_cases hkind : ts.current.kind = .punctuation .dot
      · obtain ⟨dot, after, hdot, rfl⟩ := exists_prepend_of_kind hkind (by decide)
        by_cases hkind : after.current.kind = .identifier
        · obtain ⟨name, after, hname, rfl⟩ := exists_prepend_of_kind hkind (by decide)
          by_cases hkind : after.current.kind = .punctuation .leftParen
          · obtain ⟨opening, after, hopening, rfl⟩ := exists_prepend_of_kind hkind (by decide)
            exact access_loop_decides_at_call hexpr hdepth hlevel hheight hfront htall hdot hname
              hopening hnumbers.of_prepend.of_prepend.of_prepend
              fun _ _ _ _ hlt' => ih (by simp at hlt; omega)
          · exact access_loop_decides_at_member hexpr hheight hfront htall hdot hname hkind
              hnumbers.of_prepend.of_prepend (by simp at hlt; omega) ih
        · exact access_loop_decides_at_dot hfront hdot hkind
      · by_cases hkind : ts.current.kind = .punctuation .leftBracket
        · obtain ⟨opening, after, hopening, rfl⟩ := exists_prepend_of_kind hkind (by decide)
          exact access_loop_decides_at_index hexpr hdepth hlevel hheight hfront htall hopening
            hnumbers.of_prepend fun _ _ _ _ hlt' => ih (by simp at hlt; omega)
        · refine .of_current (fun ts' hsame => ?_) (.ok target)
          exact accesses_stop (by simp [Continues, *]) _ target

include hexpr hdepth hlevel hheight in
/-- A primary with what follows it pinpoints errors. -/
theorem access_pinpoints : Pinpoints .access level (access limits expression) := by
  intro ts hnumbers
  have hprimary : Reliable limits depth .primary (bound + 1) (primary expression) :=
    ⟨primary_sound hexpr.sound, primary_completes hexpr.completes hdepth, primary_pinpoints hexpr⟩
  refine .bind ((hprimary.pinpoints ts hnumbers).imp (fun _ => Viable.access) hlevel) ?_
  intro target used rest hread heq
  subst heq
  obtain ⟨⟨n, hderives⟩, htall⟩ := hprimary.derives hread
  exact accesses_decide hexpr hdepth hlevel hheight _ (Nat.lt_succ_self _) (.primary hderives)
    htall hnumbers.of_prepend

end

/-- An operand with its prefix operators pinpoints errors. -/
theorem unary_pinpoints {depth' bound' : Nat}
    (hoperand : Reliable limits depth' (.level 0) bound' operand)
    (hexpr : Reliable limits depth .expression bound expression) (hdepth : 0 < depth) {level : Nat}
    (hlevel : level ≤ bound + 1) (hlevel' : level ≤ bound' + 1)
    (hheight : level ≤ limits.maxHeight + 1) :
    Pinpoints (.level 0) level (unary limits operand expression) := by
  intro ts hnumbers
  by_cases hplus : ts.current.kind = .punctuation .plus
  · obtain ⟨sign, after, hsign, rfl⟩ := exists_prepend_of_kind hplus (by decide)
    have hinner : Decides (fun before => Viable H (.level 0) (sign :: before)) (level - 1) operand
        after :=
      (hoperand.pinpoints after hnumbers.of_prepend).imp (fun _ hbefore => hbefore.plus hsign)
        (by omega)
    refine .of_token (fun sign' rest' hsign' _ => ?_) hinner
    simp [unary, starts_with_eq, hsign', hsign]
  · cases hop : unaryOp? ts.current.kind with
    | some op =>
        obtain ⟨sign, after, hsign, rfl⟩ := exists_prepend_of_kind (unary_op_eq_some.1 hop) (by simp)
        have hinner : Decides (fun before => Viable H (.level 0) (sign :: before)) (level - 1)
            (fun rest => do
              let result ← operand rest
              let parsed ← node limits (.unary op result.1.expr) (result.1.height + 1)
              return (parsed, result.2)) after := by
          refine .bind ((hoperand.pinpoints after hnumbers.of_prepend).imp
            (fun _ hbefore => hbefore.unary hsign) (by omega)) ?_
          intro parsed used rest hread heq
          subst heq
          obtain ⟨-, htall⟩ := hoperand.derives hread
          dsimp only
          exact .node (by omega) fun made _ => .ok made
        refine .of_token (fun sign' rest' hsign' _ => ?_) hinner
        have hop' : unaryOp? sign'.kind = some op := by
          rw [hsign']
          exact hop
        have hplus' : sign'.kind ≠ .punctuation .plus := by
          rw [hsign']
          exact hplus
        simp [unary, starts_with_eq, hplus', hop']
    | none =>
        have haccess := access_pinpoints hexpr hdepth hlevel hheight ts hnumbers
        refine .of_current (fun ts' hsame => ?_) (haccess.imp (fun _ => Viable.operand)
          (Nat.le_refl level))
        simp [unary, starts_with_eq, hsame, hplus, hop]

end Parser

end Formula
