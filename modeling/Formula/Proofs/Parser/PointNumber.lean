import Formula.Proofs.Binary64.Text
import Formula.Proofs.Parser.Errors

/-!
# Numbers that cannot be read

The lexer cuts number tokens that can be read. Only the point that an operand may start with makes a
text that no token has, and it cannot be read if the number behind the point has a point of its own.
Rule by rule, an invalid number is blamed on such an operand, `nested_blames`.
-/

namespace Formula

open Grammar Tokens

/-- A number token spells a number without a sign. With a point in front it spells one if and only if
it has no point of its own. -/
theorem Token.number_is_read {text : String} {token : Token} (htoken : token ∈ tokenize text)
    (hkind : token.kind = .number) :
    (∃ x, Binary64.read? token.text = some x ∧ x.IsUnsigned) ∧
      ((Binary64.read? ("0." ++ token.text)).isSome ↔ '.' ∉ token.text.toList) := by
  obtain ⟨digits, exponent, hread⟩ := Token.read_number htoken hkind
  refine ⟨⟨_, hread, Binary64.of_decimal_unsigned digits exponent⟩, fun hsome => ?_, fun hpoint => ?_⟩
  · obtain ⟨x, hread⟩ := Option.isSome_iff_exists.1 hsome
    exact Parser.not_point_of_read hread
  · obtain ⟨digits, exponent, hread⟩ := Token.read_point_number htoken hkind hpoint
    exact Option.isSome_iff_exists.2 ⟨_, hread⟩

namespace Parser

variable {H : Type} {limits : Limits} {expression operand : Rule H}

/-- Whether an operand may come next: with every one behind them, some tokens begin what `begins`
says. -/
def TakesOperand (H : Type) (begins : List Token → Prop) (front : List Token) : Prop :=
  ∀ ⦃operand : List Token⦄ ⦃e : Expr H⦄ ⦃n : Nat⦄, Derives .primary operand e n →
    begins (front ++ operand)

/-- Whether tokens have an operand that starts with a point before a number with a point of its own.
The operand would read `text`, and its first point stands at `position`. -/
def HasTwoPoints (H : Type) (begins : List Token → Prop) (ts : Tokens) (text : String)
    (position : Nat) : Prop :=
  ∃ front dot number rest, ts = prepend (front ++ [dot, number]) rest ∧
    TakesOperand H begins front ∧ dot.kind = .punctuation .dot ∧ number.kind = .number ∧
    '.' ∈ number.text.toList ∧ text = "0." ++ number.text ∧ position = dot.position

/-- Whether tokens are to blame for a result: if it is an invalid number, that is an operand of them
with two points. -/
def Blames (H : Type) {α : Type} (begins : List Token → Prop) (ts : Tokens)
    (result : Except ParseError α) : Prop :=
  ∀ ⦃text position⦄, result = .error (.invalidNumber text position) →
    HasTwoPoints H begins ts text position

section

variable {α β : Type} {begins begins' : List Token → Prop} {ts rest : Tokens} {used : List Token}
  {result : Except ParseError α}

/-- What follows some tokens is to blame with them in front. -/
theorem Blames.behind (h : Blames H begins rest result)
    (hbegins : ∀ before, begins before → begins' (used ++ before)) :
    Blames H begins' (prepend used rest) result := by
  intro text position herror
  obtain ⟨front, dot, number, after, rfl, hoperand, hpoints⟩ := h herror
  refine ⟨used ++ front, dot, number, after, by simp, fun operand e n hderives => ?_, hpoints⟩
  rw [List.append_assoc]
  exact hbegins _ (hoperand hderives)

/-- What begins a part is to blame where it begins the whole. -/
theorem Blames.imp (h : Blames H begins ts result)
    (hbegins : ∀ before, begins before → begins' before) : Blames H begins' ts result := by
  have hbehind : Blames H begins' (prepend [] ts) result := h.behind hbegins
  exact hbehind

/-- There is nothing to blame without an invalid number. -/
theorem blames_ok (a : α) : Blames H begins ts (.ok a) :=
  nofun

/-- Nothing is to blame for a token that stands where another one was expected. -/
theorem blames_expect (kind : TokenKind) : Blames H begins ts (rest.expect kind) := by
  intro text position herror
  unfold Tokens.expect at herror
  split at herror <;> cases herror

/-- Nothing is to blame for a tree that is too tall. -/
theorem blames_node (expr : Expr H) (height : Nat) :
    Blames H begins ts (node limits expr height) := by
  intro text position herror
  unfold node at herror
  split at herror <;> cases herror

/-- A sequence is blamed where its parts are. -/
theorem Blames.bind {next : α → Except ParseError β} (h : Blames H begins ts result)
    (hnext : ∀ a, result = .ok a → Blames H begins ts (next a)) :
    Blames H begins ts (result >>= next) := by
  cases result with
  | error error =>
      intro text position herror
      obtain rfl := Except.error.inj herror
      exact h rfl
  | ok a => exact hnext a rfl

end

/-- Whether a rule blames invalid numbers on operands with two points, in what begins a phrase. -/
def BlamesPoints (c : Category) (rule : Rule H) : Prop :=
  ∀ ⦃ts : Tokens⦄, NumbersRead ts → Blames H (Viable H c) ts (rule ts)

/-- A point in front of a number is to blame if the number has a point of its own. -/
theorem blames_at_point {dot : Token} (hdot : dot.kind = .punctuation .dot) {after : Tokens}
    (hnumbers : NumbersRead after) :
    Blames H (Viable H .primary) (prepend [dot] after)
      (primary expression (prepend [dot] after)) := by
  intro text position herror
  by_cases hkind : after.current.kind = .number
  · obtain ⟨number, rest, hnumber, rfl⟩ := exists_prepend_of_kind hkind (by simp)
    cases hread : Binary64.read? ("0." ++ number.text) with
    | some value => simp [primary, hdot, Token.hasKind, hnumber, numberLeaf, hread] at herror
    | none =>
        rw [primary_of_two_points hdot hkind hread] at herror
        obtain ⟨rfl, rfl⟩ := ParseError.invalidNumber.inj (Except.error.inj herror)
        have hpoint : '.' ∈ number.text.toList := by
          by_contra hnot
          have hsome := (hnumbers number List.mem_cons_self hnumber).2 hnot
          rw [hread] at hsome
          cases hsome
        exact ⟨[], dot, number, rest, rfl, fun _ _ _ => viable_of_derives, hdot, hnumber, hpoint, rfl,
          rfl⟩
  · rw [primary_of_point hdot hkind] at herror
    cases herror

/-- Literals, names and groups blame invalid numbers on operands with two points. -/
theorem primary_blames (hexpr : BlamesPoints .expression expression) :
    BlamesPoints .primary (primary expression) := by
  intro ts hnumbers
  by_cases hstarts : StartsPrimary ts.current.kind
  -- A number, a string, a name, a point and a group.
  · rcases hstarts with hkind | hkind | hkind | hkind | hkind
    · obtain ⟨token, after, htoken, rfl⟩ := exists_prepend_of_kind hkind (by simp)
      obtain ⟨value, hread⟩ :=
        Option.isSome_iff_exists.1 (hnumbers token List.mem_cons_self htoken).1
      simp only [primary, current_prepend_cons, htoken, numberLeaf, hread]
      exact blames_ok _
    · simp only [primary, hkind]
      exact blames_ok _
    · simp only [primary, hkind]
      exact blames_ok _
    · obtain ⟨dot, after, hdot, rfl⟩ := exists_prepend_of_kind hkind (by simp)
      exact blames_at_point hdot hnumbers.of_prepend
    · obtain ⟨opening, after, hopening, rfl⟩ := exists_prepend_of_kind hkind (by simp)
      simp only [primary, current_prepend_cons, hopening, advance_prepend_cons, prepend_nil]
      refine .bind ((hexpr hnumbers.of_prepend).behind fun _ hbefore => hbefore.group hopening) ?_
      intro _ _
      exact .bind (blames_expect _) fun _ _ => blames_ok _
  · intro text position herror
    rw [primary_of_not_starts hstarts] at herror
    cases herror

/-- Expressions with commas between them blame invalid numbers on operands with two points. -/
theorem argument_list_blames (hexpr : BlamesPoints .expression expression)
    (hsound : Sound .expression expression) (close : Symbol) (fuel : Nat) {ts : Tokens}
    (hnumbers : NumbersRead ts) :
    Blames H (ViableArgs H) ts (argumentList expression close fuel ts) := by
  induction fuel generalizing ts with
  | zero =>
      intro text position herror
      cases herror
  | succ fuel ih =>
      rw [argumentList]
      refine .bind ((hexpr hnumbers).imp fun _ => Viable.args) ?_
      rintro ⟨arg, rest⟩ hread
      obtain ⟨used, n, rfl, hderives, -⟩ := hsound hread
      dsimp only
      split
      · rename_i hcomma
        obtain ⟨comma, after, hkind, rfl⟩ :=
          exists_prepend_of_kind (of_decide_eq_true hcomma) (by simp)
        refine .bind ?_ fun _ _ => blames_ok _
        rw [← prepend_append]
        refine (ih hnumbers.of_prepend.of_prepend).behind fun before hbefore => ?_
        simpa using hbefore.more hderives hkind
      · exact .bind (blames_expect _) fun _ _ => blames_ok _

/-- Arguments blame invalid numbers on operands with two points. -/
theorem arguments_blames (hexpr : BlamesPoints .expression expression)
    (hsound : Sound .expression expression) (close : Symbol) {ts : Tokens}
    (hnumbers : NumbersRead ts) :
    Blames H (ViableArgs H) ts (arguments expression close ts) := by
  unfold arguments
  split
  · exact blames_ok _
  · exact argument_list_blames hexpr hsound close _ hnumbers

/-- Whether the loop over accesses blames invalid numbers on operands with two points, behind every
target that stands in front of its tokens. -/
def AccessesBlame (limits : Limits) (expression : Rule H) (fuel : Nat) : Prop :=
  ∀ ⦃front : List Token⦄ ⦃target : Parsed H⦄ ⦃n : Nat⦄ ⦃ts : Tokens⦄,
    Derives .access front target.expr n → NumbersRead ts →
    Blames H (Viable H .access) (prepend front ts) (accesses limits expression fuel target ts)

/-- The arguments behind the tokens `opened`, with the node made of them, blame invalid numbers on
operands with two points if the loop behind them does. -/
theorem node_of_arguments_blames (hexpr : BlamesPoints .expression expression)
    (hsound : Sound .expression expression) {fuel : Nat}
    (hloop : AccessesBlame limits expression fuel) {opened : List Token} {close : Symbol}
    {make : List (Expr H) → Expr H} (hopened : OpensArgs opened close make) (height : Nat)
    {ts : Tokens} (hnumbers : NumbersRead ts) :
    Blames H (Viable H .access) (prepend opened ts) (do
      let (args, rest) ← arguments expression close ts
      let parsed ← node limits (make (args.map Parsed.expr)) (1 + max height (tallest args))
      accesses limits expression fuel parsed rest) := by
  refine .bind ((arguments_blames hexpr hsound close hnumbers).behind
    fun _ hbefore => hbefore.opened hopened) ?_
  rintro ⟨args, rest⟩ hread
  obtain ⟨inner, n, closing, rfl, hclosing, hderives⟩ := arguments_sound hsound hread
  refine .bind (blames_node _ _) fun made hmade => ?_
  obtain ⟨m, haccess⟩ := hopened hderives hclosing
  rw [← expr_of_node hmade] at haccess
  rw [← prepend_append]
  exact hloop haccess hnumbers.of_prepend

/-- What follows a target blames invalid numbers on operands with two points. -/
theorem accesses_blames (hexpr : BlamesPoints .expression expression)
    (hsound : Sound .expression expression) (fuel : Nat) :
    AccessesBlame limits expression fuel := by
  induction fuel with
  | zero => exact fun _ _ _ _ _ _ => blames_ok _
  | succ fuel ih =>
      intro front target n ts hfront hnumbers
      by_cases hkind : ts.current.kind = .punctuation .dot
      · obtain ⟨dot, after, hdot, rfl⟩ := exists_prepend_of_kind hkind (by simp)
        by_cases hkind : after.current.kind = .identifier
        · obtain ⟨name, after, hname, rfl⟩ := exists_prepend_of_kind hkind (by simp)
          by_cases hkind : after.current.kind = .punctuation .leftParen
          · obtain ⟨opening, after, hopening, rfl⟩ := exists_prepend_of_kind hkind (by simp)
            rw [show prepend [dot] (prepend [name] (prepend [opening] after)) =
              prepend [dot, name, opening] after from rfl, accesses_call hdot hname hopening,
              ← prepend_append]
            exact node_of_arguments_blames hexpr hsound ih (opens_call hfront hdot hname hopening)
              target.height hnumbers.of_prepend.of_prepend.of_prepend
          · have hmember := Derives.member hfront hdot hname
            rw [show prepend [dot] (prepend [name] after) = prepend [dot, name] after from rfl,
              accesses_member hdot hname hkind, ← prepend_append]
            refine .bind (blames_node _ _) fun made hmade => ?_
            rw [← expr_of_node hmade] at hmember
            exact ih hmember hnumbers.of_prepend.of_prepend
        · intro text position herror
          have hnot : after.current.hasKind .identifier = false := decide_eq_false hkind
          rw [accesses] at herror
          simp [starts_with_eq, hdot, hnot] at herror
      · by_cases hkind : ts.current.kind = .punctuation .leftBracket
        · obtain ⟨opening, after, hopening, rfl⟩ := exists_prepend_of_kind hkind (by simp)
          rw [accesses_index hopening, ← prepend_append]
          exact node_of_arguments_blames hexpr hsound ih (opens_index hfront hopening) target.height
            hnumbers.of_prepend
        · rw [accesses_stop (by simp [Continues, *])]
          exact blames_ok _

/-- A primary with what follows it blames invalid numbers on operands with two points. -/
theorem access_blames (hexpr : BlamesPoints .expression expression)
    (hsound : Sound .expression expression) :
    BlamesPoints .access (access limits expression) := by
  intro ts hnumbers
  refine .bind ((primary_blames hexpr hnumbers).imp fun _ => Viable.access) ?_
  rintro ⟨target, rest⟩ hread
  obtain ⟨front, n, rfl, hfront, -⟩ := primary_sound hsound hread
  exact accesses_blames hexpr hsound _ (.primary hfront) hnumbers.of_prepend

/-- An operand with its prefix operators blames invalid numbers on operands with two points. -/
theorem unary_blames (hoperand : BlamesPoints (.level 0) operand)
    (hexpr : BlamesPoints .expression expression) (hsound : Sound .expression expression) :
    BlamesPoints (.level 0) (unary limits operand expression) := by
  intro ts hnumbers
  unfold unary
  split
  · rename_i hplus
    obtain ⟨sign, after, hsign, rfl⟩ := exists_prepend_of_kind (of_decide_eq_true hplus) (by simp)
    exact (hoperand hnumbers.of_prepend).behind fun _ hbefore => hbefore.plus hsign
  · split
    · rename_i op hop
      obtain ⟨sign, after, hsign, rfl⟩ := exists_prepend_of_kind (unary_op_eq_some.1 hop) (by simp)
      refine .bind ((hoperand hnumbers.of_prepend).behind fun _ hbefore => hbefore.unary hsign) ?_
      intro _ _
      exact .bind (blames_node _ _) fun _ _ => blames_ok _
    · exact (access_blames hexpr hsound hnumbers).imp fun _ => Viable.operand

/-- The operators of a level that follow a left operand blame invalid numbers on operands with two
points. -/
theorem left_fold_blames {k : Nat} (hoperand : BlamesPoints (.level k) operand)
    (hsound : Sound (.level k) operand) (fuel : Nat) {front : List Token} {left : Parsed H} {n : Nat}
    (hfront : Derives (.level (k + 1)) front left.expr n) {ts : Tokens} (hnumbers : NumbersRead ts) :
    Blames H (Viable H (.level (k + 1))) (prepend front ts)
      (leftFold limits (k + 1) operand fuel left ts) := by
  induction fuel generalizing front left n ts with
  | zero => exact blames_ok _
  | succ fuel ih =>
      by_cases hop : ∃ op ∈ operators (k + 1), ts.current.kind = .punctuation op.punctuation
      · obtain ⟨op, hlevel, hkind⟩ := hop
        obtain ⟨sign, after, hsign, rfl⟩ := exists_prepend_of_kind hkind (by simp)
        rw [left_fold_binary hsign hlevel, ← prepend_append]
        refine .bind ((hoperand hnumbers.of_prepend).behind fun _ hbefore => ?_) ?_
        · simpa using hbefore.binary hfront hsign hlevel
        · rintro ⟨right, rest⟩ hread
          obtain ⟨used, m, rfl, hderives, -⟩ := hsound hread
          refine .bind (blames_node _ _) fun made hmade => ?_
          have hbinary := Derives.binary op hfront hsign hlevel hderives
          rw [← expr_of_node hmade] at hbinary
          have hblames := ih hbinary hnumbers.of_prepend.of_prepend
          rwa [List.nil_append, List.append_cons, prepend_append] at hblames
      · rw [left_fold_stop fun op hlevel hkind => hop ⟨op, hlevel, hkind⟩]
        exact blames_ok _

/-- Operands with the operators of the levels up to `k` between them blame invalid numbers on operands
with two points. -/
theorem binary_blames (hoperand : BlamesPoints (.level 0) operand)
    (hsound : Sound (.level 0) operand) (k : Nat) :
    BlamesPoints (.level k) (binary limits operand k) := by
  induction k with
  | zero => exact hoperand
  | succ k ih =>
      intro ts hnumbers
      have hlevel : Sound (.level k) (binary limits operand k) := binary_sound hsound k
      refine .bind ((ih hnumbers).imp fun _ => Viable.looser) ?_
      rintro ⟨left, rest⟩ hread
      obtain ⟨front, n, rfl, hfront, -⟩ := hlevel hread
      exact left_fold_blames ih hlevel _ (.tighter hfront) hnumbers.of_prepend

/-- Whole expressions blame invalid numbers on operands with two points. -/
theorem conditional_blames (hoperand : BlamesPoints (.level 0) operand)
    (hsoundOperand : Sound (.level 0) operand) (hexpr : BlamesPoints .expression expression)
    (hsound : Sound .expression expression) :
    BlamesPoints .expression (conditional limits operand expression) := by
  intro ts hnumbers
  have hunary : Sound (.level 0) (unary limits operand expression) :=
    unary_sound hsoundOperand hsound
  have hoperands : BlamesPoints (.level BinaryOp.levelCount)
      (binary limits (unary limits operand expression) BinaryOp.levelCount) :=
    binary_blames (unary_blames hoperand hexpr hsound) hunary _
  refine .bind ((hoperands hnumbers).imp fun _ => Viable.expression) ?_
  rintro ⟨condition, rest⟩ hread
  obtain ⟨used, n, rfl, hcondition, -⟩ := binary_sound hunary BinaryOp.levelCount hread
  dsimp only
  split
  · rename_i hkind
    obtain ⟨question, after, hquestion, rfl⟩ :=
      exists_prepend_of_kind (of_decide_eq_true hkind) (by simp)
    rw [← prepend_append]
    refine .bind ((hexpr hnumbers.of_prepend.of_prepend).behind fun _ hbefore => ?_) ?_
    · simpa using hbefore.yes hcondition hquestion
    · rintro ⟨yes, rest⟩ hreadYes
      obtain ⟨usedYes, m, heqYes, hyes, -⟩ := hsound hreadYes
      obtain rfl : after = prepend usedYes rest := heqYes
      refine .bind (blames_expect _) fun after hexpect => ?_
      obtain ⟨colon, hcolon, rfl⟩ := expect_eq_ok hexpect
      refine .bind ?_ fun _ _ => .bind (blames_node _ _) fun _ _ => blames_ok _
      rw [← prepend_append, ← prepend_append]
      refine (hexpr hnumbers.of_prepend.of_prepend.of_prepend.of_prepend).behind
        fun _ hbefore => ?_
      simpa using hbefore.no hcondition hquestion hyes hcolon
  · exact blames_ok _

/-- With a budget of nested constructs, expressions and operands of prefix operators blame invalid
numbers on operands with two points. -/
theorem nested_blames (limits : Limits) (budget : Nat) :
    BlamesPoints (H := H) .expression (nested limits budget .expression) ∧
      BlamesPoints (H := H) (.level 0) (nested limits budget .operand) := by
  induction budget with
  | zero =>
      constructor
      · intro _ _ text position herror
        cases herror
      · intro _ _ text position herror
        cases herror
  | succ budget ih =>
      obtain ⟨hexpr, hoperand⟩ := ih
      obtain ⟨hsound, hsoundOperand⟩ := nested_sound (H := H) limits budget
      constructor
      · exact conditional_blames hoperand hsoundOperand hexpr hsound
      · exact unary_blames hoperand hexpr hsound

end Parser

namespace Expr

variable {H : Type}

/-- Every number token reads as a number without a sign, and with a point in front if and only if it
has none of its own. So a text is an invalid number only where an operand starts with a point in front
of a number with a point of its own, and the error stands at the first point. -/
theorem invalid_number_has_two_points (text : String) (limits : Limits) :
    (∀ token ∈ tokenize text, token.kind = .number →
      (∃ x, Binary64.read? token.text = some x ∧ x.isNaN = false ∧ x.isNegative = false) ∧
        ((Binary64.read? ("0." ++ token.text)).isSome ↔ '.' ∉ token.text.toList)) ∧
    ∀ shown position, parse (H := H) limits text = .error (.invalidNumber shown position) ∨
        parseWhole (H := H) limits text = .error (.invalidNumber shown position) →
      Parser.HasTwoPoints H (Viable H .expression) (ofText text) shown position := by
  refine ⟨fun token htoken hkind => Token.number_is_read htoken hkind, ?_⟩
  have hblames : Parser.Blames H (Viable H .expression) (ofText text)
      (Parser.expression (H := H) limits (ofText text)) :=
    ((Parser.nested_blames limits limits.maxDepth).1 (Parser.numbers_read_of_text text)).bind
      fun _ _ => Parser.blames_ok _
  rintro shown position (hparse | hparse)
  · refine (Parser.Blames.bind (.bind hblames ?_) ?_) hparse
    · exact fun _ _ => Parser.blames_ok _
    · exact fun _ _ => Parser.blames_ok _
  · refine (hblames.bind fun _ _ => ?_) hparse
    exact .bind (Parser.blames_expect _) fun _ _ => Parser.blames_ok _

/-- The text `a+.1.5` has an operand with two points behind the sign. Its number is read, but not with
the point in front. -/
theorem invalid_number_has_two_points_behind_sign :
    (∃ x, Binary64.read? "1.5" = some x ∧ x.isNaN = false ∧ x.isNegative = false) ∧
      Binary64.read? "0.1.5" = none ∧
      Parser.HasTwoPoints Empty (Viable Empty .expression) (ofText "a+.1.5") "0.1.5" 2 := by
  have htokens : tokenize "a+.1.5" = [⟨.identifier, "a", 0⟩, ⟨.punctuation .plus, "+", 1⟩,
      ⟨.punctuation .dot, ".", 2⟩, ⟨.number, "1.5", 3⟩] := by decide +kernel
  have hparse : parseWhole (H := Empty) {} "a+.1.5" = .error (.invalidNumber "0.1.5" 2) := by
    rw [parseWhole, ofText, htokens]
    rfl
  obtain ⟨hnumbers, hinvalid⟩ := invalid_number_has_two_points (H := Empty) "a+.1.5" {}
  have hmem : (⟨.number, "1.5", 3⟩ : Token) ∈ tokenize "a+.1.5" := by simp [htokens]
  obtain ⟨hread, hpoint⟩ := hnumbers _ hmem rfl
  have hnone : Binary64.read? "0.1.5" = none :=
    Option.not_isSome_iff_eq_none.1 fun hsome => hpoint.1 hsome (by decide)
  exact ⟨hread, hnone, hinvalid _ _ (.inr hparse)⟩

end Expr

end Formula
