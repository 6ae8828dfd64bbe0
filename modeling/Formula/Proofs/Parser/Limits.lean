import Formula.Proofs.Evaluation.Depth
import Formula.Proofs.Parser.Correct
import Formula.Proofs.Parser.Relax

/-!
# The limits of the parser

The limits only decide what is refused: `parse_start_eq_ok_iff_unlimited` says that an expression is
read under limits if and only if it is read without and fits them.
-/

namespace Formula

open Grammar Tokens

/-- The tokens of a text that stand before the token `stop`. -/
def tokensBefore (text : String) (stop : Token) : List Token :=
  (tokenize text).filter fun token => token.position < stop.position

/-- What was read of a text is the tokens before the one that is left. -/
theorem Tokens.tokens_before_current {text : String} {consumed : List Token} {rest : Tokens}
    (h : ofText text = prepend consumed rest) : tokensBefore text rest.current = consumed := by
  have hlist : tokenize text = consumed ++ rest.rest := congrArg Tokens.rest h
  have hend : text.length = rest.endPosition := congrArg Tokens.endPosition h
  have hpairwise := Unread.pairwise_position_lt 0 text.toList
  have hbounds : ∀ token ∈ tokenize text, token.position < rest.endPosition := by
    intro token htoken
    have hbound := (Unread.position_bounds htoken).2
    rwa [Nat.zero_add, String.length_toList, hend] at hbound
  change (tokenize text).Pairwise _ at hpairwise
  rw [hlist] at hpairwise hbounds
  have hkept : ∀ token ∈ consumed, token.position < rest.current.position := by
    intro token htoken
    obtain ⟨_ | ⟨stop, more⟩, last⟩ := rest
    · exact hbounds token (List.mem_append_left _ htoken)
    · exact (List.pairwise_append.1 hpairwise).2.2 token htoken stop List.mem_cons_self
  have hleft : ∀ token ∈ rest.rest, ¬token.position < rest.current.position := by
    intro token htoken
    obtain ⟨_ | ⟨stop, more⟩, last⟩ := rest
    · exact nomatch htoken
    · rcases List.mem_cons.1 htoken with rfl | htoken
      · exact Nat.lt_irrefl _
      · have hlt := (List.pairwise_cons.1 (List.pairwise_append.1 hpairwise).2.1).1 token htoken
        exact Nat.not_lt.2 (Nat.le_of_lt hlt)
  rw [tokensBefore, hlist, List.filter_append, List.filter_eq_self.2 (by simpa using hkept),
    List.filter_eq_nil_iff.2 (by simpa using hleft), List.append_nil]

namespace Expr

variable {H : Type}

/-- Whether a text starts with an expression that stops on a token, whatever the limits are as long
as they are large enough. -/
def StartsUnlimited (text : String) (e : Expr H) (stop : Token) : Prop :=
  ∃ bound, ∀ limits : Limits, bound ≤ limits.maxDepth → bound ≤ limits.maxHeight →
    parseStart limits text = .ok (e, stop)

/-- An expression is read from the start of a text if and only if it is a phrase that stops there
and fits the limits. -/
theorem parse_start_eq_ok_iff {limits : Limits} {text : String} {e : Expr H} {stop : Token} :
    parseStart limits text = .ok (e, stop) ↔
      ∃ consumed rest n, ofText text = prepend consumed rest ∧ stop = rest.current ∧
        Derives .expression consumed e n ∧ Stops .expression consumed stop ∧
        n ≤ limits.maxDepth ∧ e.height ≤ max 1 limits.maxHeight := by
  constructor
  · intro h
    obtain ⟨⟨parsed, rest⟩, hread, hresult⟩ := Parser.bind_eq_ok.1 h
    obtain ⟨rfl, rfl⟩ := Prod.mk.inj (Except.ok.inj hresult)
    obtain ⟨consumed, n, heq, hderives, hstops, hfits⟩ := Parser.expression_eq_ok_iff.1 hread
    exact ⟨consumed, rest, n, heq, rfl, hderives, hstops, hfits⟩
  · rintro ⟨consumed, rest, n, heq, rfl, hderives, hstops, hfits⟩
    rw [parseStart, heq, (Parser.expression_yields limits hderives hstops).eq_of_fits hfits]
    rfl

/-- Under limits an expression is read if and only if it is read without and fits them. -/
theorem parse_start_eq_ok_iff_unlimited {limits : Limits} {text : String} {e : Expr H}
    {stop : Token} :
    parseStart limits text = .ok (e, stop) ↔
      StartsUnlimited text e stop ∧
      (∃ n, Derives .expression (tokensBefore text stop) e n ∧ n ≤ limits.maxDepth) ∧
      e.height ≤ max 1 limits.maxHeight := by
  constructor
  · intro h
    obtain ⟨consumed, rest, n, heq, rfl, hderives, hstops, hdepth, hheight⟩ :=
      parse_start_eq_ok_iff.1 h
    refine ⟨⟨max n e.height, fun larger hlargerDepth hlargerHeight => ?_⟩, ⟨n, ?_, hdepth⟩,
      hheight⟩
    · exact parse_start_eq_ok_iff.2
        ⟨consumed, rest, n, heq, rfl, hderives, hstops, by omega, by omega⟩
    · rwa [tokens_before_current heq]
  · rintro ⟨⟨bound, hbound⟩, ⟨n, hderives, hdepth⟩, hheight⟩
    -- The reading without limits says where the phrase stops, and so which tokens it takes.
    obtain ⟨consumed, rest, m, heq, rfl, -, hstops, -⟩ :=
      parse_start_eq_ok_iff.1 (hbound ⟨bound, bound⟩ (Nat.le_refl _) (Nat.le_refl _))
    rw [tokens_before_current heq] at hderives
    exact parse_start_eq_ok_iff.2 ⟨consumed, rest, n, heq, rfl, hderives, hstops, hdepth, hheight⟩

/-- Reading the start of a text settles under larger limits. -/
theorem parse_start_settles {limits larger : Limits} (hdepth : limits.maxDepth ≤ larger.maxDepth)
    (hheight : limits.maxHeight ≤ larger.maxHeight) (text : String) :
    Parser.Settles (parseStart (H := H) limits text) (parseStart larger text) :=
  Parser.settles_bind (Parser.expression_settles hdepth hheight _) fun _ => Parser.settles_refl _

/-- Reading a whole text settles under larger limits. -/
theorem parse_whole_settles {limits larger : Limits} (hdepth : limits.maxDepth ≤ larger.maxDepth)
    (hheight : limits.maxHeight ≤ larger.maxHeight) (text : String) :
    Parser.Settles (parseWhole (H := H) limits text) (parseWhole larger text) :=
  Parser.settles_bind (Parser.expression_settles hdepth hheight _) fun _ => Parser.settles_refl _

/-- An error that is settled and is no refusal is the error of the other result. -/
theorem error_of_settles {α : Type} {x y : Except ParseError α} (h : Parser.Settles x y)
    {error : ParseError} (hx : x = .error error) (herror : ∀ limit, error ≠ .tooDeep limit) :
    y = .error error := by
  rcases h with rfl | ⟨limit, hlimit⟩
  · exact hx
  · rw [hx] at hlimit
    exact absurd (Except.error.inj hlimit) (herror limit)

/-- The limits are filters: under them an expression is read from the start of a text if and only
if it is read without limits, the nesting of what was read is within the one and the height of the
tree within the other. An error other than a refusal stays what it is under larger limits, and the
height of a tree bounds how deep its evaluation recurses. -/
theorem limits_filter [HostObject H] (text : String) (limits : Limits) :
    (∀ (e : Expr H) (stop : Token), parseStart limits text = .ok (e, stop) ↔
      StartsUnlimited text e stop ∧
      (∃ n, Derives .expression (tokensBefore text stop) e n ∧ n ≤ limits.maxDepth) ∧
      e.height ≤ max 1 limits.maxHeight) ∧
    (∀ larger : Limits, limits.maxDepth ≤ larger.maxDepth → limits.maxHeight ≤ larger.maxHeight →
      ∀ error, (∀ limit, error ≠ .tooDeep limit) →
        (parseStart (H := H) limits text = .error error →
          parseStart (H := H) larger text = .error error) ∧
        (parseWhole (H := H) limits text = .error error →
          parseWhole (H := H) larger text = .error error)) ∧
    ∀ (σ : Type) (binding : Binding σ H) (root : Value H) (stuck : Action σ (Value H)) (e : Expr H)
      (depth : Nat), e.height ≤ depth →
        evalWithin stuck binding root depth e = eval binding root e := by
  refine ⟨?_, ?_, ?_⟩
  · intro e stop
    exact parse_start_eq_ok_iff_unlimited
  · intro larger hdepth hheight error herror
    constructor
    · intro h
      exact error_of_settles (parse_start_settles hdepth hheight text) h herror
    · intro h
      exact error_of_settles (parse_whole_settles hdepth hheight text) h herror
  · intro σ binding root stuck e depth h
    exact eval_within_eq stuck binding root h

end Expr

end Formula
