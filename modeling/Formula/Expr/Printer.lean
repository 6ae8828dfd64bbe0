import Formula.Expr
import Formula.Value.Text

/-!
# Printing expressions

An expression is printed with every operation in parentheses, so that reading the text gives the
same tree whatever the levels of its operators are.
-/

namespace Formula.Expr

variable {H : Type} [HostObject H]

/-- The text of a literal value; one without a literal is printed as the string of its text. -/
def literalText (value : Value H) : String :=
  value.toLiteral?.getD (quoteText value.toText)

mutual
/-- The source text of an expression. -/
def toText : Expr H → String
  | .literal value => literalText value
  | .root => "<root>"
  | .member .root name => name
  | .member target name => target.toText ++ "." ++ name
  | .index target args => target.toText ++ "[" ++ commaSeparated (argTexts args) ++ "]"
  | .call target name args =>
    target.toText ++ "." ++ name ++ "(" ++ commaSeparated (argTexts args) ++ ")"
  | .unary op operand => "(" ++ op.symbol ++ operand.toText ++ ")"
  | .binary op left right =>
    "(" ++ left.toText ++ " " ++ op.symbol ++ " " ++ right.toText ++ ")"
  | .conditional condition yes no =>
    "(" ++ condition.toText ++ " ? " ++ yes.toText ++ " : " ++ no.toText ++ ")"

/-- The source texts of arguments. -/
def argTexts : List (Expr H) → List String
  | [] => []
  | arg :: rest => arg.toText :: argTexts rest
end

end Formula.Expr
