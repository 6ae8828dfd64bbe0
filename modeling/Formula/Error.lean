import Formula.Operator
import Formula.Token

/-!
# Errors

An error names its cause; `message` gives its text. A `ParseError` is about the text of an
expression, an `EvalError` about the values that it met.
-/

namespace Formula

/-- Why a text is no expression. -/
inductive ParseError where
  /-- Another kind of token had to stand here. -/
  | unexpectedToken (expected : TokenKind) (found : Token)
  /-- The token starts no operand. -/
  | invalidToken (token : Token)
  /-- The text of a number, which starts at the position, spells no number. -/
  | invalidNumber (text : String) (position : Nat)
  /-- The dot at the position is not followed by a name. -/
  | identifierExpected (found : Token) (position : Nat)
  /-- The expression is nested deeper, or its tree is taller, than the limit. -/
  | tooDeep (limit : Nat)
  deriving DecidableEq, Repr

/-- How a kind of token is called where it was expected. -/
def TokenKind.expectedText : TokenKind → String
  | .punctuation symbol => symbol.text
  | _ => "end of input"

/-- The text of a parse error. -/
def ParseError.message : ParseError → String
  | .unexpectedToken expected found =>
    "Expected token " ++ expected.expectedText ++ ", but " ++ found.display ++ " at position "
      ++ Nat.repr found.position
  | .invalidToken token =>
    "Invalid token " ++ token.display ++ " at position " ++ Nat.repr token.position
  | .invalidNumber text position =>
    "Invalid number literal " ++ text ++ " at position " ++ Nat.repr position
  | .identifierExpected found position =>
    "Cannot parse ." ++ found.display ++ " at position " ++ Nat.repr position
  | .tooDeep limit => "Expression nesting exceeds the limit of " ++ Nat.repr limit

/-- What was asked of a target. -/
inductive Access where
  | member (name : String)
  | index
  | method (name : String)
  deriving DecidableEq, Repr

/-- The words for an access. -/
def Access.description : Access → String
  | .member name => "get property " ++ name
  | .index => "get index value"
  | .method name => "invoke method " ++ name

/-- Why an argument was refused. -/
inductive ArgumentFault where
  | indexNotNumber (shown : String)
  | substringLength (count : Int) (length : Nat)
  | emptySearch
  | malformedPattern
  | negativeDigits (digits : Int)
  | durationExpected (typeName : String)
  | notDecimal (shown : String)
  deriving DecidableEq, Repr

/-- The words for a refused argument. -/
def ArgumentFault.description : ArgumentFault → String
  | .indexNotNumber shown => "index " ++ shown ++ " is not a number"
  | .substringLength count length =>
    "Substring length " ++ Int.repr count ++ " exceeds the end of a string of length "
      ++ Nat.repr length
  | .emptySearch => "Replace() requires a non-empty search string"
  | .malformedPattern => "invalid regex"
  | .negativeDigits digits => "Round() digits must not be negative, got " ++ Int.repr digits
  | .durationExpected typeName => "Add() expects a duration, got " ++ typeName
  | .notDecimal shown => shown ++ " is not representable as a decimal"

/-- Why an expression has no value. Types are given by their names. -/
inductive EvalError where
  | unsupportedUnary (op : UnaryOp) (operand : String)
  | unsupportedBinary (op : BinaryOp) (left right : String)
  | unknownMember (typeName name : String)
  | unknownMethod (typeName name : String) (arity : Nat)
  | noIndexer (typeName : String)
  | indexOutOfRange (index : Int) (length : Nat)
  | keyNotFound (key : String)
  | nullReference (access : Access)
  | overflow (op : BinaryOp)
  | invalidArgument (fault : ArgumentFault)
  | host (message : String)
  deriving DecidableEq, Repr

/-- The text of an evaluation error. -/
def EvalError.message : EvalError → String
  | .unsupportedUnary op operand =>
    "Cannot do " ++ op.symbol ++ operand ++ " for operator " ++ op.symbol
  | .unsupportedBinary op left right =>
    "Cannot do " ++ left ++ " " ++ op.symbol ++ " " ++ right ++ " for operator " ++ op.symbol
  | .unknownMember typeName name => "Cannot get property " ++ name ++ " from " ++ typeName
  | .unknownMethod typeName name arity =>
    "Cannot invoke method " ++ name ++ " with " ++ Nat.repr arity ++ " argument(s) on " ++ typeName
  | .noIndexer typeName => "Cannot get index value from " ++ typeName
  | .indexOutOfRange index length =>
    "Index " ++ Int.repr index ++ " is out of range for length " ++ Nat.repr length
  | .keyNotFound key => "Key '" ++ key ++ "' not found"
  | .nullReference access => "Cannot " ++ access.description ++ " on null"
  | .overflow op => "Arithmetic overflow in " ++ op.symbol
  | .invalidArgument fault => "Invalid argument: " ++ fault.description
  | .host message => message

/-- Why a text has no value: it is no expression, or evaluating it failed. -/
inductive Error where
  | parse (error : ParseError)
  | evaluation (error : EvalError)
  deriving DecidableEq, Repr

/-- The text of an error, with the stage that failed in front. -/
def Error.message : Error → String
  | .parse error => "Parse error: " ++ error.message
  | .evaluation error => "Evaluation error: " ++ error.message

end Formula
