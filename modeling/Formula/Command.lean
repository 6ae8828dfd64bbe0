import Formula.Binding.Object
import Formula.Evaluation
import Formula.Expr.Printer
import Formula.Json.Printer
import Formula.Json.Reader
import Formula.Value.Json

/-!
# Commands

An expression can be evaluated against a JSON document, checked, or split into tokens. A command has
no host objects; its outcome is what a program that runs it writes.
-/

namespace Formula

/-- Why a command fails. -/
inductive CommandError where
  | expression (error : Error)
  | invalidJson
  deriving DecidableEq, Repr

/-- The text of a command's error. -/
def CommandError.message : CommandError → String
  | .expression error => error.message
  | .invalidJson => "Invalid JSON"

/-- The printed tree of a text that is one expression. -/
def checkText (limits : Limits) (text : String) : Except CommandError String :=
  match (Expr.parseWhole limits text : Except ParseError (Expr Empty)) with
  | .ok expr => .ok expr.toText
  | .error error => .error (.expression (.parse error))

/-- The value of the document that an input holds; without an input it is null. -/
def readInput : Option String → Except CommandError (Value Empty)
  | none => .ok .null
  | some text =>
    match Json.read? text with
    | some document => .ok (Value.ofJson document)
    | none => .error .invalidJson

/-- The document for the value of the expression that a text starts with. -/
def evaluateText (limits : Limits) (text : String) (input : Option String) :
    Except CommandError Json := do
  let root ← readInput input
  match (evaluate Binding.object limits text root ()).1 with
  | .ok value => return value.toJson
  | .error error => throw (.expression error)

/-- What a program is asked to do. -/
inductive Command where
  | eval (expression : String) (input : Option String) (pretty : Bool)
  | check (expression : String)
  | tokens (expression : String)
  deriving DecidableEq, Repr

/-- What a program leaves: its exit code and its two outputs. -/
structure Outcome where
  exitCode : Nat
  stdout : String
  stderr : String
  deriving DecidableEq, Repr

namespace Command

/-- The outcome of a result that is one line, or of an error. -/
def lineOutcome : Except CommandError String → Outcome
  | .ok line => ⟨0, line ++ "\n", ""⟩
  | .error error => ⟨1, "", error.message ++ "\n"⟩

/-- The input that standard input gives; a blank one is none. -/
def inputOfStdin (stdin : String) : Option String :=
  if (Text.trim stdin.toList).isEmpty then none else some stdin

/-- Runs a command; evaluation without an input of its own reads standard input. -/
def run (limits : Limits) (stdin : String) : Command → Outcome
  | .eval expression input pretty =>
    lineOutcome <|
      (evaluateText limits expression (input <|> inputOfStdin stdin)).map fun document =>
        if pretty then document.pretty else document.compact
  | .check expression =>
    lineOutcome ((checkText limits expression).map fun text => "Syntax is valid: " ++ text)
  | .tokens expression =>
    ⟨0, String.join ((tokenListing expression).map fun line => line ++ "\n"), ""⟩

end Command

end Formula
