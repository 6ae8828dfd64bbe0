import Formula.Command.Arguments

/-!
# The command line

Reads standard input when a command needs it, runs the command, and writes its outcome.
-/

/-- Runs the command that the arguments name. -/
def main (args : List String) : IO UInt32 := do
  let stdin ← match Formula.Command.Invocation.ofArguments? args with
    | some ⟨_, .eval _ none _⟩ => (← IO.getStdin).readToEnd
    | _ => pure ""
  let outcome := Formula.Command.runArguments args stdin
  IO.print outcome.stdout
  IO.eprint outcome.stderr
  return UInt32.ofNat outcome.exitCode
