import FieldQuery.CommandLine

/-!
# The program

Reads the arguments and, where a command wants it, the standard input; all else is
`Command.run`.
-/

open FieldQuery in
/-- Carries out the command that the arguments name. -/
def main (args : List String) : IO UInt32 := do
  let outcome ← match CommandLine.command? args with
    | none => pure Outcome.misused
    | some command =>
      let stdin ← if command.readsInput then (← IO.getStdin).readToEnd else pure ""
      pure (command.run stdin)
  IO.print outcome.output
  IO.eprint outcome.aside
  return UInt32.ofNat outcome.code
