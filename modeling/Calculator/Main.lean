import Calculator.CommandLine.Run
import Calculator.Session.Window

/-!
# The program

The command line is run and its outcome printed, behind the notes of its log. Where it ends in the
window, the labels that the window opens with are printed: a terminal has nothing to press.
-/

/-- The program: prints what the command line comes to, and ends with its exit code. -/
def main (words : List String) : IO UInt32 := do
  IO.eprint (Calculator.CommandLine.errorStream (·.message ++ "\n") none words)
  match Calculator.CommandLine.run words with
  | .done exit output _ =>
    IO.print output
    return exit.toUInt32
  | .window session =>
    for label in (Calculator.Window.opening session).labels do
      IO.println label
    return 0
