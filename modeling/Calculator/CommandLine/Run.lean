import Calculator.CommandLine.Arguments
import Calculator.CommandLine.Log
import Calculator.Session

/-!
# Running a command line

What the program does with its arguments: an expression is evaluated, or an operation computed,
and the result is printed; with neither, the window is opened. Exit codes tell the three ways of
ending apart: 0 for a result, 1 for a calculation that fails, 2 for words that are no command.

What is printed is told in two parts. `run` gives what the program itself prints on its two streams.
`logged` gives the notes that are written besides: they go to the stream of errors, and stand in
front of what is printed there (`errorStream`). Texts on the use of the program, which explain its
options or what is wrong with the words, belong to neither.
-/

namespace Calculator.CommandLine

/-- How a run ends: in the window, or with an exit code and what the program itself prints on its
    two streams. -/
inductive Outcome where
  | window (session : Session)
  | done (exit : Nat) (output errors : String)
  deriving DecidableEq

/-- What the program itself prints on the stream of errors before a window is open. -/
def Outcome.errors : Outcome → String
  | window _ => ""
  | done _ _ errors => errors

namespace Arguments

/-- The decimals to show. -/
def shownDigits (args : Arguments) : Nat :=
  args.digits.getD Number.defaultDigits

/-- The result that is asked for, if any is. -/
def result? (args : Arguments) : Option (Except EvalError Float) :=
  match args.expression with
  | some text => some (evaluate text)
  | .none =>
    match args.operation, args.a with
    | some name, some a => some (computeNamed name a args.b)
    | _, _ => .none

/-- How the run ends. -/
def outcome (args : Arguments) : Outcome :=
  match args.result? with
  | some (.ok value) => .done 0 (Number.display args.shownDigits value ++ "\n") ""
  | some (.error e) => .done 1 "" ("erreur: " ++ e.message ++ "\n")
  | .none => .window (Session.withDigits args.shownDigits)

/-- What is to be done, as it is noted before. -/
def request? (args : Arguments) : Option Note :=
  match args.expression with
  | some text => some (.evaluation text)
  | .none =>
    match args.operation, args.a with
    | some name, some a => some (.operation name a args.b)
    | _, _ => .none

/-- What is noted of the run, in this order. -/
def notes (args : Arguments) : List Note :=
  args.request?.toList ++
    match args.result? with
    | some (.ok _) => []
    | some (.error e) => [.failure e.code]
    | .none => [.opening args.shownDigits]

end Arguments

/-- What the program says of its version. -/
def versionLine : String :=
  "calculatrice_flottante 0.1.0\n"

/-- How a run ends that has no arguments to act on, texts on the use of the program left out. -/
def Stop.outcome : Stop → Outcome
  | .badUsage => .done 2 "" ""
  | .version => .done 0 versionLine ""
  | .help => .done 0 "" ""

/-- How the run of a command line ends. -/
def run (words : List String) : Outcome :=
  match Arguments.ofWords words with
  | .ok args => args.outcome
  | .error stop => stop.outcome

/-- The notes that are written while a command line runs. -/
def logged (environment : Environment) (words : List String) : List Note :=
  match Arguments.ofWords words with
  | .ok args => args.notes.filter (environment.writes args.verbosity)
  | .error _ => []

/-- The stream of errors, if the notes are written in this way: the notes, and behind them what the
    program itself prints. -/
def errorStream (write : Note → String) (environment : Environment) (words : List String) :
    String :=
  String.join ((logged environment words).map write) ++ (run words).errors

end Calculator.CommandLine
