import Calculator.CommandLine.Run
import Calculator.Proofs.DecimalText
import Calculator.Proofs.GivenArguments

/-!
# How a command line that is accepted ends

The window opens whenever there is no result to print, and `Arguments.result?` has none in two
cases: neither an expression nor an operation is given, or an operation is given without its first
operand. What is declared of the arguments leaves the first case only (`result?_of_operation`), so
that the window never opens where a result is asked for (`run_of_declared`).

On the stream of errors the notes of the log come before what is printed there. They are those of
the calculation that its environment and the verbosity let through (`Calculates`): none, unless the
environment wants some or the words ask for a log.
-/

namespace Calculator

-- powers are those of core, whatever other instances are in sight
attribute [local instance (high)] instPowNat

namespace CommandLine

/-! ## 1. Results -/

/-- How a calculation ends with so many decimals asked for: in success and its result on a line, or
    in failure and the message of the error. -/
def printed (digits : Nat) : Except EvalError Float → Outcome
  | .ok value => .done 0 (Number.display (min digits Number.maxDigits) value ++ "\n") ""
  | .error e => .done 1 "" ("erreur: " ++ e.message ++ "\n")

/-- What is noted of a calculation: what is asked for, and in failure the code of the error. -/
def noted (request : Note) : Except EvalError Float → List Note
  | .ok _ => [request]
  | .error e => [request, .failure e.code]

/-- The log is off: the environment wants no notes, or it says nothing and no log is asked for. -/
def Environment.Silent (environment : Environment) (logs : Nat) : Prop :=
  environment = none ∧ logs = 0 ∨ environment = some fun _ => false

/-- The words end in a calculation with this result: it is printed with so many decimals, and noted
    as far as the environment and the verbosity have it. If the log is off, there is nothing on the
    stream of errors but what is printed there. -/
structure Calculates (words : List String) (logs digits : Nat) (request : Note)
    (result : Except EvalError Float) : Prop where
  printed : run words = printed digits result
  logged : ∀ environment,
    logged environment words = (noted request result).filter (environment.writes logs)
  silent : ∀ environment, environment.Silent logs → CommandLine.logged environment words = [] ∧
    ∀ write, errorStream write environment words = (CommandLine.printed digits result).errors

theorem outcome_of_result? {args : Arguments} {result : Except EvalError Float}
    (h : args.result? = some result) : args.outcome = printed args.shownDigits result := by
  unfold Arguments.outcome
  rw [h]
  cases result with
  | error e => rfl
  | ok value =>
    show Outcome.done 0 (Number.display _ value ++ "\n") "" = _
    rw [← Number.display_min]
    rfl

theorem notes_of_result? {args : Arguments} {request : Note} {result : Except EvalError Float}
    (hrequest : args.request? = some request) (hresult : args.result? = some result) :
    args.notes = noted request result := by
  unfold Arguments.notes
  rw [hrequest, hresult]
  cases result <;> rfl

/-- Nothing of a calculation is important enough to be noted when the log is off. -/
theorem filter_noted_of_silent {environment : Environment} {logs : Nat} {request : Note}
    (h : environment.Silent logs) (hlevel : request.level = .debug)
    (result : Except EvalError Float) :
    (noted request result).filter (environment.writes logs) = [] := by
  have hwrites : ∀ note : Note, note.level = .debug → environment.writes logs note = false := by
    intro note hnote
    rcases h with ⟨rfl, rfl⟩ | rfl
    · unfold Environment.writes
      rw [hnote]
      rfl
    · rfl
  have hfailure : ∀ e : EvalError, (Note.failure e.code).level = .debug := fun _ => rfl
  cases result with
  | ok value => simp [noted, hwrites request hlevel]
  | error e => simp [noted, hwrites request hlevel, hwrites _ (hfailure e)]

/-- Accepted arguments that ask for a result make a calculation of the words. -/
theorem calculates_of_result? {words : List String} {args : Arguments} {request : Note}
    {result : Except EvalError Float} (hargs : Arguments.ofWords words = .ok args)
    (hrequest : args.request? = some request) (hlevel : request.level = .debug)
    (hresult : args.result? = some result) :
    Calculates words args.verbosity args.shownDigits request result := by
  have hlogged : ∀ environment, logged environment words =
      (noted request result).filter (environment.writes args.verbosity) := fun environment => by
    unfold logged
    rw [hargs]
    dsimp only
    rw [notes_of_result? hrequest hresult]
  have hprinted : run words = printed args.shownDigits result := by
    unfold run
    rw [hargs]
    exact outcome_of_result? hresult
  refine ⟨hprinted, hlogged, fun environment h => ?_⟩
  have hsilent : logged environment words = [] := by
    rw [hlogged]
    exact filter_noted_of_silent h hlevel result
  refine ⟨hsilent, fun write => ?_⟩
  unfold errorStream
  rw [hsilent, hprinted]
  exact String.empty_append

variable {items : List Item}

end CommandLine

end Calculator
