import Calculator.Expression
import Calculator.Number.Fixed
import Calculator.Operation
import Calculator.Session.Entry

/-!
# The state of a calculation

What the calculator holds between two actions of its user: the entry, the last result with its
working, the last error, the panel for direct operations, and how many decimals are shown. The
operations here change the state alone; what the window makes of buttons and keys is
`Session/Window.lean`.

* An error leaves the last result where it is, but takes its working away. A result takes the
  error away.
* `value` is kept beside `result`, its text, so that a change of precision can write the result
  anew. The result of a direct operation is written once.
* `focusEntry` asks the window to give the entry the keyboard at its next drawing.
-/

namespace Calculator

/-- The panel for direct operations. -/
structure DirectPanel where
  operation : Operation
  a : Float
  b : Float
  result : String
  error : String
  deriving DecidableEq

/-- The panel at the start. -/
def DirectPanel.fresh : DirectPanel :=
  ⟨.add, Number.zero, Number.zero, "", ""⟩

/-- The state of the calculator. -/
structure Session where
  entry : String
  value : Option Float
  result : String
  error : String
  working : Working
  direct : DirectPanel
  digits : Nat
  focusEntry : Bool
  deriving DecidableEq

namespace Session

/-! ## 1. Starting and clearing -/

/-- The state at the start, with the decimals asked for. -/
def withDigits (digits : Nat) : Session where
  entry := ""
  value := none
  result := ""
  error := ""
  working := .none
  direct := .fresh
  digits := min digits Number.maxDigits
  focusEntry := true

/-- The state at the start. -/
def fresh : Session :=
  withDigits Number.defaultDigits

/-- The entry is emptied. -/
def clearEntry (s : Session) : Session :=
  { s with entry := "", focusEntry := true }

/-- Result, error and working are taken away. -/
def clearResults (s : Session) : Session :=
  { s with value := none, result := "", error := "", working := .none, focusEntry := true }

/-- Everything is as at the start, the decimals too. -/
def resetAll (s : Session) : Session :=
  { s.clearResults with
    entry := "", direct := .fresh, digits := Number.defaultDigits, focusEntry := true }

/-! ## 2. Results -/

/-- An error is shown. -/
def fail (s : Session) (message : String) : Session :=
  { s with error := message, working := .none, focusEntry := true }

/-- A result is shown, with its working. -/
def succeed (s : Session) (value : Float) (working : Working) : Session :=
  { s with
    error := "", value := some value, result := Number.display s.digits value,
    working := working, focusEntry := true }

/-- The number of decimals changes, and the result is written anew. -/
def setDigits (s : Session) (digits : Nat) : Session :=
  let digits := min digits Number.maxDigits
  { s with
    digits := digits,
    result := match s.value with
      | some value => Number.display digits value
      | none => s.result,
    focusEntry := true }

/-- The outcome of a direct operation is shown: a value, or a message. -/
def setDirect (s : Session) : Except String Float → Session
  | .ok value =>
    { s with direct := { s.direct with error := "", result := Number.display s.digits value } }
  | .error message =>
    { s with direct := { s.direct with result := "", error := message } }

/-- The outcome of a direct operation goes to the direct panel only. -/
theorem setDirect_eq (s : Session) (outcome : Except String Float) :
    s.setDirect outcome = { s with direct := (s.setDirect outcome).direct } := by
  cases outcome <;> rfl

/-! ## 3. What the user does -/

/-- The entry becomes the text. -/
def typeEntry (s : Session) (text : String) : Session :=
  { s with entry := text }

/-- A key writes into the entry. -/
def press (s : Session) (key : Key) : Session :=
  { s with entry := String.ofList (Entry.insert s.entry.toList key), focusEntry := true }

/-- The last unit of the entry is deleted. -/
def delete (s : Session) : Session :=
  { s with entry := String.ofList (Entry.deleteLast s.entry.toList), focusEntry := true }

/-- What is said when there is nothing to evaluate. -/
def emptyEntry : String :=
  "Entrée vide"

/-- The entry is evaluated, without the blanks around it. -/
def evaluate (s : Session) : Session :=
  let text := Text.trim s.entry
  if text.isEmpty then s.fail emptyEntry
  else match evaluateWithWorking text with
    | .ok (value, working) => s.succeed value working
    | .error e => s.fail e.message

/-- Fields of the direct panel are set; those not given stay. -/
def editDirect (s : Session) (operation : Option Operation) (a b : Option Float) : Session :=
  { s with
    direct := { s.direct with
      operation := operation.getD s.direct.operation,
      a := a.getD s.direct.a,
      b := b.getD s.direct.b } }

/-- The operation of the direct panel is computed; a unary one is not given `b`. -/
def computeDirect (s : Session) : Session :=
  let operation := s.direct.operation
  let b := if operation.isBinary then some s.direct.b else none
  s.setDirect ((operation.compute s.direct.a b).mapError EvalError.message)

end Session

end Calculator
