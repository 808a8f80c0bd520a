import Calculator.Postfix.Order
import Calculator.Postfix.Value
import Calculator.Token.Lexer

/-!
# Expressions

The value of an expression given as text: its tokens, their postfix order, the value of that.
The first of the three that fails decides the error. `Working` is what the user is shown of the
first two.
-/

namespace Calculator

/-- The value of an expression. -/
def evaluate (text : String) : Except EvalError Float := do
  let tokens ← tokenize text
  let ordered ← toPostfix tokens
  evalPostfix ordered

/-- How a value came about: the tokens of the expression as they stand, and in postfix order. -/
structure Working where
  tokens : String
  ordered : String
  deriving DecidableEq, Repr

/-- No working to show. -/
def Working.none : Working :=
  ⟨"", ""⟩

/-- The value of an expression, and how it came about. -/
def evaluateWithWorking (text : String) : Except EvalError (Float × Working) := do
  let tokens ← tokenize text
  let ordered ← toPostfix tokens
  let value ← evalPostfix ordered
  return (value, ⟨Token.line tokens, Token.line ordered⟩)

/-- The working does not change the value. -/
theorem evaluateWithWorking_fst (text : String) :
    (evaluateWithWorking text).map Prod.fst = evaluate text := by
  unfold evaluateWithWorking evaluate
  cases tokenize text with
  | error e => rfl
  | ok tokens =>
    show Except.map Prod.fst (toPostfix tokens >>= _) = (toPostfix tokens >>= _)
    cases toPostfix tokens with
    | error e => rfl
    | ok ordered =>
      show Except.map Prod.fst (evalPostfix ordered >>= _) = evalPostfix ordered
      cases evalPostfix ordered <;> rfl

end Calculator
