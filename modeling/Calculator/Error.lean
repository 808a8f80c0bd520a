import Calculator.Operator

/-!
# What can go wrong

One type for all the ways in which a calculation fails, from the characters of an expression to
the operands of an operation. Each cause carries what its message tells and nothing else. `code`
is the stable name of the kind of failure, `message` the sentence for the user.
-/

namespace Calculator

/-- What a function asks of its argument. -/
inductive Requirement where
  | nonNegative
  | positive
  deriving DecidableEq, Repr

/-- The requirement in words. -/
def Requirement.text : Requirement → String
  | nonNegative => "requires non-negative value"
  | positive => "requires positive value"

/-- The reasons for which there is no result. -/
inductive EvalError where
  | unsupportedCharacter (c : Char)
  | invalidNumber (literal : String)
  | mismatchedParentheses
  | unsupportedToken (text : String)
  | invalidExpression
  | invalidFunctionUsage
  | divisionByZero
  | outsideDomain (f : Func) (need : Requirement)
  | unsupportedOperation (name : String)
  | missingOperand
  deriving DecidableEq, Repr

namespace EvalError

/-- The name of the kind of error. -/
def code : EvalError → String
  | unsupportedCharacter _ => "unsupported_character"
  | invalidNumber _ => "invalid_number"
  | mismatchedParentheses => "mismatched_parentheses"
  | unsupportedToken _ => "unsupported_token"
  | invalidExpression => "invalid_expression"
  | invalidFunctionUsage => "invalid_function_usage"
  | divisionByZero => "division_by_zero"
  | outsideDomain _ _ => "domain_error"
  | unsupportedOperation _ => "unsupported_operation"
  | missingOperand => "missing_operand"

/-- The error as the user reads it. -/
def message : EvalError → String
  | unsupportedCharacter c => "caractère non supporté: '" ++ String.singleton c ++ "'"
  | invalidNumber literal => "nombre invalide: " ++ literal
  | mismatchedParentheses => "parenthèses non appariées"
  | unsupportedToken text => "jeton non supporté: " ++ text
  | invalidExpression => "expression invalide"
  | invalidFunctionUsage => "usage de fonction invalide"
  | divisionByZero => "division par zéro"
  | outsideDomain f need => f.name ++ ": " ++ need.text
  | unsupportedOperation name => "opération non supportée: " ++ name
  | missingOperand => "l’opération requiert b"

end EvalError

end Calculator
