import Calculator.Arithmetic
import Calculator.Token

/-!
# The value of a postfix list

The tokens are taken from left to right with a stack of operands: a number is put on it, a
function takes its argument from it, an operator its right operand and then its left one. What is
on the stack at the end has to be one value. A token that has no place in postfix order (a
parenthesis or a name) is an error where it is met.
-/

namespace Calculator

namespace Postfix

/-- The operands after one more token, the latest first. -/
def step (operands : List Float) : Token → Except EvalError (List Float)
  | .number value => .ok (value :: operands)
  | .operator o =>
    match operands with
    | b :: a :: rest => do return (← o.apply a b) :: rest
    | _ => .error .invalidExpression
  | .function f =>
    match operands with
    | x :: rest => do return (← f.apply x) :: rest
    | [] => .error .invalidFunctionUsage
  | token => .error (.unsupportedToken token.text)

/-- The one value left at the end. -/
def single : List Float → Except EvalError Float
  | [value] => .ok value
  | _ => .error .invalidExpression

/-- A list in two parts is computed part by part. -/
theorem foldlM_step_append (operands : List Float) (first second : List Token) :
    (first ++ second).foldlM step operands =
      (first.foldlM step operands >>= fun rest => second.foldlM step rest) :=
  List.foldlM_append

end Postfix

/-- The value of tokens in postfix order. -/
def evalPostfix (tokens : List Token) : Except EvalError Float := do
  Postfix.single (← tokens.foldlM Postfix.step [])

end Calculator
