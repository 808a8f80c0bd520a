import Calculator.Arithmetic
import Calculator.Text.Blank
import Calculator.Text.Lowercase

/-!
# Direct operations

An operation applied to one or two numbers, without an expression around it. Each is one of the
operators or functions of expressions under a name of its own, so it computes and refuses exactly
as they do. A name is taken in any letter case and with blanks around it.
-/

namespace Calculator

/-- The direct operations. -/
inductive Operation where
  | add
  | subtract
  | multiply
  | divide
  | power
  | sqrt
  | sin
  | cos
  | tan
  | log10
  | ln
  deriving DecidableEq, Repr

namespace Operation

/-- The name of an operation. -/
def name : Operation → String
  | add => "add"
  | subtract => "subtract"
  | multiply => "multiply"
  | divide => "divide"
  | power => "power"
  | sqrt => "sqrt"
  | sin => "sin"
  | cos => "cos"
  | tan => "tan"
  | log10 => "log10"
  | ln => "ln"

/-- All operations, in the order in which they are offered. -/
def all : List Operation :=
  [add, subtract, multiply, divide, power, sqrt, sin, cos, tan, log10, ln]

/-- What an operation does to its operands. -/
def action : Operation → Operator ⊕ Func
  | add => .inl .add
  | subtract => .inl .sub
  | multiply => .inl .mul
  | divide => .inl .div
  | power => .inl .pow
  | sqrt => .inr .sqrt
  | sin => .inr .sin
  | cos => .inr .cos
  | tan => .inr .tan
  | log10 => .inr .log
  | ln => .inr .ln

/-- The operation takes two operands. -/
def isBinary (operation : Operation) : Bool :=
  operation.action.isLeft

/-- The operation of that name. -/
def ofName (text : String) : Except EvalError Operation :=
  let name := Text.lowercase (Text.trim text)
  match all.find? (·.name == name) with
  | some operation => .ok operation
  | none => .error (.unsupportedOperation name)

/-- The value of an operation, by the sign of its operator or the name of its function. The second
    operand is needed by the binary ones, and not looked at by the others. -/
def compute (operation : Operation) (a : Float) (b : Option Float) : Except EvalError Float :=
  match operation.action with
  | .inl o =>
    match b with
    | some b => applySymbol o.symbol a b
    | none => .error .missingOperand
  | .inr f => applyNamed f.name a

/-- Every operation is offered. -/
theorem mem_all (operation : Operation) : operation ∈ all := by
  cases operation <;> decide

end Operation

/-- The value of the operation of that name. -/
def computeNamed (name : String) (a : Float) (b : Option Float) : Except EvalError Float := do
  (← Operation.ofName name).compute a b

end Calculator
