import Calculator.Error
import Calculator.Number.Signed
import Calculator.Text.Lowercase

/-!
# Arithmetic

What the operators and functions compute, in double precision, and when they refuse. Only a
divisor of zero (of either sign) and an argument outside the domain of a root or a logarithm are
errors; everything else has a value, which may be an infinity or no number: `(-8) ^ 0.5` is the
latter, and so is not refused. Angles are in degrees.
-/

namespace Calculator

/-- One degree in radians, the double nearest to π / 180. -/
def degree : Float :=
  Float.ofBits 0x3f91df46a2529d39

/-- The value of an operator on a left and a right operand. -/
def Operator.apply : Operator → Float → Float → Except EvalError Float
  | .add, a, b => .ok (a + b)
  | .sub, a, b => .ok (a - b)
  | .mul, a, b => .ok (a * b)
  | .div, a, b => if b == Number.zero then .error .divisionByZero else .ok (a / b)
  | .pow, a, b => .ok (a.pow b)

/-- The value of a function. -/
def Func.apply : Func → Float → Except EvalError Float
  | .sin, x => .ok (x * degree).sin
  | .cos, x => .ok (x * degree).cos
  | .tan, x => .ok (x * degree).tan
  | .sqrt, x =>
    if x < Number.zero then .error (.outsideDomain .sqrt .nonNegative) else .ok x.sqrt
  | .log, x =>
    if x ≤ Number.zero then .error (.outsideDomain .log .positive) else .ok x.log10
  | .ln, x =>
    if x ≤ Number.zero then .error (.outsideDomain .ln .positive) else .ok x.log

/-- An operator given by its sign. -/
def applySymbol (symbol : Char) (a b : Float) : Except EvalError Float :=
  match Operator.ofSymbol? symbol with
  | some o => o.apply a b
  | none => .error (.unsupportedToken (String.singleton symbol))

/-- A function given by its name in any letter case. -/
def applyNamed (name : String) (x : Float) : Except EvalError Float :=
  match Func.ofName? (Text.lowercase name) with
  | some f => f.apply x
  | none => .error (.unsupportedToken name)

/-- By its own sign an operator computes what it computes. -/
theorem applySymbol_symbol (o : Operator) : applySymbol o.symbol = o.apply := by
  funext a b
  rw [applySymbol, Operator.ofSymbol?_symbol]

/-- By its own name a function computes what it computes. -/
theorem applyNamed_name (f : Func) : applyNamed f.name = f.apply := by
  have hname : Text.lowercase f.name = f.name := by
    cases f <;> decide +kernel
  funext x
  rw [applyNamed, hname, Func.ofName?_name]

end Calculator
