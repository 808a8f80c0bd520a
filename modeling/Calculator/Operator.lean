/-!
# Operators and functions

The five binary operators and the six functions of an expression, with the signs and names they
are written by, and the two facts that decide what an operator takes: how strongly it binds
(`^` over `*` and `/` over `+` and `-`), and whether a row of it groups to the right (only `^`).
-/

namespace Calculator

/-- The binary operators. -/
inductive Operator where
  | add
  | sub
  | mul
  | div
  | pow
  deriving DecidableEq, Repr

namespace Operator

/-- The sign an operator is written by. -/
def symbol : Operator → Char
  | add => '+'
  | sub => '-'
  | mul => '*'
  | div => '/'
  | pow => '^'

/-- All operators. -/
def all : List Operator :=
  [add, sub, mul, div, pow]

/-- The operator that a character writes. -/
def ofSymbol? (c : Char) : Option Operator :=
  all.find? (·.symbol == c)

/-- How strongly an operator binds. -/
def precedence : Operator → Nat
  | add | sub => 1
  | mul | div => 2
  | pow => 3

/-- A row of the operator groups to the right. -/
def groupsRight : Operator → Bool
  | pow => true
  | _ => false

/-- An operator is read from its own sign. -/
theorem ofSymbol?_symbol (o : Operator) : ofSymbol? o.symbol = some o := by
  cases o <;> rfl

/-- A character writes an operator only if it is its sign. -/
theorem symbol_of_ofSymbol? {c : Char} {o : Operator} (h : ofSymbol? c = some o) :
    o.symbol = c := by
  have := List.find?_some h
  simpa using this

end Operator

/-- The functions of one argument. `log` is the decimal logarithm, `ln` the natural one. -/
inductive Func where
  | sqrt
  | sin
  | cos
  | tan
  | log
  | ln
  deriving DecidableEq, Repr

namespace Func

/-- The name a function is written by. -/
def name : Func → String
  | sqrt => "sqrt"
  | sin => "sin"
  | cos => "cos"
  | tan => "tan"
  | log => "log"
  | ln => "ln"

/-- All functions. -/
def all : List Func :=
  [sqrt, sin, cos, tan, log, ln]

/-- The function of that name, written in small letters. -/
def ofName? (text : String) : Option Func :=
  all.find? (·.name == text)

/-- A function is found by its own name. -/
theorem ofName?_name (f : Func) : ofName? f.name = some f := by
  cases f <;> rfl

/-- A text names a function only if it is its name. -/
theorem name_of_ofName? {text : String} {f : Func} (h : ofName? text = some f) :
    f.name = text := by
  have := List.find?_some h
  simpa using this

end Func

end Calculator
