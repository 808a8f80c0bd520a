import Calculator.Number.Shortest
import Calculator.Operator

/-!
# Tokens

The units of an expression, as the lexer finds them and as the postfix machine works on them. A
name is any run of letters, in small letters; whether it names a function is asked only when the
tokens are put in postfix order, where it gives way to the function itself.
-/

namespace Calculator

/-- A unit of an expression. -/
inductive Token where
  | number (value : Float)
  | operator (o : Operator)
  | name (text : String)
  | function (f : Func)
  | openParen
  | closeParen
  deriving DecidableEq

namespace Token

/-- A token as it is shown. -/
def text : Token → String
  | number value => Number.plain value
  | operator o => String.singleton o.symbol
  | name text => text
  | function f => f.name
  | openParen => "("
  | closeParen => ")"

/-- Tokens as they are shown, a space between two of them. -/
def line (tokens : List Token) : String :=
  " ".intercalate (tokens.map text)

end Token

end Calculator
