import Calculator.Number.Signed

/-!
# Numeric literals

A literal is a run of digits and dots. It is well formed if it has a digit and at most one dot
(`5.` and `.5` are, `.` is not), and it is read as the number nearest to the decimal it writes: no
digit is ignored, however many there are, and a decimal beyond the largest number is read as
infinity.
-/

namespace Calculator.Number

-- powers are those of core, whatever other instances are in sight
attribute [local instance (high)] instPowNat

/-- The characters of a literal: an ASCII digit or the decimal point. -/
def isNumeral (c : Char) : Bool :=
  c.isDigit || c == '.'

/-- A digit is there, and not more than one point. -/
def wellFormed (run : List Char) : Bool :=
  run.any Char.isDigit && run.count '.' ≤ 1

/-- The digits of a literal, read as one whole number. -/
def coefficient (run : List Char) : Nat :=
  Nat.ofDigitChars 10 (run.filter Char.isDigit) 0

/-- The number of digits after the point. -/
def places (run : List Char) : Nat :=
  (run.dropWhile (· != '.')).length - 1

/-- The number nearest to the decimal that the literal writes, with the sign given. -/
def read? (negative : Bool) (run : List Char) : Option Float :=
  if wellFormed run then
    some (ofMagnitude negative (nearest (coefficient run) (10 ^ places run)))
  else
    none

/-- Exactly the well-formed literals are read. -/
theorem read?_isSome (negative : Bool) (run : List Char) :
    (read? negative run).isSome = wellFormed run := by
  unfold read?
  split <;> simp_all

end Calculator.Number
