import Calculator.Number.Literal

/-!
# Operands on the command line

An operand given on the command line is written more freely than a literal of an expression: a
sign of either kind, a literal, and an exponent of ten if wanted (`-2.5e-3`); or, in any letter
case, `inf`, `infinity` or `nan` after the sign. Spaces and anything else are refused. It is read
as the number nearest to the decimal written, except that an exponent is taken in only until it
reaches 2¹⁶: its digits after that are checked, and count for nothing. An operand with so large an
exponent is zero or infinite all the same, unless the literal has tens of thousands of digits.
-/

namespace Calculator.Number

-- powers are those of core, whatever other instances are in sight
attribute [local instance (high)] instPowNat

/-- The sign in front of an operand, and what follows it. -/
def splitSign : List Char → Bool × List Char
  | '-' :: rest => (true, rest)
  | '+' :: rest => (false, rest)
  | text => (false, text)

/-- The size of an exponent that has these digits: they are taken in one by one until the size
    reaches 2¹⁶, and those that are left change it no more. -/
def exponentSize (digits : List Char) : Nat :=
  digits.foldl
    (fun size c => if size < 2 ^ (16 : Nat) then 10 * size + (c.toNat - '0'.toNat) else size) 0

/-- Digits after an exponent that has reached 2¹⁶ count for nothing. -/
theorem exponentSize_append {digits : List Char} (h : 2 ^ (16 : Nat) ≤ exponentSize digits)
    (more : List Char) : exponentSize (digits ++ more) = exponentSize digits := by
  unfold exponentSize at h ⊢
  rw [List.foldl_append]
  induction more with
  | nil => rfl
  | cons c more ih => rw [List.foldl_cons, if_neg (by omega), ih]

/-- The exponent after the mark `e`: a sign if wanted, and digits only. -/
def exponent? (text : List Char) : Option Int :=
  let (negative, digits) := splitSign text
  if digits.isEmpty || !digits.all Char.isDigit then none
  else
    let size : Int := exponentSize digits
    some (if negative then -size else size)

/-- The magnitude nearest to `c * 10 ^ e`. Every decimal of at least 10³¹⁰ is infinite and every one
    below 10⁻³³⁰ is nothing. Both are told by the binary length of `c`, since 10³ < 2¹⁰ and 2³ < 10,
    so no power of ten is computed that is much longer than `c`. -/
def scaled (c : Nat) (e : Int) : Nat :=
  if c = 0 then 0
  else if 310 < (3 * c.log2 / 10 : Nat) + e then infinite
  else if (c.log2 / 3 + 1 : Nat) + e < -330 then 0
  else nearest (c * 10 ^ e.toNat) (10 ^ (-e).toNat)

/-- The magnitude of a literal with an exponent. -/
def scientific? (text : List Char) : Option Nat :=
  let run := text.takeWhile isNumeral
  if !wellFormed run then none
  else match text.dropWhile isNumeral with
    | [] => some (scaled (coefficient run) (-(places run : Int)))
    | mark :: rest =>
      if mark == 'e' || mark == 'E' then
        (exponent? rest).map fun e => scaled (coefficient run) (e - places run)
      else none

/-- The number that an operand writes, if it is one. -/
def operand? (text : String) : Option Float :=
  let (negative, rest) := splitSign text.toList
  let word := String.ofList (rest.map Char.toLower)
  if word = "inf" || word = "infinity" then some (ofMagnitude negative infinite)
  else if word = "nan" then some (ofMagnitude negative (infinite + 1))
  else (scientific? rest).map (ofMagnitude negative)

end Calculator.Number
