/-!
# Decimal text

The text of the exact decimal `c / 10 ^ places`: an integer part without a superfluous zero in
front, and, only if the decimal is not whole, a point and the decimals up to the last one that
is not zero. There is one such text for each value, whatever `places` it is written with; both
ways in which this library writes numbers end here.
-/

namespace Calculator.Number

-- powers are those of core, whatever other instances are in sight
attribute [local instance (high)] instPowNat

/-- The digits without the zeros they end in. -/
def trimZeros (digits : List Char) : List Char :=
  (digits.reverse.dropWhile (· == '0')).reverse

/-- The text of `c / 10 ^ places`. -/
def decimalText (c places : Nat) : List Char :=
  let whole := Nat.toDigits 10 (c / 10 ^ places)
  let fraction := trimZeros (List.leftpad places '0' (Nat.toDigits 10 (c % 10 ^ places)))
  if fraction.isEmpty then whole else whole ++ '.' :: fraction

/-- A text with its sign. -/
def signed (negative : Bool) (text : List Char) : List Char :=
  if negative then '-' :: text else text

end Calculator.Number
