import Calculator.Number.Decimal
import Calculator.Number.Signed

/-!
# The shortest decimal of a number

The text of a number among tokens is the decimal with the fewest digits that is read back as the
same number. Of several with as few digits the nearest to the exact value is taken, and of two
equally near the larger. The digits stand in place, however many zeros that takes: there is no
exponent, no decimals for a whole number, and zero keeps its sign.

The grid of decimals with `k` digits around a value has two neighbours of it, below and above
(`neighbours`). If any decimal of the grid reads back, one of these two does, so nothing but the two
has to be tried, for `k` from one on. Seventeen digits are always enough; `exactDecimal` closes
the search, so that it is total and its result reads back in any case.
-/

namespace Calculator.Number

-- powers are those of core, whatever other instances are in sight
attribute [local instance (high)] instPowNat

/-- A decimal number: `coefficient` units of ten to the power `exponent`. -/
structure Decimal where
  coefficient : Nat
  exponent : Int
  deriving DecidableEq, Repr

namespace Decimal

/-- The magnitude nearest to a decimal. -/
def magnitude (d : Decimal) : Nat :=
  nearest (d.coefficient * 10 ^ d.exponent.toNat) (10 ^ (-d.exponent).toNat)

/-- The digits of a decimal, in place. -/
def text (d : Decimal) : List Char :=
  decimalText (d.coefficient * 10 ^ d.exponent.toNat) (-d.exponent).toNat

end Decimal

/-- The least `k` with `x < 10 ^ k`, for a positive `x`. -/
def decimalLength (x : Nat) : Nat :=
  (Nat.toDigits 10 x).length

/-- The least power of ten above the magnitude `n`, as its exponent, for a positive `n`. -/
def decade (n : Nat) : Int :=
  let size := units n
  if unitsPerOne ≤ size then decimalLength (size / unitsPerOne)
  else 1 - (decimalLength ((unitsPerOne - 1) / size) : Int)

/-- The decimals next to the magnitude `n` with `k` digits, the preferred one first: the nearer,
    and of two equally near the larger. -/
def neighbours (n k : Nat) : Decimal × Decimal :=
  let exponent := decade n - k
  let num := units n * 10 ^ (-exponent).toNat
  let den := unitsPerOne * 10 ^ exponent.toNat
  let below : Decimal := ⟨num / den, exponent⟩
  let above : Decimal := ⟨num / den + 1, exponent⟩
  if 2 * (num % den) < den then (below, above) else (above, below)

/-- The decimals that the exact value of every magnitude fits in. -/
def exactPlaces : Nat := 1074

/-- The exact value of the magnitude `n`, as a decimal. -/
def exactDecimal (n : Nat) : Decimal :=
  ⟨units n * 5 ^ exactPlaces, -exactPlaces⟩

/-- A decimal with `k` digits that reads back as `n`, the preferred one if both do. -/
def withDigits? (n k : Nat) : Option Decimal :=
  let (first, second) := neighbours n k
  if first.magnitude = n then some first
  else if second.magnitude = n then some second
  else none

/-- The shortest decimal that reads back as the magnitude `n`. -/
def shortest (n : Nat) : Decimal :=
  ((List.range' 1 17).findSome? (withDigits? n)).getD (exactDecimal n)

/-- The text of a number with the fewest digits that identify it. -/
def plain (x : Float) : String :=
  match shape x with
  | .notANumber => "NaN"
  | .infinity negative => if negative then "-inf" else "inf"
  | .finite negative n =>
    String.ofList (signed negative (if n = 0 then ['0'] else (shortest n).text))

/-- What is chosen for a number of digits reads back. -/
theorem withDigits?_magnitude {n k : Nat} {d : Decimal} (h : withDigits? n k = some d) :
    d.magnitude = n := by
  simp only [withDigits?] at h
  split at h
  · rename_i hfirst
    exact Option.some.inj h ▸ hfirst
  · split at h
    · rename_i hsecond
      exact Option.some.inj h ▸ hsecond
    · exact absurd h (by simp)

end Calculator.Number
