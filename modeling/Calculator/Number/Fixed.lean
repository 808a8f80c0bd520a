import Calculator.Number.Decimal
import Calculator.Number.Signed

/-!
# A result on the display

A result is shown with at most `digits` decimals, and never more than `maxDigits`: the exact value
of the number is rounded to that many places, a tie going to the even digit, and the decimal is
written without superfluous zeros. A result that rounds to zero has no sign.
-/

namespace Calculator.Number

-- powers are those of core, whatever other instances are in sight
attribute [local instance (high)] instPowNat

/-- The decimals shown when nothing else is asked for. -/
def defaultDigits : Nat := 12

/-- The most decimals shown: beyond them a number has nothing more to tell. -/
def maxDigits : Nat := 17

/-- The magnitude `n` rounded to the given number of places, counted in units of the last place. -/
def rounded (places n : Nat) : Nat :=
  roundHalfEven (units n * 10 ^ places) unitsPerOne

/-- The text of a result, to at most `digits` decimals. -/
def display (digits : Nat) (x : Float) : String :=
  match shape x with
  | .notANumber => "NaN"
  | .infinity negative => if negative then "-inf" else "inf"
  | .finite negative n =>
    let places := min digits maxDigits
    let c := rounded places n
    String.ofList (signed (negative && c != 0) (decimalText c places))

/-- More decimals than `maxDigits` are not shown. -/
theorem display_min (digits : Nat) (x : Float) :
    display (min digits maxDigits) x = display digits x := by
  unfold display
  rw [Nat.min_assoc, Nat.min_self]

end Calculator.Number
