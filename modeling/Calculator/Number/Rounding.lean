/-!
# Rounding a quotient to a whole number

Every rounding of this library, of a decimal literal to a number and of a number to decimals, is
the rounding of one exact quotient `num / den` of naturals. This file fixes it: the nearest whole
number, and of two equally near ones the even one.

* `roundHalfEven_le`, `le_roundHalfEven`: the result is within half a unit of the quotient;
* `roundHalfEven_mul`: a quotient that is whole is left alone;
* `roundHalfEven_even_of_half`: a quotient halfway between two whole numbers goes to the even one.
-/

namespace Calculator.Number

/-- The whole number nearest to `num / den`, the even one of two equally near. -/
def roundHalfEven (num den : Nat) : Nat :=
  let down := num / den
  let excess := 2 * (num % den)
  if excess < den then down
  else if den < excess then down + 1
  else if down % 2 = 0 then down
  else down + 1

/-- The result exceeds the quotient by half a unit at most. -/
theorem roundHalfEven_le (num den : Nat) :
    2 * (den * roundHalfEven num den) ≤ 2 * num + den := by
  have hsum := Nat.div_add_mod num den
  unfold roundHalfEven
  dsimp only
  split
  · omega
  · split
    · rw [Nat.mul_add]; omega
    · split
      · omega
      · rw [Nat.mul_add]; omega

/-- The quotient exceeds the result by half a unit at most. -/
theorem le_roundHalfEven (num den : Nat) (hden : 0 < den) :
    2 * num ≤ 2 * (den * roundHalfEven num den) + den := by
  have hsum := Nat.div_add_mod num den
  have hrest := Nat.mod_lt num hden
  unfold roundHalfEven
  dsimp only
  split
  · omega
  · split
    · rw [Nat.mul_add]; omega
    · split
      · omega
      · rw [Nat.mul_add]; omega

/-- A whole quotient is its own rounding. -/
theorem roundHalfEven_mul (q den : Nat) (hden : 0 < den) :
    roundHalfEven (q * den) den = q := by
  unfold roundHalfEven
  simp [Nat.mul_div_cancel _ hden, hden]

/-- Halfway between two whole numbers the even one is taken. -/
theorem roundHalfEven_even_of_half (num den : Nat) (hhalf : 2 * (num % den) = den) :
    roundHalfEven num den % 2 = 0 := by
  unfold roundHalfEven
  dsimp only
  rw [if_neg (by omega), if_neg (by omega)]
  split <;> omega

end Calculator.Number
