import Calculator.Number.Rounding

/-!
# The grid of double precision magnitudes

A finite number is a sign and a magnitude. This file fixes the magnitudes: the natural numbers
`n < infinite`, in the order of size, `n` being the 63 bits of the number below its sign. The
magnitude `n` stands for `units n` times 2⁻¹⁰⁷⁴, the least positive one, so that every size and
every distance is a natural number and no rounding happens anywhere but in `nearest`.

* `units` is the size of a magnitude: `fractionSpan` steps of one unit, then runs of
  `fractionSpan` steps (the binades), each step twice as long as in the run before;
* `units_grid`: the same said from the side of the size, `m` steps of 2 ^ s units;
* `nearest num den` is the magnitude nearest to the quotient `num / den`, an even pattern of two
  equally near, and `infinite` from halfway between the largest magnitude and 2¹⁰²⁴ on.

The grid goes on evenly into `infinite`, whose size reads as 2¹⁰²⁴: a quotient overflows exactly
when it rounds to that point.
-/

namespace Calculator.Number

-- powers are those of core, whatever other instances are in sight
attribute [local instance (high)] instPowNat

/-! ## 1. Sizes -/

/-- The steps in one binade, 2⁵². -/
def fractionSpan : Nat := 2 ^ (52 : Nat)

/-- The units that make one, 2¹⁰⁷⁴. It is not unfolded, lest a comparison of terms
    evaluate the power. -/
@[irreducible] def unitsPerOne : Nat := 2 ^ (1074 : Nat)

/-- The pattern of infinity, one step above the largest finite magnitude. -/
def infinite : Nat := 2047 * fractionSpan

/-- The size of the magnitude `n`, in units of 2⁻¹⁰⁷⁴. -/
def units (n : Nat) : Nat :=
  if n < fractionSpan then n
  else (fractionSpan + n % fractionSpan) * 2 ^ (n / fractionSpan - 1)

/-- The grid, from the side of the size: the pattern `s * fractionSpan + m` is `m` steps of
    2 ^ s units, where `m` is a count of steps that the binade of this step length holds (or its
    upper end). -/
theorem units_grid (s m : Nat) (hlow : s = 0 ∨ fractionSpan ≤ m) (hhigh : m ≤ 2 * fractionSpan) :
    units (s * fractionSpan + m) = m * 2 ^ s := by
  unfold units
  unfold fractionSpan at *
  split
  · have : s = 0 := by omega
    subst this
    simp
  · by_cases htop : m = 2 * 2 ^ (52 : Nat)
    · have hdiv : (s * 2 ^ (52 : Nat) + m) / 2 ^ (52 : Nat) = s + 2 := by omega
      have hmod : (s * 2 ^ (52 : Nat) + m) % 2 ^ (52 : Nat) = 0 := by omega
      have hstep : 2 ^ (s + 2 - 1) = 2 ^ s * 2 := rfl
      rw [hdiv, hmod, htop, hstep, Nat.add_zero]
      ac_rfl
    · have hdiv : (s * 2 ^ (52 : Nat) + m) / 2 ^ (52 : Nat) = s + 1 := by omega
      have hmod : 2 ^ (52 : Nat) + (s * 2 ^ (52 : Nat) + m) % 2 ^ (52 : Nat) = m := by omega
      rw [hdiv, hmod]
      simp

/-! ## 2. The nearest magnitude -/

/-- How many binades above the lowest the size `x` lies: the least `s` for which fewer than
    2 ^ 53 steps of 2 ^ s units reach beyond `x`. -/
def binade (x : Nat) : Nat :=
  Nat.log2 x - 52

/-- The magnitude nearest to `num / den`, a tie going to the even pattern. -/
def nearest (num den : Nat) : Nat :=
  let s := binade (num * unitsPerOne / den)
  min (s * fractionSpan + roundHalfEven (num * unitsPerOne) (den * 2 ^ s)) infinite

/-- No quotient is read as a pattern beyond infinity. -/
theorem nearest_le_infinite (num den : Nat) : nearest num den ≤ infinite :=
  Nat.min_le_right _ _

/-- Nothing rounds to nothing. -/
theorem nearest_zero (den : Nat) : nearest 0 den = 0 := by
  simp [nearest, binade, roundHalfEven]

end Calculator.Number
