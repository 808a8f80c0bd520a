import Calculator.Number.Fixed
import Calculator.Proofs.DecimalText
import Calculator.Proofs.Substitution

/-!
# Typing a displayed result again

The text of a result is rounded to the decimals shown, so it is read as another number in general.
Displayed with the same decimals this number gives the same text again (`evaluate_display`),
whatever the number and the decimals were. No case of binades or of steps wider than the decimals
has to be told apart: the number read is the one nearest to the decimal shown, so it is no farther
from it than the number that was displayed, and what is no farther is rounded to the same decimal
(`rounded_nearest`).
-/

namespace Calculator

namespace Number

-- powers are those of core, whatever other instances are in sight
attribute [local instance (high)] instPowNat

/-! ## 1. The decimal shown -/

/-- The last step of a binade. -/
theorem units_last_add (s : Nat) :
    units (s * fractionSpan + (2 * fractionSpan - 1)) + 2 ^ s =
      units (s * fractionSpan + 2 * fractionSpan) := by
  have hspan : 0 < fractionSpan := by
    decide
  rw [units_grid s _ (.inr (by omega)) (by omega),
    units_grid s _ (.inr (by omega)) (Nat.le_refl _), ← Nat.succ_mul, Nat.succ_eq_add_one,
    Nat.sub_add_cancel (by omega)]

theorem unitsPerOne_lt {s : Nat} (hs : 1074 < s) : unitsPerOne < 2 ^ s := by
  have hpow : ∀ k, k < s → 2 ^ k < 2 ^ s := fun _ => Nat.pow_lt_pow_right (by decide)
  unfold unitsPerOne
  exact hpow 1074 hs

/-- The last step before infinity is longer than one. -/
theorem units_add_lt_units_infinite {n : Nat} (hn : n < infinite) :
    units n + unitsPerOne < units infinite := by
  obtain ⟨s, hs, hinfinite⟩ :
      ∃ s, 1074 < s ∧ infinite = s * fractionSpan + 2 * fractionSpan := by
    refine ⟨2045, by decide, ?_⟩
    unfold infinite
    omega
  have hle : units n ≤ units (s * fractionSpan + (2 * fractionSpan - 1)) := by
    refine strictMono_units.monotone ?_
    omega
  rw [hinfinite, ← units_last_add]
  exact Nat.add_lt_add_of_le_of_lt hle (unitsPerOne_lt hs)

/-- **The number nearest to the decimal shown is shown as the same decimal**, and it is finite. -/
theorem rounded_nearest (places : Nat) {n : Nat} (hn : n < infinite) :
    rounded places (nearest (rounded places n) (10 ^ places)) = rounded places n ∧
      nearest (rounded places n) (10 ^ places) < infinite := by
  have hden : 0 < 10 ^ places := Nat.pow_pos (by decide)
  have hnearer := dist_nearest_le (rounded places n) hden (Nat.le_of_lt hn)
  have hle := roundHalfEven_le (units n * 10 ^ places) unitsPerOne
  have hge := le_roundHalfEven (units n * 10 ^ places) unitsPerOne unitsPerOne_pos
  have hsame : ∀ m, Nat.dist (10 ^ places * units m) (rounded places n * unitsPerOne) =
      Nat.dist (unitsPerOne * roundHalfEven (units n * 10 ^ places) unitsPerOne)
        (units m * 10 ^ places) := by
    intro m
    rw [Nat.dist_comm, Nat.mul_comm (10 ^ places), Nat.mul_comm _ unitsPerOne]
    rfl
  rw [hsame, hsame] at hnearer
  refine ⟨roundHalfEven_of_dist_le unitsPerOne_pos hnearer, ?_⟩
  refine Nat.lt_of_le_of_ne (nearest_le_infinite _ _) fun hinfinite => ?_
  -- otherwise infinity would be within one of a finite number
  rw [hinfinite] at hnearer
  have hone : unitsPerOne ≤ unitsPerOne * 10 ^ places := Nat.le_mul_of_pos_right _ hden
  have hgap := Nat.mul_lt_mul_of_pos_right (units_add_lt_units_infinite hn) hden
  rw [Nat.add_mul] at hgap
  unfold Nat.dist at hnearer
  omega

/-- What is shown of a finite number is a literal. -/
theorem display_of_shape {x : Float} {negative : Bool} {n : Nat}
    (h : shape x = .finite negative n) (digits : Nat) :
    display digits x = String.ofList (decimalLiteral
      (negative && rounded (min digits maxDigits) n != 0)
      (rounded (min digits maxDigits) n) (min digits maxDigits)).text := by
  unfold display
  rw [h]
  rfl

end Number

/-! ## 2. The text -/

open Number in
/-- **A result that is typed again is shown as it was**: the text displayed of a finite number has
    a value, and this value is displayed by the same text. -/
theorem evaluate_display {x : Float} (hx : x.isFinite = true) (digits : Nat) :
    ∃ y, evaluate (display digits x) = .ok y ∧ display digits y = display digits x := by
  obtain ⟨negative, n, hshape⟩ := (exists_shape_iff x).mpr hx
  have hn := magnitude_lt_infinite hshape
  obtain ⟨hrounded, hfinite⟩ := rounded_nearest (min digits maxDigits) hn
  have hdisplay := display_of_shape hshape digits
  generalize hc : rounded (min digits maxDigits) n = c at hrounded hfinite hdisplay
  let l := decimalLiteral (negative && c != 0) c (min digits maxDigits)
  refine ⟨l.value, hdisplay ▸ evaluate_literal l, ?_⟩
  have hvalue : shape l.value =
      .finite (negative && c != 0) (nearest c (10 ^ min digits maxDigits)) := by
    rw [value_decimalLiteral]
    exact shape_ofMagnitude _ hfinite
  rw [hdisplay, display_of_shape hvalue, hrounded, Bool.and_assoc, Bool.and_self]

/-- A third with four decimals: another number, and the same text. -/
theorem evaluate_display_third :
    let third := Number.ofMagnitude false 0x3FD5555555555555
    third.isFinite = true ∧ Number.display 4 third = "0.3333" ∧
      evaluate "0.3333" ≠ .ok third ∧
      ∃ y, evaluate "0.3333" = .ok y ∧ Number.display 4 y = "0.3333" := by
  intro third
  have hfinite : third.isFinite = true := by
    decide +kernel
  have htext : Number.display 4 third = "0.3333" := by
    decide +kernel
  have hagain := evaluate_display hfinite 4
  rw [htext] at hagain
  exact ⟨hfinite, htext, by decide +kernel, hagain⟩

end Calculator
