import Calculator.Number.Magnitude
import Mathlib

/-!
# The nearest magnitude

A quotient is rounded within one binade, on a grid of even steps. That the result is the nearest of
all magnitudes, infinity included (`dist_nearest_le`), has two parts: on its own grid rounding to
the nearest is rounding of the count of steps (`dist_roundHalfEven_le`), and the magnitudes that are
not on this grid lie below it, farther from the quotient than its lower end (`dvd_units_or_lt`).

From this follows what reading a decimal back needs: a quotient that is the size of a magnitude is
read as this magnitude (`nearest_of_units`), and how the quotient is written does not matter
(`nearest_congr`).
-/

namespace Calculator.Number

-- powers are those of core, whatever other instances are in sight
attribute [local instance (high)] instPowNat

/-! ## 1. Rounding to a whole number -/

/-- Multiples are a whole unit apart. -/
theorem mul_add_le_of_lt (den : Nat) {m r : Nat} (h : m < r) : den * m + den ≤ den * r :=
  Nat.mul_succ den m ▸ Nat.mul_le_mul_left den h

/-- A quotient is rounded to no more than a whole number that it does not exceed. -/
theorem roundHalfEven_le_of_le {num den m : Nat} (hden : 0 < den) (h : num ≤ den * m) :
    roundHalfEven num den ≤ m := by
  have hle := roundHalfEven_le num den
  refine Nat.le_of_not_lt fun hlt => ?_
  have hstep := mul_add_le_of_lt den hlt
  omega

/-- A quotient is rounded to no less than a whole number that it reaches. -/
theorem le_roundHalfEven_of_le {num den m : Nat} (hden : 0 < den) (h : den * m ≤ num) :
    m ≤ roundHalfEven num den := by
  have hge := le_roundHalfEven num den hden
  refine Nat.le_of_not_lt fun hlt => ?_
  have hstep := mul_add_le_of_lt den hlt
  omega

/-- No whole number is nearer to the quotient than its rounding. -/
theorem dist_roundHalfEven_le (num m : Nat) {den : Nat} (hden : 0 < den) :
    Nat.dist (den * roundHalfEven num den) num ≤ Nat.dist (den * m) num := by
  have hle := roundHalfEven_le num den
  have hge := le_roundHalfEven num den hden
  generalize roundHalfEven num den = r at hle hge ⊢
  unfold Nat.dist
  rcases Nat.lt_trichotomy m r with h | rfl | h
  · have hstep := mul_add_le_of_lt den h
    omega
  · exact Nat.le_refl _
  · have hstep := mul_add_le_of_lt den h
    omega

/-- The rounding of a quotient is the whole number within half a unit of it, the even one if there
    are two. -/
theorem roundHalfEven_eq_of_dist {num den c : Nat} (hden : 0 < den)
    (hdist : 2 * Nat.dist (den * c) num ≤ den)
    (heven : 2 * Nat.dist (den * c) num = den → c % 2 = 0) : roundHalfEven num den = c := by
  have hsum := Nat.div_add_mod num den
  have hrest := Nat.mod_lt num hden
  unfold roundHalfEven
  dsimp only
  generalize num / den = q at hsum ⊢
  generalize num % den = rest at hsum hrest ⊢
  unfold Nat.dist at hdist heven
  have hcases : c < q ∨ c = q ∨ c = q + 1 ∨ q + 1 < c := by
    omega
  rcases hcases with h | rfl | rfl | h
  · have hstep := mul_add_le_of_lt den h
    omega
  · split_ifs <;> omega
  · rw [Nat.mul_succ] at hdist heven
    split_ifs <;> omega
  · have hstep := mul_add_le_of_lt den h
    rw [Nat.mul_succ] at hstep
    omega

/-- Half a unit away from its rounding a quotient is halfway between two whole numbers. -/
theorem half_of_dist {num den : Nat} (hden : 0 < den)
    (h : 2 * Nat.dist (den * roundHalfEven num den) num = den) : 2 * (num % den) = den := by
  have hsum := Nat.div_add_mod num den
  have hrest := Nat.mod_lt num hden
  unfold roundHalfEven Nat.dist at h
  dsimp only at h
  split_ifs at h
  · omega
  · rw [Nat.mul_succ] at h
    omega
  · omega
  · omega

/-- **What lies no farther from a rounded quotient than the quotient did is rounded to the same
    whole number**: a tie is met only where the first was one. -/
theorem roundHalfEven_of_dist_le {num num' den : Nat} (hden : 0 < den)
    (h : Nat.dist (den * roundHalfEven num den) num' ≤
      Nat.dist (den * roundHalfEven num den) num) :
    roundHalfEven num' den = roundHalfEven num den := by
  have hle := roundHalfEven_le num den
  have hge := le_roundHalfEven num den hden
  have hhalf : 2 * Nat.dist (den * roundHalfEven num den) num ≤ den := by
    unfold Nat.dist
    omega
  refine roundHalfEven_eq_of_dist hden (by omega) fun htie => ?_
  exact roundHalfEven_even_of_half num den (half_of_dist hden (by omega))

/-- How a quotient is written does not matter to its rounding. -/
theorem roundHalfEven_mul_mul (num den : Nat) {k : Nat} (hk : 0 < k) :
    roundHalfEven (num * k) (den * k) = roundHalfEven num den := by
  unfold roundHalfEven
  simp only [Nat.mul_div_mul_right _ _ hk, Nat.mul_mod_mul_right, ← Nat.mul_assoc,
    Nat.mul_lt_mul_right hk]

/-! ## 2. Sizes -/

theorem unitsPerOne_pos : 0 < unitsPerOne := by
  unfold unitsPerOne
  exact Nat.two_pow_pos 1074

/-- Every magnitude is a count of steps in its binade. -/
theorem exists_grid (n : Nat) :
    ∃ s m, n = s * fractionSpan + m ∧ (s = 0 ∨ fractionSpan ≤ m) ∧ m < 2 * fractionSpan := by
  by_cases h : n < fractionSpan
  · exact ⟨0, n, by omega, .inl rfl, by omega⟩
  · have hspan : 0 < fractionSpan := by
      decide
    have hsum := Nat.div_add_mod n fractionSpan
    have hrest := Nat.mod_lt n hspan
    have hbinade : 0 < n / fractionSpan := Nat.div_pos (by omega) hspan
    refine ⟨n / fractionSpan - 1, fractionSpan + n % fractionSpan, ?_, .inr (by omega), by omega⟩
    obtain ⟨s, hs⟩ := Nat.exists_eq_succ_of_ne_zero (Nat.ne_of_gt hbinade)
    rw [hs] at hsum ⊢
    rw [Nat.succ_eq_add_one, Nat.mul_succ, Nat.mul_comm] at hsum
    rw [Nat.succ_eq_add_one, Nat.add_sub_cancel]
    omega

theorem units_lt_units_succ (n : Nat) : units n < units (n + 1) := by
  obtain ⟨s, m, rfl, hlow, hhigh⟩ := exists_grid n
  rw [Nat.add_assoc, units_grid s m hlow (Nat.le_of_lt hhigh),
    units_grid s (m + 1) (hlow.imp_right Nat.le_succ_of_le) hhigh]
  exact Nat.mul_lt_mul_of_pos_right (Nat.lt_succ_self m) (Nat.two_pow_pos s)

/-- Greater magnitudes have greater sizes. -/
theorem strictMono_units : StrictMono units :=
  strictMono_nat_of_lt_succ units_lt_units_succ

/-- Every size is on the grid of a binade, or below the binade. -/
theorem dvd_units_or_lt (n s : Nat) : 2 ^ s ∣ units n ∨ units n < fractionSpan * 2 ^ s := by
  obtain ⟨s', m, rfl, hlow, hhigh⟩ := exists_grid n
  rw [units_grid s' m hlow (Nat.le_of_lt hhigh)]
  rcases Nat.lt_or_ge s' s with h | h
  · right
    calc m * 2 ^ s' < 2 * fractionSpan * 2 ^ s' :=
          Nat.mul_lt_mul_of_pos_right hhigh (Nat.two_pow_pos s')
      _ = fractionSpan * 2 ^ (s' + 1) := by
          rw [Nat.pow_succ]
          ac_rfl
      _ ≤ fractionSpan * 2 ^ s :=
          Nat.mul_le_mul_left _ (Nat.pow_le_pow_right (by decide) h)
  · exact .inl ((Nat.pow_dvd_pow 2 h).mul_left m)

/-! ## 3. The nearest magnitude -/

/-- A size lies within its binade. -/
theorem binade_bounds (x : Nat) :
    x < 2 * fractionSpan * 2 ^ binade x ∧
      (binade x = 0 ∨ fractionSpan * 2 ^ binade x ≤ x) := by
  have hspan : ∀ s, fractionSpan * 2 ^ s = 2 ^ (s + 52) := fun s => by
    rw [fractionSpan, ← Nat.pow_add, Nat.add_comm]
  rw [Nat.mul_assoc, hspan, ← Nat.pow_succ']
  unfold binade
  constructor
  · calc x < 2 ^ (x.log2 + 1) := Nat.lt_log2_self
      _ ≤ 2 ^ (x.log2 - 52 + 52 + 1) := Nat.pow_le_pow_right (by decide) (by omega)
  · by_cases hlog : x.log2 ≤ 52
    · exact .inl (by omega)
    · have hx : x ≠ 0 := by
        rintro rfl
        exact hlog (by decide)
      right
      rw [Nat.sub_add_cancel (by omega)]
      exact Nat.log2_self_le hx

/-- The magnitude a quotient is rounded to before overflow is looked at. -/
def nearestOnGrid (num den : Nat) : Nat :=
  let s := binade (num * unitsPerOne / den)
  s * fractionSpan + roundHalfEven (num * unitsPerOne) (den * 2 ^ s)

theorem nearest_eq_min (num den : Nat) : nearest num den = min (nearestOnGrid num den) infinite :=
  rfl

variable {num den : Nat}

/-- A quotient lies within the binade whose steps it is rounded to. -/
theorem steps_bounds (size : Nat) (hden : 0 < den) :
    size ≤ den * 2 ^ binade (size / den) * (2 * fractionSpan) ∧
      (binade (size / den) = 0 ∨ den * 2 ^ binade (size / den) * fractionSpan ≤ size) := by
  obtain ⟨hbelow, habove⟩ := binade_bounds (size / den)
  generalize binade (size / den) = s at hbelow habove ⊢
  constructor
  · rw [Nat.div_lt_iff_lt_mul hden] at hbelow
    calc size ≤ 2 * fractionSpan * 2 ^ s * den := Nat.le_of_lt hbelow
      _ = den * 2 ^ s * (2 * fractionSpan) := by ac_rfl
  · refine habove.imp_right fun h => ?_
    rw [Nat.le_div_iff_mul_le hden] at h
    calc den * 2 ^ s * fractionSpan = fractionSpan * 2 ^ s * den := by ac_rfl
      _ ≤ size := h

/-- Of all magnitudes, also those beyond infinity, this is the nearest. -/
theorem dist_nearestOnGrid_le (num : Nat) (hden : 0 < den) (n : Nat) :
    Nat.dist (den * units (nearestOnGrid num den)) (num * unitsPerOne) ≤
      Nat.dist (den * units n) (num * unitsPerOne) := by
  obtain ⟨hhigh, hlow⟩ := steps_bounds (num * unitsPerOne) hden
  unfold nearestOnGrid
  dsimp only
  generalize num * unitsPerOne = size at hhigh hlow ⊢
  generalize binade (size / den) = s at hhigh hlow ⊢
  have hstep : 0 < den * 2 ^ s := Nat.mul_pos hden (Nat.two_pow_pos s)
  have hnearest := fun m => dist_roundHalfEven_le size m hstep
  have hgrid : units (s * fractionSpan + roundHalfEven size (den * 2 ^ s)) =
      roundHalfEven size (den * 2 ^ s) * 2 ^ s :=
    units_grid s _ (hlow.imp_right (le_roundHalfEven_of_le hstep))
      (roundHalfEven_le_of_le hstep hhigh)
  have hassoc : ∀ m, den * (m * 2 ^ s) = den * 2 ^ s * m := fun m => by
    ac_rfl
  rw [hgrid, hassoc]
  rcases dvd_units_or_lt n s with ⟨m, hm⟩ | hbelow
  · rw [hm, ← Nat.mul_assoc]
    exact hnearest m
  · rcases hlow with rfl | hlow
    · rw [← Nat.mul_one (units n), ← Nat.pow_zero 2, hassoc]
      exact hnearest _
    -- the lower end of the binade lies between the other magnitude and the quotient
    · refine Nat.le_trans (hnearest fractionSpan) ?_
      have hother := Nat.mul_lt_mul_of_pos_left hbelow hden
      rw [hassoc] at hother
      unfold Nat.dist
      omega

/-- **No magnitude is nearer to a quotient than the one it is read as.** -/
theorem dist_nearest_le (num : Nat) (hden : 0 < den) {n : Nat} (hn : n ≤ infinite) :
    Nat.dist (den * units (nearest num den)) (num * unitsPerOne) ≤
      Nat.dist (den * units n) (num * unitsPerOne) := by
  rw [nearest_eq_min]
  rcases Nat.le_total (nearestOnGrid num den) infinite with h | h
  · rw [Nat.min_eq_left h]
    exact dist_nearestOnGrid_le num hden n
  · rw [Nat.min_eq_right h]
    have hinfinite := dist_nearestOnGrid_le num hden infinite
    have hbeyond := Nat.mul_le_mul_left den (strictMono_units.monotone h)
    have hbelow := Nat.mul_le_mul_left den (strictMono_units.monotone hn)
    rcases Nat.eq_or_lt_of_le hbeyond with heq | hlt
    · rw [heq]
      exact dist_nearestOnGrid_le num hden n
    · unfold Nat.dist at hinfinite ⊢
      omega

/-- **A quotient that is the size of a magnitude is read as this magnitude.** -/
theorem nearest_of_units (hden : 0 < den) {n : Nat} (hn : n ≤ infinite)
    (h : num * unitsPerOne = den * units n) : nearest num den = n := by
  have hdist := dist_nearest_le num hden hn
  rw [h, Nat.dist_self, Nat.le_zero] at hdist
  exact strictMono_units.injective
    (Nat.eq_of_mul_eq_mul_left hden (Nat.eq_of_dist_eq_zero hdist))

theorem nearest_mul_mul (num den : Nat) {k : Nat} (hk : 0 < k) :
    nearest (num * k) (den * k) = nearest num den := by
  have hsize : num * k * unitsPerOne = num * unitsPerOne * k := by
    ac_rfl
  have hstep : ∀ s, den * k * 2 ^ s = den * 2 ^ s * k := fun s => by
    ac_rfl
  unfold nearest
  dsimp only
  rw [hsize, Nat.mul_div_mul_right _ _ hk, hstep, roundHalfEven_mul_mul _ _ hk]

/-- **Equal quotients are read as the same magnitude**, however they are written. -/
theorem nearest_congr {num' den' : Nat} (hden : 0 < den) (hden' : 0 < den')
    (h : num * den' = num' * den) : nearest num den = nearest num' den' := by
  rw [← nearest_mul_mul num den hden', h, Nat.mul_comm den, nearest_mul_mul num' den' hden]

end Calculator.Number
