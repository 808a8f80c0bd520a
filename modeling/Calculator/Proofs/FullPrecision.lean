import Calculator.Proofs.ExactValue
import Calculator.Proofs.Retyping

/-!
# What seventeen decimals tell

With all its decimals shown a result is typed again as the number it was, if it is not too small.
The text is no farther than half a unit of the last decimal from the number, and the number that is
read no farther from the text than that; so the two are within one such unit. But above a sixteenth
the numbers are at least 2⁻⁵⁶ apart, which is more (`le_dist_units`). The sixteenth itself has a
neighbour that is nearer, below it, but there the decimal is exact.

Larger numbers are farther apart, so no binade above has to be looked at. In the binade below, two
numbers can have one text.
-/

namespace Calculator.Number

-- powers are those of core, whatever other instances are in sight
attribute [local instance (high)] instPowNat

/-! ## 1. Numbers and decimals -/

section Decimals

variable {n den : ℕ}

/-- A magnitude is read from its decimal, if every other one is farther away than a unit of the
    last decimal. -/
theorem nearest_of_le_dist {step : ℕ} (hn : n ≤ infinite) (hden : 0 < den)
    (hfine : unitsPerOne < den * step)
    (hapart : ∀ m, m ≠ n → step ≤ Nat.dist (units m) (units n)) :
    nearest (roundHalfEven (units n * den) unitsPerOne) den = n := by
  have hle := roundHalfEven_le (units n * den) unitsPerOne
  have hge := le_roundHalfEven (units n * den) unitsPerOne unitsPerOne_pos
  have hnearer := dist_nearest_le (roundHalfEven (units n * den) unitsPerOne) hden hn
  by_contra hne
  -- the decimal is within half a unit of both, and they are farther apart than a whole one
  have hfar := Nat.mul_le_mul_left den (hapart _ hne)
  rw [← Nat.dist_mul_left] at hfar
  rw [Nat.mul_comm (units n), Nat.mul_comm unitsPerOne] at hle hge
  rw [Nat.mul_comm (units n)] at hnearer hfar
  unfold Nat.dist at hnearer hfar
  omega

/-- A magnitude is read from its decimal, if that is exact. -/
theorem nearest_of_exact {c : ℕ} (hn : n ≤ infinite) (hden : 0 < den)
    (hexact : units n * den = unitsPerOne * c) :
    nearest (roundHalfEven (units n * den) unitsPerOne) den = n := by
  have hc : roundHalfEven (unitsPerOne * c) unitsPerOne = c :=
    Nat.le_antisymm (roundHalfEven_le_of_le unitsPerOne_pos (Nat.le_refl _))
      (le_roundHalfEven_of_le unitsPerOne_pos (Nat.le_refl _))
  rw [hexact, hc]
  refine nearest_of_units hden hn ?_
  rw [Nat.mul_comm, ← hexact, Nat.mul_comm]

end Decimals

/-- **Above the lower end of a binade a magnitude is a step of the binade apart from all others**,
    from those below the binade too. -/
theorem le_dist_units {n s : ℕ} (h : fractionSpan * 2 ^ s < units n) {m : ℕ} (hm : m ≠ n) :
    2 ^ s ≤ Nat.dist (units m) (units n) := by
  have hn : 2 ^ s ∣ units n := (dvd_units_or_lt n s).resolve_right (Nat.not_lt.mpr h.le)
  rcases dvd_units_or_lt m s with hgrid | hbelow
  · have hne : units m ≠ units n := fun heq => hm (strictMono_units.injective heq)
    exact Nat.le_of_dvd (Nat.dist_pos_of_ne hne)
      (Nat.dvd_add (Nat.dvd_sub hgrid hn) (Nat.dvd_sub hn hgrid))
  · have hstep : 2 ^ s ≤ units n - fractionSpan * 2 ^ s :=
      Nat.le_of_dvd (Nat.sub_pos_of_lt h) (Nat.dvd_sub hn (Nat.dvd_mul_left _ _))
    unfold Nat.dist
    omega

/-- A sixteenth is the lower end of a binade. -/
theorem exists_unitsPerOne_eq : ∃ s, unitsPerOne = 16 * (fractionSpan * 2 ^ s) := by
  obtain ⟨k, hone, hk⟩ : ∃ k : ℕ, unitsPerOne = 2 ^ k ∧ 56 ≤ k := by
    unfold unitsPerOne
    exact ⟨_, rfl, by decide⟩
  obtain ⟨s, rfl⟩ := Nat.exists_eq_add_of_le hk
  have hspan : 2 ^ (56 : ℕ) = 16 * fractionSpan := rfl
  exact ⟨s, by rw [hone, Nat.pow_add, hspan, Nat.mul_assoc]⟩

/-- **From a sixteenth on, a magnitude is read from its seventeen decimals.** -/
theorem nearest_rounded_maxDigits {n : ℕ} (hn : n < infinite)
    (hsize : unitsPerOne ≤ 16 * units n) :
    nearest (rounded maxDigits n) (10 ^ maxDigits) = n := by
  obtain ⟨s, hone⟩ := exists_unitsPerOne_eq
  have hden : 0 < 10 ^ maxDigits := Nat.pow_pos (by decide)
  have hlow : fractionSpan * 2 ^ s ≤ units n := by
    omega
  rcases Nat.eq_or_lt_of_le hlow with hequal | habove
  · have hwhole : 10 ^ maxDigits = 16 * 6250000000000000 := rfl
    have hexact : units n * 10 ^ maxDigits = unitsPerOne * 6250000000000000 := by
      rw [← hequal, hwhole, hone]
      ac_rfl
    exact nearest_of_exact hn.le hden hexact
  · have hfine : 16 * fractionSpan < 10 ^ maxDigits := by
      decide
    refine nearest_of_le_dist hn.le hden ?_ fun m hm => le_dist_units habove hm
    calc unitsPerOne = 16 * fractionSpan * 2 ^ s := by rw [hone, Nat.mul_assoc]
      _ < 10 ^ maxDigits * 2 ^ s := Nat.mul_lt_mul_of_pos_right hfine (Nat.two_pow_pos s)

/-! ## 2. Numbers and texts -/

theorem abs_withSign (negative : Bool) (q : ℚ) : |withSign negative q| = |q| := by
  cases negative with
  | false => rfl
  | true => exact abs_neg q

/-- The size of a number, in units. -/
theorem le_units_of_le_abs {x : Float} {negative : Bool} {n : ℕ}
    (h : shape x = .finite negative n) (hsize : 1 / 16 ≤ |exactValue x|) :
    unitsPerOne ≤ 16 * units n := by
  have hone : (0 : ℚ) < unitsPerOne := by
    exact_mod_cast unitsPerOne_pos
  rw [exactValue_of_shape h, abs_withSign, abs_of_nonneg (by positivity),
    div_le_div_iff₀ (by norm_num) hone, one_mul, mul_comm] at hsize
  exact_mod_cast hsize

/-- **With seventeen decimals a number from a sixteenth on is typed again as itself**, its sign
    included. -/
theorem evaluate_display_maxDigits {x : Float} (hx : x.isFinite = true)
    (hsize : 1 / 16 ≤ |exactValue x|) {digits : ℕ} (hdigits : maxDigits ≤ digits) :
    evaluate (display digits x) = .ok x := by
  obtain ⟨negative, n, hshape⟩ := (exists_shape_iff x).mpr hx
  have hunits := le_units_of_le_abs hshape hsize
  have hread := nearest_rounded_maxDigits (magnitude_lt_infinite hshape) hunits
  have hne : rounded maxDigits n ≠ 0 := by
    intro hzero
    rw [hzero, nearest_zero] at hread
    rw [← hread] at hunits
    exact absurd hunits (Nat.not_le.mpr unitsPerOne_pos)
  rw [display_of_shape hshape, Nat.min_eq_right hdigits, bne_iff_ne.mpr hne, Bool.and_true,
    evaluate_literal, value_decimalLiteral, hread, ofMagnitude_of_shape hshape]

/-- **At full precision nothing is lost of numbers from a tenth on**: the text of such a number is
    typed again as the number itself, and so different numbers have different texts. -/
theorem display_lossless {digits : ℕ} (hdigits : maxDigits ≤ digits) :
    (∀ x : Float, x.isFinite = true → 1 / 10 ≤ |exactValue x| →
      evaluate (display digits x) = .ok x) ∧
    ∀ x y : Float, x.isFinite = true → y.isFinite = true →
      1 / 10 ≤ |exactValue x| → 1 / 10 ≤ |exactValue y| →
      display digits x = display digits y → x = y := by
  have hread : ∀ x : Float, x.isFinite = true → 1 / 10 ≤ |exactValue x| →
      evaluate (display digits x) = .ok x := by
    intro x hx hsize
    have hsixteenth : (1 / 16 : ℚ) ≤ 1 / 10 := by
      norm_num
    exact evaluate_display_maxDigits hx (hsixteenth.trans hsize) hdigits
  refine ⟨hread, fun x y hx hy hxsize hysize htext => ?_⟩
  have hboth := hread x hx hxsize
  rw [htext, hread y hy hysize] at hboth
  exact (Except.ok.inj hboth).symm

/-- The number nearest to minus a tenth, and its neighbour. -/
theorem display_lossless_tenth :
    let tenth := ofMagnitude true 0x3FB999999999999A
    let next := ofMagnitude true 0x3FB999999999999B
    maxDigits ≤ 20 ∧ tenth.isFinite = true ∧ next.isFinite = true ∧
      1 / 10 ≤ |exactValue tenth| ∧ 1 / 10 ≤ |exactValue next| ∧
      display 20 tenth = "-0.10000000000000001" ∧ evaluate "-0.10000000000000001" = .ok tenth ∧
      display 20 next ≠ "-0.10000000000000001" := by
  intro tenth next
  have hfinite : tenth.isFinite = true ∧ next.isFinite = true := by
    decide +kernel
  have hshape : shape tenth = .finite true 0x3FB999999999999A ∧
      shape next = .finite true 0x3FB999999999999B := by
    decide +kernel
  have hsize : 1 / 10 ≤ |exactValue tenth| := by
    rw [exactValue_of_shape hshape.1, units_div_unitsPerOne]
    norm_num [withSign, fieldValue, fractionSpan]
  have hsize' : 1 / 10 ≤ |exactValue next| := by
    rw [exactValue_of_shape hshape.2, units_div_unitsPerOne]
    norm_num [withSign, fieldValue, fractionSpan]
  have htext : display 20 tenth = "-0.10000000000000001" := by
    decide +kernel
  have hdigits : maxDigits ≤ 20 := by
    decide
  obtain ⟨hread, hsame⟩ := display_lossless hdigits
  refine ⟨hdigits, hfinite.1, hfinite.2, hsize, hsize', htext,
    htext ▸ hread tenth hfinite.1 hsize, fun hnext => ?_⟩
  have heq := hsame next tenth hfinite.2 hfinite.1 hsize' hsize (hnext.trans htext.symm)
  rw [heq, hshape.1] at hshape
  cases hshape.2

/-- Just below a sixteenth two numbers have one text. -/
example : display 17 (ofMagnitude false 0x3FAFFFFFFFFFFFFE) =
    display 17 (ofMagnitude false 0x3FAFFFFFFFFFFFFF) := by
  decide +kernel

end Calculator.Number
