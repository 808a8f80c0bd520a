import Calculator.Number.Fixed
import Calculator.Proofs.Nearest
import Calculator.Proofs.Words

/-!
# Exact values

A finite number has an exact value, the rational that its word stands for, and a decimal with so
many places is a rational too. Here the arithmetic on natural numbers that the library rounds by is
said in rationals, where it does not depend on how a quotient is written:

* `exactValue_of_shape`: a number is its sign and so many units of 2⁻¹⁰⁷⁴;
* `nearestEven_eq_iff`: the whole number within a half of a rational, the even one of two;
* `roundedTo_exactValue`: so the magnitude `n` rounded to some places is its exact value rounded to
  as many.
-/

namespace Calculator.Number

-- powers are those of core, whatever other instances are in sight
attribute [local instance (high)] instPowNat

open Float.Model

/-! ## 1. The value of a word -/

/-- The exact value of a finite number: its mantissa, at the place that its exponent says. What is
    infinite or no number has none, and zero stands in for it. -/
def exactValue (x : Float) : ℚ :=
  match UnpackedFloat.unpack Format.binary64 x.toBits.toBitVec with
  | .finite sign mantissa exponent _ => (sign.apply mantissa : ℤ) * 2 ^ exponent
  | _ => 0

/-- A rational with a sign in front. -/
def withSign (negative : Bool) (q : ℚ) : ℚ :=
  if negative then -q else q

theorem sign_eq (b : BitVec Format.binary64.numBits) :
    UnpackedFloat.Sign.ofBitVec (UnpackedFloat.unpackSign b) =
      if signWeight ≤ b.toNat then .negative else .positive := by
  have hlt : b.toNat < 2 ^ (64 : Nat) := b.isLt
  have hbit : (UnpackedFloat.unpackSign b).toNat = b.toNat / signWeight % 2 := by
    rw [UnpackedFloat.unpackSign_def]
    simp [Format.binary64, Nat.shiftRight_eq_div_pow, signWeight]
  have hzero : UnpackedFloat.unpackSign b = 0#1 ↔ ¬ signWeight ≤ b.toNat := by
    rw [← BitVec.toNat_inj, hbit]
    unfold signWeight
    show _ = 0 ↔ _
    omega
  unfold UnpackedFloat.Sign.ofBitVec
  simp only [hzero, ite_not]

theorem unpackExponent_eq (b : BitVec Format.binary64.numBits) :
    (UnpackedFloat.unpackExponent b).toNat = b.toNat % signWeight / fractionSpan := by
  rw [toNat_unpackExponent]
  unfold fractionSpan signWeight
  omega

/-- The fraction of a word, with the leading bit that it does not show. -/
theorem toNat_leading (fraction : BitVec Format.binary64.mantissaBitsWithoutImplicit) :
    (1#1 ++ fraction).toNat = fractionSpan + fraction.toNat := by
  rw [BitVec.toNat_append, ← Nat.shiftLeft_add_eq_or_of_lt (BitVec.isLt _)]
  rfl

theorem cast_apply (negative : Bool) (n : ℕ) (q : ℚ) :
    (((if negative then UnpackedFloat.Sign.negative else .positive).apply n : ℤ) : ℚ) * q =
      withSign negative (n * q) := by
  cases negative <;> simp [UnpackedFloat.Sign.apply, withSign]

/-- The value of a magnitude, from the exponent and the fraction in its word. -/
def fieldValue (exponent fraction : ℕ) : ℚ :=
  if exponent = 0 then fraction * 2 ^ (-1074 : ℤ)
  else (fractionSpan + fraction : ℕ) * 2 ^ ((exponent : ℤ) - 1075)

/-- The value of a word that is finite, from its fields. -/
theorem exactValue_eq_fieldValue {x : Float} (hx : x.isFinite = true) :
    exactValue x = withSign (isNegative x) (fieldValue
      (x.toBits.toNat % signWeight / fractionSpan) (x.toBits.toNat % fractionSpan)) := by
  let b : BitVec Format.binary64.numBits := x.toBits.toBitVec
  have hword : b.toNat = x.toBits.toNat := rfl
  have hexponent : (UnpackedFloat.unpackExponent b).toNat =
      x.toBits.toNat % signWeight / fractionSpan :=
    unpackExponent_eq b
  have hmantissa : (UnpackedFloat.unpackMantissa b).toNat = x.toBits.toNat % fractionSpan :=
    toNat_unpackMantissa b
  have hsign : (if signWeight ≤ b.toNat then UnpackedFloat.Sign.negative else .positive) =
      if isNegative x then .negative else .positive := by
    simp [isNegative, hword]
  have hones : UnpackedFloat.unpackExponent b ≠ -BitVec.ofNat Format.binary64.exponentBits 1 := by
    rw [Ne, unpackExponent_eq_iff, hword, Nat.not_le]
    exact (isFinite_iff x).mp hx
  show (match UnpackedFloat.unpack Format.binary64 b with
    | .finite sign mantissa exponent _ => ((sign.apply mantissa : ℤ) * 2 ^ exponent : ℚ)
    | _ => 0) = _
  unfold UnpackedFloat.unpack fieldValue
  dsimp only
  rw [if_neg hones, ← hexponent, ← hmantissa, sign_eq, hsign]
  by_cases hzero : UnpackedFloat.unpackExponent b = BitVec.ofNat Format.binary64.exponentBits 0
  · have hnone : (UnpackedFloat.unpackExponent b).toNat = 0 := congrArg BitVec.toNat hzero
    rw [if_pos hzero, if_pos hnone, hnone]
    by_cases hnothing : UnpackedFloat.unpackMantissa b =
        BitVec.ofNat Format.binary64.mantissaBitsWithoutImplicit 0
    · rw [dif_pos hnothing, hnothing]
      simp [withSign]
    · rw [dif_neg hnothing]
      exact cast_apply _ _ _
  · have hsome : (UnpackedFloat.unpackExponent b).toNat ≠ 0 := fun h =>
      hzero (BitVec.eq_of_toNat_eq h)
    rw [if_neg hzero, if_neg hsome, ← toNat_leading]
    exact cast_apply _ _ _

/-- The size of a magnitude, from the fields of its word. -/
theorem units_div_unitsPerOne (n : ℕ) :
    (units n / unitsPerOne : ℚ) = fieldValue (n / fractionSpan) (n % fractionSpan) := by
  obtain ⟨k, hone, hk⟩ : ∃ k : ℕ, unitsPerOne = 2 ^ k ∧ -(k : ℤ) = -1074 := by
    unfold unitsPerOne
    exact ⟨_, rfl, rfl⟩
  have hspan : 0 < fractionSpan := by
    decide
  rw [hone, Nat.cast_pow, Nat.cast_ofNat, div_eq_mul_inv, ← zpow_natCast, ← zpow_neg, hk]
  unfold units fieldValue
  split_ifs with hsmall hbinade hbinade
  · rw [Nat.mod_eq_of_lt hsmall]
  · exact absurd (Nat.div_eq_of_lt hsmall) hbinade
  · exact absurd ((Nat.div_eq_zero_iff_lt hspan).mp hbinade) hsmall
  · obtain ⟨s, hs⟩ := Nat.exists_eq_succ_of_ne_zero hbinade
    rw [hs, Nat.succ_sub_one, Nat.cast_mul, Nat.cast_pow, mul_assoc, Nat.cast_ofNat, ← zpow_natCast,
      ← zpow_add₀ two_ne_zero]
    congr 2
    omega

/-- **A finite number is its sign and its magnitude in units.** -/
theorem exactValue_of_shape {x : Float} {negative : Bool} {n : ℕ}
    (h : shape x = .finite negative n) :
    exactValue x = withSign negative (units n / unitsPerOne) := by
  obtain ⟨hsign, hmagnitude⟩ := parts_of_shape h
  have hfraction : x.toBits.toNat % fractionSpan = n % fractionSpan := by
    rw [← hmagnitude]
    exact (Nat.mod_mod_of_dvd _ (by decide)).symm
  rw [exactValue_eq_fieldValue ((exists_shape_iff x).mp ⟨negative, n, h⟩), hsign, hmagnitude,
    hfraction, units_div_unitsPerOne]

/-! ## 2. Rounding to a whole number -/

/-- The whole number nearest to a rational, the even one of two equally near. -/
def nearestEven (q : ℚ) : ℤ :=
  let below := ⌊q⌋
  if q - below < 1 / 2 then below
  else if 1 / 2 < q - below then below + 1
  else if Even below then below
  else below + 1

/-- The whole number is no farther than a half, and even if it is as far as that. -/
def IsNearestEven (q : ℚ) (k : ℤ) : Prop :=
  |q - k| ≤ 1 / 2 ∧ (|q - k| = 1 / 2 → Even k)

theorem isNearestEven_nearestEven (q : ℚ) : IsNearestEven q (nearestEven q) := by
  have hlow := Int.floor_le q
  have hhigh := Int.lt_floor_add_one q
  unfold nearestEven IsNearestEven
  dsimp only
  generalize ⌊q⌋ = below at hlow hhigh ⊢
  split_ifs with hless hmore heven
  · rw [abs_of_nonneg (by linarith)]
    exact ⟨hless.le, fun h => absurd h hless.ne⟩
  · push_cast
    rw [abs_of_neg (by linarith)]
    exact ⟨by linarith, fun h => by linarith⟩
  · rw [abs_of_nonneg (by linarith)]
    exact ⟨by linarith, fun _ => heven⟩
  · push_cast
    rw [abs_of_neg (by linarith)]
    exact ⟨by linarith, fun _ => (Int.not_even_iff_odd.mp heven).add_one⟩

/-- Of two whole numbers that are a half away, one is odd. -/
theorem IsNearestEven.eq {q : ℚ} {k l : ℤ} (hk : IsNearestEven q k) (hl : IsNearestEven q l) :
    k = l := by
  obtain ⟨hknear, hktie⟩ := hk
  obtain ⟨hlnear, hltie⟩ := hl
  by_contra hne
  wlog hlt : k < l generalizing k l
  · exact this hlnear hltie hknear hktie (Ne.symm hne) (by omega)
  have hstep : (k : ℚ) + 1 ≤ l := by
    exact_mod_cast hlt
  rw [abs_le] at hknear hlnear
  have hkhalf : |q - k| = 1 / 2 := by
    rw [abs_of_nonneg (by linarith)]
    linarith
  have hlhalf : |q - l| = 1 / 2 := by
    rw [abs_of_nonpos (by linarith)]
    linarith
  have hnext : l = k + 1 := by
    have hle : (l : ℚ) ≤ k + 1 := by
      linarith
    have : l ≤ k + 1 := by
      exact_mod_cast hle
    omega
  have hodd : Odd l := hnext ▸ (hktie hkhalf).add_one
  exact Int.not_even_iff_odd.mpr hodd (hltie hlhalf)

/-- **The rounding of a rational is the whole number within a half of it**, the even one of two. -/
theorem nearestEven_eq_iff {q : ℚ} {k : ℤ} : nearestEven q = k ↔ IsNearestEven q k :=
  ⟨fun h => h ▸ isNearestEven_nearestEven q, (isNearestEven_nearestEven q).eq⟩

/-- Rounding is the same on both sides of zero. -/
theorem nearestEven_withSign (negative : Bool) (q : ℚ) :
    (nearestEven (withSign negative q) : ℚ) = withSign negative (nearestEven q) := by
  cases negative with
  | false => rfl
  | true =>
    obtain ⟨hnear, htie⟩ := isNearestEven_nearestEven q
    have hsame : |-q - ((-nearestEven q : ℤ) : ℚ)| = |q - nearestEven q| := by
      rw [← abs_neg]
      push_cast
      ring_nf
    have hnegative : nearestEven (-q) = -nearestEven q :=
      nearestEven_eq_iff.mpr ⟨hsame ▸ hnear, fun h => (htie (hsame ▸ h)).neg⟩
    show (nearestEven (-q) : ℚ) = -(nearestEven q : ℚ)
    rw [hnegative, Int.cast_neg]

theorem cast_dist (m n : ℕ) : (Nat.dist m n : ℚ) = |(n : ℚ) - m| := by
  rcases Nat.le_total m n with h | h
  · rw [Nat.dist_eq_sub_of_le h, Nat.cast_sub h, abs_of_nonneg (by simpa using h)]
  · rw [Nat.dist_eq_sub_of_le_right h, Nat.cast_sub h, abs_sub_comm,
      abs_of_nonneg (by simpa using h)]

/-- Rounding on natural numbers is rounding of the quotient. -/
theorem nearestEven_div (num : ℕ) {den : ℕ} (hden : 0 < den) :
    nearestEven (num / den) = roundHalfEven num den := by
  have hle := roundHalfEven_le num den
  have hge := le_roundHalfEven num den hden
  have heven := fun h => roundHalfEven_even_of_half num den (half_of_dist hden h)
  generalize roundHalfEven num den = r at hle hge heven ⊢
  have hpositive : (0 : ℚ) < den := by
    exact_mod_cast hden
  have hdist : |(num / den : ℚ) - ((r : ℤ) : ℚ)| = Nat.dist (den * r) num / den := by
    rw [cast_dist, ← abs_of_pos hpositive, ← abs_div, abs_of_pos hpositive]
    congr 1
    push_cast
    field_simp
  refine nearestEven_eq_iff.mpr ⟨?_, fun htie => ?_⟩
  · rw [hdist, div_le_div_iff₀ hpositive two_pos]
    have hhalf : Nat.dist (den * r) num * 2 ≤ 1 * den := by
      unfold Nat.dist
      omega
    exact_mod_cast hhalf
  · rw [hdist, div_eq_div_iff hpositive.ne' two_ne_zero] at htie
    have hhalf : 2 * Nat.dist (den * r) num = den := by
      have : Nat.dist (den * r) num * 2 = 1 * den := by
        exact_mod_cast htie
      omega
    exact (Int.even_coe_nat r).mpr (Nat.even_iff.mpr (heven hhalf))

/-! ## 3. Rounding to decimals -/

/-- A rational rounded to some decimals, of two equally near the one with an even last digit. -/
def roundedTo (places : ℕ) (q : ℚ) : ℚ :=
  nearestEven (q * 10 ^ places) / 10 ^ places

theorem withSign_mul (negative : Bool) (q r : ℚ) :
    withSign negative q * r = withSign negative (q * r) := by
  cases negative with
  | false => rfl
  | true => exact neg_mul q r

/-- **A magnitude is rounded to decimals as its exact value is.** -/
theorem roundedTo_exactValue {x : Float} {negative : Bool} {n : ℕ}
    (h : shape x = .finite negative n) (places : ℕ) :
    roundedTo places (exactValue x) = withSign negative (rounded places n / 10 ^ places) := by
  have hscaled : (units n / unitsPerOne : ℚ) * 10 ^ places =
      (units n * 10 ^ places : ℕ) / unitsPerOne := by
    rw [Nat.cast_mul, Nat.cast_pow, Nat.cast_ofNat]
    ring
  unfold roundedTo
  rw [exactValue_of_shape h, withSign_mul, hscaled, nearestEven_withSign,
    nearestEven_div _ unitsPerOne_pos, div_eq_mul_inv, withSign_mul, ← div_eq_mul_inv]
  rfl

end Calculator.Number
