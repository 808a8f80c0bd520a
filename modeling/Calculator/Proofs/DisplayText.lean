import Calculator.Proofs.DecimalText
import Calculator.Proofs.ExactValue

/-!
# The text of a result

What is displayed of a finite number is its exact value, rounded to the decimals shown and written
with no character too many (`display_canonical`). The number that the text writes is compared with
the rounding in rationals; that nothing is superfluous is a property of the digits alone:

* digits of a whole number do not begin with a zero (`toDigits_eq_of_head?`);
* decimals are cut behind the last one that is not zero (`getLast?_trimZeros`), so that none are
  left exactly if the decimal is whole (`fractionDigits_eq_nil_iff`). Zeros before the point are not
  among what is cut.
-/

namespace Calculator.Number

-- powers are those of core, whatever other instances are in sight
attribute [local instance (high)] instPowNat

/-! ## 1. No superfluous digits -/

/-- Only zero is written with a zero in front. -/
theorem toDigits_eq_of_head? (n : Nat) (h : (Nat.toDigits 10 n).head? = some '0') :
    Nat.toDigits 10 n = ['0'] := by
  induction n using Nat.strong_induction_on with
  | _ n ih =>
    rw [Nat.toDigits_eq_if (by decide)] at h ⊢
    split_ifs at h ⊢ with hsmall
    · have hdigit : n.digitChar = '0' := by simpa using h
      rw [hdigit]
    -- what stands in front of the last digit would be zero
    · rw [List.head?_append_of_ne_nil _ Nat.toDigits_ne_nil] at h
      have hvalue : Nat.ofDigitChars 10 (Nat.toDigits 10 (n / 10)) 0 = n / 10 :=
        Nat.ofDigitChars_ten_toDigits
      rw [ih (n / 10) (by omega) h] at hvalue
      have hzero : 0 = n / 10 := hvalue
      omega

theorem getLast?_trimZeros (digits : List Char) : (trimZeros digits).getLast? ≠ some '0' := by
  intro h
  have hne : trimZeros digits ≠ [] := by
    intro hnil
    rw [hnil] at h
    cases h
  rw [List.getLast?_eq_some_getLast hne] at h
  exact List.rdropWhile_last_not (· == '0') digits hne (beq_iff_eq.mpr (Option.some.inj h))

theorem fractionDigits_eq_nil_iff (c places : Nat) :
    fractionDigits c places = [] ↔ c % 10 ^ places = 0 := by
  constructor
  · intro h
    have hvalue := ofDigitChars_fractionDigits c places
    rw [h, Nat.ofDigitChars_nil, Nat.zero_mul, List.length_nil, Nat.pow_zero, Nat.mul_one] at hvalue
    exact hvalue.symm
  · intro h
    refine List.rdropWhile_eq_nil_iff.mpr fun digit hdigit => ?_
    rw [h, Nat.toDigits_zero, List.leftpad, List.mem_append, List.mem_replicate,
      List.mem_singleton] at hdigit
    rcases hdigit with ⟨-, rfl⟩ | rfl <;> rfl

theorem length_fractionDigits_le (c places : Nat) : (fractionDigits c places).length ≤ places := by
  rcases Nat.eq_zero_or_pos places with rfl | hplaces
  · have hnil := (fractionDigits_eq_nil_iff c 0).mpr (Nat.mod_one c)
    rw [hnil]
    exact Nat.le_refl 0
  · obtain ⟨k, hk⟩ :=
      exists_trimZeros (List.leftpad places '0' (Nat.toDigits 10 (c % 10 ^ places)))
    have hlength := length_leftpad_toDigits c hplaces
    rw [hk, List.length_append] at hlength
    exact Nat.le_of_add_right_le (Nat.le_of_eq hlength)

/-! ## 2. Written decimals -/

/-- A decimal as it is written: its sign, and the digits before and after the point. -/
structure WrittenDecimal where
  negative : Bool
  whole : List Char
  fraction : List Char

namespace WrittenDecimal

/-- The text of a written decimal. A point stands only in front of decimals. -/
def text (d : WrittenDecimal) : List Char :=
  signed d.negative (if d.fraction.isEmpty then d.whole else d.whole ++ '.' :: d.fraction)

/-- The number that is written. -/
def value (d : WrittenDecimal) : ℚ :=
  withSign d.negative (Nat.ofDigitChars 10 d.whole 0 +
    Nat.ofDigitChars 10 d.fraction 0 / 10 ^ d.fraction.length)

/-- Digits only, none of them superfluous, and at most so many decimals; a sign only on what is
    below zero, and decimals only of what is not whole. -/
structure IsCanonical (d : WrittenDecimal) (places : ℕ) : Prop where
  whole_digits : ∀ c ∈ d.whole, c.isDigit = true
  fraction_digits : ∀ c ∈ d.fraction, c.isDigit = true
  whole_ne_nil : d.whole ≠ []
  no_leading_zero : d.whole.head? = some '0' → d.whole = ['0']
  no_trailing_zero : d.fraction.getLast? ≠ some '0'
  at_most : d.fraction.length ≤ places
  whole_iff : d.fraction = [] ↔ ∃ k : ℤ, d.value = k
  negative_iff : d.negative = true ↔ d.value < 0

end WrittenDecimal

/-- The decimal `c / 10 ^ places`, as it is written with a sign if there is one to write. -/
def writtenDecimal (negative : Bool) (c places : Nat) : WrittenDecimal :=
  ⟨negative && c != 0, wholeDigits c places, fractionDigits c places⟩

theorem display_eq_writtenDecimal {x : Float} {negative : Bool} {n : Nat}
    (h : shape x = .finite negative n) (digits : Nat) :
    let places := min digits maxDigits
    display digits x =
      String.ofList (writtenDecimal negative (rounded places n) places).text := by
  unfold display
  rw [h]
  rfl

/-- The digits on both sides of the point write the decimal. -/
theorem wholeDigits_add_fractionDigits (c places : ℕ) :
    (Nat.ofDigitChars 10 (wholeDigits c places) 0 : ℚ) +
        Nat.ofDigitChars 10 (fractionDigits c places) 0 / 10 ^ (fractionDigits c places).length =
      c / 10 ^ places := by
  have hpow : ∀ k : ℕ, (10 ^ k : ℚ) ≠ 0 := fun k => pow_ne_zero k (by norm_num)
  have hwhole : Nat.ofDigitChars 10 (wholeDigits c places) 0 = c / 10 ^ places :=
    Nat.ofDigitChars_ten_toDigits
  have hbeyond : (Nat.ofDigitChars 10 (fractionDigits c places) 0 * 10 ^ places : ℚ) =
      (c % 10 ^ places : ℕ) * 10 ^ (fractionDigits c places).length := by
    exact_mod_cast ofDigitChars_fractionDigits c places
  have hsum : (10 ^ places * (c / 10 ^ places : ℕ) + (c % 10 ^ places : ℕ) : ℚ) = c := by
    exact_mod_cast Nat.div_add_mod c (10 ^ places)
  rw [hwhole, (div_eq_div_iff (hpow _) (hpow places)).mpr hbeyond, eq_div_iff (hpow places),
    add_mul, div_mul_cancel₀ _ (hpow places), mul_comm, hsum]

/-- A sign that is left out in front of zero makes no difference. -/
theorem withSign_and_ne_zero (negative : Bool) (c : ℕ) (den : ℚ) :
    withSign (negative && c != 0) (c / den) = withSign negative (c / den) := by
  rcases Nat.eq_zero_or_pos c with rfl | hc
  · cases negative <;> simp [withSign]
  · rw [bne_iff_ne.mpr hc.ne', Bool.and_true]

theorem value_writtenDecimal (negative : Bool) (c places : ℕ) :
    (writtenDecimal negative c places).value = withSign negative (c / 10 ^ places) := by
  unfold WrittenDecimal.value writtenDecimal
  dsimp only
  rw [wholeDigits_add_fractionDigits, withSign_and_ne_zero]

theorem withSign_withSign (negative : Bool) (q : ℚ) :
    withSign negative (withSign negative q) = q := by
  cases negative with
  | false => rfl
  | true => exact neg_neg q

theorem withSign_intCast (negative : Bool) (k : ℤ) :
    withSign negative k = ((if negative then -k else k : ℤ) : ℚ) := by
  cases negative with
  | false => rfl
  | true => exact (Int.cast_neg k).symm

/-- A decimal is whole exactly if nothing is beyond its whole part. -/
theorem exists_withSign_eq_iff (negative : Bool) (c places : ℕ) :
    (∃ k : ℤ, withSign negative (c / 10 ^ places) = k) ↔ c % 10 ^ places = 0 := by
  have hpow : (10 ^ places : ℚ) ≠ 0 := pow_ne_zero places (by norm_num)
  constructor
  · rintro ⟨k, hk⟩
    have hquotient := withSign_withSign negative (c / 10 ^ places)
    rw [hk, withSign_intCast, eq_div_iff hpow] at hquotient
    have hdvd : (10 ^ places : ℕ) ∣ c := by
      refine Int.natCast_dvd_natCast.mp ⟨if negative then -k else k, ?_⟩
      rw [mul_comm]
      exact_mod_cast hquotient.symm
    exact Nat.mod_eq_zero_of_dvd hdvd
  · intro h
    obtain ⟨m, rfl⟩ := Nat.dvd_of_mod_eq_zero h
    refine ⟨if negative then -m else m, ?_⟩
    rw [← withSign_intCast, Nat.cast_mul, Nat.cast_pow, Nat.cast_ofNat, mul_div_cancel_left₀ _ hpow]
    rfl

/-- Below zero is what has a sign and is not zero. -/
theorem withSign_neg_iff (negative : Bool) (c places : ℕ) :
    withSign negative (c / 10 ^ places) < 0 ↔ negative = true ∧ c ≠ 0 := by
  have hpow : (0 : ℚ) < 10 ^ places := by
    positivity
  cases negative with
  | false =>
    have hsize : (0 : ℚ) ≤ c / 10 ^ places := by
      positivity
    exact iff_of_false hsize.not_gt nofun
  | true =>
    show -(c / 10 ^ places : ℚ) < 0 ↔ _
    rw [neg_lt_zero, div_pos_iff_of_pos_right hpow, Nat.cast_pos, Nat.pos_iff_ne_zero]
    simp

theorem isCanonical_writtenDecimal (negative : Bool) (c places : ℕ) :
    (writtenDecimal negative c places).IsCanonical places where
  whole_digits := isDigit_of_mem_wholeDigits c places
  fraction_digits := fun _ h => isDigit_of_mem_fractionDigits h
  whole_ne_nil := Nat.toDigits_ne_nil
  no_leading_zero := toDigits_eq_of_head? _
  no_trailing_zero := getLast?_trimZeros _
  at_most := length_fractionDigits_le c places
  whole_iff := by
    rw [value_writtenDecimal, exists_withSign_eq_iff]
    exact fractionDigits_eq_nil_iff c places
  negative_iff := by
    rw [value_writtenDecimal, withSign_neg_iff]
    simp [writtenDecimal]

/-! ## 3. The text displayed -/

/-- **What is displayed of a finite number is its exact value rounded to the decimals shown**, at
    most seventeen and a tie going to the even digit, without a superfluous character. -/
theorem display_canonical (digits : ℕ) {x : Float} (hx : x.isFinite = true) :
    ∃ d : WrittenDecimal, display digits x = String.ofList d.text ∧
      d.IsCanonical (min digits maxDigits) ∧
      d.value = roundedTo (min digits maxDigits) (exactValue x) := by
  obtain ⟨negative, n, hshape⟩ := (exists_shape_iff x).mpr hx
  let places := min digits maxDigits
  refine ⟨writtenDecimal negative (rounded places n) places, ?_, ?_, ?_⟩
  · exact display_eq_writtenDecimal hshape digits
  · exact isCanonical_writtenDecimal negative _ places
  · rw [value_writtenDecimal, roundedTo_exactValue hshape]

/-- Halfway between two whole numbers, with no decimals shown: the even one is three digits long,
    and its zeros stay. -/
theorem display_canonical_tie :
    let x := ofMagnitude true 0x4058E00000000000
    x.isFinite = true ∧ exactValue x = -(199 / 2) ∧
      ∃ d : WrittenDecimal, display 0 x = String.ofList d.text ∧ d.IsCanonical 0 ∧
        d.value = -100 ∧ display 0 x = "-100" := by
  intro x
  have hfinite : x.isFinite = true := by
    decide +kernel
  have hshape : shape x = .finite true 0x4058E00000000000 := by
    decide +kernel
  have hexact : exactValue x = -(199 / 2) := by
    rw [exactValue_of_shape hshape, units_div_unitsPerOne]
    norm_num [withSign, fieldValue, fractionSpan]
  obtain ⟨d, htext, hcanonical, hvalue⟩ := display_canonical 0 hfinite
  have hrounded : roundedTo 0 (exactValue x) = -100 := by
    have hnearest : nearestEven (-(199 / 2) * 10 ^ 0) = -100 := by
      refine nearestEven_eq_iff.mpr ⟨?_, fun _ => ⟨-50, rfl⟩⟩
      norm_num
    rw [hexact, roundedTo, hnearest]
    norm_num
  refine ⟨hfinite, hexact, d, htext, hcanonical, ?_, by decide +kernel⟩
  rw [← hrounded]
  exact hvalue

end Calculator.Number
