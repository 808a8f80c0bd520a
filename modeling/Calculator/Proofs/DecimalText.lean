import Calculator.Proofs.Nearest
import Calculator.Proofs.Words
import Calculator.Proofs.Writing

/-!
# Reading a decimal that was written

The text of an exact decimal is a literal: digits, and one point if the decimal is not whole. Taking
its zeros away makes the digits fewer and the places fewer by as many, so the literal writes the
same quotient (`coefficient_mul_pow`), and it is read as the magnitude nearest to that
(`value_decimalLiteral`). A magnitude can be told by more than one decimal; which of them is written
does not matter to the reading.
-/

namespace Calculator.Number

-- powers are those of core, whatever other instances are in sight
attribute [local instance (high)] instPowNat

/-! ## 1. Digits -/

/-- The digits in front of the point. -/
def wholeDigits (c places : Nat) : List Char :=
  Nat.toDigits 10 (c / 10 ^ places)

/-- The digits after the point. -/
def fractionDigits (c places : Nat) : List Char :=
  trimZeros (List.leftpad places '0' (Nat.toDigits 10 (c % 10 ^ places)))

theorem decimalText_eq (c places : Nat) :
    decimalText c places =
      if (fractionDigits c places).isEmpty then wholeDigits c places
      else wholeDigits c places ++ '.' :: fractionDigits c places :=
  rfl

/-- What is taken away is zeros. -/
theorem exists_trimZeros (digits : List Char) :
    ∃ k, digits = trimZeros digits ++ List.replicate k '0' := by
  obtain ⟨zeros, hzeros, hdigits⟩ := Text.exists_stripped (· == '0') digits
  refine ⟨zeros.length, ?_⟩
  rw [← List.eq_replicate_of_mem fun c hc => beq_iff_eq.mp (hzeros c hc)]
  exact hdigits

theorem isDigit_of_mem_toDigits {c : Char} {n : Nat} (h : c ∈ Nat.toDigits 10 n) :
    c.isDigit = true :=
  Nat.isDigit_of_mem_toDigits (by decide) (by decide) h

theorem isDigit_of_mem_fractionDigits {c places : Nat} {digit : Char}
    (h : digit ∈ fractionDigits c places) : digit.isDigit = true := by
  obtain ⟨k, hk⟩ := exists_trimZeros (List.leftpad places '0' (Nat.toDigits 10 (c % 10 ^ places)))
  have hmem := List.mem_append_left (List.replicate k '0') h
  rw [fractionDigits, ← hk, List.leftpad, List.mem_append, List.mem_replicate] at hmem
  rcases hmem with ⟨-, rfl⟩ | hmem
  · rfl
  · exact isDigit_of_mem_toDigits hmem

/-- So many digits there are to write what is beyond the whole part, before zeros are taken away. -/
theorem length_leftpad_toDigits (c : Nat) {places : Nat} (hplaces : 0 < places) :
    (List.leftpad places '0' (Nat.toDigits 10 (c % 10 ^ places))).length = places := by
  have hdigits : (Nat.toDigits 10 (c % 10 ^ places)).length ≤ places :=
    (Nat.length_toDigits_le_iff (by decide) hplaces).mpr
      (Nat.mod_lt _ (Nat.pow_pos (by decide)))
  rw [List.length_leftpad, Nat.max_eq_left hdigits]

/-- The digits after the point write what the decimal is beyond its whole part. -/
theorem ofDigitChars_fractionDigits (c places : Nat) :
    Nat.ofDigitChars 10 (fractionDigits c places) 0 * 10 ^ places =
      c % 10 ^ places * 10 ^ (fractionDigits c places).length := by
  let padded := List.leftpad places '0' (Nat.toDigits 10 (c % 10 ^ places))
  obtain ⟨k, hk⟩ : ∃ k, padded = fractionDigits c places ++ List.replicate k '0' :=
    exists_trimZeros padded
  have hvalue : Nat.ofDigitChars 10 padded 0 = c % 10 ^ places := by
    show Nat.ofDigitChars 10 (List.leftpad _ _ _) 0 = _
    rw [List.leftpad, Nat.ofDigitChars_append, Nat.ofDigitChars_replicate_zero, Nat.mul_zero,
      Nat.ofDigitChars_ten_toDigits]
  rw [hk, Nat.ofDigitChars_append, Nat.ofDigitChars_replicate_zero] at hvalue
  rcases Nat.eq_zero_or_pos places with rfl | hplaces
  -- a whole number leaves nothing beyond its whole part
  · rw [Nat.pow_zero, Nat.mod_one] at hvalue ⊢
    have hzero : Nat.ofDigitChars 10 (fractionDigits c 0) 0 = 0 :=
      (Nat.mul_eq_zero.mp hvalue).resolve_left (Nat.ne_of_gt (Nat.pow_pos (by decide)))
    rw [hzero, Nat.zero_mul, Nat.zero_mul]
  · have hlength : padded.length = places := length_leftpad_toDigits c hplaces
    rw [hk, List.length_append, List.length_replicate] at hlength
    generalize fractionDigits c places = fraction at hvalue hlength ⊢
    rw [← hvalue, ← hlength, Nat.pow_add]
    ac_rfl

/-! ## 2. The literal -/

theorem filter_isDigit {digits : List Char} (h : ∀ c ∈ digits, c.isDigit = true) :
    digits.filter Char.isDigit = digits :=
  List.filter_eq_self.mpr h

theorem dropWhile_ne_point {digits : List Char} (h : ∀ c ∈ digits, c.isDigit = true)
    (rest : List Char) : (digits ++ rest).dropWhile (· != '.') = rest.dropWhile (· != '.') := by
  refine List.dropWhile_append_of_pos fun c hc => bne_iff_ne.mpr ?_
  rintro rfl
  cases h '.' hc

theorem count_point {digits : List Char} (h : ∀ c ∈ digits, c.isDigit = true) :
    digits.count '.' = 0 := by
  refine List.count_eq_zero_of_not_mem fun hc => ?_
  cases h '.' hc

theorem isDigit_of_mem_wholeDigits (c places : Nat) :
    ∀ digit ∈ wholeDigits c places, digit.isDigit = true :=
  fun _ h => isDigit_of_mem_toDigits h

theorem isNumeral_of_mem_decimalText {c places : Nat} {digit : Char}
    (h : digit ∈ decimalText c places) : isNumeral digit = true := by
  have hdigit : ∀ {digit : Char}, digit.isDigit = true → isNumeral digit = true := fun h => by
    simp [isNumeral, h]
  rw [decimalText_eq] at h
  split at h
  · exact hdigit (isDigit_of_mem_wholeDigits c places digit h)
  · rcases List.mem_append.mp h with h | h
    · exact hdigit (isDigit_of_mem_wholeDigits c places digit h)
    · rcases List.mem_cons.mp h with rfl | h
      · rfl
      · exact hdigit (isDigit_of_mem_fractionDigits h)

/-- The text of a decimal is a literal. -/
theorem wellFormed_decimalText (c places : Nat) : wellFormed (decimalText c places) = true := by
  have hwhole := isDigit_of_mem_wholeDigits c places
  obtain ⟨first, rest, hfirst⟩ := List.exists_cons_of_ne_nil
    (Nat.toDigits_ne_nil (n := c / 10 ^ places) (b := 10))
  have hmem : first ∈ wholeDigits c places := by
    rw [wholeDigits, hfirst]
    exact List.mem_cons_self
  have hany : (wholeDigits c places).any Char.isDigit = true :=
    List.any_eq_true.mpr ⟨first, hmem, hwhole first hmem⟩
  unfold wellFormed
  rw [decimalText_eq]
  split
  · simp [hany, count_point hwhole]
  · simp [hany, List.count_append, count_point hwhole,
      count_point fun _ h => isDigit_of_mem_fractionDigits h]

/-- **The digits of the text, at their places, are the decimal.** -/
theorem coefficient_mul_pow (c places : Nat) :
    coefficient (decimalText c places) * 10 ^ places =
      c * 10 ^ Number.places (decimalText c places) := by
  have hwhole := isDigit_of_mem_wholeDigits c places
  have hfraction : ∀ digit ∈ fractionDigits c places, digit.isDigit = true := fun _ h =>
    isDigit_of_mem_fractionDigits h
  have hvalue : Nat.ofDigitChars 10 (wholeDigits c places) 0 = c / 10 ^ places :=
    Nat.ofDigitChars_ten_toDigits
  have hbeyond := ofDigitChars_fractionDigits c places
  have hsum := Nat.div_add_mod c (10 ^ places)
  rw [decimalText_eq]
  unfold coefficient Number.places
  split
  · rename_i hempty
    rw [List.isEmpty_iff.mp hempty, List.length_nil, Nat.pow_zero, Nat.mul_one,
      Nat.ofDigitChars_nil, Nat.zero_mul] at hbeyond
    rw [filter_isDigit hwhole, hvalue, ← List.append_nil (wholeDigits c places),
      dropWhile_ne_point hwhole]
    show c / 10 ^ places * 10 ^ places = c * 1
    rw [← hbeyond, Nat.add_zero, Nat.mul_comm] at hsum
    rw [hsum, Nat.mul_one]
  · have hpoint : Char.isDigit '.' = false := rfl
    rw [List.filter_append, List.filter_cons_of_neg (by simp [hpoint]), filter_isDigit hwhole,
      filter_isDigit hfraction, Nat.ofDigitChars_append, hvalue,
      Nat.ofDigitChars_eq_ofDigitChars_zero, dropWhile_ne_point hwhole]
    show _ = c * 10 ^ (fractionDigits c places).length
    rw [Nat.add_mul, hbeyond]
    calc _ = (10 ^ places * (c / 10 ^ places) + c % 10 ^ places) *
          10 ^ (fractionDigits c places).length := by
          rw [Nat.add_mul]
          ac_rfl
      _ = _ := by rw [hsum]

/-- The literal that a decimal is written as. -/
def decimalLiteral (negative : Bool) (c places : Nat) : Literal where
  negative := negative
  run := decimalText c places
  numerals := List.all_eq_true.mpr fun _ h => isNumeral_of_mem_decimalText h
  wellFormed := wellFormed_decimalText c places

/-- **What is written as a decimal is read as the magnitude nearest to it.** -/
theorem value_decimalLiteral (negative : Bool) (c places : Nat) :
    (decimalLiteral negative c places).value =
      ofMagnitude negative (nearest c (10 ^ places)) := by
  have hread := (decimalLiteral negative c places).read?_run
  have hpow : ∀ k, 0 < 10 ^ k := fun k => Nat.pow_pos (by decide)
  rw [← nearest_congr (hpow _) (hpow _) (coefficient_mul_pow c places)]
  have hformed : wellFormed (decimalLiteral negative c places).run = true :=
    wellFormed_decimalText c places
  rw [read?, if_pos hformed] at hread
  exact (Option.some.inj hread).symm

/-! ## 3. The shortest decimal -/

/-- The exact decimal of a magnitude is read as the magnitude. -/
theorem magnitude_exactDecimal {n : Nat} (hn : n ≤ infinite) :
    (exactDecimal n).magnitude = n := by
  obtain ⟨k, hunits, hplaces⟩ : ∃ k, unitsPerOne = 2 ^ k ∧ exactPlaces = k := by
    unfold unitsPerOne exactPlaces
    exact ⟨_, rfl, rfl⟩
  show nearest (units n * 5 ^ exactPlaces * 10 ^ 0) (10 ^ exactPlaces) = n
  rw [hplaces]
  refine nearest_of_units (Nat.pow_pos (by decide)) hn ?_
  calc units n * 5 ^ k * 10 ^ 0 * unitsPerOne = 2 ^ k * 5 ^ k * units n := by
        rw [hunits, Nat.pow_zero, Nat.mul_one]
        ac_rfl
    _ = 10 ^ k * units n := by rw [← Nat.mul_pow]

/-- **The shortest decimal of a magnitude is read as the magnitude**, whichever way it was found. -/
theorem magnitude_shortest {n : Nat} (hn : n ≤ infinite) : (shortest n).magnitude = n := by
  unfold shortest
  cases h : (List.range' 1 17).findSome? (withDigits? n) with
  | none => exact magnitude_exactDecimal hn
  | some d =>
    obtain ⟨k, -, hk⟩ := List.exists_of_findSome?_eq_some h
    exact withDigits?_magnitude hk

/-- **The text of a finite number is a literal of this number.** -/
theorem exists_literal_plain {x : Float} (hx : x.isFinite = true) :
    ∃ l : Literal, plain x = String.ofList l.text ∧ l.value = x ∧ l.negative = isNegative x := by
  obtain ⟨negative, n, hshape⟩ := (exists_shape_iff x).mpr hx
  have hn := Nat.le_of_lt (magnitude_lt_infinite hshape)
  have hsign := (parts_of_shape hshape).1
  have hdecimal : ∃ c places,
      (if n = 0 then ['0'] else (shortest n).text) = decimalText c places ∧
        nearest c (10 ^ places) = n := by
    split
    · rename_i hzero
      have hread : nearest 0 (10 ^ 0) = n := by
        rw [hzero, nearest_zero]
      exact ⟨0, 0, rfl, hread⟩
    · have hmagnitude := magnitude_shortest hn
      generalize shortest n = d at hmagnitude ⊢
      exact ⟨d.coefficient * 10 ^ d.exponent.toNat, (-d.exponent).toNat, rfl, hmagnitude⟩
  obtain ⟨c, places, htext, hnearest⟩ := hdecimal
  refine ⟨decimalLiteral negative c places, ?_, ?_, hsign.symm⟩
  · unfold plain
    rw [hshape]
    dsimp only
    rw [htext]
    rfl
  · rw [value_decimalLiteral, hnearest]
    exact ofMagnitude_of_shape hshape

end Calculator.Number
