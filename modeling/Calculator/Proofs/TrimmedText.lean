import Calculator.Proofs.DisplayText

/-!
# A result written in full, and trimmed

`display` writes a result without a superfluous character from the start. There is a longer way to
the same text: write all the decimals asked for, take away the zeros that the text ends in, then the
point if nothing is left behind it, and at last the sign of a zero (`displayByTrimming`). On this
way nothing may be taken from a text without a point: its zeros are those of the whole part. The two
ways agree on every number (`display_eq_displayByTrimming`).
-/

namespace Calculator.Number

-- powers are those of core, whatever other instances are in sight
attribute [local instance (high)] instPowNat

/-! ## 1. The longer way -/

/-- The text of `c / 10 ^ places` with all its decimals, superfluous or not. -/
def fixedText (c places : Nat) : List Char :=
  let whole := Nat.toDigits 10 (c / 10 ^ places)
  if places = 0 then whole
  else whole ++ '.' :: List.leftpad places '0' (Nat.toDigits 10 (c % 10 ^ places))

/-- A text with a point, without the zeros at its end, and then without the point if it ends in
    it. -/
def trimDecimals (text : List Char) : List Char :=
  if '.' ∈ text then (text.rdropWhile (· == '0')).rdropWhile (· == '.') else text

/-- The text of a result, to at most `digits` decimals, from the text with all of them. -/
def displayByTrimming (digits : Nat) (x : Float) : String :=
  match shape x with
  | .notANumber => "NaN"
  | .infinity negative => if negative then "-inf" else "inf"
  | .finite negative n =>
    let places := min digits maxDigits
    let text := trimDecimals (signed negative (fixedText (rounded places n) places))
    if text = ['-', '0'] then "0" else String.ofList text

/-! ## 2. Trimming -/

/-- Nothing in front of a letter that stays is dropped. -/
theorem rdropWhile_append_cons (p : Char → Bool) {a : Char} (ha : ¬p a) (front rest : List Char) :
    (front ++ a :: rest).rdropWhile p = front ++ a :: rest.rdropWhile p := by
  induction rest using List.reverseRecOn with
  | nil => rw [List.rdropWhile_concat_neg p front a ha, List.rdropWhile_nil]
  | append_singleton rest c ih =>
    have hassoc : front ++ a :: (rest ++ [c]) = (front ++ a :: rest) ++ [c] := by
      rw [List.append_assoc, List.cons_append]
    rw [hassoc]
    by_cases hc : p c
    · rw [List.rdropWhile_concat_pos p _ c hc, List.rdropWhile_concat_pos p _ c hc, ih]
    · rw [List.rdropWhile_concat_neg p _ c hc, List.rdropWhile_concat_neg p _ c hc, hassoc]

theorem rdropWhile_point_of_not_mem {text : List Char} (h : '.' ∉ text) :
    text.rdropWhile (· == '.') = text := by
  refine List.rdropWhile_eq_self_iff.mpr fun hne hlast => h ?_
  rw [← eq_of_beq hlast]
  exact List.getLast_mem hne

theorem point_not_mem_of_isDigit {digits : List Char} (h : ∀ c ∈ digits, c.isDigit = true) :
    '.' ∉ digits := fun hpoint => by
  cases h '.' hpoint

/-- The point goes if nothing is left behind it. -/
theorem rdropWhile_point_append {whole fraction : List Char} (hwhole : '.' ∉ whole)
    (hfraction : '.' ∉ fraction) :
    (whole ++ '.' :: fraction).rdropWhile (· == '.') =
      if fraction.isEmpty then whole else whole ++ '.' :: fraction := by
  cases fraction with
  | nil =>
    rw [List.rdropWhile_concat_pos _ _ _ rfl, rdropWhile_point_of_not_mem hwhole]
    rfl
  | cons digit digits =>
    rw [List.mem_cons, not_or] at hfraction
    obtain ⟨hdigit, hdigits⟩ := hfraction
    have hassoc : whole ++ '.' :: digit :: digits = (whole ++ ['.']) ++ digit :: digits := by
      rw [List.append_assoc, List.singleton_append]
    have hkept : ¬(digit == '.') = true := fun h => hdigit (eq_of_beq h).symm
    rw [hassoc, rdropWhile_append_cons (· == '.') hkept, rdropWhile_point_of_not_mem hdigits]
    rfl

/-- **All the decimals, trimmed, are the decimals that are not superfluous**, whatever stands in
    front, as long as there is no point in it. -/
theorem trimDecimals_append_fixedText {front : List Char} (hfront : '.' ∉ front) (c places : Nat) :
    trimDecimals (front ++ fixedText c places) = front ++ decimalText c places := by
  have hwhole : '.' ∉ front ++ wholeDigits c places := by
    rw [List.mem_append, not_or]
    exact ⟨hfront, point_not_mem_of_isDigit (isDigit_of_mem_wholeDigits c places)⟩
  have hfraction : '.' ∉ fractionDigits c places :=
    point_not_mem_of_isDigit fun _ h => isDigit_of_mem_fractionDigits h
  unfold trimDecimals
  rcases Nat.eq_zero_or_pos places with rfl | hplaces
  -- without decimals there is no point, and the zeros at the end are those of the whole part
  · have hnil := (fractionDigits_eq_nil_iff c 0).mpr (Nat.mod_one c)
    rw [decimalText_eq, hnil]
    exact if_neg hwhole
  · have hfixed : front ++ fixedText c places = (front ++ wholeDigits c places) ++
        '.' :: List.leftpad places '0' (Nat.toDigits 10 (c % 10 ^ places)) := by
      rw [fixedText, if_neg hplaces.ne', List.append_assoc]
      rfl
    have hpoint : '.' ∈ front ++ fixedText c places := by
      rw [hfixed]
      exact List.mem_append_right _ List.mem_cons_self
    have hzeros : (front ++ fixedText c places).rdropWhile (· == '0') =
        (front ++ wholeDigits c places) ++ '.' :: fractionDigits c places := by
      rw [hfixed]
      exact rdropWhile_append_cons (· == '0') (by decide) _ _
    rw [if_pos hpoint, hzeros, rdropWhile_point_append hwhole hfraction, decimalText_eq]
    split
    · rfl
    · exact List.append_assoc _ _ _

theorem trimDecimals_signed_fixedText (negative : Bool) (c places : Nat) :
    trimDecimals (signed negative (fixedText c places)) =
      signed negative (decimalText c places) := by
  cases negative with
  | false =>
    have hnone : '.' ∉ ([] : List Char) := List.not_mem_nil
    exact trimDecimals_append_fixedText hnone c places
  | true =>
    have hminus : '.' ∉ ['-'] := by
      decide
    exact trimDecimals_append_fixedText hminus c places

/-! ## 3. The sign of a zero -/

theorem decimalText_eq_zero_iff (c places : Nat) : decimalText c places = ['0'] ↔ c = 0 := by
  constructor
  · intro h
    have hvalue := coefficient_mul_pow c places
    have hzero : coefficient ['0'] = 0 := rfl
    have hplaces : Number.places ['0'] = 0 := rfl
    rw [h, hzero, hplaces, Nat.zero_mul, Nat.pow_zero, Nat.mul_one] at hvalue
    exact hvalue.symm
  · rintro rfl
    have hfraction := (fractionDigits_eq_nil_iff 0 places).mpr (Nat.zero_mod _)
    rw [decimalText_eq, hfraction, wholeDigits, Nat.zero_div]
    rfl

/-- A minus in front of a single zero is the sign of a decimal that is zero. -/
theorem signed_decimalText_eq_minus_zero_iff (negative : Bool) (c places : Nat) :
    signed negative (decimalText c places) = ['-', '0'] ↔ negative = true ∧ c = 0 := by
  cases negative with
  | false =>
    refine iff_of_false (fun h => ?_) (fun h => Bool.false_ne_true h.1)
    have hminus : '-' ∈ decimalText c places := by
      rw [show decimalText c places = ['-', '0'] from h]
      exact List.mem_cons_self
    cases isNumeral_of_mem_decimalText hminus
  | true =>
    show '-' :: decimalText c places = '-' :: ['0'] ↔ _
    rw [List.cons_inj_right, decimalText_eq_zero_iff]
    exact (and_iff_right rfl).symm

/-! ## 4. The two ways -/

/-- **The text with all its decimals, trimmed, is the text displayed**, of every number and to any
    number of decimals. -/
theorem display_eq_displayByTrimming (digits : Nat) (x : Float) :
    display digits x = displayByTrimming digits x := by
  unfold display displayByTrimming
  cases shape x with
  | notANumber => rfl
  | infinity negative => rfl
  | finite negative n =>
    dsimp only
    rw [trimDecimals_signed_fixedText]
    generalize rounded (min digits maxDigits) n = c
    split
    · rename_i h
      obtain ⟨rfl, rfl⟩ := (signed_decimalText_eq_minus_zero_iff negative c _).mp h
      rw [(decimalText_eq_zero_iff 0 _).mpr rfl]
      rfl
    · rename_i h
      have hsign : (negative && c != 0) = negative := by
        rw [signed_decimalText_eq_minus_zero_iff] at h
        cases negative with
        | false => rfl
        | true => simpa using h
      rw [hsign]

/-- A hundred without decimals keeps its zeros; what rounds to zero loses its sign. -/
example : displayByTrimming 0 (ofMagnitude false 0x4059000000000000) = "100" ∧
    displayByTrimming 2 (ofMagnitude true 0x3F50624DD2F1A9FC) = "0" := by
  decide +kernel

end Calculator.Number
