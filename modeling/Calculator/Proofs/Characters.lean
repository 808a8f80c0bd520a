import Calculator.Token.Lexer

/-!
# The characters of an expression

The lexer asks of a character whether it is a blank, whether it belongs to a literal, whether it is
a letter, and which sign it is. No character is of two of these kinds, so the order of the questions
does not matter, and a character that is neither of a literal nor a letter ends whatever is open:
the blanks, the signs of the operators and the parentheses all do. Names are taken in small letters,
which within ASCII is a matter of the single letters.
-/

namespace Calculator

namespace Text

/-! ## 1. The kinds of characters -/

/-- No range of the one list meets a range of the other. -/
def apart (ranges others : List (Nat × Nat)) : Bool :=
  ranges.all fun range => others.all fun other =>
    Nat.blt range.2 other.1 || Nat.blt other.2 range.1

/-- Sets of characters whose ranges lie apart have no character in common. -/
theorem inRanges_eq_false {ranges others : List (Nat × Nat)} {c : Char}
    (hapart : apart ranges others = true) (h : inRanges ranges c = true) :
    inRanges others c = false := by
  obtain ⟨range, hrange, hc⟩ := List.any_eq_true.mp h
  refine List.any_eq_false.mpr fun other hother => ?_
  have hdisjoint := List.all_eq_true.mp (List.all_eq_true.mp hapart range hrange) other hother
  simp only [Bool.and_eq_true, Bool.or_eq_true, decide_eq_true_eq, Nat.blt_eq] at hc hdisjoint ⊢
  omega

/-- The characters of a literal, as ranges. -/
def numeralRanges : List (Nat × Nat) :=
  [(0x2E, 0x2E), (0x30, 0x39)]

theorem isNumeral_eq_inRanges (c : Char) : Number.isNumeral c = inRanges numeralRanges c := by
  rw [Bool.eq_iff_iff]
  simp [Number.isNumeral, numeralRanges, Char.isDigit, inRanges, UInt32.le_iff_toNat_le,
    Char.ext_iff, ← UInt32.toNat_inj]
  omega

/-- The letters, as ranges. -/
def allLetterRanges : List (Nat × Nat) :=
  (0x41, 0x5A) :: (0x61, 0x7A) :: letterRanges

theorem isLetter_eq_inRanges (c : Char) : isLetter c = inRanges allLetterRanges c := by
  have halpha : c.isAlpha = inRanges [(0x41, 0x5A), (0x61, 0x7A)] c := by
    delta Char.isAlpha Char.isUpper Char.isLower
    simp [inRanges, UInt32.le_iff_toNat_le]
  rw [isLetter, halpha]
  simp [allLetterRanges, inRanges, Bool.or_assoc]

theorem isNumeral_of_isBlank {c : Char} (h : isBlank c = true) : Number.isNumeral c = false := by
  rw [isNumeral_eq_inRanges]
  exact inRanges_eq_false (by decide +kernel) h

theorem isLetter_of_isBlank {c : Char} (h : isBlank c = true) : isLetter c = false := by
  rw [isLetter_eq_inRanges]
  exact inRanges_eq_false (by decide +kernel) h

theorem isBlank_of_isNumeral {c : Char} (h : Number.isNumeral c = true) : isBlank c = false :=
  Bool.eq_false_iff.mpr fun hblank => by simp [isNumeral_of_isBlank hblank] at h

theorem isBlank_of_isLetter {c : Char} (h : isLetter c = true) : isBlank c = false :=
  Bool.eq_false_iff.mpr fun hblank => by simp [isLetter_of_isBlank hblank] at h

theorem isNumeral_of_isLetter {c : Char} (h : isLetter c = true) : Number.isNumeral c = false := by
  rw [isLetter_eq_inRanges] at h
  rw [isNumeral_eq_inRanges]
  exact inRanges_eq_false (by decide +kernel) h

theorem isLetter_of_isNumeral {c : Char} (h : Number.isNumeral c = true) : isLetter c = false :=
  Bool.eq_false_iff.mpr fun hletter => by simp [isNumeral_of_isLetter hletter] at h

/-! ## 2. Characters that end what is open -/

/-- A character that continues neither a literal nor a name. -/
def separates (c : Char) : Bool :=
  !Number.isNumeral c && !isLetter c

theorem separates_of_isBlank {c : Char} (h : isBlank c = true) : separates c = true := by
  simp [separates, isNumeral_of_isBlank h, isLetter_of_isBlank h]

theorem isLetter_space : isLetter ' ' = false :=
  isLetter_of_isBlank (by decide)

theorem isLetter_openParen : isLetter '(' = false := by
  decide +kernel

theorem isLetter_closeParen : isLetter ')' = false := by
  decide +kernel

theorem separates_openParen : separates '(' = true := by
  rw [separates, isLetter_openParen]
  rfl

theorem separates_closeParen : separates ')' = true := by
  rw [separates, isLetter_closeParen]
  rfl

theorem separates_symbol (o : Operator) : separates o.symbol = true := by
  cases o <;> decide +kernel

/-- The sign of no operator is a letter. -/
theorem ofSymbol?_of_isLetter {c : Char} (h : isLetter c = true) :
    Operator.ofSymbol? c = none := by
  cases ho : Operator.ofSymbol? c with
  | none => rfl
  | some o =>
    have hsymbol := separates_symbol o
    rw [Operator.symbol_of_ofSymbol? ho, separates, h] at hsymbol
    simp at hsymbol

/-! ## 3. Small letters -/

theorem isAlpha_of_isLower_toLower {c : Char} (h : c.toLower.isLower = true) :
    c.isAlpha = true := by
  have halpha : c.isAlpha = (c.isUpper || c.isLower) := rfl
  rw [halpha]
  by_cases hupper : c.isUpper = true
  · rw [hupper, Bool.true_or]
  · have hsame : c.toLower = c := dif_neg fun hrange => hupper (decide_eq_true hrange)
    rw [hsame] at h
    rw [h, Bool.or_true]

theorem isAscii_of_isAlpha {c : Char} (h : c.isAlpha = true) : isAscii c = true := by
  have halpha : (c.isUpper || c.isLower) = true := h
  delta Char.isUpper Char.isLower at halpha
  simp [UInt32.le_iff_toNat_le, isAscii] at halpha ⊢
  omega

theorem lowerBetween_of_isAscii {c : Char} (h : isAscii c = true) (before after : List Char) :
    lowerBetween before c after = [c.toLower] := by
  have hsigma : c ≠ 'Σ' := fun e => by simp [e, isAscii] at h
  have hdotted : c ≠ 'İ' := fun e => by simp [e, isAscii] at h
  simp [lowerBetween, hsigma, hdotted, lower_of_isAscii h]

/-- **Within ASCII a text is lowercased letter by letter.** -/
theorem lowered_of_isAscii {text : List Char} (h : ∀ c ∈ text, isAscii c = true) :
    lowered text = text.map Char.toLower := by
  suffices hfrom : ∀ before, lowerFrom before text = text.map Char.toLower from hfrom []
  induction text with
  | nil => exact fun _ => rfl
  | cons c text ih =>
    intro before
    obtain ⟨hc, htext⟩ := List.forall_mem_cons.mp h
    rw [lowerFrom, lowerBetween_of_isAscii hc, ih htext]
    rfl

end Text

end Calculator
