import Calculator.Expression
import Calculator.Operation
import Calculator.Proofs.Reading
import Mathlib

/-!
# The case of letters

Texts that differ only in the case of letters of ASCII are read alike, errors included. It is enough
to put every letter of ASCII in small and to see that nothing changes:

* no property of characters that is asked for tells the letters of ASCII apart
  (`Text.apply_toLower`);
* a capital sigma asks whether its neighbours are cased or looked past, not which ones they are, so
  a whole text is lowercased alike (`Text.lowered_map_toLower`);
* the lexer keeps the letters of an open name as they stand, and lowercases them when the name ends.
  So it goes through the same states but for these letters (`Lexer.step_toLower`).
-/

namespace Calculator

namespace Text

/-! ## 1. Characters -/

/-- **What has one value on all letters of ASCII does not depend on their case.** -/
theorem apply_toLower {α : Type} {p : Char → α} {a : α} (h : ∀ c, c.isAlpha = true → p c = a)
    (c : Char) : p c.toLower = p c := by
  by_cases hupper : c.isUpper = true
  · have halpha : c.isAlpha = true := by
      rw [Char.isAlpha, hupper, Bool.true_or]
    rw [h c halpha, h c.toLower (by rw [Char.isAlpha_toLower_eq_isAlpha, halpha])]
  · rw [Char.toLower_eq_of_not_isUpper hupper]

theorem isLetter_toLower (c : Char) : isLetter c.toLower = isLetter c :=
  apply_toLower (fun _ => isLetter_of_isAlpha) c

theorem isBlank_toLower (c : Char) : isBlank c.toLower = isBlank c :=
  apply_toLower (fun _ hc => isBlank_of_isLetter (isLetter_of_isAlpha hc)) c

theorem isNumeral_toLower (c : Char) : Number.isNumeral c.toLower = Number.isNumeral c :=
  apply_toLower (fun _ hc => isNumeral_of_isLetter (isLetter_of_isAlpha hc)) c

theorem isCased_toLower (c : Char) : isCased c.toLower = isCased c :=
  apply_toLower (fun c hc => by rw [isCased, hc, Bool.true_or]) c

theorem isCaseIgnorable_toLower (c : Char) : isCaseIgnorable c.toLower = isCaseIgnorable c := by
  refine apply_toLower (a := false) (fun c hc => ?_) c
  have hranges : inRanges [(0x41, 0x5A), (0x61, 0x7A)] c = true := by
    rw [← hc]
    delta Char.isAlpha Char.isUpper Char.isLower
    simp [inRanges, UInt32.le_iff_toNat_le]
  exact inRanges_eq_false (by decide +kernel) hranges

/-- A character that is no letter of ASCII is the small letter of itself only. -/
theorem toLower_eq_iff {c d : Char} (hd : d.isAlpha = false) : c.toLower = d ↔ c = d := by
  refine iff_of_eq (apply_toLower (p := (· = d)) (a := False) (fun c hc => ?_) c)
  exact eq_false fun e => by simp [e, hd] at hc

theorem toLower_of_isLetter_eq_false {c : Char} (h : isLetter c = false) : c.toLower = c := by
  refine (toLower_eq_iff (Bool.eq_false_iff.mpr fun halpha => ?_)).mpr rfl
  rw [isLetter_of_isAlpha halpha] at h
  cases h

/-! ## 2. Lowercase texts -/

theorem dropWhile_map_toLower {p : Char → Bool} (h : ∀ c, p c.toLower = p c) (text : List Char) :
    (text.map Char.toLower).dropWhile p = (text.dropWhile p).map Char.toLower := by
  rw [List.dropWhile_map, show p ∘ Char.toLower = p from funext h]

theorem meetsCased_map_toLower (text : List Char) :
    meetsCased (text.map Char.toLower) = meetsCased text := by
  unfold meetsCased
  rw [dropWhile_map_toLower isCaseIgnorable_toLower]
  cases text.dropWhile isCaseIgnorable with
  | nil => rfl
  | cons c rest => exact isCased_toLower c

theorem lower_toLower (c : Char) : lower c.toLower = lower c := by
  by_cases halpha : c.isAlpha = true
  · have hsmall : c.toLower.isAlpha = true := by
      rw [Char.isAlpha_toLower_eq_isAlpha, halpha]
    rw [lower_of_isAscii (isAscii_of_isAlpha halpha), lower_of_isAscii (isAscii_of_isAlpha hsmall),
      Char.toLower_toLower_eq_toLower]
  · rw [(toLower_eq_iff (Bool.eq_false_iff.mpr halpha)).mpr rfl]

theorem lowerBetween_toLower (before after : List Char) (c : Char) :
    lowerBetween (before.map Char.toLower) c.toLower (after.map Char.toLower) =
      lowerBetween before c after := by
  unfold lowerBetween
  simp only [meetsCased_map_toLower, lower_toLower,
    toLower_eq_iff (show 'Σ'.isAlpha = false by rfl),
    toLower_eq_iff (show 'İ'.isAlpha = false by rfl)]

theorem lowerFrom_map_toLower (before text : List Char) :
    lowerFrom (before.map Char.toLower) (text.map Char.toLower) = lowerFrom before text := by
  induction text generalizing before with
  | nil => rfl
  | cons c text ih =>
    show lowerBetween _ c.toLower _ ++ lowerFrom ((c :: before).map Char.toLower) _ = _
    rw [lowerBetween_toLower, ih]
    rfl

/-- **A text is lowercased alike if its letters of ASCII are small already.** -/
theorem lowered_map_toLower (text : List Char) : lowered (text.map Char.toLower) = lowered text :=
  lowerFrom_map_toLower [] text

theorem trimmed_map_toLower (text : List Char) :
    trimmed (text.map Char.toLower) = (trimmed text).map Char.toLower := by
  unfold trimmed
  rw [dropWhile_map_toLower isBlank_toLower, ← List.map_reverse,
    dropWhile_map_toLower isBlank_toLower, List.map_reverse]

end Text

/-! ## 3. The lexer -/

/-- What is open, in small letters. -/
def OpenToken.toLower : OpenToken → OpenToken
  | .word letters => .word (letters.map Char.toLower)
  | opened => opened

namespace Lexer

/-- The state with the open name in small letters. -/
def toLower (lexer : Lexer) : Lexer :=
  ⟨lexer.tokens, lexer.opened.toLower⟩

theorem continued?_toLower (opened : OpenToken) (c : Char) :
    continued? opened.toLower c.toLower = (continued? opened c).map OpenToken.toLower := by
  cases hletter : Text.isLetter c with
  | true =>
    -- only a name goes on with a letter
    have hnumeral := Text.isNumeral_of_isLetter hletter
    cases opened with
    | nothing => rfl
    | minus => simp [continued?, OpenToken.toLower, Text.isNumeral_toLower, hnumeral]
    | literal negative run => simp [continued?, OpenToken.toLower, Text.isNumeral_toLower, hnumeral]
    | word letters => simp [continued?, OpenToken.toLower, Text.isLetter_toLower, hletter]
  | false =>
    rw [Text.toLower_of_isLetter_eq_false hletter]
    cases opened with
    | nothing => rfl
    | minus => cases hc : Number.isNumeral c <;> simp [continued?, OpenToken.toLower, hc]
    | literal negative run =>
      cases hc : Number.isNumeral c <;> simp [continued?, OpenToken.toLower, hc]
    | word letters => simp [continued?, OpenToken.toLower, hletter]

/-- The name that an open one gives is in small letters in any case. -/
theorem close_toLower (lexer : Lexer) : lexer.toLower.close = lexer.close := by
  obtain ⟨tokens, opened⟩ := lexer
  cases opened with
  | nothing => rfl
  | minus => rfl
  | literal negative run => rfl
  | word letters =>
    show Except.ok (Token.name (Text.lowercase
      (String.ofList (letters.map Char.toLower).reverse)) :: tokens) =
        Except.ok (.name (Text.lowercase (String.ofList letters.reverse)) :: tokens)
    unfold Text.lowercase
    rw [String.toList_ofList, String.toList_ofList, ← List.map_reverse, Text.lowered_map_toLower]

theorem begin_toLower (tokens : List Token) (c : Char) :
    begin tokens c.toLower = (begin tokens c).map toLower := by
  cases hletter : Text.isLetter c with
  | true =>
    rw [begin_of_isLetter hletter, begin_of_isLetter ((Text.isLetter_toLower c).trans hletter)]
    rfl
  | false =>
    -- the character is the same, and opens no name
    rw [Text.toLower_of_isLetter_eq_false hletter]
    cases hbegin : begin tokens c with
    | error e => rfl
    | ok next =>
      obtain ⟨tokens', opened⟩ := next
      cases opened with
      | nothing => rfl
      | minus => rfl
      | literal negative run => rfl
      | word letters =>
        have hword : Text.isLetter c = true := openedBy_of_begin hbegin
        rw [hword] at hletter
        cases hletter

/-- **The lexer goes through the same states** with letters of ASCII in small, but for those of the
    name that is open. -/
theorem step_toLower (lexer : Lexer) (c : Char) :
    lexer.toLower.step c.toLower = (lexer.step c).map toLower := by
  have hcontinued := continued?_toLower lexer.opened c
  unfold step
  rw [show lexer.toLower.opened = lexer.opened.toLower from rfl, hcontinued, close_toLower]
  cases continued? lexer.opened c with
  | some opened => rfl
  | none =>
    show (lexer.close >>= _) = (lexer.close >>= _).map toLower
    cases lexer.close with
    | error e => rfl
    | ok tokens => exact begin_toLower tokens c

theorem run_map_toLower (lexer : Lexer) (text : List Char) :
    lexer.toLower.run (text.map Char.toLower) = (lexer.run text).map toLower := by
  induction text generalizing lexer with
  | nil => rfl
  | cons c text ih =>
    rw [List.map_cons, run_cons, run_cons, step_toLower]
    cases lexer.step c with
    | error e => rfl
    | ok next => exact ih next

end Lexer

/-! ## 4. Texts that differ in case only -/

theorem tokenize_map_toLower (text : List Char) :
    tokenize (String.ofList (text.map Char.toLower)) = tokenize (String.ofList text) := by
  unfold tokenize
  have hrun := Lexer.run_map_toLower .start text
  have hstart : Lexer.start.toLower = .start := rfl
  rw [String.toList_ofList, String.toList_ofList, ← hstart, hrun, hstart]
  cases Lexer.start.run text with
  | error e => rfl
  | ok lexer =>
    show (lexer.toLower.close >>= _) = (lexer.close >>= _)
    rw [Lexer.close_toLower]

theorem Operation.ofName_map_toLower (text : List Char) :
    Operation.ofName (String.ofList (text.map Char.toLower)) =
      Operation.ofName (String.ofList text) := by
  unfold Operation.ofName Text.lowercase Text.trim
  simp only [String.toList_ofList, Text.trimmed_map_toLower, Text.lowered_map_toLower]

/-- The texts have the same characters, but for the case of letters of ASCII. -/
def Text.SameButCase (text text' : String) : Prop :=
  List.Forall₂ (fun c c' => c.beqCaseInsensitiveAsciiOnly c' = true) text.toList text'.toList

theorem Text.SameButCase.map_toLower {text text' : String} (h : Text.SameButCase text text') :
    text.toList.map Char.toLower = text'.toList.map Char.toLower := by
  rw [← List.forall₂_eq_eq_eq, List.forall₂_map_left_iff, List.forall₂_map_right_iff]
  exact h.imp fun c c' hc => beq_iff_eq.mp hc

/-- **The case of letters of ASCII does not matter**, whatever stands around them: to the tokens of
    a text, to its value and to the operation of that name; and in case of an error, to what it
    says. -/
theorem readings_of_sameButCase {text text' : String} (h : Text.SameButCase text text') :
    tokenize text = tokenize text' ∧ evaluate text = evaluate text' ∧
      Operation.ofName text = Operation.ofName text' := by
  have hmap := h.map_toLower
  have htokens : tokenize text = tokenize text' := by
    have hsmall := tokenize_map_toLower text.toList
    rw [hmap, tokenize_map_toLower, String.ofList_toList, String.ofList_toList] at hsmall
    exact hsmall.symm
  have hname : Operation.ofName text = Operation.ofName text' := by
    have hsmall := Operation.ofName_map_toLower text.toList
    rw [hmap, Operation.ofName_map_toLower, String.ofList_toList, String.ofList_toList] at hsmall
    exact hsmall.symm
  refine ⟨htokens, ?_, hname⟩
  unfold evaluate
  rw [htokens]

/-- The sigma at the end stays final behind a letter in either case. -/
theorem readings_of_sameButCase_sigma :
    Text.SameButCase "SIN(90) + ΣaΣ" "sin(90) + ΣAΣ" ∧
      tokenize "SIN(90) + ΣaΣ" = tokenize "sin(90) + ΣAΣ" ∧
      evaluate "SIN(90) + ΣaΣ" = .error (.unsupportedToken "σaς") ∧
      Operation.ofName "SIN(90) + ΣaΣ" = .error (.unsupportedOperation "sin(90) + σaς") := by
  have hsame : Text.SameButCase "SIN(90) + ΣaΣ" "sin(90) + ΣAΣ" := by
    unfold Text.SameButCase
    decide
  obtain ⟨htokens, hvalue, hname⟩ := readings_of_sameButCase hsame
  refine ⟨hsame, htokens, hvalue.trans ?_, hname.trans ?_⟩
  · decide +kernel
  · decide +kernel

end Calculator
