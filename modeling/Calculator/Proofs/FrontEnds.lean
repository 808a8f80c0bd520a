import Calculator.Proofs.CommandOutcome
import Calculator.Session.Window

/-!
# The window and the command line

An expression can be given in two places, and what is shown is the same. The window takes the blanks
around its entry away, computes the working too, and bounds the decimals when it is opened; the
command line takes the text as it is, asks for the value alone, and bounds the decimals when the
result is written. So the agreement (`CommandLine.run_eq_shown`) rests on three facts.

* Blanks around a text mean nothing, whichever they are and whatever is wrong between them
  (`evaluate_trim`).
* What the session shows of an entry is the value of the text or the message of its error
  (`Session.evaluate_of_ok`, `Session.evaluate_of_error`), and no message is empty.
* Behind `--` every word is the expression, and a count is read from its decimal text
  (`CommandLine.calculates_digits_expression`).
-/

namespace Calculator

-- powers are those of core, whatever other instances are in sight
attribute [local instance (high)] instPowNat

/-! ## 1. Blanks around a text -/

/-- A text is what is left of it between the blanks that were taken away. -/
theorem Text.exists_trimmed (text : List Char) :
    ∃ before after, Text.Blanks before ∧ Text.Blanks after ∧
      text = before ++ Text.trimmed text ++ after := by
  obtain ⟨after, hafter, hinner⟩ := Text.exists_stripped Text.isBlank (text.dropWhile Text.isBlank)
  refine ⟨text.takeWhile Text.isBlank, after, ?_, hafter, ?_⟩
  · exact fun c hc => List.all_eq_true.mp List.all_takeWhile c hc
  · rw [List.append_assoc]
    unfold Text.trimmed
    rw [← hinner, List.takeWhile_append_dropWhile]

/-- **Blanks around a text change nothing in what is read**, be it tokens or an error. -/
theorem tokenize_trim (text : String) : tokenize (Text.trim text) = tokenize text := by
  obtain ⟨before, after, hbefore, hafter, htext⟩ := Text.exists_trimmed text.toList
  have hsame : Lexer.start.tokensFrom (Text.trimmed text.toList) =
      Lexer.start.tokensFrom text.toList := by
    rw [← Lexer.tokensFrom_blanks hbefore hafter, ← htext]
  rw [tokenize_eq_tokensFrom, tokenize_eq_tokensFrom, Text.trim, String.toList_ofList, hsame]

theorem evaluate_trim (text : String) : evaluate (Text.trim text) = evaluate text := by
  unfold evaluate
  rw [tokenize_trim]

/-! ## 2. What the session shows -/

/-- No error is without a message. -/
theorem EvalError.message_ne_empty (e : EvalError) : e.message ≠ "" := by
  have happend : ∀ {first : String}, first ≠ "" → ∀ rest, first ++ rest ≠ "" :=
    fun hfirst _ h => hfirst (String.append_eq_empty_iff.mp h).1
  cases e with
  | unsupportedCharacter c => exact happend (happend (by decide) _) _
  | invalidNumber literal => exact happend (by decide) _
  | mismatchedParentheses => decide
  | unsupportedToken text => exact happend (by decide) _
  | invalidExpression => decide
  | invalidFunctionUsage => decide
  | divisionByZero => decide
  | outsideDomain f need => cases f <;> exact happend (happend (by decide) _) _
  | unsupportedOperation name => exact happend (by decide) _
  | missingOperand => decide

namespace Session

variable {s : Session}

/-- An entry that has a value is shown with it. -/
theorem evaluate_of_ok {v : Float} (hentry : Text.trim s.entry ≠ "")
    (h : Calculator.evaluate s.entry = .ok v) :
    ∃ working, s.evaluate = s.succeed v working := by
  rw [← evaluate_trim, ← evaluateWithWorking_fst] at h
  have hempty : (Text.trim s.entry).isEmpty = false := by
    simpa using hentry
  cases hworking : evaluateWithWorking (Text.trim s.entry) with
  | error e =>
    rw [hworking] at h
    cases h
  | ok outcome =>
    obtain ⟨value, working⟩ := outcome
    rw [hworking] at h
    cases h
    refine ⟨working, ?_⟩
    simp [evaluate, hempty, hworking]

/-- An entry that has none is shown with the message of its error. -/
theorem evaluate_of_error {e : EvalError} (hentry : Text.trim s.entry ≠ "")
    (h : Calculator.evaluate s.entry = .error e) : s.evaluate = s.fail e.message := by
  rw [← evaluate_trim, ← evaluateWithWorking_fst] at h
  have hempty : (Text.trim s.entry).isEmpty = false := by
    simpa using hentry
  cases hworking : evaluateWithWorking (Text.trim s.entry) with
  | error e' =>
    rw [hworking] at h
    cases h
    simp [evaluate, hempty, hworking]
  | ok outcome =>
    rw [hworking] at h
    cases h

end Session

/-! ## 3. The words of the command line -/

namespace CommandLine

/-- A count is read from its decimal text. -/
theorem count?_toString {d : Nat} (hd : d < 2 ^ (64 : Nat)) : count? (toString d) = some d := by
  have hlist : (toString d).toList = Nat.toDigits 10 d := by
    rw [Nat.toString_eq_ofList_toDigits, String.toList_ofList]
  have hdigit : ∀ c ∈ Nat.toDigits 10 d, c.isDigit = true := fun c hc =>
    Nat.isDigit_of_mem_toDigits (by decide) (by decide) hc
  have hvalue : Nat.ofDigitChars 10 (Nat.toDigits 10 d) 0 = d :=
    Nat.ofDigitChars_ten_toDigits
  obtain ⟨c, rest, hcons⟩ := List.exists_cons_of_ne_nil (Nat.toDigits_ne_nil (n := d) (b := 10))
  rw [hcons] at hlist hdigit hvalue
  have hplus : c ≠ '+' := by
    rintro rfl
    have := hdigit '+' List.mem_cons_self
    cases this
  have hall : (c :: rest).all Char.isDigit = true := List.all_eq_true.mpr hdigit
  unfold count?
  rw [hlist]
  split
  · rename_i heq
    exact absurd (List.cons.inj heq).1 hplus
  · dsimp only
    rw [hvalue, hall, if_neg (by simp), if_pos hd]

/-- The value of `--digits`, and behind `--` the expression, whatever it begins with. -/
theorem ofWords_digits_expression {word : String} {d : Nat} (hword : count? word = some d)
    (text : String) :
    Arguments.ofWords ["--digits", word, "--", text] =
      .ok ⟨some text, .none, .none, .none, some d, 0⟩ := by
  have hreads : Reads false ["--digits", word, "--", text] 0
      [.setting .digits word, .expression text] :=
    .apart (.name .digits) rfl (Scan.canBeValue_plain false .digits (ne_hyphen_of_count? hword))
      (.behindHyphens text)
  have hset : Arguments.none.set .digits word =
      .ok ⟨.none, .none, .none, .none, some d, 0⟩ := by
    simp [Arguments.set, hword, Arguments.none]
  rw [ofWords_of_reads hreads]
  show ((Arguments.none.set .digits word >>= fun args =>
    [Item.expression text].foldlM Arguments.give args) >>= Arguments.accept) = _
  rw [hset]
  rfl

/-- The expression is evaluated, and written with the decimals asked for. -/
theorem calculates_digits_expression {word : String} {d : Nat} (hword : count? word = some d)
    (text : String) :
    Calculates ["--digits", word, "--", text] 0 d (.evaluation text) (evaluate text) :=
  calculates_of_result? (ofWords_digits_expression hword text) rfl rfl rfl

/-! ## 4. Agreement -/

/-- What the window holds once an entry has been typed and evaluated. -/
theorem session_after_evaluate (w : Window) (text : String) :
    (w.after [.type text, .press .evaluate]).session =
      Session.evaluate { w.session with entry := text, focusEntry := false } := by
  have hpress : ∀ w : Window, w.press .evaluate = w.update Session.evaluate := fun _ => rfl
  show ((w.update (·.typeEntry text)).1.drawn.press .evaluate).1.session = _
  rw [hpress, Window.session_update]
  rfl

/-- **The command line prints what the window shows** of a text that is not blank, with the same
    decimals: the result and success, or the error and failure. The window shows an error exactly if
    the text has no value. Nothing is noted besides, unless the environment wants it. -/
theorem run_eq_shown {text : String} {d : Nat} (htext : Text.trim text ≠ "")
    (hd : d < 2 ^ (64 : Nat)) :
    let shown := ((Window.opening (.withDigits d)).after [.type text, .press .evaluate]).session
    run ["--digits", toString d, "--", text] =
        (if shown.error = "" then .done 0 (shown.result ++ "\n") ""
          else .done 1 "" ("erreur: " ++ shown.error ++ "\n")) ∧
      (shown.error = "" ↔ ∃ v, evaluate text = .ok v) ∧
      logged none ["--digits", toString d, "--", text] = [] := by
  intro shown
  let typed : Session := { Session.withDigits d with entry := text, focusEntry := false }
  have hshown : shown = typed.evaluate := session_after_evaluate _ text
  have hcalculates := calculates_digits_expression (count?_toString hd) text
  obtain ⟨hsilent, -⟩ := hcalculates.silent none (.inl ⟨rfl, rfl⟩)
  rw [hcalculates.printed]
  cases h : evaluate text with
  | ok v =>
    obtain ⟨working, hworking⟩ := Session.evaluate_of_ok (s := typed) htext h
    have herror : shown.error = "" := by
      rw [hshown, hworking]
      rfl
    have hresult : shown.result = Number.display (min d Number.maxDigits) v := by
      rw [hshown, hworking]
      rfl
    rw [if_pos herror, hresult]
    exact ⟨rfl, ⟨fun _ => ⟨v, rfl⟩, fun _ => herror⟩, hsilent⟩
  | error e =>
    have hfail := Session.evaluate_of_error (s := typed) htext h
    have herror : shown.error = e.message := by
      rw [hshown, hfail]
      rfl
    rw [herror, if_neg e.message_ne_empty]
    exact ⟨rfl, ⟨fun hempty => absurd hempty e.message_ne_empty, nofun⟩, hsilent⟩

/-- A quotient with more decimals than are ever shown, between a no-break space and a line end. -/
theorem run_quotient_eq_shown :
    let shown := ((Window.opening (.withDigits 500)).after
      [.type "\u00a0-1/3\n", .press .evaluate]).session
    Text.trim "\u00a0-1/3\n" ≠ "" ∧ (500 : Nat) < 2 ^ (64 : Nat) ∧
      run ["--digits", "500", "--", "\u00a0-1/3\n"] = .done 0 (shown.result ++ "\n") "" ∧
      shown.result = "-0.33333333333333331" := by
  intro shown
  have htext : Text.trim "\u00a0-1/3\n" ≠ "" := by
    decide +kernel
  have hd : (500 : Nat) < 2 ^ (64 : Nat) := by
    decide
  obtain ⟨hrun, hiff, -⟩ := run_eq_shown htext hd
  have hvalue : ∃ v, evaluate "\u00a0-1/3\n" = .ok v :=
    ⟨Number.ofMagnitude true 0x3FD5555555555555, by decide +kernel⟩
  rw [if_pos (hiff.mpr hvalue)] at hrun
  exact ⟨htext, hd, hrun, by decide +kernel⟩

end CommandLine

end Calculator
