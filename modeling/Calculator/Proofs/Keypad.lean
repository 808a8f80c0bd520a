import Calculator.Proofs.Writing
import Calculator.Session.Window

/-!
# What the keypad writes

The keys of the keypad write with spaces, and take spaces away that are in their way. What is read
of the entry is decided by one of these spaces alone, the one that an operator leaves behind itself:
whatever has been pressed, the lexer stands after the entry where it stands after the texts of the
keys with a space behind each operator (`Entry.run_foldl_insert`).

That space matters behind a minus where an operand is due. Without it a digit or a point that
comes next would make the minus its sign; with it the minus stands for `0 -`. As long as no such
minus is followed by a digit or a point at once (`Entry.signsApart`), the entry is read as the texts
of the keys as such (`Window.evaluate_afterKeys`); otherwise it need not be, since `2*-3` is
written `2 * - 3` (`Window.not_evaluate_afterKeys`).
-/

namespace Calculator

/-! ## 1. Names that are open -/

/-- The text does not end in a letter. -/
def Text.EndsNoWord (text : List Char) : Prop :=
  ∀ c ∈ text.getLast?, Text.isLetter c = false

theorem Text.endsNoWord_nil : Text.EndsNoWord [] := fun _ => nofun

theorem Text.endsNoWord_concat (before : List Char) {c : Char} (hc : Text.isLetter c = false) :
    Text.EndsNoWord (before ++ [c]) := by
  intro last hlast
  simp only [List.getLast?_concat, Option.mem_def, Option.some.injEq] at hlast
  rw [← hlast]
  exact hc

namespace Lexer

/-- No name is open. -/
def NoWord (lexer : Lexer) : Prop :=
  ∀ letters, lexer.opened ≠ .word letters

/-- Only a letter leaves a name open. -/
theorem noWord_of_run {text : List Char} {lexer : Lexer} (h : start.run text = .ok lexer)
    (hlast : Text.EndsNoWord text) : lexer.NoWord := by
  rcases List.eq_nil_or_concat text with rfl | ⟨before, c, rfl⟩
  · cases h
    exact fun _ => nofun
  · rw [List.concat_eq_append] at h hlast
    intro letters hword
    have hletter : OpenedBy c (.word letters) := hword ▸ openedBy_of_run h
    exact Bool.eq_false_iff.mp (hlast c (by simp)) hletter

/-- Unless a name is open a letter begins one. -/
theorem NoWord.continued? {lexer : Lexer} (h : lexer.NoWord) {c : Char}
    (hc : Text.isLetter c = true) : Lexer.continued? lexer.opened c = none := by
  have hnumeral := Text.isNumeral_of_isLetter hc
  unfold Lexer.continued?
  split
  · rfl
  · simp [hnumeral]
  · simp [hnumeral]
  · rename_i letters hopened
    exact absurd hopened (h letters)

/-! ## 2. A minus that waits -/

/-- The state once a minus that waits for its meaning has stopped to wait. -/
def settled : Lexer → Lexer
  | ⟨tokens, .minus⟩ => ⟨.operator .sub :: .number Number.zero :: tokens, .nothing⟩
  | lexer => lexer

theorem settled_of_ne_minus {lexer : Lexer} (h : lexer.opened ≠ .minus) :
    lexer.settled = lexer := by
  obtain ⟨tokens, opened⟩ := lexer
  cases opened with
  | minus => exact absurd rfl h
  | nothing => rfl
  | literal negative run => rfl
  | word letters => rfl

theorem close_settled (lexer : Lexer) : lexer.settled.close = lexer.close := by
  obtain ⟨tokens, opened⟩ := lexer
  cases opened <;> rfl

theorem NoWord.settled {lexer : Lexer} (h : lexer.NoWord) : lexer.settled.NoWord := by
  obtain ⟨tokens, opened⟩ := lexer
  cases opened with
  | minus => exact fun _ => nofun
  | nothing => exact h
  | literal negative run => exact h
  | word letters => exact h

end Lexer

namespace Entry

/-! ## 3. The text of a key -/

/-- The text of a key, with a space behind an operator. -/
def spacedText : Key → List Char
  | .operator o => [o.symbol, ' ']
  | key => keyText key

/-- The key writes a character of a literal. -/
def isNumeralKey : Key → Bool
  | .digit _ | .point => true
  | _ => false

/-- After the key an operand is due. -/
def leavesDue : Key → Bool
  | .digit _ | .point | .closeParen => false
  | .operator _ | .openParen | .function _ => true

theorem isNumeral_digitChar (d : Fin 10) : Number.isNumeral (Nat.digitChar d) = true := by
  revert d
  decide

theorem exists_numeral {k : Key} (hk : isNumeralKey k = true) :
    ∃ c, Number.isNumeral c = true ∧ keyText k = [c] ∧ spacedText k = [c] := by
  cases k with
  | digit d => exact ⟨_, isNumeral_digitChar d, rfl, rfl⟩
  | point => exact ⟨'.', rfl, rfl, rfl⟩
  | operator o => cases hk
  | openParen => cases hk
  | closeParen => cases hk
  | function f => cases hk

end Entry

namespace Lexer

open Entry

/-- The state that a key leads to from complete tokens, if it is no digit or point. -/
def afterKey (tokens : List Token) : Key → Lexer
  | .operator o =>
    if o = .sub ∧ operandDue tokens then ⟨tokens, .minus⟩ else ⟨.operator o :: tokens, .nothing⟩
  | .openParen => ⟨.openParen :: tokens, .nothing⟩
  | .closeParen => ⟨.closeParen :: tokens, .nothing⟩
  | .function f => ⟨.openParen :: .name f.name :: tokens, .nothing⟩
  | _ => ⟨tokens, .nothing⟩

theorem run_callText (tokens : List Token) (f : Func) :
    run ⟨tokens, .nothing⟩ (callText f) = .ok (afterKey tokens (.function f)) := by
  have hname : tokensFrom ⟨tokens, .nothing⟩ f.name.toList = .ok (.name f.name :: tokens) := by
    rw [← List.append_nil f.name.toList]
    exact tokensFrom_spells f.spells_name Text.blanks_nil tokens
  obtain ⟨middle, hrun, hclose⟩ := exists_of_bind_ok hname
  rw [callText, run_append, hrun]
  show middle.run ['('] = _
  rw [run_of_continued? (continued?_of_separates Text.separates_openParen _), hclose]
  rfl

/-- What a key comes to with nothing open. -/
theorem run_keyText_nothing (tokens : List Token) {k : Key} (hk : isNumeralKey k = false) :
    run ⟨tokens, .nothing⟩ (keyText k) = .ok (afterKey tokens k) ∧
      run ⟨tokens, .nothing⟩ (spacedText k) = .ok (afterKey tokens k).settled := by
  cases k with
  | digit d => cases hk
  | point => cases hk
  | operator o =>
    have hsymbol : ∀ rest, run ⟨tokens, .nothing⟩ (o.symbol :: rest) =
        (afterKey tokens (.operator o)).run rest := by
      intro rest
      rw [run_cons, step_nothing, begin_symbol, afterKey]
      split <;> rfl
    refine ⟨hsymbol [], (hsymbol [' ']).trans ?_⟩
    unfold afterKey
    dsimp only
    split <;> rfl
  | openParen => exact ⟨rfl, rfl⟩
  | closeParen => exact ⟨rfl, rfl⟩
  | function f => exact ⟨run_callText tokens f, run_callText tokens f⟩

/-- **What a key comes to**, if it is no digit or point: it ends what is open, and leaves at most a
    minus that waits, which the space behind it settles. Only a function name would go on with a
    name that is open. -/
theorem run_keyText {lexer : Lexer} {k : Key} (hk : isNumeralKey k = false)
    (hword : ∀ f, k = .function f → lexer.NoWord) :
    lexer.run (keyText k) = (lexer.close >>= fun tokens => .ok (afterKey tokens k)) ∧
      lexer.run (spacedText k) =
        (lexer.close >>= fun tokens => .ok (afterKey tokens k).settled) := by
  obtain ⟨c, rest, rest', hkey, hspaced, hc⟩ : ∃ c rest rest', keyText k = c :: rest ∧
      spacedText k = c :: rest' ∧ continued? lexer.opened c = none := by
    cases k with
    | digit d => cases hk
    | point => cases hk
    | operator o => exact ⟨_, _, _, rfl, rfl, continued?_of_separates (Text.separates_symbol o) _⟩
    | openParen => exact ⟨_, _, _, rfl, rfl, continued?_of_separates Text.separates_openParen _⟩
    | closeParen => exact ⟨_, _, _, rfl, rfl, continued?_of_separates Text.separates_closeParen _⟩
    | function f =>
      obtain ⟨c, rest, hcall, hletter⟩ : ∃ c rest, callText f = c :: rest ∧
          Text.isLetter c = true := by
        cases f <;> exact ⟨_, _, rfl, Text.isLetter_of_isAlpha (by decide)⟩
      exact ⟨c, rest, rest, hcall, hcall, (hword f rfl).continued? hletter⟩
  constructor
  · rw [hkey, run_of_continued? hc, ← hkey]
    simp only [(run_keyText_nothing _ hk).1]
  · rw [hspaced, run_of_continued? hc, ← hspaced]
    simp only [(run_keyText_nothing _ hk).2]

end Lexer

namespace Entry

/-! ## 4. Spaces -/

/-- Spaces at the end are all that is stripped. -/
theorem exists_stripSpaces (text : List Char) :
    ∃ spaces, Text.Blanks spaces ∧ text = stripSpaces text ++ spaces := by
  obtain ⟨spaces, hspaces, htext⟩ := Text.exists_stripped (· == ' ') text
  refine ⟨spaces, ?_, htext⟩
  intro c hc
  rw [beq_iff_eq.mp (hspaces c hc)]
  decide

theorem tokensFrom_stripSpaces (lexer : Lexer) (text : List Char) :
    lexer.tokensFrom (stripSpaces text) = lexer.tokensFrom text := by
  obtain ⟨spaces, hspaces, htext⟩ := exists_stripSpaces text
  rw [← Lexer.tokensFrom_append_blanks hspaces, ← htext]

theorem tokensFrom_append_space (lexer : Lexer) (text : List Char) :
    lexer.tokensFrom (text ++ [' ']) = lexer.tokensFrom text :=
  Lexer.tokensFrom_append_blanks (by decide : Text.Blanks [' ']) lexer text

/-- A function name must not come right behind another name. -/
def Apart (text : List Char) (k : Key) : Prop :=
  ∀ f, k = .function f → Text.EndsNoWord text

/-- What a key but a digit or the point leaves of the text before it, up to spaces at the end. -/
theorem exists_insert {text : List Char} {k : Key} (hk : isNumeralKey k = false)
    (hapart : Apart text k) :
    ∃ before, insert text k = before ++ spacedText k ∧ Apart before k ∧
      Lexer.start.tokensFrom before = Lexer.start.tokensFrom text := by
  cases k with
  | digit d => cases hk
  | point => cases hk
  | closeParen => exact ⟨stripSpaces text, rfl, nofun, tokensFrom_stripSpaces _ text⟩
  | openParen =>
    refine ⟨setApart text, rfl, nofun, ?_⟩
    unfold setApart
    split
    · exact tokensFrom_append_space _ text
    · rfl
  | operator o =>
    refine ⟨_, rfl, nofun, ?_⟩
    rw [← tokensFrom_stripSpaces _ text]
    split
    · rename_i hempty
      rw [List.isEmpty_iff.mp hempty]
    · exact tokensFrom_append_space _ _
  | function f =>
    refine ⟨setApart text, rfl, ?_, ?_⟩
    · unfold setApart
      split
      · exact fun _ _ => Text.endsNoWord_concat text Text.isLetter_space
      · exact hapart
    · unfold setApart
      split
      · exact tokensFrom_append_space _ text
      · rfl

/-- What a key but a digit or the point comes to behind a text, without and with the space behind
    it. -/
theorem run_append_key {text : List Char} {k : Key} (hk : isNumeralKey k = false)
    (hapart : Apart text k) :
    Lexer.start.run (text ++ keyText k) =
        (Lexer.start.tokensFrom text >>= fun tokens => .ok (Lexer.afterKey tokens k)) ∧
      Lexer.start.run (text ++ spacedText k) =
        (Lexer.start.tokensFrom text >>= fun tokens =>
          .ok (Lexer.afterKey tokens k).settled) := by
  rw [Lexer.run_append, Lexer.run_append]
  unfold Lexer.tokensFrom
  cases hrun : Lexer.start.run text with
  | error e => exact ⟨rfl, rfl⟩
  | ok lexer => exact Lexer.run_keyText hk fun f hf => Lexer.noWord_of_run hrun (hapart f hf)

/-- **A key is read behind any text as its own text is**, with a space behind an operator. -/
theorem run_insert {text : List Char} {k : Key} (hapart : Apart text k) :
    Lexer.start.run (insert text k) = Lexer.start.run (text ++ spacedText k) := by
  cases hk : isNumeralKey k with
  | true =>
    cases k with
    | digit d => rfl
    | point => rfl
    | operator o => cases hk
    | openParen => cases hk
    | closeParen => cases hk
    | function f => cases hk
  | false =>
    obtain ⟨before, hinsert, hbefore, htokens⟩ := exists_insert hk hapart
    rw [hinsert, (run_append_key hk hbefore).2, (run_append_key hk hapart).2, htokens]

/-! ## 5. A row of keys -/

/-- No key writes a letter last. -/
theorem endsNoWord_insert (text : List Char) (k : Key) : Text.EndsNoWord (insert text k) := by
  cases k with
  | digit d => exact Text.endsNoWord_concat _ (Text.isLetter_of_isNumeral (isNumeral_digitChar d))
  | point => exact Text.endsNoWord_concat _ (Text.isLetter_of_isNumeral rfl)
  | closeParen => exact Text.endsNoWord_concat _ Text.isLetter_closeParen
  | openParen => exact Text.endsNoWord_concat _ Text.isLetter_openParen
  | operator o =>
    show Text.EndsNoWord (_ ++ ([o.symbol] ++ [' ']))
    rw [← List.append_assoc]
    exact Text.endsNoWord_concat _ Text.isLetter_space
  | function f =>
    show Text.EndsNoWord (_ ++ (f.name.toList ++ ['(']))
    rw [← List.append_assoc]
    exact Text.endsNoWord_concat _ Text.isLetter_openParen

/-- **The entry is read as the texts of the keys with a space behind each operator**, whatever
    keys were pressed. -/
theorem run_foldl_insert {text plain : List Char}
    (hlast : Text.EndsNoWord text) (h : Lexer.start.run text = Lexer.start.run plain)
    (keys : List Key) :
    Lexer.start.run (keys.foldl insert text) =
      Lexer.start.run (plain ++ keys.flatMap spacedText) := by
  induction keys generalizing text plain with
  | nil =>
    rw [List.flatMap_nil, List.append_nil]
    exact h
  | cons k keys ih =>
    have hk : Lexer.start.run (insert text k) = Lexer.start.run (plain ++ spacedText k) := by
      rw [run_insert fun _ _ => hlast, Lexer.run_append, h, ← Lexer.run_append]
    rw [List.foldl_cons, ih (endsNoWord_insert text k) hk, List.flatMap_cons, List.append_assoc]

/-! ## 6. Signs -/

/-- No minus that is pressed where an operand is due is followed by a digit or the point at once. -/
def signsApart : Bool → List Key → Bool
  | _, [] => true
  | due, k :: keys =>
    !(due && k == .operator .sub && keys.head?.any isNumeralKey) && signsApart (leavesDue k) keys

end Entry

namespace Lexer

open Entry

/-- The lexer between two keys: no name is open, and it is known whether an operand is due. -/
structure Between (due : Bool) (lexer : Lexer) : Prop where
  noWord : lexer.NoWord
  operandDue_close : ∀ tokens, lexer.close = .ok tokens → operandDue tokens = due

theorem between_start : Between true start where
  noWord := fun _ => nofun
  operandDue_close := by
    intro tokens h
    cases h
    rfl

/-- A literal that is open goes on, or one begins, unless a minus waits. -/
theorem exists_run_numeral {lexer : Lexer} {due : Bool} (h : Between due lexer)
    (hminus : lexer.opened ≠ .minus) {c : Char} (hc : Number.isNumeral c = true) :
    ∃ negative run, lexer.run [c] = .ok ⟨lexer.tokens, .literal negative run⟩ := by
  obtain ⟨tokens, opened⟩ := lexer
  rw [run_cons]
  cases opened with
  | minus => exact absurd rfl hminus
  | word letters => exact absurd rfl (h.noWord letters)
  | nothing =>
    rw [step_nothing, begin_of_isNumeral hc]
    exact ⟨_, _, rfl⟩
  | literal negative run =>
    have hstep : step ⟨tokens, .literal negative run⟩ c =
        .ok ⟨tokens, .literal negative (c :: run)⟩ := by
      simp [step, continued?, hc]
    rw [hstep]
    exact ⟨_, _, rfl⟩

theorem between_literal (tokens : List Token) (negative : Bool) (run : List Char) :
    Between false ⟨tokens, .literal negative run⟩ where
  noWord := fun _ => nofun
  operandDue_close := by
    intro closed h
    unfold close at h
    dsimp only at h
    split at h
    · cases h
      rfl
    · cases h

/-- A minus waits after a key only if that was a minus, pressed where an operand was due. -/
theorem between_afterKey (tokens : List Token) {k : Key} (hk : isNumeralKey k = false) :
    Between (leavesDue k) (afterKey tokens k) ∧
      ((afterKey tokens k).opened = .minus → k = .operator .sub ∧ operandDue tokens = true) := by
  have hnothing : ∀ token older, operandDue (token :: older) = leavesDue k →
      Between (leavesDue k) ⟨token :: older, .nothing⟩ := by
    intro token older hdue
    refine ⟨fun _ => nofun, ?_⟩
    intro closed hclose
    cases hclose
    exact hdue
  cases k with
  | digit d => cases hk
  | point => cases hk
  | openParen => exact ⟨hnothing _ _ rfl, nofun⟩
  | closeParen => exact ⟨hnothing _ _ rfl, nofun⟩
  | function f => exact ⟨hnothing _ _ rfl, nofun⟩
  | operator o =>
    unfold afterKey
    dsimp only
    split
    · rename_i hminus
      refine ⟨⟨fun _ => nofun, ?_⟩, fun _ => ⟨congrArg Key.operator hminus.1, hminus.2⟩⟩
      intro closed hclose
      cases hclose
      rfl
    · exact ⟨hnothing _ _ rfl, nofun⟩

/-- **One key, without and with the space behind it**: the states differ by a minus that waits. -/
theorem run_key {lexer : Lexer} {due : Bool} (h : Between due lexer) {k : Key}
    (hk : isNumeralKey k = true → lexer.opened ≠ .minus) :
    lexer.settled.run (spacedText k) = (lexer.run (keyText k)).map settled ∧
      ∀ next, lexer.run (keyText k) = .ok next → Between (leavesDue k) next ∧
        (next.opened = .minus → k = .operator .sub ∧ due = true) := by
  cases hnumeral : isNumeralKey k with
  | true =>
    obtain ⟨c, hc, hkey, hspaced⟩ := exists_numeral hnumeral
    obtain ⟨negative, run, hrun⟩ := exists_run_numeral h (hk hnumeral) hc
    have hdue : leavesDue k = false := by
      cases k <;> first | rfl | cases hnumeral
    rw [settled_of_ne_minus (hk hnumeral), hspaced, hkey, hrun, hdue]
    refine ⟨rfl, ?_⟩
    intro next hnext
    cases hnext
    exact ⟨between_literal _ _ _, nofun⟩
  | false =>
    have hplain := (run_keyText hnumeral fun _ _ => h.noWord).1
    have hspaced := (run_keyText hnumeral fun _ _ => h.noWord.settled).2
    rw [hspaced, hplain, close_settled]
    cases hclose : lexer.close with
    | error e => exact ⟨rfl, nofun⟩
    | ok tokens =>
      obtain ⟨hbetween, hminus⟩ := between_afterKey tokens hnumeral
      refine ⟨rfl, ?_⟩
      intro next hnext
      cases hnext
      refine ⟨hbetween, fun hopened => ?_⟩
      obtain ⟨hsub, hdue⟩ := hminus hopened
      exact ⟨hsub, (h.operandDue_close tokens hclose).symm.trans hdue⟩

/-- **A row of keys, without and with the spaces**: it is read as the same tokens, if no sign is
    followed by a digit or the point. -/
theorem tokensFrom_keyTexts {lexer : Lexer} {due : Bool} {keys : List Key}
    (h : Between due lexer)
    (hhead : ∀ k ∈ keys.head?, isNumeralKey k = true → lexer.opened ≠ .minus)
    (hsigns : signsApart due keys = true) :
    lexer.settled.tokensFrom (keys.flatMap spacedText) =
      lexer.tokensFrom (keys.flatMap keyText) := by
  induction keys generalizing lexer due with
  | nil => exact close_settled lexer
  | cons k keys ih =>
    obtain ⟨hspaced, hnext⟩ := run_key h (hhead k rfl)
    rw [List.flatMap_cons, List.flatMap_cons, tokensFrom_append, tokensFrom_append, hspaced]
    cases hrun : lexer.run (keyText k) with
    | error e => rfl
    | ok next =>
      obtain ⟨hbetween, hminus⟩ := hnext next hrun
      simp only [signsApart, Bool.and_eq_true, Bool.not_eq_true'] at hsigns
      refine ih hbetween ?_ hsigns.2
      -- a digit or the point behind a minus that waits is what the signs exclude
      intro k' hk' hnumeral hopened
      obtain ⟨hsub, hdue⟩ := hminus hopened
      have hglued : keys.head?.any isNumeralKey = true := by
        rw [Option.mem_def.mp hk']
        exact hnumeral
      simp [hsub, hdue, hglued] at hsigns

end Lexer

/-! ## 7. The window -/

theorem evaluate_ofList_congr {first second : List Char}
    (h : Lexer.start.tokensFrom first = Lexer.start.tokensFrom second) :
    evaluate (String.ofList first) = evaluate (String.ofList second) := by
  unfold evaluate
  rw [tokenize_eq_tokensFrom, tokenize_eq_tokensFrom, String.toList_ofList, String.toList_ofList, h]

namespace Window

/-- The window after keys of the keypad have been pressed. -/
def afterKeys (w : Window) (keys : List Key) : Window :=
  w.after (keys.map fun k => .press (.key k))

theorem entry_afterKeys (w : Window) (keys : List Key) :
    (w.afterKeys keys).session.entry =
      String.ofList (keys.foldl Entry.insert w.session.entry.toList) := by
  induction keys generalizing w with
  | nil => exact String.ofList_toList.symm
  | cons k keys ih =>
    show ((w.step (.press (.key k))).1.afterKeys keys).session.entry = _
    rw [ih]
    show String.ofList (keys.foldl Entry.insert
      (String.ofList (Entry.insert w.session.entry.toList k)).toList) = _
    rw [String.toList_ofList]
    rfl

/-- **What the keys of the keypad mean.** The entry has the value, or the error, of the texts of
    the keys with a space behind each operator; and without these spaces too, if no minus that was
    pressed where an operand is due is followed by a digit or the point at once. -/
theorem evaluate_afterKeys {w : Window} (hentry : w.session.entry = "") (keys : List Key) :
    evaluate (w.afterKeys keys).session.entry =
        evaluate (String.ofList (keys.flatMap Entry.spacedText)) ∧
      (Entry.signsApart true keys = true →
        evaluate (w.afterKeys keys).session.entry =
          evaluate (String.ofList (keys.flatMap Entry.keyText))) := by
  have hrun : Lexer.start.run (keys.foldl Entry.insert []) =
      Lexer.start.run (keys.flatMap Entry.spacedText) :=
    Entry.run_foldl_insert Text.endsNoWord_nil rfl keys
  have hspaced : evaluate (w.afterKeys keys).session.entry =
      evaluate (String.ofList (keys.flatMap Entry.spacedText)) := by
    rw [entry_afterKeys, hentry]
    refine evaluate_ofList_congr ?_
    unfold Lexer.tokensFrom
    rw [← hrun]
    rfl
  refine ⟨hspaced, fun hsigns => hspaced.trans (evaluate_ofList_congr ?_)⟩
  exact Lexer.tokensFrom_keyTexts Lexer.between_start (fun _ _ _ => nofun) hsigns

/-- A minus between operands, and one before parentheses. -/
theorem evaluate_afterKeys_difference :
    let keys : List Key := [.digit 8, .operator .sub, .digit 3, .operator .mul, .openParen,
      .operator .sub, .openParen, .digit 1, .point, .digit 5, .closeParen, .closeParen]
    let w := opening .fresh
    w.session.entry = "" ∧ Entry.signsApart true keys = true ∧
      (w.afterKeys keys).session.entry = "8 - 3 * ( - (1.5))" ∧
      evaluate (w.afterKeys keys).session.entry = evaluate "8-3*(-(1.5))" ∧
      evaluate "8-3*(-(1.5))" = .ok (Number.ofMagnitude false 0x4029000000000000) := by
  intro keys w
  have hentry : w.session.entry = "" := rfl
  have hsigns : Entry.signsApart true keys = true := by
    decide
  obtain ⟨-, hplain⟩ := evaluate_afterKeys hentry keys
  exact ⟨hentry, hsigns, by decide +kernel, hplain hsigns, by decide +kernel⟩

/-- **A digit right behind a minus key is not what it is in a text**: the keys of `2*-3` write
    `2 * - 3`, which is `2*0-3`. -/
theorem not_evaluate_afterKeys :
    ¬ ∀ (w : Window) (keys : List Key), w.session.entry = "" →
      evaluate (w.afterKeys keys).session.entry =
        evaluate (String.ofList (keys.flatMap Entry.keyText)) := by
  intro h
  have hsame := h (opening .fresh) [.digit 2, .operator .mul, .operator .sub, .digit 3] rfl
  revert hsame
  decide +kernel

end Window

end Calculator
