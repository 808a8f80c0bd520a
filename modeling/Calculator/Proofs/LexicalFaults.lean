import Calculator.Proofs.Pieces

/-!
# Which texts cannot be read

There are two faults that a text can have: a character that has no place in an expression, and a
run of digits and dots that is no literal, taken as long as it is. A text without them is read, and
of a text that has some the one that begins leftmost is told (`tokenize_eq_error_iff_leftmost`). So
whether a text is read does not depend on the order of what stands in it; only what is told of a run
does, since a minus that is its sign is told with it.

A fault is found by looking at the text alone (`Text.Fault`). That the lexer finds the same is
shown piece by piece: a piece is refused exactly if a fault begins with it
(`Lexer.Behind.afterPiece_eq_error_iff`), and none begins inside a piece.
-/

namespace Calculator

namespace Text

/-! ## 1. Faults -/

/-- A run that is no literal: it has no digit, or more than one point. -/
def Malformed (run : List Char) : Prop :=
  (∀ c ∈ run, c.isDigit = false) ∨ 1 < run.count '.'

/-- Between `before` and what follows it a fault begins, which is told as the error. A run is told
    with the minus in front of it if that is a prefix. -/
inductive Fault (before : List Char) : (rest : List Char) → EvalError → Prop where
  | character {c : Char} {rest : List Char} (hc : Foreign c) :
      Fault before (c :: rest) (.unsupportedCharacter c)
  | literal {run rest : List Char} {negative : Bool} (hrun : IsRun run)
      (hmalformed : Malformed run)
      (hbefore : ∀ c ∈ before.getLast?, Number.isNumeral c = false)
      (hrest : ∀ c ∈ rest.head?, Number.isNumeral c = false)
      (hsign : negative = true ↔ EndsInPrefixMinus before) :
      Fault before (run ++ rest)
        (.invalidNumber (String.ofList (Number.signed negative run)))

/-- No fault begins in the text behind `before`. -/
def Faultless (before text : List Char) : Prop :=
  ∀ first second e, text = first ++ second → ¬ Fault (before ++ first) second e

/-- Of the faults that begin in the text behind `before` the leftmost is told as the error. -/
def LeftmostFault (before text : List Char) (e : EvalError) : Prop :=
  ∃ first second, text = first ++ second ∧ Fault (before ++ first) second e ∧
    ∀ first' second' e', text = first' ++ second' → Fault (before ++ first') second' e' →
      first.length ≤ first'.length

theorem malformed_iff (run : List Char) : Malformed run ↔ Number.wellFormed run = false := by
  unfold Malformed Number.wellFormed
  rw [Bool.and_eq_false_iff, decide_eq_false_iff_not, Nat.not_le, List.any_eq_false]
  simp

theorem Ends.of_isRun_right {before run : List Char} (h : Ends before run) (hrun : IsRun run) :
    ∀ c ∈ before.getLast?, Number.isNumeral c = false := by
  intro c hc
  have hhead := hrun.2 _ (List.head_mem hrun.1)
  by_contra hnumeral
  have hapart := h c hc _ (List.head?_eq_some_head hrun.1)
  rw [together_of_isNumeral (by simpa using hnumeral), hhead] at hapart
  cases hapart

theorem Ends.left {before piece rest : List Char} (h : Ends before (piece ++ rest))
    (hne : piece ≠ []) : Ends before piece := by
  intro c hc d hd
  refine h c hc d ?_
  rwa [List.head?_append_of_ne_nil _ hne]

theorem Ends.right {piece text : List Char} (h : Ends piece text) (hne : piece ≠ [])
    {before : List Char} : Ends (before ++ piece) text := by
  intro c hc d hd
  rw [List.getLast?_append_of_ne_nil _ hne] at hc
  exact h c hc d hd

/-- Where a fault begins, a foreign character stands or a run begins. -/
theorem Fault.exists_head {before rest : List Char} {e : EvalError} (h : Fault before rest e) :
    ∃ c ∈ rest.head?, Foreign c ∨
      Number.isNumeral c = true ∧ ∀ d ∈ before.getLast?, Number.isNumeral d = false := by
  cases h with
  | character hc => exact ⟨_, rfl, .inl hc⟩
  | @literal run rest negative hrun _ hbefore _ _ =>
    refine ⟨run.head hrun.1, ?_, .inr ⟨hrun.2 _ (List.head_mem hrun.1), hbefore⟩⟩
    rw [List.head?_append_of_ne_nil _ hrun.1]
    exact List.head?_eq_some_head hrun.1

/-- A fault begins with a digit, with a dot or with a foreign character. -/
theorem not_fault_cons {before rest : List Char} {c : Char} {e : EvalError}
    (hnumeral : Number.isNumeral c = false) (hforeign : ¬ Foreign c) :
    ¬ Fault before (c :: rest) e := by
  intro hfault
  obtain ⟨d, hd, hhead⟩ := hfault.exists_head
  cases Option.some.inj hd
  rcases hhead with hhead | ⟨hd, -⟩
  · exact hforeign hhead
  · rw [hnumeral] at hd
    cases hd

/-- The run is as long as the digits and dots go on. -/
theorem takeWhile_run {run rest : List Char} (hrun : IsRun run)
    (hrest : ∀ c ∈ rest.head?, Number.isNumeral c = false) :
    (run ++ rest).takeWhile Number.isNumeral = run := by
  rw [List.takeWhile_append_of_pos hrun.2]
  cases rest with
  | nil => simp
  | cons c rest => simp [hrest c rfl]

/-- The fault that begins with a run is that of the run. -/
theorem Fault.of_isRun {before run rest : List Char} {e : EvalError} (hrun : IsRun run)
    (hrest : ∀ c ∈ rest.head?, Number.isNumeral c = false) (h : Fault before (run ++ rest) e) :
    Malformed run ∧ ∃ negative : Bool, (negative = true ↔ EndsInPrefixMinus before) ∧
      e = .invalidNumber (String.ofList (Number.signed negative run)) := by
  generalize htext : run ++ rest = text at h
  cases h with
  | @character c _ hc =>
    obtain ⟨d, tail, rfl⟩ := List.exists_cons_of_ne_nil hrun.1
    cases htext
    have hnumeral := hrun.2 c List.mem_cons_self
    rw [hc.notNumeral] at hnumeral
    cases hnumeral
  | @literal run' rest' negative hrun' hmalformed _ hrest' hsign =>
    have hsame : run = run' := by
      rw [← takeWhile_run hrun hrest, htext, takeWhile_run hrun' hrest']
    subst hsame
    exact ⟨hmalformed, negative, hsign, rfl⟩

/-- The fault that begins with a foreign character is that character. -/
theorem Fault.of_foreign {before rest : List Char} {c : Char} {e : EvalError} (hc : Foreign c)
    (h : Fault before (c :: rest) e) : e = .unsupportedCharacter c := by
  generalize htext : c :: rest = text at h
  cases h with
  | character _ =>
    cases htext
    rfl
  | @literal run _ _ hrun _ _ _ _ =>
    obtain ⟨d, tail, rfl⟩ := List.exists_cons_of_ne_nil hrun.1
    cases htext
    have hnumeral := hrun.2 c List.mem_cons_self
    rw [hc.notNumeral] at hnumeral
    cases hnumeral

/-- One fault begins at a place, at most. -/
theorem Fault.unique {before rest : List Char} {e e' : EvalError} (h : Fault before rest e)
    (h' : Fault before rest e') : e = e' := by
  cases h with
  | character hc => exact (h'.of_foreign hc).symm
  | @literal run rest negative hrun _ _ hrest hsign =>
    obtain ⟨-, negative', hsign', rfl⟩ := h'.of_isRun hrun hrest
    rw [Bool.eq_iff_iff.mpr (hsign.trans hsign'.symm)]

/-! ## 2. Faults and pieces -/

/-- A foreign character is a piece of its own. -/
theorem Piece.eq_of_foreign {piece : List Char} (h : Piece piece) {c : Char} (hmem : c ∈ piece)
    (hc : Foreign c) : piece = [c] := by
  cases h with
  | run hrun => exact absurd (hrun.2 c hmem) (by simp [hc.notNumeral])
  | word hword => exact absurd (hword.2 c hmem) (by simp [hc.notLetter])
  | blank _ => rw [List.mem_singleton.mp hmem]
  | operator _ => rw [List.mem_singleton.mp hmem]
  | openParen => rw [List.mem_singleton.mp hmem]
  | closeParen => rw [List.mem_singleton.mp hmem]
  | foreign _ => rw [List.mem_singleton.mp hmem]

/-- **No fault begins inside a piece.** -/
theorem Piece.not_fault_inside {before first second rest : List Char} {e : EvalError}
    (h : Piece (first ++ second)) (hfirst : first ≠ []) (hsecond : second ≠ []) :
    ¬ Fault (before ++ first) (second ++ rest) e := by
  intro hfault
  obtain ⟨c, hc, hhead⟩ := hfault.exists_head
  rw [List.head?_append_of_ne_nil _ hsecond] at hc
  have hmem : c ∈ first ++ second := List.mem_append_right _ (List.mem_of_mem_head? hc)
  rcases hhead with hforeign | ⟨hnumeral, hbefore⟩
  · have hsingle := h.eq_of_foreign hmem hforeign
    rw [List.append_eq_singleton_iff] at hsingle
    rcases hsingle with ⟨hnil, -⟩ | ⟨-, hnil⟩
    · exact hfirst hnil
    · exact hsecond hnil
  · -- the run goes on to the left
    have hlast : first.getLast hfirst ∈ (before ++ first).getLast? := by
      rw [List.getLast?_append_of_ne_nil _ hfirst]
      exact List.getLast_mem_getLast? hfirst
    have hrun := h.isRun_of_isNumeral hmem hnumeral
    have hnumeral := hrun.2 _ (List.mem_append_left _ (List.getLast_mem hfirst))
    rw [hbefore _ hlast] at hnumeral
    cases hnumeral

/-- A fault of a text begins with its first piece or behind it. -/
theorem Piece.fault_cases {before piece rest first second : List Char} {e : EvalError}
    (h : Piece piece) (htext : piece ++ rest = first ++ second)
    (hfault : Fault (before ++ first) second e) :
    (first = [] ∧ Fault before (piece ++ rest) e) ∨
      ∃ further, first = piece ++ further ∧ rest = further ++ second ∧
        Fault (before ++ piece ++ further) second e := by
  rcases List.append_eq_append_iff.mp htext with ⟨further, rfl, rfl⟩ | ⟨within, rfl, rfl⟩
  · refine .inr ⟨further, rfl, rfl, ?_⟩
    rwa [List.append_assoc]
  · by_cases hfirst : first = []
    · subst hfirst
      refine .inl ⟨rfl, ?_⟩
      rwa [List.append_nil] at hfault
    by_cases hwithin : within = []
    · subst hwithin
      refine .inr ⟨[], by simp, rfl, ?_⟩
      rwa [List.append_nil, List.append_nil]
    · exact absurd hfault (h.not_fault_inside hfirst hwithin)

theorem faultless_nil (before : List Char) : Faultless before [] := by
  intro first second e htext hfault
  obtain ⟨-, rfl⟩ := List.append_eq_nil_iff.mp htext.symm
  obtain ⟨c, hc, -⟩ := hfault.exists_head
  cases hc

theorem Faultless.append {before piece rest : List Char} (h : Faultless (before ++ piece) rest)
    (hpiece : Piece piece) (hnone : ∀ e, ¬ Fault before (piece ++ rest) e) :
    Faultless before (piece ++ rest) := by
  intro first second e htext hfault
  rcases hpiece.fault_cases htext hfault with ⟨-, hhere⟩ | ⟨further, -, hrest, hbeyond⟩
  · exact hnone e hhere
  · exact h further second e hrest hbeyond

theorem Fault.leftmost {before text : List Char} {e : EvalError} (h : Fault before text e) :
    LeftmostFault before text e :=
  ⟨[], text, rfl, by rwa [List.append_nil], fun _ _ _ _ _ => Nat.zero_le _⟩

theorem LeftmostFault.append {before piece rest : List Char} {e : EvalError}
    (h : LeftmostFault (before ++ piece) rest e) (hpiece : Piece piece)
    (hnone : ∀ e, ¬ Fault before (piece ++ rest) e) : LeftmostFault before (piece ++ rest) e := by
  obtain ⟨first, second, rfl, hfault, hleast⟩ := h
  refine ⟨piece ++ first, second, (List.append_assoc _ _ _).symm, ?_, ?_⟩
  · rwa [← List.append_assoc]
  · intro first' second' e' htext hfault'
    rcases hpiece.fault_cases htext hfault' with ⟨-, hhere⟩ | ⟨further, rfl, hrest, hbeyond⟩
    · exact absurd hhere (hnone e')
    · rw [List.length_append, List.length_append]
      exact Nat.add_le_add_left (hleast further second' e' hrest hbeyond) _

/-- What is told of a text is one fault. -/
theorem LeftmostFault.unique {before text : List Char} {e e' : EvalError}
    (h : LeftmostFault before text e) (h' : LeftmostFault before text e') : e = e' := by
  obtain ⟨first, second, rfl, hfault, hleast⟩ := h
  obtain ⟨first', second', htext, hfault', hleast'⟩ := h'
  have hlength : first.length = first'.length :=
    Nat.le_antisymm (hleast first' second' e' htext hfault') (hleast' first second e rfl hfault)
  obtain ⟨rfl, rfl⟩ := List.append_inj htext hlength
  exact hfault.unique hfault'

end Text

namespace Lexer

/-- **A piece is refused exactly if a fault begins with it**, and with the error of the fault. -/
theorem Behind.afterPiece_eq_error_iff {before piece rest : List Char} {lexer : Lexer}
    (h : lexer.Behind before) (hpiece : Text.Piece piece) (hends : Text.Ends piece rest)
    (hbefore : Text.Ends before piece) (e : EvalError) :
    lexer.afterPiece piece = .error e ↔ Text.Fault before (piece ++ rest) e := by
  cases hpiece with
  | run hrun =>
    have hsign : decide (lexer.opened = .minus) = true ↔ Text.EndsInPrefixMinus before := by
      rw [decide_eq_true_iff]
      exact h.minus
    have hread := Number.read?_isSome (decide (lexer.opened = .minus)) piece
    rw [h.clear.afterPiece_run hrun]
    split
    · rename_i x hx
      rw [hx] at hread
      refine iff_of_false nofun fun hfault => ?_
      have hmalformed := (hfault.of_isRun hrun (hends.of_isRun hrun)).1
      rw [Text.malformed_iff, ← hread] at hmalformed
      cases hmalformed
    · rename_i hx
      rw [hx] at hread
      constructor
      · intro he
        cases he
        exact .literal hrun ((Text.malformed_iff piece).mpr hread.symm)
          (hbefore.of_isRun_right hrun) (hends.of_isRun hrun) hsign
      · intro hfault
        obtain ⟨-, negative, hnegative, rfl⟩ := hfault.of_isRun hrun (hends.of_isRun hrun)
        rw [Bool.eq_iff_iff.mpr (hsign.trans hnegative.symm)]
  | word hword =>
    obtain ⟨c, letters, rfl⟩ := List.exists_cons_of_ne_nil hword.1
    have hc := hword.2 c List.mem_cons_self
    rw [h.clear.afterPiece_word hword]
    refine iff_of_false nofun (Text.not_fault_cons (Text.isNumeral_of_isLetter hc) ?_)
    intro hforeign
    cases hc.symm.trans hforeign.notLetter
  | blank hc =>
    rw [h.clear.afterPiece_blank hc]
    refine iff_of_false nofun (Text.not_fault_cons (Text.isNumeral_of_isBlank hc) ?_)
    intro hforeign
    cases hc.symm.trans hforeign.notBlank
  | operator o =>
    have hnumeral : Number.isNumeral o.symbol = false := by
      cases o <;> decide
    rw [h.clear.afterPiece_operator]
    refine iff_of_false (by split <;> nofun) (Text.not_fault_cons hnumeral ?_)
    exact fun hforeign => hforeign.notSymbol o rfl
  | openParen =>
    rw [h.clear.afterPiece_openParen]
    exact iff_of_false nofun (Text.not_fault_cons (by decide) fun hc => hc.notParen.1 rfl)
  | closeParen =>
    rw [h.clear.afterPiece_closeParen]
    exact iff_of_false nofun (Text.not_fault_cons (by decide) fun hc => hc.notParen.2 rfl)
  | foreign hc =>
    rw [h.clear.afterPiece_foreign hc]
    constructor
    · intro he
      cases he
      exact .character hc
    · intro hfault
      rw [hfault.of_foreign hc]

/-- **The lexer finds the leftmost fault**, and fails for no other reason. -/
theorem Behind.faults {before : List Char} {lexer : Lexer} {cut : List (List Char)}
    (h : lexer.Behind before) (hcut : Text.IsCut cut) (hbefore : Text.Ends before cut.flatten) :
    (∀ tokens, lexer.tokensFrom cut.flatten = .ok tokens → Text.Faultless before cut.flatten) ∧
      ∀ e, lexer.tokensFrom cut.flatten = .error e →
        Text.LeftmostFault before cut.flatten e := by
  -- over the pieces; a fault begins with the first one, and is told there, or behind it
  induction cut generalizing before lexer with
  | nil =>
    refine ⟨fun _ _ => Text.faultless_nil before, fun e he => ?_⟩
    cases h.clear.close.symm.trans he
  | cons piece cut ih =>
    obtain ⟨hpiece, hends, hrest⟩ := hcut.cons
    have herror := h.afterPiece_eq_error_iff hpiece hends (hbefore.left hpiece.ne_nil)
    rw [List.flatten_cons, h.clear.tokensFrom_append hpiece hends]
    cases hnext : lexer.afterPiece piece with
    | error e =>
      refine ⟨nofun, fun e' he => ?_⟩
      cases he
      exact ((herror e).mp hnext).leftmost
    | ok next =>
      have hnone : ∀ e, ¬ Text.Fault before (piece ++ cut.flatten) e := by
        intro e hfault
        cases hnext.symm.trans ((herror e).mpr hfault)
      obtain ⟨hok, hfail⟩ := ih (h.afterPiece hpiece hnext) hrest (hends.right hpiece.ne_nil)
      exact ⟨fun tokens htokens => (hok tokens htokens).append hpiece hnone,
        fun e he => (hfail e he).append hpiece hnone⟩

end Lexer

/-! ## 3. Texts -/

theorem faults_of_tokenize (text : String) :
    (∀ tokens, tokenize text = .ok tokens → Text.Faultless [] text.toList) ∧
      ∀ e, tokenize text = .error e → Text.LeftmostFault [] text.toList e := by
  obtain ⟨hok, hfail⟩ := Lexer.behind_start.faults (Text.isCut_pieces text.toList) nofun
  rw [Text.flatten_pieces] at hok hfail
  refine ⟨fun tokens htokens => hok _ (tokenize_eq_ok_iff.mp htokens), fun e he => hfail e ?_⟩
  rw [tokenize_eq_tokensFrom] at he
  cases hrun : Lexer.start.tokensFrom text.toList with
  | error e' =>
    rw [hrun] at he
    cases he
    rfl
  | ok tokens =>
    rw [hrun] at he
    cases he

/-- A faultless text has no leftmost fault. -/
theorem Text.LeftmostFault.not_faultless {before text : List Char} {e : EvalError}
    (h : LeftmostFault before text e) : ¬ Faultless before text := by
  obtain ⟨first, second, htext, hfault, -⟩ := h
  exact fun hnone => hnone first second e htext hfault

/-- **A text is read exactly if it has no fault**, and of its faults the leftmost is told. -/
theorem tokenize_eq_error_iff_leftmost (text : String) :
    ((∃ tokens, tokenize text = .ok tokens) ↔ Text.Faultless [] text.toList) ∧
      ∀ e, tokenize text = .error e ↔ Text.LeftmostFault [] text.toList e := by
  obtain ⟨hok, hfail⟩ := faults_of_tokenize text
  cases htext : tokenize text with
  | ok tokens =>
    have hnone := hok tokens htext
    exact ⟨iff_of_true ⟨tokens, rfl⟩ hnone,
      fun e => iff_of_false nofun fun hfault => hfault.not_faultless hnone⟩
  | error e =>
    have hfault := hfail e htext
    refine ⟨iff_of_false nofun hfault.not_faultless, fun e' => ⟨fun he => ?_, fun hfault' => ?_⟩⟩
    · cases he
      exact hfault
    · rw [hfault.unique hfault']

example : tokenize "2 *-1..5 + #" = .error (.invalidNumber "-1..5") := by decide +kernel

end Calculator
