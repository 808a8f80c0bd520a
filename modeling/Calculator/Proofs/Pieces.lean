import Calculator.Proofs.Keypad
import Mathlib.Data.List.SplitBy

/-!
# Cutting a text into pieces

A text can be cut before anything of it is read: its longest runs of digits and dots, its longest
runs of letters, and every other character alone (`Text.pieces`). The lexer takes one character at
a time, but it works piece by piece: behind a piece nothing is open but, at most, a minus that waits
for its meaning (`Lexer.Clear.tokensFrom_append`).

What it knows of the pieces before is little, and is told by their text alone (`Lexer.Behind`):

* whether an operand is due, which depends on the last character that is no blank;
* whether a minus waits, which then is the last character of all.
-/

namespace Calculator

namespace Text

/-! ## 1. Pieces -/

/-- Side by side the two characters belong to one piece: both are of a literal, or both are
    letters. -/
def together (c d : Char) : Bool :=
  Number.isNumeral c && Number.isNumeral d || isLetter c && isLetter d

/-- The pieces of a text, from left to right: its longest runs of digits and dots, its longest runs
    of letters, and every other character alone. -/
def pieces (text : List Char) : List (List Char) :=
  text.splitBy together

/-- A run of digits and dots. -/
def IsRun (piece : List Char) : Prop :=
  piece ≠ [] ∧ ∀ c ∈ piece, Number.isNumeral c = true

/-- A run of letters. -/
def IsWord (piece : List Char) : Prop :=
  piece ≠ [] ∧ ∀ c ∈ piece, isLetter c = true

/-- A character that has no place in an expression. -/
structure Foreign (c : Char) : Prop where
  notBlank : isBlank c = false
  notNumeral : Number.isNumeral c = false
  notLetter : isLetter c = false
  notSymbol : ∀ o : Operator, c ≠ o.symbol
  notParen : c ≠ '(' ∧ c ≠ ')'

/-- The forms of a piece. -/
inductive Piece : List Char → Prop where
  | run {run : List Char} (hrun : IsRun run) : Piece run
  | word {word : List Char} (hword : IsWord word) : Piece word
  | blank {c : Char} (hc : isBlank c = true) : Piece [c]
  | operator (o : Operator) : Piece [o.symbol]
  | openParen : Piece ['(']
  | closeParen : Piece [')']
  | foreign {c : Char} (hc : Foreign c) : Piece [c]

theorem together_of_isNumeral {c : Char} (hc : Number.isNumeral c = true) (d : Char) :
    together c d = Number.isNumeral d := by
  simp [together, hc, isLetter_of_isNumeral hc]

theorem together_of_isLetter {c : Char} (hc : isLetter c = true) (d : Char) :
    together c d = isLetter d := by
  simp [together, hc, isNumeral_of_isLetter hc]

theorem together_of_separates {c : Char} (hc : separates c = true) (d : Char) :
    together c d = false := by
  simp only [separates, Bool.and_eq_true, Bool.not_eq_true'] at hc
  simp [together, hc]

theorem piece_of_separates {c : Char} (hc : separates c = true) : Piece [c] := by
  simp only [separates, Bool.and_eq_true, Bool.not_eq_true'] at hc
  by_cases hblank : isBlank c = true
  · exact .blank hblank
  by_cases hopen : c = '('
  · exact hopen ▸ .openParen
  by_cases hclose : c = ')'
  · exact hclose ▸ .closeParen
  by_cases hsymbol : ∃ o : Operator, c = o.symbol
  · obtain ⟨o, rfl⟩ := hsymbol
    exact .operator o
  · exact .foreign ⟨Bool.eq_false_iff.mpr hblank, hc.1, hc.2, fun o ho => hsymbol ⟨o, ho⟩,
      hopen, hclose⟩

theorem Piece.ne_nil {piece : List Char} (h : Piece piece) : piece ≠ [] := by
  cases h with
  | run hrun => exact hrun.1
  | word hword => exact hword.1
  | blank _ => exact List.cons_ne_nil _ _
  | operator _ => exact List.cons_ne_nil _ _
  | openParen => exact List.cons_ne_nil _ _
  | closeParen => exact List.cons_ne_nil _ _
  | foreign _ => exact List.cons_ne_nil _ _

/-- Digits and dots are in runs only. -/
theorem Piece.isRun_of_isNumeral {piece : List Char} (h : Piece piece) {c : Char}
    (hmem : c ∈ piece) (hc : Number.isNumeral c = true) : IsRun piece := by
  have hsingle : IsRun [c] := ⟨List.cons_ne_nil _ _, List.forall_mem_singleton.mpr hc⟩
  cases h with
  | run hrun => exact hrun
  | word hword => exact absurd hc (by simp [isNumeral_of_isLetter (hword.2 c hmem)])
  | blank _ => exact List.mem_singleton.mp hmem ▸ hsingle
  | operator _ => exact List.mem_singleton.mp hmem ▸ hsingle
  | openParen => exact List.mem_singleton.mp hmem ▸ hsingle
  | closeParen => exact List.mem_singleton.mp hmem ▸ hsingle
  | foreign _ => exact List.mem_singleton.mp hmem ▸ hsingle

/-- Neighbours that belong together make a piece. -/
theorem piece_of_isChain {piece : List Char} (hne : piece ≠ [])
    (h : piece.IsChain fun c d => together c d = true) : Piece piece := by
  obtain ⟨c, rest, rfl⟩ := List.exists_cons_of_ne_nil hne
  cases hc : separates c with
  | true =>
    -- nothing goes with this character
    cases rest with
    | nil => exact piece_of_separates hc
    | cons d rest =>
      have hcd := (List.isChain_cons_cons.mp h).1
      rw [together_of_separates hc] at hcd
      cases hcd
  | false =>
    simp only [separates, Bool.and_eq_false_iff, Bool.not_eq_false'] at hc
    rcases hc with hnumeral | hletter
    · refine .run ⟨hne, h.induction (Number.isNumeral · = true) _ ?_ fun _ => hnumeral⟩
      intro c d hcd hc
      rwa [together_of_isNumeral hc] at hcd
    · refine .word ⟨hne, h.induction (isLetter · = true) _ ?_ fun _ => hletter⟩
      intro c d hcd hc
      rwa [together_of_isLetter hc] at hcd

/-- The text does not go on with the piece. -/
def Ends (piece text : List Char) : Prop :=
  ∀ c ∈ piece.getLast?, ∀ d ∈ text.head?, together c d = false

/-- These are the pieces of the text they make up. -/
def IsCut (cut : List (List Char)) : Prop :=
  pieces cut.flatten = cut

theorem Ends.of_isRun {run text : List Char} (h : Ends run text) (hrun : IsRun run) :
    ∀ d ∈ text.head?, Number.isNumeral d = false := by
  intro d hd
  have hlast := List.getLast_mem hrun.1
  rw [← together_of_isNumeral (hrun.2 _ hlast)]
  exact h _ (List.getLast_mem_getLast? hrun.1) d hd

theorem Ends.of_isWord {word text : List Char} (h : Ends word text) (hword : IsWord word) :
    ∀ d ∈ text.head?, isLetter d = false := by
  intro d hd
  have hlast := List.getLast_mem hword.1
  rw [← together_of_isLetter (hword.2 _ hlast)]
  exact h _ (List.getLast_mem_getLast? hword.1) d hd

theorem flatten_pieces (text : List Char) : (pieces text).flatten = text :=
  List.flatten_splitBy together text

theorem isCut_pieces (text : List Char) : IsCut (pieces text) := by
  unfold IsCut
  rw [flatten_pieces]

/-- **A text that is cut is a piece, which its rest does not go on with, and the rest is cut.** -/
theorem IsCut.cons {piece : List Char} {cut : List (List Char)} (h : IsCut (piece :: cut)) :
    Piece piece ∧ Ends piece cut.flatten ∧ IsCut cut := by
  obtain ⟨-, hnil, hchain, hapart⟩ := List.splitBy_eq_iff.mp h
  rw [List.mem_cons, not_or] at hnil
  obtain ⟨hpiece, hrest⟩ := List.forall_mem_cons.mp hchain
  refine ⟨piece_of_isChain (Ne.symm hnil.1) hpiece, ?_,
    List.splitBy_flatten hnil.2 hrest hapart.tail⟩
  intro c hc d hd
  cases cut with
  | nil => cases hd
  | cons next cut =>
    obtain ⟨hne, hnext, hcd⟩ := (List.isChain_cons.mp hapart).1 next rfl
    rw [List.flatten_cons, List.head?_append_of_ne_nil _ hnext] at hd
    rwa [List.getLast_of_mem_getLast? hc, List.head_of_mem_head? hd] at hcd

/-! ## 2. Where an operand is due -/

/-- The character is an operator or opens a parenthesis: an operand has to follow. -/
def AsksOperand (c : Char) : Prop :=
  c = '(' ∨ ∃ o : Operator, c = o.symbol

/-- An operand is due behind the text: there is nothing in it but blanks, or it ends, up to blanks,
    in an operator or in `(`. -/
def OperandDue (before : List Char) : Prop :=
  ∀ c ∈ (before.filter (!isBlank ·)).getLast?, AsksOperand c

/-- The text ends in a minus that is a prefix. -/
def EndsInPrefixMinus (before : List Char) : Prop :=
  ∃ earlier, before = earlier ++ ['-'] ∧ OperandDue earlier

theorem operandDue_nil : OperandDue [] := fun _ => nofun

theorem operandDue_concat_blank {c : Char} (hc : isBlank c = true) (before : List Char) :
    OperandDue (before ++ [c]) ↔ OperandDue before := by
  simp [OperandDue, hc]

theorem operandDue_concat {c : Char} (hc : isBlank c = false) (before : List Char) :
    OperandDue (before ++ [c]) ↔ AsksOperand c := by
  simp [OperandDue, hc]

theorem endsInPrefixMinus_concat (before : List Char) (c : Char) :
    EndsInPrefixMinus (before ++ [c]) ↔ c = '-' ∧ OperandDue before := by
  constructor
  · rintro ⟨earlier, heq, hdue⟩
    obtain ⟨rfl, hc⟩ := List.append_inj' heq rfl
    exact ⟨List.singleton_inj.mp hc, hdue⟩
  · rintro ⟨rfl, hdue⟩
    exact ⟨before, rfl, hdue⟩

theorem not_asksOperand_closeParen : ¬ AsksOperand ')' := by
  rintro (hopen | ⟨o, ho⟩)
  · cases hopen
  · cases o <;> exact absurd ho (by decide)

theorem separates_of_asksOperand {c : Char} (h : AsksOperand c) : separates c = true := by
  rcases h with rfl | ⟨o, rfl⟩
  · exact separates_openParen
  · exact separates_symbol o

theorem operandDue_append_operator (before : List Char) (o : Operator) :
    OperandDue (before ++ [o.symbol]) :=
  (operandDue_concat (by cases o <;> decide) before).mpr (.inr ⟨o, rfl⟩)

theorem operandDue_append_openParen (before : List Char) : OperandDue (before ++ ['(']) :=
  (operandDue_concat (by decide) before).mpr (.inl rfl)

theorem not_operandDue_append_closeParen (before : List Char) : ¬ OperandDue (before ++ [')']) :=
  fun h => not_asksOperand_closeParen ((operandDue_concat (by decide) before).mp h)

/-- No operand is due behind a run or a word, and it does not end in a minus. -/
theorem not_operandDue_append_run_or_word {piece : List Char} (h : IsRun piece ∨ IsWord piece)
    (before : List Char) :
    ¬ OperandDue (before ++ piece) ∧ ¬ EndsInPrefixMinus (before ++ piece) := by
  obtain ⟨init, c, rfl⟩ : ∃ init c, piece = init ++ [c] :=
    ⟨_, _, (List.dropLast_append_getLast (h.elim (·.1) (·.1))).symm⟩
  obtain ⟨hblank, hseparates⟩ : isBlank c = false ∧ separates c = false := by
    rcases h with hrun | hword
    · have hc := hrun.2 c (by simp)
      exact ⟨isBlank_of_isNumeral hc, by simp [separates, hc]⟩
    · have hc := hword.2 c (by simp)
      exact ⟨isBlank_of_isLetter hc, by simp [separates, hc]⟩
  have hasks : ¬ AsksOperand c := fun hasks => by
    simp [separates_of_asksOperand hasks] at hseparates
  rw [← List.append_assoc, operandDue_concat hblank, endsInPrefixMinus_concat]
  exact ⟨hasks, fun hminus => hasks (.inr ⟨.sub, hminus.1⟩)⟩

end Text

namespace Lexer

/-! ## 3. Piece by piece -/

/-- No literal and no name is open. -/
def Clear (lexer : Lexer) : Prop :=
  lexer.opened = .nothing ∨ lexer.opened = .minus

/-- The state at the end of a piece: what is open has come to its end too, but for a minus, which
    waits for the next piece. -/
def ended : Lexer → Except EvalError Lexer
  | ⟨tokens, .minus⟩ => .ok ⟨tokens, .minus⟩
  | lexer => lexer.close.map (⟨·, .nothing⟩)

/-- The state after one more piece. -/
def afterPiece (lexer : Lexer) (piece : List Char) : Except EvalError Lexer :=
  lexer.run piece >>= ended

/-- A text is read from the end of what is open, if it does not go on with it. -/
theorem tokensFrom_ended {lexer : Lexer} {text : List Char}
    (h : lexer.opened = .minus ∨ ∀ c ∈ text.head?, continued? lexer.opened c = none) :
    lexer.tokensFrom text = (lexer.ended >>= fun next => next.tokensFrom text) := by
  obtain ⟨tokens, opened⟩ := lexer
  by_cases hminus : opened = .minus
  · subst hminus
    rfl
  have hended : ended ⟨tokens, opened⟩ = (close ⟨tokens, opened⟩).map (⟨·, .nothing⟩) := by
    cases opened with
    | minus => exact absurd rfl hminus
    | nothing => rfl
    | literal negative run => rfl
    | word letters => rfl
  have hnone := h.resolve_left hminus
  rw [hended]
  cases text with
  | nil =>
    show close ⟨tokens, opened⟩ = _
    cases close ⟨tokens, opened⟩ <;> rfl
  | cons c text =>
    unfold tokensFrom
    rw [run_of_continued? (hnone c rfl)]
    cases close ⟨tokens, opened⟩ <;> rfl

theorem Clear.close {lexer : Lexer} (h : lexer.Clear) : lexer.close = .ok lexer.settled.tokens := by
  obtain ⟨tokens, opened⟩ := lexer
  rcases h with hopened | hopened
  · cases hopened
    rfl
  · cases hopened
    rfl

/-- A run of digits and dots opens a literal, to which a minus that waits belongs. -/
theorem Clear.run_isRun {lexer : Lexer} (h : lexer.Clear) {run : List Char}
    (hrun : Text.IsRun run) :
    lexer.run run = .ok ⟨lexer.tokens, .literal (lexer.opened = .minus) run.reverse⟩ := by
  obtain ⟨tokens, opened⟩ := lexer
  obtain ⟨c, rest, rfl⟩ := List.exists_cons_of_ne_nil hrun.1
  obtain ⟨hc, hrest⟩ := List.forall_mem_cons.mp hrun.2
  rw [List.reverse_cons, run_cons]
  rcases h with hopened | hopened
  · cases hopened
    rw [step_nothing, begin_of_isNumeral hc]
    exact run_numerals hrest tokens false [c]
  · cases hopened
    have hstep : step ⟨tokens, .minus⟩ c = .ok ⟨tokens, .literal true [c]⟩ := by
      simp [step, continued?, hc]
    rw [hstep]
    exact run_numerals hrest tokens true [c]

/-- A run of letters opens a name. -/
theorem Clear.run_isWord {lexer : Lexer} (h : lexer.Clear) {word : List Char}
    (hword : Text.IsWord word) :
    lexer.run word = .ok ⟨lexer.settled.tokens, .word word.reverse⟩ := by
  obtain ⟨c, rest, rfl⟩ := List.exists_cons_of_ne_nil hword.1
  obtain ⟨hc, hrest⟩ := List.forall_mem_cons.mp hword.2
  have hnone : continued? lexer.opened c = none := by
    rcases h with hopened | hopened
    · rw [hopened]
      rfl
    · rw [hopened]
      simp [continued?, Text.isNumeral_of_isLetter hc]
  rw [run_of_continued? hnone, h.close, List.reverse_cons]
  show Lexer.run ⟨lexer.settled.tokens, .nothing⟩ (c :: rest) = _
  rw [run_cons, step_nothing, begin_of_isLetter hc]
  exact run_letters hrest lexer.settled.tokens [c]

/-- Any other character is read from the complete tokens. -/
theorem Clear.run_separates {lexer : Lexer} (h : lexer.Clear) {c : Char}
    (hc : Text.separates c = true) : lexer.run [c] = begin lexer.settled.tokens c := by
  rw [run_cons, step_of_separates hc, h.close]
  show (begin lexer.settled.tokens c >>= _) = _
  cases begin lexer.settled.tokens c <;> rfl

/-- A character that separates opens nothing but, at most, a minus. -/
theorem clear_of_begin {tokens : List Token} {c : Char} (hc : Text.separates c = true)
    {next : Lexer} (h : begin tokens c = .ok next) : next.Clear := by
  simp only [Text.separates, Bool.and_eq_true, Bool.not_eq_true'] at hc
  have hopened := openedBy_of_begin h
  obtain ⟨_, opened⟩ := next
  cases opened with
  | nothing => exact .inl rfl
  | minus => exact .inr rfl
  | literal negative run => exact absurd hopened (Bool.eq_false_iff.mp hc.1)
  | word letters => exact absurd hopened (Bool.eq_false_iff.mp hc.2)

theorem Clear.ended {lexer : Lexer} (h : lexer.Clear) : lexer.ended = .ok lexer := by
  obtain ⟨tokens, opened⟩ := lexer
  rcases h with hopened | hopened
  · cases hopened
    rfl
  · cases hopened
    rfl

section AfterPiece

variable {lexer : Lexer}

theorem Clear.afterPiece_run (h : lexer.Clear) {run : List Char} (hrun : Text.IsRun run) :
    lexer.afterPiece run = match Number.read? (lexer.opened = .minus) run with
      | some x => .ok ⟨.number x :: lexer.tokens, .nothing⟩
      | none =>
        .error (.invalidNumber (String.ofList (Number.signed (lexer.opened = .minus) run))) := by
  unfold afterPiece
  rw [h.run_isRun hrun]
  show Except.map _ (Lexer.close ⟨lexer.tokens, .literal _ run.reverse⟩) = _
  unfold Lexer.close
  dsimp only
  rw [List.reverse_reverse]
  cases Number.read? (lexer.opened = .minus) run <;> rfl

theorem Clear.afterPiece_word (h : lexer.Clear) {word : List Char} (hword : Text.IsWord word) :
    lexer.afterPiece word =
      .ok ⟨.name (Text.lowercase (String.ofList word)) :: lexer.settled.tokens, .nothing⟩ := by
  unfold afterPiece
  rw [h.run_isWord hword]
  show Except.ok (Lexer.mk (.name (Text.lowercase (String.ofList word.reverse.reverse)) :: _) _) = _
  rw [List.reverse_reverse]

theorem Clear.afterPiece_separates (h : lexer.Clear) {c : Char} (hc : Text.separates c = true) :
    lexer.afterPiece [c] = begin lexer.settled.tokens c := by
  unfold afterPiece
  rw [h.run_separates hc]
  cases hbegin : begin lexer.settled.tokens c with
  | error e => rfl
  | ok next => exact (clear_of_begin hc hbegin).ended

theorem Clear.afterPiece_blank (h : lexer.Clear) {c : Char} (hc : Text.isBlank c = true) :
    lexer.afterPiece [c] = .ok ⟨lexer.settled.tokens, .nothing⟩ := by
  rw [h.afterPiece_separates (Text.separates_of_isBlank hc), begin_of_isBlank hc]

theorem Clear.afterPiece_operator (h : lexer.Clear) (o : Operator) :
    lexer.afterPiece [o.symbol] =
      if o = .sub ∧ operandDue lexer.settled.tokens then .ok ⟨lexer.settled.tokens, .minus⟩
      else .ok ⟨.operator o :: lexer.settled.tokens, .nothing⟩ := by
  rw [h.afterPiece_separates (Text.separates_symbol o), begin_symbol]

theorem Clear.afterPiece_openParen (h : lexer.Clear) :
    lexer.afterPiece ['('] = .ok ⟨.openParen :: lexer.settled.tokens, .nothing⟩ :=
  h.afterPiece_separates Text.separates_openParen

theorem Clear.afterPiece_closeParen (h : lexer.Clear) :
    lexer.afterPiece [')'] = .ok ⟨.closeParen :: lexer.settled.tokens, .nothing⟩ :=
  h.afterPiece_separates Text.separates_closeParen

theorem Clear.afterPiece_foreign (h : lexer.Clear) {c : Char} (hc : Text.Foreign c) :
    lexer.afterPiece [c] = .error (.unsupportedCharacter c) := by
  have hsymbol : Operator.ofSymbol? c = none := by
    cases ho : Operator.ofSymbol? c with
    | none => rfl
    | some o => exact absurd (Operator.symbol_of_ofSymbol? ho).symm (hc.notSymbol o)
  have hseparates : Text.separates c = true := by
    simp [Text.separates, hc.notNumeral, hc.notLetter]
  rw [h.afterPiece_separates hseparates]
  simp [begin, hc.notBlank, hc.notNumeral, hsymbol, hc.notParen, hc.notLetter]

end AfterPiece

/-- Behind a piece nothing is open that the rest of the text goes on with, but a minus. -/
theorem Clear.not_continued {lexer next : Lexer} (h : lexer.Clear) {piece text : List Char}
    (hpiece : Text.Piece piece) (hends : Text.Ends piece text) (hrun : lexer.run piece = .ok next) :
    next.opened = .minus ∨ ∀ c ∈ text.head?, continued? next.opened c = none := by
  have hclear : ∀ {c : Char}, Text.separates c = true → lexer.run [c] = .ok next →
      next.opened = .minus ∨ ∀ c ∈ text.head?, continued? next.opened c = none := by
    intro c hc hrun
    rw [h.run_separates hc] at hrun
    refine (clear_of_begin hc hrun).symm.imp_right fun hopened => ?_
    rw [hopened]
    exact fun _ _ => rfl
  cases hpiece with
  | run hpiece =>
    rw [h.run_isRun hpiece] at hrun
    cases hrun
    exact .inr fun d hd => by simp [continued?, hends.of_isRun hpiece d hd]
  | word hpiece =>
    rw [h.run_isWord hpiece] at hrun
    cases hrun
    exact .inr fun d hd => by simp [continued?, hends.of_isWord hpiece d hd]
  | blank hc => exact hclear (Text.separates_of_isBlank hc) hrun
  | operator o => exact hclear (Text.separates_symbol o) hrun
  | openParen => exact hclear Text.separates_openParen hrun
  | closeParen => exact hclear Text.separates_closeParen hrun
  | foreign hc =>
    refine hclear ?_ hrun
    simp [Text.separates, hc.notNumeral, hc.notLetter]

/-- **The lexer works piece by piece.** -/
theorem Clear.tokensFrom_append {lexer : Lexer} (h : lexer.Clear) {piece text : List Char}
    (hpiece : Text.Piece piece) (hends : Text.Ends piece text) :
    lexer.tokensFrom (piece ++ text) =
      (lexer.afterPiece piece >>= fun next => next.tokensFrom text) := by
  rw [Lexer.tokensFrom_append]
  unfold afterPiece
  cases hrun : lexer.run piece with
  | error e => rfl
  | ok next => exact tokensFrom_ended (h.not_continued hpiece hends hrun)

/-! ## 4. What is known of the text before -/

/-- The lexer stands behind the text, at the end of a piece. -/
structure Behind (before : List Char) (lexer : Lexer) : Prop where
  clear : lexer.Clear
  due : operandDue lexer.settled.tokens = true ↔ Text.OperandDue before
  minus : lexer.opened = .minus ↔ Text.EndsInPrefixMinus before

theorem behind_start : Behind [] start where
  clear := .inl rfl
  due := ⟨fun _ => Text.operandDue_nil, fun _ => rfl⟩
  minus := by
    refine ⟨nofun, ?_⟩
    rintro ⟨earlier, heq, -⟩
    simp at heq

/-- **A piece leads from behind one text to behind the text with the piece.** -/
theorem Behind.afterPiece {before piece : List Char} {lexer next : Lexer}
    (h : lexer.Behind before) (hpiece : Text.Piece piece)
    (hnext : lexer.afterPiece piece = .ok next) :
    next.Behind (before ++ piece) := by
  cases hpiece with
  | run hrun =>
    obtain ⟨hdue, hminus⟩ := Text.not_operandDue_append_run_or_word (.inl hrun) before
    rw [h.clear.afterPiece_run hrun] at hnext
    split at hnext
    · cases hnext
      exact ⟨.inl rfl, iff_of_false nofun hdue, iff_of_false nofun hminus⟩
    · cases hnext
  | word hword =>
    obtain ⟨hdue, hminus⟩ := Text.not_operandDue_append_run_or_word (.inr hword) before
    rw [h.clear.afterPiece_word hword] at hnext
    cases hnext
    exact ⟨.inl rfl, iff_of_false nofun hdue, iff_of_false nofun hminus⟩
  | @blank c hc =>
    rw [h.clear.afterPiece_blank hc] at hnext
    cases hnext
    refine ⟨.inl rfl, h.due.trans (Text.operandDue_concat_blank hc before).symm, ?_⟩
    rw [Text.endsInPrefixMinus_concat]
    exact ⟨nofun, fun hminus => absurd (hminus.1 ▸ hc) (by decide)⟩
  | operator o =>
    have hdue := Text.operandDue_append_operator before o
    have hminus : o = .sub ∧ operandDue lexer.settled.tokens = true ↔
        Text.EndsInPrefixMinus (before ++ [o.symbol]) := by
      rw [Text.endsInPrefixMinus_concat, h.due]
      refine and_congr_left fun _ => ?_
      cases o <;> decide
    rw [h.clear.afterPiece_operator] at hnext
    split at hnext
    · rename_i hsub
      cases hnext
      exact ⟨.inr rfl, iff_of_true rfl hdue, iff_of_true rfl (hminus.mp hsub)⟩
    · rename_i hsub
      cases hnext
      exact ⟨.inl rfl, iff_of_true rfl hdue, iff_of_false nofun (hsub ∘ hminus.mpr)⟩
  | openParen =>
    rw [h.clear.afterPiece_openParen] at hnext
    cases hnext
    refine ⟨.inl rfl, iff_of_true rfl (Text.operandDue_append_openParen before), ?_⟩
    rw [Text.endsInPrefixMinus_concat]
    exact iff_of_false nofun (absurd ·.1 (by decide))
  | closeParen =>
    rw [h.clear.afterPiece_closeParen] at hnext
    cases hnext
    refine ⟨.inl rfl, iff_of_false nofun (Text.not_operandDue_append_closeParen before), ?_⟩
    rw [Text.endsInPrefixMinus_concat]
    exact iff_of_false nofun (absurd ·.1 (by decide))
  | foreign hc =>
    rw [h.clear.afterPiece_foreign hc] at hnext
    cases hnext

end Lexer

end Calculator
