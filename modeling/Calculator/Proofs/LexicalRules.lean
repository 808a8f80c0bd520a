import Calculator.Proofs.Pieces
import Calculator.Proofs.Placement

/-!
# The tokens of a text, in two passes

What the tokens of a text are, told without a lexer: the text is cut into pieces first, and the
pieces are then read from left to right, each of them alone (`ReadAs`). Blanks are dropped; a run of
digits and dots gives a number, a word a name in small letters, every other piece the token that it
writes. Only a minus is read by what stands around it. Where an operand is due it is a prefix: the
sign of the run that follows at once, and otherwise it stands for `0 -`. Whether an operand is due
is told by the text before the piece.

The lexer, which has one pass and looks at no character twice, finds these tokens and no others
(`tokenize_eq_ok_iff_readAs`).
-/

namespace Calculator

/-! ## 1. The second pass -/

/-- Behind the text `before` the pieces are read as the tokens. -/
inductive ReadAs : (before : List Char) → List (List Char) → List Token → Prop where
  | nil {before : List Char} : ReadAs before [] []
  | blank {before : List Char} {cut : List (List Char)} {tokens : List Token} {c : Char}
      (hc : Text.isBlank c = true) (hrest : ReadAs (before ++ [c]) cut tokens) :
      ReadAs before ([c] :: cut) tokens
  | number {before run : List Char} {cut : List (List Char)} {tokens : List Token} {x : Float}
      (hrun : Text.IsRun run) (hread : Number.read? false run = some x)
      (hrest : ReadAs (before ++ run) cut tokens) :
      ReadAs before (run :: cut) (.number x :: tokens)
  | name {before word : List Char} {cut : List (List Char)} {tokens : List Token}
      (hword : Text.IsWord word) (hrest : ReadAs (before ++ word) cut tokens) :
      ReadAs before (word :: cut) (.name (Text.lowercase (String.ofList word)) :: tokens)
  | operator {before : List Char} {cut : List (List Char)} {tokens : List Token} (o : Operator)
      (ho : ¬ (o = .sub ∧ Text.OperandDue before))
      (hrest : ReadAs (before ++ [o.symbol]) cut tokens) :
      ReadAs before ([o.symbol] :: cut) (.operator o :: tokens)
  | sign {before run : List Char} {cut : List (List Char)} {tokens : List Token} {x : Float}
      (hdue : Text.OperandDue before) (hrun : Text.IsRun run)
      (hread : Number.read? true run = some x)
      (hrest : ReadAs (before ++ ['-'] ++ run) cut tokens) :
      ReadAs before (['-'] :: run :: cut) (.number x :: tokens)
  | minus {before : List Char} {cut : List (List Char)} {tokens : List Token}
      (hdue : Text.OperandDue before) (hnext : ∀ next ∈ cut.head?, ¬ Text.IsRun next)
      (hrest : ReadAs (before ++ ['-']) cut tokens) :
      ReadAs before (['-'] :: cut) (.number Number.zero :: .operator .sub :: tokens)
  | openParen {before : List Char} {cut : List (List Char)} {tokens : List Token}
      (hrest : ReadAs (before ++ ['(']) cut tokens) :
      ReadAs before (['('] :: cut) (.openParen :: tokens)
  | closeParen {before : List Char} {cut : List (List Char)} {tokens : List Token}
      (hrest : ReadAs (before ++ [')']) cut tokens) :
      ReadAs before ([')'] :: cut) (.closeParen :: tokens)

/-! ## 2. Both passes read the same -/

/-- A text that is cut begins with a digit or dot only if its first piece is a run of them. -/
theorem Text.IsCut.isNumeral_head? {cut : List (List Char)} (h : IsCut cut)
    (hnext : ∀ next ∈ cut.head?, ¬ IsRun next) :
    ∀ c ∈ cut.flatten.head?, Number.isNumeral c = false := by
  cases cut with
  | nil => exact nofun
  | cons piece cut =>
    obtain ⟨hpiece, -, -⟩ := h.cons
    intro c hc
    rw [List.flatten_cons, List.head?_append_of_ne_nil _ hpiece.ne_nil] at hc
    refine Bool.eq_false_iff.mpr fun hnumeral => hnext piece rfl ?_
    exact hpiece.isRun_of_isNumeral (List.mem_of_mem_head? hc) hnumeral

namespace Lexer

theorem clear_nothing (tokens : List Token) : Clear ⟨tokens, .nothing⟩ :=
  .inl rfl

theorem clear_minus (tokens : List Token) : Clear ⟨tokens, .minus⟩ :=
  .inr rfl

/-- A run that is a literal, with the minus that waits, if one does, gives its number. -/
theorem Clear.afterPiece_literal {lexer : Lexer} (h : lexer.Clear) {run : List Char} {x : Float}
    (hrun : Text.IsRun run) (hread : Number.read? (lexer.opened = .minus) run = some x) :
    lexer.afterPiece run = .ok ⟨.number x :: lexer.tokens, .nothing⟩ := by
  rw [h.afterPiece_run hrun, hread]

theorem afterPiece_prefix_minus {tokens : List Token} (h : operandDue tokens = true) :
    afterPiece ⟨tokens, .nothing⟩ ['-'] = .ok ⟨tokens, .minus⟩ :=
  ((clear_nothing tokens).afterPiece_operator .sub).trans (if_pos ⟨rfl, h⟩)

theorem afterPiece_operator {tokens : List Token} {o : Operator}
    (h : ¬ (o = .sub ∧ operandDue tokens = true)) :
    afterPiece ⟨tokens, .nothing⟩ [o.symbol] = .ok ⟨.operator o :: tokens, .nothing⟩ :=
  ((clear_nothing tokens).afterPiece_operator o).trans (if_neg h)

/-- A minus that no digit or dot follows stands for `0 -`. -/
theorem tokensFrom_minus {text : List Char} (h : ∀ c ∈ text.head?, Number.isNumeral c = false)
    (tokens : List Token) :
    tokensFrom ⟨tokens, .minus⟩ text =
      tokensFrom ⟨.operator .sub :: .number Number.zero :: tokens, .nothing⟩ text := by
  cases text with
  | nil => rfl
  | cons c text =>
    have hnone : continued? (opened ⟨tokens, .minus⟩) c = none := by
      simp [continued?, h c rfl]
    unfold tokensFrom
    rw [run_of_continued? hnone]
    rfl

/-- The first piece is read by itself. -/
theorem Clear.tokensFrom_cut {lexer : Lexer} (h : lexer.Clear) {piece : List Char}
    {cut : List (List Char)} (hcut : Text.IsCut (piece :: cut)) :
    lexer.tokensFrom (piece :: cut).flatten =
      (lexer.afterPiece piece >>= fun next => next.tokensFrom cut.flatten) :=
  h.tokensFrom_append hcut.cons.1 hcut.cons.2.1

/-- **What the rules read the lexer reads.** -/
theorem tokensFrom_of_readAs {before : List Char} {cut : List (List Char)} {tokens : List Token}
    (h : ReadAs before cut tokens) (hcut : Text.IsCut cut) {older : List Token}
    (hdue : operandDue older = true ↔ Text.OperandDue before) :
    tokensFrom ⟨older, .nothing⟩ cut.flatten = .ok (tokens.reverse ++ older) := by
  have hclear := clear_nothing
  induction h generalizing older with
  | nil => rfl
  | blank hc hrest ih =>
    rw [(hclear older).tokensFrom_cut hcut, (hclear older).afterPiece_blank hc]
    exact ih hcut.cons.2.2 (hdue.trans (Text.operandDue_concat_blank hc _).symm)
  | @number before run cut tokens x hrun hread hrest ih =>
    have hafter := (hclear older).afterPiece_literal hrun hread
    have hnone := (Text.not_operandDue_append_run_or_word (.inl hrun) before).1
    rw [(hclear older).tokensFrom_cut hcut, hafter, List.reverse_cons, List.append_assoc]
    exact ih hcut.cons.2.2 (iff_of_false nofun hnone)
  | @name before word cut tokens hword hrest ih =>
    have hnone := (Text.not_operandDue_append_run_or_word (.inr hword) before).1
    rw [(hclear older).tokensFrom_cut hcut, (hclear older).afterPiece_word hword,
      List.reverse_cons, List.append_assoc]
    exact ih hcut.cons.2.2 (iff_of_false nofun hnone)
  | @operator before cut tokens o ho hrest ih =>
    rw [← hdue] at ho
    rw [(hclear older).tokensFrom_cut hcut, afterPiece_operator ho, List.reverse_cons,
      List.append_assoc]
    exact ih hcut.cons.2.2 (iff_of_true rfl (Text.operandDue_append_operator before o))
  | @sign before run cut tokens x hprefix hrun hread hrest ih =>
    have hafter := (clear_minus older).afterPiece_literal hrun hread
    have hnone := (Text.not_operandDue_append_run_or_word (.inl hrun) (before ++ ['-'])).1
    rw [(hclear older).tokensFrom_cut hcut, afterPiece_prefix_minus (hdue.mpr hprefix)]
    show tokensFrom ⟨older, .minus⟩ (run :: cut).flatten = _
    rw [(clear_minus older).tokensFrom_cut hcut.cons.2.2, hafter, List.reverse_cons,
      List.append_assoc]
    exact ih hcut.cons.2.2.cons.2.2 (iff_of_false nofun hnone)
  | @minus before cut tokens hprefix hnext hrest ih =>
    have hcut' := hcut.cons.2.2
    rw [(hclear older).tokensFrom_cut hcut, afterPiece_prefix_minus (hdue.mpr hprefix)]
    show tokensFrom ⟨older, .minus⟩ cut.flatten = _
    rw [tokensFrom_minus (hcut'.isNumeral_head? hnext),
      ih hcut' (iff_of_true rfl (Text.operandDue_append_operator before .sub))]
    simp
  | @openParen before cut tokens hrest ih =>
    rw [(hclear older).tokensFrom_cut hcut, (hclear older).afterPiece_openParen,
      List.reverse_cons, List.append_assoc]
    exact ih hcut.cons.2.2 (iff_of_true rfl (Text.operandDue_append_openParen before))
  | @closeParen before cut tokens hrest ih =>
    rw [(hclear older).tokensFrom_cut hcut, (hclear older).afterPiece_closeParen,
      List.reverse_cons, List.append_assoc]
    exact ih hcut.cons.2.2 (iff_of_false nofun (Text.not_operandDue_append_closeParen before))

/-- **What one piece gives**, from complete tokens: its tokens by one of the rules, or nothing yet
    if it is a minus where an operand is due. -/
theorem readAs_of_afterPiece {before piece : List Char} {older : List Token} {next : Lexer}
    (hpiece : Text.Piece piece) (hdue : operandDue older = true ↔ Text.OperandDue before)
    (h : afterPiece ⟨older, .nothing⟩ piece = .ok next) :
    (piece = ['-'] ∧ Text.OperandDue before ∧ next = ⟨older, .minus⟩) ∨
      ∃ given : List Token, next = ⟨given.reverse ++ older, .nothing⟩ ∧
        (operandDue (given.reverse ++ older) = true ↔ Text.OperandDue (before ++ piece)) ∧
        ∀ cut tokens, ReadAs (before ++ piece) cut tokens →
          ReadAs before (piece :: cut) (given ++ tokens) := by
  have hclear := clear_nothing older
  cases hpiece with
  | run hrun =>
    have hnone := (Text.not_operandDue_append_run_or_word (.inl hrun) before).1
    rw [hclear.afterPiece_run hrun] at h
    split at h
    · rename_i x hread
      cases h
      exact .inr ⟨[.number x], rfl, iff_of_false nofun hnone, fun _ _ => .number hrun hread⟩
    · cases h
  | word hword =>
    have hnone := (Text.not_operandDue_append_run_or_word (.inr hword) before).1
    rw [hclear.afterPiece_word hword] at h
    cases h
    exact .inr ⟨[.name _], rfl, iff_of_false nofun hnone, fun _ _ => .name hword⟩
  | blank hc =>
    rw [hclear.afterPiece_blank hc] at h
    cases h
    exact .inr ⟨[], rfl, hdue.trans (Text.operandDue_concat_blank hc before).symm,
      fun _ _ => .blank hc⟩
  | operator o =>
    by_cases hprefix : o = .sub ∧ operandDue older = true
    · obtain ⟨rfl, hprefix⟩ := hprefix
      cases (afterPiece_prefix_minus hprefix).symm.trans h
      exact .inl ⟨rfl, hdue.mp hprefix, rfl⟩
    · cases (afterPiece_operator hprefix).symm.trans h
      rw [hdue] at hprefix
      exact .inr ⟨[.operator o], rfl,
        iff_of_true rfl (Text.operandDue_append_operator before o), fun _ _ => .operator o hprefix⟩
  | openParen =>
    rw [hclear.afterPiece_openParen] at h
    cases h
    exact .inr ⟨[.openParen], rfl, iff_of_true rfl (Text.operandDue_append_openParen before),
      fun _ _ => .openParen⟩
  | closeParen =>
    rw [hclear.afterPiece_closeParen] at h
    cases h
    exact .inr ⟨[.closeParen], rfl,
      iff_of_false nofun (Text.not_operandDue_append_closeParen before), fun _ _ => .closeParen⟩
  | foreign hc =>
    rw [hclear.afterPiece_foreign hc] at h
    cases h

/-- A text that begins with a run is read only if the run is a literal. -/
theorem exists_of_tokensFrom_run {lexer : Lexer} (h : lexer.Clear) {run : List Char}
    {cut : List (List Char)} {out : List Token} (hrun : Text.IsRun run)
    (hcut : Text.IsCut (run :: cut)) (hout : lexer.tokensFrom (run :: cut).flatten = .ok out) :
    ∃ x, Number.read? (lexer.opened = .minus) run = some x ∧
      tokensFrom ⟨.number x :: lexer.tokens, .nothing⟩ cut.flatten = .ok out := by
  rw [h.tokensFrom_cut hcut, h.afterPiece_run hrun] at hout
  obtain ⟨next, hnext, hout⟩ := exists_of_bind_ok hout
  split at hnext
  · rename_i x hread
    cases hnext
    exact ⟨x, hread, hout⟩
  · cases hnext

/-- **What the lexer reads the rules read.** -/
theorem exists_readAs {before : List Char} {older out : List Token} (cut : List (List Char))
    (hcut : Text.IsCut cut) (h : tokensFrom ⟨older, .nothing⟩ cut.flatten = .ok out)
    (hdue : operandDue older = true ↔ Text.OperandDue before) :
    ∃ tokens, ReadAs before cut tokens ∧ out = tokens.reverse ++ older := by
  match cut, hcut, h with
  | [], _, h =>
    cases h
    exact ⟨[], .nil, rfl⟩
  | piece :: cut, hcut, h =>
    obtain ⟨hpiece, -, hrest⟩ := hcut.cons
    rw [(clear_nothing older).tokensFrom_cut hcut] at h
    obtain ⟨next, hnext, hout⟩ := exists_of_bind_ok h
    rcases readAs_of_afterPiece hpiece hdue hnext with
      ⟨rfl, hprefix, rfl⟩ | ⟨given, rfl, hdue', hrule⟩
    · -- the next piece tells what the minus is
      by_cases hfollows : ∃ run ∈ cut.head?, Text.IsRun run
      · obtain ⟨run, hhead, hrun⟩ := hfollows
        match cut, hhead, hrest, hout with
        | run :: cut, rfl, hrest, hout =>
          obtain ⟨x, hread, hout⟩ := exists_of_tokensFrom_run (clear_minus older) hrun hrest hout
          have hnone := (Text.not_operandDue_append_run_or_word (.inl hrun) (before ++ ['-'])).1
          obtain ⟨tokens, htokens, rfl⟩ :=
            exists_readAs cut hrest.cons.2.2 hout (iff_of_false nofun hnone)
          exact ⟨_, .sign hprefix hrun hread htokens, by simp⟩
      · have hnorun : ∀ next ∈ cut.head?, ¬ Text.IsRun next := fun next hhead hrun =>
          hfollows ⟨next, hhead, hrun⟩
        rw [tokensFrom_minus (hrest.isNumeral_head? hnorun)] at hout
        obtain ⟨tokens, htokens, rfl⟩ := exists_readAs cut hrest hout
          (iff_of_true rfl (Text.operandDue_append_operator before .sub))
        exact ⟨_, .minus hprefix hnorun htokens, by simp⟩
    · obtain ⟨tokens, htokens, rfl⟩ := exists_readAs cut hrest hout hdue'
      exact ⟨given ++ tokens, hrule cut tokens htokens, by simp⟩

theorem placed_of_allPlaced_append {newer older : List Token} {token : Token}
    (h : AllPlaced (newer ++ token :: older)) : Placed older token := by
  induction newer with
  | nil => exact h.1
  | cons _ newer ih => exact ih h.2

end Lexer

/-! ## 3. The tokens of a text -/

/-- An operand is due behind the tokens: there are none, or the last one is an operator or `(`. -/
def Token.OperandDueAfter (before : List Token) : Prop :=
  ∀ last ∈ before.getLast?, last = .openParen ∨ ∃ o, last = .operator o

theorem Token.operandDue_reverse_iff (before : List Token) :
    Lexer.operandDue before.reverse = true ↔ OperandDueAfter before := by
  rcases List.eq_nil_or_concat before with rfl | ⟨earlier, last, rfl⟩
  · exact iff_of_true rfl fun _ => nofun
  · rw [List.concat_eq_append, List.reverse_concat]
    unfold OperandDueAfter
    rw [List.getLast?_concat]
    cases last <;> simp [Lexer.operandDue]

/-- **The tokens of a text are what the rules make of its pieces**, one piece after the other. So a
    minus is an operator only where no operand is due, neither first nor behind an operator or `(`,
    and a number has a sign only where one is due. -/
theorem tokenize_eq_ok_iff_readAs (text : String) (tokens : List Token) :
    (tokenize text = .ok tokens ↔ ReadAs [] (Text.pieces text.toList) tokens) ∧
      (tokenize text = .ok tokens → ∀ before token after, tokens = before ++ token :: after →
        (token = .operator .sub → ¬ Token.OperandDueAfter before) ∧
          ∀ x, token = .number x → Number.isNegative x = true → Token.OperandDueAfter before) := by
  have hcut := Text.isCut_pieces text.toList
  have hdue : Lexer.operandDue [] = true ↔ Text.OperandDue [] :=
    iff_of_true rfl Text.operandDue_nil
  refine ⟨⟨fun h => ?_, fun h => ?_⟩, ?_⟩
  · rw [tokenize_eq_ok_iff, ← Text.flatten_pieces text.toList] at h
    obtain ⟨tokens', htokens', heq⟩ := Lexer.exists_readAs _ hcut h hdue
    rw [List.append_nil, List.reverse_inj] at heq
    exact heq ▸ htokens'
  · have hread := Lexer.tokensFrom_of_readAs h hcut hdue
    rw [Text.flatten_pieces, List.append_nil] at hread
    exact tokenize_eq_ok_iff.mpr hread
  · rintro h before token after rfl
    have hplaced : Lexer.AllPlaced (after.reverse ++ token :: before.reverse) := by
      simpa using allPlaced_of_tokenize h
    have htoken := Lexer.placed_of_allPlaced_append hplaced
    rw [← Token.operandDue_reverse_iff]
    refine ⟨?_, ?_⟩
    · rintro rfl
      exact Bool.eq_false_iff.mp (htoken rfl)
    · rintro x rfl
      exact htoken

/-- Minuses of every kind: a sign, an operator, one before `(`, one with a blank behind it, and one
    behind a name. -/
theorem tokenize_minuses :
    let tokens : List Token :=
      [.number (Number.ofMagnitude true 0x3FE0000000000000), .operator .sub, .number Number.zero,
        .operator .sub, .openParen, .number Number.zero, .operator .sub,
        .number (Number.ofMagnitude false 0x4000000000000000), .closeParen, .name "sin",
        .operator .sub, .number (Number.ofMagnitude false 0x4008000000000000)]
    tokenize "-.5--(- 2)sIn-3" = .ok tokens ∧
      ReadAs [] (Text.pieces "-.5--(- 2)sIn-3".toList) tokens ∧
      ¬ Token.OperandDueAfter (tokens.take 10) ∧ Token.OperandDueAfter (tokens.take 0) := by
  intro tokens
  have h : tokenize "-.5--(- 2)sIn-3" = .ok tokens := by
    decide +kernel
  obtain ⟨hread, hplaced⟩ := tokenize_eq_ok_iff_readAs "-.5--(- 2)sIn-3" tokens
  exact ⟨h, hread.mp h, (hplaced h (tokens.take 10) _ (tokens.drop 11) rfl).1 rfl,
    (hplaced h [] _ (tokens.drop 1) rfl).2 _ rfl (by decide +kernel)⟩

end Calculator
