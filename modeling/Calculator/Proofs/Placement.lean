import Calculator.Proofs.Words
import Calculator.Proofs.Writing

/-!
# Where numbers and signs come from

What is known of the tokens of a text besides their order.

* Every number among them is written by one of the literals of the text, which are its longest runs
  of digits and dots, or is the zero that a prefix minus puts in front of itself
  (`exists_literal_of_tokenize`).
* A number has a sign only where an operand is due, and a minus is an operator only where none is
  due (`allPlaced_of_tokenize`): the lexer decides between the two by the tokens before alone.

Both are kept by every character: what is open when it comes is a part of one literal, and a minus
that is open stands where an operand is due.
-/

namespace Calculator

/-! ## 1. The literals of a text -/

/-- The literals of a text, its longest runs of digits and dots, from left to right. -/
def Text.literals (text : List Char) : List (List Char) :=
  (text.splitOnP fun c => !Number.isNumeral c).filter (!·.isEmpty)

theorem Text.mem_literals_self {run : List Char} (hne : run ≠ [])
    (h : ∀ c ∈ run, Number.isNumeral c = true) : run ∈ Text.literals run := by
  rw [literals, List.splitOnP_eq_singleton fun c hc => by simp [h c hc]]
  simpa using hne

/-- A character that belongs to no literal ends the one before it. -/
theorem Text.literals_append_cons {run : List Char} (h : ∀ c ∈ run, Number.isNumeral c = true)
    {c : Char} (hc : Number.isNumeral c = false) (text : List Char) :
    Text.literals (run ++ c :: text) =
      (if run.isEmpty then [] else [run]) ++ Text.literals text := by
  rw [literals, List.splitOnP_append_cons_of_forall_mem (fun c hc => by simp [h c hc]) c
    (by simp [hc])]
  cases run <;> rfl

/-- The characters of the literal that is open. -/
def OpenToken.numerals : OpenToken → List Char
  | .literal _ run => run.reverse
  | _ => []

namespace Lexer

theorem numerals_of_continued? {opened opened' : OpenToken} {c : Char}
    (h : continued? opened c = some opened') :
    opened'.numerals = if Number.isNumeral c then opened.numerals ++ [c] else [] := by
  cases opened with
  | nothing => cases h
  | minus =>
    obtain ⟨hc, hsome⟩ := Option.ite_none_right_eq_some.mp h
    cases hsome
    rw [if_pos hc]
    rfl
  | literal negative run =>
    obtain ⟨hc, hsome⟩ := Option.ite_none_right_eq_some.mp h
    cases hsome
    rw [if_pos hc]
    exact List.reverse_cons
  | word letters =>
    obtain ⟨hc, hsome⟩ := Option.ite_none_right_eq_some.mp h
    cases hsome
    rw [if_neg (by simp [Text.isNumeral_of_isLetter hc])]
    rfl

/-- A digit or dot that does not go on with what is open has no literal before it. -/
theorem numerals_of_continued?_none {opened : OpenToken} {c : Char}
    (h : continued? opened c = none) (hc : Number.isNumeral c = true) : opened.numerals = [] := by
  cases opened with
  | nothing => rfl
  | minus => rfl
  | literal negative run => simp [continued?, hc] at h
  | word letters => rfl

theorem numerals_of_begin {tokens : List Token} {c : Char} {next : Lexer}
    (h : begin tokens c = .ok next) :
    next.opened.numerals = if Number.isNumeral c then [c] else [] := by
  cases hc : Number.isNumeral c with
  | true =>
    rw [begin_of_isNumeral hc] at h
    cases h
    rfl
  | false =>
    unfold begin at h
    repeat' split at h
    all_goals
      cases h
    all_goals first
      | rfl
      | simp_all

/-- A digit or dot goes on with the literal that is open or begins one; after any other character
    none is open. -/
theorem numerals_of_step {lexer next : Lexer} {c : Char} (h : lexer.step c = .ok next) :
    next.opened.numerals =
      if Number.isNumeral c then lexer.opened.numerals ++ [c] else [] := by
  unfold step at h
  split at h
  · rename_i opened hcontinued
    cases h
    exact numerals_of_continued? hcontinued
  · rename_i hcontinued
    obtain ⟨tokens, -, hbegin⟩ := exists_of_bind_ok h
    rw [numerals_of_begin hbegin]
    split
    · rename_i hc
      rw [numerals_of_continued?_none hcontinued hc]
      rfl
    · rfl

/-- What is open is a part of a literal. -/
theorem isNumeral_of_step {lexer next : Lexer} {c : Char} (h : lexer.step c = .ok next)
    (hopened : ∀ c ∈ lexer.opened.numerals, Number.isNumeral c = true) :
    ∀ c ∈ next.opened.numerals, Number.isNumeral c = true := by
  rw [numerals_of_step h]
  split
  · rename_i hc
    exact List.forall_mem_append.mpr ⟨hopened, List.forall_mem_singleton.mpr hc⟩
  · exact List.forall_mem_nil _

/-- A number that ends what is open is written by it, or is the zero of a prefix minus. -/
theorem number_of_close {lexer : Lexer} {tokens : List Token} (h : lexer.close = .ok tokens)
    {x : Float} (hx : .number x ∈ tokens) :
    .number x ∈ lexer.tokens ∨ x = Number.zero ∨
      ∃ negative, Number.read? negative lexer.opened.numerals = some x := by
  obtain ⟨older, opened⟩ := lexer
  cases opened with
  | nothing =>
    cases h
    exact .inl hx
  | minus =>
    cases h
    simp only [List.mem_cons, reduceCtorEq, Token.number.injEq, false_or] at hx
    exact hx.symm.imp_right .inl
  | literal negative run =>
    unfold close at h
    dsimp only at h
    split at h
    · rename_i value hread
      cases h
      rcases List.mem_cons.mp hx with heq | hx
      · cases heq
        exact .inr (.inr ⟨negative, hread⟩)
      · exact .inl hx
    · cases h
  | word letters =>
    cases h
    simp only [List.mem_cons, reduceCtorEq, false_or] at hx
    exact .inl hx

theorem number_of_begin {tokens : List Token} {c : Char} {next : Lexer}
    (h : begin tokens c = .ok next) {x : Float} (hx : .number x ∈ next.tokens) :
    .number x ∈ tokens := by
  unfold begin at h
  repeat' split at h
  all_goals
    cases h
  all_goals simpa using hx

theorem ne_nil_of_read? {negative : Bool} {run : List Char} {x : Float}
    (h : Number.read? negative run = some x) : run ≠ [] := by
  rintro rfl
  cases h

/-- A number among the complete tokens after a step was there, or is written by a literal that the
    step ended, or is the zero of a prefix minus. -/
theorem number_of_step {lexer next : Lexer} {c : Char} (h : lexer.step c = .ok next)
    {x : Float} (hx : .number x ∈ next.tokens) :
    .number x ∈ lexer.tokens ∨ x = Number.zero ∨
      Number.isNumeral c = false ∧
        ∃ negative, Number.read? negative lexer.opened.numerals = some x := by
  unfold step at h
  split at h
  · cases h
    exact .inl hx
  · rename_i hcontinued
    obtain ⟨closed, hclose, hbegin⟩ := exists_of_bind_ok h
    refine (number_of_close hclose (number_of_begin hbegin hx)).imp_right (.imp_right ?_)
    rintro ⟨negative, hread⟩
    refine ⟨Bool.eq_false_iff.mpr fun hc => ?_, negative, hread⟩
    exact ne_nil_of_read? hread (numerals_of_continued?_none hcontinued hc)

/-- **Every number is written by a literal** of what is open and what comes, or is the zero of a
    prefix minus. -/
theorem number_of_tokensFrom {lexer : Lexer} {text : List Char} {tokens : List Token}
    (hopened : ∀ c ∈ lexer.opened.numerals, Number.isNumeral c = true)
    (h : lexer.tokensFrom text = .ok tokens) {x : Float} (hx : .number x ∈ tokens) :
    .number x ∈ lexer.tokens ∨ x = Number.zero ∨
      ∃ negative, ∃ run ∈ Text.literals (lexer.opened.numerals ++ text),
        Number.read? negative run = some x := by
  induction text generalizing lexer with
  | nil =>
    refine (number_of_close h hx).imp_right (.imp_right ?_)
    rintro ⟨negative, hread⟩
    rw [List.append_nil]
    exact ⟨negative, _, Text.mem_literals_self (ne_nil_of_read? hread) hopened, hread⟩
  | cons c text ih =>
    obtain ⟨next, hstep, hnext⟩ := exists_of_bind_ok (tokensFrom_cons lexer c text ▸ h)
    have hnumerals := numerals_of_step hstep
    rcases ih (isNumeral_of_step hstep hopened) hnext with hx | hzero | ⟨negative, run, hrun, hread⟩
    · refine (number_of_step hstep hx).imp_right (.imp_right ?_)
      rintro ⟨hc, negative, hread⟩
      refine ⟨negative, _, ?_, hread⟩
      rw [Text.literals_append_cons hopened hc, if_neg (by simpa using ne_nil_of_read? hread)]
      exact List.mem_cons_self
    · exact .inr (.inl hzero)
    · refine .inr (.inr ⟨negative, run, ?_, hread⟩)
      rw [hnumerals] at hrun
      split at hrun
      · rwa [List.append_assoc] at hrun
      · rename_i hc
        rw [Text.literals_append_cons hopened (Bool.eq_false_iff.mpr hc)]
        exact List.mem_append_right _ hrun

/-! ## 2. Signs -/

/-- The token may stand after these tokens, the last one first: a number has a sign only where an
    operand is due, and a minus is an operator only where none is. -/
def Placed (older : List Token) : Token → Prop
  | .number x => Number.isNegative x = true → operandDue older = true
  | .operator o => o = .sub → operandDue older = false
  | _ => True

/-- Every token may stand after those before it, the last token first. -/
def AllPlaced : List Token → Prop
  | [] => True
  | token :: older => Placed older token ∧ AllPlaced older

/-- What is open has been begun with a minus. -/
def OpenedByMinus : OpenToken → Prop
  | .minus | .literal true _ => True
  | _ => False

/-- The complete tokens are placed, and a minus that is open was met where an operand is due. -/
structure WellPlaced (lexer : Lexer) : Prop where
  placed : AllPlaced lexer.tokens
  due : OpenedByMinus lexer.opened → operandDue lexer.tokens = true

theorem wellPlaced_start : start.WellPlaced :=
  ⟨trivial, nofun⟩

theorem isNegative_of_read? {negative : Bool} {run : List Char} {x : Float}
    (h : Number.read? negative run = some x) : Number.isNegative x = negative := by
  obtain ⟨-, hx⟩ := Option.ite_none_right_eq_some.mp h
  cases hx
  exact Number.isNegative_ofMagnitude negative (Number.nearest_le_infinite _ _)

theorem WellPlaced.close {lexer : Lexer} (h : lexer.WellPlaced) {tokens : List Token}
    (hclose : lexer.close = .ok tokens) : AllPlaced tokens := by
  obtain ⟨older, opened⟩ := lexer
  cases opened with
  | nothing =>
    cases hclose
    exact h.placed
  | minus =>
    cases hclose
    have hzero : Number.isNegative Number.zero = false :=
      Number.isNegative_ofMagnitude false (Nat.zero_le _)
    exact ⟨fun _ => rfl, fun hnegative => absurd hnegative (by simp [hzero]), h.placed⟩
  | literal negative run =>
    unfold Lexer.close at hclose
    dsimp only at hclose
    split at hclose
    · rename_i value hread
      cases hclose
      refine ⟨fun hnegative => h.due ?_, h.placed⟩
      rw [isNegative_of_read? hread] at hnegative
      rw [hnegative]
      trivial
    · cases hclose
  | word letters =>
    cases hclose
    exact ⟨trivial, h.placed⟩

theorem wellPlaced_begin {tokens : List Token} (h : AllPlaced tokens) {c : Char} {next : Lexer}
    (hbegin : begin tokens c = .ok next) : next.WellPlaced := by
  unfold begin at hbegin
  split at hbegin
  · cases hbegin
    exact ⟨h, nofun⟩
  · split at hbegin
    · cases hbegin
      exact ⟨h, nofun⟩
    · split at hbegin
      · rename_i o _
        split at hbegin
        · rename_i hminus
          cases hbegin
          exact ⟨h, fun _ => hminus.2⟩
        · rename_i hminus
          cases hbegin
          have hplaced : Placed tokens (.operator o) := fun hsub =>
            Bool.eq_false_iff.mpr fun hdue => hminus ⟨hsub, hdue⟩
          exact ⟨⟨hplaced, h⟩, nofun⟩
      · repeat' split at hbegin
        all_goals
          cases hbegin
        · exact ⟨⟨trivial, h⟩, nofun⟩
        · exact ⟨⟨trivial, h⟩, nofun⟩
        · exact ⟨h, nofun⟩

/-- Only a minus is gone on with as something that begins with one. -/
theorem openedByMinus_of_continued? {opened opened' : OpenToken} {c : Char}
    (h : continued? opened c = some opened') (hminus : OpenedByMinus opened') :
    OpenedByMinus opened := by
  cases opened with
  | nothing => cases h
  | minus => trivial
  | literal negative run =>
    obtain ⟨-, hsome⟩ := Option.ite_none_right_eq_some.mp h
    cases hsome
    cases negative with
    | false => exact hminus
    | true => trivial
  | word letters =>
    obtain ⟨-, hsome⟩ := Option.ite_none_right_eq_some.mp h
    cases hsome
    exact hminus

/-- **Every character keeps the tokens placed.** -/
theorem WellPlaced.step {lexer : Lexer} (h : lexer.WellPlaced) {c : Char} {next : Lexer}
    (hstep : lexer.step c = .ok next) : next.WellPlaced := by
  unfold Lexer.step at hstep
  split at hstep
  · rename_i opened hcontinued
    cases hstep
    exact ⟨h.placed, fun hminus => h.due (openedByMinus_of_continued? hcontinued hminus)⟩
  · obtain ⟨tokens, hclose, hbegin⟩ := exists_of_bind_ok hstep
    exact wellPlaced_begin (h.close hclose) hbegin

theorem WellPlaced.run {lexer : Lexer} (h : lexer.WellPlaced) {text : List Char} {next : Lexer}
    (hrun : lexer.run text = .ok next) : next.WellPlaced := by
  induction text generalizing lexer with
  | nil =>
    cases hrun
    exact h
  | cons c text ih =>
    rw [run_cons] at hrun
    obtain ⟨middle, hstep, hrest⟩ := exists_of_bind_ok hrun
    exact ih (h.step hstep) hrest

end Lexer

/-! ## 3. The tokens of a text -/

/-- **Every number of a text is written by one of its literals**, or is the zero of a prefix
    minus. -/
theorem exists_literal_of_tokenize {text : String} {tokens : List Token}
    (h : tokenize text = .ok tokens) {x : Float} (hx : .number x ∈ tokens) :
    x = Number.zero ∨
      ∃ negative, ∃ run ∈ Text.literals text.toList, Number.read? negative run = some x := by
  have hopened : ∀ c ∈ Lexer.start.opened.numerals, Number.isNumeral c = true :=
    List.forall_mem_nil _
  exact (Lexer.number_of_tokensFrom hopened (tokenize_eq_ok_iff.mp h)
    (List.mem_reverse.mpr hx)).resolve_left List.not_mem_nil

/-- **The tokens of a text are placed**: signs stand where an operand is due, minus operators where
    none is. -/
theorem allPlaced_of_tokenize {text : String} {tokens : List Token}
    (h : tokenize text = .ok tokens) : Lexer.AllPlaced tokens.reverse := by
  obtain ⟨lexer, hrun, hclose⟩ := exists_of_bind_ok (tokenize_eq_ok_iff.mp h)
  exact (Lexer.wellPlaced_start.run hrun).close hclose

end Calculator
