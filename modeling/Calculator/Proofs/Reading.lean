import Calculator.Proofs.Characters
import Calculator.Proofs.Tree

/-!
# Reading a text

What the lexer makes of the pieces of a text.

* A blank, a parenthesis and the sign of an operator end what is open and are then read from the
  complete tokens alone (`step_of_separates`). So a text falls into parts at each of them
  (`tokensFrom_separates`).
* What is open behind a text is told by its last character (`openedBy_of_run`).
* Of the tokens that are complete the lexer looks at no more than the last one, so older tokens
  below change nothing (`run_above`). Hence a text in parentheses is read as it is read alone,
  whatever stands around it (`tokenize_parens`).
* A run of digits and dots is one literal, to which a minus belongs where an operand is due
  (`tokensFrom_numerals`), and a run of letters is one name (`tokensFrom_letters`).
-/

namespace Calculator

namespace Lexer

/-! ## 1. Single characters -/

/-- A separating character continues nothing. -/
theorem continued?_of_separates {c : Char} (h : Text.separates c = true) (opened : OpenToken) :
    continued? opened c = none := by
  simp only [Text.separates, Bool.and_eq_true, Bool.not_eq_true'] at h
  obtain ⟨hnumeral, hletter⟩ := h
  unfold continued?
  split <;> simp_all

theorem step_of_separates {c : Char} (h : Text.separates c = true) (lexer : Lexer) :
    lexer.step c = (lexer.close >>= fun tokens => begin tokens c) := by
  unfold step
  rw [continued?_of_separates h]

theorem begin_of_isBlank {c : Char} (h : Text.isBlank c = true) (tokens : List Token) :
    begin tokens c = .ok ⟨tokens, .nothing⟩ := by
  simp [begin, h]

theorem begin_of_isNumeral {c : Char} (h : Number.isNumeral c = true) (tokens : List Token) :
    begin tokens c = .ok ⟨tokens, .literal false [c]⟩ := by
  simp [begin, Text.isBlank_of_isNumeral h, h]

theorem begin_of_isLetter {c : Char} (h : Text.isLetter c = true) (tokens : List Token) :
    begin tokens c = .ok ⟨tokens, .word [c]⟩ := by
  have hopen : c ≠ '(' := fun e => by simp [e, Text.isLetter_openParen] at h
  have hclose : c ≠ ')' := fun e => by simp [e, Text.isLetter_closeParen] at h
  simp [begin, Text.isBlank_of_isLetter h, Text.isNumeral_of_isLetter h,
    Text.ofSymbol?_of_isLetter h, hopen, hclose, h]

theorem begin_symbol (o : Operator) (tokens : List Token) :
    begin tokens o.symbol =
      if o = .sub ∧ operandDue tokens then .ok ⟨tokens, .minus⟩
      else .ok ⟨.operator o :: tokens, .nothing⟩ := by
  cases o <;> rfl

theorem run_cons (lexer : Lexer) (c : Char) (text : List Char) :
    lexer.run (c :: text) = (lexer.step c >>= fun next => next.run text) :=
  List.foldlM_cons

/-- With nothing open every character is read from the complete tokens. -/
theorem step_nothing (tokens : List Token) (c : Char) :
    step ⟨tokens, .nothing⟩ c = begin tokens c := rfl

/-- From a character on that continues nothing, a text is read from the complete tokens alone. -/
theorem run_of_continued? {lexer : Lexer} {c : Char} (h : continued? lexer.opened c = none)
    (text : List Char) :
    lexer.run (c :: text) = (lexer.close >>= fun tokens => run ⟨tokens, .nothing⟩ (c :: text)) := by
  rw [run_cons, step, h]
  cases lexer.close <;> rfl

/-- This can be open behind the character. -/
def OpenedBy (c : Char) : OpenToken → Prop
  | .nothing => True
  | .minus => c = '-'
  | .literal _ _ => Number.isNumeral c = true
  | .word _ => Text.isLetter c = true

theorem openedBy_of_continued? {opened next : OpenToken} {c : Char}
    (h : continued? opened c = some next) : OpenedBy c next := by
  unfold continued? at h
  split at h
  · cases h
  all_goals
    split at h
    · cases h
      assumption
    · cases h

theorem openedBy_of_begin {tokens : List Token} {c : Char} {next : Lexer}
    (h : begin tokens c = .ok next) : OpenedBy c next.opened := by
  unfold begin at h
  split at h
  · cases h
    exact trivial
  split at h
  · cases h
    assumption
  split at h
  · rename_i o hsymbol
    split at h
    · rename_i hminus
      cases h
      rw [hminus.1] at hsymbol
      exact (Operator.symbol_of_ofSymbol? hsymbol).symm
    · cases h
      exact trivial
  split at h
  · cases h
    exact trivial
  split at h
  · cases h
    exact trivial
  split at h
  · cases h
    assumption
  · cases h

theorem openedBy_of_step {lexer next : Lexer} {c : Char} (h : lexer.step c = .ok next) :
    OpenedBy c next.opened := by
  unfold step at h
  split at h
  · rename_i opened hcontinued
    cases h
    exact openedBy_of_continued? hcontinued
  · obtain ⟨tokens, -, hbegin⟩ := exists_of_bind_ok h
    exact openedBy_of_begin hbegin

/-- **What is open behind a text is told by its last character.** -/
theorem openedBy_of_run {lexer next : Lexer} {text : List Char} {c : Char}
    (h : lexer.run (text ++ [c]) = .ok next) : OpenedBy c next.opened := by
  rw [run_append] at h
  obtain ⟨middle, -, hlast⟩ := exists_of_bind_ok h
  obtain ⟨_, hstep, hnil⟩ := exists_of_bind_ok (run_cons middle c [] ▸ hlast)
  cases hnil
  exact openedBy_of_step hstep

/-! ## 2. Older tokens -/

/-- The same state, with older tokens. -/
def above (lexer : Lexer) (base : List Token) : Lexer :=
  ⟨lexer.tokens ++ base, lexer.opened⟩

theorem close_above (lexer : Lexer) (base : List Token) :
    (lexer.above base).close = lexer.close.map (· ++ base) := by
  obtain ⟨tokens, opened⟩ := lexer
  cases opened with
  | nothing => rfl
  | minus => rfl
  | literal negative run =>
    unfold close above
    dsimp only
    split <;> rfl
  | word letters => rfl

theorem operandDue_append {tokens base : List Token}
    (h : tokens = [] → operandDue base = true) :
    operandDue (tokens ++ base) = operandDue tokens := by
  cases tokens with
  | nil => exact h rfl
  | cons token tokens => cases token <;> rfl

theorem begin_above {tokens base : List Token} (h : tokens = [] → operandDue base = true)
    (c : Char) : begin (tokens ++ base) c = (begin tokens c).map (·.above base) := by
  unfold begin
  rw [operandDue_append h]
  repeat' split
  all_goals rfl

/-- Complete tokens stay. -/
theorem close_suffix {lexer : Lexer} {tokens : List Token} (h : lexer.close = .ok tokens) :
    lexer.tokens <:+ tokens := by
  obtain ⟨older, opened⟩ := lexer
  cases opened with
  | nothing =>
    cases h
    exact List.suffix_rfl
  | minus =>
    cases h
    exact ⟨[.operator .sub, .number Number.zero], rfl⟩
  | literal negative run =>
    unfold close at h
    dsimp only at h
    split at h
    · cases h
      exact List.suffix_cons _ _
    · cases h
  | word letters =>
    cases h
    exact List.suffix_cons _ _

theorem begin_suffix {tokens : List Token} {c : Char} {next : Lexer}
    (h : begin tokens c = .ok next) : tokens <:+ next.tokens := by
  unfold begin at h
  repeat' split at h
  all_goals
    cases h
  all_goals first
    | exact List.suffix_rfl
    | exact List.suffix_cons _ _

theorem step_suffix {lexer next : Lexer} {c : Char} (h : lexer.step c = .ok next) :
    lexer.tokens <:+ next.tokens := by
  unfold step at h
  split at h
  · cases h
    exact List.suffix_rfl
  · obtain ⟨tokens, hclose, hbegin⟩ := exists_of_bind_ok h
    exact (close_suffix hclose).trans (begin_suffix hbegin)

theorem step_above {lexer : Lexer} {base : List Token}
    (h : lexer.tokens = [] → operandDue base = true) (c : Char) :
    (lexer.above base).step c = (lexer.step c).map (·.above base) := by
  unfold step
  rw [show (lexer.above base).opened = lexer.opened from rfl]
  cases hcontinued : continued? lexer.opened c with
  | some opened => rfl
  | none =>
    show ((lexer.above base).close >>= fun tokens => begin tokens c) = _
    rw [close_above]
    cases hclose : lexer.close with
    | error e => rfl
    | ok tokens =>
      have hdue : tokens = [] → operandDue base = true := fun e =>
        h (List.suffix_nil.mp (e ▸ close_suffix hclose))
      exact begin_above hdue c

/-- **Older tokens change nothing in what is read**, if an operand is due after them or they are
    not all there is. -/
theorem run_above {lexer : Lexer} {base : List Token}
    (h : lexer.tokens = [] → operandDue base = true) (text : List Char) :
    (lexer.above base).run text = (lexer.run text).map (·.above base) := by
  induction text generalizing lexer with
  | nil => rfl
  | cons c text ih =>
    rw [run_cons, run_cons, step_above h]
    cases hstep : lexer.step c with
    | error e => rfl
    | ok next =>
      exact ih fun e => h (List.suffix_nil.mp (e ▸ step_suffix hstep))

theorem run_suffix {lexer next : Lexer} {text : List Char} (h : lexer.run text = .ok next) :
    lexer.tokens <:+ next.tokens := by
  induction text generalizing lexer with
  | nil =>
    cases h
    exact List.suffix_rfl
  | cons c text ih =>
    rw [run_cons] at h
    obtain ⟨middle, hstep, hrun⟩ := exists_of_bind_ok h
    exact (step_suffix hstep).trans (ih hrun)

/-- The lexer finds no functions: they are names to it. -/
theorem close_function_not_mem {lexer : Lexer} {tokens : List Token} {f : Func}
    (hlexer : .function f ∉ lexer.tokens) (h : lexer.close = .ok tokens) :
    .function f ∉ tokens := by
  obtain ⟨older, opened⟩ := lexer
  cases opened with
  | nothing =>
    cases h
    exact hlexer
  | minus =>
    cases h
    simpa using hlexer
  | literal negative run =>
    unfold close at h
    dsimp only at h
    split at h
    · cases h
      simpa using hlexer
    · cases h
  | word letters =>
    cases h
    simpa using hlexer

theorem begin_function_not_mem {tokens : List Token} {c : Char} {next : Lexer} {f : Func}
    (htokens : .function f ∉ tokens) (h : begin tokens c = .ok next) :
    .function f ∉ next.tokens := by
  unfold begin at h
  repeat' split at h
  all_goals
    cases h
  all_goals simpa using htokens

theorem run_function_not_mem {lexer next : Lexer} {text : List Char} {f : Func}
    (hlexer : .function f ∉ lexer.tokens) (h : lexer.run text = .ok next) :
    .function f ∉ next.tokens := by
  induction text generalizing lexer with
  | nil =>
    cases h
    exact hlexer
  | cons c text ih =>
    rw [run_cons] at h
    obtain ⟨middle, hstep, hrun⟩ := exists_of_bind_ok h
    refine ih ?_ hrun
    unfold step at hstep
    split at hstep
    · cases hstep
      exact hlexer
    · obtain ⟨tokens, hclose, hbegin⟩ := exists_of_bind_ok hstep
      exact begin_function_not_mem (close_function_not_mem hlexer hclose) hbegin

/-! ## 3. Complete tokens -/

/-- The complete tokens after a text, the last one first. -/
def tokensFrom (lexer : Lexer) (text : List Char) : Except EvalError (List Token) := do
  (← lexer.run text).close

theorem tokensFrom_cons (lexer : Lexer) (c : Char) (text : List Char) :
    lexer.tokensFrom (c :: text) = (lexer.step c >>= fun next => next.tokensFrom text) := by
  unfold tokensFrom
  rw [run_cons]
  cases lexer.step c <;> rfl

theorem tokensFrom_append (lexer : Lexer) (first second : List Char) :
    lexer.tokensFrom (first ++ second) =
      (lexer.run first >>= fun next => next.tokensFrom second) := by
  unfold tokensFrom
  rw [run_append]
  cases lexer.run first <;> rfl

theorem tokensFrom_above {lexer : Lexer} {base : List Token}
    (h : lexer.tokens = [] → operandDue base = true) (text : List Char) :
    (lexer.above base).tokensFrom text = (lexer.tokensFrom text).map (· ++ base) := by
  unfold tokensFrom
  rw [run_above h]
  cases lexer.run text with
  | error e => rfl
  | ok next => exact close_above next base

/-- **A separating character splits the text**: what follows it is read from the complete tokens
    of what precedes it. -/
theorem tokensFrom_separates {c : Char} (h : Text.separates c = true) (lexer : Lexer)
    (first second : List Char) :
    lexer.tokensFrom (first ++ c :: second) =
      (lexer.tokensFrom first >>= fun tokens =>
        begin tokens c >>= fun next => next.tokensFrom second) := by
  rw [tokensFrom_append]
  unfold tokensFrom
  cases lexer.run first with
  | error e => rfl
  | ok middle =>
    show (middle.run (c :: second) >>= _) = (middle.close >>= _)
    rw [run_cons, step_of_separates h]
    cases middle.close with
    | error e => rfl
    | ok tokens =>
      show ((begin tokens c >>= _) >>= _) = (begin tokens c >>= _)
      cases begin tokens c <;> rfl

theorem run_blanks {blanks : List Char} (h : ∀ c ∈ blanks, Text.isBlank c = true)
    (tokens : List Token) : run ⟨tokens, .nothing⟩ blanks = .ok ⟨tokens, .nothing⟩ := by
  induction blanks with
  | nil => rfl
  | cons c blanks ih =>
    obtain ⟨hc, hblanks⟩ := List.forall_mem_cons.mp h
    rw [run_cons, step_nothing, begin_of_isBlank hc]
    exact ih hblanks

/-- Blanks in front are dropped. -/
theorem tokensFrom_blanks_append {blanks : List Char} (h : ∀ c ∈ blanks, Text.isBlank c = true)
    (tokens : List Token) (text : List Char) :
    tokensFrom ⟨tokens, .nothing⟩ (blanks ++ text) = tokensFrom ⟨tokens, .nothing⟩ text := by
  rw [tokensFrom_append, run_blanks h]
  rfl

/-- Blanks at the end are dropped. -/
theorem tokensFrom_append_blanks {blanks : List Char} (h : ∀ c ∈ blanks, Text.isBlank c = true)
    (lexer : Lexer) (text : List Char) :
    lexer.tokensFrom (text ++ blanks) = lexer.tokensFrom text := by
  cases blanks with
  | nil => rw [List.append_nil]
  | cons c blanks =>
    obtain ⟨hc, hblanks⟩ := List.forall_mem_cons.mp h
    rw [tokensFrom_separates (Text.separates_of_isBlank hc)]
    cases lexer.tokensFrom text with
    | error e => rfl
    | ok tokens =>
      show (begin tokens c >>= _) = _
      rw [begin_of_isBlank hc]
      show (run ⟨tokens, .nothing⟩ blanks >>= _) = _
      rw [run_blanks hblanks]
      rfl

/-! ## 4. A text in parentheses -/

theorem run_parens {text : List Char} {inner : List Token}
    (h : start.tokensFrom text = .ok inner) (lexer : Lexer) :
    lexer.run ('(' :: text ++ [')']) =
      lexer.close.map fun tokens => ⟨.closeParen :: (inner ++ .openParen :: tokens), .nothing⟩ := by
  rw [List.cons_append, run_cons, step_of_separates Text.separates_openParen]
  cases lexer.close with
  | error e => rfl
  | ok tokens =>
    obtain ⟨middle, hrun, hclose⟩ := exists_of_bind_ok h
    show run (start.above (.openParen :: tokens)) (text ++ [')']) = _
    rw [run_append, run_above fun _ => rfl, hrun]
    show run (middle.above (.openParen :: tokens)) [')'] = _
    rw [run_cons, step_of_separates Text.separates_closeParen, close_above, hclose]
    rfl

/-- **A text in parentheses is read as it is read alone**, whatever it ends. -/
theorem tokensFrom_parens {text : List Char} {inner : List Token}
    (h : start.tokensFrom text = .ok inner) (lexer : Lexer) (first : List Char) :
    lexer.tokensFrom (first ++ ('(' :: text ++ [')'])) =
      (lexer.tokensFrom first).map fun tokens =>
        .closeParen :: (inner ++ .openParen :: tokens) := by
  rw [tokensFrom_append]
  unfold tokensFrom
  cases lexer.run first with
  | error e => rfl
  | ok middle =>
    show (middle.run ('(' :: text ++ [')']) >>= _) = Except.map _ middle.close
    rw [run_parens h]
    cases middle.close <;> rfl

/-- What stands before it and what stands after it are read without it. -/
theorem tokensFrom_around {text : List Char} {inner : List Token}
    (h : start.tokensFrom text = .ok inner) (lexer : Lexer) (before after : List Char) :
    lexer.tokensFrom (before ++ (('(' :: text ++ [')']) ++ after)) =
      (lexer.tokensFrom before >>= fun first =>
        (tokensFrom ⟨[.closeParen], .nothing⟩ after).map
          (· ++ (inner ++ .openParen :: first))) := by
  rw [tokensFrom_append]
  show _ = ((lexer.run before >>= close) >>= _)
  cases lexer.run before with
  | error e => rfl
  | ok middle =>
    show middle.tokensFrom (('(' :: text ++ [')']) ++ after) = (middle.close >>= _)
    rw [tokensFrom_append, run_parens h]
    cases middle.close with
    | error e => rfl
    | ok first =>
      show (above ⟨[.closeParen], .nothing⟩ (inner ++ .openParen :: first)).tokensFrom after = _
      exact tokensFrom_above (fun e => absurd e (List.cons_ne_nil _ _)) after

/-- The parenthesis that was read first is the last of the complete tokens. -/
theorem exists_of_tokensFrom_closeParen {after : List Char} {tokens : List Token}
    (h : tokensFrom ⟨[.closeParen], .nothing⟩ after = .ok tokens) :
    ∃ rest, tokens = rest ++ [.closeParen] := by
  obtain ⟨middle, hrun, hclose⟩ := exists_of_bind_ok h
  obtain ⟨rest, hrest⟩ := (run_suffix hrun).trans (close_suffix hclose)
  exact ⟨rest, hrest.symm⟩

/-! ## 5. Literals and names -/

theorem run_numerals {run : List Char} (h : ∀ c ∈ run, Number.isNumeral c = true)
    (tokens : List Token) (negative : Bool) (before : List Char) :
    Lexer.run ⟨tokens, .literal negative before⟩ run =
      .ok ⟨tokens, .literal negative (run.reverse ++ before)⟩ := by
  induction run generalizing before with
  | nil => rfl
  | cons c run ih =>
    obtain ⟨hc, hrun⟩ := List.forall_mem_cons.mp h
    have hstep : step ⟨tokens, .literal negative before⟩ c =
        .ok ⟨tokens, .literal negative (c :: before)⟩ := by
      simp [step, continued?, hc]
    rw [run_cons, hstep]
    show Lexer.run ⟨tokens, .literal negative (c :: before)⟩ run = _
    rw [ih hrun, List.reverse_cons, List.append_assoc]
    rfl

theorem run_letters {word : List Char} (h : ∀ c ∈ word, Text.isLetter c = true)
    (tokens : List Token) (before : List Char) :
    Lexer.run ⟨tokens, .word before⟩ word = .ok ⟨tokens, .word (word.reverse ++ before)⟩ := by
  induction word generalizing before with
  | nil => rfl
  | cons c word ih =>
    obtain ⟨hc, hword⟩ := List.forall_mem_cons.mp h
    have hstep : step ⟨tokens, .word before⟩ c = .ok ⟨tokens, .word (c :: before)⟩ := by
      simp [step, continued?, hc]
    rw [run_cons, hstep]
    show Lexer.run ⟨tokens, .word (c :: before)⟩ word = _
    rw [ih hword, List.reverse_cons, List.append_assoc]
    rfl

/-- **A run of letters is read as one name.** -/
theorem tokensFrom_letters {word : List Char} (hne : word ≠ [])
    (h : ∀ c ∈ word, Text.isLetter c = true) (tokens : List Token) :
    tokensFrom ⟨tokens, .nothing⟩ word =
      .ok (.name (Text.lowercase (String.ofList word)) :: tokens) := by
  obtain ⟨c, rest, rfl⟩ := List.exists_cons_of_ne_nil hne
  obtain ⟨hc, hrest⟩ := List.forall_mem_cons.mp h
  unfold tokensFrom
  rw [run_cons, step_nothing, begin_of_isLetter hc]
  show (Lexer.run ⟨tokens, .word [c]⟩ rest >>= close) = _
  rw [run_letters hrest]
  show Except.ok (Token.name (Text.lowercase (String.ofList (rest.reverse ++ [c]).reverse)) ::
    tokens) = _
  simp

/-- A literal is open after its digits and dots, and after the minus in front of them too. -/
theorem run_signed {run : List Char} {negative : Bool} (hne : run ≠ [])
    (h : ∀ c ∈ run, Number.isNumeral c = true) {tokens : List Token}
    (hdue : negative = true → operandDue tokens = true) :
    Lexer.run ⟨tokens, .nothing⟩ (Number.signed negative run) =
      .ok ⟨tokens, .literal negative run.reverse⟩ := by
  obtain ⟨c, rest, rfl⟩ := List.exists_cons_of_ne_nil hne
  obtain ⟨hc, hrest⟩ := List.forall_mem_cons.mp h
  rw [List.reverse_cons]
  cases negative with
  | false =>
    show Lexer.run ⟨tokens, .nothing⟩ (c :: rest) = _
    rw [run_cons, step_nothing, begin_of_isNumeral hc]
    exact run_numerals hrest tokens false [c]
  | true =>
    have hminus : begin tokens '-' = .ok ⟨tokens, .minus⟩ := by
      rw [show '-' = Operator.sub.symbol from rfl, begin_symbol, if_pos ⟨rfl, hdue rfl⟩]
    have hstep : step ⟨tokens, .minus⟩ c = .ok ⟨tokens, .literal true [c]⟩ := by
      simp [step, continued?, hc]
    show Lexer.run ⟨tokens, .nothing⟩ ('-' :: c :: rest) = _
    rw [run_cons, step_nothing, hminus]
    show Lexer.run ⟨tokens, .minus⟩ (c :: rest) = _
    rw [run_cons, hstep]
    exact run_numerals hrest tokens true [c]

/-- **A run of digits and dots is read as one literal**, with a minus in front of it if an operand
    is due. -/
theorem tokensFrom_numerals {run : List Char} {negative : Bool} {value : Float}
    (h : ∀ c ∈ run, Number.isNumeral c = true) (hread : Number.read? negative run = some value)
    {tokens : List Token} (hdue : negative = true → operandDue tokens = true) :
    tokensFrom ⟨tokens, .nothing⟩ (Number.signed negative run) =
      .ok (.number value :: tokens) := by
  have hne : run ≠ [] := by
    rintro rfl
    cases hread
  unfold tokensFrom
  rw [run_signed hne h hdue]
  show close ⟨tokens, .literal negative run.reverse⟩ = _
  rw [close, List.reverse_reverse, hread]

end Lexer

theorem tokenize_eq_tokensFrom (text : String) :
    tokenize text = (Lexer.start.tokensFrom text.toList).map List.reverse := by
  unfold tokenize Lexer.tokensFrom
  cases Lexer.start.run text.toList with
  | error e => rfl
  | ok lexer =>
    show (lexer.close >>= fun tokens => .ok tokens.reverse) = lexer.close.map List.reverse
    cases lexer.close <;> rfl

theorem tokenize_eq_ok_iff {text : String} {tokens : List Token} :
    tokenize text = .ok tokens ↔ Lexer.start.tokensFrom text.toList = .ok tokens.reverse := by
  rw [tokenize_eq_tokensFrom]
  cases Lexer.start.tokensFrom text.toList with
  | error e => exact ⟨nofun, nofun⟩
  | ok reversed =>
    show Except.ok reversed.reverse = .ok tokens ↔ Except.ok reversed = .ok tokens.reverse
    rw [Except.ok.injEq, Except.ok.injEq, List.reverse_eq_iff]

/-- No token of a text is a function: the functions in it are names. -/
theorem function_not_mem_of_tokenize {text : String} {tokens : List Token}
    (h : tokenize text = .ok tokens) (f : Func) : .function f ∉ tokens := by
  obtain ⟨lexer, hrun, hrest⟩ := exists_of_bind_ok h
  obtain ⟨reversed, hclose, hreversed⟩ := exists_of_bind_ok hrest
  cases hreversed
  rw [List.mem_reverse]
  have hstart : Token.function f ∉ Lexer.start.tokens := List.not_mem_nil
  exact Lexer.close_function_not_mem (Lexer.run_function_not_mem hstart hrun) hclose

/-- The tokens around something in parentheses: those before the opening one, and those after the
    closing one. -/
def tokenizeAround (before after : String) : Except EvalError (List Token × List Token) := do
  let first ← tokenize before
  let last ← Lexer.tokensFrom ⟨[.closeParen], .nothing⟩ after.toList
  return (first, last.reverse.tail)

/-- **The tokens of a text with a part in parentheses** are those of the part and those around it,
    neither depending on the other. -/
theorem tokenize_parens (before after : String) {text : String} {inner : List Token}
    (h : tokenize text = .ok inner) :
    tokenize (before ++ "(" ++ text ++ ")" ++ after) =
      (tokenizeAround before after).map fun around =>
        around.1 ++ .openParen :: inner ++ .closeParen :: around.2 := by
  have hlist : (before ++ "(" ++ text ++ ")" ++ after).toList =
      before.toList ++ (('(' :: text.toList ++ [')']) ++ after.toList) := by
    simp [String.toList_append]
  unfold tokenizeAround
  rw [tokenize_eq_tokensFrom, tokenize_eq_tokensFrom, hlist,
    Lexer.tokensFrom_around (tokenize_eq_ok_iff.mp h)]
  cases Lexer.start.tokensFrom before.toList with
  | error e => rfl
  | ok first =>
    show Except.map List.reverse (Except.map _ (Lexer.tokensFrom _ after.toList)) =
      Except.map _ (Lexer.tokensFrom _ after.toList >>= _)
    cases hlast : Lexer.tokensFrom ⟨[.closeParen], .nothing⟩ after.toList with
    | error e => rfl
    | ok last =>
      obtain ⟨rest, rfl⟩ := Lexer.exists_of_tokensFrom_closeParen hlast
      show Except.ok _ = Except.ok _
      simp

end Calculator
