import Calculator.Expression
import Calculator.Proofs.Acceptance
import Calculator.Proofs.DecimalText
import Calculator.Proofs.Placement

/-!
# Reading the line of tokens

The tokens of an expression are shown in a line, a space between two of them. If the expression has
a value and none of its literals is read as infinity, the line is an expression with the same
tokens, and so with the same value and the same working (`evaluateWithWorking_tokens`).

A token is read back from its own text where the tokens before it let it stand (`ReadBack`): a
number with a sign needs an operand to be due, or its minus would be an operator; a minus as an
operator needs the opposite, or it would be a sign. The lexer puts both only there (`allPlaced_of_tokenize`).
A space on either side keeps the texts apart. The rest is that a finite number is read back from its
shortest decimal, and that a value is given only to texts whose names are those of functions.
-/

namespace Calculator

-- powers are those of core, whatever other instances are in sight
attribute [local instance (high)] instPowNat

namespace Lexer

/-! ## 1. One token -/

/-- The token is read back from its text after these tokens, the last one first. -/
def ReadBack (older : List Token) : Token → Prop
  | .number x => x.isFinite = true ∧ (Number.isNegative x = true → operandDue older = true)
  | .operator o => o = .sub → operandDue older = false
  | .name text => ∃ f : Func, f.name = text
  | .function _ => False
  | .openParen | .closeParen => True

theorem tokensFrom_text {older : List Token} {token : Token} (h : ReadBack older token) :
    tokensFrom ⟨older, .nothing⟩ token.text.toList = .ok (token :: older) := by
  cases token with
  | number x =>
    obtain ⟨l, htext, hvalue, hsign⟩ := Number.exists_literal_plain h.1
    show tokensFrom _ (Number.plain x).toList = _
    rw [htext, String.toList_ofList, ← hvalue]
    exact tokensFrom_numerals (List.all_eq_true.mp l.numerals) l.read?_run
      fun hnegative => h.2 (hsign ▸ hnegative)
  | operator o =>
    show tokensFrom ⟨older, .nothing⟩ (String.singleton o.symbol).toList = _
    rw [String.toList_singleton]
    unfold tokensFrom
    rw [run_cons, step_nothing, begin_symbol, if_neg fun hminus => by simp [h hminus.1] at hminus]
    rfl
  | name text =>
    obtain ⟨f, rfl⟩ := h
    show tokensFrom _ f.name.toList = _
    rw [← List.append_nil f.name.toList]
    exact tokensFrom_spells f.spells_name Text.blanks_nil older
  | function f => exact h.elim
  | openParen => rfl
  | closeParen => rfl

/-! ## 2. The line -/

/-- Every token is read back after those before it, the last token first. -/
def AllReadBack : List Token → Prop
  | [] => True
  | token :: older => ReadBack older token ∧ AllReadBack older

theorem line_concat (token : Token) {tokens : List Token} (h : tokens ≠ []) :
    Token.line (tokens ++ [token]) = Token.line tokens ++ " " ++ token.text := by
  unfold Token.line
  rw [List.map_append, String.intercalate_append_of_ne_nil (by simpa using h) (by simp)]
  rfl

/-- **The line of tokens is read back as these tokens.** -/
theorem tokensFrom_line {tokens : List Token} (h : AllReadBack tokens) :
    start.tokensFrom (Token.line tokens.reverse).toList = .ok tokens := by
  induction tokens with
  | nil => rfl
  | cons token older ih =>
    obtain ⟨htoken, holder⟩ := h
    by_cases hempty : older = []
    · subst hempty
      exact tokensFrom_text htoken
    · have hblank : Text.isBlank ' ' = true := by
        decide
      have hline : (Token.line (token :: older).reverse).toList =
          (Token.line older.reverse).toList ++ ' ' :: token.text.toList := by
        rw [List.reverse_cons, line_concat token (by simpa using hempty)]
        simp [String.toList_append]
      rw [hline, tokensFrom_separates (Text.separates_of_isBlank hblank), ih holder]
      show (begin older ' ' >>= fun next => next.tokensFrom token.text.toList) = _
      rw [begin_of_isBlank hblank]
      exact tokensFrom_text htoken

/-- Tokens that are placed are read back if their numbers are finite and their names those of
    functions. -/
theorem allReadBack_of_allPlaced {tokens : List Token} (h : AllPlaced tokens)
    (hfinite : ∀ x, .number x ∈ tokens → x.isFinite = true)
    (hname : ∀ text, .name text ∈ tokens → ∃ f : Func, f.name = text)
    (hfunction : ∀ f, .function f ∉ tokens) : AllReadBack tokens := by
  induction tokens with
  | nil => trivial
  | cons token older ih =>
    obtain ⟨hplaced, holder⟩ := h
    refine ⟨?_, ih holder (fun x hx => hfinite x (List.mem_cons_of_mem _ hx))
      (fun text htext => hname text (List.mem_cons_of_mem _ htext))
      fun f hf => hfunction f (List.mem_cons_of_mem _ hf)⟩
    cases token with
    | number x => exact ⟨hfinite x List.mem_cons_self, hplaced⟩
    | operator o => exact hplaced
    | name text => exact hname text List.mem_cons_self
    | function f => exact hfunction f List.mem_cons_self
    | openParen => trivial
    | closeParen => trivial

end Lexer

/-! ## 3. Names and numbers of an expression -/

namespace Postfix.Order

/-- Tokens are put in order only if their names are those of functions. -/
theorem exists_name_of_foldlM {tokens : List Token} {order order' : Order}
    (h : tokens.foldlM step order = .ok order') {text : String} (htext : .name text ∈ tokens) :
    ∃ f : Func, f.name = text := by
  induction tokens generalizing order with
  | nil => cases htext
  | cons token tokens ih =>
    rw [List.foldlM_cons] at h
    obtain ⟨middle, hstep, hrest⟩ := exists_of_bind_ok h
    rcases List.mem_cons.mp htext with heq | htext
    · subst heq
      obtain ⟨f, hnames, -⟩ := step_name hstep
      cases hnames
      exact ⟨f, rfl⟩
    · exact ih hrest htext

end Postfix.Order

namespace Number

/-- The literal is read as infinity. -/
def overflows (run : List Char) : Bool :=
  nearest (coefficient run) (10 ^ places run) == infinite

theorem isFinite_ofMagnitude (negative : Bool) {n : Nat} (hn : n < infinite) :
    (ofMagnitude negative n).isFinite = true :=
  (exists_shape_iff _).mp ⟨_, _, shape_ofMagnitude negative hn⟩

theorem isFinite_of_read? {negative : Bool} {run : List Char} {x : Float}
    (h : read? negative run = some x) (hrun : overflows run = false) : x.isFinite = true := by
  obtain ⟨-, hx⟩ := Option.ite_none_right_eq_some.mp h
  cases hx
  refine isFinite_ofMagnitude negative (Nat.lt_of_le_of_ne (nearest_le_infinite _ _) ?_)
  exact beq_eq_false_iff_ne.mp hrun

end Number

/-! ## 4. The working -/

/-- **The line of tokens of an expression is read as its tokens**, if it has a value and none of its
    literals overflows. -/
theorem tokenize_line {text : String} {tokens ordered : List Token}
    (h : tokenize text = .ok tokens) (hordered : toPostfix tokens = .ok ordered)
    (hfinite : ∀ run ∈ Text.literals text.toList, Number.overflows run = false) :
    tokenize (Token.line tokens) = .ok tokens := by
  have hnumber : ∀ x, .number x ∈ tokens.reverse → x.isFinite = true := by
    intro x hx
    rcases exists_literal_of_tokenize h (List.mem_reverse.mp hx) with rfl | ⟨_, run, hrun, hread⟩
    · exact Number.isFinite_ofMagnitude false (by decide)
    · exact Number.isFinite_of_read? hread (hfinite run hrun)
  have hname : ∀ name, .name name ∈ tokens.reverse → ∃ f : Func, f.name = name := by
    intro name hmem
    obtain ⟨order, hfold, -⟩ := exists_of_bind_ok hordered
    exact Postfix.Order.exists_name_of_foldlM hfold (List.mem_reverse.mp hmem)
  have hfunction : ∀ f, .function f ∉ tokens.reverse := fun f hf =>
    function_not_mem_of_tokenize h f (List.mem_reverse.mp hf)
  have hback := Lexer.allReadBack_of_allPlaced (allPlaced_of_tokenize h) hnumber hname hfunction
  have hline := Lexer.tokensFrom_line hback
  rw [List.reverse_reverse] at hline
  exact tokenize_eq_ok_iff.mpr hline

/-- **The tokens that are shown of an expression are an expression with the same value and the same
    working**, if it has a value and none of its literals overflows. -/
theorem evaluateWithWorking_tokens {text : String} {v : Float} {working : Working}
    (h : evaluateWithWorking text = .ok (v, working))
    (hfinite : ∀ run ∈ Text.literals text.toList, Number.overflows run = false) :
    evaluateWithWorking working.tokens = .ok (v, working) := by
  obtain ⟨tokens, htokens, hrest⟩ := exists_of_bind_ok h
  obtain ⟨ordered, hordered, hrest⟩ := exists_of_bind_ok hrest
  obtain ⟨value, hvalue, hresult⟩ := exists_of_bind_ok hrest
  cases hresult
  unfold evaluateWithWorking
  rw [tokenize_line htokens hordered hfinite]
  show (toPostfix tokens >>= _) = _
  rw [hordered]
  show (evalPostfix ordered >>= _) = _
  rw [hvalue]
  rfl

/-- A prefix minus, a name in capital letters, and a zero with a sign. -/
theorem evaluateWithWorking_tokens_negation :
    let working : Working :=
      ⟨"0 - ( 2.5 + sqrt 16 ) * 0.1 / -0.5 - -0", "0 2.5 16 sqrt + 0.1 * -0.5 / - -0 -"⟩
    let v := Number.ofMagnitude false 0x3FF4CCCCCCCCCCCD
    evaluateWithWorking "-(2.50+SQRT 16)*.1/-.5 - -0" = .ok (v, working) ∧
      (∀ run ∈ Text.literals "-(2.50+SQRT 16)*.1/-.5 - -0".toList,
        Number.overflows run = false) ∧
      evaluateWithWorking working.tokens = .ok (v, working) := by
  intro working v
  have h : evaluateWithWorking "-(2.50+SQRT 16)*.1/-.5 - -0" = .ok (v, working) := by
    decide +kernel
  have hfinite : ∀ run ∈ Text.literals "-(2.50+SQRT 16)*.1/-.5 - -0".toList,
      Number.overflows run = false := by
    decide +kernel
  exact ⟨h, hfinite, evaluateWithWorking_tokens h hfinite⟩

end Calculator
