import Calculator.Proofs.Writing

/-!
# Parentheses stand for their value

A part of a text that stands in parentheses and has a value when it stands alone contributes this
value and nothing else, whatever stands around it: neither what was read before can reach into the
parentheses, nor what they hold out of them. The three passes keep to it each in its own way.

* Reading: the tokens of the part are those it has alone (`tokenize_parens`).
* Ordering: they come out together and in their own order; the order of what stands around them
  does not depend on them (`toPostfix_parens`).
* Computing: they leave one value on the operands that are there, and take none of them
  (`evalPostfix_middle`).
-/

namespace Calculator

/-! ## 1. Ordering -/

namespace Postfix.Order

theorem finish_onto (order : Order) (base : List Token) :
    (order.onto base).finish = order.finish.map (base.reverse ++ ·) := by
  show (if order.held.contains .paren then _ else
    Except.ok (release (order.output ++ base) order.held).reverse) = _
  unfold finish
  split
  · rfl
  · rw [release_append, List.reverse_append]
    rfl

/-- What comes out in all, from a state on. -/
def orderFrom (order : Order) (tokens : List Token) : Except EvalError (List Token) := do
  (← tokens.foldlM step order).finish

theorem orderFrom_append (order : Order) (first second : List Token) :
    order.orderFrom (first ++ second) =
      (first.foldlM step order >>= fun next => next.orderFrom second) := by
  unfold orderFrom
  rw [List.foldlM_append]
  cases first.foldlM step order <;> rfl

theorem orderFrom_onto (order : Order) (base tokens : List Token) :
    (order.onto base).orderFrom tokens = (order.orderFrom tokens).map (base.reverse ++ ·) := by
  unfold orderFrom
  rw [foldlM_step_onto]
  cases tokens.foldlM step order with
  | error e => rfl
  | ok last => exact finish_onto last base

end Postfix.Order

open Postfix.Order in
/-- The order of the tokens around something in parentheses: what comes out before it, and what
    comes out after it. -/
def orderAround (before after : List Token) : Except EvalError (List Token × List Token) := do
  let first ← before.foldlM step start
  let last ← (argumentEnds ⟨[], first.held⟩).orderFrom after
  return (first.output.reverse, last)

open Postfix.Order in
/-- **What stands in parentheses comes out as it does alone**, between two lists that do not depend
    on it. -/
theorem toPostfix_parens (before after : List Token) {inner ordered : List Token}
    (h : toPostfix inner = .ok ordered) :
    toPostfix (before ++ .openParen :: inner ++ .closeParen :: after) =
      (orderAround before after).map fun around => around.1 ++ ordered ++ around.2 := by
  have hsplit : before ++ .openParen :: inner ++ .closeParen :: after =
      before ++ ((Token.openParen :: inner ++ [Token.closeParen]) ++ after) := by
    simp
  have honto : ∀ first : Postfix.Order,
      argumentEnds ⟨ordered.reverse ++ first.output, first.held⟩ =
        (argumentEnds ⟨[], first.held⟩).onto (ordered.reverse ++ first.output) :=
    fun first => argumentEnds_onto ⟨[], first.held⟩ _
  show start.orderFrom _ = _
  rw [hsplit, orderFrom_append]
  unfold orderAround
  cases before.foldlM step start with
  | error e => rfl
  | ok first =>
    show first.orderFrom ((Token.openParen :: inner ++ [Token.closeParen]) ++ after) = _
    rw [orderFrom_append, foldlM_parens h, honto]
    show ((argumentEnds ⟨[], first.held⟩).onto _).orderFrom after =
      Except.map _ ((argumentEnds ⟨[], first.held⟩).orderFrom after >>= _)
    rw [orderFrom_onto]
    cases (argumentEnds ⟨[], first.held⟩).orderFrom after with
    | error e => rfl
    | ok last =>
      show Except.ok _ = Except.ok _
      simp

/-! ## 2. Computing -/

/-- A list that has a value can be replaced by the value, wherever it stands. -/
theorem evalPostfix_middle {ordered : List Token} {v : Float} (h : evalPostfix ordered = .ok v)
    (first last : List Token) :
    evalPostfix (first ++ ordered ++ last) = evalPostfix (first ++ [.number v] ++ last) := by
  have hfold : ∀ operands, ordered.foldlM Postfix.step operands =
      [Token.number v].foldlM Postfix.step operands := fun operands =>
    Tree.foldlM_of_evalPostfix h operands
  simp only [evalPostfix, Postfix.foldlM_step_append, hfold]

/-- **Tokens in parentheses can be replaced by the number they compute to.** -/
theorem compute_parens (before after : List Token) {inner : List Token} {v : Float}
    (h : compute inner = .ok v) :
    compute (before ++ .openParen :: inner ++ .closeParen :: after) =
      compute (before ++ .openParen :: [.number v] ++ .closeParen :: after) := by
  obtain ⟨ordered, hordered, hvalue⟩ := exists_of_bind_ok h
  show (toPostfix _ >>= evalPostfix) = (toPostfix _ >>= evalPostfix)
  rw [toPostfix_parens before after hordered,
    toPostfix_parens before after (show toPostfix [.number v] = .ok [.number v] from rfl)]
  cases orderAround before after with
  | error e => rfl
  | ok around => exact evalPostfix_middle hvalue around.1 around.2

/-! ## 3. Texts -/

/-- **The value of a text with a part in parentheses** is that of the tokens around it and the
    number the part computes to. -/
theorem evaluate_parens (before after : String) {text : String} {v : Float}
    (h : evaluate text = .ok v) :
    evaluate (before ++ "(" ++ text ++ ")" ++ after) =
      (tokenizeAround before after >>= fun around =>
        compute (around.1 ++ .openParen :: [.number v] ++ .closeParen :: around.2)) := by
  obtain ⟨inner, hinner, hvalue⟩ := exists_of_bind_ok (evaluate_eq_compute text ▸ h)
  rw [evaluate_eq_compute, tokenize_parens before after hinner]
  cases tokenizeAround before after with
  | error e => rfl
  | ok around => exact compute_parens around.1 around.2 hvalue

theorem tokenize_literal (l : Literal) :
    tokenize (String.ofList l.text) = .ok [.number l.value] := by
  rw [tokenize_eq_ok_iff, String.toList_ofList]
  exact Lexer.tokensFrom_literal l

theorem evaluate_literal (l : Literal) : evaluate (String.ofList l.text) = .ok l.value := by
  rw [evaluate_eq_compute, tokenize_literal]
  rfl

/-- **A part in parentheses can be replaced by a literal of its value**, in every text. -/
theorem evaluate_parens_eq_literal (before after : String) {text : String} {v : Float}
    {l : Literal} (h : evaluate text = .ok v) (hl : l.value = v) :
    evaluate (before ++ "(" ++ text ++ ")" ++ after) =
      evaluate (before ++ "(" ++ String.ofList l.text ++ ")" ++ after) := by
  rw [evaluate_parens before after h, evaluate_parens before after (evaluate_literal l), hl]

/-- A difference, behind a minus and in front of a product. -/
theorem evaluate_difference_eq_literal :
    evaluate "1-3" = .ok (Number.ofMagnitude true 0x4000000000000000) ∧
      evaluate ("4-" ++ "(" ++ "1-3" ++ ")" ++ "*3") =
        evaluate ("4-" ++ "(" ++ "-2" ++ ")" ++ "*3") := by
  have hvalue : evaluate "1-3" = .ok (Number.ofMagnitude true 0x4000000000000000) := by
    decide +kernel
  let two : Literal := ⟨true, ['2'], by decide, by decide⟩
  have htwo : two.value = Number.ofMagnitude true 0x4000000000000000 := by
    decide +kernel
  have hliteral := evaluate_parens_eq_literal "4-" "*3" hvalue htwo
  rw [show String.ofList two.text = "-2" by decide] at hliteral
  exact ⟨hvalue, hliteral⟩

end Calculator
