import Calculator.Operation
import Calculator.Proofs.PrefixMinus

/-!
# Direct operations and expressions

A direct operation is computed without an expression, but it means one: `Operation.written` puts its
operands into the text that says the same. The two ways to the value have nothing in common but the
operators and functions at their ends. Directly the operation is looked up by its name and applied;
the text is read, put in postfix order and computed, and there a minus can belong to a literal or
stand between two. They come to the same value or the same error, for every pair of literals
(`computeNamed_eq_evaluate`).
-/

namespace Calculator

namespace Operation

/-! ## 1. The expression of an operation -/

/-- The expression that an operation stands for, of the texts of its operands. -/
def written : Operation → String → String → String
  | add, a, b => a ++ "+" ++ b
  | subtract, a, b => a ++ "-" ++ b
  | multiply, a, b => a ++ "*" ++ b
  | divide, a, b => a ++ "/" ++ b
  | power, a, b => a ++ "^" ++ b
  | sqrt, a, _ => "sqrt(" ++ a ++ ")"
  | sin, a, _ => "sin(" ++ a ++ ")"
  | cos, a, _ => "cos(" ++ a ++ ")"
  | tan, a, _ => "tan(" ++ a ++ ")"
  | log10, a, _ => "log(" ++ a ++ ")"
  | ln, a, _ => "ln(" ++ a ++ ")"

/-- An operation that is an operator is written with the sign of the operator. -/
theorem written_of_operator {operation : Operation} {o : Operator}
    (h : operation.action = .inl o) (a : Literal) (b : String) :
    operation.written (String.ofList a.text) b = a.followedBy o b := by
  cases operation <;> cases h <;> rfl

/-- An operation that is a function is written with the name of the function. -/
theorem written_of_function {operation : Operation} {f : Func} (h : operation.action = .inr f)
    (a b : String) : operation.written a b = f.name ++ "(" ++ a ++ ")" := by
  cases operation <;> cases h <;> rfl

theorem action_of_isBinary {operation : Operation} (h : operation.isBinary = true) :
    ∃ o, operation.action = .inl o :=
  Sum.isLeft_iff.mp h

theorem action_of_not_isBinary {operation : Operation} (h : operation.isBinary = false) :
    ∃ f, operation.action = .inr f :=
  Sum.isRight_iff.mp (Sum.isLeft_eq_false.mp h)

end Operation

/-! ## 2. Functions of a text -/

/-- The name of a function is read as that name. -/
theorem tokenize_name (f : Func) : tokenize f.name = .ok [.name f.name] := by
  rw [tokenize_eq_ok_iff, ← List.append_nil f.name.toList]
  exact Lexer.tokensFrom_spells f.spells_name Text.blanks_nil []

/-- **A function of a text in parentheses** has the value of the function at the value of the
    text. -/
theorem evaluate_call (f : Func) {text : String} {v : Float} (h : evaluate text = .ok v) :
    evaluate (f.name ++ "(" ++ text ++ ")") = f.apply v := by
  have hderives := Derives.apply (.name f) (Derives.parens (Derives.number v).to_sum)
  rw [evaluate_parens_last (tokenize_name f) h]
  exact compute_of_derives hderives.to_sum

/-! ## 3. The two ways -/

/-- **A direct operation has the value of its expression**, or its error, under every name it is
    known by and for every literal. Only the binary operations look at the second operand. -/
theorem computeNamed_eq_evaluate {name : String} {operation : Operation}
    (h : Operation.ofName name = .ok operation) (a b : Literal) :
    (operation.isBinary = true →
      computeNamed name a.value (some b.value) =
        evaluate (operation.written (String.ofList a.text) (String.ofList b.text))) ∧
    (operation.isBinary = false → ∀ second : Option Float,
      computeNamed name a.value second =
        evaluate (operation.written (String.ofList a.text) (String.ofList b.text))) := by
  have hcompute : ∀ second, computeNamed name a.value second =
      operation.compute a.value second := by
    intro second
    unfold computeNamed
    rw [h]
    rfl
  constructor
  · intro hbinary
    obtain ⟨o, ho⟩ := Operation.action_of_isBinary hbinary
    rw [hcompute, Operation.written_of_operator ho, evaluate_followedBy_literal,
      Operation.compute, ho]
    dsimp only
    rw [applySymbol_symbol]
  · intro hunary second
    obtain ⟨f, hf⟩ := Operation.action_of_not_isBinary hunary
    rw [hcompute, Operation.written_of_function hf, evaluate_call f (evaluate_literal a),
      Operation.compute, hf]
    dsimp only
    rw [applyNamed_name]

/-- A difference of two negative numbers, and a logarithm of the negative zero, under names with
    blanks and capital letters. -/
theorem computeNamed_eq_evaluate_of_negatives :
    ∃ eight half nought : Literal,
      Operation.ofName "\tSubTract " = .ok .subtract ∧
      computeNamed "\tSubTract " eight.value (some half.value) = evaluate "-8--.5" ∧
      evaluate "-8--.5" = .ok (Number.ofMagnitude true 0x401E000000000000) ∧
      Operation.ofName "LOG10" = .ok .log10 ∧
      computeNamed "LOG10" nought.value none = evaluate "log(-0)" ∧
      evaluate "log(-0)" = .error (.outsideDomain .log .positive) := by
  let eight : Literal := ⟨true, ['8'], by decide, by decide⟩
  let half : Literal := ⟨true, ['.', '5'], by decide, by decide⟩
  let nought : Literal := ⟨true, ['0'], by decide, by decide⟩
  have hsubtract : Operation.ofName "\tSubTract " = .ok .subtract := by
    decide +kernel
  have hlog : Operation.ofName "LOG10" = .ok .log10 := by
    decide +kernel
  obtain ⟨hbinary, -⟩ := computeNamed_eq_evaluate hsubtract eight half
  obtain ⟨-, hunary⟩ := computeNamed_eq_evaluate hlog nought half
  exact ⟨eight, half, nought, hsubtract, hbinary rfl, by decide +kernel, hlog,
    hunary rfl none, by decide +kernel⟩

end Calculator
