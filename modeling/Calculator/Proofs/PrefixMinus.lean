import Calculator.Proofs.Negation
import Calculator.Proofs.Substitution

/-!
# A prefix minus before parentheses

A minus in front of parentheses, where an operand is due, is read as `0 -`, and the two tokens stand
on their own: behind an operator the zero is the operand of that operator, and what is in the
parentheses is taken from the result. So `a * -(e)` is `(a * 0) - (e)`, and the same holds of every
other operator (`evaluate_followedBy_minus_parens`). Only behind a plus this comes to the negative
of what is in the parentheses. In front of a literal the minus belongs to the literal, which is one
operand behind every operator (`evaluate_followedBy_literal`).
-/

namespace Calculator

/-! ## 1. Texts that begin with a literal and an operator -/

/-- A literal, an operator and the text of what follows. -/
def Literal.followedBy (a : Literal) (o : Operator) (text : String) : String :=
  String.ofList a.text ++ String.singleton o.symbol ++ text

theorem tokenize_followedBy (a : Literal) (o : Operator) {text : String} {tokens : List Token}
    (h : tokenize text = .ok tokens) :
    tokenize (a.followedBy o text) = .ok (.number a.value :: .operator o :: tokens) := by
  have hlist : (a.followedBy o text).toList = a.text ++ o.symbol :: ([] ++ text.toList) := by
    simp [Literal.followedBy]
  rw [tokenize_eq_ok_iff] at h ⊢
  rw [hlist, Lexer.tokensFrom_operator o (Lexer.tokensFrom_literal a) rfl Text.blanks_nil h]
  simp

/-- Behind an operator a literal is one operand, with its sign. -/
theorem evaluate_followedBy_literal (a l : Literal) (o : Operator) :
    evaluate (a.followedBy o (String.ofList l.text)) = o.apply a.value l.value := by
  have hderives := Derives.binary o (Derives.number a.value).of_atom
    (Derives.number l.value).of_atom
  rw [evaluate_eq_compute, tokenize_followedBy a o (tokenize_literal l)]
  exact compute_of_derives hderives.to_sum

/-! ## 2. Parentheses at the end -/

/-- The value of a text that ends in parentheses. -/
theorem evaluate_parens_last {before text : String} {tokens : List Token} {v : Float}
    (hbefore : tokenize before = .ok tokens) (h : evaluate text = .ok v) :
    evaluate (before ++ "(" ++ text ++ ")") =
      compute (tokens ++ [.openParen, .number v, .closeParen]) := by
  have hparens := evaluate_parens before "" h
  rw [String.append_empty] at hparens
  rw [hparens]
  unfold tokenizeAround
  rw [hbefore]
  show compute (tokens ++ .openParen :: [.number v] ++ .closeParen :: []) = _
  simp

/-- A minus before parentheses takes their value from zero. -/
theorem evaluate_zero_minus_parens {text : String} {v : Float} (h : evaluate text = .ok v) :
    evaluate ("0-" ++ "(" ++ text ++ ")") = .ok (Number.zero - v) := by
  have hbefore : tokenize "0-" = .ok [.number Number.zero, .operator .sub] := by
    decide +kernel
  rw [evaluate_parens_last hbefore h]
  rfl

/-- Behind an operator, parentheses are one operand. -/
theorem evaluate_followedBy_parens (a : Literal) (o : Operator) {text : String} {v : Float}
    (h : evaluate text = .ok v) :
    evaluate (a.followedBy o ("(" ++ text ++ ")")) = o.apply a.value v := by
  have hbefore : tokenize (a.followedBy o "") = .ok [.number a.value, .operator o] :=
    tokenize_followedBy a o rfl
  have htext : a.followedBy o ("(" ++ text ++ ")") = a.followedBy o "" ++ "(" ++ text ++ ")" := by
    simp [Literal.followedBy, String.append_assoc]
  have hderives := Derives.binary o (Derives.number a.value).of_atom
    (Derives.parens (Derives.number v).to_sum).of_atom
  rw [htext, evaluate_parens_last hbefore h]
  exact compute_of_derives hderives.to_sum

/-- **Behind an operator, a minus before parentheses leaves a zero to the operator** and takes the
    value of the parentheses from the result. -/
theorem evaluate_followedBy_minus_parens (a : Literal) (o : Operator) {text : String} {v : Float}
    (h : evaluate text = .ok v) :
    evaluate (a.followedBy o ("-(" ++ text ++ ")")) =
      (o.apply a.value Number.zero >>= fun x => .ok (x - v)) := by
  have hminus : tokenize "-" = .ok [.number Number.zero, .operator .sub] := rfl
  have hbefore := tokenize_followedBy a o hminus
  have htext : a.followedBy o ("-(" ++ text ++ ")") = a.followedBy o "-" ++ "(" ++ text ++ ")" := by
    simp [← String.toList_inj, Literal.followedBy]
  have hleft := Derives.binary o (Derives.number a.value).of_atom
    (Derives.number Number.zero).of_atom
  have hderives := Derives.binary .sub hleft.to_sum
    (Derives.parens (Derives.number v).to_sum).of_atom
  rw [htext, evaluate_parens_last hbefore h]
  exact compute_of_derives hderives

/-! ## 3. When it is the negative -/

/-- Behind a plus the minus before parentheses is their negative. -/
theorem evaluate_followedBy_minus_parens_add (a : Literal) {text : String} {v : Float}
    (h : evaluate text = .ok v) :
    evaluate (a.followedBy .add ("-(" ++ text ++ ")")) = .ok (a.value + (Number.zero - v)) := by
  rw [evaluate_followedBy_minus_parens a .add h]
  exact congrArg Except.ok (Number.add_zero_sub a.value v)

/-- What the negative of parentheses, written as a difference, is to an operator. -/
theorem evaluate_followedBy_zero_minus (a : Literal) (o : Operator) {text : String} {v : Float}
    (h : evaluate text = .ok v) :
    evaluate (a.followedBy o ("(0-(" ++ text ++ "))")) = o.apply a.value (Number.zero - v) := by
  have htext : "(0-(" ++ text ++ "))" = "(" ++ ("0-" ++ "(" ++ text ++ ")") ++ ")" := by
    simp [← String.toList_inj]
  rw [htext]
  exact evaluate_followedBy_parens a o (evaluate_zero_minus_parens h)

/-- **What a prefix minus before parentheses means behind an operator.** The operator takes the zero
    that the minus brings along, and the parentheses are taken from the result; written as a
    difference in parentheses of its own, the negative is the operand. Behind a plus the two are the
    same. The minus of a literal always stays with the literal. -/
theorem evaluate_prefix_minus (a : Literal) (o : Operator) {text : String} {v : Float}
    (h : evaluate text = .ok v) :
    evaluate (a.followedBy o ("-(" ++ text ++ ")")) =
        (o.apply a.value Number.zero >>= fun x => .ok (x - v)) ∧
      evaluate (a.followedBy o ("(0-(" ++ text ++ "))")) = o.apply a.value (Number.zero - v) ∧
      (o = .add → evaluate (a.followedBy o ("-(" ++ text ++ ")")) =
        evaluate (a.followedBy o ("(0-(" ++ text ++ "))"))) ∧
      ∀ l : Literal, evaluate (a.followedBy o (String.ofList l.text)) =
        o.apply a.value l.value := by
  refine ⟨evaluate_followedBy_minus_parens a o h, evaluate_followedBy_zero_minus a o h, ?_,
    fun l => evaluate_followedBy_literal a l o⟩
  rintro rfl
  rw [evaluate_followedBy_minus_parens_add a h, evaluate_followedBy_zero_minus a .add h]
  rfl

/-- Behind a plus, at numbers. -/
theorem evaluate_two_plus_minus_three :
    ∃ two : Literal, evaluate "3" = .ok (Number.ofMagnitude false 0x4008000000000000) ∧
      evaluate (two.followedBy .add ("-(" ++ "3" ++ ")")) =
        .ok (Number.ofMagnitude true 0x3FF0000000000000) ∧
      evaluate (two.followedBy .add ("-(" ++ "3" ++ ")")) =
        evaluate (two.followedBy .add ("(0-(" ++ "3" ++ "))")) := by
  let two : Literal := ⟨false, ['2'], by decide, by decide⟩
  have hthree : evaluate "3" = .ok (Number.ofMagnitude false 0x4008000000000000) := by
    decide +kernel
  obtain ⟨hminus, -, hadd, -⟩ := evaluate_prefix_minus two .add hthree
  exact ⟨two, hthree, hminus.trans (by decide +kernel), hadd rfl⟩

/-- Behind another operator the minus before parentheses need not be their negative: `2*-(3)` is
    not `2*(0-(3))`. -/
theorem not_prefix_minus_negates :
    ¬ ∀ (a : Literal) (o : Operator) (text : String) (v : Float), evaluate text = .ok v →
      evaluate (a.followedBy o ("-(" ++ text ++ ")")) =
        evaluate (a.followedBy o ("(0-(" ++ text ++ "))")) := by
  intro h
  have hthree : evaluate "3" = .ok (Number.ofMagnitude false 0x4008000000000000) := by
    decide +kernel
  have hsame := h ⟨false, ['2'], by decide, by decide⟩ .mul "3" _ hthree
  revert hsame
  decide +kernel

end Calculator
