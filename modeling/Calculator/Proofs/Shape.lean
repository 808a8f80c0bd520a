import Calculator.Proofs.PostfixOrder
import Mathlib.Data.List.Forall2

/-!
# What does not depend on the numbers

Two lists of tokens are alike if they differ in the values of their numbers and in nothing else.
Neither pass over tokens takes another way for the sake of a value, but for the errors that are
about values: a divisor of zero, and an argument outside the domain of a function.

* Putting in order carries numbers along without looking at them (`toPostfix_map`).
* Computing is an error for want of operands, or for too many at the end, exactly if counting them
  is (`Postfix.tally`), as long as no value is refused before (`map_evalPostfix`).

So for tokens that are alike both passes end alike (`passes_of_alike`).
-/

namespace Calculator

namespace Token

/-! ## 1. Tokens that are alike -/

/-- The token with its number changed. -/
def mapNumber (g : Float → Float) : Token → Token
  | number x => number (g x)
  | token => token

/-- The token without the value of its number. -/
def shape (token : Token) : Token :=
  token.mapNumber fun _ => Number.zero

/-- Two numbers, or twice the same token. -/
inductive Alike : Token → Token → Prop where
  | number (x y : Float) : Alike (number x) (number y)
  | refl (token : Token) : Alike token token

theorem alike_iff_shape_eq {token token' : Token} :
    token.Alike token' ↔ token.shape = token'.shape := by
  constructor
  · intro h
    cases h with
    | number x y => rfl
    | refl token => rfl
  · intro h
    cases token <;> cases token' <;> cases h
    all_goals first
      | exact .refl _
      | exact .number _ _

theorem forall₂_alike_iff {tokens tokens' : List Token} :
    List.Forall₂ Alike tokens tokens' ↔ tokens.map shape = tokens'.map shape := by
  rw [← List.forall₂_eq_eq_eq, List.forall₂_map_left_iff, List.forall₂_map_right_iff]
  simp only [← alike_iff_shape_eq]

end Token

theorem Held.mapNumber_token (g : Float → Float) (h : Held) : h.token.mapNumber g = h.token := by
  cases h <;> rfl

/-! ## 2. Putting in order -/

namespace Postfix.Order

/-- The same state, with the numbers changed. -/
def mapNumbers (g : Float → Float) (order : Order) : Order :=
  ⟨order.output.map (Token.mapNumber g), order.held⟩

variable (g : Float → Float)

theorem release_map (output : List Token) (released : List Held) :
    release (output.map (Token.mapNumber g)) released =
      (release output released).map (Token.mapNumber g) := by
  simp [release_eq, Held.mapNumber_token]

theorem argumentEnds_mapNumbers (order : Order) :
    (order.mapNumbers g).argumentEnds = order.argumentEnds.mapNumbers g := by
  obtain ⟨output, held⟩ := order
  match held with
  | [] => rfl
  | .function f :: held => rfl
  | .operator o :: held => rfl
  | .paren :: held => rfl

/-- **A step takes the same way whatever the numbers are.** -/
theorem step_mapNumbers (order : Order) (token : Token) :
    step (order.mapNumbers g) (token.mapNumber g) = (step order token).map (mapNumbers g) := by
  cases token with
  | number x => rfl
  | name text =>
    show step (order.mapNumbers g) (.name text) = _
    unfold step
    dsimp only
    split <;> rfl
  | function f => rfl
  | operator o =>
    show Except.ok (Order.mk (release (order.output.map _) _) _) = _
    rw [release_map]
    rfl
  | openParen => rfl
  | closeParen =>
    obtain ⟨output, held⟩ := order
    show step ⟨output.map _, held⟩ .closeParen = _
    rcases held_cases held with hnone | ⟨pending, below, rfl, hpending⟩
    · rw [step_closeParen_error hnone, step_closeParen_error hnone]
      rfl
    · rw [step_closeParen hpending, step_closeParen hpending, release_map]
      exact congrArg Except.ok (argumentEnds_mapNumbers g ⟨release output pending, below⟩)

theorem foldlM_step_mapNumbers (tokens : List Token) (order : Order) :
    (tokens.map (Token.mapNumber g)).foldlM step (order.mapNumbers g) =
      (tokens.foldlM step order).map (mapNumbers g) := by
  induction tokens generalizing order with
  | nil => rfl
  | cons token tokens ih =>
    rw [List.map_cons, List.foldlM_cons, List.foldlM_cons, step_mapNumbers]
    cases step order token with
    | error e => rfl
    | ok next => exact ih next

theorem finish_mapNumbers (order : Order) :
    (order.mapNumbers g).finish = order.finish.map (List.map (Token.mapNumber g)) := by
  show (if order.held.contains .paren then _ else
    Except.ok (release (order.output.map (Token.mapNumber g)) order.held).reverse) = _
  unfold finish
  split
  · rfl
  · rw [release_map, ← List.map_reverse]
    rfl

end Postfix.Order

/-- **Putting in order carries numbers along**: it commutes with any change of them. -/
theorem toPostfix_map (g : Float → Float) (tokens : List Token) :
    toPostfix (tokens.map (Token.mapNumber g)) =
      (toPostfix tokens).map (List.map (Token.mapNumber g)) := by
  have hrun := Postfix.Order.foldlM_step_mapNumbers g tokens .start
  unfold toPostfix
  show (List.foldlM _ (Postfix.Order.start.mapNumbers g) _ >>= _) = _
  rw [hrun]
  cases tokens.foldlM Postfix.Order.step .start with
  | error e => rfl
  | ok order => exact order.finish_mapNumbers g

/-! ## 3. Counting operands -/

/-- The error is about the value of an operand. -/
def EvalError.isArithmetic : EvalError → Bool
  | divisionByZero | outsideDomain _ _ => true
  | unsupportedCharacter _ | invalidNumber _ | mismatchedParentheses | unsupportedToken _
  | invalidExpression | invalidFunctionUsage | unsupportedOperation _ | missingOperand => false

theorem Operator.isArithmetic_of_apply {o : Operator} {a b : Float} {e : EvalError}
    (h : o.apply a b = .error e) : e.isArithmetic = true := by
  unfold apply at h
  split at h
  all_goals try split at h
  all_goals
    cases h
  rfl

theorem Func.isArithmetic_of_apply {f : Func} {x : Float} {e : EvalError}
    (h : f.apply x = .error e) : e.isArithmetic = true := by
  unfold apply at h
  split at h
  all_goals try split at h
  all_goals
    cases h
  all_goals rfl

namespace Postfix

/-- There is no result, because a value is refused. -/
def Refuses {α : Type} (result : Except EvalError α) : Prop :=
  ∃ e, result = .error e ∧ e.isArithmetic = true

/-- The number of operands after one more token. -/
def tally (operands : Nat) : Token → Except EvalError Nat
  | .number _ => .ok (operands + 1)
  | .operator _ =>
    match operands with
    | rest + 2 => .ok (rest + 1)
    | _ => .error .invalidExpression
  | .function _ =>
    match operands with
    | rest + 1 => .ok (rest + 1)
    | 0 => .error .invalidFunctionUsage
  | token => .error (.unsupportedToken token.text)

/-- At the end there has to be one operand. -/
def tallySingle : Nat → Except EvalError Unit
  | 1 => .ok ()
  | _ => .error .invalidExpression

/-- Whether tokens in postfix order come to one operand, found by counting. -/
def tallied (ordered : List Token) : Except EvalError Unit := do
  tallySingle (← ordered.foldlM tally 0)

/-- **A step counts the operands**, unless it refuses a value. -/
theorem step_counts (operands : List Float) (token : Token) :
    Refuses (step operands token) ∨
      (step operands token).map List.length = tally operands.length token := by
  cases token with
  | number x => exact .inr rfl
  | operator o =>
    match operands with
    | [] => exact .inr rfl
    | [_] => exact .inr rfl
    | b :: a :: rest =>
      show Refuses (o.apply a b >>= _) ∨ Except.map _ (o.apply a b >>= _) = _
      cases happly : o.apply a b with
      | error e => exact .inl ⟨e, rfl, Operator.isArithmetic_of_apply happly⟩
      | ok value => exact .inr rfl
  | function f =>
    match operands with
    | [] => exact .inr rfl
    | x :: rest =>
      show Refuses (f.apply x >>= _) ∨ Except.map _ (f.apply x >>= _) = _
      cases happly : f.apply x with
      | error e => exact .inl ⟨e, rfl, Func.isArithmetic_of_apply happly⟩
      | ok value => exact .inr rfl
  | name text => exact .inr rfl
  | openParen => exact .inr rfl
  | closeParen => exact .inr rfl

theorem foldlM_step_counts (ordered : List Token) (operands : List Float) :
    Refuses (ordered.foldlM step operands) ∨
      (ordered.foldlM step operands).map List.length = ordered.foldlM tally operands.length := by
  induction ordered generalizing operands with
  | nil => exact .inr rfl
  | cons token ordered ih =>
    rw [List.foldlM_cons, List.foldlM_cons]
    rcases step_counts operands token with ⟨e, hstep, he⟩ | hcount
    · rw [hstep]
      exact .inl ⟨e, rfl, he⟩
    · rw [← hcount]
      cases step operands token with
      | error e => exact .inr rfl
      | ok next => exact ih next

theorem map_single (operands : List Float) :
    (single operands).map (fun _ => ()) = tallySingle operands.length := by
  match operands with
  | [] => rfl
  | [_] => rfl
  | _ :: _ :: _ => rfl

theorem tally_mapNumber (g : Float → Float) (operands : Nat) (token : Token) :
    tally operands (token.mapNumber g) = tally operands token := by
  cases token <;> rfl

/-- What is tallied is told by the shape of the tokens. -/
theorem tallied_map (g : Float → Float) (ordered : List Token) :
    tallied (ordered.map (Token.mapNumber g)) = tallied ordered := by
  unfold tallied
  simp only [List.foldlM_map, tally_mapNumber]

end Postfix

/-- **Computing comes to what counting comes to**, unless a value is refused. -/
theorem map_evalPostfix (ordered : List Token) :
    Postfix.Refuses (evalPostfix ordered) ∨
      (evalPostfix ordered).map (fun _ => ()) = Postfix.tallied ordered := by
  unfold evalPostfix Postfix.tallied
  rcases Postfix.foldlM_step_counts ordered [] with ⟨e, hrun, he⟩ | hcount
  · rw [hrun]
    exact .inl ⟨e, rfl, he⟩
  · have hcount : (ordered.foldlM Postfix.step []).map List.length =
        ordered.foldlM Postfix.tally 0 := hcount
    rw [← hcount]
    cases ordered.foldlM Postfix.step [] with
    | error e => exact .inr rfl
    | ok operands => exact .inr (Postfix.map_single operands)

/-! ## 4. Two lists of tokens -/

/-- Results that are the same up to what becomes of values are both the same error, or both
    values. -/
theorem both_of_map_eq {α β : Type} {f : α → β} {result result' : Except EvalError α}
    (h : result.map f = result'.map f) :
    (∃ e, result = .error e ∧ result' = .error e) ∨
      ∃ a b, result = .ok a ∧ result' = .ok b ∧ f a = f b := by
  cases result with
  | error e =>
    cases result' with
    | error e' =>
      cases h
      exact .inl ⟨e, rfl, rfl⟩
    | ok b => cases h
  | ok a =>
    cases result' with
    | error e' => cases h
    | ok b => exact .inr ⟨a, b, rfl, rfl, Except.ok.inj h⟩

/-- Alike in postfix order, tokens are computed alike as long as no value is refused. -/
theorem evalPostfix_of_map_shape_eq {ordered ordered' : List Token}
    (h : ordered.map Token.shape = ordered'.map Token.shape)
    (hvalues : ¬ Postfix.Refuses (evalPostfix ordered))
    (hvalues' : ¬ Postfix.Refuses (evalPostfix ordered')) :
    (∃ e, evalPostfix ordered = .error e ∧ evalPostfix ordered' = .error e) ∨
      ∃ v v', evalPostfix ordered = .ok v ∧ evalPostfix ordered' = .ok v' := by
  have htallied : (evalPostfix ordered).map (fun _ => ()) =
      (evalPostfix ordered').map (fun _ => ()) :=
    calc (evalPostfix ordered).map (fun _ => ())
        = Postfix.tallied ordered := (map_evalPostfix ordered).resolve_left hvalues
      _ = Postfix.tallied (ordered.map Token.shape) := (Postfix.tallied_map _ ordered).symm
      _ = Postfix.tallied (ordered'.map Token.shape) := congrArg Postfix.tallied h
      _ = Postfix.tallied ordered' := Postfix.tallied_map _ ordered'
      _ = (evalPostfix ordered').map (fun _ => ()) :=
        ((map_evalPostfix ordered').resolve_left hvalues').symm
  rcases both_of_map_eq htallied with herror | ⟨v, v', hv, hv', -⟩
  · exact .inl herror
  · exact .inr ⟨v, v', hv, hv'⟩

/-- **What is wrong with the structure does not depend on the numbers.** Tokens that are alike are
    put in order alike, or not for the same reason; and then both are computed, or neither for the
    same reason, unless one of the two meets a value that is refused. -/
theorem passes_of_alike {tokens tokens' : List Token}
    (h : List.Forall₂ Token.Alike tokens tokens') :
    (∃ e, toPostfix tokens = .error e ∧ toPostfix tokens' = .error e) ∨
    ∃ ordered ordered', toPostfix tokens = .ok ordered ∧ toPostfix tokens' = .ok ordered' ∧
      List.Forall₂ Token.Alike ordered ordered' ∧
      (¬ Postfix.Refuses (evalPostfix ordered) → ¬ Postfix.Refuses (evalPostfix ordered') →
        (∃ e, evalPostfix ordered = .error e ∧ evalPostfix ordered' = .error e) ∨
          ∃ v v', evalPostfix ordered = .ok v ∧ evalPostfix ordered' = .ok v') := by
  have hmap : (toPostfix tokens).map (List.map Token.shape) =
      (toPostfix tokens').map (List.map Token.shape) :=
    calc (toPostfix tokens).map (List.map Token.shape)
        = toPostfix (tokens.map Token.shape) := (toPostfix_map _ tokens).symm
      _ = toPostfix (tokens'.map Token.shape) := congrArg toPostfix (Token.forall₂_alike_iff.mp h)
      _ = (toPostfix tokens').map (List.map Token.shape) := toPostfix_map _ tokens'
  rcases both_of_map_eq hmap with herror | ⟨ordered, ordered', hordered, hordered', hshape⟩
  · exact .inl herror
  · exact .inr ⟨ordered, ordered', hordered, hordered', Token.forall₂_alike_iff.mpr hshape,
      evalPostfix_of_map_shape_eq hshape⟩

/-- An operator without its right operand, and the same with other numbers. -/
theorem passes_of_alike_operator_last :
    let one := Number.ofMagnitude false 0x3ff0000000000000
    let two := Number.ofMagnitude false 0x4000000000000000
    let tokens : List Token := [.number one, .operator .div, .number two, .operator .add]
    let tokens' : List Token := [.number two, .operator .div, .number one, .operator .add]
    let ordered : List Token := [.number one, .number two, .operator .div, .operator .add]
    let ordered' : List Token := [.number two, .number one, .operator .div, .operator .add]
    List.Forall₂ Token.Alike tokens tokens' ∧
      toPostfix tokens = .ok ordered ∧ toPostfix tokens' = .ok ordered' ∧
      ¬ Postfix.Refuses (evalPostfix ordered) ∧ ¬ Postfix.Refuses (evalPostfix ordered') ∧
      List.Forall₂ Token.Alike ordered ordered' ∧
      ∃ e, evalPostfix ordered = .error e ∧ evalPostfix ordered' = .error e := by
  intro one two tokens tokens' ordered ordered'
  have halike : List.Forall₂ Token.Alike tokens tokens' :=
    .cons (.number one two) (.cons (.refl _) (.cons (.number two one) (.cons (.refl _) .nil)))
  have hordered : toPostfix tokens = .ok ordered := rfl
  have hordered' : toPostfix tokens' = .ok ordered' := rfl
  have hmissing : evalPostfix ordered = .error .invalidExpression ∧
      evalPostfix ordered' = .error .invalidExpression := by
    decide +kernel
  have hvalues : ¬ Postfix.Refuses (evalPostfix ordered) := by
    rintro ⟨e, he, harithmetic⟩
    cases hmissing.1.symm.trans he
    cases harithmetic
  have hvalues' : ¬ Postfix.Refuses (evalPostfix ordered') := by
    rintro ⟨e, he, harithmetic⟩
    cases hmissing.2.symm.trans he
    cases harithmetic
  refine ⟨halike, hordered, hordered', hvalues, hvalues', ?_⟩
  rcases passes_of_alike halike with ⟨e, h, -⟩ | ⟨_, _, h, h', hshape, hends⟩
  · cases hordered.symm.trans h
  cases Except.ok.inj (hordered.symm.trans h)
  cases Except.ok.inj (hordered'.symm.trans h')
  rcases hends hvalues hvalues' with hend | ⟨v, v', hv, -⟩
  · exact ⟨hshape, hend⟩
  · cases hmissing.1.symm.trans hv

/-- A value that is refused is told of before an operand is missed. -/
example :
    let one := Number.ofMagnitude false 0x3ff0000000000000
    evalPostfix [.number one, .number Number.zero, .operator .div, .operator .add] =
        .error .divisionByZero ∧
      evalPostfix [.number one, .number one, .operator .div, .operator .add] =
        .error .invalidExpression := by
  decide +kernel

end Calculator
