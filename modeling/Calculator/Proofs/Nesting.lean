import Calculator.Proofs.Acceptance
import Mathlib.Data.List.Induction

/-!
# Which tokens can be put in postfix order

Three loops release what is held, one for an operator, one for a closing parenthesis and one at the
end. Yet whether tokens can be put in order is a matter of counting alone (`nest`): none of the
loops passes an open parenthesis, so as many of them are held as have not been closed
(`map_depth_step`). Hence

* a token is refused if it is a name of no function, or closes a parenthesis although no more have
  been opened than closed (`RefusedAt`); the first such token is the one that is told of;
* without such a token only parentheses that stay open are an error, at the end;
* numbers, operators and functions have no part in it, wherever they stand
  (`toPostfix_eq_error_iff_first`).
-/

namespace Calculator

/-- The token can be refused: it is a parenthesis, or a name that no function has. -/
def Token.decides : Token → Bool
  | .openParen | .closeParen => true
  | .name text => (Func.ofName? text).isNone
  | .number _ | .operator _ | .function _ => false

namespace Func

theorem ofName?_eq_none_iff {text : String} : ofName? text = none ↔ ∀ f : Func, f.name ≠ text := by
  constructor
  · rintro h f rfl
    cases (ofName?_name f).symm.trans h
  · intro h
    cases hf : ofName? text with
    | none => rfl
    | some f => exact absurd (name_of_ofName? hf) (h f)

end Func

namespace Postfix

/-! ## 1. Counting -/

/-- The number of open parentheses after one more token. -/
def nest (depth : Nat) : Token → Except EvalError Nat
  | .openParen => .ok (depth + 1)
  | .closeParen =>
    match depth with
    | 0 => .error .mismatchedParentheses
    | depth + 1 => .ok depth
  | .name text =>
    if (Func.ofName? text).isNone then .error (.unsupportedToken text) else .ok depth
  | .number _ | .operator _ | .function _ => .ok depth

/-- At the end no parenthesis may be open. -/
def closed : Nat → Except EvalError Unit
  | 0 => .ok ()
  | _ + 1 => .error .mismatchedParentheses

theorem closed_eq_error_iff {depth : Nat} {e : EvalError} :
    closed depth = .error e ↔ 0 < depth ∧ e = .mismatchedParentheses := by
  cases depth with
  | zero => exact iff_of_false nofun fun h => absurd h.1 (Nat.lt_irrefl 0)
  | succ depth =>
    refine ⟨fun h => ?_, fun h => h.2 ▸ rfl⟩
    cases h
    exact ⟨Nat.succ_pos depth, rfl⟩

theorem closed_eq_ok_iff {depth : Nat} : closed depth = .ok () ↔ depth = 0 := by
  cases depth with
  | zero => exact iff_of_true rfl rfl
  | succ depth => exact iff_of_false nofun (Nat.succ_ne_zero depth)

/-- The number of open parentheses after the tokens. -/
def levels (tokens : List Token) : Except EvalError Nat :=
  tokens.foldlM nest 0

/-- Whether the tokens can be put in order, found by counting. -/
def balance (tokens : List Token) : Except EvalError Unit :=
  levels tokens >>= closed

namespace Order

theorem depth_function (output : List Token) (f : Func) (held : List Held) :
    depth ⟨output, .function f :: held⟩ = depth ⟨output, held⟩ := by
  simp [depth]

/-- **A step counts the parentheses that are held**, and fails exactly if the count does. -/
theorem map_depth_step (order : Order) (token : Token) :
    (step order token).map depth = nest order.depth token := by
  cases token with
  | number x => rfl
  | name text =>
    unfold step nest
    dsimp only
    cases Func.ofName? text with
    | none => rfl
    | some f => exact congrArg Except.ok (depth_function order.output f order.held)
  | function f => exact congrArg Except.ok (depth_function order.output f order.held)
  | operator o => exact congrArg Except.ok (depth_operator rfl)
  | openParen => exact congrArg Except.ok (depth_openParen order.output order.held)
  | closeParen =>
    obtain ⟨output, held⟩ := order
    rcases held_cases held with hnone | ⟨pending, below, rfl, hpending⟩
    · have hdepth : depth ⟨output, held⟩ = 0 :=
        List.count_eq_zero_of_not_mem fun hmem => hnone _ hmem rfl
      rw [step_closeParen_error hnone, hdepth]
      rfl
    · have hstep := step_closeParen hpending output below
      rw [depth_closeParen hstep, hstep]
      rfl

theorem map_depth_foldlM (tokens : List Token) (order : Order) :
    (tokens.foldlM step order).map depth = tokens.foldlM nest order.depth := by
  induction tokens generalizing order with
  | nil => rfl
  | cons token tokens ih =>
    rw [List.foldlM_cons, List.foldlM_cons, ← map_depth_step]
    cases step order token with
    | error e => rfl
    | ok next => exact ih next

theorem map_finish (order : Order) : order.finish.map (fun _ => ()) = closed order.depth := by
  unfold finish
  split
  · rename_i hparen
    have hpos : 0 < order.depth := List.count_pos_iff.mpr (by simpa using hparen)
    obtain ⟨depth, hdepth⟩ := Nat.exists_eq_succ_of_ne_zero (Nat.ne_of_gt hpos)
    rw [hdepth]
    rfl
  · rename_i hparen
    have hdepth : order.depth = 0 := List.count_eq_zero_of_not_mem (by simpa using hparen)
    rw [hdepth]
    rfl

end Order

/-- **Whether tokens can be put in order is found by counting.** -/
theorem map_toPostfix (tokens : List Token) :
    (toPostfix tokens).map (fun _ => ()) = balance tokens := by
  show (tokens.foldlM Order.step Order.start >>= Order.finish).map _ =
    (tokens.foldlM nest Order.start.depth >>= closed)
  rw [← Order.map_depth_foldlM]
  cases tokens.foldlM Order.step Order.start with
  | error e => rfl
  | ok order => exact order.map_finish

theorem nest_of_not_decides {token : Token} (h : token.decides = false) (depth : Nat) :
    nest depth token = .ok depth := by
  cases token with
  | name text =>
    unfold Token.decides at h
    unfold nest
    dsimp only at h ⊢
    rw [h]
    rfl
  | openParen => cases h
  | closeParen => cases h
  | number x => rfl
  | operator o => rfl
  | function f => rfl

/-- Tokens that cannot be refused do not count. -/
theorem foldlM_nest_filter (tokens : List Token) (depth : Nat) :
    (tokens.filter Token.decides).foldlM nest depth = tokens.foldlM nest depth := by
  induction tokens generalizing depth with
  | nil => rfl
  | cons token tokens ih =>
    cases hdecides : token.decides with
    | true =>
      rw [List.filter_cons_of_pos hdecides, List.foldlM_cons, List.foldlM_cons]
      exact bind_congr ih
    | false =>
      rw [List.filter_cons_of_neg (by simp [hdecides]), List.foldlM_cons,
        nest_of_not_decides hdecides]
      exact ih depth

/-- What is open, and what has been closed, has been opened. -/
theorem depth_of_nest {depth depth' : Nat} {token : Token} (h : nest depth token = .ok depth') :
    depth' + [token].count .closeParen = depth + [token].count .openParen := by
  cases token with
  | closeParen =>
    cases depth with
    | zero => cases h
    | succ depth =>
      cases h
      rfl
  | name text =>
    unfold nest at h
    dsimp only at h
    split at h
    · cases h
    · cases h
      rfl
  | openParen =>
    cases h
    rfl
  | number x =>
    cases h
    rfl
  | operator o =>
    cases h
    rfl
  | function f =>
    cases h
    rfl

/-! ## 2. The first token that is refused -/

/-- The token at the place cannot be taken, whatever was done with those before it: it is a name
    that no function has, or it closes a parenthesis that was not opened. -/
inductive RefusedAt (tokens : List Token) (i : Nat) : EvalError → Prop where
  | name {text : String} (hat : tokens[i]? = some (.name text))
      (hnone : ∀ f : Func, f.name ≠ text) :
      RefusedAt tokens i (.unsupportedToken text)
  | closeParen (hat : tokens[i]? = some .closeParen)
      (hmore : (tokens.take (i + 1)).count .openParen < (tokens.take (i + 1)).count .closeParen) :
      RefusedAt tokens i .mismatchedParentheses

/-- The token at the place is the first that cannot be taken. -/
def FirstRefusedAt (tokens : List Token) (i : Nat) (e : EvalError) : Prop :=
  RefusedAt tokens i e ∧ ∀ j < i, ∀ e', ¬ RefusedAt tokens j e'

/-- All tokens can be taken. -/
def NoneRefused (tokens : List Token) : Prop :=
  ∀ i e, ¬ RefusedAt tokens i e

theorem RefusedAt.lt_length {tokens : List Token} {i : Nat} {e : EvalError}
    (h : RefusedAt tokens i e) : i < tokens.length := by
  cases h with
  | name hat _ => exact (List.getElem?_eq_some_iff.mp hat).1
  | closeParen hat _ => exact (List.getElem?_eq_some_iff.mp hat).1

theorem RefusedAt.unique {tokens : List Token} {i : Nat} {e e' : EvalError}
    (h : RefusedAt tokens i e) (h' : RefusedAt tokens i e') : e = e' := by
  cases h with
  | name hat _ =>
    cases h' with
    | name hat' _ =>
      cases hat.symm.trans hat'
      rfl
    | closeParen hat' _ => cases hat.symm.trans hat'
  | closeParen hat _ =>
    cases h' with
    | name hat' _ => cases hat.symm.trans hat'
    | closeParen _ _ => rfl

/-- Only the tokens before it can make a token one that is refused. -/
theorem refusedAt_append {tokens : List Token} {i : Nat} (hi : i < tokens.length)
    (more : List Token) (e : EvalError) :
    RefusedAt (tokens ++ more) i e ↔ RefusedAt tokens i e := by
  have hat : (tokens ++ more)[i]? = tokens[i]? := List.getElem?_append_left hi
  have htake : (tokens ++ more).take (i + 1) = tokens.take (i + 1) :=
    List.take_append_of_le_length hi
  constructor
  · intro h
    cases h with
    | name hname hnone => exact .name (hat ▸ hname) hnone
    | closeParen hclose hmore => exact .closeParen (hat ▸ hclose) (htake ▸ hmore)
  · intro h
    cases h with
    | name hname hnone => exact .name (hat.trans hname) hnone
    | closeParen hclose hmore => exact .closeParen (hat.trans hclose) (htake.symm ▸ hmore)

theorem count_concat_closeParen (tokens : List Token) :
    (tokens ++ [Token.closeParen]).count .openParen = tokens.count .openParen ∧
      (tokens ++ [Token.closeParen]).count .closeParen = tokens.count .closeParen + 1 := by
  simp

/-- **The last token is refused exactly if the count fails there.** -/
theorem refusedAt_length {tokens : List Token} {depth : Nat}
    (hbalance : depth + tokens.count .closeParen = tokens.count .openParen) (token : Token)
    (e : EvalError) :
    RefusedAt (tokens ++ [token]) tokens.length e ↔ nest depth token = .error e := by
  have hat : (tokens ++ [token])[tokens.length]? = some token := List.getElem?_concat_length
  have htake : (tokens ++ [token]).take (tokens.length + 1) = tokens ++ [token] :=
    List.take_of_length_le (by simp)
  constructor
  · intro h
    cases h with
    | name hname hnone =>
      cases hat.symm.trans hname
      simp [nest, Func.ofName?_eq_none_iff.mpr hnone]
    | closeParen hclose hmore =>
      cases hat.symm.trans hclose
      have hdepth : depth = 0 := by
        rw [htake, (count_concat_closeParen tokens).1, (count_concat_closeParen tokens).2] at hmore
        omega
      rw [hdepth]
      rfl
  · intro h
    cases token with
    | name text =>
      unfold nest at h
      dsimp only at h
      split at h
      · rename_i hnone
        cases h
        exact .name hat (Func.ofName?_eq_none_iff.mp (Option.isNone_iff_eq_none.mp hnone))
      · cases h
    | closeParen =>
      cases depth with
      | zero =>
        cases h
        refine .closeParen hat ?_
        rw [htake, (count_concat_closeParen tokens).1, (count_concat_closeParen tokens).2]
        omega
      | succ depth => cases h
    | openParen => cases h
    | number x => cases h
    | operator o => cases h
    | function f => cases h

/-- Which tokens are counted, and which one is refused. -/
theorem counted_or_refused (tokens : List Token) :
    (∃ depth, levels tokens = .ok depth ∧
      depth + tokens.count .closeParen = tokens.count .openParen ∧ NoneRefused tokens) ∨
    ∃ i e, levels tokens = .error e ∧ FirstRefusedAt tokens i e := by
  -- one more token at the end: the places before it keep their tokens and their counts
  induction tokens using List.reverseRecOn with
  | nil => exact .inl ⟨0, rfl, rfl, fun i e h => absurd h.lt_length (Nat.not_lt_zero i)⟩
  | append_singleton tokens token ih =>
    have hsplit : levels (tokens ++ [token]) =
        (levels tokens >>= fun depth => nest depth token) := by
      unfold levels
      rw [List.foldlM_append]
      refine bind_congr fun depth => ?_
      rw [List.foldlM_cons]
      exact bind_pure _
    rw [hsplit]
    rcases ih with ⟨depth, hlevels, hbalance, hnone⟩ | ⟨i, e, hlevels, hfirst, hbefore⟩
    · have hlast := refusedAt_length hbalance token
      have hbefore : ∀ j < tokens.length, ∀ e, ¬ RefusedAt (tokens ++ [token]) j e := by
        intro j hj e h
        exact hnone j e ((refusedAt_append hj [token] e).mp h)
      rw [hlevels]
      show (∃ depth', nest depth token = .ok depth' ∧ _) ∨ ∃ i e, nest depth token = .error e ∧ _
      cases hnest : nest depth token with
      | error e =>
        exact .inr ⟨tokens.length, e, rfl, (hlast e).mpr hnest, hbefore⟩
      | ok depth' =>
        refine .inl ⟨depth', rfl, ?_, ?_⟩
        · have hdepth := depth_of_nest hnest
          rw [List.count_append, List.count_append]
          omega
        · intro i e h
          have hi := h.lt_length
          rw [List.length_append, List.length_singleton] at hi
          rcases Nat.lt_succ_iff_lt_or_eq.mp hi with hlt | rfl
          · exact hbefore i hlt e h
          · cases hnest.symm.trans ((hlast e).mp h)
    · rw [hlevels]
      have hi := hfirst.lt_length
      refine .inr ⟨i, e, rfl, (refusedAt_append hi [token] e).mpr hfirst, ?_⟩
      intro j hj e' h
      exact hbefore j hj e' ((refusedAt_append (hj.trans hi) [token] e').mp h)

theorem FirstRefusedAt.unique {tokens : List Token} {i i' : Nat} {e e' : EvalError}
    (h : FirstRefusedAt tokens i e) (h' : FirstRefusedAt tokens i' e') : e = e' := by
  rcases Nat.lt_trichotomy i i' with hlt | rfl | hlt
  · exact absurd h.1 (h'.2 i hlt e)
  · exact h.1.unique h'.1
  · exact absurd h'.1 (h.2 i' hlt e')

theorem balance_eq_error_iff (tokens : List Token) (e : EvalError) :
    balance tokens = .error e ↔
      (∃ i, FirstRefusedAt tokens i e) ∨
        NoneRefused tokens ∧ tokens.count .closeParen < tokens.count .openParen ∧
          e = .mismatchedParentheses := by
  rcases counted_or_refused tokens with
    ⟨depth, hlevels, hbalance, hnone⟩ | ⟨i, e', hlevels, hfirst⟩
  · have hopen : 0 < depth ↔ tokens.count .closeParen < tokens.count .openParen := by omega
    have hrefused : ¬ ∃ i, FirstRefusedAt tokens i e := fun ⟨i, h⟩ => hnone i e h.1
    unfold balance
    rw [hlevels, ← hopen]
    refine closed_eq_error_iff.trans ⟨fun h => .inr ⟨hnone, h⟩, fun h => ?_⟩
    exact (h.resolve_left hrefused).2
  · unfold balance
    rw [hlevels]
    constructor
    · intro h
      cases h
      exact .inl ⟨i, hfirst⟩
    · rintro (⟨i', hfirst'⟩ | ⟨hnone, -⟩)
      · rw [hfirst.unique hfirst']
        rfl
      · exact absurd hfirst.1 (hnone i e')

theorem balance_eq_ok_iff (tokens : List Token) :
    balance tokens = .ok () ↔
      NoneRefused tokens ∧ tokens.count .openParen ≤ tokens.count .closeParen := by
  rcases counted_or_refused tokens with
    ⟨depth, hlevels, hbalance, hnone⟩ | ⟨i, e, hlevels, hfirst⟩
  · have hopen : depth = 0 ↔ tokens.count .openParen ≤ tokens.count .closeParen := by omega
    unfold balance
    rw [hlevels, ← hopen]
    exact closed_eq_ok_iff.trans (and_iff_right hnone).symm
  · unfold balance
    rw [hlevels]
    exact iff_of_false nofun fun h => h.1 i e hfirst.1

end Postfix

/-! ## 3. Lists of tokens -/

open Postfix

theorem toPostfix_eq_error_iff {tokens : List Token} {e : EvalError} :
    toPostfix tokens = .error e ↔ balance tokens = .error e := by
  rw [← map_toPostfix]
  cases toPostfix tokens with
  | error e' => exact Iff.intro (fun h => by cases h; rfl) (fun h => by cases h; rfl)
  | ok ordered => exact iff_of_false nofun nofun

theorem exists_toPostfix_iff {tokens : List Token} :
    (∃ ordered, toPostfix tokens = .ok ordered) ↔ balance tokens = .ok () := by
  rw [← map_toPostfix]
  cases toPostfix tokens with
  | error e => exact iff_of_false nofun nofun
  | ok ordered => exact iff_of_true ⟨ordered, rfl⟩ rfl

/-- **Tokens are put in order but for the first that is refused, or for a parenthesis that stays
    open.** Tokens that can never be refused do not change that. -/
theorem toPostfix_eq_error_iff_first (tokens : List Token) :
    (∀ e, toPostfix tokens = .error e ↔
      (∃ i, FirstRefusedAt tokens i e) ∨
        NoneRefused tokens ∧ tokens.count .closeParen < tokens.count .openParen ∧
          e = .mismatchedParentheses) ∧
      ((∃ ordered, toPostfix tokens = .ok ordered) ↔
        NoneRefused tokens ∧ tokens.count .openParen ≤ tokens.count .closeParen) ∧
      ∀ e, toPostfix tokens = .error e ↔ toPostfix (tokens.filter Token.decides) = .error e := by
  have hfilter : balance (tokens.filter Token.decides) = balance tokens :=
    congrArg (· >>= closed) (foldlM_nest_filter tokens 0)
  refine ⟨fun e => toPostfix_eq_error_iff.trans (balance_eq_error_iff tokens e),
    exists_toPostfix_iff.trans (balance_eq_ok_iff tokens), fun e => ?_⟩
  rw [toPostfix_eq_error_iff, toPostfix_eq_error_iff, hfilter]

example : toPostfix [.closeParen, .name "foo"] = .error .mismatchedParentheses := rfl

example : toPostfix [.operator .add, .name "foo", .closeParen, .openParen] =
    .error (.unsupportedToken "foo") := by
  decide

end Calculator
