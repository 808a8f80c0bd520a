import Calculator.Proofs.Nesting
import Mathlib.Data.List.Chain

/-!
# The shape of what is held

What waits for its operands lies in stretches, one for each open parenthesis and one below them all.
From the bottom a stretch is a row of operators, each binding more tightly than the one before it
(only `^` may lie on `^`), and then a row of functions.

* The shape is a matter of neighbours: `Supports` says what may lie on what, and `Stacked` that
  nothing held lies where it may not.
* `stacked_of_step`: a token keeps that. An operator is held only on what it does not release, and
  the other releases leave a lower part of what is held.
* `isStretch_of_isChain` reads the stretches off the neighbours.
* `held_of_foldlM`: all of it, after any tokens that can be taken.
-/

namespace Calculator.Postfix.Order

/-! ## 1. Stretches -/

/-- The operator can lie on the other: it binds more tightly, or both are `^`. -/
def LiesOn (above below : Operator) : Prop :=
  below.precedence < above.precedence ∨ (below = .pow ∧ above = .pow)

/-- From the bottom, a row of operators and then a row of functions. -/
def IsStretch (stretch : List Held) : Prop :=
  ∃ (operators : List Operator) (functions : List Func),
    stretch = operators.map .operator ++ functions.map .function ∧
      operators.IsChain fun below above => LiesOn above below

/-- What is held, from the bottom, cut at the open parentheses. -/
def stretches (held : List Held) : List (List Held) :=
  held.reverse.splitOn .paren

/-- The one can lie directly below the other. -/
def Supports : Held → Held → Prop
  | .operator below, .operator above => LiesOn above below
  | .function _, .operator _ => False
  | _, .function _ | _, .paren | .paren, _ => True

theorem supports_function (below : Held) (f : Func) : Supports below (.function f) := by
  cases below <;> trivial

theorem supports_paren (below : Held) : Supports below .paren := by
  cases below <;> trivial

/-- What an operator does not release can lie below it. -/
theorem supports_of_not_leaves {o : Operator} {below : Held} (h : leaves o below = false) :
    Supports below (.operator o) := by
  cases below with
  | operator top =>
    revert h
    show precedes top o = false → LiesOn o top
    unfold LiesOn
    cases top <;> cases o <;> decide
  | function f => cases h
  | paren => trivial

/-- Neighbours without a parenthesis among them are one stretch. -/
theorem isStretch_of_forall {stretch : List Held} (hchain : stretch.IsChain Supports)
    (hparen : ∀ h ∈ stretch, h ≠ .paren) : IsStretch stretch := by
  induction stretch with
  | nil => exact ⟨[], [], rfl, .nil⟩
  | cons bottom stretch ih =>
    obtain ⟨hbottom, hstretch⟩ := List.isChain_cons.mp hchain
    obtain ⟨hne, hrest⟩ := List.forall_mem_cons.mp hparen
    obtain ⟨operators, functions, rfl, hoperators⟩ := ih hstretch hrest
    cases bottom with
    | operator o =>
      refine ⟨o :: operators, functions, rfl, hoperators.cons fun above habove => ?_⟩
      refine hbottom (.operator above) ?_
      rw [List.head?_append, List.head?_map, Option.mem_def.mp habove]
      rfl
    | function f =>
      -- no operator lies on a function
      cases operators with
      | nil => exact ⟨[], f :: functions, rfl, .nil⟩
      | cons o operators => exact (hbottom (.operator o) rfl).elim
    | paren => exact absurd rfl hne

/-- **Neighbours that may lie on each other lie in stretches.** -/
theorem isStretch_of_isChain {held : List Held} (hchain : held.IsChain Supports) :
    ∀ stretch ∈ held.splitOn .paren, IsStretch stretch := by
  rcases held_cases held with hnone | ⟨first, rest, hheld, hfirst⟩
  · rw [List.splitOn_eq_singleton fun hmem => hnone _ hmem rfl]
    exact List.forall_mem_singleton.mpr (isStretch_of_forall hchain hnone)
  · rw [hheld] at hchain ⊢
    rw [List.splitOn_append_cons_self_of_not_mem fun hmem => hfirst _ hmem rfl]
    refine List.forall_mem_cons.mpr ⟨isStretch_of_forall hchain.left_of_append hfirst, ?_⟩
    exact isStretch_of_isChain hchain.right_of_append.tail
termination_by held.length
decreasing_by
  rw [hheld, List.length_append, List.length_cons]
  omega

/-! ## 2. Steps and runs -/

/-- Nothing that is held lies where it may not. -/
def Stacked (order : Order) : Prop :=
  order.held.IsChain fun above below => Supports below above

theorem held_argumentEnds_suffix (order : Order) : order.argumentEnds.held <:+ order.held := by
  obtain ⟨output, held⟩ := order
  match held with
  | [] => exact List.suffix_refl _
  | .function f :: held => exact List.suffix_cons _ _
  | .operator o :: held => exact List.suffix_refl _
  | .paren :: held => exact List.suffix_refl _

/-- **A token keeps the shape of what is held.** -/
theorem stacked_of_step {order next : Order} {token : Token} (h : order.Stacked)
    (hstep : step order token = .ok next) : next.Stacked := by
  cases token with
  | number x =>
    cases hstep
    exact h
  | name text =>
    obtain ⟨f, -, rfl⟩ := step_name hstep
    exact h.cons fun below _ => supports_function below f
  | function f =>
    cases hstep
    exact h.cons fun below _ => supports_function below f
  | operator o =>
    cases hstep
    have hhead := List.head?_dropWhile_not (leaves o) order.held
    refine (h.suffix (List.dropWhile_suffix (leaves o))).cons fun below hbelow => ?_
    rw [Option.mem_def.mp hbelow] at hhead
    exact supports_of_not_leaves (by simpa using hhead)
  | openParen =>
    cases hstep
    exact h.cons fun below _ => supports_paren below
  | closeParen =>
    obtain ⟨pending, below, hheld, -, rfl⟩ := exists_of_step_closeParen hstep
    have hbelow : below <:+ order.held :=
      hheld ▸ (List.suffix_cons _ _).trans (List.suffix_append pending _)
    exact h.suffix ((held_argumentEnds_suffix _).trans hbelow)

theorem stacked_of_foldlM {tokens : List Token} {order next : Order} (h : order.Stacked)
    (hrun : tokens.foldlM step order = .ok next) : next.Stacked := by
  induction tokens generalizing order with
  | nil =>
    cases hrun
    exact h
  | cons token tokens ih =>
    rw [List.foldlM_cons] at hrun
    obtain ⟨middle, hstep, hrest⟩ := exists_of_bind_ok hrun
    exact ih (stacked_of_step h hstep) hrest

/-- As many parentheses are held as have been opened and not closed. -/
theorem depth_of_foldlM {tokens : List Token} {order : Order}
    (hrun : tokens.foldlM step start = .ok order) :
    order.depth + tokens.count .closeParen = tokens.count .openParen := by
  have hlevels : levels tokens = .ok order.depth := by
    have hdepth := map_depth_foldlM tokens start
    rw [hrun] at hdepth
    exact hdepth.symm
  rcases counted_or_refused tokens with ⟨depth, hcount, hbalance, -⟩ | ⟨i, e, herror, -⟩
  · cases hlevels.symm.trans hcount
    exact hbalance
  · cases hlevels.symm.trans herror

/-- An operator is taken in any case, and is held on something else than a function. -/
theorem exists_step_operator (order : Order) (o : Operator) :
    ∃ output below, step order (.operator o) = .ok ⟨output, .operator o :: below⟩ ∧
      ∀ f, below.head? ≠ some (.function f) := by
  refine ⟨_, _, rfl, fun f hf => ?_⟩
  have hhead := List.head?_dropWhile_not (leaves o) order.held
  rw [hf] at hhead
  cases hhead

/-! ## 3. What is held -/

/-- What is held is an operator, a function or an open parenthesis. -/
theorem held_token_cases (h : Held) :
    (∃ o, h.token = .operator o) ∨ (∃ f, h.token = .function f) ∨ h.token = .openParen := by
  cases h with
  | operator o => exact .inl ⟨o, rfl⟩
  | function f => exact .inr (.inl ⟨f, rfl⟩)
  | paren => exact .inr (.inr rfl)

/-- **After any tokens that can be taken, what is held has its shape**: operators, functions and
    open parentheses only; between two parentheses, and at both ends, a stretch; and as many
    parentheses as have been opened and not closed. So no closing one is met at the end, and the
    next operator is not held on a function. -/
theorem held_of_foldlM {tokens : List Token} {order : Order}
    (hrun : tokens.foldlM step start = .ok order) :
    (∀ token ∈ order.held.map Held.token,
      (∃ o, token = .operator o) ∨ (∃ f, token = .function f) ∨ token = .openParen) ∧
    (∀ stretch ∈ stretches order.held, IsStretch stretch) ∧
    order.held.count .paren + tokens.count .closeParen = tokens.count .openParen ∧
    Token.closeParen ∉ order.held.map Held.token ∧
    ∀ o, ∃ output below, step order (.operator o) = .ok ⟨output, .operator o :: below⟩ ∧
      ∀ f, below.head? ≠ some (.function f) := by
  have hstart : start.Stacked := List.IsChain.nil
  have hstacked : order.Stacked := stacked_of_foldlM hstart hrun
  have hkinds : ∀ token ∈ order.held.map Held.token,
      (∃ o, token = .operator o) ∨ (∃ f, token = .function f) ∨ token = .openParen :=
    List.forall_mem_map.mpr fun h _ => held_token_cases h
  refine ⟨hkinds, ?_, depth_of_foldlM hrun, fun hclose => ?_, exists_step_operator order⟩
  · exact isStretch_of_isChain (List.isChain_reverse.mpr hstacked)
  · simpa using hkinds _ hclose

/-- The tokens of `0+0*sin(0^0^ln cos`, where operands are missing; the next operator would release
    the upper stretch. -/
theorem held_of_foldlM_powers :
    let tokens : List Token := [.number Number.zero, .operator .add, .number Number.zero,
      .operator .mul, .name "sin", .openParen, .number Number.zero, .operator .pow,
      .number Number.zero, .operator .pow, .name "ln", .function .cos]
    ∃ order, tokens.foldlM step start = .ok order ∧
      stretches order.held = [[.operator .add, .operator .mul, .function .sin],
        [.operator .pow, .operator .pow, .function .ln, .function .cos]] ∧
      (∀ stretch ∈ stretches order.held, IsStretch stretch) ∧
      order.held.count .paren + tokens.count .closeParen = tokens.count .openParen ∧
      ∃ output, step order (.operator .sub) = .ok ⟨output, [.operator .sub, .paren,
        .function .sin, .operator .mul, .operator .add]⟩ := by
  intro tokens
  have hrun : tokens.foldlM step start = .ok ⟨[.number Number.zero, .number Number.zero,
      .number Number.zero, .number Number.zero], [.function .cos, .function .ln, .operator .pow,
      .operator .pow, .paren, .function .sin, .operator .mul, .operator .add]⟩ := rfl
  obtain ⟨-, hstretches, hcount, -, -⟩ := held_of_foldlM hrun
  exact ⟨_, hrun, by decide, hstretches, hcount, _, rfl⟩

end Calculator.Postfix.Order
