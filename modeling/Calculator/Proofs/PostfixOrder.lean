import Calculator.Expression
import Calculator.Proofs.Grammar
import Mathlib.Data.List.TakeWhile

/-!
# Putting expressions in postfix order

The order of an expression is the postorder of its tree: for whole expressions
(`toPostfix_of_derives`), and for an expression inside others, whatever was read before it.

* Tokens are written to the output and never read from it (`step_onto`); and what is held below
  an open parenthesis plays no part until that parenthesis closes (`step_under`). So a list that
  can be put in order can be put in order between parentheses anywhere, to the same effect
  (`foldlM_parens`).
* The expression of a level comes out complete but for what is still held of it: operators and
  functions that every operator releases which may take the expression as its left operand
  (`Adds`). What was held before stays, provided that it waits for an expression of that level
  (`Awaits`). This is the invariant; `foldlM_of_derives` carries it along the derivation.
-/

namespace Calculator

/-- The value of a list of tokens. -/
def compute (tokens : List Token) : Except EvalError Float := do
  evalPostfix (← toPostfix tokens)

/-- The value of a text is that of its tokens. -/
theorem evaluate_eq_compute (text : String) :
    evaluate text = (tokenize text >>= compute) := rfl

namespace Postfix.Order

/-! ## 1. A closing parenthesis -/

/-- The argument of the function on top is complete: the function leaves. -/
def argumentEnds : Order → Order
  | ⟨output, .function f :: held⟩ => ⟨.function f :: output, held⟩
  | order => order

/-- No parenthesis is open, or one is open last. -/
theorem held_cases (held : List Held) : (∀ h ∈ held, h ≠ .paren) ∨
    ∃ pending below, held = pending ++ .paren :: below ∧ ∀ h ∈ pending, h ≠ .paren := by
  induction held with
  | nil => exact .inl (List.forall_mem_nil _)
  | cons top held ih =>
    by_cases htop : top = .paren
    · exact .inr ⟨[], held, by rw [htop]; rfl, List.forall_mem_nil _⟩
    · rcases ih with hnone | ⟨pending, below, rfl, hpending⟩
      · exact .inl (List.forall_mem_cons.mpr ⟨htop, hnone⟩)
      · exact .inr ⟨top :: pending, below, rfl, List.forall_mem_cons.mpr ⟨htop, hpending⟩⟩

theorem step_closeParen_error {held : List Held} (h : ∀ x ∈ held, x ≠ .paren)
    (output : List Token) : step ⟨output, held⟩ .closeParen = .error .mismatchedParentheses := by
  have hdrop : held.dropWhile (· != .paren) = [] :=
    List.dropWhile_eq_nil_iff.mpr fun x hx => bne_iff_ne.mpr (h x hx)
  unfold step
  dsimp only
  rw [hdrop]

/-- **What is held above the last open parenthesis is released by the closing one**, and so is a
    function in front of the pair. -/
theorem step_closeParen {pending : List Held} (h : ∀ x ∈ pending, x ≠ .paren)
    (output : List Token) (below : List Held) :
    step ⟨output, pending ++ .paren :: below⟩ .closeParen =
      .ok (argumentEnds ⟨release output pending, below⟩) := by
  have hpending : ∀ x ∈ pending, (x != .paren) = true := fun x hx => bne_iff_ne.mpr (h x hx)
  unfold step
  dsimp only
  rw [List.takeWhile_append_of_pos hpending, List.dropWhile_append_of_pos hpending]
  simp only [List.takeWhile_cons, List.dropWhile_cons, bne_self_eq_false, Bool.false_eq_true,
    if_false, List.append_nil]
  match below with
  | [] => rfl
  | .function f :: below => rfl
  | .operator o :: below => rfl
  | .paren :: below => rfl

/-- A closing parenthesis is taken only if one is open. -/
theorem exists_of_step_closeParen {order next : Order} (h : step order .closeParen = .ok next) :
    ∃ pending below, order.held = pending ++ .paren :: below ∧ (∀ x ∈ pending, x ≠ .paren) ∧
      next = argumentEnds ⟨release order.output pending, below⟩ := by
  obtain ⟨output, held⟩ := order
  rcases held_cases held with hnone | ⟨pending, below, rfl, hpending⟩
  · cases (step_closeParen_error hnone output).symm.trans h
  · cases (step_closeParen hpending output below).symm.trans h
    exact ⟨pending, below, rfl, hpending, rfl⟩

/-! ## 2. What a step does not touch -/

/-- The same state, with older output. -/
def onto (order : Order) (base : List Token) : Order :=
  ⟨order.output ++ base, order.held⟩

/-- The same state, with more held below an open parenthesis. -/
def under (order : Order) (below : List Held) : Order :=
  ⟨order.output, order.held ++ .paren :: below⟩

theorem release_append (output base : List Token) (released : List Held) :
    release (output ++ base) released = release output released ++ base := by
  simp [release_eq]

theorem argumentEnds_onto (order : Order) (base : List Token) :
    (order.onto base).argumentEnds = order.argumentEnds.onto base := by
  obtain ⟨output, held⟩ := order
  match held with
  | [] => rfl
  | .function f :: held => rfl
  | .operator o :: held => rfl
  | .paren :: held => rfl

theorem argumentEnds_under (order : Order) (below : List Held) :
    (order.under below).argumentEnds = order.argumentEnds.under below := by
  obtain ⟨output, held⟩ := order
  match held with
  | [] => rfl
  | .function f :: held => rfl
  | .operator o :: held => rfl
  | .paren :: held => rfl

/-- **The output is only written.** -/
theorem step_onto (order : Order) (base : List Token) (token : Token) :
    step (order.onto base) token = (step order token).map (·.onto base) := by
  cases token with
  | number x => rfl
  | name text =>
    unfold step
    dsimp only
    split <;> rfl
  | function f => rfl
  | operator o =>
    show Except.ok (Order.mk (release (order.output ++ base) _) _) = _
    rw [release_append]
    rfl
  | openParen => rfl
  | closeParen =>
    obtain ⟨output, held⟩ := order
    show step ⟨output ++ base, held⟩ .closeParen = _
    rcases held_cases held with hnone | ⟨pending, below, rfl, hpending⟩
    · rw [step_closeParen_error hnone, step_closeParen_error hnone]
      rfl
    · rw [step_closeParen hpending, step_closeParen hpending, release_append]
      exact congrArg Except.ok (argumentEnds_onto ⟨release output pending, below⟩ base)

theorem foldlM_step_onto (tokens : List Token) (order : Order) (base : List Token) :
    tokens.foldlM step (order.onto base) = (tokens.foldlM step order).map (·.onto base) := by
  induction tokens generalizing order with
  | nil => rfl
  | cons token tokens ih =>
    rw [List.foldlM_cons, List.foldlM_cons, step_onto]
    cases step order token with
    | error e => rfl
    | ok next => exact ih next

theorem takeWhile_append_paren {p : Held → Bool} (hparen : p .paren = false)
    (held below : List Held) : (held ++ .paren :: below).takeWhile p = held.takeWhile p := by
  induction held with
  | nil => simp [hparen]
  | cons h held ih => cases hp : p h <;> simp [hp, ih]

theorem dropWhile_append_paren {p : Held → Bool} (hparen : p .paren = false)
    (held below : List Held) :
    (held ++ .paren :: below).dropWhile p = held.dropWhile p ++ .paren :: below := by
  induction held with
  | nil => simp [hparen]
  | cons h held ih => cases hp : p h <;> simp [hp, ih]

/-- **What lies below an open parenthesis is not touched** by a token that can be taken without
    it. -/
theorem step_under {order order' : Order} {token : Token} (h : step order token = .ok order')
    (below : List Held) : step (order.under below) token = .ok (order'.under below) := by
  cases token with
  | number x =>
    cases h
    rfl
  | name text =>
    unfold step at h ⊢
    dsimp only at h ⊢
    split at h
    · cases h
      rfl
    · cases h
  | function f =>
    cases h
    rfl
  | operator o =>
    cases h
    show Except.ok (Order.mk (release order.output ((order.held ++ .paren :: below).takeWhile _))
      (.operator o :: (order.held ++ .paren :: below).dropWhile _)) = _
    rw [takeWhile_append_paren rfl, dropWhile_append_paren rfl]
    rfl
  | openParen =>
    cases h
    rfl
  | closeParen =>
    obtain ⟨output, held⟩ := order
    rcases held_cases held with hnone | ⟨pending, rest, rfl, hpending⟩
    · rw [step_closeParen_error hnone] at h
      cases h
    · rw [step_closeParen hpending] at h
      cases h
      show step ⟨output, pending ++ .paren :: rest ++ .paren :: below⟩ .closeParen = _
      rw [List.append_assoc, List.cons_append, step_closeParen hpending]
      exact congrArg Except.ok (argumentEnds_under ⟨release output pending, rest⟩ below)

theorem foldlM_step_under {tokens : List Token} {order order' : Order}
    (h : tokens.foldlM step order = .ok order') (below : List Held) :
    tokens.foldlM step (order.under below) = .ok (order'.under below) := by
  induction tokens generalizing order with
  | nil =>
    cases h
    rfl
  | cons token tokens ih =>
    rw [List.foldlM_cons] at h
    obtain ⟨next, hstep, hrun⟩ := exists_of_bind_ok h
    rw [List.foldlM_cons, step_under hstep below]
    exact ih hrun

/-! ## 3. A list in parentheses -/

/-- A list is finished when no parenthesis is open; all that is held is released. -/
theorem finish_eq_ok_iff {order : Order} {ordered : List Token} :
    order.finish = .ok ordered ↔
      (∀ h ∈ order.held, h ≠ .paren) ∧ ordered = (release order.output order.held).reverse := by
  unfold finish
  split
  · rename_i hparen
    refine ⟨nofun, fun h => ?_⟩
    exact absurd rfl (h.1 .paren (by simpa using hparen))
  · rename_i hparen
    refine ⟨fun h => ⟨fun x hx e => hparen (by simpa [e] using hx), ?_⟩, fun h => by rw [h.2]⟩
    cases h
    rfl

/-- **A list in parentheses comes out as it does alone**, on top of whatever was put in order
    before; and it is the argument of a function that stands in front of it. -/
theorem foldlM_parens {tokens ordered : List Token} (h : toPostfix tokens = .ok ordered)
    (order : Order) :
    (Token.openParen :: tokens ++ [Token.closeParen]).foldlM step order =
      .ok (argumentEnds ⟨ordered.reverse ++ order.output, order.held⟩) := by
  obtain ⟨inner, hrun, hfinish⟩ := exists_of_bind_ok h
  obtain ⟨hparen, rfl⟩ := finish_eq_ok_iff.mp hfinish
  have hinner : tokens.foldlM step ⟨order.output, .paren :: order.held⟩ =
      .ok ((inner.under order.held).onto order.output) := by
    show tokens.foldlM step ((start.under order.held).onto order.output) = _
    rw [foldlM_step_onto, foldlM_step_under hrun]
    rfl
  have hclose := step_closeParen hparen (inner.output ++ order.output) order.held
  rw [List.cons_append, List.foldlM_cons]
  show (tokens ++ [Token.closeParen]).foldlM step ⟨order.output, .paren :: order.held⟩ = _
  rw [List.foldlM_append, hinner]
  show ([Token.closeParen].foldlM step ⟨inner.output ++ order.output,
    inner.held ++ .paren :: order.held⟩) = _
  rw [List.foldlM_cons, hclose, release_append, List.reverse_reverse]
  rfl

/-! ## 4. Expressions -/

/-- What is held waits for an expression of the level: no operator of that level or a tighter one
    releases it. A function waits for an atom. -/
def Awaits (level : Level) : List Held → Prop
  | [] => True
  | .paren :: _ => True
  | .operator top :: _ => top.rightLevel ≤ level
  | .function _ :: _ => level = .atom

/-- What is held belongs to an expression of the level. -/
def Belongs (level : Level) : Held → Prop
  | .operator o => level ≤ o.level
  | .function _ => True
  | .paren => False

/-- Between the two states the tree, of the level, was read. Either some of it is still held, on
    top of what was; or nothing is, and the function that was on top has had its argument. -/
def Adds (level : Level) (tree : Tree) (before after : Order) : Prop :=
  (∃ pending, after.held = pending ++ before.held ∧
    release after.output pending = tree.postorder.reverse ++ before.output ∧
    ∀ h ∈ pending, Belongs level h) ∨
  (∃ f held, before.held = .function f :: held ∧
    after = ⟨.function f :: (tree.postorder.reverse ++ before.output), held⟩)

theorem Awaits.tighter {level level' : Level} {held : List Held} (h : Awaits level held)
    (hle : level ≤ level') : Awaits level' held := by
  match held, h with
  | [], _ => trivial
  | .paren :: _, _ => trivial
  | .operator top :: _, h => exact Level.le_trans h hle
  | .function _ :: _, h =>
    subst h
    revert hle
    show Level.atom ≤ level' → level' = .atom
    cases level' <;> decide

theorem Belongs.looser {level level' : Level} {h : Held} (hbelongs : Belongs level' h)
    (hle : level ≤ level') : Belongs level h := by
  cases h with
  | operator o => exact Level.le_trans hle hbelongs
  | function f => trivial
  | paren => exact hbelongs

theorem Adds.looser {level level' : Level} {tree : Tree} {before after : Order}
    (h : Adds level' tree before after) (hle : level ≤ level') :
    Adds level tree before after := by
  rcases h with ⟨pending, hheld, houtput, hpending⟩ | hfunction
  · exact .inl ⟨pending, hheld, houtput, fun h hh => (hpending h hh).looser hle⟩
  · exact .inr hfunction

/-- The operators of the left operand are released by the operator that takes it. -/
theorem leaves_of_belongs {o : Operator} {h : Held} (hbelongs : Belongs o.leftLevel h) :
    leaves o h = true := by
  cases h with
  | operator top =>
    revert hbelongs
    show o.leftLevel ≤ top.level → precedes top o = true
    cases top <;> cases o <;> decide
  | function f => rfl
  | paren => exact hbelongs.elim

/-- What waits for the whole row is not released by the operators of the row. -/
theorem takeWhile_of_awaits {o : Operator} {held : List Held} (h : Awaits o.level held) :
    held.takeWhile (leaves o) = [] ∧ held.dropWhile (leaves o) = held := by
  match held, h with
  | [], _ => exact ⟨rfl, rfl⟩
  | .paren :: _, _ => exact ⟨rfl, rfl⟩
  | .operator top :: held, h =>
    have hstays : leaves o (.operator top) = false := by
      revert h
      show top.rightLevel ≤ o.level → precedes top o = false
      cases top <;> cases o <;> decide
    simp [hstays]
  | .function f :: held, h =>
    revert h
    show o.level = .atom → _
    cases o <;> nofun

/-- An operator is held on top of what waits for its row, and its left operand is complete. -/
theorem step_operator {o : Operator} {left : Tree} {before after : Order}
    (h : Adds o.leftLevel left before after) (hawaits : Awaits o.level before.held) :
    step after (.operator o) =
      .ok ⟨left.postorder.reverse ++ before.output, .operator o :: before.held⟩ := by
  rcases h with ⟨pending, hheld, houtput, hpending⟩ | ⟨f, held, hheld, -⟩
  · have hleaves : ∀ h ∈ pending, leaves o h = true := fun h hh =>
      leaves_of_belongs (hpending h hh)
    obtain ⟨htake, hdrop⟩ := takeWhile_of_awaits hawaits
    show Except.ok (Order.mk (release after.output (after.held.takeWhile (leaves o)))
      (.operator o :: after.held.dropWhile (leaves o))) = _
    rw [hheld, List.takeWhile_append_of_pos hleaves, List.dropWhile_append_of_pos hleaves,
      htake, hdrop, List.append_nil, houtput]
  · rw [hheld] at hawaits
    revert hawaits
    show o.level = .atom → _
    cases o <;> nofun

/-- A function is held on top, whichever way the token calls it. -/
theorem step_names {token : Token} {f : Func} (h : token.Names f) (order : Order) :
    step order token = .ok ⟨order.output, .function f :: order.held⟩ := by
  cases h with
  | name =>
    unfold step
    dsimp only
    rw [Func.ofName?_name]
  | function => rfl

/-- A list that leaves nothing but the tree on an empty start is ordered as the tree. -/
theorem toPostfix_of_adds {tokens : List Token} {level : Level} {tree : Tree} {order : Order}
    (hrun : tokens.foldlM step start = .ok order) (h : Adds level tree start order) :
    toPostfix tokens = .ok tree.postorder := by
  rcases h with ⟨pending, hheld, houtput, hpending⟩ | ⟨f, held, hheld, -⟩
  · have hparen : ∀ h ∈ order.held, h ≠ .paren := by
      intro h hh e
      rw [hheld, show start.held = [] from rfl, List.append_nil] at hh
      rw [e] at hh
      exact hpending _ hh
    show (tokens.foldlM step start >>= finish) = _
    rw [hrun]
    refine finish_eq_ok_iff.mpr ⟨hparen, ?_⟩
    rw [hheld, show start.held = [] from rfl, List.append_nil, houtput,
      show start.output = [] from rfl]
    simp
  · cases hheld

/-- An expression in parentheses is complete. -/
theorem adds_argumentEnds (tree : Tree) (before : Order) :
    Adds .atom tree before
      (argumentEnds ⟨tree.postorder.reverse ++ before.output, before.held⟩) := by
  obtain ⟨output, held⟩ := before
  match held with
  | [] => exact .inl ⟨[], rfl, rfl, List.forall_mem_nil _⟩
  | .paren :: held => exact .inl ⟨[], rfl, rfl, List.forall_mem_nil _⟩
  | .operator o :: held => exact .inl ⟨[], rfl, rfl, List.forall_mem_nil _⟩
  | .function f :: held => exact .inr ⟨f, held, rfl, rfl⟩

/-- A function that was held for its argument belongs to the atom, or has left with it. -/
theorem Adds.apply {f : Func} {argument : Tree} {before after : Order}
    (h : Adds .atom argument ⟨before.output, .function f :: before.held⟩ after) :
    Adds .atom (.apply f argument) before after := by
  refine .inl ?_
  rcases h with ⟨pending, hheld, houtput, hpending⟩ | ⟨g, held, hheld, hafter⟩
  · refine ⟨pending ++ [.function f], ?_, ?_, ?_⟩
    · rw [hheld, List.append_assoc]
      rfl
    · rw [release_eq] at houtput ⊢
      rw [List.map_append, List.reverse_append, List.append_assoc, houtput]
      simp [Tree.postorder, Held.token]
    · exact List.forall_mem_append.mpr ⟨hpending, List.forall_mem_singleton.mpr trivial⟩
  · cases hheld
    refine ⟨[], by rw [hafter]; rfl, ?_, List.forall_mem_nil _⟩
    rw [hafter]
    simp [release, Tree.postorder]

/-- An operator that was held for its right operand belongs to what it joins. -/
theorem Adds.binary {o : Operator} {left right : Tree} {before after : Order}
    (h : Adds o.rightLevel right
      ⟨left.postorder.reverse ++ before.output, .operator o :: before.held⟩ after) :
    Adds o.level (.binary o left right) before after := by
  rcases h with ⟨pending, hheld, houtput, hpending⟩ | ⟨f, held, hheld, -⟩
  · refine .inl ⟨pending ++ [.operator o], ?_, ?_, ?_⟩
    · rw [hheld, List.append_assoc]
      rfl
    · rw [release_eq] at houtput ⊢
      rw [List.map_append, List.reverse_append, List.append_assoc, houtput]
      simp [Tree.postorder, Held.token]
    · refine List.forall_mem_append.mpr ⟨fun h hh => ?_, ?_⟩
      · exact (hpending h hh).looser o.level_le_rightLevel
      · exact List.forall_mem_singleton.mpr (Level.le_refl _)
  · cases hheld

/-- **An expression adds its tree** to every state that waits for an expression of its level. -/
theorem foldlM_of_derives {level : Level} {tokens : List Token} {tree : Tree}
    (h : Derives level tokens tree) (before : Order) (hawaits : Awaits level before.held) :
    ∃ after, tokens.foldlM step before = .ok after ∧ Adds level tree before after := by
  induction h generalizing before with
  | number x => exact ⟨_, rfl, .inl ⟨[], rfl, rfl, List.forall_mem_nil _⟩⟩
  | @parens tokens tree inner ih =>
    -- the list in the parentheses is ordered as its tree alone, hence inside them too
    obtain ⟨alone, hrun, hadds⟩ := ih start trivial
    exact ⟨_, foldlM_parens (toPostfix_of_adds hrun hadds) before, adds_argumentEnds tree before⟩
  | @apply token f tokens tree name argument ih =>
    obtain ⟨after, hrun, hadds⟩ := ih ⟨before.output, .function f :: before.held⟩ rfl
    refine ⟨after, ?_, hadds.apply⟩
    rw [List.foldlM_cons, step_names name]
    exact hrun
  | @binary o tokens tokens' left right hleft hright ihl ihr =>
    obtain ⟨middle, hrunl, haddsl⟩ := ihl before (hawaits.tighter o.level_le_leftLevel)
    have hstep := step_operator haddsl hawaits
    obtain ⟨after, hrunr, haddsr⟩ := ihr
      ⟨left.postorder.reverse ++ before.output, .operator o :: before.held⟩ (Level.le_refl _)
    refine ⟨after, ?_, haddsr.binary⟩
    rw [List.foldlM_append, hrunl]
    show ((.operator o :: tokens').foldlM step middle) = _
    rw [List.foldlM_cons, hstep]
    exact hrunr
  | loosen hle inner ih =>
    obtain ⟨after, hrun, hadds⟩ := ih before (hawaits.tighter hle)
    exact ⟨after, hrun, hadds.looser hle⟩

end Postfix.Order

open Postfix.Order in
/-- **The postfix order of an expression is the postorder of its tree.** -/
theorem toPostfix_of_derives {tokens : List Token} {tree : Tree}
    (h : Derives .sum tokens tree) : toPostfix tokens = .ok tree.postorder := by
  obtain ⟨order, hrun, hadds⟩ := foldlM_of_derives h start trivial
  exact toPostfix_of_adds hrun hadds

/-- **The value of an expression is the value of its tree**, the first error included. -/
theorem compute_of_derives {tokens : List Token} {tree : Tree} (h : Derives .sum tokens tree) :
    compute tokens = tree.value := by
  show (toPostfix tokens >>= evalPostfix) = _
  rw [toPostfix_of_derives h]
  exact tree.evalPostfix_postorder

end Calculator
