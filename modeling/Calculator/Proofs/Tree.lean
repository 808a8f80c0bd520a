import Calculator.Postfix.Value

/-!
# Expression trees

What an expression computes on what, once parentheses and precedence are settled: a tree of
numbers, operators and functions. Its value is computed from the leaves up, the left operand
before the right one and both before the node, so that the first error met in that order is the
error of the tree. Its postorder is the list of the same tokens that the postfix machine takes.

* `foldlM_postorder`: on any stack the postorder of a tree puts its value on top, or fails as the
  tree does; so it is computed to the value of the tree (`evalPostfix_postorder`);
* `exists_postorder_of_evalPostfix`: nothing but the postorder of a tree is given a value;
* `postorder_injective`: a list is the postorder of one tree at most, so that the three facts
  together say which lists are computed, and to what (`evalPostfix_eq_ok_iff_postorder`);
* `foldlM_of_evalPostfix`: so a list that has a value puts it on top of every stack, and leaves
  the operands below alone.
-/

namespace Calculator

/-- A sequence succeeds only if both of its parts do. -/
theorem exists_of_bind_ok {ε α β : Type} {x : Except ε α} {f : α → Except ε β} {b : β}
    (h : (x >>= f) = .ok b) : ∃ a, x = .ok a ∧ f a = .ok b := by
  cases x with
  | error e => cases h
  | ok a => exact ⟨a, rfl, h⟩

/-! ## 1. Trees -/

/-- What is computed on what. -/
inductive Tree where
  | number (value : Float)
  | binary (o : Operator) (left right : Tree)
  | apply (f : Func) (argument : Tree)
  deriving DecidableEq

namespace Tree

/-- The value of a tree, or the first error on the way to it. -/
def value : Tree → Except EvalError Float
  | number value => .ok value
  | binary o left right => do
    let a ← left.value
    let b ← right.value
    o.apply a b
  | apply f argument => do
    let x ← argument.value
    f.apply x

/-- The tokens of a tree in the order in which they are computed. -/
def postorder : Tree → List Token
  | number value => [.number value]
  | binary o left right => left.postorder ++ right.postorder ++ [.operator o]
  | apply f argument => argument.postorder ++ [.function f]

/-! ## 2. The postorder is computed to the value -/

/-- **The postorder of a tree puts its value on the stack**, whatever lies there already. -/
theorem foldlM_postorder (tree : Tree) (operands : List Float) :
    tree.postorder.foldlM Postfix.step operands =
      (tree.value >>= fun v => .ok (v :: operands)) := by
  induction tree generalizing operands with
  | number value => rfl
  | binary o left right ihl ihr =>
    simp only [postorder, value, List.foldlM_append, ihl]
    cases left.value with
    | error e => rfl
    | ok a =>
      show (right.postorder.foldlM Postfix.step (a :: operands) >>= _) = _
      rw [ihr]
      cases hb : right.value with
      | error e => rfl
      | ok b =>
        show ((o.apply a b >>= fun v => .ok (v :: operands)) >>= _) = (o.apply a b >>= _)
        cases o.apply a b <;> rfl
  | apply f argument ih =>
    simp only [postorder, value, List.foldlM_append, ih]
    cases argument.value with
    | error e => rfl
    | ok x =>
      show ((f.apply x >>= fun v => .ok (v :: operands)) >>= _) = (f.apply x >>= _)
      cases f.apply x <;> rfl

/-- The postorder of a tree is computed to its value. -/
theorem evalPostfix_postorder (tree : Tree) : evalPostfix tree.postorder = tree.value := by
  unfold evalPostfix
  rw [foldlM_postorder]
  cases tree.value <;> rfl

/-! ## 3. Nothing else is computed -/

/-- The tokens of trees that lie on the stack, the latest first: the oldest stands first. -/
def postorders (trees : List Tree) : List Token :=
  trees.reverse.flatMap postorder

@[simp] theorem postorders_cons (tree : Tree) (trees : List Tree) :
    postorders (tree :: trees) = postorders trees ++ tree.postorder := by
  simp [postorders]

/-- The trees on the stack after one more token, if it finds its operands there. -/
def grow (trees : List Tree) : Token → Option (List Tree)
  | .number value => some (.number value :: trees)
  | .operator o =>
    match trees with
    | right :: left :: rest => some (.binary o left right :: rest)
    | _ => none
  | .function f =>
    match trees with
    | argument :: rest => some (.apply f argument :: rest)
    | [] => none
  | _ => none

/-- The tokens of the trees are the tokens taken so far. -/
theorem postorders_grow {trees trees' : List Tree} {token : Token}
    (h : grow trees token = some trees') : postorders trees' = postorders trees ++ [token] := by
  unfold grow at h
  split at h
  · cases h
    simp [postorder]
  · split at h
    · cases h
      simp [postorder]
    · cases h
  · split at h
    · cases h
      simp [postorder]
    · cases h
  · cases h

/-- A token that the machine takes joins the trees whose values are on its stack. -/
theorem grow_of_step {trees : List Tree} {operands operands' : List Float} {token : Token}
    (hvalues : trees.map value = operands.map .ok)
    (h : Postfix.step operands token = .ok operands') :
    ∃ trees', grow trees token = some trees' ∧ trees'.map value = operands'.map .ok := by
  cases token with
  | number x =>
    cases h
    exact ⟨_, rfl, by simp [value, hvalues]⟩
  | operator o =>
    match operands, h with
    | b :: a :: rest, h =>
      obtain ⟨v, hv, hrest⟩ := exists_of_bind_ok h
      cases hrest
      obtain ⟨right, others, rfl, hb, hothers⟩ := List.map_eq_cons_iff.mp hvalues
      obtain ⟨left, others, rfl, ha, hothers⟩ := List.map_eq_cons_iff.mp hothers
      refine ⟨_, rfl, ?_⟩
      rw [List.map_cons, List.map_cons, hothers]
      congr 1
      show (left.value >>= fun a => right.value >>= fun b => o.apply a b) = _
      rw [ha, hb]
      exact hv
  | function f =>
    match operands, h with
    | x :: rest, h =>
      obtain ⟨v, hv, hrest⟩ := exists_of_bind_ok h
      cases hrest
      obtain ⟨argument, others, rfl, hx, hothers⟩ := List.map_eq_cons_iff.mp hvalues
      refine ⟨_, rfl, ?_⟩
      rw [List.map_cons, List.map_cons, hothers]
      congr 1
      show (argument.value >>= fun x => f.apply x) = _
      rw [hx]
      exact hv
  | name text => cases h
  | openParen => cases h
  | closeParen => cases h

/-- The same for a run: what is on the stack at its end are the values of trees that take up
    all the tokens. -/
theorem exists_postorders_of_foldlM {tokens : List Token} {trees : List Tree}
    {operands operands' : List Float} (hvalues : trees.map value = operands.map .ok)
    (h : tokens.foldlM Postfix.step operands = .ok operands') :
    ∃ trees', postorders trees' = postorders trees ++ tokens ∧
      trees'.map value = operands'.map .ok := by
  induction tokens generalizing trees operands with
  | nil =>
    cases h
    exact ⟨trees, by simp, hvalues⟩
  | cons token tokens ih =>
    rw [List.foldlM_cons] at h
    obtain ⟨middle, hstep, hrun⟩ := exists_of_bind_ok h
    obtain ⟨grown, hgrow, hgrown⟩ := grow_of_step hvalues hstep
    obtain ⟨trees', htokens, hvalues'⟩ := ih hgrown hrun
    refine ⟨trees', ?_, hvalues'⟩
    rw [htokens, postorders_grow hgrow]
    simp

/-- **Whatever is given a value is the postorder of a tree that has this value.** -/
theorem exists_postorder_of_evalPostfix {tokens : List Token} {v : Float}
    (h : evalPostfix tokens = .ok v) :
    ∃ tree : Tree, tokens = tree.postorder ∧ tree.value = .ok v := by
  obtain ⟨operands, hrun, hsingle⟩ := exists_of_bind_ok h
  have hstart : List.map value [] = List.map Except.ok [] := rfl
  obtain ⟨trees, htokens, hvalues⟩ := exists_postorders_of_foldlM hstart hrun
  match operands, hsingle with
  | [x], hsingle =>
    cases hsingle
    obtain ⟨tree, rfl, hvalue⟩ := List.map_eq_singleton_iff.mp hvalues
    exact ⟨tree, by simpa [postorders] using htokens.symm, hvalue⟩

/-- The postorder of a tree joins to that tree, on top of what lies there. -/
theorem foldlM_grow_postorder (tree : Tree) (trees : List Tree) :
    tree.postorder.foldlM grow trees = some (tree :: trees) := by
  induction tree generalizing trees with
  | number value => rfl
  | binary o left right ihl ihr => simp [postorder, List.foldlM_append, ihl, ihr, grow]
  | apply f argument ih => simp [postorder, List.foldlM_append, ih, grow]

/-- **No two trees have one postorder.** -/
theorem postorder_injective {tree tree' : Tree} (h : tree.postorder = tree'.postorder) :
    tree = tree' := by
  have h1 := foldlM_grow_postorder tree []
  rw [h, foldlM_grow_postorder tree' []] at h1
  cases h1
  rfl

/-- A list that has a value puts it on top of every stack. -/
theorem foldlM_of_evalPostfix {tokens : List Token} {v : Float} (h : evalPostfix tokens = .ok v)
    (operands : List Float) : tokens.foldlM Postfix.step operands = .ok (v :: operands) := by
  obtain ⟨tree, rfl, hvalue⟩ := exists_postorder_of_evalPostfix h
  rw [foldlM_postorder, hvalue]
  rfl

/-! ## 4. Exactly the postorders are computed -/

/-- **A list is given a value exactly if it is the postorder of a tree that has this value.** There
    is one tree at most with this postorder, and if it fails the list fails with the same error,
    the first one met from the leaves up. -/
theorem evalPostfix_eq_ok_iff_postorder (tokens : List Token) (v : Float) :
    (evalPostfix tokens = .ok v ↔
        ∃ tree : Tree, tokens = tree.postorder ∧ tree.value = .ok v) ∧
      (∀ tree tree' : Tree, tokens = tree.postorder → tokens = tree'.postorder → tree = tree') ∧
      ∀ (tree : Tree) (e : EvalError), tokens = tree.postorder → tree.value = .error e →
        evalPostfix tokens = .error e := by
  refine ⟨⟨exists_postorder_of_evalPostfix, ?_⟩, ?_, ?_⟩
  · rintro ⟨tree, rfl, hvalue⟩
    rw [evalPostfix_postorder, hvalue]
  · intro tree tree' h h'
    exact postorder_injective (h.symm.trans h')
  · rintro tree e rfl hvalue
    rw [evalPostfix_postorder, hvalue]

end Tree

end Calculator
