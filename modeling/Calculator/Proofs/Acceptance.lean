import Calculator.Proofs.Writing

/-!
# Which texts have a value

Putting the tokens in postfix order checks the parentheses and the names, and computing the order
checks that each operator and function finds its operands. Nobody checks that operands and
operators take turns. So a text that has a value is ordered as the postorder of one tree, the one
that is computed; but it is an expression that stands for this tree only if its tokens alternate
(`exists_tree_of_evaluate`).

That tokens which alternate, and can be put in order, are an expression is shown along the run. What
was read up to some token is an expression but for the parentheses that are still open
(`Complete`), or it waits for an operand to become one (`Waiting`). The number of open parentheses
is the number of those that are held.
-/

namespace Calculator

namespace Postfix.Order

/-! ## 1. Open parentheses -/

/-- The number of parentheses that are open. -/
def depth (order : Order) : Nat :=
  order.held.count .paren

theorem depth_dropWhile {p : Held → Bool} (hparen : p .paren = false) (held : List Held) :
    (held.dropWhile p).count .paren = held.count .paren := by
  induction held with
  | nil => rfl
  | cons h held ih =>
    cases hp : p h with
    | false => rw [List.dropWhile_cons_of_neg (by simp [hp])]
    | true =>
      have hne : h ≠ .paren := fun e => by simp [e, hparen] at hp
      rw [List.dropWhile_cons_of_pos hp, ih, List.count_cons_of_ne hne]

theorem depth_argumentEnds (order : Order) : order.argumentEnds.depth = order.depth := by
  obtain ⟨output, held⟩ := order
  match held with
  | [] => rfl
  | .function f :: held => simp [argumentEnds, depth]
  | .operator o :: held => rfl
  | .paren :: held => rfl

/-- A parenthesis that closes is one of those that are open. -/
theorem depth_closeParen {order order' : Order} (h : step order .closeParen = .ok order') :
    order.depth = order'.depth + 1 := by
  obtain ⟨output, held⟩ := order
  rcases held_cases held with hnone | ⟨pending, below, rfl, hpending⟩
  · rw [step_closeParen_error hnone] at h
    cases h
  · rw [step_closeParen hpending] at h
    cases h
    have hcount : pending.count .paren = 0 :=
      List.count_eq_zero_of_not_mem fun hmem => hpending _ hmem rfl
    rw [depth_argumentEnds]
    simp [depth, hcount]

theorem depth_openParen (output : List Token) (held : List Held) :
    depth ⟨output, .paren :: held⟩ = depth ⟨output, held⟩ + 1 := by
  simp [depth]

theorem depth_operator {order order' : Order} {o : Operator}
    (h : step order (.operator o) = .ok order') : order'.depth = order.depth := by
  cases h
  show (Held.operator o :: order.held.dropWhile (leaves o)).count .paren = _
  have hne : Held.operator o ≠ .paren := nofun
  rw [List.count_cons_of_ne hne, depth_dropWhile rfl]
  rfl

/-- A name that is taken is that of a function. -/
theorem step_name {order order' : Order} {text : String}
    (h : step order (.name text) = .ok order') :
    ∃ f, (Token.name text).Names f ∧ order' = ⟨order.output, .function f :: order.held⟩ := by
  unfold step at h
  dsimp only at h
  split at h
  · rename_i f hf
    cases h
    rw [← Func.name_of_ofName? hf]
    exact ⟨f, .name f, rfl⟩
  · cases h

/-- No parenthesis is open at the end. -/
theorem depth_of_finish {order : Order} {ordered : List Token} (h : order.finish = .ok ordered) :
    order.depth = 0 :=
  List.count_eq_zero_of_not_mem fun hmem => (finish_eq_ok_iff.mp h).1 _ hmem rfl

end Postfix.Order

/-! ## 2. What was read so far -/

/-- The tokens end an expression, inside the number of open parentheses. In front of each of them
    stands what an operand would complete. -/
def Complete : Nat → List Token → Prop
  | 0, tokens => ∃ tree, Derives .sum tokens tree
  | depth + 1, tokens => ∃ outer inner tree, tokens = outer ++ .openParen :: inner ∧
      Derives .sum inner tree ∧
      ∀ atom operand, Derives .atom atom operand → Complete depth (outer ++ atom)

/-- The tokens wait for an operand: every atom completes them. -/
def Waiting (depth : Nat) (tokens : List Token) : Prop :=
  ∀ atom operand, Derives .atom atom operand → Complete depth (tokens ++ atom)

namespace Waiting

theorem nil : Waiting 0 [] := fun _ operand hatom =>
  ⟨operand, hatom.to_sum⟩

theorem number {depth : Nat} {tokens : List Token} (h : Waiting depth tokens) (x : Float) :
    Complete depth (tokens ++ [.number x]) :=
  h _ _ (.number x)

theorem names {depth : Nat} {tokens : List Token} {token : Token} {f : Func}
    (h : Waiting depth tokens) (hnames : token.Names f) : Waiting depth (tokens ++ [token]) := by
  intro atom operand hatom
  rw [List.append_assoc]
  exact h _ _ (.apply hnames hatom)

theorem openParen {depth : Nat} {tokens : List Token} (h : Waiting depth tokens) :
    Waiting (depth + 1) (tokens ++ [.openParen]) := by
  intro atom operand hatom
  refine ⟨tokens, atom, operand, ?_, hatom.to_sum, h⟩
  rw [List.append_assoc]
  rfl

end Waiting

namespace Complete

theorem operator {depth : Nat} {tokens : List Token} (h : Complete depth tokens) (o : Operator) :
    Waiting depth (tokens ++ [.operator o]) := by
  intro atom operand hatom
  rw [List.append_assoc]
  cases depth with
  | zero =>
    obtain ⟨tree, htree⟩ := h
    obtain ⟨joined, hjoined⟩ := htree.append_operator o hatom
    exact ⟨joined, hjoined .sum (Level.le_refl _) (Level.sum_le _)⟩
  | succ depth =>
    obtain ⟨outer, inner, tree, rfl, htree, houter⟩ := h
    obtain ⟨joined, hjoined⟩ := htree.append_operator o hatom
    refine ⟨outer, inner ++ .operator o :: atom, joined, ?_, ?_, houter⟩
    · simp
    · exact hjoined .sum (Level.le_refl _) (Level.sum_le _)

theorem closeParen {depth : Nat} {tokens : List Token} (h : Complete (depth + 1) tokens) :
    Complete depth (tokens ++ [.closeParen]) := by
  obtain ⟨outer, inner, tree, rfl, htree, houter⟩ := h
  rw [List.append_assoc]
  exact houter _ _ (.parens htree)

end Complete

/-- What was read, as an operand is due after it or not. -/
def Reached : Bool → Nat → List Token → Prop
  | true => Waiting
  | false => Complete

/-! ## 3. Alternating tokens are an expression -/

namespace Postfix.Order

/-- A token that is taken, and stands where one of its kind is due, goes on with what was read. -/
theorem reached_step {order order' : Order} {token : Token} {due : Bool} {tokens rest : List Token}
    (hstep : step order token = .ok order') (halternates : alternates due (token :: rest) = true)
    (h : Reached due order.depth tokens) :
    ∃ due', alternates due' rest = true ∧ Reached due' order'.depth (tokens ++ [token]) := by
  cases due with
  | true =>
    have hwaiting : Waiting order.depth tokens := h
    cases token with
    | number x =>
      cases hstep
      exact ⟨false, halternates, hwaiting.number x⟩
    | name text =>
      obtain ⟨f, hnames, rfl⟩ := step_name hstep
      exact ⟨true, halternates, hwaiting.names hnames⟩
    | function f =>
      cases hstep
      exact ⟨true, halternates, hwaiting.names (.function f)⟩
    | openParen =>
      cases hstep
      refine ⟨true, halternates, ?_⟩
      rw [depth_openParen]
      exact hwaiting.openParen
    | operator o => cases halternates
    | closeParen => cases halternates
  | false =>
    have hcomplete : Complete order.depth tokens := h
    cases token with
    | operator o =>
      refine ⟨true, halternates, ?_⟩
      rw [depth_operator hstep]
      exact hcomplete.operator o
    | closeParen =>
      rw [depth_closeParen hstep] at hcomplete
      exact ⟨false, halternates, hcomplete.closeParen⟩
    | number x => cases halternates
    | name text => cases halternates
    | function f => cases halternates
    | openParen => cases halternates

/-- The same for a run, up to the end. -/
theorem exists_derives_of_reached {tokens rest : List Token} {order order' : Order} {due : Bool}
    (hrun : rest.foldlM step order = .ok order') (hdepth : order'.depth = 0)
    (halternates : alternates due rest = true) (h : Reached due order.depth tokens) :
    ∃ tree, Derives .sum (tokens ++ rest) tree := by
  induction rest generalizing order due tokens with
  | nil =>
    cases hrun
    cases due with
    | true => cases halternates
    | false =>
      rw [hdepth] at h
      rw [List.append_nil]
      exact h
  | cons token rest ih =>
    rw [List.foldlM_cons] at hrun
    obtain ⟨next, hstep, hrest⟩ := exists_of_bind_ok hrun
    obtain ⟨due', halternates', hreached⟩ := reached_step hstep halternates h
    obtain ⟨tree, htree⟩ := ih hrest halternates' hreached
    rw [List.append_assoc] at htree
    exact ⟨tree, htree⟩

end Postfix.Order

/-- **Tokens that can be put in order are an expression exactly if they alternate**, and the tree
    is the one whose postorder they have. -/
theorem derives_iff_alternates {tokens : List Token} {tree : Tree}
    (h : toPostfix tokens = .ok tree.postorder) :
    Derives .sum tokens tree ↔ alternates true tokens = true := by
  constructor
  · intro hderives
    have halternates := hderives.alternates_append []
    rw [List.append_nil] at halternates
    exact halternates
  · intro halternates
    obtain ⟨order, hrun, hfinish⟩ := exists_of_bind_ok h
    have hstart : Reached true Postfix.Order.start.depth [] := Waiting.nil
    obtain ⟨other, hother⟩ := Postfix.Order.exists_derives_of_reached hrun
      (Postfix.Order.depth_of_finish hfinish) halternates hstart
    have hsame : other.postorder = tree.postorder :=
      Except.ok.inj ((toPostfix_of_derives hother).symm.trans h)
    rw [← Tree.postorder_injective hsame]
    exact hother

/-! ## 4. Texts -/

/-- **A text that has a value is ordered as the postorder of a tree that has this value**, and it
    is an expression, for this same tree, exactly if its tokens alternate. -/
theorem exists_tree_of_evaluate {text : String} {v : Float} (h : evaluate text = .ok v) :
    ∃ tokens tree, tokenize text = .ok tokens ∧ (∀ f, Token.function f ∉ tokens) ∧
      toPostfix tokens = .ok tree.postorder ∧ tree.value = .ok v ∧
      (Derives .sum tokens tree ↔ alternates true tokens = true) := by
  obtain ⟨tokens, htokens, hcompute⟩ := exists_of_bind_ok (evaluate_eq_compute text ▸ h)
  obtain ⟨ordered, hordered, hvalue⟩ := exists_of_bind_ok hcompute
  obtain ⟨tree, rfl, htree⟩ := Tree.exists_postorder_of_evalPostfix hvalue
  exact ⟨tokens, tree, htokens, function_not_mem_of_tokenize htokens, hordered, htree,
    derives_iff_alternates hordered⟩

/-- Not every text that has a value is an expression: the operator may come last. -/
theorem evaluate_operator_last :
    evaluate "2 3 +" = .ok (Number.ofMagnitude false 0x4014000000000000) ∧
      ¬ ∃ tokens tree, tokenize "2 3 +" = .ok tokens ∧ Derives .sum tokens tree := by
  refine ⟨by decide +kernel, ?_⟩
  rintro ⟨tokens, tree, htokens, hderives⟩
  have hread : tokenize "2 3 +" = .ok [.number (Number.ofMagnitude false 0x4000000000000000),
      .number (Number.ofMagnitude false 0x4008000000000000), .operator .add] := by
    decide +kernel
  obtain rfl := Except.ok.inj (htokens.symm.trans hread)
  have halternates := hderives.alternates_append []
  cases halternates

/-- A product in needed parentheses has a value, alternates and is an expression. -/
theorem evaluate_alternating :
    evaluate "2*(3-1)" = .ok (Number.ofMagnitude false 0x4010000000000000) ∧
      ∃ tokens tree, tokenize "2*(3-1)" = .ok tokens ∧
        tree.value = .ok (Number.ofMagnitude false 0x4010000000000000) ∧
        Derives .sum tokens tree := by
  have hvalue : evaluate "2*(3-1)" = .ok (Number.ofMagnitude false 0x4010000000000000) := by
    decide +kernel
  obtain ⟨tokens, tree, htokens, -, -, htree, hiff⟩ := exists_tree_of_evaluate hvalue
  refine ⟨hvalue, tokens, tree, htokens, htree, hiff.mpr ?_⟩
  have hread : tokenize "2*(3-1)" = .ok [.number (Number.ofMagnitude false 0x4000000000000000),
      .operator .mul, .openParen, .number (Number.ofMagnitude false 0x4008000000000000),
      .operator .sub, .number (Number.ofMagnitude false 0x3FF0000000000000), .closeParen] := by
    decide +kernel
  obtain rfl := Except.ok.inj (htokens.symm.trans hread)
  rfl

end Calculator
