import Calculator.Proofs.LexicalFaults
import Calculator.Proofs.Nesting
import Calculator.Proofs.Shape

/-!
# What becomes of the tokens

On their way into postfix order tokens lie in two places, the output and the stack, and three loops
carry them from one to the other. Nothing is lost on the way, and nothing is there twice: what lies
in the two places is what was taken, parentheses apart, however the tokens stand
(`contents_of_foldlM`). A number is never held, so numbers keep their order
(`numbers_of_foldlM`).

What comes out has neither parentheses nor names. Hence computing it meets no token that it does not
know, and the only token that can be told of as unknown is a name of the text that no function has
(`toPostfix_conserves`).
-/

namespace Calculator

open scoped List

namespace Token

/-- The token is a parenthesis. -/
def isParen : Token → Bool
  | .openParen | .closeParen => true
  | .number _ | .operator _ | .name _ | .function _ => false

/-- The token is a number. -/
def isNumber : Token → Bool
  | .number _ => true
  | .operator _ | .name _ | .function _ | .openParen | .closeParen => false

/-- What a token becomes in postfix order: a name becomes the function that has it, and everything
    else stays as it is. -/
inductive Becomes : Token → Token → Prop where
  | number (x : Float) : Becomes (.number x) (.number x)
  | operator (o : Operator) : Becomes (.operator o) (.operator o)
  | function {token : Token} {f : Func} (hnames : token.Names f) : Becomes token (.function f)

theorem Becomes.isParen_eq_false {token called : Token} (h : token.Becomes called) :
    token.isParen = false := by
  cases h with
  | number x => rfl
  | operator o => rfl
  | function hnames => cases hnames <;> rfl

/-- The token has a place in postfix order. -/
def Computes (token : Token) : Prop :=
  token.isParen = false ∧ ∀ text, token ≠ .name text

theorem Becomes.computes {token called : Token} (h : token.Becomes called) : called.Computes := by
  cases h with
  | number x => exact ⟨rfl, nofun⟩
  | operator o => exact ⟨rfl, nofun⟩
  | function hnames => exact ⟨rfl, nofun⟩

end Token

theorem Held.isParen_token {h : Held} (hne : h ≠ .paren) : h.token.isParen = false := by
  cases h with
  | operator o => rfl
  | function f => rfl
  | paren => exact absurd rfl hne

theorem Held.isNumber_token (h : Held) : h.token.isNumber = false := by
  cases h <;> rfl

namespace Postfix.Order

/-! ## 1. What lies in the two places -/

/-- The tokens that are in order or held, but for the parentheses. -/
def contents (order : Order) : List Token :=
  order.output ++ (order.held.map Held.token).filter (!·.isParen)

theorem contents_held {h : Held} (hne : h ≠ .paren) (output : List Token) (held : List Held) :
    contents ⟨output, h :: held⟩ ~ h.token :: contents ⟨output, held⟩ := by
  have hkept : (h.token :: held.map Held.token).filter (!·.isParen) =
      h.token :: (held.map Held.token).filter (!·.isParen) :=
    List.filter_cons_of_pos (by simp [Held.isParen_token hne])
  show output ++ (h.token :: held.map Held.token).filter (!·.isParen) ~ _
  rw [hkept]
  exact List.perm_middle

theorem contents_function (output : List Token) (f : Func) (held : List Held) :
    contents ⟨output, .function f :: held⟩ ~ .function f :: contents ⟨output, held⟩ := by
  have hne : Held.function f ≠ .paren := nofun
  exact contents_held hne output held

/-- What is released goes from one place to the other. -/
theorem contents_release {pending : List Held} (hpending : ∀ h ∈ pending, h ≠ .paren)
    (output : List Token) (held : List Held) :
    contents ⟨release output pending, held⟩ ~ contents ⟨output, pending ++ held⟩ := by
  have hkept : (pending.map Held.token).filter (!·.isParen) = pending.map Held.token := by
    refine List.filter_eq_self.mpr (List.forall_mem_map.mpr fun h hmem => ?_)
    simp [Held.isParen_token (hpending h hmem)]
  have hsame : release output pending ~ output ++ pending.map Held.token :=
    calc release output pending
        = (pending.map Held.token).reverse ++ output := release_eq output pending
      _ ~ pending.map Held.token ++ output := (List.reverse_perm _).append_right output
      _ ~ output ++ pending.map Held.token := List.perm_append_comm
  unfold contents
  rw [List.map_append, List.filter_append, hkept, ← List.append_assoc]
  exact hsame.append_right _

theorem contents_argumentEnds (order : Order) :
    order.argumentEnds.contents ~ order.contents := by
  obtain ⟨output, held⟩ := order
  match held with
  | [] => exact .refl _
  | .function f :: held => exact (contents_function output f held).symm
  | .operator o :: held => exact .refl _
  | .paren :: held => exact .refl _

/-- What an operator releases is no parenthesis. -/
theorem ne_paren_of_leaves (o : Operator) (held : List Held) :
    ∀ h ∈ held.takeWhile (leaves o), h ≠ .paren := by
  rintro h hmem rfl
  cases List.mem_takeWhile_imp hmem

/-- **A token is added to what lies in the two places**, as what it becomes, and nothing else is
    changed. A parenthesis is not added. -/
theorem contents_of_step {order next : Order} {token : Token} (h : step order token = .ok next) :
    (token.isParen = true ∧ next.contents ~ order.contents) ∨
      ∃ called, token.Becomes called ∧ next.contents ~ called :: order.contents := by
  cases token with
  | number x =>
    cases h
    exact .inr ⟨_, .number x, .refl _⟩
  | name text =>
    obtain ⟨f, hnames, rfl⟩ := step_name h
    exact .inr ⟨_, .function hnames, contents_function order.output f order.held⟩
  | function f =>
    cases h
    exact .inr ⟨_, .function (.function f), contents_function order.output f order.held⟩
  | operator o =>
    cases h
    have hne : Held.operator o ≠ .paren := nofun
    have hrelease := contents_release (ne_paren_of_leaves o order.held) order.output
      (order.held.dropWhile (leaves o))
    rw [List.takeWhile_append_dropWhile] at hrelease
    refine .inr ⟨_, .operator o, ?_⟩
    exact (contents_held hne _ _).trans (hrelease.cons (.operator o))
  | openParen =>
    cases h
    exact .inl ⟨rfl, .refl _⟩
  | closeParen =>
    obtain ⟨pending, below, hheld, hpending, rfl⟩ := exists_of_step_closeParen h
    refine .inl ⟨rfl, ?_⟩
    calc (argumentEnds ⟨release order.output pending, below⟩).contents
        ~ contents ⟨release order.output pending, below⟩ := contents_argumentEnds _
      _ ~ contents ⟨order.output, pending ++ below⟩ :=
        contents_release hpending order.output below
      _ = order.contents := by simp [contents, hheld, Held.token, Token.isParen]

/-- **What lies in the two places is what was taken.** -/
theorem contents_of_foldlM {tokens : List Token} {order next : Order}
    (h : tokens.foldlM step order = .ok next) :
    ∃ called, List.Forall₂ Token.Becomes (tokens.filter (!·.isParen)) called ∧
      next.contents ~ called ++ order.contents := by
  induction tokens generalizing order with
  | nil =>
    cases h
    exact ⟨[], .nil, .refl _⟩
  | cons token tokens ih =>
    rw [List.foldlM_cons] at h
    obtain ⟨middle, hstep, hrun⟩ := exists_of_bind_ok h
    obtain ⟨called, hcalled, hperm⟩ := ih hrun
    rcases contents_of_step hstep with ⟨hparen, hmiddle⟩ | ⟨first, hfirst, hmiddle⟩
    · rw [List.filter_cons_of_neg (by simp [hparen])]
      exact ⟨called, hcalled, hperm.trans (hmiddle.append_left called)⟩
    · rw [List.filter_cons_of_pos (by simp [hfirst.isParen_eq_false])]
      refine ⟨first :: called, .cons hfirst hcalled, ?_⟩
      calc next.contents
          ~ called ++ middle.contents := hperm
        _ ~ called ++ first :: order.contents := hmiddle.append_left called
        _ ~ first :: (called ++ order.contents) := List.perm_middle

/-! ## 2. Numbers -/

theorem filter_release (output : List Token) (released : List Held) :
    (release output released).filter Token.isNumber = output.filter Token.isNumber := by
  have hnone : (released.map Held.token).reverse.filter Token.isNumber = [] := by
    simp [List.filter_eq_nil_iff, Held.isNumber_token]
  rw [release_eq, List.filter_append, hnone, List.nil_append]

/-- **A number goes to the output at once**, and nothing that is released is one. -/
theorem numbers_of_step {order next : Order} {token : Token} (h : step order token = .ok next) :
    next.output.filter Token.isNumber =
      ([token].filter Token.isNumber).reverse ++ order.output.filter Token.isNumber := by
  cases token with
  | number x =>
    cases h
    rfl
  | name text =>
    obtain ⟨f, -, rfl⟩ := step_name h
    rfl
  | function f =>
    cases h
    rfl
  | operator o =>
    cases h
    exact filter_release order.output (order.held.takeWhile (leaves o))
  | openParen =>
    cases h
    rfl
  | closeParen =>
    obtain ⟨pending, below, -, -, rfl⟩ := exists_of_step_closeParen h
    rw [← filter_release order.output pending]
    match below with
    | [] => rfl
    | .function f :: below => rfl
    | .operator o :: below => rfl
    | .paren :: below => rfl

theorem numbers_of_foldlM {tokens : List Token} {order next : Order}
    (h : tokens.foldlM step order = .ok next) :
    next.output.filter Token.isNumber =
      (tokens.filter Token.isNumber).reverse ++ order.output.filter Token.isNumber := by
  induction tokens generalizing order with
  | nil =>
    cases h
    rfl
  | cons token tokens ih =>
    rw [List.foldlM_cons] at h
    obtain ⟨middle, hstep, hrun⟩ := exists_of_bind_ok h
    have hsplit : (token :: tokens).filter Token.isNumber =
        [token].filter Token.isNumber ++ tokens.filter Token.isNumber :=
      List.filter_append [token] tokens
    rw [ih hrun, numbers_of_step hstep, hsplit, List.reverse_append, List.append_assoc]

/-! ## 3. Lists of tokens -/

theorem contents_of_finish {order : Order} {ordered : List Token}
    (h : order.finish = .ok ordered) : ordered.reverse ~ order.contents := by
  obtain ⟨hparen, rfl⟩ := finish_eq_ok_iff.mp h
  have hrelease := contents_release hparen order.output []
  rw [List.append_nil] at hrelease
  have hnone : contents ⟨release order.output order.held, []⟩ = release order.output order.held :=
    List.append_nil _
  rwa [List.reverse_reverse, ← hnone]

theorem numbers_of_finish {order : Order} {ordered : List Token}
    (h : order.finish = .ok ordered) :
    ordered.filter Token.isNumber = (order.output.filter Token.isNumber).reverse := by
  obtain ⟨-, rfl⟩ := finish_eq_ok_iff.mp h
  rw [List.filter_reverse, filter_release]

end Postfix.Order

open Postfix.Order in
/-- **Nothing is lost and nothing is there twice** when tokens are put in order. -/
theorem perm_of_toPostfix {tokens ordered : List Token} (h : toPostfix tokens = .ok ordered) :
    ∃ called, List.Forall₂ Token.Becomes (tokens.filter (!·.isParen)) called ∧
      ordered ~ called := by
  obtain ⟨order, hrun, hfinish⟩ := exists_of_bind_ok h
  obtain ⟨called, hcalled, hperm⟩ := contents_of_foldlM hrun
  refine ⟨called, hcalled, ?_⟩
  calc ordered
      ~ ordered.reverse := (List.reverse_perm ordered).symm
    _ ~ order.contents := contents_of_finish hfinish
    _ ~ called ++ start.contents := hperm
    _ = called := List.append_nil called

open Postfix.Order in
theorem numbers_of_toPostfix {tokens ordered : List Token} (h : toPostfix tokens = .ok ordered) :
    ordered.filter Token.isNumber = tokens.filter Token.isNumber := by
  obtain ⟨order, hrun, hfinish⟩ := exists_of_bind_ok h
  have hstart : start.output.filter Token.isNumber = [] := rfl
  rw [numbers_of_finish hfinish, numbers_of_foldlM hrun, hstart, List.append_nil,
    List.reverse_reverse]

theorem computes_of_forall₂ {tokens called : List Token}
    (h : List.Forall₂ Token.Becomes tokens called) : ∀ token ∈ called, token.Computes := by
  induction h with
  | nil => exact List.forall_mem_nil _
  | cons hfirst _ ih => exact List.forall_mem_cons.mpr ⟨hfirst.computes, ih⟩

/-- What is put in order has neither parentheses nor names. -/
theorem computes_of_toPostfix {tokens ordered : List Token} (h : toPostfix tokens = .ok ordered) :
    ∀ token ∈ ordered, token.Computes := by
  obtain ⟨called, hcalled, hperm⟩ := perm_of_toPostfix h
  exact fun token hmem => computes_of_forall₂ hcalled token (hperm.mem_iff.mp hmem)

/-! ## 4. Unknown tokens -/

theorem Operator.apply_ne_unsupportedToken (o : Operator) (a b : Float) (text : String) :
    o.apply a b ≠ .error (.unsupportedToken text) :=
  fun h => nomatch isArithmetic_of_apply h

theorem Func.apply_ne_unsupportedToken (f : Func) (x : Float) (text : String) :
    f.apply x ≠ .error (.unsupportedToken text) :=
  fun h => nomatch isArithmetic_of_apply h

/-- A token that has a place in postfix order is known. -/
theorem Postfix.step_ne_unsupportedToken {token : Token} (h : token.Computes)
    (operands : List Float) (text : String) :
    step operands token ≠ .error (.unsupportedToken text) := by
  cases token with
  | number x => exact nofun
  | operator o =>
    match operands with
    | [] => exact nofun
    | [_] => exact nofun
    | b :: a :: rest =>
      show (o.apply a b >>= _) ≠ _
      cases happly : o.apply a b with
      | ok value => exact nofun
      | error e =>
        rintro ⟨⟩
        exact o.apply_ne_unsupportedToken a b text happly
  | function f =>
    match operands with
    | [] => exact nofun
    | x :: rest =>
      show (f.apply x >>= _) ≠ _
      cases happly : f.apply x with
      | ok value => exact nofun
      | error e =>
        rintro ⟨⟩
        exact f.apply_ne_unsupportedToken x text happly
  | name name => exact absurd rfl (h.2 name)
  | openParen => cases h.1
  | closeParen => cases h.1

theorem Postfix.foldlM_step_ne_unsupportedToken {ordered : List Token}
    (h : ∀ token ∈ ordered, token.Computes) (operands : List Float) (text : String) :
    ordered.foldlM step operands ≠ .error (.unsupportedToken text) := by
  induction ordered generalizing operands with
  | nil => exact nofun
  | cons token ordered ih =>
    obtain ⟨htoken, hrest⟩ := List.forall_mem_cons.mp h
    rw [List.foldlM_cons]
    cases hstep : step operands token with
    | ok next => exact ih hrest next
    | error e =>
      rintro ⟨⟩
      exact step_ne_unsupportedToken htoken operands text hstep

theorem evalPostfix_ne_unsupportedToken {ordered : List Token}
    (h : ∀ token ∈ ordered, token.Computes) (text : String) :
    evalPostfix ordered ≠ .error (.unsupportedToken text) := by
  unfold evalPostfix
  cases hrun : ordered.foldlM Postfix.step [] with
  | error e =>
    rintro ⟨⟩
    exact Postfix.foldlM_step_ne_unsupportedToken h [] text hrun
  | ok operands =>
    show Postfix.single operands ≠ _
    unfold Postfix.single
    split <;> exact nofun

theorem tokenize_ne_unsupportedToken (text name : String) :
    tokenize text ≠ .error (.unsupportedToken name) := by
  intro h
  obtain ⟨first, second, -, hfault, -⟩ := (faults_of_tokenize text).2 _ h
  cases hfault

/-- The token that putting in order tells of is a name that no function has. -/
theorem name_of_toPostfix {tokens : List Token} {name : String}
    (h : toPostfix tokens = .error (.unsupportedToken name)) :
    .name name ∈ tokens ∧ ∀ f : Func, f.name ≠ name := by
  rcases (Postfix.balance_eq_error_iff tokens _).mp (toPostfix_eq_error_iff.mp h) with
    ⟨i, hrefused, -⟩ | ⟨-, -, hne⟩
  · cases hrefused with
    | name hat hnone => exact ⟨List.mem_of_getElem? hat, hnone⟩
  · cases hne

theorem name_of_evaluate {text name : String}
    (h : evaluate text = .error (.unsupportedToken name)) :
    ∃ tokens, tokenize text = .ok tokens ∧ .name name ∈ tokens ∧ ∀ f : Func, f.name ≠ name := by
  unfold evaluate at h
  cases htokens : tokenize text with
  | error e =>
    rw [htokens] at h
    cases h
    exact absurd htokens (tokenize_ne_unsupportedToken text name)
  | ok tokens =>
    rw [htokens] at h
    change (toPostfix tokens >>= evalPostfix) = _ at h
    cases hordered : toPostfix tokens with
    | error e =>
      rw [hordered] at h
      cases h
      exact ⟨tokens, rfl, name_of_toPostfix hordered⟩
    | ok ordered =>
      rw [hordered] at h
      exact absurd h (evalPostfix_ne_unsupportedToken (computes_of_toPostfix hordered) name)

/-- **Putting tokens in order neither loses nor doubles one, and keeps numbers in their order.** It
    leaves no parenthesis and no name, so a token that is told of as unknown is a name of the text
    that no function has. -/
theorem toPostfix_conserves :
    (∀ tokens ordered, toPostfix tokens = .ok ordered →
      (∃ called, List.Forall₂ Token.Becomes (tokens.filter (!·.isParen)) called ∧
        ordered ~ called) ∧
      ordered.filter Token.isNumber = tokens.filter Token.isNumber ∧
      (∀ token ∈ ordered, token.isParen = false ∧ ∀ text, token ≠ .name text) ∧
      ∀ text, evalPostfix ordered ≠ .error (.unsupportedToken text)) ∧
    ∀ text name, evaluate text = .error (.unsupportedToken name) →
      ∃ tokens, tokenize text = .ok tokens ∧ .name name ∈ tokens ∧ ∀ f : Func, f.name ≠ name := by
  refine ⟨fun tokens ordered h => ?_, fun text name => name_of_evaluate⟩
  have hcomputes := computes_of_toPostfix h
  exact ⟨perm_of_toPostfix h, numbers_of_toPostfix h, hcomputes,
    evalPostfix_ne_unsupportedToken hcomputes⟩

/-- Tokens out of turn, with a name and a function that is called already; and a text with a name
    that no function has. -/
theorem conserves_out_of_turn :
    let two := Number.ofMagnitude false 0x4000000000000000
    let three := Number.ofMagnitude false 0x4008000000000000
    let tokens : List Token :=
      [.operator .mul, .name "sin", .openParen, .number three, .number two, .operator .add,
        .closeParen, .function .ln]
    let ordered : List Token :=
      [.number three, .number two, .operator .add, .function .sin, .function .ln, .operator .mul]
    toPostfix tokens = .ok ordered ∧
      (∃ called, List.Forall₂ Token.Becomes (tokens.filter (!·.isParen)) called ∧
        ordered ~ called) ∧
      evalPostfix ordered ≠ .error (.unsupportedToken "sin") ∧
      evaluate "1+foo(2" = .error (.unsupportedToken "foo") ∧
      ∃ tokens, tokenize "1+foo(2" = .ok tokens ∧ .name "foo" ∈ tokens ∧
        ∀ f : Func, f.name ≠ "foo" := by
  intro two three tokens ordered
  have h : toPostfix tokens = .ok ordered := rfl
  have hunknown : evaluate "1+foo(2" = .error (.unsupportedToken "foo") := by
    decide +kernel
  obtain ⟨hperm, -, -, hknown⟩ := toPostfix_conserves.1 tokens ordered h
  exact ⟨h, hperm, hknown "sin", hunknown, toPostfix_conserves.2 _ _ hunknown⟩

end Calculator
