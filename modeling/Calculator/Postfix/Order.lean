import Calculator.Error
import Calculator.Token

/-!
# Postfix order

The tokens of an expression in the order in which they are computed: operands first, then the
operator or function that takes them, and no parentheses. One token is taken at a time; operators,
functions and open parentheses are held on a stack until their operands are complete.

* An operator is held until one comes that binds less (or as strongly, for an operator that groups
  to the left); a function until the next operator or the end of its argument; both at the
  latest until the parenthesis around them closes.
* A parenthesis that closes nothing, or is never closed, is an error; so is a name that is no
  function, as soon as it is met.
* Nothing else is checked: whether operands and operators alternate shows when the postfix
  order is computed.
-/

namespace Calculator

/-- What is held until its operands are complete. -/
inductive Held where
  | operator (o : Operator)
  | function (f : Func)
  | paren
  deriving DecidableEq, Repr

/-- The token that was held. -/
def Held.token : Held → Token
  | operator o => .operator o
  | function f => .function f
  | paren => .openParen

namespace Postfix

/-- The state between two tokens: what is in order already, the last one first, and what is held,
    the latest first. -/
structure Order where
  output : List Token
  held : List Held
  deriving DecidableEq

namespace Order

/-- Before the first token. -/
def start : Order :=
  ⟨[], []⟩

/-- The operator `top` takes its operands before the operator `next` takes its own. -/
def precedes (top next : Operator) : Bool :=
  if next.groupsRight then next.precedence < top.precedence
  else next.precedence ≤ top.precedence

/-- What is held leaves before the operator `next` is held. A function does in any case: its
    argument is complete. -/
def leaves (next : Operator) : Held → Bool
  | .function _ => true
  | .operator top => precedes top next
  | .paren => false

/-- The output with what is released from the stack, in the order in which it was on top. -/
def release (output : List Token) (released : List Held) : List Token :=
  released.foldl (fun out h => h.token :: out) output

/-- A token is put in order. -/
def step (order : Order) : Token → Except EvalError Order
  | .number value => .ok ⟨.number value :: order.output, order.held⟩
  | .name text =>
    match Func.ofName? text with
    | some f => .ok ⟨order.output, .function f :: order.held⟩
    | none => .error (.unsupportedToken text)
  | .function f => .ok ⟨order.output, .function f :: order.held⟩
  | .operator o =>
    .ok ⟨release order.output (order.held.takeWhile (leaves o)),
      .operator o :: order.held.dropWhile (leaves o)⟩
  | .openParen => .ok ⟨order.output, .paren :: order.held⟩
  | .closeParen =>
    let output := release order.output (order.held.takeWhile (· != .paren))
    match order.held.dropWhile (· != .paren) with
    | [] => .error .mismatchedParentheses
    | _ :: .function f :: held => .ok ⟨.function f :: output, held⟩
    | _ :: held => .ok ⟨output, held⟩

/-- The output once the tokens end. -/
def finish (order : Order) : Except EvalError (List Token) :=
  if order.held.contains .paren then .error .mismatchedParentheses
  else .ok (release order.output order.held).reverse

/-- Released tokens come in the order in which they lay on the stack, before the older output. -/
theorem release_eq (output : List Token) (released : List Held) :
    release output released = (released.map Held.token).reverse ++ output := by
  induction released generalizing output with
  | nil => rfl
  | cons h rest ih =>
    show release (h.token :: output) rest = _
    rw [ih]
    simp

end Order

end Postfix

/-- The tokens in postfix order. -/
def toPostfix (tokens : List Token) : Except EvalError (List Token) := do
  let order ← tokens.foldlM Postfix.Order.step Postfix.Order.start
  order.finish

end Calculator
