import Calculator.Proofs.Tree

/-!
# The grammar of expressions

Which lists of tokens are expressions, and what tree each of them stands for. An expression is of
one of four levels, from the loosest to the tightest:

    sum     := product (('+' | '-') product)*
    product := power (('*' | '/') power)*
    power   := atom ('^' power)?
    atom    := number | '(' sum ')' | function atom

Rows of `+` and `-` and rows of `*` and `/` group to the left, rows of `^` to the right, and a
function takes the one atom that follows it. The levels are written out here; that they are what
the precedence of the operators says is for the proofs about postfix order to show.

Apart from the nesting of parentheses a list of tokens can be wrong in the order of its tokens
alone: `alternates` asks whether each token stands where one of its kind is due, looking at nothing
but the token before it. Every expression alternates (`Derives.alternates_append`).
-/

namespace Calculator

/-! ## 1. Levels -/

/-- How tightly an expression holds together. -/
inductive Level where
  | sum
  | product
  | power
  | atom
  deriving DecidableEq, Repr

/-- The levels in order, the loosest first. -/
def Level.rank : Level → Nat
  | sum => 1
  | product => 2
  | power => 3
  | atom => 4

/-- A level is at most as tight as another. -/
instance : LE Level :=
  ⟨fun a b => a.rank ≤ b.rank⟩

instance (a b : Level) : Decidable (a ≤ b) :=
  inferInstanceAs (Decidable (a.rank ≤ b.rank))

namespace Level

theorem le_refl (a : Level) : a ≤ a :=
  Nat.le_refl a.rank

theorem le_trans {a b c : Level} (hab : a ≤ b) (hbc : b ≤ c) : a ≤ c :=
  Nat.le_trans hab hbc

theorem le_atom (a : Level) : a ≤ atom := by
  cases a <;> decide

theorem sum_le (a : Level) : sum ≤ a := by
  cases a <;> decide

end Level

namespace Operator

/-- The level of what an operator joins. -/
def level : Operator → Level
  | add | sub => .sum
  | mul | div => .product
  | pow => .power

/-- The level of the left operand. -/
def leftLevel : Operator → Level
  | add | sub => .sum
  | mul | div => .product
  | pow => .atom

/-- The level of the right operand. -/
def rightLevel : Operator → Level
  | add | sub => .product
  | mul | div => .power
  | pow => .power

theorem level_le_leftLevel (o : Operator) : o.level ≤ o.leftLevel := by
  cases o <;> decide

theorem level_le_rightLevel (o : Operator) : o.level ≤ o.rightLevel := by
  cases o <;> decide

/-- An operator that cannot have what `top` joins on its left goes to the right operand of
    `top`. -/
theorem rightLevel_le_level {top o : Operator} (h : ¬ o.leftLevel ≤ top.level) :
    top.rightLevel ≤ o.level := by
  revert h
  cases top <;> cases o <;> decide

end Operator

/-! ## 2. Derivations -/

/-- The token calls the function. -/
inductive Token.Names : Token → Func → Prop where
  | name (f : Func) : Names (.name f.name) f
  | function (f : Func) : Names (.function f) f

/-- The tokens are an expression of the level, and stand for the tree. -/
inductive Derives : Level → List Token → Tree → Prop where
  | number (x : Float) : Derives .atom [.number x] (.number x)
  | parens {tokens : List Token} {tree : Tree} (inner : Derives .sum tokens tree) :
      Derives .atom (.openParen :: tokens ++ [.closeParen]) tree
  | apply {token : Token} {f : Func} {tokens : List Token} {tree : Tree}
      (name : token.Names f) (argument : Derives .atom tokens tree) :
      Derives .atom (token :: tokens) (.apply f tree)
  | binary (o : Operator) {tokens tokens' : List Token} {left right : Tree}
      (hleft : Derives o.leftLevel tokens left) (hright : Derives o.rightLevel tokens' right) :
      Derives o.level (tokens ++ .operator o :: tokens') (.binary o left right)
  | loosen {level level' : Level} {tokens : List Token} {tree : Tree} (h : level ≤ level')
      (inner : Derives level' tokens tree) : Derives level tokens tree

namespace Derives

/-- An atom is an expression of every level. -/
theorem of_atom {level : Level} {tokens : List Token} {tree : Tree}
    (h : Derives .atom tokens tree) : Derives level tokens tree :=
  .loosen (Level.le_atom level) h

/-- Every expression is a sum. -/
theorem to_sum {level : Level} {tokens : List Token} {tree : Tree}
    (h : Derives level tokens tree) : Derives .sum tokens tree :=
  .loosen (Level.sum_le level) h

/-- **An expression goes on with an operator and an atom**, whatever it ends in: the atom joins
    the operand of some operator on the right edge of the tree. The result is as tight as both
    the expression and the operator allow. -/
theorem append_operator {level : Level} {tokens atom : List Token} {tree operand : Tree}
    (h : Derives level tokens tree) (o : Operator) (hatom : Derives .atom atom operand) :
    ∃ joined, ∀ looser, looser ≤ level → looser ≤ o.level →
      Derives looser (tokens ++ .operator o :: atom) joined := by
  -- an atom is the left operand of the new operator as it stands
  have hsimple : ∀ {tokens : List Token} {tree : Tree}, Derives .atom tokens tree →
      ∃ joined, ∀ looser, looser ≤ Level.atom → looser ≤ o.level →
        Derives looser (tokens ++ .operator o :: atom) joined := fun hleft =>
    ⟨_, fun _ _ hlooser => .loosen hlooser
      (.binary o hleft.of_atom hatom.of_atom)⟩
  induction h with
  | number x => exact hsimple (.number x)
  | parens inner => exact hsimple (.parens inner)
  | apply name argument => exact hsimple (.apply name argument)
  | @binary top tokens tokens' left right hleft hright _ ih =>
    by_cases hlevel : o.leftLevel ≤ top.level
    · exact ⟨_, fun _ _ hlooser => .loosen hlooser
        (.binary o (.loosen hlevel (.binary top hleft hright)) hatom.of_atom)⟩
    · obtain ⟨joined, hjoined⟩ := ih
      have hright' := hjoined _ (Level.le_refl _) (Operator.rightLevel_le_level hlevel)
      refine ⟨.binary top left joined, fun _ hlooser _ => .loosen hlooser ?_⟩
      rw [List.append_assoc, List.cons_append]
      exact .binary top hleft hright'
  | loosen hle _ ih =>
    obtain ⟨joined, hjoined⟩ := ih
    exact ⟨joined, fun looser hlooser => hjoined looser (Level.le_trans hlooser hle)⟩

end Derives

/-! ## 3. Alternation -/

/-- From here on each token stands where one of its kind is due. Where an operand is due (at the
    start, after an operator, after a function, after `(`), a number, a function or `(` has to
    follow; elsewhere (after a number, after `)`) an operator, `)` or the end. -/
def alternates : Bool → List Token → Bool
  | due, [] => !due
  | true, .number _ :: rest => alternates false rest
  | true, .name _ :: rest => alternates true rest
  | true, .function _ :: rest => alternates true rest
  | true, .openParen :: rest => alternates true rest
  | false, .operator _ :: rest => alternates true rest
  | false, .closeParen :: rest => alternates false rest
  | _, _ :: _ => false

/-- **The tokens of an expression alternate**, and an operand is not due after them. -/
theorem Derives.alternates_append {level : Level} {tokens : List Token} {tree : Tree}
    (h : Derives level tokens tree) (rest : List Token) :
    alternates true (tokens ++ rest) = alternates false rest := by
  induction h generalizing rest with
  | number x => rfl
  | @parens tokens tree inner ih =>
    show alternates true (tokens ++ [.closeParen] ++ rest) = _
    rw [List.append_assoc, ih]
    rfl
  | @apply token f tokens tree name argument ih =>
    cases name <;> exact ih rest
  | @binary o tokens tokens' left right hleft hright ihl ihr =>
    rw [List.append_assoc, ihl]
    exact ihr rest
  | loosen hle inner ih => exact ih rest

end Calculator
