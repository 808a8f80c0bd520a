import Calculator.Proofs.PostfixOrder

/-!
# Rows of operands

The grammar of expressions as it is usually written down, with rows of any length:

    E := T (('+' | '-') T)*
    T := P (('*' | '/') P)*
    P := A ('^' P)?
    A := number | '(' E ')' | function A

A row is its first operand and the terms that follow, each an operator with the operand behind it.
Its tree is built from the left, every term taking all that stands before it as its left operand.
These phrases are the expressions of `Derives`, tree by tree (`phrase_iff_derives`), where a row
grows by one operator at a time. So their postfix order is the postorder of their tree
(`toPostfix_of_phrase`), and no list of tokens is a phrase in two ways (`Phrase.tree_unique`).
-/

namespace Calculator

/-! ## 1. Phrases -/

/-- An operator in a row, with the operand behind it. -/
structure Term where
  operator : Operator
  tokens : List Token
  tree : Tree

namespace Term

/-- The tokens of a term. -/
def written (term : Term) : List Token :=
  .operator term.operator :: term.tokens

/-- The tree of a row that goes on with a term. -/
def join (left : Tree) (term : Term) : Tree :=
  .binary term.operator left term.tree

end Term

/-- A row of the first level has operands of the second one, with these operators between them. -/
inductive IsRow : Level → Level → List Operator → Prop where
  | sum : IsRow .sum .product [.add, .sub]
  | product : IsRow .product .power [.mul, .div]

/-- The tokens are a phrase of the grammar, and stand for the tree: `E`, `T`, `P` and `A` are the
    levels `sum`, `product`, `power` and `atom`. -/
inductive Phrase : Level → List Token → Tree → Prop where
  | row {level operand : Level} {signs : List Operator} {first : List Token} {tree : Tree}
      {terms : List Term} (hrow : IsRow level operand signs) (hfirst : Phrase operand first tree)
      (hsigns : ∀ term ∈ terms, term.operator ∈ signs)
      (hterms : ∀ term ∈ terms, Phrase operand term.tokens term.tree) :
      Phrase level (first ++ terms.flatMap Term.written) (terms.foldl Term.join tree)
  | plain {tokens : List Token} {tree : Tree} (h : Phrase .atom tokens tree) :
      Phrase .power tokens tree
  | power {tokens tokens' : List Token} {base exponent : Tree} (hbase : Phrase .atom tokens base)
      (hexponent : Phrase .power tokens' exponent) :
      Phrase .power (tokens ++ .operator .pow :: tokens') (.binary .pow base exponent)
  | number (x : Float) : Phrase .atom [.number x] (.number x)
  | parens {tokens : List Token} {tree : Tree} (inner : Phrase .sum tokens tree) :
      Phrase .atom (.openParen :: tokens ++ [.closeParen]) tree
  | apply {token : Token} {f : Func} {tokens : List Token} {tree : Tree} (name : token.Names f)
      (argument : Phrase .atom tokens tree) : Phrase .atom (token :: tokens) (.apply f tree)

/-! ## 2. Rows are built one operator at a time -/

namespace IsRow

variable {level operand : Level} {signs : List Operator}

theorem level_le (h : IsRow level operand signs) : level ≤ operand := by
  cases h <;> decide

/-- The operators of a row take the row on their left and one operand on their right. -/
theorem levels_of_mem (h : IsRow level operand signs) {o : Operator} (ho : o ∈ signs) :
    o.level = level ∧ o.leftLevel = level ∧ o.rightLevel = operand := by
  cases h <;> revert o <;> decide

/-- An operator other than `^` stands in a row. -/
theorem exists_of_ne_pow {o : Operator} (h : o ≠ .pow) :
    ∃ signs, IsRow o.level o.rightLevel signs ∧ o ∈ signs ∧ o.leftLevel = o.level := by
  cases o with
  | add => exact ⟨_, .sum, by decide, rfl⟩
  | sub => exact ⟨_, .sum, by decide, rfl⟩
  | mul => exact ⟨_, .product, by decide, rfl⟩
  | div => exact ⟨_, .product, by decide, rfl⟩
  | pow => exact absurd rfl h

end IsRow

/-- An expression goes on with the terms of a row. -/
theorem Derives.append_terms {level operand : Level} {signs : List Operator}
    (hrow : IsRow level operand signs) {first : List Token} {tree : Tree} {terms : List Term}
    (hfirst : Derives level first tree) (hsigns : ∀ term ∈ terms, term.operator ∈ signs)
    (hterms : ∀ term ∈ terms, Derives operand term.tokens term.tree) :
    Derives level (first ++ terms.flatMap Term.written) (terms.foldl Term.join tree) := by
  induction terms generalizing first tree with
  | nil => simpa using hfirst
  | cons term terms ih =>
    obtain ⟨hsign, hsigns⟩ := List.forall_mem_cons.mp hsigns
    obtain ⟨hterm, hterms⟩ := List.forall_mem_cons.mp hterms
    obtain ⟨hlevel, hleft, hright⟩ := hrow.levels_of_mem hsign
    have hjoined := Derives.binary term.operator (hleft ▸ hfirst) (hright ▸ hterm)
    rw [hlevel] at hjoined
    simpa [Term.written, Term.join] using ih hjoined hsigns hterms

/-- Phrases are expressions. -/
theorem Phrase.derives {level : Level} {tokens : List Token} {tree : Tree}
    (h : Phrase level tokens tree) : Derives level tokens tree := by
  induction h with
  | row hrow _ hsigns _ ihfirst ihterms =>
    exact Derives.append_terms hrow (.loosen hrow.level_le ihfirst) hsigns ihterms
  | plain _ ih => exact ih.of_atom
  | power _ _ ihbase ihexponent => exact .binary .pow ihbase ihexponent
  | number x => exact .number x
  | parens _ ih => exact .parens ih
  | apply name _ ih => exact .apply name ih

namespace Phrase

variable {tokens tokens' : List Token} {tree left right : Tree}

/-- One operand is a row of its own. -/
theorem alone {level operand : Level} {signs : List Operator} (hrow : IsRow level operand signs)
    (h : Phrase operand tokens tree) : Phrase level tokens tree := by
  simpa using Phrase.row hrow h (List.forall_mem_nil _) (List.forall_mem_nil _)

/-- A phrase is one of every looser level. -/
theorem loosen : ∀ {level level' : Level}, level ≤ level' → Phrase level' tokens tree →
    Phrase level tokens tree
  | .sum, .sum, _, h => h
  | .sum, .product, _, h => alone .sum h
  | .sum, .power, _, h => alone .sum (alone .product h)
  | .sum, .atom, _, h => alone .sum (alone .product h.plain)
  | .product, .product, _, h => h
  | .product, .power, _, h => alone .product h
  | .product, .atom, _, h => alone .product h.plain
  | .power, .power, _, h => h
  | .power, .atom, _, h => h.plain
  | .atom, .atom, _, h => h
  | .product, .sum, hle, _ => absurd hle (by decide)
  | .power, .sum, hle, _ => absurd hle (by decide)
  | .power, .product, hle, _ => absurd hle (by decide)
  | .atom, .sum, hle, _ => absurd hle (by decide)
  | .atom, .product, hle, _ => absurd hle (by decide)
  | .atom, .power, hle, _ => absurd hle (by decide)

/-- A phrase of the level of a row is a row of that kind. -/
theorem exists_terms {level operand : Level} {signs : List Operator}
    (hrow : IsRow level operand signs) (h : Phrase level tokens tree) :
    ∃ first head, ∃ terms : List Term, tokens = first ++ terms.flatMap Term.written ∧
      tree = terms.foldl Term.join head ∧ Phrase operand first head ∧
      (∀ term ∈ terms, term.operator ∈ signs) ∧
      ∀ term ∈ terms, Phrase operand term.tokens term.tree := by
  cases hrow <;> cases h with
  | row hrow hfirst hsigns hterms =>
    cases hrow
    exact ⟨_, _, _, rfl, rfl, hfirst, hsigns, hterms⟩

/-- A row goes on with one more term at its end. -/
theorem append_term {level operand : Level} {signs : List Operator}
    (hrow : IsRow level operand signs) {o : Operator} (ho : o ∈ signs)
    (hleft : Phrase level tokens left) (hright : Phrase operand tokens' right) :
    Phrase level (tokens ++ .operator o :: tokens') (.binary o left right) := by
  obtain ⟨first, head, terms, rfl, rfl, hfirst, hsigns, hterms⟩ := hleft.exists_terms hrow
  let last : Term := ⟨o, tokens', right⟩
  have hlonger : Phrase level (first ++ (terms ++ [last]).flatMap Term.written)
      ((terms ++ [last]).foldl Term.join head) :=
    .row hrow hfirst (List.forall_mem_append.mpr ⟨hsigns, List.forall_mem_singleton.mpr ho⟩)
      (List.forall_mem_append.mpr ⟨hterms, List.forall_mem_singleton.mpr hright⟩)
  simpa [Term.written, Term.join, last] using hlonger

end Phrase

/-- Expressions are phrases. -/
theorem Derives.phrase {level : Level} {tokens : List Token} {tree : Tree}
    (h : Derives level tokens tree) : Phrase level tokens tree := by
  induction h with
  | number x => exact .number x
  | parens _ ih => exact .parens ih
  | apply name _ ih => exact .apply name ih
  | binary o _ _ ihl ihr =>
    by_cases ho : o = .pow
    · subst ho
      exact .power ihl ihr
    · obtain ⟨signs, hrow, hmem, hleft⟩ := IsRow.exists_of_ne_pow ho
      rw [hleft] at ihl
      exact ihl.append_term hrow hmem ihr
  | loosen hle _ ih => exact ih.loosen hle

/-- **The grammar with rows and the one that joins two operands at a time are the same**, with the
    same trees. -/
theorem phrase_iff_derives {level : Level} {tokens : List Token} {tree : Tree} :
    Phrase level tokens tree ↔ Derives level tokens tree :=
  ⟨Phrase.derives, Derives.phrase⟩

/-! ## 3. Their postfix order -/

/-- **No list of tokens is a phrase in two ways.** -/
theorem Phrase.tree_unique {tokens : List Token} {tree tree' : Tree}
    (h : Phrase .sum tokens tree) (h' : Phrase .sum tokens tree') : tree = tree' := by
  have hsame := toPostfix_of_derives h.derives
  rw [toPostfix_of_derives h'.derives] at hsame
  exact Tree.postorder_injective (Except.ok.inj hsame).symm

/-- **The postfix order of a phrase is the postorder of its tree**: rows of `+` and `-` and of `*`
    and `/` grouped to the left, `^` to the right, and a function applied to the atom behind it. -/
theorem toPostfix_of_phrase {tokens : List Token} {tree : Tree} (h : Phrase .sum tokens tree) :
    toPostfix tokens = .ok tree.postorder :=
  toPostfix_of_derives h.derives

/-- `8 - 3 - sin sqrt 16 ^ 2 ^ 3`: the functions take the number alone, and the powers are the last
    term of the row. -/
theorem toPostfix_row_of_functions :
    Phrase .sum
        [.number 8, .operator .sub, .number 3, .operator .sub, .name "sin", .function .sqrt,
          .number 16, .operator .pow, .number 2, .operator .pow, .number 3]
        (.binary .sub (.binary .sub (.number 8) (.number 3))
          (.binary .pow (.apply .sin (.apply .sqrt (.number 16)))
            (.binary .pow (.number 2) (.number 3)))) ∧
      toPostfix
          [.number 8, .operator .sub, .number 3, .operator .sub, .name "sin", .function .sqrt,
            .number 16, .operator .pow, .number 2, .operator .pow, .number 3] =
        .ok [.number 8, .number 3, .operator .sub, .number 16, .function .sqrt, .function .sin,
          .number 2, .number 3, .operator .pow, .operator .pow, .operator .sub] := by
  have hfirst : Phrase .sum [.number 8] (.number 8) := (Phrase.number 8).loosen (by decide)
  have hsecond : Phrase .product [.number 3] (.number 3) := (Phrase.number 3).loosen (by decide)
  have hsine : Phrase .atom [.name "sin", .function .sqrt, .number 16]
      (.apply .sin (.apply .sqrt (.number 16))) :=
    .apply (.name .sin) (.apply (.function .sqrt) (.number 16))
  have hpower := Phrase.alone .product (.power hsine (.power (.number 2) (.plain (.number 3))))
  have hrow := (hfirst.append_term .sum (o := .sub) (by decide) hsecond).append_term .sum
    (o := .sub) (by decide) hpower
  exact ⟨hrow, toPostfix_of_phrase hrow⟩

end Calculator
