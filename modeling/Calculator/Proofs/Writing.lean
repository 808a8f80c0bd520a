import Calculator.Proofs.PostfixOrder
import Calculator.Proofs.Reading

/-!
# Writing expressions

A tree whose numbers are those of literals can be written in many ways: with blanks between any
two of its tokens, with the name of a function in any mixture of small and capital letters, and
with more parentheses than needed. `Writes` says which texts write a tree; the parentheses that are
needed are those without which an operand would be too loose for its operator.

However it is written, the text is read as an expression that stands for the tree
(`Writes.exists_derives`), and so its value is the value of the tree.
-/

namespace Calculator

/-- Nothing but blanks. -/
def Text.Blanks (text : List Char) : Prop :=
  ∀ c ∈ text, Text.isBlank c = true

instance (text : List Char) : Decidable (Text.Blanks text) :=
  decidable_of_iff (text.all Text.isBlank = true) List.all_eq_true

theorem Text.blanks_nil : Text.Blanks [] :=
  List.forall_mem_nil _

/-- What is taken away at the end of a text is characters of the class. -/
theorem Text.exists_stripped (p : Char → Bool) (text : List Char) :
    ∃ after, (∀ c ∈ after, p c = true) ∧ text = (text.reverse.dropWhile p).reverse ++ after := by
  refine ⟨(text.reverse.takeWhile p).reverse, ?_, ?_⟩
  · intro c hc
    exact List.all_eq_true.mp List.all_takeWhile c (List.mem_reverse.mp hc)
  · rw [← List.reverse_append, List.takeWhile_append_dropWhile, List.reverse_reverse]

/-! ## 1. Literals and names -/

/-- A literal with its sign: digits, not more than one point, and no blank after the minus. -/
structure Literal where
  negative : Bool
  run : List Char
  numerals : run.all Number.isNumeral = true
  wellFormed : Number.wellFormed run = true

namespace Literal

/-- The characters of a literal. -/
def text (l : Literal) : List Char :=
  Number.signed l.negative l.run

/-- The number a literal is read as. -/
def value (l : Literal) : Float :=
  (Number.read? l.negative l.run).get (by rw [Number.read?_isSome]; exact l.wellFormed)

theorem read?_run (l : Literal) : Number.read? l.negative l.run = some l.value :=
  (Option.some_get _).symm

end Literal

/-- The word is the name of the function, its letters small or capital. -/
def Func.Spells (f : Func) (word : List Char) : Prop :=
  word.map Char.toLower = f.name.toList

instance (f : Func) (word : List Char) : Decidable (f.Spells word) :=
  inferInstanceAs (Decidable (word.map Char.toLower = f.name.toList))

/-- Its own name spells a function. -/
theorem Func.spells_name (f : Func) : f.Spells f.name.toList := by
  cases f <;> decide

theorem Func.Spells.isAlpha {f : Func} {word : List Char} (h : f.Spells word) :
    ∀ c ∈ word, c.isAlpha = true := by
  intro c hc
  have hname : f.name.toList.all Char.isLower = true := by
    cases f <;> decide
  exact Text.isAlpha_of_isLower_toLower
    (List.all_eq_true.mp hname _ (h ▸ List.mem_map_of_mem hc))

theorem Func.Spells.lowercase {f : Func} {word : List Char} (h : f.Spells word) :
    Text.lowercase (String.ofList word) = f.name := by
  rw [Text.lowercase, String.toList_ofList,
    Text.lowered_of_isAscii fun c hc => Text.isAscii_of_isAlpha (h.isAlpha c hc),
    show word.map Char.toLower = f.name.toList from h, String.ofList_toList]

/-! ## 2. Writings -/

/-- The text writes the tree, as an expression of the level. -/
inductive Writes : Level → Tree → List Char → Prop where
  | literal (l : Literal) : Writes .atom (.number l.value) l.text
  | parens {tree : Tree} {before text after : List Char} (hbefore : Text.Blanks before)
      (inner : Writes .sum tree text) (hafter : Text.Blanks after) :
      Writes .atom tree ('(' :: (before ++ text ++ after) ++ [')'])
  | apply {f : Func} {tree : Tree} {word blanks before text after : List Char}
      (hword : f.Spells word) (hblanks : Text.Blanks blanks) (hbefore : Text.Blanks before)
      (argument : Writes .sum tree text) (hafter : Text.Blanks after) :
      Writes .atom (.apply f tree) (word ++ blanks ++ ('(' :: (before ++ text ++ after) ++ [')']))
  | binary (o : Operator) {left right : Tree} {text before after text' : List Char}
      (hleft : Writes o.leftLevel left text) (hbefore : Text.Blanks before)
      (hafter : Text.Blanks after) (hright : Writes o.rightLevel right text') :
      Writes o.level (.binary o left right) (text ++ before ++ o.symbol :: (after ++ text'))
  | loosen {level level' : Level} {tree : Tree} {text : List Char} (h : level ≤ level')
      (inner : Writes level' tree text) : Writes level tree text

theorem Writes.of_atom {level : Level} {tree : Tree} {text : List Char}
    (h : Writes .atom tree text) : Writes level tree text :=
  .loosen (Level.le_atom level) h

theorem Writes.to_sum {level : Level} {tree : Tree} {text : List Char}
    (h : Writes level tree text) : Writes .sum tree text :=
  .loosen (Level.sum_le level) h

/-- The text writes the tree, with any blanks around it. -/
def Tree.WrittenAs (tree : Tree) (text : String) : Prop :=
  ∃ before middle after, Text.Blanks before ∧ Text.Blanks after ∧
    Writes .sum tree middle ∧ text.toList = before ++ middle ++ after

/-- All numbers of the tree are those of literals. -/
def Tree.OfLiterals : Tree → Prop
  | number x => ∃ l : Literal, x = l.value
  | binary _ left right => left.OfLiterals ∧ right.OfLiterals
  | apply _ argument => argument.OfLiterals

theorem Writes.ofLiterals {level : Level} {tree : Tree} {text : List Char}
    (h : Writes level tree text) : tree.OfLiterals := by
  induction h with
  | literal l => exact ⟨l, rfl⟩
  | parens _ _ _ ih => exact ih
  | apply _ _ _ _ _ ih => exact ih
  | binary _ _ _ _ _ ihl ihr => exact ⟨ihl, ihr⟩
  | loosen _ _ ih => exact ih

/-- With each operand in parentheses every tree of literals is written. -/
theorem Tree.OfLiterals.exists_writes {tree : Tree} (h : tree.OfLiterals) :
    ∃ text, Writes .atom tree text := by
  induction tree with
  | number x =>
    obtain ⟨l, rfl⟩ := h
    exact ⟨_, .literal l⟩
  | binary o left right ihl ihr =>
    obtain ⟨text, hleft⟩ := ihl h.1
    obtain ⟨text', hright⟩ := ihr h.2
    have hboth := Writes.binary o hleft.of_atom Text.blanks_nil Text.blanks_nil hright.of_atom
    exact ⟨_, .parens Text.blanks_nil hboth.to_sum Text.blanks_nil⟩
  | apply f argument ih =>
    obtain ⟨text, hargument⟩ := ih h
    exact ⟨_, .apply f.spells_name Text.blanks_nil Text.blanks_nil hargument.to_sum Text.blanks_nil⟩

/-- **A tree can be written exactly if its numbers are those of literals.** -/
theorem Tree.exists_writtenAs_iff (tree : Tree) :
    (∃ text, tree.WrittenAs text) ↔ tree.OfLiterals := by
  constructor
  · rintro ⟨_, _, _, _, _, _, hwrites, _⟩
    exact hwrites.ofLiterals
  · intro h
    obtain ⟨text, hwrites⟩ := h.exists_writes
    refine ⟨String.ofList text, [], text, [], Text.blanks_nil, Text.blanks_nil,
      hwrites.to_sum, ?_⟩
    simp

/-! ## 3. Reading what was written -/

/-- After an expression no operand is due: a minus that follows it is an operator. -/
theorem Derives.operandDue_reverse {level : Level} {tokens : List Token} {tree : Tree}
    (h : Derives level tokens tree) (base : List Token) :
    Lexer.operandDue (tokens.reverse ++ base) = false := by
  induction h generalizing base with
  | number x => rfl
  | parens inner ih =>
    rw [List.reverse_append]
    rfl
  | apply name argument ih =>
    rw [List.reverse_cons, List.append_assoc]
    exact ih _
  | binary o hleft hright ihl ihr =>
    rw [List.reverse_append, List.reverse_cons, List.append_assoc, List.append_assoc]
    exact ihr _
  | loosen hle inner ih => exact ih base

namespace Lexer

/-- Blanks around a text are dropped. -/
theorem tokensFrom_blanks {before after : List Char} (hbefore : Text.Blanks before)
    (hafter : Text.Blanks after) (text : List Char) :
    start.tokensFrom (before ++ text ++ after) = start.tokensFrom text := by
  rw [tokensFrom_append_blanks hafter]
  exact tokensFrom_blanks_append hbefore [] text

/-- A literal is read as its number. -/
theorem tokensFrom_literal (l : Literal) :
    start.tokensFrom l.text = .ok [.number l.value] :=
  tokensFrom_numerals (List.all_eq_true.mp l.numerals) l.read?_run fun _ => rfl

theorem tokensFrom_spells {f : Func} {word blanks : List Char} (h : f.Spells word)
    (hblanks : Text.Blanks blanks) (tokens : List Token) :
    tokensFrom ⟨tokens, .nothing⟩ (word ++ blanks) = .ok (.name f.name :: tokens) := by
  have hne : word ≠ [] := by
    rintro rfl
    revert h
    cases f <;> decide
  rw [tokensFrom_append_blanks hblanks, ← h.lowercase]
  exact tokensFrom_letters hne (fun c hc => Text.isLetter_of_isAlpha (h.isAlpha c hc)) tokens

/-- An operator, and what is read after it, follow the tokens of its left operand. -/
theorem tokensFrom_operator (o : Operator) {first second blanks : List Char}
    {tokens tokens' : List Token} (hfirst : start.tokensFrom first = .ok tokens)
    (hdue : operandDue tokens = false) (hblanks : Text.Blanks blanks)
    (hsecond : start.tokensFrom second = .ok tokens') :
    start.tokensFrom (first ++ o.symbol :: (blanks ++ second)) =
      .ok (tokens' ++ .operator o :: tokens) := by
  rw [tokensFrom_separates (Text.separates_symbol o), hfirst]
  show (begin tokens o.symbol >>= _) = _
  rw [begin_symbol, if_neg fun h => by simp [hdue] at h]
  show tokensFrom ⟨.operator o :: tokens, .nothing⟩ (blanks ++ second) = _
  rw [tokensFrom_blanks_append hblanks]
  show (start.above (.operator o :: tokens)).tokensFrom second = _
  rw [tokensFrom_above fun _ => rfl, hsecond]
  rfl

end Lexer

/-- **What writes a tree is read as an expression that stands for it**, of the same level. -/
theorem Writes.exists_derives {level : Level} {tree : Tree} {text : List Char}
    (h : Writes level tree text) :
    ∃ tokens, Derives level tokens tree ∧ Lexer.start.tokensFrom text = .ok tokens.reverse := by
  induction h with
  | literal l =>
    exact ⟨_, .number l.value, Lexer.tokensFrom_literal l⟩
  | @parens tree before text after hbefore _ hafter ih =>
    obtain ⟨tokens, hderives, htokens⟩ := ih
    rw [← Lexer.tokensFrom_blanks hbefore hafter] at htokens
    refine ⟨_, .parens hderives, (Lexer.tokensFrom_parens htokens Lexer.start []).trans ?_⟩
    show Except.ok _ = Except.ok _
    simp
  | @apply f tree word blanks before text after hword hblanks hbefore _ hafter ih =>
    obtain ⟨tokens, hderives, htokens⟩ := ih
    rw [← Lexer.tokensFrom_blanks hbefore hafter] at htokens
    refine ⟨_, .apply (.name f) (.parens hderives), ?_⟩
    have hname : Lexer.start.tokensFrom (word ++ blanks) = .ok [.name f.name] :=
      Lexer.tokensFrom_spells hword hblanks []
    rw [Lexer.tokensFrom_parens htokens, hname]
    show Except.ok _ = Except.ok _
    simp
  | @binary o left right text before after text' _ hbefore hafter _ ihl ihr =>
    obtain ⟨tokens, hderives, htokens⟩ := ihl
    obtain ⟨tokens', hderives', htokens'⟩ := ihr
    have hdue : Lexer.operandDue tokens.reverse = false := by
      simpa using hderives.operandDue_reverse []
    rw [← Lexer.tokensFrom_append_blanks hbefore] at htokens
    refine ⟨_, .binary o hderives hderives', ?_⟩
    rw [Lexer.tokensFrom_operator o htokens hdue hafter htokens']
    simp
  | loosen hle _ ih =>
    obtain ⟨tokens, hderives, htokens⟩ := ih
    exact ⟨tokens, .loosen hle hderives, htokens⟩

theorem Tree.WrittenAs.exists_derives {tree : Tree} {text : String} (h : tree.WrittenAs text) :
    ∃ tokens, Derives .sum tokens tree ∧ tokenize text = .ok tokens := by
  obtain ⟨before, middle, after, hbefore, hafter, hwrites, htext⟩ := h
  obtain ⟨tokens, hderives, htokens⟩ := hwrites.exists_derives
  refine ⟨tokens, hderives, ?_⟩
  rw [tokenize_eq_ok_iff, htext, Lexer.tokensFrom_blanks hbefore hafter, htokens]

/-- **The value of a tree is computed from whatever writes it**, and so is the first error on the
    way to it. -/
theorem evaluate_of_writtenAs {tree : Tree} {text : String} (h : tree.WrittenAs text) :
    evaluate text = tree.value := by
  obtain ⟨tokens, hderives, htokens⟩ := h.exists_derives
  rw [evaluate_eq_compute, htokens]
  exact compute_of_derives hderives

/-- A difference in needed parentheses, times a negative literal. -/
theorem evaluate_difference_times_literal :
    ∃ one three two : Literal,
      let tree := Tree.binary .mul (.binary .sub (.number one.value) (.number three.value))
        (.number two.value)
      tree.WrittenAs " ( 1- 3. )*-2" ∧ evaluate " ( 1- 3. )*-2" = tree.value ∧
        tree.value = .ok (Number.ofMagnitude false 0x4010000000000000) := by
  let one : Literal := ⟨false, ['1'], by decide, by decide⟩
  let three : Literal := ⟨false, ['3', '.'], by decide, by decide⟩
  let two : Literal := ⟨true, ['2'], by decide, by decide⟩
  have hspace : Text.Blanks [' '] := by decide
  have hdifference := Writes.binary .sub (Writes.literal one).of_atom Text.blanks_nil hspace
    (Writes.literal three).of_atom
  have hproduct := Writes.binary .mul (Writes.parens hspace hdifference hspace).of_atom
    Text.blanks_nil Text.blanks_nil (Writes.literal two).of_atom
  have hwritten : Tree.WrittenAs _ " ( 1- 3. )*-2" :=
    ⟨[' '], _, [], hspace, Text.blanks_nil, hproduct.to_sum, by decide⟩
  exact ⟨one, three, two, hwritten, evaluate_of_writtenAs hwritten, by decide +kernel⟩

end Calculator
