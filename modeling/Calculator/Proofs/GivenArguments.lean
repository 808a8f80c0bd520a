import Calculator.Proofs.CommandWords
import Mathlib.Data.List.Induction
import Mathlib.Data.List.Nodup

/-!
# What the items of a command line give

The arguments are put together item by item, and each one may be refused. `Declared` states what is
declared of the arguments about all items at once: nothing is given twice, every value can be read,
and what is given belongs together. `Arguments.ofItems` are the arguments that items stand for.

* `give_eq_ok_iff`: an item is taken exactly if it is the first of its subject and can be read.
* `foldlM_give_eq_ok_iff`: so all of them are taken exactly if no subject occurs twice and all can
  be read, and give the arguments they stand for; by induction on the items, from the end.
* `accepted_iff`: the items are accepted exactly if they are as declared.
* `ofWords_eq_ok_iff`, `isOk_ofWords_iff`: so are the words that give them.
-/

namespace Calculator.CommandLine

-- powers are those of core, whatever other instances are in sight
attribute [local instance (high)] instPowNat

/-! ## 1. What is given -/

namespace Item

/-- The setting an item gives, or none if it gives the expression. -/
def subject? : Item → Option Setting
  | .expression _ => none
  | .setting subject _ => some subject

/-- What an item says, as it is written. -/
def text : Item → String
  | .expression text => text
  | .setting _ value => value

/-- The value can be read: an operand is a number, and the digits are a count. -/
def isReadable : Item → Bool
  | .setting .a value => (Number.operand? value).isSome
  | .setting .b value => (Number.operand? value).isSome
  | .setting .digits value => (count? value).isSome
  | _ => true

end Item

/-- No count begins with a hyphen. -/
theorem ne_hyphen_of_count? {word : String} {d : Nat} (h : count? word = some d) (c : Char)
    (rest : List Char) : word.toList ≠ '-' :: c :: rest := by
  intro hlist
  have hminus : Char.isDigit '-' = false := rfl
  simp [count?, hlist, hminus] at h

/-- The items give this setting, or for none, the expression. -/
def Gives (items : List Item) (subject : Option Setting) : Prop :=
  subject ∈ items.map Item.subject?

instance (items : List Item) (subject : Option Setting) : Decidable (Gives items subject) :=
  inferInstanceAs (Decidable (subject ∈ items.map Item.subject?))

/-- What the items say of this setting, or for none, of the expression. -/
def written? (items : List Item) (subject : Option Setting) : Option String :=
  items.findSome? fun item => if item.subject? = subject then some item.text else none

/-- The expression among the items. -/
def expression? (items : List Item) : Option String :=
  written? items none

/-- The name of the operation among the items. -/
def operation? (items : List Item) : Option String :=
  written? items (some .operation)

/-- The number given as this operand. -/
def operand? (items : List Item) (setting : Setting) : Option Float :=
  (written? items (some setting)).bind Number.operand?

/-- The count of decimals among the items. -/
def decimals? (items : List Item) : Option Nat :=
  (written? items (some .digits)).bind count?

/-- The arguments the items stand for, with a log asked for so often. -/
def Arguments.ofItems (logs : Nat) (items : List Item) : Arguments :=
  ⟨expression? items, operation? items, operand? items .a, operand? items .b, decimals? items, logs⟩

/-- What is declared of the items of a command line. -/
structure Declared (items : List Item) : Prop where
  /-- Nothing is given twice. -/
  once : (items.map Item.subject?).Nodup
  readable : ∀ item ∈ items, item.isReadable = true
  /-- An expression and an operation exclude each other. -/
  conflict : ¬(Gives items none ∧ Gives items (some .operation))
  /-- Each operand requires an operation, unless that is excluded. -/
  operation : Gives items (some .a) ∨ Gives items (some .b) →
    Gives items none ∨ Gives items (some .operation)
  /-- An operation requires the first operand, and so does the second, which requires an
      operation. -/
  operand : Gives items (some .operation) ∨ Gives items (some .b) → Gives items (some .a)

theorem isSome_written? (items : List Item) (subject : Option Setting) :
    (written? items subject).isSome = true ↔ Gives items subject := by
  unfold written? Gives
  rw [List.findSome?_isSome_iff, List.mem_map]
  refine exists_congr fun item => and_congr_right fun _ => ?_
  split_ifs with h
  · exact iff_of_true rfl h
  · exact iff_of_false nofun h

/-- What the items say of a subject is said by one of them. -/
theorem exists_item_of_written? {items : List Item} {subject : Option Setting} {text : String}
    (h : written? items subject = some text) :
    ∃ item ∈ items, item.subject? = subject ∧ item.text = text := by
  obtain ⟨item, hitem, hsome⟩ := List.exists_of_findSome?_eq_some h
  split at hsome
  · rename_i hsubject
    exact ⟨item, hitem, hsubject, Option.some.inj hsome⟩
  · cases hsome

theorem exists_of_written? {items : List Item} {setting : Setting} {value : String}
    (h : written? items (some setting) = some value) : Item.setting setting value ∈ items := by
  obtain ⟨item, hitem, hsubject, rfl⟩ := exists_item_of_written? h
  cases item with
  | expression text => cases hsubject
  | setting other text =>
    cases hsubject
    exact hitem

theorem written?_append (items : List Item) (item : Item) (subject : Option Setting) :
    written? (items ++ [item]) subject =
      (written? items subject).or (if item.subject? = subject then some item.text else none) := by
  unfold written?
  rw [List.findSome?_append, List.findSome?_singleton]

/-! ## 2. One item more -/

namespace Arguments

/-- There is an argument of this setting, or for none, an expression. -/
def has (args : Arguments) : Option Setting → Bool
  | .none => args.expression.isSome
  | some .operation => args.operation.isSome
  | some .a => args.a.isSome
  | some .b => args.b.isSome
  | some .digits => args.digits.isSome

/-- The arguments with what an item says in its place. -/
def put (args : Arguments) : Item → Arguments
  | .expression text => { args with expression := some text }
  | .setting .operation value => { args with operation := some value }
  | .setting .a value => { args with a := Number.operand? value }
  | .setting .b value => { args with b := Number.operand? value }
  | .setting .digits value => { args with digits := count? value }

/-- An argument is taken if there is none in its place. -/
theorem ite_taken_eq_ok_iff {taken : Bool} {given args' : Arguments} :
    (if taken then .error Stop.badUsage else .ok given) = Except.ok args' ↔
      taken = false ∧ args' = given := by
  cases taken <;> simp [eq_comm]

/-- **An item is taken exactly if it is the first of its subject and can be read.** -/
theorem give_eq_ok_iff (args : Arguments) (item : Item) (args' : Arguments) :
    args.give item = .ok args' ↔
      args.has item.subject? = false ∧ item.isReadable = true ∧ args' = args.put item := by
  match item with
  | .expression text =>
    simp [give, setExpression, has, put, Item.subject?, Item.isReadable, ite_taken_eq_ok_iff]
  | .setting .operation value =>
    simp [give, set, has, put, Item.subject?, Item.isReadable, ite_taken_eq_ok_iff]
  | .setting .a value =>
    cases hvalue : Number.operand? value <;>
      simp [give, set, has, put, Item.subject?, Item.isReadable, hvalue, ite_taken_eq_ok_iff]
  | .setting .b value =>
    cases hvalue : Number.operand? value <;>
      simp [give, set, has, put, Item.subject?, Item.isReadable, hvalue, ite_taken_eq_ok_iff]
  | .setting .digits value =>
    cases hvalue : count? value <;>
      simp [give, set, has, put, Item.subject?, Item.isReadable, hvalue, ite_taken_eq_ok_iff]

end Arguments

/-! ## 3. All items -/

/-- What is read of a setting is there exactly if the setting is given, where it can be read. -/
theorem isSome_bind_written? {α : Type} {items : List Item} {setting : Setting}
    {read : String → Option α}
    (hread : ∀ value, Item.setting setting value ∈ items → (read value).isSome = true) :
    ((written? items (some setting)).bind read).isSome =
      (written? items (some setting)).isSome := by
  cases h : written? items (some setting) with
  | none => rfl
  | some value => exact hread value (exists_of_written? h)

/-- What the items say of a subject becomes its argument. -/
theorem has_ofItems {items : List Item} (hreadable : ∀ item ∈ items, item.isReadable = true)
    (logs : Nat) (subject : Option Setting) :
    (Arguments.ofItems logs items).has subject = (written? items subject).isSome := by
  match subject with
  | none => rfl
  | some .operation => rfl
  | some .a => exact isSome_bind_written? fun value h => hreadable _ h
  | some .b => exact isSome_bind_written? fun value h => hreadable _ h
  | some .digits => exact isSome_bind_written? fun value h => hreadable _ h

theorem ofItems_nil (logs : Nat) : Arguments.ofItems logs [] = Arguments.none.louder logs := by
  unfold Arguments.louder
  rw [Arguments.none, Nat.zero_add]
  rfl

theorem ofItems_append {items : List Item} {item : Item} (logs : Nat)
    (h : written? items item.subject? = none) :
    Arguments.ofItems logs (items ++ [item]) = (Arguments.ofItems logs items).put item := by
  unfold Arguments.ofItems expression? operation? operand? decimals?
  simp only [written?_append]
  cases item with
  | expression text => simp_all [Arguments.put, Item.subject?, Item.text]
  | setting setting value =>
    cases setting <;> simp_all [Arguments.put, Item.subject?, Item.text]

/-- With one item more nothing is given twice if its subject is new. -/
theorem nodup_append_iff (items : List Item) (item : Item) :
    ((items ++ [item]).map Item.subject?).Nodup ↔
      (items.map Item.subject?).Nodup ∧ written? items item.subject? = none := by
  rw [← Option.not_isSome_iff_eq_none, isSome_written?, List.map_append, List.map_singleton,
    ← List.concat_eq_append, List.nodup_concat]
  exact and_comm

/-- **Items are taken exactly if no subject occurs twice and all can be read**, and become the
    arguments that they stand for. -/
theorem foldlM_give_eq_ok_iff (logs : Nat) (items : List Item) (args : Arguments) :
    items.foldlM Arguments.give (Arguments.none.louder logs) = .ok args ↔
      (items.map Item.subject?).Nodup ∧ (∀ item ∈ items, item.isReadable = true) ∧
        args = .ofItems logs items := by
  induction items using List.reverseRecOn generalizing args with
  | nil =>
    rw [ofItems_nil]
    constructor
    · rintro ⟨⟩
      exact ⟨List.nodup_nil, nofun, rfl⟩
    · rintro ⟨-, -, rfl⟩
      rfl
  | append_singleton items item ih =>
    have hlast : ∀ given : Arguments,
        [item].foldlM Arguments.give given = Arguments.give given item := fun given =>
      bind_pure (Arguments.give given item)
    rw [List.foldlM_append, nodup_append_iff, List.forall_mem_append, List.forall_mem_singleton]
    constructor
    · intro h
      obtain ⟨given, hitems, hitem⟩ := exists_of_bind_ok h
      obtain ⟨honce, hreadable, rfl⟩ := (ih given).mp hitems
      rw [hlast] at hitem
      obtain ⟨hnew, hread, rfl⟩ := (Arguments.give_eq_ok_iff _ _ _).mp hitem
      rw [has_ofItems hreadable, Option.isSome_eq_false_iff, Option.isNone_iff_eq_none] at hnew
      exact ⟨⟨honce, hnew⟩, ⟨hreadable, hread⟩, (ofItems_append logs hnew).symm⟩
    · rintro ⟨⟨honce, hnew⟩, ⟨hreadable, hread⟩, rfl⟩
      rw [(ih _).mpr ⟨honce, hreadable, rfl⟩]
      show [item].foldlM Arguments.give (.ofItems logs items) = _
      rw [hlast, ofItems_append logs hnew, Arguments.give_eq_ok_iff, has_ofItems hreadable, hnew]
      exact ⟨rfl, hread, rfl⟩

/-- The arguments of items that can be read belong together if the items do. -/
theorem complete_ofItems {items : List Item} (hreadable : ∀ item ∈ items, item.isReadable = true)
    (logs : Nat) :
    (Arguments.ofItems logs items).complete = true ↔
      ¬(Gives items none ∧ Gives items (some .operation)) ∧
        (Gives items (some .a) ∨ Gives items (some .b) →
          Gives items none ∨ Gives items (some .operation)) ∧
        (Gives items (some .operation) ∨ Gives items (some .b) → Gives items (some .a)) := by
  have hhas : ∀ subject,
      Gives items subject ↔ (Arguments.ofItems logs items).has subject = true := fun subject => by
    rw [has_ofItems hreadable, isSome_written?]
  simp only [hhas]
  unfold Arguments.complete Arguments.has
  grind

theorem declared_iff (logs : Nat) (items : List Item) :
    Declared items ↔ (items.map Item.subject?).Nodup ∧ (∀ item ∈ items, item.isReadable = true) ∧
      (Arguments.ofItems logs items).complete = true := by
  constructor
  · intro h
    have hcomplete := (complete_ofItems h.readable logs).mpr ⟨h.conflict, h.operation, h.operand⟩
    exact ⟨h.once, h.readable, hcomplete⟩
  · rintro ⟨honce, hreadable, hcomplete⟩
    obtain ⟨hconflict, hoperation, hoperand⟩ := (complete_ofItems hreadable logs).mp hcomplete
    exact ⟨honce, hreadable, hconflict, hoperation, hoperand⟩

/-- **Items are accepted exactly if they are as declared**, and become the arguments that they stand
    for. -/
theorem accepted_iff (logs : Nat) (items : List Item) (args : Arguments) :
    (items.foldlM Arguments.give (Arguments.none.louder logs) >>= Arguments.accept) = .ok args ↔
      Declared items ∧ args = .ofItems logs items := by
  rw [declared_iff logs]
  constructor
  · intro h
    obtain ⟨given, hitems, haccept⟩ := exists_of_bind_ok h
    obtain ⟨honce, hreadable, rfl⟩ := (foldlM_give_eq_ok_iff logs _ _).mp hitems
    unfold Arguments.accept at haccept
    split at haccept
    · rename_i hcomplete
      cases haccept
      exact ⟨⟨honce, hreadable, hcomplete⟩, rfl⟩
    · cases haccept
  · rintro ⟨⟨honce, hreadable, hcomplete⟩, rfl⟩
    rw [(foldlM_give_eq_ok_iff logs _ _).mpr ⟨honce, hreadable, rfl⟩]
    show Arguments.accept (.ofItems logs items) = _
    rw [Arguments.accept, if_pos hcomplete]

end Calculator.CommandLine
