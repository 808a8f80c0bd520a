import Calculator.CommandLine.Run
import Calculator.Proofs.GivenArguments
import Mathlib.Data.List.Perm.Basic

/-!
# The order of the options

A command line is put together from groups of words that belong together: an option with its value,
a request for a log, or an expression. In whatever order the groups stand, it ends in the same way,
with one exception: an operand that begins with a hyphen and is no number to the scan, such as
`-5e-3`, is taken in front of the expression, but not behind it (`not_run_perm`). Where there is
one, the order matters (`exists_perm_run_ne`).

* What a group says does not depend on what stands before it, unless it is such a value
  (`foldlM_of_together`): an option is one everywhere, and an expression is taken or refused as a
  second one. So the scan makes of the groups what the items make that they give (`ofWords_line`).
  Other settings have no such values where all is as declared: then there is no operation beside an
  expression, and no count begins with a hyphen.
* What the items make does not depend on their order (`accepted_perm`). What is declared of them
  asks what is among them, and what is given once is found wherever it stands (`written?_perm`).
-/

namespace Calculator.CommandLine

-- powers are those of core, whatever other instances are in sight
attribute [local instance (high)] instPowNat

/-! ## 1. Groups of words -/

/-- The word begins like an option with its value attached: behind the hyphen, and any letters that
    ask for a log, stands the letter of another option. -/
def isAttached (word : String) : Bool :=
  match word.toList with
  | '-' :: letters => (letters.dropWhile (· == 'v')).head?.any fun c => (Opt.ofLetter? c).isSome
  | _ => false

/-- Words that belong together, how often they ask for a log, and the items they give. The value of
    an option is a word that the option takes while there is no expression. -/
inductive Together : List String → Nat → List Item → Prop where
  | log {word : String} {logs : Nat} (hword : Spells word logs .nothing) : Together [word] logs []
  | setting {setting : Setting} {word value : String} {logs : Nat}
      (hword : Spells word logs (.opens setting)) (hvalue : canBeValue false setting value) :
      Together [word, value] logs [.setting setting value]
  | expression {word : String} (hoption : isOption word = false)
      (hattached : isAttached word = false) : Together [word] 0 [.expression word]

/-- A group of words. -/
structure Group where
  words : List String
  logs : Nat
  items : List Item
  together : Together words logs items

namespace Group

/-- The words of all groups. -/
def line (groups : List Group) : List String :=
  groups.flatMap words

/-- How often all groups ask for a log. -/
def allLogs : List Group → Nat
  | [] => 0
  | group :: groups => group.logs + allLogs groups

/-- The items that all groups give. -/
def allItems (groups : List Group) : List Item :=
  groups.flatMap items

theorem allItems_perm {groups groups' : List Group} (h : groups.Perm groups') :
    (allItems groups).Perm (allItems groups') :=
  h.flatMap_right items

theorem allLogs_perm {groups groups' : List Group} (h : groups.Perm groups') :
    allLogs groups = allLogs groups' := by
  induction h with
  | nil => rfl
  | cons group _ ih => rw [allLogs, allLogs, ih]
  | swap first second groups => exact Nat.add_left_comm _ _ _
  | trans _ _ ih ih' => exact ih.trans ih'

end Group

/-- Every operand is taken behind an expression too, if one is given. -/
def TakenAnywhere (items : List Item) : Prop :=
  Gives items none → ∀ setting value, .setting setting value ∈ items →
    setting.letter?.isSome = true → canBeValue true setting value = true

/-! ## 2. What a group says -/

/-- Letters that give no value are options, all of them. -/
theorem all_of_letters {letters : List Char} {logs : Nat} {use : Use}
    (h : Letters letters logs use)
    (huse : ∀ setting value, use ≠ .gives setting value) :
    letters.all (fun c => (Opt.ofLetter? c).isSome) = true := by
  induction h with
  | log => rfl
  | opens hletter =>
    rw [List.all_cons, ofLetter?_of_letter? hletter]
    rfl
  | equals hletter value => exact absurd rfl (huse _ _)
  | value hletter hvalue hequals => exact absurd rfl (huse _ _)
  | more _ ih => exact ih huse

/-- An option that gives no value is known as one, also in front of the expression. -/
theorem isOption_of_spells {word : String} {logs : Nat} {use : Use} (h : Spells word logs use)
    (huse : ∀ setting value, use ≠ .gives setting value) : isOption word = true := by
  cases h with
  | letters h =>
    obtain ⟨c, rest, rfl, hc⟩ := Scan.exists_of_letters h
    rw [Scan.isOption_short String.toList_ofList hc]
    exact all_of_letters h huse
  | log => rfl
  | name setting => cases setting <;> rfl
  | equals setting value => exact absurd rfl (huse _ _)

/-- An option that gives no value does what it says, whatever has been given before. -/
theorem Scan.step_option (args : Arguments) {word : String} {logs : Nat} {use : Use}
    (h : Spells word logs use) (huse : ∀ setting value, use ≠ .gives setting value) :
    (between args).step word = use.run (args.louder logs) :=
  step_of_spells args h (by rw [isOption_of_spells h huse, Bool.or_true])

/-- Letters that are neither options nor an option with its value are refused. -/
theorem Scan.letters_refused (args : Arguments) {letters : List Char}
    (hall : letters.all (fun c => (Opt.ofLetter? c).isSome) = false)
    (hattached : ((letters.dropWhile (· == 'v')).head?.any fun c => (Opt.ofLetter? c).isSome) =
      false) : (between args).letters letters = .error .badUsage := by
  induction letters generalizing args with
  | nil => cases hall
  | cons c rest ih =>
    by_cases hc : c = 'v'
    · subst hc
      exact ih (args.louder 1) hall hattached
    · rw [List.dropWhile_cons_of_neg (by simpa using hc)] at hattached
      have hletter : Opt.ofLetter? c = none := by
        rwa [List.head?_cons, Option.any_some, Option.isSome_eq_false_iff,
          Option.isNone_iff_eq_none] at hattached
      unfold Scan.letters
      rw [hletter]

/-- **A second expression is refused.** -/
theorem Scan.step_refused {args : Arguments} {text : String} (hgiven : args.given = true)
    (hoption : isOption text = false) (hattached : isAttached text = false) :
    (between args).step text = .error .badUsage := by
  cases form text with
  | hyphens htext =>
    subst htext
    cases hoption
  | long c rest htext =>
    rw [step_long rfl htext, long_unknown htext hoption]
    show (if args.given then _ else _) = _
    rw [hgiven, if_pos rfl]
  | short c rest htext hc =>
    rw [step_short rfl htext hc]
    show (if (args.expression.isNone && _) = true then _ else _) = _
    rw [isWord_eq args htext hc, hgiven]
    rw [isOption_short htext hc] at hoption
    unfold isAttached at hattached
    rw [htext] at hattached
    exact letters_refused args hoption hattached
  | plain htext =>
    rw [step_plain rfl htext, between, word_eq, hgiven, if_pos rfl]

/-- The expression is given, whatever has been given before. -/
theorem Scan.step_setExpression (args : Arguments) {text : String} (hoption : isOption text = false)
    (hattached : isAttached text = false) :
    (between args).step text = (args.setExpression text).map between := by
  cases hgiven : args.given with
  | false =>
    rw [step_expression hgiven hoption, Arguments.setExpression_of_not_given hgiven]
    rfl
  | true =>
    rw [step_refused hgiven hoption hattached, Arguments.setExpression,
      show args.expression.isSome = true from hgiven]
    rfl

theorem foldlM_give_singleton (args : Arguments) (item : Item) :
    [item].foldlM Arguments.give args = args.give item :=
  bind_pure (args.give item)

/-- The scan accepts what it has come to between two words, or ends in its error. -/
theorem Scan.finish_map (result : Except Stop Arguments) :
    (result.map between >>= Scan.finish) = (result >>= Arguments.accept) := by
  cases result with
  | error stop => rfl
  | ok args => exact finish_eq args false

variable {args args' : Arguments} {words : List String} {logs : Nat} {items items' : List Item}
  {groups groups' : List Group}

/-- An item is among them that is no value behind an expression. -/
def Refuses (items : List Item) : Prop :=
  ∃ setting value, .setting setting value ∈ items ∧ canBeValue true setting value = false

/-- **The words of a group give its items**, or are refused behind an expression. -/
theorem foldlM_of_together (h : Together words logs items) (args : Arguments) :
    words.foldlM Scan.step (.between args) =
        (items.foldlM Arguments.give (args.louder logs)).map .between ∨
      words.foldlM Scan.step (.between args) = .error .badUsage ∧ args.given = true ∧
        Refuses items := by
  cases h with
  | log hword =>
    rw [List.foldlM_cons, Scan.step_option args hword nofun]
    exact .inl rfl
  | @setting setting word value _ hword hvalue =>
    rw [List.foldlM_cons, Scan.step_option args hword nofun]
    show [value].foldlM Scan.step ⟨args.louder logs, some setting, false⟩ = _ ∨
      [value].foldlM Scan.step ⟨args.louder logs, some setting, false⟩ = _ ∧ _
    rw [List.foldlM_cons, Scan.step_awaiting,
      show (args.louder logs).given = args.given from rfl, foldlM_give_singleton]
    cases htaken : canBeValue args.given setting value with
    | true => exact .inl (bind_pure _)
    | false =>
      cases hgiven : args.given with
      | true =>
        rw [hgiven] at htaken
        exact .inr ⟨rfl, rfl, setting, value, List.mem_cons_self, htaken⟩
      | false =>
        rw [hgiven, hvalue] at htaken
        cases htaken
  | @expression word hoption hattached =>
    rw [List.foldlM_cons, Scan.step_setExpression args hoption hattached, foldlM_give_singleton]
    exact .inl (bind_pure _)

theorem Arguments.give_louder (args : Arguments) (times : Nat) (item : Item) :
    (args.louder times).give item = (args.give item).map (·.louder times) := by
  cases item with
  | expression text =>
    show (args.louder times).setExpression text = (args.setExpression text).map (·.louder times)
    unfold setExpression louder
    split <;> rfl
  | setting setting value => exact set_louder args times setting value

/-- Items are taken alike, however often a log is asked for. -/
theorem foldlM_give_louder (items : List Item) (args : Arguments) (times : Nat) :
    items.foldlM Arguments.give (args.louder times) =
      (items.foldlM Arguments.give args).map (·.louder times) := by
  induction items generalizing args with
  | nil => rfl
  | cons item items ih =>
    rw [List.foldlM_cons, List.foldlM_cons, Arguments.give_louder]
    cases args.give item with
    | error stop => rfl
    | ok args' => exact ih args'

/-- An expression is given only if one of the items gives it. -/
theorem given_of_together (h : Together words logs items)
    (hgive : items.foldlM Arguments.give args = .ok args') (hgiven : args'.given = true) :
    args.given = true ∨ Gives items none := by
  cases h with
  | log hword =>
    cases hgive
    exact .inl hgiven
  | setting hword hvalue =>
    rw [foldlM_give_singleton] at hgive
    exact .inl (Arguments.given_set hgive ▸ hgiven)
  | expression hoption hattached => exact .inr List.mem_cons_self

/-- The words of all groups give their items, one after the other, or are refused behind an
    expression. -/
theorem foldlM_line (groups : List Group) (args : Arguments) :
    (Group.line groups).foldlM Scan.step (.between args) =
        ((Group.allItems groups).foldlM Arguments.give
          (args.louder (Group.allLogs groups))).map .between ∨
      (Group.line groups).foldlM Scan.step (.between args) = .error .badUsage ∧
        (args.given = true ∨ Gives (Group.allItems groups) none) ∧
        Refuses (Group.allItems groups) := by
  induction groups generalizing args with
  | nil => exact .inl rfl
  | cons group groups ih =>
    show (group.words ++ Group.line groups).foldlM Scan.step (.between args) =
        ((group.items ++ Group.allItems groups).foldlM Arguments.give
          (args.louder (group.logs + Group.allLogs groups))).map .between ∨
      (group.words ++ Group.line groups).foldlM Scan.step (.between args) = _ ∧
        (_ ∨ Gives (group.items ++ Group.allItems groups) none) ∧
        Refuses (group.items ++ Group.allItems groups)
    rw [List.foldlM_append, List.foldlM_append, ← Arguments.louder_louder,
      foldlM_give_louder group.items (args.louder group.logs)]
    have hgives : ∀ {items items' : List Item}, items ⊆ items' → Gives items none →
        Gives items' none := fun hsubset h => List.map_subset Item.subject? hsubset h
    rcases foldlM_of_together group.together args with
      hfirst | ⟨hfirst, hgiven, setting, value, hitem, hvalue⟩
    · rw [hfirst]
      cases hgive : group.items.foldlM Arguments.give (args.louder group.logs) with
      | error stop => exact .inl rfl
      | ok args' =>
        refine (ih args').imp id ?_
        rintro ⟨hrest, hline, setting, value, hitem, hvalue⟩
        refine ⟨hrest, ?_, setting, value, List.mem_append_right _ hitem, hvalue⟩
        rcases hline with hgiven | hexpression
        · refine (given_of_together group.together hgive hgiven).imp id fun hexpression => ?_
          exact hgives (List.subset_append_left _ _) hexpression
        · exact .inr (hgives (List.subset_append_right _ _) hexpression)
    · rw [hfirst]
      exact .inr ⟨rfl, .inl hgiven, setting, value, List.mem_append_left _ hitem, hvalue⟩

/-! ## 3. What the items make -/

/-- Items that are not accepted are bad usage: a text is asked for by no item. -/
theorem stop_of_give {item : Item} {stop : Stop} (h : args.give item = .error stop) :
    stop = .badUsage := by
  cases item with
  | expression text =>
    change args.setExpression text = _ at h
    unfold Arguments.setExpression at h
    split at h <;> cases h
    rfl
  | setting setting value =>
    change args.set setting value = _ at h
    unfold Arguments.set at h
    cases setting <;> dsimp only at h <;> (repeat' split at h) <;> cases h <;> rfl

theorem stop_of_accepted {stop : Stop}
    (h : (items.foldlM Arguments.give args >>= Arguments.accept) = .error stop) :
    stop = .badUsage := by
  induction items generalizing args with
  | nil =>
    change args.accept = _ at h
    unfold Arguments.accept at h
    split at h <;> cases h
    rfl
  | cons item items ih =>
    rw [List.foldlM_cons] at h
    cases hgive : args.give item with
    | error stop' =>
      rw [hgive] at h
      cases h
      exact stop_of_give hgive
    | ok args' =>
      rw [hgive] at h
      exact ih h

/-- What is no value behind an expression is not as declared, or an operand. -/
theorem not_declared_of_refuses (hexpression : Gives items none) (hrefuses : Refuses items)
    (htaken : TakenAnywhere items) : ¬Declared items := by
  intro hdeclared
  obtain ⟨setting, value, hitem, hvalue⟩ := hrefuses
  have hoperand : setting.letter?.isSome = false := by
    rw [← Bool.not_eq_true]
    intro hletter
    rw [htaken hexpression setting value hitem hletter] at hvalue
    cases hvalue
  match setting with
  | .operation => exact hdeclared.conflict ⟨hexpression, List.mem_map_of_mem hitem⟩
  | .digits =>
    obtain ⟨count, hcount⟩ := Option.isSome_iff_exists.mp (hdeclared.readable _ hitem)
    rw [Scan.canBeValue_plain true .digits (ne_hyphen_of_count? hcount)] at hvalue
    cases hvalue
  | .a => cases hoperand
  | .b => cases hoperand

/-- **The scan makes of the groups what the items make that they give**, and asks for a log. -/
theorem ofWords_line
    (htaken : Declared (Group.allItems groups) → TakenAnywhere (Group.allItems groups)) :
    Arguments.ofWords (Group.line groups) =
      ((Group.allItems groups).foldlM Arguments.give
        (Arguments.none.louder (Group.allLogs groups)) >>= Arguments.accept) := by
  show ((Group.line groups).foldlM Scan.step (.between .none) >>= Scan.finish) = _
  rcases foldlM_line groups .none with hline | ⟨hline, hexpression, hrefuses⟩
  · rw [hline]
    exact Scan.finish_map _
  · have hgives : Gives (Group.allItems groups) none :=
      hexpression.resolve_left Bool.false_ne_true
    rw [hline]
    cases haccepted : (Group.allItems groups).foldlM Arguments.give
        (Arguments.none.louder (Group.allLogs groups)) >>= Arguments.accept with
    | error stop =>
      rw [stop_of_accepted haccepted]
      rfl
    | ok args =>
      have hdeclared := ((accepted_iff _ _ _).mp haccepted).1
      exact absurd hdeclared (not_declared_of_refuses hgives hrefuses (htaken hdeclared))

/-- What is said once of a subject is found, wherever it stands. -/
theorem written?_eq_some_iff (honce : (items.map Item.subject?).Nodup) {subject : Option Setting}
    {text : String} : written? items subject = some text ↔
      ∃ item ∈ items, item.subject? = subject ∧ item.text = text := by
  refine ⟨exists_item_of_written?, ?_⟩
  rintro ⟨item, hitem, rfl, rfl⟩
  have hgives : Gives items item.subject? := List.mem_map_of_mem hitem
  obtain ⟨text, htext⟩ := Option.isSome_iff_exists.mp ((isSome_written? items _).mpr hgives)
  obtain ⟨other, hother, hsubject, rfl⟩ := exists_item_of_written? htext
  rw [htext, List.inj_on_of_nodup_map honce hother hitem hsubject]

theorem written?_perm (h : items.Perm items') (honce : (items.map Item.subject?).Nodup) :
    written? items = written? items' := by
  have honce' := (h.map Item.subject?).nodup honce
  funext subject
  refine Option.ext fun text => ?_
  rw [written?_eq_some_iff honce, written?_eq_some_iff honce']
  simp only [h.mem_iff]

theorem declared_perm (h : items.Perm items') (hdeclared : Declared items) : Declared items' := by
  have hgives : ∀ subject, Gives items' subject ↔ Gives items subject := fun subject =>
    (h.map Item.subject?).mem_iff.symm
  constructor
  · exact (h.map Item.subject?).nodup hdeclared.once
  · exact fun item hitem => hdeclared.readable item (h.mem_iff.mpr hitem)
  · simpa only [hgives] using hdeclared.conflict
  · simpa only [hgives] using hdeclared.operation
  · simpa only [hgives] using hdeclared.operand

/-- What is accepted of the items is accepted in any order of them. -/
theorem accepted_of_perm (h : items.Perm items') {args : Arguments}
    (haccepted : (items.foldlM Arguments.give (Arguments.none.louder logs) >>=
      Arguments.accept) = .ok args) :
    (items'.foldlM Arguments.give (Arguments.none.louder logs) >>= Arguments.accept) =
      .ok args := by
  obtain ⟨hdeclared, rfl⟩ := (accepted_iff logs items args).mp haccepted
  refine (accepted_iff logs items' _).mpr ⟨declared_perm h hdeclared, ?_⟩
  unfold Arguments.ofItems expression? operation? operand? decimals?
  rw [written?_perm h hdeclared.once]

/-- **The order of the items is irrelevant**, whether they are accepted or not. -/
theorem accepted_perm (h : items.Perm items') (logs : Nat) :
    (items.foldlM Arguments.give (Arguments.none.louder logs) >>= Arguments.accept) =
      (items'.foldlM Arguments.give (Arguments.none.louder logs) >>= Arguments.accept) := by
  cases hitems : items.foldlM Arguments.give (Arguments.none.louder logs) >>=
      Arguments.accept with
  | ok args => exact (accepted_of_perm h hitems).symm
  | error stop =>
    cases hitems' : items'.foldlM Arguments.give (Arguments.none.louder logs) >>=
        Arguments.accept with
    | ok args =>
      rw [accepted_of_perm h.symm hitems'] at hitems
      cases hitems
    | error stop' => rw [stop_of_accepted hitems, stop_of_accepted hitems']

theorem takenAnywhere_perm (h : items.Perm items') (htaken : TakenAnywhere items) :
    TakenAnywhere items' := fun hgives setting value hitem =>
  htaken ((h.map Item.subject?).mem_iff.mpr hgives) setting value (h.mem_iff.mpr hitem)

/-! ## 4. The order of the groups -/

/-- The words of all groups in another order give the same arguments, or are refused alike. -/
theorem ofWords_perm (h : groups.Perm groups')
    (htaken : Declared (Group.allItems groups) → TakenAnywhere (Group.allItems groups)) :
    Arguments.ofWords (Group.line groups) = Arguments.ofWords (Group.line groups') := by
  have hitems := Group.allItems_perm h
  have hlogs := Group.allLogs_perm h
  have htaken' : Declared (Group.allItems groups') → TakenAnywhere (Group.allItems groups') :=
    fun hdeclared => takenAnywhere_perm hitems (htaken (declared_perm hitems.symm hdeclared))
  rw [ofWords_line htaken, ofWords_line htaken', hlogs]
  exact accepted_perm hitems _

/-- What is not as declared is refused, with the exit code of bad usage. -/
theorem run_of_not_declared (hdeclared : ¬Declared (Group.allItems groups)) :
    run (Group.line groups) = .done 2 "" "" := by
  unfold run
  rw [ofWords_line fun h => absurd h hdeclared]
  cases haccepted : (Group.allItems groups).foldlM Arguments.give
      (Arguments.none.louder (Group.allLogs groups)) >>= Arguments.accept with
  | ok args => exact absurd ((accepted_iff _ _ _).mp haccepted).1 hdeclared
  | error stop =>
    rw [stop_of_accepted haccepted]
    rfl

/-- **The order of the groups is irrelevant**, if every operand is taken anywhere or not all is as
    declared. Their words are accepted exactly if the items that they give are as declared, and are
    refused as bad usage otherwise. In any order of the groups they give the same arguments or are
    refused; so the run ends in the same way, with an exit code and its output and errors, or in
    the window with its digits, and has the same notes. -/
theorem run_perm (h : groups.Perm groups')
    (htaken : Declared (Group.allItems groups) → TakenAnywhere (Group.allItems groups)) :
    (∀ args, Arguments.ofWords (Group.line groups) = .ok args ↔
        Declared (Group.allItems groups) ∧
          args = .ofItems (Group.allLogs groups) (Group.allItems groups)) ∧
      (¬Declared (Group.allItems groups) → run (Group.line groups) = .done 2 "" "") ∧
      Arguments.ofWords (Group.line groups) = Arguments.ofWords (Group.line groups') ∧
      run (Group.line groups) = run (Group.line groups') ∧
      ∀ environment,
        logged environment (Group.line groups) = logged environment (Group.line groups') := by
  have hwords := ofWords_perm h htaken
  refine ⟨fun args => ?_, run_of_not_declared, hwords, ?_, fun environment => ?_⟩
  · rw [ofWords_line htaken, accepted_iff]
  · unfold run
    rw [hwords]
  · unfold logged
    rw [hwords]

/-- An operand that is there without an operation, in front of the expression that excuses it and
    behind it. Both begin with a hyphen. -/
theorem run_perm_excused :
    let groups : List Group := [
      ⟨["-v"], 1, [], .log (.letters .log)⟩,
      ⟨["-a", "-1"], 0, [.setting .a "-1"], .setting (.letters (.opens rfl)) (by decide)⟩,
      ⟨["--digits", "2"], 0, [.setting .digits "2"], .setting (.name .digits) rfl⟩,
      ⟨["-5/3"], 0, [.expression "-5/3"], .expression (by decide) (by decide)⟩]
    groups.Perm groups.reverse ∧ TakenAnywhere (Group.allItems groups) ∧
      Declared (Group.allItems groups) ∧
      run ["-v", "-a", "-1", "--digits", "2", "-5/3"] = .done 0 "-1.67\n" "" ∧
      run ["-5/3", "--digits", "2", "-a", "-1", "-v"] = .done 0 "-1.67\n" "" ∧
      logged none ["-v", "-a", "-1", "--digits", "2", "-5/3"] = [.evaluation "-5/3"] := by
  intro groups
  have hperm : groups.Perm groups.reverse := (List.reverse_perm groups).symm
  have htaken : TakenAnywhere (Group.allItems groups) := by
    intro _ setting value hitem _
    change Item.setting setting value ∈
      [.setting .a "-1", .setting .digits "2", .expression "-5/3"] at hitem
    simp only [List.mem_cons, Item.setting.injEq, reduceCtorEq, List.not_mem_nil, or_false] at hitem
    rcases hitem with ⟨rfl, rfl⟩ | ⟨rfl, rfl⟩ <;> decide
  obtain ⟨haccepted, -, -, hrun, hlogged⟩ := run_perm hperm fun _ => htaken
  have hdone : run ["-5/3", "--digits", "2", "-a", "-1", "-v"] = .done 0 "-1.67\n" "" := by
    decide +kernel
  have hnotes : logged none ["-5/3", "--digits", "2", "-a", "-1", "-v"] =
      [.evaluation "-5/3"] := by
    decide +kernel
  have hwords : Arguments.ofWords (Group.line groups) =
      .ok (.ofItems (Group.allLogs groups) (Group.allItems groups)) := by
    decide +kernel
  exact ⟨hperm, htaken, ((haccepted _).mp hwords).1, hrun.trans hdone, hdone,
    (hlogged none).trans hnotes⟩

/-- A value that begins with a hyphen and is no number is taken in front of the expression, but not
    behind it. -/
theorem not_run_perm :
    run ["-a", "-5e-3", "2+3"] = .done 0 "5\n" "" ∧
      run ["2+3", "-a", "-5e-3"] = .done 2 "" "" ∧
      ¬∀ groups groups' : List Group, groups.Perm groups' →
        run (Group.line groups) = run (Group.line groups') := by
  have hfront : run ["-a", "-5e-3", "2+3"] = .done 0 "5\n" "" := by
    decide +kernel
  have hbehind : run ["2+3", "-a", "-5e-3"] = .done 2 "" "" := by
    decide +kernel
  refine ⟨hfront, hbehind, fun h => ?_⟩
  let operand : Group :=
    ⟨["-a", "-5e-3"], 0, [.setting .a "-5e-3"], .setting (.letters (.opens rfl)) (by decide)⟩
  let sum : Group := ⟨["2+3"], 0, [.expression "2+3"], .expression (by decide) (by decide)⟩
  have hsame : run ["-a", "-5e-3", "2+3"] = run ["2+3", "-a", "-5e-3"] :=
    h [operand, sum] [sum, operand] (List.Perm.swap sum operand [])
  rw [hfront, hbehind] at hsame
  cases hsame

/-! ## 5. The exception -/

/-- Behind an expression the scan does not get past an item that has no place there. -/
theorem foldlM_line_refused (groups : List Group) {args : Arguments} (hgiven : args.given = true)
    (hrefuses : Refuses (Group.allItems groups)) :
    (Group.line groups).foldlM Scan.step (.between args) = .error .badUsage := by
  induction groups generalizing args with
  | nil =>
    obtain ⟨setting, value, hitem, -⟩ := hrefuses
    cases hitem
  | cons group groups ih =>
    obtain ⟨words, logs, items, together⟩ := group
    change Refuses (items ++ Group.allItems groups) at hrefuses
    show (words ++ Group.line groups).foldlM Scan.step (.between args) = _
    rw [List.foldlM_append]
    cases together with
    | log hword =>
      rw [List.foldlM_cons, Scan.step_option args hword nofun]
      exact ih hgiven hrefuses
    | @setting setting word value _ hword hvalue =>
      rw [List.foldlM_cons, Scan.step_option args hword nofun]
      show ([value].foldlM Scan.step ⟨args.louder logs, some setting, false⟩ >>= _) = _
      rw [List.foldlM_cons, Scan.step_awaiting, show (args.louder logs).given = true from hgiven]
      cases htaken : canBeValue true setting value with
      | false => rfl
      | true =>
        have hrest : Refuses (Group.allItems groups) := by
          obtain ⟨setting', value', hitem, hvalue'⟩ := hrefuses
          rcases List.mem_cons.mp hitem with hfirst | hitem
          · cases hfirst
            rw [htaken] at hvalue'
            cases hvalue'
          · exact ⟨setting', value', hitem, hvalue'⟩
        cases hset : (args.louder logs).set setting value with
        | error stop =>
          have hgive : (args.louder logs).give (.setting setting value) = .error stop := hset
          rw [stop_of_give hgive]
          rfl
        | ok args' => exact ih ((Arguments.given_set hset).trans hgiven) hrest
    | @expression word hoption hattached =>
      rw [List.foldlM_cons, Scan.step_refused hgiven hoption hattached]
      rfl

/-- An expression is a group of its own. -/
theorem exists_group_of_gives (h : Gives (Group.allItems groups) none) :
    ∃ group ∈ groups, ∃ word, group.words = [word] ∧ group.items = [.expression word] ∧
      isOption word = false ∧ isAttached word = false := by
  obtain ⟨item, hitem, hsubject⟩ := List.mem_map.mp h
  obtain ⟨group, hgroup, hitem⟩ := List.mem_flatMap.mp hitem
  refine ⟨group, hgroup, ?_⟩
  obtain ⟨words, logs, items, together⟩ := group
  cases together with
  | log hword => cases hitem
  | setting hword hvalue =>
    rw [List.mem_singleton.mp hitem] at hsubject
    cases hsubject
  | @expression word hoption hattached => exact ⟨word, rfl, rfl, hoption, hattached⟩

/-- In front of the expression every value is taken. -/
theorem ofWords_expression_last {group : Group} {word : String} (hwords : group.words = [word])
    (hitems : group.items = [.expression word]) (hoption : isOption word = false)
    (hattached : isAttached word = false) (hnone : ¬Gives (Group.allItems groups) none) :
    Arguments.ofWords (Group.line (groups ++ [group])) =
      ((Group.allItems (groups ++ [group])).foldlM Arguments.give
        (Arguments.none.louder (Group.allLogs groups)) >>= Arguments.accept) := by
  have hline : (Group.line groups).foldlM Scan.step (.between .none) =
      ((Group.allItems groups).foldlM Arguments.give
        (Arguments.none.louder (Group.allLogs groups))).map .between := by
    refine (foldlM_line groups .none).resolve_right ?_
    rintro ⟨-, hgives, -⟩
    exact hnone (hgives.resolve_left Bool.false_ne_true)
  have hall : (Group.line (groups ++ [group])).foldlM Scan.step (.between .none) =
      ((Group.allItems (groups ++ [group])).foldlM Arguments.give
        (Arguments.none.louder (Group.allLogs groups))).map .between := by
    unfold Group.line Group.allItems at hline ⊢
    rw [List.flatMap_append, List.flatMap_append, List.flatMap_singleton, List.flatMap_singleton,
      hwords, hitems, List.foldlM_append, List.foldlM_append, hline]
    cases (groups.flatMap Group.items).foldlM Arguments.give
        (Arguments.none.louder (Group.allLogs groups)) with
    | error stop => rfl
    | ok args =>
      show [word].foldlM Scan.step (.between args) = ([_].foldlM Arguments.give args).map _
      rw [foldlM_give_singleton, List.foldlM_cons,
        Scan.step_setExpression args hoption hattached]
      exact bind_pure _
  show ((Group.line (groups ++ [group])).foldlM Scan.step (.between .none) >>= Scan.finish) = _
  rw [hall, Scan.finish_map]

/-- Behind the expression a value is refused that has no place there. -/
theorem run_expression_first {group : Group} {word : String} (hwords : group.words = [word])
    (hoption : isOption word = false) (hrefuses : Refuses (Group.allItems groups)) :
    run (Group.line (group :: groups)) = .done 2 "" "" := by
  have hrefused : Arguments.ofWords (Group.line (group :: groups)) = .error .badUsage := by
    show ((group.words ++ Group.line groups).foldlM Scan.step (.between .none) >>= _) = _
    rw [hwords, List.singleton_append, List.foldlM_cons, Scan.step_expression rfl hoption]
    show ((Group.line groups).foldlM Scan.step (.between _) >>= _) = _
    rw [foldlM_line_refused groups rfl hrefuses]
    rfl
  unfold run
  rw [hrefused]
  rfl

theorem outcome_ne_badUsage (args : Arguments) : args.outcome ≠ .done 2 "" "" := by
  unfold Arguments.outcome
  split <;> simp

/-- **The exception is one wherever it occurs**: if all is as declared, but an operand is not taken
    behind the expression, then the groups have an order in which they end otherwise. -/
theorem exists_perm_run_ne (hdeclared : Declared (Group.allItems groups))
    (htaken : ¬TakenAnywhere (Group.allItems groups)) :
    ∃ groups', groups.Perm groups' ∧ run (Group.line groups) ≠ run (Group.line groups') := by
  unfold TakenAnywhere at htaken
  push Not at htaken
  obtain ⟨hexpression, setting, value, hitem, -, hvalue⟩ := htaken
  obtain ⟨group, hgroup, word, hwords, hitems, hoption, hattached⟩ :=
    exists_group_of_gives hexpression
  obtain ⟨front, behind, rfl⟩ := List.append_of_mem hgroup
  have hfirst : (front ++ group :: behind).Perm (group :: (front ++ behind)) := List.perm_middle
  have hlast : (front ++ group :: behind).Perm (front ++ behind ++ [group]) :=
    hfirst.trans (List.perm_append_singleton _ _).symm
  generalize front ++ behind = rest at hfirst hlast
  have haccepted := declared_perm (Group.allItems_perm hlast) hdeclared
  have hfirstItems : Group.allItems (group :: rest) = .expression word :: Group.allItems rest := by
    rw [Group.allItems, List.flatMap_cons, hitems]
    rfl
  have hperm := Group.allItems_perm hfirst
  rw [hfirstItems] at hperm
  have hnone : ¬Gives (Group.allItems rest) none :=
    (List.nodup_cons.mp ((hperm.map Item.subject?).nodup hdeclared.once)).1
  have hrefuses : Refuses (Group.allItems rest) :=
    ⟨setting, value, (List.mem_cons.mp (hperm.mem_iff.mp hitem)).resolve_left nofun,
      Bool.eq_false_iff.mpr hvalue⟩
  have hin : run (Group.line (rest ++ [group])) ≠ .done 2 "" "" := by
    unfold run
    rw [ofWords_expression_last hwords hitems hoption hattached hnone,
      (accepted_iff _ _ _).mpr ⟨haccepted, rfl⟩]
    exact outcome_ne_badUsage _
  have hout : run (Group.line (group :: rest)) = .done 2 "" "" :=
    run_expression_first hwords hoption hrefuses
  by_cases hsame : run (Group.line (front ++ group :: behind)) = .done 2 "" ""
  · exact ⟨_, hlast, fun h => hin (h.symm.trans hsame)⟩
  · exact ⟨_, hfirst, fun h => hsame (h.trans hout)⟩

end Calculator.CommandLine
