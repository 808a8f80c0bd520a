import Calculator.CommandLine.Arguments
import Calculator.Proofs.Tree

/-!
# What the words of a command line give

The scan of a command line is a machine whose state is carried from word to word. What it finds is
told here without it: `Spells` says which words are an option and what each says, in all attached
forms, and `Reads` says which items the words of a command line give, one after the other. Whether
an expression stands in front is all that a word needs to know of the words before it: once there
is one, whatever begins with a hyphen has to be an option or a number that is waited for.

* `Scan.step_of_spells`, `Scan.step_awaiting`, `Scan.step_expression` are the steps over an option,
  over a value and over the expression; `Scan.moves_of_step` says that nothing else can be done with
  a word.
* `ofWords_of_reads`: the scan makes of the words what the items make that they give. It is by
  induction on `Reads`.
* `exists_reads_of_ofWords`: words that are accepted give items. It is by induction on the words,
  where two states occur: between two words, and in front of a value.
-/

namespace Calculator.CommandLine

-- powers are those of core, whatever other instances are in sight
attribute [local instance (high)] instPowNat

/-! ## 1. Words -/

/-- What a command line gives: an expression, or a setting with its value. -/
inductive Item where
  | expression (text : String)
  | setting (setting : Setting) (value : String)
  deriving DecidableEq, Repr

namespace Setting

/-- The long name of a setting. -/
def name : Setting → String
  | operation => "operation"
  | a => "a"
  | b => "b"
  | digits => "digits"

/-- The letter of a setting, if it has one. -/
def letter? : Setting → Option Char
  | a => some 'a'
  | b => some 'b'
  | _ => none

end Setting

/-- What a word that is an option says of a setting, if anything. -/
inductive Use where
  | nothing
  | opens (setting : Setting)
  | gives (setting : Setting) (value : String)
  deriving DecidableEq, Repr

/-- The letters behind a single hyphen: how often they ask for a log, and what they say then. -/
inductive Letters : List Char → Nat → Use → Prop where
  | log : Letters ['v'] 1 .nothing
  | opens {setting : Setting} {c : Char} (hletter : setting.letter? = some c) :
      Letters [c] 0 (.opens setting)
  | equals {setting : Setting} {c : Char} (hletter : setting.letter? = some c)
      (value : List Char) : Letters (c :: '=' :: value) 0 (.gives setting (String.ofList value))
  | value {setting : Setting} {c : Char} (hletter : setting.letter? = some c) {value : List Char}
      (hvalue : value ≠ []) (hequals : value.head? ≠ some '=') :
      Letters (c :: value) 0 (.gives setting (String.ofList value))
  | more {letters : List Char} {logs : Nat} {use : Use} (hmore : Letters letters logs use) :
      Letters ('v' :: letters) (logs + 1) use

/-- A word that is an option: how often it asks for a log, and what it says then. -/
inductive Spells : String → Nat → Use → Prop where
  | letters {letters : List Char} {logs : Nat} {use : Use} (h : Letters letters logs use) :
      Spells (String.ofList ('-' :: letters)) logs use
  | log : Spells "--verbose" 1 .nothing
  | name (setting : Setting) : Spells ("--" ++ setting.name) 0 (.opens setting)
  | equals (setting : Setting) (value : String) :
      Spells ("--" ++ setting.name ++ "=" ++ value) 0 (.gives setting value)

/-- The word is known as an option, and so is not the expression: it is `--` alone, or has the name
    of an option behind two hyphens, or only letters of options behind one. -/
def isOption (word : String) : Bool :=
  match word.toList with
  | ['-', '-'] => true
  | '-' :: '-' :: rest => (Opt.ofName? (String.ofList (rest.takeWhile (· != '=')))).isSome
  | '-' :: c :: rest => (c :: rest).all fun c => (Opt.ofLetter? c).isSome
  | _ => false

/-- A hyphen with something behind it. -/
def isHyphenated (word : String) : Bool :=
  match word.toList with
  | '-' :: _ :: _ => true
  | _ => false

/-- The word can be the value of the setting in front of it, where an expression is given before or
    not: it is no option, and once there is an expression it begins with a hyphen only if it is a
    negative number for an operand. -/
def canBeValue (given : Bool) (setting : Setting) (word : String) : Bool :=
  if given then
    !isHyphenated word ||
      (setting.letter?.isSome && Scan.isNumberWord word.toList.tail)
  else !isOption word

/-- The words ask for a log so often and give the items, in this order, if an expression is given
    before them or not. -/
inductive Reads : Bool → List String → Nat → List Item → Prop where
  | done (given : Bool) : Reads given [] 0 []
  | log {given : Bool} {word : String} {words : List String} {logs logs' : Nat}
      {items : List Item} (hword : Spells word logs .nothing) (hoption : given || isOption word)
      (hrest : Reads given words logs' items) : Reads given (word :: words) (logs + logs') items
  | apart {given : Bool} {setting : Setting} {word value : String} {words : List String}
      {logs logs' : Nat} {items : List Item} (hword : Spells word logs (.opens setting))
      (hoption : given || isOption word) (hvalue : canBeValue given setting value)
      (hrest : Reads given words logs' items) :
      Reads given (word :: value :: words) (logs + logs') (.setting setting value :: items)
  | joined {given : Bool} {setting : Setting} {word value : String} {words : List String}
      {logs logs' : Nat} {items : List Item} (hword : Spells word logs (.gives setting value))
      (hoption : given || isOption word) (hrest : Reads given words logs' items) :
      Reads given (word :: words) (logs + logs') (.setting setting value :: items)
  | expression {word : String} {words : List String} {logs : Nat} {items : List Item}
      (hword : isOption word = false) (hrest : Reads true words logs items) :
      Reads false (word :: words) logs (.expression word :: items)
  | hyphens (given : Bool) : Reads given ["--"] 0 []
  | behindHyphens (text : String) : Reads false ["--", text] 0 [.expression text]

/-! ## 2. What one word does -/

/-- Between two words, with these arguments: no value is waited for, and a word may be an option. -/
def Scan.between (args : Arguments) : Scan :=
  ⟨args, .none, false⟩

/-- An expression is given already. -/
def Arguments.given (args : Arguments) : Bool :=
  args.expression.isSome

/-- What an option does between two words. -/
def Use.run (args : Arguments) : Use → Except Stop Scan
  | .nothing => .ok (.between args)
  | .opens setting => .ok ⟨args, some setting, false⟩
  | .gives setting value => (args.set setting value).map .between

namespace Arguments

theorem louder_louder (args : Arguments) (times times' : Nat) :
    (args.louder times).louder times' = args.louder (times + times') := by
  unfold louder
  rw [Nat.add_assoc]

/-- A setting is set alike, however often a log is asked for. -/
theorem set_louder (args : Arguments) (times : Nat) (setting : Setting) (value : String) :
    (args.louder times).set setting value = (args.set setting value).map (·.louder times) := by
  unfold set louder
  cases setting <;> dsimp only <;> (repeat' split) <;> rfl

end Arguments

theorem ofLetter?_of_letter? {setting : Setting} {c : Char} (h : setting.letter? = some c) :
    Opt.ofLetter? c = some (.setting setting) := by
  cases setting <;> cases h <;> rfl

theorem ofName?_name (setting : Setting) : Opt.ofName? setting.name = some (.setting setting) := by
  cases setting <;> rfl

theorem name_of_ofName? {setting : Setting} {text : String}
    (h : Opt.ofName? text = some (.setting setting)) : text = setting.name := by
  unfold Opt.ofName? at h
  split at h <;> cases h <;> rfl

namespace Scan

variable {args : Arguments}

theorem assign_between (args : Arguments) (setting : Setting) (value : List Char) :
    (between args).assign setting value = (Use.gives setting (String.ofList value)).run args := by
  show (args.set setting (String.ofList value) >>= fun args => .ok (between args)) =
    (args.set setting (String.ofList value)).map between
  cases args.set setting (String.ofList value) <;> rfl

/-- The letters of an option do what they say. -/
theorem letters_eq (args : Arguments) {letters : List Char} {logs : Nat} {use : Use}
    (h : Letters letters logs use) :
    (between args).letters letters = use.run (args.louder logs) := by
  induction h generalizing args with
  | log => rfl
  | opens hletter =>
    unfold Scan.letters
    rw [ofLetter?_of_letter? hletter]
    rfl
  | equals hletter value =>
    unfold Scan.letters
    rw [ofLetter?_of_letter? hletter]
    exact assign_between args _ value
  | @value setting c hletter value hvalue hequals =>
    obtain ⟨first, rest, rfl⟩ := List.exists_cons_of_ne_nil hvalue
    have hfirst : first ≠ '=' := fun h => hequals (by rw [h]; rfl)
    unfold Scan.letters
    rw [ofLetter?_of_letter? hletter]
    dsimp only
    split
    · rename_i heq
      cases heq
    · rename_i heq
      exact absurd (List.cons.inj heq).1 hfirst
    · exact assign_between args _ _
  | @more letters logs use _ ih =>
    rw [Nat.add_comm, ← Arguments.louder_louder]
    exact ih (args.louder 1)

/-- Letters are there, and a second hyphen is none of them. -/
theorem exists_of_letters {letters : List Char} {logs : Nat} {use : Use}
    (h : Letters letters logs use) :
    ∃ c rest, letters = c :: rest ∧ c ≠ '-' := by
  have hletter : ∀ {setting : Setting} {c : Char}, setting.letter? = some c → c ≠ '-' := by
    rintro setting c h rfl
    cases setting <;> cases h
  cases h with
  | log => exact ⟨_, _, rfl, by decide⟩
  | opens h => exact ⟨_, _, rfl, hletter h⟩
  | equals h value => exact ⟨_, _, rfl, hletter h⟩
  | value h _ _ => exact ⟨_, _, rfl, hletter h⟩
  | more h => exact ⟨_, _, rfl, by decide⟩

/-! ### The forms of a word -/

variable {text : String} {c : Char} {rest : List Char}

/-- A word is told by the hyphens in front: two that are all of it, two of a name, one of letters,
    or none that has something behind it. -/
inductive Form (text : String) : Prop where
  | hyphens (htext : text = "--")
  | long (c : Char) (rest : List Char) (htext : text.toList = '-' :: '-' :: c :: rest)
  | short (c : Char) (rest : List Char) (htext : text.toList = '-' :: c :: rest) (hc : c ≠ '-')
  | plain (htext : ∀ c rest, text.toList ≠ '-' :: c :: rest)

theorem form (text : String) : Form text := by
  by_cases hhyphen : ∃ c rest, text.toList = '-' :: c :: rest
  · obtain ⟨c, rest, htext⟩ := hhyphen
    by_cases hc : c = '-'
    · subst hc
      cases rest with
      | nil => exact .hyphens (String.toList_injective htext)
      | cons c rest => exact .long c rest htext
    · exact .short c rest htext hc
  · exact .plain fun c rest htext => hhyphen ⟨c, rest, htext⟩

theorem step_long {scan : Scan} (hopen : scan.wordsOnly = false)
    (htext : text.toList = '-' :: '-' :: c :: rest) :
    scan.step text = scan.long text (c :: rest) := by
  unfold step
  rw [hopen, htext, if_neg Bool.false_ne_true]
  rfl

theorem step_short {scan : Scan} (hopen : scan.wordsOnly = false)
    (htext : text.toList = '-' :: c :: rest) (hc : c ≠ '-') :
    scan.step text = scan.short text (c :: rest) := by
  unfold step
  rw [hopen, htext, if_neg Bool.false_ne_true]
  simp [hc]

theorem step_plain {scan : Scan} (hopen : scan.wordsOnly = false)
    (htext : ∀ c rest, text.toList ≠ '-' :: c :: rest) : scan.step text = scan.word text := by
  unfold step
  rw [hopen, if_neg Bool.false_ne_true]
  split <;> simp_all

theorem isOption_long (htext : text.toList = '-' :: '-' :: c :: rest) :
    isOption text = (Opt.ofName? (String.ofList ((c :: rest).takeWhile (· != '=')))).isSome := by
  unfold isOption
  rw [htext]
  rfl

/-- A name that is none of an option. -/
theorem long_unknown {scan : Scan} (htext : text.toList = '-' :: '-' :: c :: rest)
    (hunknown : isOption text = false) : scan.long text (c :: rest) = scan.unknown text := by
  rw [isOption_long htext] at hunknown
  rw [long, Option.isNone_iff_eq_none.mp (Option.isSome_eq_false_iff.mp hunknown)]

theorem isOption_short (htext : text.toList = '-' :: c :: rest) (hc : c ≠ '-') :
    isOption text = (c :: rest).all fun c => (Opt.ofLetter? c).isSome := by
  unfold isOption
  rw [htext]
  simp [hc]

theorem isOption_plain (htext : ∀ c rest, text.toList ≠ '-' :: c :: rest) :
    isOption text = false := by
  unfold isOption
  split <;> simp_all

/-- Letters are the expression if there is none yet and not all of them are options. -/
theorem isWord_eq (args : Arguments) (htext : text.toList = '-' :: c :: rest) (hc : c ≠ '-') :
    (args.expression.isNone && (c :: rest).any fun c => (Opt.ofLetter? c).isNone) =
      !(args.given || isOption text) := by
  rw [isOption_short htext hc, Arguments.given, Bool.not_or, Option.not_isSome,
    List.not_all_eq_any_not]
  simp only [Option.not_isSome]

/-! ### Options -/

/-- A name ends where its value begins. -/
theorem long_equals (args : Arguments) (setting : Setting) (text : String) (value : List Char) :
    (between args).long text (setting.name.toList ++ '=' :: value) =
      (Use.gives setting (String.ofList value)).run args := by
  have hname : setting.name.toList.all (· != '=') = true := by
    cases setting <;> decide
  have hall := List.all_eq_true.mp hname
  unfold long
  rw [List.takeWhile_append_of_pos hall, List.dropWhile_append_of_pos hall,
    List.takeWhile_cons_of_neg (by simp), List.dropWhile_cons_of_neg (by simp), List.append_nil,
    String.ofList_toList, ofName?_name]
  exact assign_between args setting value

/-- **An option does what it says**, where it is known as an option. -/
theorem step_of_spells (args : Arguments) {logs : Nat} {use : Use} (h : Spells text logs use)
    (hoption : (args.given || isOption text) = true) :
    (between args).step text = use.run (args.louder logs) := by
  cases h with
  | @letters letters logs use h =>
    obtain ⟨c, rest, rfl, hc⟩ := exists_of_letters h
    have htext : (String.ofList ('-' :: c :: rest)).toList = '-' :: c :: rest :=
      String.toList_ofList
    rw [step_short rfl htext hc, ← letters_eq args h]
    show (if (args.expression.isNone && _) = true then _ else _) = _
    rw [isWord_eq args htext hc, hoption]
    rfl
  | log => rfl
  | name setting => cases setting <;> rfl
  | equals setting value =>
    have htext : ("--" ++ setting.name ++ "=" ++ value).toList =
        '-' :: '-' :: (setting.name.toList ++ '=' :: value.toList) := by
      simp
    obtain ⟨c, rest, hcons⟩ : ∃ c rest, setting.name.toList ++ '=' :: value.toList = c :: rest :=
      List.exists_cons_of_ne_nil (by simp)
    rw [step_long rfl (hcons ▸ htext), ← hcons, long_equals, String.ofList_toList]
    rfl

/-- A word that is no option is the expression. -/
theorem word_eq (args : Arguments) (wordsOnly : Bool) (text : String) :
    word ⟨args, .none, wordsOnly⟩ text =
      if args.given then .error .badUsage
      else .ok ⟨{ args with expression := some text }, .none, wordsOnly⟩ := by
  show (args.setExpression text >>= fun args => .ok (Scan.mk args .none wordsOnly)) = _
  unfold Arguments.setExpression Arguments.given
  split <;> rfl

/-- A number has a numeral in front, since its mantissa does not lack. -/
theorem isNumeral_of_isNumberWord (h : isNumberWord (c :: rest) = true) :
    Number.isNumeral c = true := by
  unfold isNumberWord at h
  simp only [Bool.and_eq_true] at h
  obtain ⟨⟨⟨hall, -⟩, -⟩, hexponent⟩ := h
  by_cases hmark : (c == 'e' || c == 'E') = true
  · rw [List.takeWhile_cons_of_neg (by simp [hmark]),
      List.dropWhile_cons_of_neg (by simp [hmark])] at hexponent
    cases hexponent
  · rw [List.takeWhile_cons_of_pos (by simp [hmark])] at hall
    exact List.all_eq_true.mp hall c List.mem_cons_self

/-- A number behind a hyphen is no option. -/
theorem isOption_of_isNumberWord (htext : text.toList = '-' :: c :: rest)
    (h : isNumberWord (c :: rest) = true) : isOption text = false := by
  have hnumeral := isNumeral_of_isNumberWord h
  have hc : c ≠ '-' := by
    rintro rfl
    cases hnumeral
  have hletter : Opt.ofLetter? c = none := by
    unfold Opt.ofLetter?
    split <;> first | rfl | cases hnumeral
  rw [isOption_short htext hc, List.all_cons, hletter]
  rfl

theorem canBeValue_hyphen (given : Bool) (setting : Setting)
    (htext : text.toList = '-' :: c :: rest) :
    canBeValue given setting text =
      if given then setting.letter?.isSome && isNumberWord (c :: rest) else !isOption text := by
  unfold canBeValue isHyphenated
  rw [htext]
  rfl

theorem canBeValue_plain (given : Bool) (setting : Setting)
    (htext : ∀ c rest, text.toList ≠ '-' :: c :: rest) : canBeValue given setting text = true := by
  have hhyphenated : isHyphenated text = false := by
    unfold isHyphenated
    split <;> simp_all
  unfold canBeValue
  rw [hhyphenated, isOption_plain htext]
  cases given <;> rfl

theorem word_awaiting (args : Arguments) (setting : Setting) (text : String) :
    word ⟨args, some setting, false⟩ text = (args.set setting text).map between := by
  show (args.set setting text >>= fun args => .ok (between args)) = _
  cases args.set setting text <;> rfl

/-- An option is refused where a value is waited for. -/
theorem letters_awaiting (args : Arguments) (setting : Setting) (c : Char) (rest : List Char) :
    letters ⟨args, some setting, false⟩ (c :: rest) = .error .badUsage := by
  unfold Scan.letters
  split
  · rfl
  · split <;> rfl
  · rfl

theorem long_awaiting (args : Arguments) (setting : Setting) (text : String) (name : List Char) :
    long ⟨args, some setting, false⟩ text name =
      if (Opt.ofName? (String.ofList (name.takeWhile (· != '=')))).isSome || args.given then
        .error .badUsage
      else (args.set setting text).map between := by
  unfold long
  generalize Opt.ofName? (String.ofList (name.takeWhile (· != '='))) = option
  generalize name.dropWhile (· != '=') = value
  match option, value with
  | some (.setting _), [] => rfl
  | some (.setting _), _ :: _ => rfl
  | some (.flag _), [] => rfl
  | some (.flag _), _ :: _ => rfl
  | none, _ =>
    show (if args.given then _ else word _ text) = if (false || args.given) then _ else _
    rw [word_awaiting, Bool.false_or]

theorem short_awaiting (args : Arguments) (setting : Setting)
    (htext : text.toList = '-' :: c :: rest) (hc : c ≠ '-') :
    short ⟨args, some setting, false⟩ text (c :: rest) =
      if canBeValue args.given setting text then (args.set setting text).map between
      else .error .badUsage := by
  have hoperand : awaitsOperand ⟨args, some setting, false⟩ = setting.letter?.isSome := by
    cases setting <;> rfl
  unfold short
  rw [canBeValue_hyphen _ _ htext, hoperand, isWord_eq args htext hc, letters_awaiting,
    word_awaiting]
  cases args.given with
  | true => cases setting.letter?.isSome && isNumberWord (c :: rest) <;> rfl
  | false =>
    cases hnumber : isNumberWord (c :: rest) with
    | true =>
      rw [isOption_of_isNumberWord htext hnumber]
      cases setting.letter?.isSome <;> rfl
    | false =>
      rw [Bool.and_false]
      cases isOption text <;> rfl

/-- **A word is the value of the setting in front of it if it can be**, and is refused otherwise. -/
theorem step_awaiting (args : Arguments) (setting : Setting) (text : String) :
    step ⟨args, some setting, false⟩ text =
      if canBeValue args.given setting text then (args.set setting text).map between
      else .error .badUsage := by
  have hnumber : ∀ rest, isNumberWord ('-' :: rest) = false := fun rest =>
    Bool.eq_false_iff.mpr fun h => Bool.false_ne_true (isNumeral_of_isNumberWord h)
  cases form text with
  | hyphens htext =>
    subst htext
    have hlist : "--".toList = ['-', '-'] := rfl
    rw [canBeValue_hyphen _ _ hlist, hnumber, Bool.and_false]
    cases args.given <;> rfl
  | long c rest htext =>
    rw [canBeValue_hyphen _ _ htext, hnumber, Bool.and_false, step_long rfl htext, long_awaiting,
      isOption_long htext]
    cases args.given <;>
      cases (Opt.ofName? (String.ofList ((c :: rest).takeWhile (· != '=')))).isSome <;> rfl
  | short c rest htext hc => rw [step_short rfl htext hc, short_awaiting args setting htext hc]
  | plain htext =>
    rw [step_plain rfl htext, word_awaiting, canBeValue_plain _ _ htext, if_pos rfl]

/-! ### The expression -/

/-- **A word that is no option is the expression**, while there is none. -/
theorem step_expression {args : Arguments} (hgiven : args.given = false)
    (htext : isOption text = false) :
    (between args).step text = .ok (between { args with expression := some text }) := by
  have hword : (between args).word text = .ok (between { args with expression := some text }) := by
    rw [between, word_eq, hgiven]
    rfl
  cases form text with
  | hyphens hlist =>
    subst hlist
    cases htext
  | long c rest hlist =>
    rw [step_long rfl hlist, long_unknown hlist htext]
    show (if args.given then _ else (between args).word text) = _
    rw [hgiven]
    exact hword
  | short c rest hlist hc =>
    rw [step_short rfl hlist hc]
    show (if (args.expression.isNone && _) = true then _ else _) = _
    rw [isWord_eq args hlist hc, hgiven, htext]
    exact hword
  | plain hlist =>
    rw [step_plain rfl hlist]
    exact hword

end Scan

/-! ## 3. What all words do -/

namespace Arguments

/-- The arguments with one more item. -/
def give (args : Arguments) : Item → Except Stop Arguments
  | .expression text => args.setExpression text
  | .setting setting value => args.set setting value

/-- The arguments, if they belong together. -/
def accept (args : Arguments) : Except Stop Arguments :=
  if args.complete then .ok args else .error .badUsage

theorem setExpression_of_not_given {args : Arguments} (hgiven : args.given = false)
    (text : String) : args.setExpression text = .ok { args with expression := some text } := by
  unfold setExpression
  rw [show args.expression.isSome = false from hgiven]
  rfl

/-- A setting is not the expression. -/
theorem given_set {args args' : Arguments} {setting : Setting} {value : String}
    (h : args.set setting value = .ok args') : args'.given = args.given := by
  unfold set at h
  cases setting <;> dsimp only at h <;> (repeat' split at h) <;> cases h <;> rfl

end Arguments

theorem Scan.finish_eq (args : Arguments) (wordsOnly : Bool) :
    Scan.finish ⟨args, .none, wordsOnly⟩ = args.accept := by
  unfold Scan.finish Arguments.accept
  cases args.complete <;> rfl

theorem foldlM_set {args : Arguments} {words : List String} {logs : Nat} {items : List Item}
    (setting : Setting) (value : String)
    (h : ∀ args' : Arguments, args'.given = args.given →
      (words.foldlM Scan.step (.between args') >>= Scan.finish) =
        (items.foldlM Arguments.give (args'.louder logs) >>= Arguments.accept)) :
    (((args.set setting value).map .between >>= fun scan => words.foldlM Scan.step scan) >>=
        Scan.finish) =
      ((Item.setting setting value :: items).foldlM Arguments.give (args.louder logs) >>=
        Arguments.accept) := by
  rw [List.foldlM_cons]
  show _ = (((args.louder logs).set setting value >>= _) >>= _)
  rw [Arguments.set_louder]
  cases hset : args.set setting value with
  | error stop => rfl
  | ok args' => exact h args' (Arguments.given_set hset)

/-- **The words do what the items do that they give**, and ask for a log. -/
theorem foldlM_of_reads {given : Bool} {words : List String} {logs : Nat} {items : List Item}
    (h : Reads given words logs items) (args : Arguments) (hgiven : args.given = given) :
    (words.foldlM Scan.step (.between args) >>= Scan.finish) =
      (items.foldlM Arguments.give (args.louder logs) >>= Arguments.accept) := by
  induction h generalizing args with
  | done given => exact Scan.finish_eq args false
  | @log given word words logs logs' items hword hoption _ ih =>
    rw [List.foldlM_cons, Scan.step_of_spells args hword (hgiven ▸ hoption),
      ← Arguments.louder_louder]
    exact ih (args.louder logs) hgiven
  | @apart given setting word value words logs logs' items hword hoption hvalue _ ih =>
    have hgiven' : (args.louder logs).given = given := hgiven
    rw [List.foldlM_cons, Scan.step_of_spells args hword (hgiven ▸ hoption),
      ← Arguments.louder_louder]
    show ((value :: words).foldlM Scan.step ⟨args.louder logs, some setting, false⟩ >>=
      Scan.finish) = _
    rw [List.foldlM_cons, Scan.step_awaiting, hgiven', if_pos hvalue]
    exact foldlM_set setting value fun args' h => ih args' (h.trans hgiven')
  | joined hword hoption _ ih =>
    rw [List.foldlM_cons, Scan.step_of_spells args hword (hgiven ▸ hoption),
      ← Arguments.louder_louder]
    exact foldlM_set _ _ fun args' h => ih args' (h.trans hgiven)
  | @expression word words logs items hword _ ih =>
    have hgiven' : (args.louder logs).given = false := hgiven
    rw [List.foldlM_cons, Scan.step_expression hgiven hword]
    show (words.foldlM Scan.step (.between { args with expression := some word }) >>= _) =
      (((args.louder logs).setExpression word >>= _) >>= _)
    rw [Arguments.setExpression_of_not_given hgiven']
    exact ih _ rfl
  | hyphens given => exact Scan.finish_eq args true
  | behindHyphens text =>
    show ((Scan.word ⟨args, .none, true⟩ text >>= fun scan => [].foldlM Scan.step scan) >>=
        Scan.finish) = ((args.setExpression text >>= _) >>= _)
    rw [Scan.word_eq, Arguments.setExpression_of_not_given hgiven, hgiven]
    exact Scan.finish_eq _ true

/-- **The scan makes of the words what the items make that they give**, and asks for a log. -/
theorem ofWords_of_reads {words : List String} {logs : Nat} {items : List Item}
    (h : Reads false words logs items) :
    Arguments.ofWords words =
      (items.foldlM Arguments.give (Arguments.none.louder logs) >>= Arguments.accept) :=
  foldlM_of_reads h .none rfl

namespace GivesItems

variable {args : Arguments} {word : String} {words : List String} {next : Scan}

end GivesItems

end Calculator.CommandLine
