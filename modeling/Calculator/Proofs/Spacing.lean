import Calculator.Proofs.Pieces

/-!
# Spaces that do not matter

Blanks are dropped, so all that a gap between two texts can do is to keep them apart. Whether there
is anything to keep apart is seen from two characters, the last before the gap and the first after
it (`Text.adheres`): what the lexer has open behind a text is told by the last character of that
text (`Lexer.OpenedBy`), and only a character that goes on with it is read differently without the
gap. Everything else the lexer knows it knows from the complete tokens, which the gap leaves as they
are. Hence

* with any gap between them two texts are read one after the other (`Lexer.readApart`), and without
  one too if they do not adhere (`tokenize_gap`), down to the error they end in;
* the keypad, which puts spaces around what it writes and takes spaces away, does so where they do
  not matter (`Window.tokenize_press`). Only between a name at the end of the entry and that of a
  function it keeps apart what would run together.
-/

namespace Calculator

namespace Text

/-! ## 1. Characters that adhere -/

/-- Side by side the two characters are read together: they belong to one piece, or the first is a
    minus that may become the sign of the second. -/
def adheres (c d : Char) : Bool :=
  together c d || c == '-' && Number.isNumeral d

/-- In front of a character that separates nothing adheres. -/
theorem adheres_of_separates {d : Char} (hd : separates d = true) (c : Char) :
    adheres c d = false := by
  simp only [separates, Bool.and_eq_true, Bool.not_eq_true'] at hd
  simp [adheres, together, hd]

/-- At the seam of the two texts nothing adheres; so it is if one of them is empty. -/
def Separable (first second : List Char) : Prop :=
  ∀ c ∈ first.getLast?, ∀ d ∈ second.head?, adheres c d = false

end Text

namespace Lexer

/-! ## 2. Texts read apart -/

/-- A character that does not adhere goes on with nothing. -/
theorem OpenedBy.continued? {c d : Char} {opened : OpenToken} (h : OpenedBy c opened)
    (hcd : Text.adheres c d = false) : Lexer.continued? opened d = none := by
  simp only [Text.adheres, Text.together, Bool.or_eq_false_iff] at hcd
  cases opened with
  | nothing => rfl
  | minus =>
    cases (h : c = '-')
    simpa [Lexer.continued?] using hcd.2
  | literal negative run =>
    have hc : Number.isNumeral c = true := h
    simpa [Lexer.continued?, hc] using hcd.1.1
  | word letters =>
    have hc : Text.isLetter c = true := h
    simpa [Lexer.continued?, hc] using hcd.1.2

/-- The complete tokens of two texts, the second one read from the complete tokens of the first. -/
def readApart (first second : List Char) : Except EvalError (List Token) := do
  let tokens ← start.tokensFrom first
  tokensFrom ⟨tokens, .nothing⟩ second

/-- A gap keeps two texts apart, whichever blanks it is made of. -/
theorem tokensFrom_gap {blanks : List Char} (hne : blanks ≠ []) (hblanks : Text.Blanks blanks)
    (first second : List Char) :
    start.tokensFrom (first ++ (blanks ++ second)) = readApart first second := by
  obtain ⟨c, rest, rfl⟩ := List.exists_cons_of_ne_nil hne
  obtain ⟨hc, hrest⟩ := List.forall_mem_cons.mp hblanks
  rw [List.cons_append, tokensFrom_separates (Text.separates_of_isBlank hc)]
  unfold readApart
  refine congrArg _ (funext fun tokens => ?_)
  rw [begin_of_isBlank hc]
  exact tokensFrom_blanks_append hrest tokens second

/-- Texts that do not adhere are apart without a gap. -/
theorem tokensFrom_of_separable {first second : List Char} (h : Text.Separable first second) :
    start.tokensFrom (first ++ second) = readApart first second := by
  unfold readApart
  cases second with
  | nil =>
    rw [List.append_nil]
    cases start.tokensFrom first <;> rfl
  | cons d second =>
    rcases List.eq_nil_or_concat first with rfl | ⟨before, c, rfl⟩
    · rfl
    rw [List.concat_eq_append] at h ⊢
    have hcd : Text.adheres c d = false := h c (by simp) d rfl
    rw [tokensFrom_append]
    unfold tokensFrom
    cases hrun : start.run (before ++ [c]) with
    | error e => rfl
    | ok lexer =>
      show (lexer.run (d :: second) >>= close) = (lexer.close >>= _)
      rw [run_of_continued? ((openedBy_of_run hrun).continued? hcd)]
      cases lexer.close <;> rfl

end Lexer

/-- **Where two texts do not adhere, blanks between them do not matter**; and wherever blanks stand,
    it does not matter which ones, and how many. Tokens and errors alike are the same. -/
theorem tokenize_gap (first second : String) :
    (∀ blanks : String, Text.Blanks blanks.toList →
      Text.Separable first.toList second.toList →
      tokenize (first ++ blanks ++ second) = tokenize (first ++ second)) ∧
    ∀ blanks blanks' : String, Text.Blanks blanks.toList → Text.Blanks blanks'.toList →
      blanks ≠ "" → blanks' ≠ "" →
      tokenize (first ++ blanks ++ second) = tokenize (first ++ blanks' ++ second) := by
  have hgap : ∀ blanks : String, Text.Blanks blanks.toList → blanks ≠ "" →
      tokenize (first ++ blanks ++ second) =
        (Lexer.readApart first.toList second.toList).map List.reverse := by
    intro blanks hblanks hne
    have hnil : blanks.toList ≠ [] := fun h => hne (String.toList_eq_nil_iff.mp h)
    rw [tokenize_eq_tokensFrom, String.toList_append, String.toList_append, List.append_assoc,
      Lexer.tokensFrom_gap hnil hblanks]
  constructor
  · intro blanks hblanks hseparable
    by_cases hne : blanks = ""
    · rw [hne, String.append_empty]
    · rw [hgap blanks hblanks hne, tokenize_eq_tokensFrom, String.toList_append,
        Lexer.tokensFrom_of_separable hseparable]
  · intro blanks blanks' hblanks hblanks' hne hne'
    rw [hgap blanks hblanks hne, hgap blanks' hblanks' hne']

/-- A literal that is none is the same one with blanks behind it; and a minus that waits is kept
    from the digit by any blank. -/
theorem tokenize_gap_faults :
    (Text.Blanks "\u00a0 ".toList ∧ Text.Separable "sin1.2.".toList "-3".toList ∧
      tokenize "sin1.2.\u00a0 -3" = tokenize "sin1.2.-3") ∧
    (Text.Blanks " ".toList ∧ Text.Blanks "\t\u3000".toList ∧ " " ≠ "" ∧ "\t\u3000" ≠ "" ∧
      tokenize "2*- 3" = tokenize "2*-\t\u30003") :=
  have hblanks : Text.Blanks "\u00a0 ".toList := by decide
  have hseparable : Text.Separable "sin1.2.".toList "-3".toList := by
    rintro c - d ⟨⟩
    exact Text.adheres_of_separates (Text.separates_symbol .sub) c
  have hspace : Text.Blanks " ".toList := by decide
  have htab : Text.Blanks "\t\u3000".toList := by decide
  ⟨⟨hblanks, hseparable, (tokenize_gap "sin1.2." "-3").1 "\u00a0 " hblanks hseparable⟩,
    hspace, htab, by decide, by decide,
    (tokenize_gap "2*-" "3").2 " " "\t\u3000" hspace htab (by decide) (by decide)⟩

/-- A minus and a digit adhere: right behind it the digit has a sign. -/
example : ¬ Text.Separable "2*-".toList "3".toList ∧ tokenize "2*-3" ≠ tokenize "2*- 3" :=
  ⟨fun h => absurd (h '-' rfl '3' rfl) (by simp [Text.adheres, Number.isNumeral]),
    by decide +kernel⟩

namespace Entry

/-! ## 3. The spaces of the keypad -/

/-- The key writes the name of a function right behind a letter. -/
def joinsWord (text : List Char) : Key → Bool
  | .function _ => text.getLast?.any Text.isLetter
  | _ => false

theorem apart_of_joinsWord {text : List Char} {k : Key} (h : joinsWord text k = false) :
    Apart text k := by
  rintro f rfl c hc
  rw [joinsWord, Option.mem_def.mp hc] at h
  exact h

/-- Behind an operator the key leaves one space, behind nothing else. -/
theorem exists_spacedText (k : Key) :
    ∃ blanks, Text.Blanks blanks ∧ spacedText k = keyText k ++ blanks := by
  cases k with
  | operator o => exact ⟨[' '], by decide, rfl⟩
  | digit d => exact ⟨[], Text.blanks_nil, rfl⟩
  | point => exact ⟨[], Text.blanks_nil, rfl⟩
  | openParen => exact ⟨[], Text.blanks_nil, rfl⟩
  | closeParen => exact ⟨[], Text.blanks_nil, (List.append_nil _).symm⟩
  | function f => exact ⟨[], Text.blanks_nil, (List.append_nil _).symm⟩

/-- A text that ends in a letter ends an operand. -/
theorem endsOperand_concat_letter (before : List Char) {c : Char} (hc : Text.isLetter c = true) :
    endsOperand (before ++ [c]) = true := by
  simp [endsOperand, Text.isBlank_of_isLetter hc, hc]

/-- Between two names the key writes the space that they need. -/
theorem insert_of_joinsWord {text : List Char} {k : Key} (h : joinsWord text k = true) :
    insert text k = text ++ ' ' :: keyText k := by
  cases k with
  | function f =>
    rcases List.eq_nil_or_concat text with rfl | ⟨before, c, rfl⟩
    · cases h
    rw [List.concat_eq_append] at h ⊢
    have hc : Text.isLetter c = true := by
      simpa [joinsWord] using h
    show setApart (before ++ [c]) ++ callText f = _
    rw [setApart, if_pos (endsOperand_concat_letter before hc), List.append_assoc]
    rfl
  | digit d => cases h
  | point => cases h
  | operator o => cases h
  | openParen => cases h
  | closeParen => cases h

/-- **Behind any text a key is read as its own text is**, but for a space between two names. -/
theorem tokensFrom_insert (text : List Char) (k : Key) :
    Lexer.start.tokensFrom (insert text k) =
      Lexer.start.tokensFrom (text ++ (if joinsWord text k then [' '] else []) ++ keyText k) := by
  split
  · rename_i hjoins
    rw [insert_of_joinsWord hjoins, List.append_assoc]
    rfl
  · rename_i hjoins
    obtain ⟨blanks, hblanks, hspaced⟩ := exists_spacedText k
    have hapart := apart_of_joinsWord (Bool.eq_false_iff.mpr hjoins)
    unfold Lexer.tokensFrom
    rw [run_insert hapart, hspaced, List.append_nil]
    show Lexer.start.tokensFrom (text ++ (keyText k ++ blanks)) =
      Lexer.start.tokensFrom (text ++ keyText k)
    rw [← List.append_assoc, Lexer.tokensFrom_append_blanks hblanks]

end Entry

/-- **The spaces of the keypad do not matter to the lexer**, whatever the entry is and whichever key
    is pressed, but for the one that keeps a name in the entry and a function apart. -/
theorem Window.tokenize_press (w : Window) (k : Key) :
    tokenize (w.step (.press (.key k))).1.session.entry =
      tokenize (w.session.entry ++
        (if Entry.joinsWord w.session.entry.toList k then " " else "") ++
        String.ofList (Entry.keyText k)) := by
  have hentry : (w.step (.press (.key k))).1.session.entry =
      String.ofList (Entry.insert w.session.entry.toList k) := rfl
  rw [hentry, tokenize_eq_tokensFrom, tokenize_eq_tokensFrom, String.toList_ofList,
    Entry.tokensFrom_insert, String.toList_append, String.toList_append, String.toList_ofList]
  split <;> rfl

end Calculator
