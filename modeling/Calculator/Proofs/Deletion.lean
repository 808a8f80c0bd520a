import Calculator.Proofs.Keypad
import Mathlib.Data.List.DropRight
import Mathlib.Logic.Function.Iterate

/-!
# Deleting what keys have written

Deleting takes back one key at a time: whatever the entry was, after a row of keys each deletion
leads to the entry that was there before the last key not yet taken back, without the spaces at its
end (`Window.entry_afterDeletes`). The unit that goes is told from the text alone, and no key can
make a text that is taken for another: a parenthesis that is pressed behind the name of a function
is set apart from it, so that only a function key writes the two together
(`Entry.deleteLast_insert`).

The spaces that go with a deletion were written by an operator before, and they are read as
nothing, but for one: behind a minus where an operand is due the space keeps a digit or the
point from making it a sign. So a key that is pressed and deleted again changes nothing in what the
entry means, unless it stood between such a minus and a digit or the point
(`Window.evaluate_corrected`); there it does (`Window.not_evaluate_corrected`).
-/

namespace Calculator

namespace Entry

/-! ## 1. Spaces at the end -/

theorem stripSpaces_concat (text : List Char) {c : Char} (hc : c ≠ ' ') :
    stripSpaces (text ++ [c]) = text ++ [c] :=
  List.rdropWhile_concat_neg _ _ _ (by simpa using hc)

theorem stripSpaces_append_space (text : List Char) :
    stripSpaces (text ++ [' ']) = stripSpaces text :=
  List.rdropWhile_concat_pos _ _ _ rfl

theorem stripSpaces_idem (text : List Char) :
    stripSpaces (stripSpaces text) = stripSpaces text :=
  List.rdropWhile_idempotent _ _

theorem stripSpaces_setApart (text : List Char) :
    stripSpaces (setApart text) = stripSpaces text := by
  unfold setApart
  split
  · exact stripSpaces_append_space text
  · rfl

theorem symbol_ne (o : Operator) : o.symbol ≠ ' ' ∧ o.symbol ≠ '(' := by
  cases o <;> decide

theorem digitChar_ne (d : Fin 10) : Nat.digitChar d ≠ ' ' ∧ Nat.digitChar d ≠ '(' := by
  revert d
  decide

/-- The text of a key is left when the space behind it goes. -/
theorem stripSpaces_append_spacedText (text : List Char) (k : Key) :
    stripSpaces (text ++ spacedText k) = text ++ keyText k := by
  cases k with
  | digit d => exact stripSpaces_concat text (digitChar_ne d).1
  | point => exact stripSpaces_concat text (by decide)
  | openParen => exact stripSpaces_concat text (by decide)
  | closeParen => exact stripSpaces_concat text (by decide)
  | function f =>
    show stripSpaces (text ++ (f.name.toList ++ ['('])) = text ++ (f.name.toList ++ ['('])
    rw [← List.append_assoc]
    exact stripSpaces_concat _ (by decide)
  | operator o =>
    show stripSpaces (text ++ ([o.symbol] ++ [' '])) = text ++ [o.symbol]
    rw [← List.append_assoc, stripSpaces_append_space]
    exact stripSpaces_concat text (symbol_ne o).1

/-- Spaces at the end do not matter to deleting. -/
theorem deleteLast_stripSpaces (text : List Char) :
    deleteLast (stripSpaces text) = deleteLast text := by
  unfold deleteLast
  rw [stripSpaces_idem]

/-! ## 2. The unit at the end -/

/-- No function motif ends in another. -/
theorem eq_of_callText_suffix {f g : Func} {text : List Char} (hf : callText f <:+ text)
    (hg : callText g <:+ text) : f = g := by
  have hmotif : ∀ f g : Func, callText f <:+ callText g → f = g := by
    intro f g
    cases f <;> cases g <;> decide
  rcases List.suffix_or_suffix_of_suffix hf hg with h | h
  · exact hmotif f g h
  · exact (hmotif g f h).symm

theorem lastUnit_of_suffix {f : Func} {text : List Char} (h : callText f <:+ text) :
    lastUnit text = (callText f).length := by
  have hfound : (Func.all.find? fun g => (callText g).isSuffixOf text) = some f := by
    cases hfind : Func.all.find? fun g => (callText g).isSuffixOf text with
    | none =>
      have hall : f ∈ Func.all := by
        cases f <;> decide
      exact absurd (List.isSuffixOf_iff_suffix.mpr h) (List.find?_eq_none.mp hfind f hall)
    | some g =>
      have hg : (callText g).isSuffixOf text = true :=
        List.find?_some (p := fun g => (callText g).isSuffixOf text) hfind
      rw [eq_of_callText_suffix h (List.isSuffixOf_iff_suffix.mp hg)]
  unfold lastUnit
  rw [hfound]

theorem lastUnit_of_forall {text : List Char} (h : ∀ f, ¬ callText f <:+ text) :
    lastUnit text = 1 := by
  have hnone : (Func.all.find? fun f => (callText f).isSuffixOf text) = none :=
    List.find?_eq_none.mpr fun f _ hsuffix => h f (List.isSuffixOf_iff_suffix.mp hsuffix)
  unfold lastUnit
  rw [hnone]

/-- A function motif ends in a parenthesis. -/
theorem not_callText_suffix (f : Func) (text : List Char) {c : Char} (hc : c ≠ '(') :
    ¬ callText f <:+ text ++ [c] := by
  rintro ⟨before, h⟩
  rw [callText, ← List.append_assoc] at h
  exact hc (List.append_singleton_inj.mp h).2.symm

/-- A parenthesis that is set apart makes no motif with what is before it. -/
theorem not_callText_suffix_setApart (f : Func) (text : List Char) :
    ¬ callText f <:+ setApart text ++ ['('] := by
  obtain ⟨start, c, hname, hc⟩ : ∃ start c, f.name.toList = start ++ [c] ∧ c.isAlpha = true := by
    cases f
    · exact ⟨['s', 'q', 'r'], 't', by decide, by decide⟩
    · exact ⟨['s', 'i'], 'n', by decide, by decide⟩
    · exact ⟨['c', 'o'], 's', by decide, by decide⟩
    · exact ⟨['t', 'a'], 'n', by decide, by decide⟩
    · exact ⟨['l', 'o'], 'g', by decide, by decide⟩
    · exact ⟨['l'], 'n', by decide, by decide⟩
  rintro ⟨before, h⟩
  rw [callText, hname, ← List.append_assoc, ← List.append_assoc] at h
  have hends : before ++ start ++ [c] = setApart text := (List.append_singleton_inj.mp h).1
  have hletter := Text.isLetter_of_isAlpha hc
  unfold setApart at hends
  split at hends
  · have hspace : c = ' ' := (List.append_singleton_inj.mp hends).2
    rw [hspace, Text.isLetter_space] at hletter
    cases hletter
  -- behind a name the parenthesis is set apart
  · rename_i hoperand
    rw [← hends, endsOperand, List.reverse_append] at hoperand
    simp [Text.isBlank_of_isLetter hletter, hletter] at hoperand

/-! ## 3. Deleting one key -/

/-- A unit that ends the text is deleted, and the spaces before it. -/
theorem deleteLast_append {text unit : List Char}
    (hspace : stripSpaces (text ++ unit) = text ++ unit)
    (hunit : lastUnit (text ++ unit) = unit.length) :
    deleteLast (text ++ unit) = stripSpaces text := by
  unfold deleteLast
  dsimp only
  rw [hspace, hunit, List.length_append, Nat.add_sub_cancel, List.take_left]

theorem deleteLast_concat {text : List Char} {c : Char} (hc : c ≠ ' ')
    (hmotif : ∀ f, ¬ callText f <:+ text ++ [c]) :
    deleteLast (text ++ [c]) = stripSpaces text :=
  deleteLast_append (stripSpaces_concat text hc) (lastUnit_of_forall hmotif)

/-- **Deleting takes a key back**, whatever it was pressed behind, and the spaces before it. -/
theorem deleteLast_insert (text : List Char) (k : Key) :
    deleteLast (insert text k) = stripSpaces text := by
  have hchar : ∀ {text c}, c ≠ ' ' ∧ c ≠ '(' → deleteLast (text ++ [c]) = stripSpaces text :=
    fun h => deleteLast_concat h.1 fun f => not_callText_suffix f _ h.2
  cases k with
  | digit d => exact hchar (digitChar_ne d)
  | point => exact hchar (by decide)
  | closeParen =>
    show deleteLast (stripSpaces text ++ [')']) = _
    rw [hchar (by decide), stripSpaces_idem]
  | openParen =>
    show deleteLast (setApart text ++ ['(']) = _
    rw [deleteLast_concat (by decide) fun f => not_callText_suffix_setApart f text,
      stripSpaces_setApart]
  | function f =>
    have hspace : stripSpaces (setApart text ++ callText f) = setApart text ++ callText f :=
      stripSpaces_append_spacedText _ (.function f)
    show deleteLast (setApart text ++ callText f) = _
    rw [deleteLast_append hspace (lastUnit_of_suffix (List.suffix_append _ _)),
      stripSpaces_setApart]
  | operator o =>
    have hbefore : stripSpaces (if (stripSpaces text).isEmpty then []
        else stripSpaces text ++ [' ']) = stripSpaces text := by
      split
      · rename_i hempty
        rw [List.isEmpty_iff.mp hempty]
        rfl
      · rw [stripSpaces_append_space, stripSpaces_idem]
    show deleteLast (_ ++ spacedText (.operator o)) = _
    rw [← deleteLast_stripSpaces, stripSpaces_append_spacedText]
    show deleteLast (_ ++ [o.symbol]) = _
    rw [hchar (symbol_ne o), hbefore]

/-! ## 4. Deleting a row of keys -/

/-- **As many deletions as keys lead back to where the keys began**, but for spaces. -/
theorem iterate_deleteLast_foldl (text : List Char) {keys : List Key} (h : keys ≠ []) :
    deleteLast^[keys.length] (keys.foldl insert text) = stripSpaces text := by
  induction keys generalizing text with
  | nil => exact absurd rfl h
  | cons k keys ih =>
    rw [List.length_cons, Function.iterate_succ_apply', List.foldl_cons]
    by_cases hkeys : keys = []
    · subst hkeys
      exact deleteLast_insert text k
    · rw [ih (insert text k) hkeys, deleteLast_stripSpaces, deleteLast_insert]

end Entry

namespace Window

theorem entry_delete (w : Window) : (w.step (.press .delete)).1.session.entry =
    String.ofList (Entry.deleteLast w.session.entry.toList) := rfl

theorem entry_after_deletes (w : Window) (k : Nat) :
    (w.after (List.replicate k (.press .delete))).session.entry =
      String.ofList (Entry.deleteLast^[k] w.session.entry.toList) := by
  induction k generalizing w with
  | zero => exact String.ofList_toList.symm
  | succ k ih =>
    rw [List.replicate_succ, after_cons, ih, entry_delete, String.toList_ofList,
      Function.iterate_succ_apply]

/-- **Deleting undoes the keys of the keypad one by one**: after any entry and any row of keys, the
    first deletions lead to the entry before the last keys, without the spaces at its end. -/
theorem entry_afterDeletes (w : Window) {keys : List Key} {k : Nat} (hpos : 0 < k)
    (hk : k ≤ keys.length) :
    ((w.afterKeys keys).after (List.replicate k (.press .delete))).session.entry =
      String.ofList (Entry.stripSpaces
        (w.afterKeys (keys.take (keys.length - k))).session.entry.toList) := by
  have hlength : (keys.drop (keys.length - k)).length = k := by
    rw [List.length_drop]
    omega
  have hne : keys.drop (keys.length - k) ≠ [] := by
    intro hnil
    rw [hnil] at hlength
    exact Nat.ne_of_lt hpos hlength
  have hundo := Entry.iterate_deleteLast_foldl
    ((keys.take (keys.length - k)).foldl Entry.insert w.session.entry.toList) hne
  rw [← List.foldl_append, List.take_append_drop, hlength] at hundo
  rw [entry_after_deletes, entry_afterKeys, entry_afterKeys, String.toList_ofList,
    String.toList_ofList, hundo]

/-- A name that was typed stays, though the parenthesis behind it is deleted. -/
theorem entry_afterDeletes_typedName :
    let w : Window := ((opening .fresh).step (.type "2  sin")).1
    let keys : List Key := [.openParen, .function .cos, .operator .mul, .function .sin]
    w.session.entry = "2  sin" ∧
      (w.afterKeys keys).session.entry = "2  sin (cos( * sin(" ∧ 3 ≤ keys.length ∧
      ((w.afterKeys keys).after (List.replicate 3 (.press .delete))).session.entry =
        String.ofList (Entry.stripSpaces (w.afterKeys (keys.take 1)).session.entry.toList) ∧
      (w.afterKeys (keys.take 1)).session.entry = "2  sin (" := by
  intro w keys
  have hthree : 3 ≤ keys.length := by
    decide
  exact ⟨rfl, by decide +kernel, hthree, entry_afterDeletes w (by decide) hthree,
    by decide +kernel⟩

end Window

namespace Entry

/-! ## 5. The space that goes with a deletion -/

/-- After a row of keys an operand is due. -/
def dueAfter : Bool → List Key → Bool
  | due, [] => due
  | _, k :: keys => dueAfter (leavesDue k) keys

/-- The last key is a minus that is pressed where an operand is due. -/
def endsInSign (keys : List Key) : Bool :=
  keys.getLast? == some (.operator .sub) && dueAfter true keys.dropLast

/-- **Without the spaces at its end the entry ends in the text of the last key**, and is read as
    that is behind the text before the key. -/
theorem exists_stripSpaces_insert {text : List Char} {k : Key} (hapart : Apart text k) :
    ∃ before, stripSpaces (insert text k) = before ++ keyText k ∧
      Lexer.start.run (before ++ keyText k) = Lexer.start.run (text ++ keyText k) := by
  cases hk : isNumeralKey k with
  | true =>
    have hinsert : insert text k = text ++ spacedText k := by
      cases k <;> first | rfl | cases hk
    exact ⟨text, by rw [hinsert, stripSpaces_append_spacedText], rfl⟩
  | false =>
    obtain ⟨before, hinsert, hbefore, htokens⟩ := exists_insert hk hapart
    refine ⟨before, by rw [hinsert, stripSpaces_append_spacedText], ?_⟩
    rw [(run_append_key hk hbefore).1, (run_append_key hk hapart).1, htokens]

theorem endsNoWord_append_keyText (text : List Char) (k : Key) :
    Text.EndsNoWord (text ++ keyText k) := by
  cases k with
  | digit d => exact Text.endsNoWord_concat _ (Text.isLetter_of_isNumeral (isNumeral_digitChar d))
  | point => exact Text.endsNoWord_concat _ (Text.isLetter_of_isNumeral rfl)
  | operator o =>
    have hsymbol := Text.separates_symbol o
    simp only [Text.separates, Bool.and_eq_true, Bool.not_eq_true'] at hsymbol
    exact Text.endsNoWord_concat _ hsymbol.2
  | openParen => exact Text.endsNoWord_concat _ Text.isLetter_openParen
  | closeParen => exact Text.endsNoWord_concat _ Text.isLetter_closeParen
  | function f =>
    show Text.EndsNoWord (text ++ (f.name.toList ++ ['(']))
    rw [← List.append_assoc]
    exact Text.endsNoWord_concat _ Text.isLetter_openParen

theorem endsNoWord_foldl (keys : List Key) : Text.EndsNoWord (keys.foldl insert []) := by
  rcases List.eq_nil_or_concat keys with rfl | ⟨keys, k, rfl⟩
  · exact Text.endsNoWord_nil
  · rw [List.concat_eq_append, List.foldl_concat]
    exact endsNoWord_insert _ k

end Entry

namespace Lexer

open Entry

/-! ## 6. A minus that no longer waits -/

theorem Between.settled {due : Bool} {lexer : Lexer} (h : Between due lexer) :
    Between due lexer.settled where
  noWord := h.noWord.settled
  operandDue_close := by
    rw [close_settled]
    exact h.operandDue_close

theorem opened_settled_ne_minus (lexer : Lexer) : lexer.settled.opened ≠ .minus := by
  obtain ⟨tokens, opened⟩ := lexer
  cases opened <;> exact nofun

/-- Only a digit or the point tells whether a minus still waits. -/
theorem tokensFrom_settled {lexer : Lexer} {keys : List Key}
    (h : lexer.opened = .minus → keys.head?.any isNumeralKey = false) :
    lexer.settled.tokensFrom (keys.flatMap spacedText) =
      lexer.tokensFrom (keys.flatMap spacedText) := by
  by_cases hminus : lexer.opened = .minus
  · cases keys with
    | nil => exact close_settled lexer
    | cons k keys =>
      have hnumeral : isNumeralKey k = false := h hminus
      have hword : lexer.NoWord := by
        intro letters hopened
        rw [hminus] at hopened
        cases hopened
      rw [List.flatMap_cons, tokensFrom_append, tokensFrom_append,
        (run_keyText hnumeral fun _ _ => hword.settled).2,
        (run_keyText hnumeral fun _ _ => hword).2, close_settled]
  · rw [settled_of_ne_minus hminus]

/-- What a row of keys leaves: whether an operand is due is told from the last one. -/
theorem between_run_keys {lexer next : Lexer} {due : Bool} {keys : List Key}
    (h : Between due lexer) (hminus : lexer.opened ≠ .minus)
    (hrun : lexer.run (keys.flatMap spacedText) = .ok next) :
    Between (dueAfter due keys) next ∧ next.opened ≠ .minus := by
  induction keys generalizing lexer due with
  | nil =>
    cases hrun
    exact ⟨h, hminus⟩
  | cons k keys ih =>
    obtain ⟨hspaced, hkey⟩ := run_key h fun _ => hminus
    rw [List.flatMap_cons, run_append, ← settled_of_ne_minus hminus, hspaced] at hrun
    cases hplain : lexer.run (keyText k) with
    | error e =>
      rw [hplain] at hrun
      cases hrun
    | ok middle =>
      rw [hplain] at hrun
      exact ih (hkey middle hplain).1.settled (opened_settled_ne_minus middle) hrun

end Lexer

namespace Entry

open Lexer

/-! ## 7. A key that is pressed and deleted again -/

/-- **What a deleted key leaves of the keys before it**: their texts without the spaces at the
    end. -/
theorem run_stripSpaces_foldl (before : List Key) :
    Text.EndsNoWord (stripSpaces (before.foldl insert [])) ∧
      start.run (stripSpaces (before.foldl insert [])) =
        start.run (stripSpaces (before.flatMap spacedText)) := by
  rcases List.eq_nil_or_concat before with rfl | ⟨keys, k, rfl⟩
  · exact ⟨Text.endsNoWord_nil, rfl⟩
  · have hkeys : start.run (keys.foldl insert []) = start.run (keys.flatMap spacedText) :=
      run_foldl_insert Text.endsNoWord_nil rfl keys
    obtain ⟨text, hstrip, hrun⟩ :=
      exists_stripSpaces_insert (k := k) fun _ _ => endsNoWord_foldl keys
    rw [List.concat_eq_append, List.foldl_concat, hstrip, hrun, List.flatMap_append,
      List.flatMap_singleton, stripSpaces_append_spacedText, run_append, hkeys, ← run_append]
    exact ⟨endsNoWord_append_keyText text k, rfl⟩

/-- From a text on that is read as another, the entry is read as the texts of the keys behind the
    other. -/
theorem evaluate_foldl_insert {text plain : List Char} (hlast : Text.EndsNoWord text)
    (h : start.run text = start.run plain) (keys : List Key) :
    evaluate (String.ofList (keys.foldl insert text)) =
      evaluate (String.ofList (plain ++ keys.flatMap spacedText)) := by
  refine evaluate_ofList_congr ?_
  unfold Lexer.tokensFrom
  rw [run_foldl_insert hlast h]

/-- The space behind the last key may go, unless that is a sign and a digit or the point comes
    next. -/
theorem tokensFrom_stripSpaces_append {before after : List Key}
    (h : endsInSign before = true → after.head?.any isNumeralKey = false) :
    start.tokensFrom (stripSpaces (before.flatMap spacedText) ++ after.flatMap spacedText) =
      start.tokensFrom ((before ++ after).flatMap spacedText) := by
  rw [List.flatMap_append]
  rcases List.eq_nil_or_concat before with rfl | ⟨keys, k, rfl⟩
  · rfl
  rw [List.concat_eq_append] at h ⊢
  rw [List.flatMap_append, List.flatMap_singleton, stripSpaces_append_spacedText,
    List.append_assoc, List.append_assoc, tokensFrom_append, tokensFrom_append]
  cases hrun : start.run (keys.flatMap spacedText) with
  | error e => rfl
  | ok lexer =>
    obtain ⟨hbetween, hminus⟩ := between_run_keys between_start nofun hrun
    obtain ⟨hspaced, hnext⟩ := run_key hbetween (k := k) fun _ => hminus
    rw [settled_of_ne_minus hminus] at hspaced
    show lexer.tokensFrom (keyText k ++ _) = lexer.tokensFrom (spacedText k ++ _)
    rw [tokensFrom_append, tokensFrom_append, hspaced]
    cases hkey : lexer.run (keyText k) with
    | error e => rfl
    | ok next =>
      refine (tokensFrom_settled fun hopened => h ?_).symm
      obtain ⟨hsub, hdue⟩ := (hnext next hkey).2 hopened
      simp [endsInSign, hsub, hdue]

end Entry

namespace Window

/-- The window after a row of keys, a key that is deleted again, and another row of keys. -/
def corrected (w : Window) (before : List Key) (slip : Key) (after : List Key) : Window :=
  ((w.afterKeys (before ++ [slip])).step (.press .delete)).1.afterKeys after

theorem entry_corrected (w : Window) (before : List Key) (slip : Key) (after : List Key) :
    (w.corrected before slip after).session.entry = String.ofList
      (after.foldl Entry.insert
        (Entry.stripSpaces (before.foldl Entry.insert w.session.entry.toList))) := by
  unfold corrected
  rw [entry_afterKeys, entry_delete, entry_afterKeys, String.toList_ofList, String.toList_ofList,
    List.foldl_concat, Entry.deleteLast_insert]

/-- **What a corrected slip leaves.** The entry has the value, or the error, of the texts of the
    keys with a space behind each operator but the one before the slip; so it has that of the entry
    without the slip, unless the slip came between a minus that was pressed where an operand is due
    and a digit or the point. -/
theorem evaluate_corrected {w : Window} (hentry : w.session.entry = "") (before : List Key)
    (slip : Key) (after : List Key) :
    evaluate (w.corrected before slip after).session.entry =
        evaluate (String.ofList (Entry.stripSpaces (before.flatMap Entry.spacedText) ++
          after.flatMap Entry.spacedText)) ∧
      ((Entry.endsInSign before = true → after.head?.any Entry.isNumeralKey = false) →
        evaluate (w.corrected before slip after).session.entry =
          evaluate (w.afterKeys (before ++ after)).session.entry) := by
  obtain ⟨hlast, hrun⟩ := Entry.run_stripSpaces_foldl before
  have hcorrected : evaluate (w.corrected before slip after).session.entry =
      evaluate (String.ofList (Entry.stripSpaces (before.flatMap Entry.spacedText) ++
        after.flatMap Entry.spacedText)) := by
    rw [entry_corrected, hentry]
    exact Entry.evaluate_foldl_insert hlast hrun after
  refine ⟨hcorrected, fun hsign => ?_⟩
  rw [hcorrected, entry_afterKeys, hentry,
    evaluate_ofList_congr (Entry.tokensFrom_stripSpaces_append hsign)]
  exact (Entry.evaluate_foldl_insert Text.endsNoWord_nil rfl _).symm

/-- The space that the slip takes along stood behind a minus between two numbers. -/
theorem evaluate_corrected_difference :
    let before : List Key := [.digit 8, .operator .sub]
    let w := opening .fresh
    w.session.entry = "" ∧ Entry.endsInSign before = false ∧
      (w.corrected before (.digit 5) [.digit 3]).session.entry = "8 -3" ∧
      evaluate (w.corrected before (.digit 5) [.digit 3]).session.entry =
        evaluate (w.afterKeys (before ++ [.digit 3])).session.entry ∧
      (w.afterKeys (before ++ [.digit 3])).session.entry = "8 - 3" ∧
      evaluate "8 - 3" = .ok (Number.ofMagnitude false 0x4014000000000000) := by
  intro before w
  have hentry : w.session.entry = "" := rfl
  have hsign : Entry.endsInSign before = false := by
    decide
  obtain ⟨-, hsame⟩ := evaluate_corrected hentry before (.digit 5) [.digit 3]
  exact ⟨hentry, hsign, by decide +kernel, hsame fun h => absurd h (by simp [hsign]),
    by decide +kernel, by decide +kernel⟩

/-- **A slip behind a minus key does leave a trace**: the keys of `2*-3` write `2 * - 3`, which is
    `2*0-3`, but with a slip before the last one they write `2 * -3`. -/
theorem not_evaluate_corrected :
    ¬ ∀ (w : Window) (before : List Key) (slip : Key) (after : List Key), w.session.entry = "" →
      evaluate (w.corrected before slip after).session.entry =
        evaluate (w.afterKeys (before ++ after)).session.entry := by
  intro h
  have hsame := h (opening .fresh) [.digit 2, .operator .mul, .operator .sub] (.digit 5) [.digit 3]
    rfl
  revert hsame
  decide +kernel

end Window

end Calculator
