import Calculator.Proofs.Deletion

/-!
# What deleting cuts off

Deleting takes whole characters off the end of the entry, whatever text that is: the spaces at the
end, one unit, and the spaces that then are at the end (`Entry.Cut`). The unit is a function with
its parenthesis where the text ends in one, and otherwise a single character, so something goes
as long as something is there (`Entry.Cut.length_lt`), and as many deletions as there are characters
leave nothing (`Entry.iterate_deleteLast_eq_nil`).
-/

namespace Calculator

namespace Entry

/-! ## 1. The cut -/

/-- The text, which has no space at its end, ends in the unit. -/
inductive EndsInUnit (text : List Char) : (unit : List Char) → Prop where
  | motif (f : Func) (hmotif : callText f <:+ text) : EndsInUnit text (callText f)
  | character (c : Char) (hlast : [c] <:+ text) (hspace : c ≠ ' ')
      (hmotif : ∀ f, ¬ callText f <:+ text) : EndsInUnit text [c]

/-- What is left of a text that is cut at its end: nothing of spaces alone, and otherwise what
    stands before its last unit and the spaces around that. -/
inductive Cut : (text left : List Char) → Prop where
  | spaces (n : Nat) : Cut (List.replicate n ' ') []
  | unit {left unit : List Char} (before behind : Nat)
      (hunit : EndsInUnit (left ++ List.replicate before ' ' ++ unit) unit) :
      Cut (left ++ List.replicate before ' ' ++ unit ++ List.replicate behind ' ') left

theorem EndsInUnit.ne_nil {text unit : List Char} (h : EndsInUnit text unit) : unit ≠ [] := by
  cases h with
  | motif f _ => exact List.append_ne_nil_of_right_ne_nil _ (List.cons_ne_nil _ _)
  | character c _ _ _ => exact List.cons_ne_nil _ _

theorem EndsInUnit.suffix {text unit : List Char} (h : EndsInUnit text unit) : unit <:+ text := by
  cases h with
  | motif f hmotif => exact hmotif
  | character c hlast _ _ => exact hlast

/-- As many characters go together as the unit has. -/
theorem EndsInUnit.lastUnit_eq {text unit : List Char} (h : EndsInUnit text unit) :
    lastUnit text = unit.length := by
  cases h with
  | motif f hmotif => exact lastUnit_of_suffix hmotif
  | character c _ _ hmotif => exact lastUnit_of_forall hmotif

namespace Cut

variable {text left : List Char}

theorem isPrefix (h : Cut text left) : left <+: text := by
  cases h with
  | spaces n => exact List.nil_prefix
  | unit before behind _ =>
    rw [List.append_assoc, List.append_assoc]
    exact List.prefix_append _ _

/-- **A cut takes something off**, if there is something. -/
theorem length_lt (h : Cut text left) (hne : text ≠ []) : left.length < text.length := by
  cases h with
  | spaces n => exact List.length_pos_iff.mpr hne
  | unit before behind hunit =>
    have hpos := List.length_pos_iff.mpr hunit.ne_nil
    simp only [List.length_append]
    omega

end Cut

/-! ## 2. Deleting -/

theorem exists_replicate_stripSpaces (text : List Char) :
    ∃ n, text = stripSpaces text ++ List.replicate n ' ' := by
  obtain ⟨spaces, hspaces, htext⟩ := Text.exists_stripped (· == ' ') text
  have hreplicate : spaces = List.replicate spaces.length ' ' :=
    List.eq_replicate_iff.mpr ⟨rfl, fun c hc => beq_iff_eq.mp (hspaces c hc)⟩
  exact ⟨spaces.length, hreplicate ▸ htext⟩

theorem getLast?_stripSpaces (text : List Char) : (stripSpaces text).getLast? ≠ some ' ' := by
  have hhead := List.head?_dropWhile_not (· == ' ') text.reverse
  rw [stripSpaces, List.getLast?_reverse]
  intro hspace
  rw [hspace] at hhead
  cases hhead

/-- Without spaces at its end a text ends in a unit, if there is anything. -/
theorem exists_endsInUnit {text : List Char} (hne : text ≠ []) (hspace : text.getLast? ≠ some ' ') :
    ∃ unit, EndsInUnit text unit := by
  by_cases hmotif : ∃ f, callText f <:+ text
  · obtain ⟨f, hf⟩ := hmotif
    exact ⟨callText f, .motif f hf⟩
  · have hlast := List.getLast?_eq_some_getLast hne
    refine ⟨[text.getLast hne], .character _ ?_ ?_ (not_exists.mp hmotif)⟩
    · exact ⟨text.dropLast, List.dropLast_append_getLast hne⟩
    · intro hc
      rw [hlast, hc] at hspace
      exact hspace rfl

/-- **Deleting is a cut at the end of the text.** -/
theorem cut_deleteLast (text : List Char) : Cut text (deleteLast text) := by
  obtain ⟨behind, htext⟩ := exists_replicate_stripSpaces text
  by_cases hnil : stripSpaces text = []
  · have hdelete : deleteLast text = [] := by
      rw [← deleteLast_stripSpaces, hnil]
      rfl
    rw [hdelete, htext, hnil]
    exact .spaces behind
  · obtain ⟨unit, hunit⟩ := exists_endsInUnit hnil (getLast?_stripSpaces text)
    obtain ⟨shown, hshown⟩ := hunit.suffix
    obtain ⟨before, hbefore⟩ := exists_replicate_stripSpaces shown
    have hdelete : deleteLast text = stripSpaces shown := by
      rw [← deleteLast_stripSpaces, ← hshown]
      refine deleteLast_append ?_ ?_
      · rw [hshown, stripSpaces_idem]
      · rw [hshown, hunit.lastUnit_eq]
    have hsplit : text = stripSpaces shown ++ List.replicate before ' ' ++ unit ++
        List.replicate behind ' ' := by
      rw [← hbefore, hshown]
      exact htext
    rw [← hshown, hbefore] at hunit
    rw [hdelete, hsplit]
    exact .unit before behind hunit

example : deleteLast "é *  sin(  ".toList = "é *".toList := by decide

theorem getLast?_deleteLast (text : List Char) : (deleteLast text).getLast? ≠ some ' ' :=
  getLast?_stripSpaces _

/-- **As many deletions as characters leave nothing.** -/
theorem iterate_deleteLast_eq_nil {n : Nat} {text : List Char} (h : text.length ≤ n) :
    deleteLast^[n] text = [] := by
  induction n generalizing text with
  | zero => exact List.length_eq_zero_iff.mp (Nat.le_zero.mp h)
  | succ n ih =>
    rw [Function.iterate_succ_apply]
    refine ih ?_
    by_cases hnil : text = []
    · rw [hnil, deleteLast_nil]
      exact Nat.zero_le n
    · have hlt := (cut_deleteLast text).length_lt hnil
      omega

end Entry

namespace Window

/-- **Deleting makes progress and cuts cleanly**, whatever the entry is: what it leaves is the
    entry cut at its end, by at least one character, and does not end in a space; and as many
    deletions as the entry has characters leave it empty. -/
theorem entry_delete_cut (w : Window) :
    let entry := w.session.entry.toList
    let left := (w.step (.press .delete)).1.session.entry.toList
    left <+: entry ∧ left.getLast? ≠ some ' ' ∧ (entry ≠ [] → left.length < entry.length) ∧
      Entry.Cut entry left ∧
      (w.after (List.replicate entry.length (.press .delete))).session.entry = "" := by
  intro entry left
  have hleft : left = Entry.deleteLast entry := by
    show (w.step (.press .delete)).1.session.entry.toList = _
    rw [entry_delete, String.toList_ofList]
  have hcut : Entry.Cut entry left := hleft ▸ Entry.cut_deleteLast entry
  refine ⟨hcut.isPrefix, ?_, hcut.length_lt, hcut, ?_⟩
  · rw [hleft]
    exact Entry.getLast?_deleteLast entry
  · rw [entry_after_deletes, Entry.iterate_deleteLast_eq_nil (Nat.le_refl _)]

end Window

end Calculator
