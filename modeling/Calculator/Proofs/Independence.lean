import Calculator.Proofs.DirectPanel

/-!
# The two panels do not see each other

The calculator is used in two places: the entry with its result, and the direct panel. Each has a
part of the window to itself (`Window.expressionPart`, `Window.directPart`): what it shows, and what
its steps look at. Steps of the other place do not touch this part, and steps of its own need no
more than it. Of a run the steps that are hidden from a part can then be left out
(`Window.part_after_filter`), which for both parts together is `Window.panels_apart`.

Two things are shared. The decimals are shown in both places, so steps that can change them count
for the direct panel as well. The request for the keyboard is ended by every frame, also by that of
a direct step, and the return key evaluates only if it finds the request; so the return key alone
can tell whether the direct panel has been used.
-/

namespace Calculator

/-! ## 1. Steps by their place -/

namespace Step

/-- The step acts on the direct panel, or opens or closes a panel. -/
def onDirectPanel : Step → Bool
  | .setDirect _ | .editDirect .. | .choose _ => true
  | .press .compute | .press .workingPanel | .press .directPanel => true
  | _ => false

/-- The step is able to change the decimals. -/
def setsDigits : Step → Bool
  | .setDigits _ | .precision _ | .resetAll | .press .resetAll => true
  | _ => false

end Step

namespace Window

/-! ## 2. Steps that are hidden from a part -/

/-- **What is hidden from a part can be left out.** If the other steps leave the part alone, and the
    part tells what the steps that are kept make of it, then the kept steps make the same of it
    without the others. -/
theorem part_after_filter (part : Window → Window) {keep : Step → Bool} {steps : List Step}
    (hidden : ∀ s ∈ steps, keep s = false → ∀ w, part (w.step s).1 = part w)
    (seen : ∀ s ∈ steps, keep s → ∀ w, part (w.step s).1 = part ((part w).step s).1)
    {w w' : Window} (h : part w = part w') :
    part (w.after (steps.filter keep)) = part (w'.after steps) := by
  induction steps generalizing w w' with
  | nil => exact h
  | cons s rest ih =>
    have hrest := fun {v v' : Window} (hv : part v = part v') =>
      ih (fun s' hs' => hidden s' (List.mem_cons_of_mem _ hs'))
        (fun s' hs' => seen s' (List.mem_cons_of_mem _ hs')) hv
    cases hkeep : keep s with
    | false =>
      rw [List.filter_cons_of_neg (by simp [hkeep]), after_cons]
      exact hrest (h.trans (hidden s List.mem_cons_self hkeep w').symm)
    | true =>
      have hstep : part (w.step s).1 = part (w'.step s).1 := by
        rw [seen s List.mem_cons_self hkeep w, seen s List.mem_cons_self hkeep w', h]
      rw [List.filter_cons_of_pos hkeep, after_cons, after_cons]
      exact hrest hstep

end Window

/-! ## 3. The entry and its result -/

/-- The session without the direct panel and without a request for the keyboard. -/
def Session.withoutDirect (s : Session) : Session :=
  { s with direct := .fresh, focusEntry := false }

/-- An evaluation does not look at the direct panel. -/
theorem Session.withoutDirect_evaluate (s : Session) :
    s.evaluate.withoutDirect = s.withoutDirect.evaluate.withoutDirect := by
  have hentry : s.withoutDirect.entry = s.entry := rfl
  rw [evaluate_eq, evaluate_eq, hentry]
  cases outcome s.entry <;> rfl

namespace Window

/-- The part of the entry: the session without the direct panel. Whether a panel is open does not
    show in it. -/
def expressionPart (w : Window) : Window :=
  opening w.session.withoutDirect

section

-- an entry is compared as a whole: its text must not be opened into its characters
attribute [local irreducible] String.ofList

theorem expressionPart_of_onDirectPanel {s : Step} (h : s.onDirectPanel) (w : Window) :
    (w.step s).1.expressionPart = w.expressionPart := by
  cases s with
  | setDirect outcome => cases outcome <;> rfl
  | editDirect operation a b => rfl
  | choose operation =>
    unfold expressionPart
    rw [session_choose]
    split <;> rfl
  | press button =>
    cases button with
    | compute =>
      unfold expressionPart
      rw [session_compute, Session.computeDirect, Session.setDirect_eq]
      split <;> rfl
    | workingPanel => rfl
    | directPanel => rfl
    | _ => cases h
  | _ => cases h

/-- Of the other steps the return key alone needs more than this part. -/
theorem expressionPart_step {s : Step} (h : s.onDirectPanel = false) (henter : s ≠ .enter)
    (w : Window) : (w.step s).1.expressionPart = (w.expressionPart.step s).1.expressionPart := by
  cases s with
  | precision value =>
    have hdigits : w.expressionPart.session.digits = w.session.digits := rfl
    show opening (w.step (.precision value)).1.session.withoutDirect =
      opening (w.expressionPart.step (.precision value)).1.session.withoutDirect
    rw [session_precision, session_precision, hdigits]
    split <;> rfl
  | press button =>
    cases button with
    | evaluate => exact congrArg opening w.drawn.session.withoutDirect_evaluate
    | compute => cases h
    | workingPanel => cases h
    | directPanel => cases h
    | _ => rfl
  | setDirect outcome => cases h
  | editDirect operation a b => cases h
  | choose operation => cases h
  | enter => exact absurd rfl henter
  | _ => rfl

end

end Window

/-! ## 4. The direct panel -/

/-- A direct computation looks at its panel and at the decimals. -/
theorem Session.computeDirect_congr {s s' : Session} (hdirect : s.direct = s'.direct)
    (hdigits : s.digits = s'.digits) :
    s.computeDirect.direct = s'.computeDirect.direct ∧
      s.computeDirect.digits = s'.computeDirect.digits := by
  rw [computeDirect_eq, computeDirect_eq, hdirect]
  cases s'.direct.outcome with
  | ok v => exact ⟨by simp only [setDirect, hdirect, hdigits], hdigits⟩
  | error message => exact ⟨by simp only [setDirect, hdirect], hdigits⟩

namespace Window

/-- The part of the direct panel: the panel, whether it is open, and the decimals. -/
def directPart (w : Window) : Window :=
  ⟨{ Session.fresh with direct := w.session.direct, digits := w.session.digits }, false,
    w.directOpen⟩

theorem directPart_congr {w w' : Window} (hdirect : w.session.direct = w'.session.direct)
    (hdigits : w.session.digits = w'.session.digits) (hopen : w.directOpen = w'.directOpen) :
    w.directPart = w'.directPart := by
  unfold directPart
  rw [hdirect, hdigits, hopen]

section

-- an entry is compared as a whole: its text must not be opened into its characters
attribute [local irreducible] String.ofList

theorem directPart_of_hidden {s : Step} (hdirect : s.onDirectPanel = false)
    (hdigits : s.setsDigits = false) (w : Window) : (w.step s).1.directPart = w.directPart := by
  obtain ⟨-, hdigitsKept, hdirectKept⟩ := w.drawn.session.evaluate_kept
  cases s with
  | press button =>
    cases button with
    | resetAll => cases hdigits
    | evaluate => exact directPart_congr hdirectKept hdigitsKept rfl
    | compute => cases hdirect
    | workingPanel => cases hdirect
    | directPanel => cases hdirect
    | _ => rfl
  | enter =>
    refine directPart_congr ?_ ?_ rfl
    · rw [session_enter]
      split
      · exact hdirectKept
      · rfl
    · rw [session_enter]
      split
      · exact hdigitsKept
      · rfl
  | resetAll => cases hdigits
  | setDigits digits => cases hdigits
  | precision value => cases hdigits
  | setDirect outcome => cases hdirect
  | editDirect operation a b => cases hdirect
  | choose operation => cases hdirect
  | _ => rfl

/-- Steps of the direct panel, and those that can change the decimals, need no more than this
    part. -/
theorem directPart_step {s : Step} (h : (s.onDirectPanel || s.setsDigits) = true) (w : Window) :
    (w.step s).1.directPart = (w.directPart.step s).1.directPart := by
  cases s with
  | setDirect outcome => cases outcome <;> rfl
  | editDirect operation a b => rfl
  | choose operation =>
    obtain ⟨session, workingOpen, directOpen⟩ := w
    cases directOpen <;> rfl
  | press button =>
    cases button with
    | compute =>
      obtain ⟨session, workingOpen, directOpen⟩ := w
      cases directOpen with
      | false => rfl
      | true =>
        let drawn : Session := { session with focusEntry := false }
        let drawnPart : Session :=
          { Session.fresh with
            direct := session.direct, digits := session.digits, focusEntry := false }
        have hpanel : drawn.direct = drawnPart.direct := rfl
        obtain ⟨hdirect, hdigits⟩ := Session.computeDirect_congr hpanel rfl
        exact directPart_congr hdirect hdigits rfl
    | workingPanel => rfl
    | directPanel => rfl
    | resetAll => rfl
    | _ => cases h
  | precision value =>
    have hdigits : w.directPart.session.digits = w.session.digits := rfl
    refine directPart_congr ?_ ?_ rfl
    · rw [session_precision, session_precision, hdigits]
      split <;> rfl
    · rw [session_precision, session_precision, hdigits]
      split <;> rfl
  | resetAll => rfl
  | setDigits digits => rfl
  | _ => cases h

end

/-! ## 5. Runs -/

/-- **The entry and the direct panel do not see each other.** A run without the return key leaves
    the same entry, result, error, working and decimals if all steps of the direct panel are left
    out; and any run leaves the same direct panel if all other steps are left out but those that
    can change the decimals. -/
theorem panels_apart (w : Window) (steps : List Step) :
    (.enter ∉ steps →
      let s := (w.after steps).session
      let s' := (w.after (steps.filter fun s => !s.onDirectPanel)).session
      s'.entry = s.entry ∧ s'.value = s.value ∧ s'.result = s.result ∧ s'.error = s.error ∧
        s'.working = s.working ∧ s'.digits = s.digits) ∧
      (w.after (steps.filter fun s => s.onDirectPanel || s.setsDigits)).session.direct =
        (w.after steps).session.direct := by
  constructor
  · intro henter s s'
    have hpart : s'.withoutDirect = s.withoutDirect := by
      refine congrArg Window.session (part_after_filter expressionPart ?_ ?_ rfl)
      · intro s _ hs w
        exact expressionPart_of_onDirectPanel (by simpa using hs) w
      · intro s hmem hs w
        exact expressionPart_step (by simpa using hs) (fun h => henter (h ▸ hmem)) w
    obtain ⟨hentry, hvalue, hresult, herror, hworking, -, hdigits, -⟩ := Session.mk.inj hpart
    exact ⟨hentry, hvalue, hresult, herror, hworking, hdigits⟩
  · have hpart : (w.after (steps.filter fun s => s.onDirectPanel || s.setsDigits)).directPart =
        (w.after steps).directPart := by
      refine part_after_filter directPart ?_ ?_ rfl
      · intro s _ hs w
        obtain ⟨hdirect, hdigits⟩ := Bool.or_eq_false_iff.mp hs
        exact directPart_of_hidden hdirect hdigits w
      · intro s _ hs w
        exact directPart_step hs w
    exact congrArg (fun w => w.session.direct) hpart

/-- A third in the direct panel and an eighth in the entry, each without the other. -/
theorem panels_apart_third_and_eighth :
    let w := opening .fresh
    let direct : List Step :=
      [.press .directPanel, .editDirect (some .divide)
          (some (Number.ofMagnitude false 0x3FF0000000000000))
          (some (Number.ofMagnitude false 0x4008000000000000)),
        .press .compute]
    let steps : List Step := [.type "1/8", .press .evaluate] ++ direct ++ [.precision 2]
    .enter ∉ steps ∧
      (w.after [.type "1/8", .press .evaluate, .precision 2]).session.result =
        (w.after steps).session.result ∧
      (w.after steps).session.result = "0.12" ∧
      (w.after (direct ++ [.precision 2])).session.direct = (w.after steps).session.direct ∧
      (w.after steps).session.direct.result = "0.333333333333" := by
  intro w direct steps
  have henter : .enter ∉ steps := by
    simp [steps, direct]
  obtain ⟨hexpression, hdirect⟩ := panels_apart w steps
  obtain ⟨-, -, hresult, -⟩ := hexpression henter
  exact ⟨henter, hresult, by decide +kernel, hdirect, by decide +kernel⟩

end Window

end Calculator
