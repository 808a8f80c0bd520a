import Calculator.Proofs.Coherence
import Calculator.Proofs.History

/-!
# The direct panel and the precision

The result of the entry is kept as a value beside its text, so that new decimals can write it anew.
Of a direct operation the text alone is kept. So what the direct panel shows is told by the latest
direct computation since AC, with the decimals of the moment at which it was made
(`Window.direct_result_after_opening`); these are the decimals of now only if the precision has not
been changed in between, and `Window.not_direct_result_current` is a run in which it has.
-/

namespace Calculator

/-! ## 1. Direct computations -/

/-- What the operation of the panel comes to: its value, or the message that is shown instead. -/
def DirectPanel.outcome (panel : DirectPanel) : Except String Float :=
  (panel.operation.compute panel.a
    (if panel.operation.isBinary then some panel.b else none)).mapError EvalError.message

theorem Session.computeDirect_eq (s : Session) :
    s.computeDirect = s.setDirect s.direct.outcome := rfl

/-- A direct computation: what it came to, and the decimals of its moment. -/
structure Computation where
  digits : Nat
  outcome : Except String Float
  deriving DecidableEq

namespace Moment

/-- The step resets everything: AC. -/
def resets (m : Moment) : Bool :=
  match m.step with
  | .press .resetAll => true
  | _ => false

/-- The direct computation that the step makes: `Calculer`, while its panel is open. -/
def computation? (m : Moment) : Option Computation :=
  match m.step with
  | .press .compute =>
    if m.window.directOpen then
      some ⟨m.window.session.digits, m.window.session.direct.outcome⟩
    else none
  | _ => none

end Moment

/-- The direct computations of a run since everything was last reset. -/
def Window.computations (w : Window) (steps : List Step) : List Computation :=
  w.notes Moment.resets Moment.computation? steps

/-! ## 2. What the panel shows -/

/-- Two panels show the same, whatever stands in their fields. -/
structure DirectPanel.SameOutcome (panel panel' : DirectPanel) : Prop where
  result : panel.result = panel'.result
  error : panel.error = panel'.error

namespace Session

/-- The direct panel shows what the latest computation came to, with the decimals of its moment. -/
structure ShowsDirect (s : Session) (computations : List Computation) : Prop where
  result : s.direct.result =
    match computations.getLast? with
    | some ⟨digits, .ok v⟩ => Number.display digits v
    | _ => ""
  error : s.direct.error =
    match computations.getLast? with
    | some ⟨_, .error message⟩ => message
    | _ => ""

namespace ShowsDirect

variable {s : Session} {computations : List Computation}

theorem start (digits : Nat) : (withDigits digits).ShowsDirect [] where
  result := rfl
  error := rfl

theorem resetAll (s : Session) : s.resetAll.ShowsDirect [] :=
  start Number.defaultDigits

/-- The latest computation alone decides. -/
theorem computeDirect (s : Session) (computations : List Computation) :
    s.computeDirect.ShowsDirect (computations ++ [⟨s.digits, s.direct.outcome⟩]) := by
  rw [computeDirect_eq]
  cases s.direct.outcome with
  | ok v => exact ⟨by rw [List.getLast?_concat]; rfl, by rw [List.getLast?_concat]; rfl⟩
  | error message => exact ⟨by rw [List.getLast?_concat]; rfl, by rw [List.getLast?_concat]; rfl⟩

theorem kept {s' : Session} (h : s.ShowsDirect computations)
    (hsame : s'.direct.SameOutcome s.direct) : s'.ShowsDirect computations where
  result := hsame.result.trans h.result
  error := hsame.error.trans h.error

end ShowsDirect

end Session

namespace Moment

variable {m : Moment}

theorem showsDirect_of_resets (h : m.resets) : m.next.session.ShowsDirect [] := by
  obtain ⟨w, step⟩ := m
  cases step with
  | press button =>
    cases button with
    | resetAll => exact Session.ShowsDirect.resetAll _
    | _ => cases h
  | _ => cases h

theorem showsDirect_of_computation {c : Computation} (h : m.computation? = some c)
    (computations : List Computation) : m.next.session.ShowsDirect (computations ++ [c]) := by
  obtain ⟨w, step⟩ := m
  cases step with
  | press button =>
    cases button with
    | compute =>
      have hcomputation : (if w.directOpen then
          some (⟨w.session.digits, w.session.direct.outcome⟩ : Computation) else none) = some c := h
      show Session.ShowsDirect (w.step (.press .compute)).1.session _
      rw [Window.session_compute]
      split at hcomputation
      · rename_i hopen
        rw [if_pos hopen, ← Option.some.inj hcomputation]
        exact Session.ShowsDirect.computeDirect w.drawn.session computations
      · cases hcomputation
    | _ => cases h
  | _ => cases h

section

-- an entry is compared as a whole: its text must not be opened into its characters
attribute [local irreducible] String.ofList

/-- A step of a user that neither resets nor computes leaves what the panel shows alone. -/
theorem sameOutcome_of_neither (huser : m.step.byUser) (hresets : m.resets = false)
    (hcomputation : m.computation? = none) :
    m.next.session.direct.SameOutcome m.window.session.direct := by
  obtain ⟨w, step⟩ := m
  cases step with
  | press button =>
    cases button with
    | resetAll => cases hresets
    | evaluate =>
      show DirectPanel.SameOutcome w.drawn.session.evaluate.direct _
      rw [w.drawn.session.evaluate_kept.2.2]
      exact ⟨rfl, rfl⟩
    | compute =>
      have hclosed : (if w.directOpen then
          some (⟨w.session.digits, w.session.direct.outcome⟩ : Computation) else none) = none :=
        hcomputation
      show DirectPanel.SameOutcome (w.step (.press .compute)).1.session.direct _
      rw [Window.session_compute]
      split at hclosed
      · cases hclosed
      · rename_i hopen
        rw [if_neg hopen]
        exact ⟨rfl, rfl⟩
    | _ => exact ⟨rfl, rfl⟩
  | choose operation =>
    show DirectPanel.SameOutcome (w.step (.choose operation)).1.session.direct _
    rw [Window.session_choose]
    split <;> exact ⟨rfl, rfl⟩
  | precision value =>
    show DirectPanel.SameOutcome (w.step (.precision value)).1.session.direct _
    rw [Window.session_precision]
    split <;> exact ⟨rfl, rfl⟩
  | enter =>
    show DirectPanel.SameOutcome (w.step .enter).1.session.direct _
    rw [Window.session_enter]
    split
    · rw [w.drawn.session.evaluate_kept.2.2]
      exact ⟨rfl, rfl⟩
    · exact ⟨rfl, rfl⟩
  | type text => exact ⟨rfl, rfl⟩
  | editDirect operation a b => exact ⟨rfl, rfl⟩
  | escape => exact ⟨rfl, rfl⟩
  | view => exact ⟨rfl, rfl⟩
  | _ => cases huser

end

/-- What a step of a user does to the panel is told by the computation it makes, if any. -/
theorem showsDirect_next {computations : List Computation} (huser : m.step.byUser)
    (h : m.window.session.ShowsDirect computations) :
    m.next.session.ShowsDirect
      (if m.resets then [] else computations ++ m.computation?.toList) := by
  cases hresets : m.resets with
  | true => exact showsDirect_of_resets hresets
  | false =>
    cases hcomputation : m.computation? with
    | some c => exact showsDirect_of_computation hcomputation computations
    | none =>
      show m.next.session.ShowsDirect (computations ++ [])
      rw [List.append_nil]
      exact h.kept (sameOutcome_of_neither huser hresets hcomputation)

end Moment

/-! ## 3. Runs -/

namespace Window

/-- **What the direct panel shows has the decimals of its moment.** After every run of a user's
    steps a result in the direct panel is the value of the latest direct computation, which has
    succeeded, with the decimals of the moment at which it was made; so it has the decimals of now
    if these are the same. The result of the entry always has the decimals of now. -/
theorem direct_result_after_opening (digits : Nat) {steps : List Step}
    (huser : ∀ s ∈ steps, s.byUser) :
    let start := opening (.withDigits digits)
    let s := (start.after steps).session
    (s.direct.result ≠ "" →
      ∃ c v, (start.computations steps).getLast? = some c ∧ c.outcome = .ok v ∧
        s.direct.result = Number.display c.digits v ∧
        (c.digits = s.digits → s.direct.result = Number.display s.digits v)) ∧
      ∀ v, s.value = some v → s.result = Number.display s.digits v := by
  intro start s
  have hshows : s.ShowsDirect (start.computations steps) :=
    notes_induction Moment.resets Moment.computation? (R := fun w => w.session.ShowsDirect)
      (fun _ _ hstep h => Moment.showsDirect_next hstep h) (Session.ShowsDirect.start digits) huser
  have hcoherent : s.Coherent :=
    after_induction (P := fun w => w.session.Coherent) (fun _ step h => coherent_step h step)
      (Session.Coherent.start digits) steps
  refine ⟨fun hresult => ?_, hcoherent.result_of_some⟩
  have htext := hshows.result
  split at htext
  · rename_i d v hlast
    exact ⟨⟨d, .ok v⟩, v, hlast, rfl, htext, fun hdigits => hdigits ▸ htext⟩
  · exact absurd htext hresult

/-- A third with four decimals, after the precision was changed and changed back. -/
theorem direct_result_after_precision_restored :
    let start := opening (.withDigits 4)
    let one := Number.ofMagnitude false 0x3FF0000000000000
    let three := Number.ofMagnitude false 0x4008000000000000
    let third := Number.ofMagnitude false 0x3FD5555555555555
    let steps : List Step :=
      [.press .directPanel, .editDirect (some .divide) (some one) (some three), .press .compute,
        .precision 2, .precision 4]
    (∀ s ∈ steps, s.byUser) ∧
      (start.computations steps).getLast? = some ⟨4, .ok third⟩ ∧
      (start.after steps).session.digits = 4 ∧
      (start.after steps).session.direct.result = Number.display 4 third := by
  intro start one three third steps
  have huser : ∀ s ∈ steps, s.byUser := by
    decide
  have hlast : (start.computations steps).getLast? = some ⟨4, .ok third⟩ := by
    decide +kernel
  have hdigits : (start.after steps).session.digits = 4 := by
    decide +kernel
  obtain ⟨hresult, -⟩ := direct_result_after_opening 4 huser
  obtain ⟨c, v, hc, hv, -, hcurrent⟩ := hresult (by decide +kernel)
  rw [hlast] at hc
  obtain rfl := Option.some.inj hc
  obtain rfl : third = v := Except.ok.inj hv
  rw [hdigits] at hcurrent
  exact ⟨huser, hlast, hdigits, hcurrent rfl⟩

/-- **The decimals of the direct panel can be those of the past**: a third that was computed with
    twelve decimals stays as it is when two are asked for. -/
theorem not_direct_result_current :
    ¬ ∀ (digits : Nat) (steps : List Step), (∀ s ∈ steps, s.byUser) →
      let start := opening (.withDigits digits)
      let s := (start.after steps).session
      s.direct.result ≠ "" →
        ∃ c v, (start.computations steps).getLast? = some c ∧ c.outcome = .ok v ∧
          s.direct.result = Number.display s.digits v := by
  intro h
  let one := Number.ofMagnitude false 0x3FF0000000000000
  let three := Number.ofMagnitude false 0x4008000000000000
  let steps : List Step :=
    [.press .directPanel, .editDirect (some .divide) (some one) (some three), .press .compute,
      .precision 2]
  obtain ⟨c, v, hlast, hv, hresult⟩ := h 12 steps (by decide) (by decide +kernel)
  have hthird : ((opening (.withDigits 12)).computations steps).getLast? =
      some ⟨12, .ok (Number.ofMagnitude false 0x3FD5555555555555)⟩ := by
    decide +kernel
  rw [hthird] at hlast
  obtain rfl := Option.some.inj hlast
  obtain rfl := Except.ok.inj hv
  revert hresult
  decide +kernel

end Window

end Calculator
