import Calculator.Session.Window
import Mathlib.Data.List.Forall2

/-!
# The return key on the keypad

The return key evaluates only if the keyboard has been asked for, and it asks for it again only if
it evaluates. Whoever works on the keypad does not notice: every button there asks for the keyboard,
whatever comes of it, and typing leaves the request as it is (`Window.focusEntry_step`). So the
request stands before every step, and the return key does what `=` does
(`Window.answers_evaluateForEnter`).
-/

namespace Calculator

namespace Step

/-- The step is one of the keypad: text is typed, or a button of the keypad, the return key, `=`,
    DEL or one of the clearing buttons is pressed. -/
def onKeypad : Step → Bool
  | .type _ | .enter => true
  | .press (.key _) | .press .clearEntry | .press .clearResults | .press .resetAll
  | .press .delete | .press .evaluate => true
  | _ => false

/-- The second step is the first, or `=` in the place of the return key. -/
inductive EvaluateForEnter : Step → Step → Prop where
  | same (s : Step) : EvaluateForEnter s s
  | replaced : EvaluateForEnter .enter (.press .evaluate)

end Step

theorem Session.focusEntry_evaluate (s : Session) : s.evaluate.focusEntry = true := by
  unfold evaluate
  dsimp only
  split
  · rfl
  · split <;> rfl

namespace Window

variable {w : Window}

/-- **Every step of the keypad leaves the keyboard asked for**, an evaluation that fails and a DEL
    that finds nothing as well. -/
theorem focusEntry_step {s : Step} (hkeypad : s.onKeypad) (h : w.session.focusEntry = true) :
    (w.step s).1.session.focusEntry = true := by
  cases s with
  | type text => exact h
  | enter =>
    rw [session_enter, if_pos h]
    exact w.drawn.session.focusEntry_evaluate
  | press button =>
    cases button with
    | evaluate => exact w.drawn.session.focusEntry_evaluate
    | workingPanel => cases hkeypad
    | directPanel => cases hkeypad
    | compute => cases hkeypad
    | _ => rfl
  | _ => cases hkeypad

/-- With the keyboard asked for, the return key is `=`. -/
theorem step_of_evaluateForEnter {s s' : Step} (hs : s.EvaluateForEnter s')
    (h : w.session.focusEntry = true) : w.step s' = w.step s := by
  cases hs with
  | same => rfl
  | replaced =>
    show w.drawn.update Session.evaluate =
      w.drawn.update fun s => if w.session.focusEntry then s.evaluate else s
    simp only [h, if_true]

/-- The same holds along a run, from every window that asks for the keyboard. -/
theorem run_of_evaluateForEnter {steps steps' : List Step}
    (hreplaced : List.Forall₂ Step.EvaluateForEnter steps steps')
    (hkeypad : ∀ s ∈ steps, s.onKeypad) (h : w.session.focusEntry = true) :
    w.answers steps' = w.answers steps ∧ w.after steps' = w.after steps := by
  induction hreplaced generalizing w with
  | nil => exact ⟨rfl, rfl⟩
  | @cons s s' rest rest' hs _ ih =>
    have hstep : w.step s' = w.step s := step_of_evaluateForEnter hs h
    have hfocus : (w.step s).1.session.focusEntry = true :=
      focusEntry_step (hkeypad s List.mem_cons_self) h
    obtain ⟨hanswers, hafter⟩ :=
      ih (fun t ht => hkeypad t (List.mem_cons_of_mem _ ht)) hfocus
    constructor
    · unfold answers
      rw [hstep, hanswers]
    · rw [after_cons, after_cons, hstep, hafter]

/-- **On the keypad the return key is interchangeable with `=`.** If in a run of steps of the keypad
    any of the return keys are replaced by `=`, then the answers are the same, and so is the window
    after every number of steps, with its request for the keyboard. -/
theorem answers_evaluateForEnter (digits : Nat) {steps steps' : List Step}
    (hkeypad : ∀ s ∈ steps, s.onKeypad)
    (hreplaced : List.Forall₂ Step.EvaluateForEnter steps steps') :
    let start := opening (.withDigits digits)
    start.answers steps' = start.answers steps ∧
      ∀ n, start.after (steps'.take n) = start.after (steps.take n) := by
  intro start
  have hstart : start.session.focusEntry = true := rfl
  refine ⟨(run_of_evaluateForEnter hreplaced hkeypad hstart).1, fun n => ?_⟩
  have htake : List.Forall₂ Step.EvaluateForEnter (steps.take n) (steps'.take n) :=
    List.forall₂_take n hreplaced
  exact (run_of_evaluateForEnter htake (fun s hs => hkeypad s (List.mem_of_mem_take hs)) hstart).2

/-- The second return key is replaced: after DEL on an empty entry and an evaluation that fails. -/
theorem answers_evaluateForEnter_second :
    let start := opening .fresh
    let steps : List Step := [.press .delete, .enter, .type "1/8", .enter]
    let steps' : List Step := [.press .delete, .enter, .type "1/8", .press .evaluate]
    (∀ s ∈ steps, s.onKeypad) ∧ List.Forall₂ Step.EvaluateForEnter steps steps' ∧
      start.answers steps' = start.answers steps ∧
      (start.after (steps'.take 4)).session = (start.after (steps.take 4)).session ∧
      (start.after steps).session.result = "0.125" := by
  intro start steps steps'
  have hkeypad : ∀ s ∈ steps, s.onKeypad := by
    decide
  have hreplaced : List.Forall₂ Step.EvaluateForEnter steps steps' :=
    .cons (.same _) (.cons (.same _) (.cons (.same _) (.cons .replaced .nil)))
  obtain ⟨hanswers, hwindows⟩ := answers_evaluateForEnter Number.defaultDigits hkeypad hreplaced
  exact ⟨hkeypad, hreplaced, hanswers, congrArg session (hwindows 4), by decide +kernel⟩

end Window

end Calculator
