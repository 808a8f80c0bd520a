import Calculator.Proofs.FrontEnds
import Mathlib.Data.List.DropRight

/-!
# What is shown tells what has been done

A run leaves more behind than the window at its end: the moments it went through, each a window and
the step it found. What the result panel shows is a reading of these moments
(`Window.shows_evaluations_after_opening`): of the evaluations since the last time it was cleared,
the latest decides on error and working, and the latest that succeeded decides on the value. What
else the user did, and what was in the entry when nothing was evaluated, has no part in it.

The induction is on the run from its end (`Window.notes_induction`): the last moment either clears
what is shown, or evaluates, which adds one outcome, or leaves the three fields alone.
-/

namespace Calculator

/-! ## 1. An evaluation -/

namespace Session

/-- What an evaluation comes to: a value with its working, or the message that is shown instead. -/
abbrev Outcome := Except String (Float × Working)

/-- What a text in the entry comes to. The blanks around it do not count, and nothing but blanks is
    refused. -/
def outcome (text : String) : Outcome :=
  if Text.trim text = "" then .error emptyEntry
  else (evaluateWithWorking (Text.trim text)).mapError EvalError.message

variable {text : String}

/-- The refusal of an empty entry only puts a message in the place of another. -/
theorem outcome_eq_ok_iff {v : Float} {working : Working} :
    outcome text = .ok (v, working) ↔
      evaluateWithWorking (Text.trim text) = .ok (v, working) := by
  unfold outcome
  split
  · rename_i hempty
    rw [hempty]
    exact ⟨nofun, nofun⟩
  · cases evaluateWithWorking (Text.trim text) with
    | error e => exact ⟨nofun, nofun⟩
    | ok result => simp [Except.mapError]

/-- What fails says so. -/
theorem message_ne_empty_of_outcome {message : String} (h : outcome text = .error message) :
    message ≠ "" := by
  unfold outcome at h
  split at h
  · cases h
    decide
  · cases hworking : evaluateWithWorking (Text.trim text) with
    | error e =>
      rw [hworking] at h
      cases h
      exact e.message_ne_empty
    | ok result =>
      rw [hworking] at h
      cases h

/-- An evaluation shows what the entry comes to. -/
theorem evaluate_eq (s : Session) :
    s.evaluate =
      match outcome s.entry with
      | .ok (v, working) => s.succeed v working
      | .error message => s.fail message := by
  unfold evaluate outcome
  dsimp only
  by_cases hempty : Text.trim s.entry = ""
  · rw [if_pos hempty, if_pos (String.isEmpty_iff.mpr hempty)]
  · rw [if_neg hempty, if_neg fun h => hempty (String.isEmpty_iff.mp h)]
    cases evaluateWithWorking (Text.trim s.entry) <;> rfl

end Session

/-! ## 2. The moments of a run -/

/-- The step is one that a user takes at the window: text is typed, a button or key is pressed, a
    field is set, or the window is looked at. The others are there for what drives the calculator
    from outside. -/
def Step.byUser : Step → Bool
  | .type _ | .editDirect .. | .press _ | .choose _ | .precision _ | .escape | .enter
  | .view => true
  | .resetAll | .clearEntry | .clearResults | .fail _ | .succeed .. | .setDigits _
  | .setDirect _ => false

/-- A moment of a run: a window, and the step it finds. -/
structure Moment where
  window : Window
  step : Step

/-- The window a moment leaves. -/
def Moment.next (m : Moment) : Window :=
  (m.window.step m.step).1

namespace Window

/-- The moments of a run, in their order. -/
def moments (w : Window) : List Step → List Moment
  | [] => []
  | s :: rest => ⟨w, s⟩ :: moments (w.step s).1 rest

theorem moments_concat (w : Window) (steps : List Step) (s : Step) :
    w.moments (steps ++ [s]) = w.moments steps ++ [⟨w.after steps, s⟩] := by
  induction steps generalizing w with
  | nil => rfl
  | cons first rest ih =>
    show ⟨w, first⟩ :: (w.step first).1.moments (rest ++ [s]) = _
    rw [ih, after_cons]
    rfl

section Notes

variable {α : Type} (stop : Moment → Bool) (note : Moment → Option α)

/-- What is noted of the moments of a run, one after the other, since the last one that stops the
    counting. -/
def notes (w : Window) (steps : List Step) : List α :=
  ((w.moments steps).rtakeWhile fun m => !stop m).filterMap note

/-- What the last moment adds to the notes, or that nothing is left of them. -/
theorem notes_concat (w : Window) (steps : List Step) (s : Step) :
    w.notes stop note (steps ++ [s]) =
      if stop ⟨w.after steps, s⟩ then []
      else w.notes stop note steps ++ (note ⟨w.after steps, s⟩).toList := by
  unfold notes
  rw [moments_concat, List.rtakeWhile_concat]
  cases stop ⟨w.after steps, s⟩ with
  | true => rfl
  | false =>
    rw [if_pos (show (!false) = true from rfl), List.filterMap_append]
    cases hnote : note ⟨w.after steps, s⟩ <;> simp [hnote]

/-- A relation of windows and notes that every step of a user keeps holds after every run of such
    steps. -/
theorem notes_induction {R : Window → List α → Prop}
    (hstep : ∀ m noted, m.step.byUser → R m.window noted →
      R m.next (if stop m then [] else noted ++ (note m).toList))
    {w : Window} (hstart : R w []) {steps : List Step} (huser : ∀ s ∈ steps, s.byUser) :
    R (w.after steps) (w.notes stop note steps) := by
  induction steps using List.reverseRecOn with
  | nil => exact hstart
  | append_singleton steps s ih =>
    have hbefore : R (w.after steps) (w.notes stop note steps) :=
      ih fun s' hs' => huser s' (List.mem_append_left _ hs')
    rw [notes_concat, after_append]
    exact hstep ⟨w.after steps, s⟩ _ (huser s (by simp)) hbefore

end Notes

end Window

/-! ## 3. The result panel -/

namespace Moment

/-- The step evaluates the entry: `=`, or the return key if the keyboard has been asked for. -/
def evaluates (m : Moment) : Bool :=
  match m.step with
  | .press .evaluate => true
  | .enter => m.window.session.focusEntry
  | _ => false

/-- The step clears what is shown: CLR or AC. -/
def clears (m : Moment) : Bool :=
  match m.step with
  | .press .clearResults | .press .resetAll => true
  | _ => false

/-- What the entry comes to, if the step evaluates it. -/
def evaluation? (m : Moment) : Option Session.Outcome :=
  if m.evaluates then some (Session.outcome m.window.session.entry) else none

end Moment

/-- The evaluations of a run since what is shown was last cleared. -/
def Window.evaluations (w : Window) (steps : List Step) : List Session.Outcome :=
  w.notes Moment.clears Moment.evaluation? steps

namespace Session

/-- The value that an evaluation comes to, if it succeeds. -/
def Outcome.value? : Outcome → Option Float
  | .ok (v, _) => some v
  | .error _ => none

/-- The result panel shows what the evaluations have come to: the latest value, and the error or
    the working of the latest evaluation. -/
structure Shows (s : Session) (outcomes : List Outcome) : Prop where
  value : s.value = (outcomes.filterMap Outcome.value?).getLast?
  error : s.error =
    match outcomes.getLast? with
    | some (.error message) => message
    | _ => ""
  working : s.working =
    match outcomes.getLast? with
    | some (.ok (_, working)) => working
    | _ => .none

/-- The result panel holds the same, whatever its decimals. -/
structure SameResults (s s' : Session) : Prop where
  value : s.value = s'.value
  error : s.error = s'.error
  working : s.working = s'.working

namespace Shows

variable {s : Session} {outcomes : List Outcome}

theorem start (digits : Nat) : (withDigits digits).Shows [] where
  value := rfl
  error := rfl
  working := rfl

theorem clearResults (s : Session) : s.clearResults.Shows [] where
  value := rfl
  error := rfl
  working := rfl

theorem resetAll (s : Session) : s.resetAll.Shows [] :=
  start Number.defaultDigits

/-- A result comes last: it is the latest value, and its working is shown. -/
theorem succeed (s : Session) (outcomes : List Outcome) (v : Float) (working : Working) :
    (s.succeed v working).Shows (outcomes ++ [.ok (v, working)]) where
  value := by
    rw [List.filterMap_append]
    exact List.getLast?_concat.symm
  error := by
    rw [List.getLast?_concat]
    rfl
  working := by
    rw [List.getLast?_concat]
    rfl

/-- An error comes last: the latest value stays, without its working. -/
theorem fail (h : s.Shows outcomes) (message : String) :
    (s.fail message).Shows (outcomes ++ [.error message]) where
  value := by
    rw [List.filterMap_append]
    show s.value = (outcomes.filterMap Outcome.value? ++ []).getLast?
    rw [List.append_nil, h.value]
  error := by
    rw [List.getLast?_concat]
    rfl
  working := by
    rw [List.getLast?_concat]
    rfl

theorem evaluate (h : s.Shows outcomes) : s.evaluate.Shows (outcomes ++ [outcome s.entry]) := by
  rw [evaluate_eq]
  cases outcome s.entry with
  | ok result => exact succeed s outcomes result.1 result.2
  | error message => exact h.fail message

/-- Nothing but the three fields counts. -/
theorem kept {s' : Session} (h : s.Shows outcomes) (hsame : s'.SameResults s) :
    s'.Shows outcomes where
  value := hsame.value.trans h.value
  error := hsame.error.trans h.error
  working := hsame.working.trans h.working

end Shows

/-- An evaluation goes to the result panel only. -/
theorem evaluate_kept (s : Session) :
    s.evaluate.entry = s.entry ∧ s.evaluate.digits = s.digits ∧ s.evaluate.direct = s.direct := by
  rw [evaluate_eq]
  cases outcome s.entry <;> exact ⟨rfl, rfl, rfl⟩

end Session

namespace Moment

variable {m : Moment}

/-- Both ways to evaluate are one: the frame is drawn, and the entry is evaluated. -/
theorem next_of_evaluates (h : m.evaluates) :
    m.next = (m.window.drawn.update Session.evaluate).1 := by
  obtain ⟨w, step⟩ := m
  cases step with
  | press button =>
    cases button with
    | evaluate => rfl
    | _ => cases h
  | enter =>
    have hfocus : w.session.focusEntry = true := h
    show (w.drawn.update fun s => if w.session.focusEntry then s.evaluate else s).1 = _
    simp only [hfocus, if_true]
  | _ => cases h

theorem shows_of_clears (h : m.clears) : m.next.session.Shows [] := by
  obtain ⟨w, step⟩ := m
  cases step with
  | press button =>
    cases button with
    | clearResults => exact Session.Shows.clearResults _
    | resetAll => exact Session.Shows.resetAll _
    | _ => cases h
  | _ => cases h

theorem shows_of_evaluates {outcomes : List Session.Outcome} (h : m.window.session.Shows outcomes)
    (hevaluates : m.evaluates) :
    m.next.session.Shows (outcomes ++ [Session.outcome m.window.session.entry]) := by
  have hdrawn : m.window.drawn.session.Shows outcomes := h.kept ⟨rfl, rfl, rfl⟩
  rw [next_of_evaluates hevaluates, Window.session_update]
  exact hdrawn.evaluate

section

-- an entry is compared as a whole: its text must not be opened into its characters
attribute [local irreducible] String.ofList

/-- A step of a user that neither clears nor evaluates leaves value, error and working alone. -/
theorem sameResults_of_neither (huser : m.step.byUser) (hclears : m.clears = false)
    (hevaluates : m.evaluates = false) : m.next.session.SameResults m.window.session := by
  obtain ⟨w, step⟩ := m
  cases step with
  | press button =>
    cases button with
    | clearResults => cases hclears
    | resetAll => cases hclears
    | evaluate => cases hevaluates
    | compute =>
      show Session.SameResults (w.step (.press .compute)).1.session _
      rw [Window.session_compute, Session.computeDirect, Session.setDirect_eq]
      split <;> exact ⟨rfl, rfl, rfl⟩
    | _ => exact ⟨rfl, rfl, rfl⟩
  | choose operation =>
    show Session.SameResults (w.step (.choose operation)).1.session _
    rw [Window.session_choose]
    split <;> exact ⟨rfl, rfl, rfl⟩
  | precision value =>
    show Session.SameResults (w.step (.precision value)).1.session _
    rw [Window.session_precision]
    split <;> exact ⟨rfl, rfl, rfl⟩
  | enter =>
    have hfocus : w.session.focusEntry = false := hevaluates
    show Session.SameResults (w.step .enter).1.session _
    rw [Window.session_enter, hfocus]
    exact ⟨rfl, rfl, rfl⟩
  | type text => exact ⟨rfl, rfl, rfl⟩
  | editDirect operation a b => exact ⟨rfl, rfl, rfl⟩
  | escape => exact ⟨rfl, rfl, rfl⟩
  | view => exact ⟨rfl, rfl, rfl⟩
  | _ => cases huser

end

/-- What a step of a user does to the result panel is told by the evaluation it makes, if any. -/
theorem shows_next {outcomes : List Session.Outcome} (huser : m.step.byUser)
    (h : m.window.session.Shows outcomes) :
    m.next.session.Shows (if m.clears then [] else outcomes ++ m.evaluation?.toList) := by
  cases hclears : m.clears with
  | true => exact shows_of_clears hclears
  | false =>
    unfold evaluation?
    cases hevaluates : m.evaluates with
    | true => exact shows_of_evaluates h hevaluates
    | false =>
      show m.next.session.Shows (outcomes ++ [])
      rw [List.append_nil]
      exact h.kept (sameResults_of_neither huser hclears hevaluates)

end Moment

namespace Window

/-- **The result panel is told by what has been evaluated.** After every run of a user's steps it
    shows what the evaluations since the last CLR or AC have come to, and what has failed has a
    message. An evaluation succeeds exactly if the entry, as it stands at that moment and without
    the blanks around it, has a value, and it leaves entry, decimals and direct panel alone. -/
theorem shows_evaluations_after_opening (digits : Nat) {steps : List Step}
    (huser : ∀ s ∈ steps, s.byUser) :
    let start := opening (.withDigits digits)
    (start.after steps).session.Shows (start.evaluations steps) ∧
      (∀ message, .error message ∈ start.evaluations steps → message ≠ "") ∧
      ∀ m ∈ start.moments steps, m.evaluates →
        (∀ v working, Session.outcome m.window.session.entry = .ok (v, working) ↔
          evaluateWithWorking (Text.trim m.window.session.entry) = .ok (v, working)) ∧
        m.next.session.entry = m.window.session.entry ∧
        m.next.session.digits = m.window.session.digits ∧
        m.next.session.direct = m.window.session.direct := by
  intro start
  refine ⟨?_, ?_, ?_⟩
  · exact notes_induction Moment.clears Moment.evaluation? (R := fun w => w.session.Shows)
      (fun _ _ hstep h => Moment.shows_next hstep h) (Session.Shows.start digits) huser
  · intro message hmessage
    obtain ⟨m, -, hm⟩ := List.mem_filterMap.mp hmessage
    unfold Moment.evaluation? at hm
    split at hm
    · exact Session.message_ne_empty_of_outcome (Option.some.inj hm)
    · cases hm
  · intro m _ hevaluates
    refine ⟨fun _ _ => Session.outcome_eq_ok_iff, ?_⟩
    rw [Moment.next_of_evaluates hevaluates]
    exact Session.evaluate_kept m.window.drawn.session

/-- What was evaluated before CLR is gone, the return key finds no request for the keyboard after
    the window has been looked at, and an error leaves the value of `1/8`. -/
theorem shows_evaluations_after_error :
    let start := opening (.withDigits 4)
    let steps : List Step :=
      [.type "9", .press .evaluate, .press .clearResults, .type " 1/8", .enter, .view, .type "7",
        .enter, .type "1/0", .press .evaluate, .precision 2]
    let eighth := Number.ofMagnitude false 0x3FC0000000000000
    (∀ s ∈ steps, s.byUser) ∧
      start.evaluations steps = [.ok (eighth, ⟨"1 / 8", "1 8 /"⟩), .error "division par zéro"] ∧
      (start.after steps).session.value = some eighth ∧
      (start.after steps).session.error = "division par zéro" ∧
      (start.after steps).session.working = .none := by
  intro start steps eighth
  have huser : ∀ s ∈ steps, s.byUser := by
    decide
  have hevaluations : start.evaluations steps =
      [.ok (eighth, ⟨"1 / 8", "1 8 /"⟩), .error "division par zéro"] := by
    decide +kernel
  obtain ⟨hshows, -, -⟩ := shows_evaluations_after_opening 4 huser
  rw [hevaluations] at hshows
  exact ⟨huser, hevaluations, hshows.value, hshows.error, hshows.working⟩

end Window

end Calculator
