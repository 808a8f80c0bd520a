import Calculator.Session.Window

/-!
# What is shown belongs together

A session holds more than it would have to: the result beside the value it is the text of, the
working beside the error that takes it away, two texts for the one outcome of a direct operation.
`Session.Coherent` says how these belong together, and that the decimals stay within their bound.
No step can break it, whatever was done before: each operation on the state keeps it, so each step
of the window does (`Window.coherent_step`), and so does every run from either start
(`Window.coherent_after_opening`).

The entry, the request for the keyboard and the operands of the direct panel are free: what is shown
does not depend on them (`Session.Coherent.edited`).
-/

namespace Calculator

namespace Session

/-- The fields of a session agree with each other. -/
structure Coherent (s : Session) : Prop where
  digits_le : s.digits ≤ Number.maxDigits
  result_of_none : s.value = none → s.result = ""
  result_of_some : ∀ v, s.value = some v → s.result = Number.display s.digits v
  working_of_error : s.error ≠ "" → s.working = .none
  value_of_working : s.working ≠ .none → ∃ v, s.value = some v
  direct_apart : s.direct.result = "" ∨ s.direct.error = ""

namespace Coherent

variable {s : Session}

/-! ## 1. Operations on the state -/

/-- A session at its start. -/
theorem start (digits : Nat) : (withDigits digits).Coherent where
  digits_le := Nat.min_le_right _ _
  result_of_none := fun _ => rfl
  result_of_some := nofun
  working_of_error := fun _ => rfl
  value_of_working := fun h => absurd rfl h
  direct_apart := .inl rfl

/-- What is shown does not depend on the entry, the request for the keyboard and the operation that
    stands in the direct panel. -/
theorem edited (h : s.Coherent) (entry : String) (focus : Bool) (operation : Operation)
    (a b : Float) :
    Coherent { s with
      entry := entry, focusEntry := focus,
      direct := { s.direct with operation := operation, a := a, b := b } } where
  digits_le := h.digits_le
  result_of_none := h.result_of_none
  result_of_some := h.result_of_some
  working_of_error := h.working_of_error
  value_of_working := h.value_of_working
  direct_apart := h.direct_apart

theorem withEntry (h : s.Coherent) (entry : String) (focus : Bool) :
    Coherent { s with entry := entry, focusEntry := focus } :=
  h.edited entry focus s.direct.operation s.direct.a s.direct.b

theorem clearResults (h : s.Coherent) : s.clearResults.Coherent where
  digits_le := h.digits_le
  result_of_none := fun _ => rfl
  result_of_some := nofun
  working_of_error := fun _ => rfl
  value_of_working := fun hworking => absurd rfl hworking
  direct_apart := h.direct_apart

/-- Everything is reset but the request for the keyboard, which a start makes too. -/
theorem resetAll (s : Session) : s.resetAll.Coherent :=
  start Number.defaultDigits

/-- An error leaves value and result alone and takes the working away. -/
theorem fail (h : s.Coherent) (message : String) : (s.fail message).Coherent where
  digits_le := h.digits_le
  result_of_none := h.result_of_none
  result_of_some := h.result_of_some
  working_of_error := fun _ => rfl
  value_of_working := fun hworking => absurd rfl hworking
  direct_apart := h.direct_apart

/-- A result sets all four fields at once. -/
theorem succeed (h : s.Coherent) (value : Float) (working : Working) :
    (s.succeed value working).Coherent where
  digits_le := h.digits_le
  result_of_none := nofun
  result_of_some := by
    intro v hv
    cases hv
    rfl
  working_of_error := fun herror => absurd rfl herror
  value_of_working := fun _ => ⟨value, rfl⟩
  direct_apart := h.direct_apart

/-- New decimals are within their bound, and the result is written with them. -/
theorem setDigits (h : s.Coherent) (digits : Nat) : (s.setDigits digits).Coherent where
  digits_le := Nat.min_le_right _ _
  result_of_none := by
    intro hvalue
    have hnone : s.value = none := hvalue
    simp only [Session.setDigits, hnone]
    exact h.result_of_none hnone
  result_of_some := by
    intro v hvalue
    have hsome : s.value = some v := hvalue
    simp only [Session.setDigits, hsome]
  working_of_error := h.working_of_error
  value_of_working := h.value_of_working
  direct_apart := h.direct_apart

/-- Of the two texts of a direct operation each empties the other. -/
theorem setDirect (h : s.Coherent) (outcome : Except String Float) :
    (s.setDirect outcome).Coherent := by
  cases outcome with
  | ok value => exact { h with direct_apart := .inr rfl }
  | error message => exact { h with direct_apart := .inl rfl }

theorem evaluate (h : s.Coherent) : s.evaluate.Coherent := by
  unfold Session.evaluate
  dsimp only
  split
  · exact h.fail _
  · split
    · exact h.succeed _ _
    · exact h.fail _

theorem computeDirect (h : s.Coherent) : s.computeDirect.Coherent :=
  h.setDirect _

end Coherent

end Session

/-! ## 2. Steps and runs -/

namespace Window

open Session (Coherent)

variable {w : Window}

theorem coherent_update {f : Session → Session} (h : (f w.session).Coherent) :
    (w.update f).1.session.Coherent := h

theorem coherent_drawn (h : w.session.Coherent) : w.drawn.session.Coherent :=
  h.withEntry w.session.entry false

/-- No button breaks the agreement of what is shown. -/
theorem coherent_press (h : w.session.Coherent) (button : Button) :
    (w.press button).1.session.Coherent := by
  cases button with
  | key k => exact coherent_update (h.withEntry _ true)
  | clearEntry => exact coherent_update (h.withEntry "" true)
  | clearResults => exact coherent_update h.clearResults
  | resetAll => exact coherent_update (Coherent.resetAll w.session)
  | delete => exact coherent_update (h.withEntry _ true)
  | evaluate => exact coherent_update h.evaluate
  | workingPanel => exact h
  | directPanel => exact h
  | compute =>
    unfold press
    dsimp only
    split
    · exact coherent_update h.computeDirect
    · exact h

theorem coherent_setPrecision (h : w.session.Coherent) (value : Int) :
    (w.setPrecision value).1.session.Coherent := by
  show Coherent (if min value.toNat Number.maxDigits = w.session.digits then w.session
    else w.session.setDigits (min value.toNat Number.maxDigits))
  split
  · exact h
  · exact h.setDigits _

/-- **No step breaks the agreement of what is shown.** -/
theorem coherent_step (h : w.session.Coherent) (step : Step) :
    (w.step step).1.session.Coherent := by
  cases step with
  | type text => exact coherent_update (h.withEntry text w.session.focusEntry)
  | resetAll => exact coherent_update (Coherent.resetAll w.session)
  | clearEntry => exact coherent_update (h.withEntry "" true)
  | clearResults => exact coherent_update h.clearResults
  | fail message => exact coherent_update (h.fail message)
  | succeed value working => exact coherent_update (h.succeed value working)
  | setDigits digits => exact coherent_update (h.setDigits digits)
  | setDirect outcome => exact coherent_update (h.setDirect outcome)
  | editDirect operation a b => exact coherent_update (h.edited _ _ _ _ _)
  | press button => exact coherent_press (coherent_drawn h) button
  | choose operation =>
    unfold Window.step
    dsimp only
    split
    · exact (coherent_drawn h).edited _ _ _ _ _
    · exact coherent_drawn h
  | precision value => exact coherent_setPrecision (coherent_drawn h) value
  | escape => exact h.withEntry "" false
  | enter =>
    show Coherent (if w.session.focusEntry then w.drawn.session.evaluate else w.drawn.session)
    split
    · exact (coherent_drawn h).evaluate
    · exact coherent_drawn h
  | view => exact coherent_drawn h

/-- **What is shown agrees after every run**, from the start as such and from a start with other
    decimals. -/
theorem coherent_after_opening (digits : Nat) (steps : List Step) :
    ((opening .fresh).after steps).session.Coherent ∧
      ((opening (.withDigits digits)).after steps).session.Coherent := by
  have hrun : ∀ w : Window, w.session.Coherent → (w.after steps).session.Coherent := fun w h =>
    after_induction (P := fun w => w.session.Coherent) (fun _ step h => coherent_step h step) h steps
  exact ⟨hrun _ (Coherent.start Number.defaultDigits), hrun _ (Coherent.start digits)⟩

-- an error keeps the result, and the precision still writes it anew
example :
    let s := ((opening .fresh).after
      [.type "1/8", .press .evaluate, .type "1/0", .enter, .precision 2]).session
    s.result = "0.12" ∧ s.error = "division par zéro" ∧ s.working = .none ∧ s.digits = 2 := by
  decide +kernel

end Window

end Calculator
