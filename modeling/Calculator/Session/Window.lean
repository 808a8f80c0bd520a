import Calculator.Session

/-!
# The window

The buttons, keys and labels of the calculator around its state. Two panels of the window can be
opened and closed: the working, and the direct operations, whose button and list of operations
exist only while it is open.

A step either changes the state alone or acts through the window. In the second case a frame is
drawn: the entry is given the keyboard if that was asked for, which ends the request
(`focusEntry`), and only then do buttons act. The return key is looked at right after: it
evaluates only if the request was there, since an entry that had the keyboard already loses it to
the key. The escape key acts before the frame.
-/

namespace Calculator

/-! ## 1. Buttons -/

/-- The buttons of the window. -/
inductive Button where
  | key (k : Key)
  | clearEntry
  | clearResults
  | resetAll
  | delete
  | evaluate
  | workingPanel
  | directPanel
  | compute
  deriving DecidableEq, Repr

namespace Button

/-- What is written on a button. -/
def label : Button → String
  | key (.function f) => f.name
  | key k => String.ofList (Entry.keyText k)
  | clearEntry => "C"
  | clearResults => "CLR"
  | resetAll => "AC"
  | delete => "DEL"
  | evaluate => "="
  | workingPanel => "Démarche"
  | directPanel => "Opération directe"
  | compute => "Calculer"

/-- The keys of the keypad. -/
def keys : List Key :=
  [.openParen, .closeParen] ++ Operator.all.map .operator ++ Func.all.map .function ++
    (List.finRange 10).map .digit ++ [.point]

/-- All buttons. -/
def all : List Button :=
  keys.map key ++
    [clearEntry, clearResults, resetAll, delete, evaluate, workingPanel, directPanel, compute]

/-- The button that bears the label. -/
def ofLabel? (text : String) : Option Button :=
  all.find? (·.label == text)

end Button

/-! ## 2. Steps -/

/-- What can happen to the calculator. The first group changes the state alone, the second acts
    through the window. -/
inductive Step where
  | type (text : String)
  | resetAll
  | clearEntry
  | clearResults
  | fail (message : String)
  | succeed (value : Float) (working : Working)
  | setDigits (digits : Nat)
  | setDirect (outcome : Except String Float)
  | editDirect (operation : Option Operation) (a b : Option Float)
  | press (button : Button)
  | choose (operation : Operation)
  | precision (value : Int)
  | escape
  | enter
  | view

/-- The calculator with its window: which panels are open. -/
structure Window where
  session : Session
  workingOpen : Bool
  directOpen : Bool
  deriving DecidableEq

/-- What a step shows: the state after it, the labels of the window, or that the button or list is
    not there. -/
inductive Answer where
  | state (session : Session)
  | labels (texts : List String)
  | absent
  deriving DecidableEq

namespace Window

/-- The window of a session that starts: both panels are closed. -/
def opening (session : Session) : Window :=
  ⟨session, false, false⟩

/-- The labels shown, from top to bottom. -/
def labels (w : Window) : List String :=
  let s := w.session
  ["Calculatrice flottante", "Entrée :", "Précision :", "", "", ""] ++
    (if s.error.isEmpty then [] else [s.error]) ++
    ["Résultat :", if s.result.isEmpty then "—" else s.result] ++
    (if w.workingOpen then ["Jetons :", s.working.tokens, "RPN :", s.working.ordered] else []) ++
    (if w.directOpen then
      ["a :", "b :"] ++
        (if s.direct.result.isEmpty then [] else [s.direct.result]) ++
        (if s.direct.error.isEmpty then [] else [s.direct.error])
    else [])

/-- A step that goes on to show the state. -/
def update (w : Window) (f : Session → Session) : Window × Answer :=
  let session := f w.session
  ({ w with session := session }, .state session)

/-- A frame is drawn: the request for the keyboard is met. -/
def drawn (w : Window) : Window :=
  { w with session := { w.session with focusEntry := false } }

/-- A button is pressed, in a window that has been drawn. -/
def press (w : Window) : Button → Window × Answer
  | .key k => w.update (·.press k)
  | .clearEntry => w.update Session.clearEntry
  | .clearResults => w.update Session.clearResults
  | .resetAll => w.update Session.resetAll
  | .delete => w.update Session.delete
  | .evaluate => w.update Session.evaluate
  | .workingPanel => ({ w with workingOpen := !w.workingOpen }, .state w.session)
  | .directPanel => ({ w with directOpen := !w.directOpen }, .state w.session)
  | .compute => if w.directOpen then w.update Session.computeDirect else (w, .absent)

/-- The precision field takes a value, within its bounds. -/
def setPrecision (w : Window) (value : Int) : Window × Answer :=
  let digits := min value.toNat Number.maxDigits
  w.update fun s => if digits = s.digits then s else s.setDigits digits

/-- The window and what it shows after a step. -/
def step (w : Window) : Step → Window × Answer
  | .type text => w.update (·.typeEntry text)
  | .resetAll => w.update Session.resetAll
  | .clearEntry => w.update Session.clearEntry
  | .clearResults => w.update Session.clearResults
  | .fail message => w.update (·.fail message)
  | .succeed value working => w.update (·.succeed value working)
  | .setDigits digits => w.update (·.setDigits digits)
  | .setDirect outcome => w.update (·.setDirect outcome)
  | .editDirect operation a b => w.update (·.editDirect operation a b)
  | .press button => w.drawn.press button
  | .choose operation =>
    if w.directOpen then w.drawn.update (·.editDirect (some operation) none none)
    else (w.drawn, .absent)
  | .precision value => w.drawn.setPrecision value
  | .escape => (w.update Session.clearEntry).1.drawn.update id
  | .enter => w.drawn.update fun s => if w.session.focusEntry then s.evaluate else s
  | .view => (w.drawn, .labels w.labels)

/-- The answers to the steps, one by one. -/
def answers (w : Window) : List Step → List Answer
  | [] => []
  | s :: rest => (w.step s).2 :: answers (w.step s).1 rest

/-- The window after a run of steps. -/
def after (w : Window) (steps : List Step) : Window :=
  steps.foldl (fun w s => (w.step s).1) w

/-- What a step that goes on to show the state does to it. -/
@[simp] theorem session_update (w : Window) (f : Session → Session) :
    (w.update f).1.session = f w.session := rfl

section Frames

variable (w : Window)

/-- The direct operation is computed only while its panel is open. -/
theorem session_compute :
    (w.step (.press .compute)).1.session =
      if w.directOpen then w.drawn.session.computeDirect else w.drawn.session := by
  show (if w.directOpen then w.drawn.update Session.computeDirect
    else (w.drawn, .absent)).1.session = _
  split <;> rfl

/-- An operation is chosen only while the panel is open. -/
theorem session_choose (operation : Operation) :
    (w.step (.choose operation)).1.session =
      if w.directOpen then w.drawn.session.editDirect (some operation) none none
      else w.drawn.session := by
  unfold step
  dsimp only
  split <;> rfl

/-- The precision is set only to another one. -/
theorem session_precision (value : Int) :
    (w.step (.precision value)).1.session =
      if min value.toNat Number.maxDigits = w.session.digits then w.drawn.session
      else w.drawn.session.setDigits (min value.toNat Number.maxDigits) := rfl

/-- The return key evaluates only if the keyboard was asked for before the frame. -/
theorem session_enter :
    (w.step .enter).1.session =
      if w.session.focusEntry then w.drawn.session.evaluate else w.drawn.session := rfl

end Frames

/-- What every step keeps, every run keeps. -/
theorem after_induction {P : Window → Prop} (hstep : ∀ w step, P w → P (Window.step w step).1)
    {w : Window} (h : P w) (steps : List Step) : P (w.after steps) := by
  induction steps generalizing w with
  | nil => exact h
  | cons step steps ih => exact ih (hstep w step h)

theorem after_cons (w : Window) (s : Step) (steps : List Step) :
    w.after (s :: steps) = (w.step s).1.after steps :=
  List.foldl_cons

/-- A run in two parts goes on from where the first part ends. -/
theorem after_append (w : Window) (first second : List Step) :
    w.after (first ++ second) = (w.after first).after second :=
  List.foldl_append

end Window

end Calculator
