import ChromiumQnx.Foundation.TransitionSystem

/-!
# The URL bar of the native browser

`BerryBrowserChrome` keeps two texts, the URL of the page and the text being edited, and a flag
that says which of them `Paint` shows.  `OnChar`, `OnBackspace` and `OnEnter` always work on the
edited text.

The shown text is the one these operations work on as long as the two texts agree whenever nothing
is being edited.  `SetUrl` restores that agreement and `OnEnter` does not, and the main result says
that this is the only way to lose it.
-/

namespace ChromiumQnx

open TransitionSystem

/-- `std::string`, as its bytes. -/
abbrev StdString := List UInt8

/-- The text fields and flags of `BerryBrowserChrome`. -/
structure BerryBrowserChrome where
  url : StdString
  editText : StdString
  committedUrl : StdString
  editing : Bool
  urlCommitted : Bool
  deriving DecidableEq, Repr

namespace BerryBrowserChrome

/-! ## The operations -/

/-- A newly constructed toolbar: empty texts, and no flag set. -/
def start : BerryBrowserChrome where
  url := []
  editText := []
  committedUrl := []
  editing := false
  urlCommitted := false

/-- `SetUrl`. -/
def setUrl (s : BerryBrowserChrome) (url : StdString) : BerryBrowserChrome :=
  { s with url := url, editText := if s.editing then s.editText else url }

/-- `OnChar`. -/
def onChar (s : BerryBrowserChrome) (c : UInt8) : BerryBrowserChrome :=
  { s with editing := true, editText := s.editText ++ [c] }

/-- `OnBackspace`: an empty text is left as it is. -/
def onBackspace (s : BerryBrowserChrome) : BerryBrowserChrome :=
  { s with editing := true, editText := s.editText.dropLast }

/-- `OnEnter`. -/
def onEnter (s : BerryBrowserChrome) : BerryBrowserChrome :=
  { s with committedUrl := s.editText, urlCommitted := true, editing := false }

/-- `ClearCommit`. -/
def clearCommit (s : BerryBrowserChrome) : BerryBrowserChrome := { s with urlCommitted := false }

/-- The text `Paint` shows in the URL bar. -/
def display (s : BerryBrowserChrome) : StdString := if s.editing then s.editText else s.url

/-- The calls of the toolbar's interface that touch its texts. -/
inductive Op
  | setUrl (url : StdString)
  | onChar (c : UInt8)
  | onBackspace
  | onEnter
  | clearCommit
  deriving DecidableEq, Repr

/-- One call; every call is possible in every state. -/
def step (s : BerryBrowserChrome) : Op → Option BerryBrowserChrome
  | .setUrl url => some (s.setUrl url)
  | .onChar c => some (s.onChar c)
  | .onBackspace => some s.onBackspace
  | .onEnter => some s.onEnter
  | .clearCommit => some s.clearCommit

/-! ## The shown text and the edited text -/

/-- The shown text is the one that the next `OnChar` extends, `OnBackspace` shortens and `OnEnter`
commits. -/
structure InStep (s : BerryBrowserChrome) : Prop where
  char : ∀ c, (s.onChar c).display = s.display ++ [c]
  backspace : s.onBackspace.display = s.display.dropLast
  enter : s.onEnter.committedUrl = s.display

/-- The shown text is the edited one. -/
lemma inStep_iff_display {s : BerryBrowserChrome} : s.InStep ↔ s.display = s.editText := by
  constructor
  · intro h
    exact h.enter.symm
  · intro h
    constructor
    · intro c
      rw [h]
      rfl
    · rw [h]
      rfl
    · rw [h]
      rfl

/-- The two texts may differ while one is being edited, and at no other time. -/
theorem inStep_iff {s : BerryBrowserChrome} :
    s.InStep ↔ (s.editing = false → s.editText = s.url) := by
  apply inStep_iff_display.trans
  unfold display
  cases s.editing with
  | true => simp
  | false => simp [eq_comm]

instance (s : BerryBrowserChrome) : Decidable s.InStep := decidable_of_iff' _ inStep_iff

/-- `OnEnter` is called when the edited text is the URL of the page. -/
def EntersUrl (s : BerryBrowserChrome) (op : Op) : Prop := op = .onEnter → s.editText = s.url

lemma start_inStep : start.InStep :=
  inStep_iff.mpr fun _ => rfl

/-- Every call but `OnEnter` on a text that differs from the URL keeps the texts in step. -/
lemma InStep.step {s s' : BerryBrowserChrome} {op : Op} (hs : s.InStep) (hop : EntersUrl s op)
    (hstep : BerryBrowserChrome.step s op = some s') : s'.InStep := by
  rw [inStep_iff] at hs ⊢
  cases op with
  | setUrl url =>
    cases hstep
    intro hediting
    exact if_neg (Bool.eq_false_iff.mp hediting)
  | onChar c =>
    cases hstep
    intro hediting
    cases hediting
  | onBackspace =>
    cases hstep
    intro hediting
    cases hediting
  | onEnter =>
    cases hstep
    intro _
    exact hop rfl
  | clearCommit =>
    cases hstep
    exact hs

/-- `OnEnter` on a text that differs from the URL leaves the URL shown and the text in the
buffer. -/
lemma not_inStep_of_not_entersUrl {s s' : BerryBrowserChrome} {op : Op} (hop : ¬ EntersUrl s op)
    (hstep : BerryBrowserChrome.step s op = some s') : ¬ s'.InStep := by
  unfold EntersUrl at hop
  push Not at hop
  obtain ⟨rfl, hne⟩ := hop
  cases hstep
  intro hs
  have heq : s.onEnter.editText = s.onEnter.url := inStep_iff.mp hs rfl
  exact hne heq

/-- **Exactness of the URL bar.**  In every sequence of calls the shown text is the one the editing
operations work on, in every state, if and only if `OnEnter` is only called when the edited text is
the URL of the page. -/
theorem inStep_always_iff (ops : List Op) :
    Always step InStep start ops ↔ StepsMeet step EntersUrl start ops := by
  apply always_iff_stepsMeet start_inStep
  · intro s hs
    exact hs
  · intro s op s' hs hop hstep
    exact hs.step hop hstep
  · intro s op s' _ hop hstep
    exact not_inStep_of_not_entersUrl hop hstep

/-- A page `a` is shown, a `b` is typed and the text committed: the bar shows `a` again, while the
next character is appended to `ab`. -/
theorem commitBeforeUrl_not_inStep :
    ¬ Always step InStep start [.setUrl [97], .onChar 98, .onEnter] := by
  decide

/-- A page that reports its URL after a commit brings the texts back in step. -/
theorem setUrl_inStep_of_not_editing {s : BerryBrowserChrome} (h : s.editing = false)
    (url : StdString) : (s.setUrl url).InStep := by
  apply inStep_iff.mpr
  intro _
  exact if_neg (Bool.eq_false_iff.mp h)

end BerryBrowserChrome

end ChromiumQnx
