import ChromiumQnx.Content.BerryBrowserChrome
import ChromiumQnx.Foundation.OrderedMap
import ChromiumQnx.Ui.QnxScreenSurface
import Mathlib.Data.List.DropRight

/-!
# The toolbars of the shells

`ShellPlatformDelegate` keeps data for every shell in one map.  `CreatePlatformWindow` gives a shell
a toolbar, unless the process is headless, `CleanUp` forgets the shell, and the calls that tell it
of a URL, of the loading state and of the buttons reach the toolbar if there is one.

`toolbar_eq_expected` says what a toolbar shows after any calls for any shells: it depends only on
the calls for its own shell since that shell's window was last made, and of these on the last one of
each kind.  `hitTest_eq_iff` says that no control of a toolbar hides another, or reaches into the
page.
-/

namespace ChromiumQnx

/-! ## The toolbar -/

/-- `gfx::Rect`. -/
structure GfxRect where
  x : ℤ
  y : ℤ
  width : ℤ
  height : ℤ
  deriving DecidableEq, Repr

namespace GfxRect

/-- The constructor: a negative width or height becomes zero. -/
def make (x y width height : ℤ) : GfxRect := ⟨x, y, max width 0, max height 0⟩

/-- `Contains`. -/
def Contains (r : GfxRect) (px py : ℤ) : Prop :=
  r.x ≤ px ∧ px < r.x + r.width ∧ r.y ≤ py ∧ py < r.y + r.height

instance (r : GfxRect) (px py : ℤ) : Decidable (r.Contains px py) :=
  inferInstanceAs (Decidable (_ ∧ _ ∧ _ ∧ _))

end GfxRect

/-- The fields of `BerryBrowserChrome`. -/
structure Toolbar where
  size : Size
  texts : BerryBrowserChrome
  loading : Bool
  canGoBack : Bool
  canGoForward : Bool
  deriving DecidableEq, Repr

namespace Toolbar

def kToolbarHeight : ℤ := 56

def kButtonWidth : ℤ := 44

/-- The constructor. -/
def new (size : Size) : Toolbar where
  size := size
  texts := .start
  loading := false
  canGoBack := false
  canGoForward := false

/-- The controls of `HitTest`. -/
inductive HitResult
  | none
  | back
  | forward
  | reload
  | urlBar
  deriving DecidableEq, Repr

/-- The left edges and the rectangles that the constructor computes, `x` running from left to
right. -/
def rect (t : Toolbar) : HitResult → Option GfxRect :=
  let y := 6
  let bh := kToolbarHeight - 12
  let xBack := 4
  let xForward := xBack + (kButtonWidth + 2)
  let xReload := xForward + (kButtonWidth + 2)
  let xUrl := xReload + (kButtonWidth + 8)
  fun
  | .none => Option.none
  | .back => some (.make xBack y kButtonWidth bh)
  | .forward => some (.make xForward y kButtonWidth bh)
  | .reload => some (.make xReload y kButtonWidth bh)
  | .urlBar => some (.make xUrl y (t.size.width - xUrl - 8) bh)

/-- The point lies in the rectangle of a control. -/
def Covers (t : Toolbar) (r : HitResult) (px py : ℤ) : Prop :=
  ∃ rect ∈ t.rect r, rect.Contains px py

instance (t : Toolbar) (r : HitResult) (px py : ℤ) : Decidable (t.Covers r px py) :=
  inferInstanceAs (Decidable (∃ rect ∈ t.rect r, rect.Contains px py))

/-- `HitTest`. -/
def hitTest (t : Toolbar) (px py : ℤ) : HitResult :=
  if t.Covers .back px py then .back
  else if t.Covers .forward px py then .forward
  else if t.Covers .reload px py then .reload
  else if t.Covers .urlBar px py then .urlBar
  else .none

/-- `GetWebContentBounds`. -/
def webContentBounds (t : Toolbar) : GfxRect :=
  .make 0 kToolbarHeight t.size.width (t.size.height - kToolbarHeight)

/-- What a control covers lies in the rows of the toolbar. -/
lemma Covers.rows {t : Toolbar} {r : HitResult} {px py : ℤ} (h : t.Covers r px py) :
    0 ≤ py ∧ py < kToolbarHeight := by
  obtain ⟨rect, hrect, hcontains⟩ := h
  unfold GfxRect.Contains at hcontains
  cases r <;> simp only [Toolbar.rect, Option.mem_def, Option.some.injEq, reduceCtorEq] at hrect <;>
    subst hrect <;> simp only [GfxRect.make, kToolbarHeight] at hcontains ⊢ <;> omega

/-- The columns of the controls. -/
lemma Covers.columns {t : Toolbar} {r : HitResult} {px py : ℤ} (h : t.Covers r px py) :
    match r with
    | .none => False
    | .back => 4 ≤ px ∧ px < 48
    | .forward => 50 ≤ px ∧ px < 94
    | .reload => 96 ≤ px ∧ px < 140
    | .urlBar => 148 ≤ px ∧ px < t.size.width - 8 := by
  obtain ⟨rect, hrect, hcontains⟩ := h
  unfold GfxRect.Contains at hcontains
  cases r <;> simp only [Toolbar.rect, Option.mem_def, Option.some.injEq, reduceCtorEq] at hrect <;>
    subst hrect <;> simp only [GfxRect.make, kButtonWidth] at hcontains <;> dsimp only <;> omega

/-- A point is covered by one control at most. -/
lemma Covers.unique {t : Toolbar} {r r' : HitResult} {px py : ℤ} (h : t.Covers r px py)
    (h' : t.Covers r' px py) : r = r' := by
  have hcolumns := h.columns
  have hcolumns' := h'.columns
  cases r <;> cases r' <;> first | rfl | (dsimp only at hcolumns hcolumns' <;> omega)

/-- **The controls.**  `HitTest` answers a control exactly when the point is in its rectangle, so
that the order of its tests does not matter, and it answers none for every point of the page. -/
theorem hitTest_eq_iff (t : Toolbar) (px py : ℤ) :
    (∀ r, r ≠ .none → (t.hitTest px py = r ↔ t.Covers r px py)) ∧
      (t.webContentBounds.Contains px py → t.hitTest px py = .none) := by
  have hcovers : ∀ r, r ≠ .none → t.hitTest px py = r → t.Covers r px py := by
    intro r hr heq
    unfold hitTest at heq
    split_ifs at heq with hback hforward hreload hurl
    · rwa [← heq]
    · rwa [← heq]
    · rwa [← heq]
    · rwa [← heq]
    · exact absurd heq.symm hr
  have hhit : ∀ r, t.Covers r px py → t.hitTest px py ≠ .none := by
    intro r hr hnone
    unfold hitTest at hnone
    split_ifs at hnone with hback hforward hreload hurl
    cases r with
    | none => exact hr.columns
    | back => exact hback hr
    | forward => exact hforward hr
    | reload => exact hreload hr
    | urlBar => exact hurl hr
  refine ⟨fun r hr => ⟨hcovers r hr, fun hr' => ?_⟩, fun hpage => ?_⟩
  · exact (hcovers _ (hhit r hr') rfl).unique hr'
  · by_contra hne
    have hrows := (hcovers _ hne rfl).rows
    have hbelow : kToolbarHeight ≤ py := hpage.2.2.1
    omega

end Toolbar

/-! ## The delegate -/

/-- `ShellPlatformDelegate::ShellData`. -/
structure ShellData where
  chrome : Option Toolbar
  deriving DecidableEq, Repr

/-- `UIControl`. -/
inductive UIControl
  | backButton
  | forwardButton
  | stopButton
  deriving DecidableEq, Repr

/-- The calls of the delegate for one shell that change its data. -/
inductive ShellCall
  | createPlatformWindow (initialSize : Size)
  | cleanUp
  | enableUIControl (control : UIControl) (isEnabled : Bool)
  | setAddressBarURL (spec : StdString)
  | setIsLoading (loading : Bool)
  deriving DecidableEq, Repr

namespace ShellPlatformDelegate

variable {σ : Type*} [LinearOrder σ]

/-- The size of a window whose initial width or height is not positive is 1440 there. -/
def windowSize (initialSize : Size) : Size where
  width := if initialSize.width > 0 then initialSize.width else 1440
  height := if initialSize.height > 0 then initialSize.height else 1440

/-- `CreatePlatformWindow`. -/
def createPlatformWindow (headless : Bool) (m : OrderedMap σ ShellData) (shell : σ)
    (initialSize : Size) : OrderedMap σ ShellData :=
  let data := (m.find shell).getD ⟨none⟩
  m.set shell (if headless then data else ⟨some (.new (windowSize initialSize))⟩)

/-- `CleanUp`. -/
def cleanUp (m : OrderedMap σ ShellData) (shell : σ) : OrderedMap σ ShellData :=
  m.eraseIf fun e => decide (e.1 = shell)

/-- A change of the toolbar of a shell, if it has data and a toolbar. -/
def updateChrome (m : OrderedMap σ ShellData) (shell : σ) (f : Toolbar → Toolbar) :
    OrderedMap σ ShellData :=
  match m.find shell with
  | some ⟨some chrome⟩ => m.set shell ⟨some (f chrome)⟩
  | _ => m

/-- The `switch` of `EnableUIControl`, with `SetCanGoBack` and `SetCanGoForward`. -/
def setControl (control : UIControl) (isEnabled : Bool) (chrome : Toolbar) : Toolbar :=
  match control with
  | .backButton => { chrome with canGoBack := isEnabled }
  | .forwardButton => { chrome with canGoForward := isEnabled }
  | .stopButton => chrome

/-- `EnableUIControl`. -/
def enableUIControl (m : OrderedMap σ ShellData) (shell : σ) (control : UIControl)
    (isEnabled : Bool) : OrderedMap σ ShellData :=
  updateChrome m shell (setControl control isEnabled)

/-- `SetAddressBarURL`. -/
def setAddressBarURL (m : OrderedMap σ ShellData) (shell : σ) (spec : StdString) :
    OrderedMap σ ShellData :=
  updateChrome m shell fun chrome => { chrome with texts := chrome.texts.setUrl spec }

/-- `SetIsLoading`. -/
def setIsLoading (m : OrderedMap σ ShellData) (shell : σ) (loading : Bool) :
    OrderedMap σ ShellData :=
  updateChrome m shell fun chrome => { chrome with loading := loading }

/-- One call. -/
def call (headless : Bool) (m : OrderedMap σ ShellData) (e : σ × ShellCall) :
    OrderedMap σ ShellData :=
  match e.2 with
  | .createPlatformWindow initialSize => createPlatformWindow headless m e.1 initialSize
  | .cleanUp => cleanUp m e.1
  | .enableUIControl control isEnabled => enableUIControl m e.1 control isEnabled
  | .setAddressBarURL spec => setAddressBarURL m e.1 spec
  | .setIsLoading loading => setIsLoading m e.1 loading

/-- `shell_data_map_` after calls, in their order. -/
def shellDataMap (headless : Bool) (calls : List (σ × ShellCall)) : OrderedMap σ ShellData :=
  calls.foldl (call headless) ⟨[], List.Pairwise.nil⟩

/-- The toolbar of a shell. -/
def toolbar (m : OrderedMap σ ShellData) (shell : σ) : Option Toolbar :=
  (m.find shell).bind ShellData.chrome

/-- The size that `ResizeWebContent` gives the view of a shell that has one. -/
def resizeWebContent (m : OrderedMap σ ShellData) (shell : σ) (contentSize : Size) : Size :=
  match toolbar m shell with
  | some chrome => ⟨chrome.webContentBounds.width, chrome.webContentBounds.height⟩
  | none => contentSize

/-! ## What a toolbar should show -/

/-- A call that makes or drops the toolbar of its shell: the size of the window, or none. -/
def windowOf : ShellCall → Option (Option Size)
  | .createPlatformWindow initialSize => some (some initialSize)
  | .cleanUp => some none
  | _ => none

def urlOf : ShellCall → Option StdString
  | .setAddressBarURL spec => some spec
  | _ => none

def loadingOf : ShellCall → Option Bool
  | .setIsLoading loading => some loading
  | _ => none

def controlOf (control : UIControl) : ShellCall → Option Bool
  | .enableUIControl c isEnabled => if c = control then some isEnabled else none
  | _ => none

/-- What the last call of a kind said. -/
def last {α : Type*} (f : ShellCall → Option α) (calls : List ShellCall) : Option α :=
  (calls.filterMap f).getLast?

/-- The calls since the last one that made or dropped the toolbar. -/
def sinceWindow (calls : List ShellCall) : List ShellCall :=
  calls.rtakeWhile fun c => decide (windowOf c = none)

/-- **What a toolbar should show** after calls that made or dropped none. -/
def expectedToolbar (initialSize : Size) (calls : List ShellCall) : Toolbar where
  size := windowSize initialSize
  texts := BerryBrowserChrome.start.setUrl ((last urlOf calls).getD [])
  loading := (last loadingOf calls).getD false
  canGoBack := (last (controlOf .backButton) calls).getD false
  canGoForward := (last (controlOf .forwardButton) calls).getD false

/-- The calls for one shell. -/
def callsFor (shell : σ) (calls : List (σ × ShellCall)) : List ShellCall :=
  (calls.filter fun e => decide (shell = e.1)).map Prod.snd

/-- **The toolbar a shell should have** after calls. -/
def expected (headless : Bool) (calls : List ShellCall) : Option Toolbar :=
  if headless then none
  else (last windowOf calls).join.map fun initialSize =>
    expectedToolbar initialSize (sinceWindow calls)

/-! ## Calls on one shell -/

/-- What a call does to the data of its own shell. -/
def act (headless : Bool) (data : Option ShellData) : ShellCall → Option ShellData
  | .createPlatformWindow initialSize =>
    some (if headless then data.getD ⟨none⟩ else ⟨some (.new (windowSize initialSize))⟩)
  | .cleanUp => none
  | .enableUIControl control isEnabled => data.map fun data =>
    ⟨data.chrome.map (setControl control isEnabled)⟩
  | .setAddressBarURL spec => data.map fun data => ⟨data.chrome.map fun chrome =>
    { chrome with texts := chrome.texts.setUrl spec }⟩
  | .setIsLoading loading => data.map fun data => ⟨data.chrome.map fun chrome =>
    { chrome with loading := loading }⟩

lemma find_updateChrome (m : OrderedMap σ ShellData) (shell : σ) (f : Toolbar → Toolbar) (k : σ) :
    (updateChrome m shell f).find k =
      if k = shell then (m.find k).map fun data => ⟨data.chrome.map f⟩ else m.find k := by
  unfold updateChrome
  split
  · rename_i chrome hfind
    rw [OrderedMap.find_set]
    split
    · rename_i hk
      rw [hk, hfind]
      rfl
    · rfl
  · rename_i hnone
    split
    · rename_i hk
      subst hk
      -- without data, or without a toolbar in them, the change keeps what is there
      rcases hfind : m.find k with _ | ⟨_ | chrome⟩
      · rfl
      · rfl
      · exact absurd hfind (hnone chrome)
    · rfl

/-- A call only changes the data of its own shell. -/
lemma find_call (headless : Bool) (m : OrderedMap σ ShellData) (e : σ × ShellCall) (k : σ) :
    (call headless m e).find k = if k = e.1 then act headless (m.find k) e.2 else m.find k := by
  obtain ⟨shell, c⟩ := e
  cases c with
  | createPlatformWindow initialSize =>
    refine (OrderedMap.find_set _ _ _ _).trans (if_ctx_congr Iff.rfl ?_ fun _ => rfl)
    intro hk
    subst hk
    rfl
  | cleanUp => exact OrderedMap.find_eraseIf_key m shell k
  | enableUIControl control isEnabled => exact find_updateChrome m shell _ k
  | setAddressBarURL spec => exact find_updateChrome m shell _ k
  | setIsLoading loading => exact find_updateChrome m shell _ k

/-- The data of a shell after calls depend on the calls for it alone. -/
lemma find_shellDataMap (headless : Bool) (calls : List (σ × ShellCall)) (shell : σ) :
    (shellDataMap headless calls).find shell =
      (callsFor shell calls).foldl (act headless) none := by
  rw [shellDataMap, OrderedMap.find_foldl (fun data e => act headless data e.2)
    (find_call headless), callsFor, List.foldl_map]
  rfl

/-! ## What the toolbars show -/

lemma last_concat {α : Type*} (f : ShellCall → Option α) (calls : List ShellCall) (c : ShellCall) :
    last f (calls ++ [c]) = (f c).or (last f calls) := by
  unfold last
  rw [List.filterMap_append, List.getLast?_append]
  cases h : f c with
  | none => rw [List.filterMap_cons_none h]; rfl
  | some a => rw [List.filterMap_cons_some h]; rfl

lemma sinceWindow_concat_window {c : ShellCall} (calls : List ShellCall) (h : windowOf c ≠ none) :
    sinceWindow (calls ++ [c]) = [] :=
  List.rtakeWhile_concat_neg _ _ _ fun hdec => h (of_decide_eq_true hdec)

lemma sinceWindow_concat {c : ShellCall} (calls : List ShellCall) (h : windowOf c = none) :
    sinceWindow (calls ++ [c]) = sinceWindow calls ++ [c] :=
  List.rtakeWhile_concat_pos _ _ _ (decide_eq_true h)

/-- What a call that keeps the toolbar does to what it should show. -/
def update : ShellCall → Toolbar → Toolbar
  | .enableUIControl control isEnabled => setControl control isEnabled
  | .setAddressBarURL spec => fun chrome => { chrome with texts := chrome.texts.setUrl spec }
  | .setIsLoading loading => fun chrome => { chrome with loading := loading }
  | _ => id

lemma expectedToolbar_concat (initialSize : Size) (calls : List ShellCall) (c : ShellCall) :
    expectedToolbar initialSize (calls ++ [c]) = update c (expectedToolbar initialSize calls) := by
  unfold expectedToolbar
  rw [last_concat, last_concat, last_concat, last_concat]
  cases c with
  | createPlatformWindow size => rfl
  | cleanUp => rfl
  | enableUIControl control isEnabled => cases control <;> rfl
  | setAddressBarURL spec => rfl
  | setIsLoading loading => rfl

/-- The toolbar after a call for its shell. -/
lemma bind_chrome_act (headless : Bool) (data : Option ShellData) (c : ShellCall) :
    (act headless data c).bind ShellData.chrome =
      match windowOf c with
      | none => (data.bind ShellData.chrome).map (update c)
      | some none => none
      | some (some initialSize) =>
        if headless then data.bind ShellData.chrome else some (.new (windowSize initialSize)) := by
  cases c with
  | createPlatformWindow initialSize => cases headless <;> cases data <;> rfl
  | cleanUp => rfl
  | enableUIControl control isEnabled => cases data <;> rfl
  | setAddressBarURL spec => cases data <;> rfl
  | setIsLoading loading => cases data <;> rfl

/-- What a shell should have after one more call for it. -/
lemma expected_concat (calls : List ShellCall) (c : ShellCall) :
    expected false (calls ++ [c]) =
      match windowOf c with
      | none => (expected false calls).map (update c)
      | some none => none
      | some (some initialSize) => some (.new (windowSize initialSize)) := by
  unfold expected
  rw [if_neg Bool.false_ne_true, if_neg Bool.false_ne_true, last_concat]
  rcases hwindow : windowOf c with _ | _ | initialSize
  · rw [Option.none_or, sinceWindow_concat calls hwindow, Option.map_map]
    exact Option.map_congr fun size _ => expectedToolbar_concat size _ c
  · rfl
  · rw [sinceWindow_concat_window calls (hwindow ▸ Option.some_ne_none _)]
    rfl

/-- A shell has the toolbar it should have, after the calls for it. -/
lemma bind_chrome_foldl_act (headless : Bool) (calls : List ShellCall) :
    (calls.foldl (act headless) none).bind ShellData.chrome = expected headless calls := by
  induction calls using List.reverseRecOn with
  | nil => cases headless <;> rfl
  | append_singleton calls c ih =>
    rw [List.foldl_concat, bind_chrome_act, ih]
    cases headless with
    | true => rcases windowOf c with _ | _ | initialSize <;> rfl
    | false => exact (expected_concat calls c).symm

/-- **What the toolbars show.**  After any calls for any shells, a shell has a toolbar if the
process is not headless and the shell's window was created and not cleaned up since.  The toolbar
has the size of that window, it shows the last URL, the last loading state and the last state of
each button that the shell was told since then, and the view of the shell is given the part of the
window below the toolbar. -/
theorem toolbar_eq_expected (headless : Bool) (calls : List (σ × ShellCall)) (shell : σ) :
    toolbar (shellDataMap headless calls) shell = expected headless (callsFor shell calls) ∧
      ∀ contentSize, resizeWebContent (shellDataMap headless calls) shell contentSize =
        (expected headless (callsFor shell calls)).elim contentSize fun chrome =>
          ⟨max chrome.size.width 0, max (chrome.size.height - 56) 0⟩ := by
  have htoolbar : toolbar (shellDataMap headless calls) shell =
      expected headless (callsFor shell calls) := by
    rw [toolbar, find_shellDataMap, bind_chrome_foldl_act]
  refine ⟨htoolbar, fun contentSize => ?_⟩
  rw [resizeWebContent, htoolbar]
  cases expected headless (callsFor shell calls) <;> rfl

end ShellPlatformDelegate

end ChromiumQnx
