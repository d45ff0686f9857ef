import ChromiumQnx.Foundation.PressRelease

/-!
# Keyboard events of the Screen event source

`ProcessKeyboardEvent` offers each Screen key event to the key callback of the toolbar.  An event
that is not consumed is translated by `MapQnxKey` into the Chromium key triple and dispatched when
the symbol has one.  The callback is asked for every event anew, so its answer may change between
the press and the release of a key.

The source is a gate in the sense of `PressRelease`: the keys are Screen symbols, the labels behind
the gate are key triples, and two symbols may share a triple.  When the callback treats each release
as it treated the presses it ends, the dispatched releases are matched by dispatched presses, and
every dispatched press is released.
-/

namespace ChromiumQnx

open PressRelease

/-! ## The key triple -/

/-- The special keys of `MapQnxKey`. -/
inductive SpecialKey
  | keycodeReturn
  | keycodeKpEnter
  | keycodeBackspace
  | keycodeTab
  | keycodeEscape
  | keycodeLeft
  | keycodeRight
  | keycodeUp
  | keycodeDown
  | keycodeHome
  | keycodeEnd
  | keycodePgUp
  | keycodePgDown
  | keycodeDelete
  | keycodeInsert
  deriving DecidableEq, Repr

/-- The cases of the switch, in its order. -/
def SpecialKey.cases : List SpecialKey :=
  [.keycodeReturn, .keycodeKpEnter, .keycodeBackspace, .keycodeTab, .keycodeEscape, .keycodeLeft,
    .keycodeRight, .keycodeUp, .keycodeDown, .keycodeHome, .keycodeEnd, .keycodePgUp,
    .keycodePgDown, .keycodeDelete, .keycodeInsert]

/-- `ui::KeyboardCode`.  Letters and digits are counted from `VKEY_A` and `VKEY_0`. -/
inductive KeyboardCode
  | vkeyUnknown
  | vkeyReturn
  | vkeyBack
  | vkeyTab
  | vkeyEscape
  | vkeyLeft
  | vkeyRight
  | vkeyUp
  | vkeyDown
  | vkeyHome
  | vkeyEnd
  | vkeyPrior
  | vkeyNext
  | vkeyDelete
  | vkeyInsert
  | vkeySpace
  | vkeyA (offset : ℤ)
  | vkey0 (offset : ℤ)
  deriving DecidableEq, Repr

/-- `ui::DomCode`. -/
inductive DomCode
  | none
  | enter
  | backspace
  | tab
  | escape
  | arrowLeft
  | arrowRight
  | arrowUp
  | arrowDown
  | home
  | «end»
  | pageUp
  | pageDown
  | del
  | insert
  | space
  deriving DecidableEq, Repr

/-- `ui::DomKey`: a named key, or `DomKey::FromCharacter`. -/
inductive DomKey
  | none
  | enter
  | backspace
  | tab
  | escape
  | arrowLeft
  | arrowRight
  | arrowUp
  | arrowDown
  | home
  | «end»
  | pageUp
  | pageDown
  | del
  | insert
  | character (c : ℤ)
  deriving DecidableEq, Repr

/-- `QnxKeyMap`, with its defaults. -/
structure QnxKeyMap where
  keyCode : KeyboardCode := .vkeyUnknown
  domCode : DomCode := .none
  domKey : DomKey := .none
  valid : Bool := false
  deriving DecidableEq, Repr

/-- The entry of a special key. -/
def SpecialKey.keyMap : SpecialKey → QnxKeyMap
  | .keycodeReturn | .keycodeKpEnter => ⟨.vkeyReturn, .enter, .enter, true⟩
  | .keycodeBackspace => ⟨.vkeyBack, .backspace, .backspace, true⟩
  | .keycodeTab => ⟨.vkeyTab, .tab, .tab, true⟩
  | .keycodeEscape => ⟨.vkeyEscape, .escape, .escape, true⟩
  | .keycodeLeft => ⟨.vkeyLeft, .arrowLeft, .arrowLeft, true⟩
  | .keycodeRight => ⟨.vkeyRight, .arrowRight, .arrowRight, true⟩
  | .keycodeUp => ⟨.vkeyUp, .arrowUp, .arrowUp, true⟩
  | .keycodeDown => ⟨.vkeyDown, .arrowDown, .arrowDown, true⟩
  | .keycodeHome => ⟨.vkeyHome, .home, .home, true⟩
  | .keycodeEnd => ⟨.vkeyEnd, .end, .end, true⟩
  | .keycodePgUp => ⟨.vkeyPrior, .pageUp, .pageUp, true⟩
  | .keycodePgDown => ⟨.vkeyNext, .pageDown, .pageDown, true⟩
  | .keycodeDelete => ⟨.vkeyDelete, .del, .del, true⟩
  | .keycodeInsert => ⟨.vkeyInsert, .insert, .insert, true⟩

/-- The entry of a symbol that is no special key: the printable ones lie below the private-use
area. -/
def printableKeyMap (sym : ℤ) : QnxKeyMap :=
  if 0x20 ≤ sym ∧ sym < 0xE000 then
    if 97 ≤ sym ∧ sym ≤ 122 then ⟨.vkeyA (sym - 97), .none, .character sym, true⟩
    else if 65 ≤ sym ∧ sym ≤ 90 then ⟨.vkeyA (sym - 65), .none, .character sym, true⟩
    else if 48 ≤ sym ∧ sym ≤ 57 then ⟨.vkey0 (sym - 48), .none, .character sym, true⟩
    else if sym = 32 then ⟨.vkeySpace, .space, .character 32, true⟩
    else ⟨.vkeyUnknown, .none, .character sym, true⟩
  else {}

/-- `MapQnxKey`.  The numbers of the special keys come from the system's header. -/
def mapQnxKey (keycode : SpecialKey → ℤ) (sym : ℤ) : QnxKeyMap :=
  match SpecialKey.cases.find? fun k => keycode k = sym with
  | some k => k.keyMap
  | none => printableKeyMap sym

/-! ## One event -/

/-- The modifier bits that are read, and the event flags made of them. -/
structure KeyModifiers where
  shift : Bool
  ctrl : Bool
  alt : Bool
  deriving DecidableEq, Repr

/-- The properties of a Screen key event: the symbol, `SCREEN_FLAG_KEY_DOWN` and the modifiers. -/
structure ScreenKey where
  sym : ℤ
  down : Bool
  mods : KeyModifiers
  deriving DecidableEq, Repr

/-- `ET_KEY_PRESSED` and `ET_KEY_RELEASED`. -/
inductive KeyEventType
  | pressed
  | released
  deriving DecidableEq, Repr

/-- A `KeyEvent`, without its time stamp. -/
structure KeyEvent where
  type : KeyEventType
  keyCode : KeyboardCode
  domCode : DomCode
  flags : KeyModifiers
  domKey : DomKey
  deriving DecidableEq, Repr

/-- `QnxScreenKeyCallback`: the symbol and whether it is a press; true when it is consumed. -/
abbrev QnxScreenKeyCallback := ℤ → Bool → Bool

/-- Whether the installed callback, if there is one, consumes the event. -/
def keyConsumed (keyCb : Option QnxScreenKeyCallback) (ev : ScreenKey) : Bool :=
  keyCb.any fun cb => cb ev.sym ev.down

/-- `ProcessKeyboardEvent`: the dispatched event, if there is one. -/
def processKeyboardEvent (keycode : SpecialKey → ℤ) (keyCb : Option QnxScreenKeyCallback)
    (ev : ScreenKey) : Option KeyEvent :=
  if keyConsumed keyCb ev then none
  else
    let m := mapQnxKey keycode ev.sym
    if !m.valid then none
    else
      some
        { type := if ev.down then .pressed else .released
          keyCode := m.keyCode
          domCode := m.domCode
          flags := ev.mods
          domKey := m.domKey }

/-! ## Streams of events -/

/-- Key code, DOM code and DOM key. -/
abbrev KeyTriple := KeyboardCode × DomCode × DomKey

/-- The triple of an entry. -/
def QnxKeyMap.triple (m : QnxKeyMap) : KeyTriple := (m.keyCode, m.domCode, m.domKey)

/-- A dispatched event as an entry of a log of key triples. -/
def KeyEvent.entry (e : KeyEvent) : KeyTriple × Phase :=
  ((e.keyCode, e.domCode, e.domKey), match e.type with | .pressed => .press | .released => .release)

/-- A Screen event together with the callback installed when it is processed.  The callbacks of two
events may differ, which gives every sequence of answers. -/
structure KeyInput where
  keyCb : Option QnxScreenKeyCallback
  event : ScreenKey

/-- The callback lets the event pass. -/
def KeyInput.declined (i : KeyInput) : Bool := !keyConsumed i.keyCb i.event

/-- The event is dispatched. -/
def KeyInput.passes (keycode : SpecialKey → ℤ) (i : KeyInput) : Bool :=
  i.declined && (mapQnxKey keycode i.event.sym).valid

/-- The events `ProcessKeyboardEvent` dispatches for a stream. -/
def dispatchedKeys (keycode : SpecialKey → ℤ) (inputs : List KeyInput) : List KeyEvent :=
  inputs.filterMap fun i => processKeyboardEvent keycode i.keyCb i.event

/-- The dispatched events as a log of key triples. -/
def keyLog (keycode : SpecialKey → ℤ) (inputs : List KeyInput) : List (KeyTriple × Phase) :=
  (dispatchedKeys keycode inputs).map KeyEvent.entry

/-- Each symbol that is pressed is released later. -/
def SymbolsReleased (inputs : List KeyInput) : Prop :=
  ∀ pre i post, inputs = pre ++ i :: post → i.event.down = true →
    ∃ r ∈ post, r.event.sym = i.event.sym ∧ r.event.down = false

/-- The callback declines the release of a symbol that has a key triple exactly when it declined a
press of it made since the symbol's previous release. -/
def AnswersAsPresses (keycode : SpecialKey → ℤ) (inputs : List KeyInput) : Prop :=
  ∀ pre i post, inputs = pre ++ i :: post → i.event.down = false →
    (mapQnxKey keycode i.event.sym).valid = true →
    (i.declined = true ↔ ∃ pre' p mid, pre = pre' ++ p :: mid ∧ p.event.sym = i.event.sym ∧
      p.event.down = true ∧ p.declined = true ∧
      ∀ r ∈ mid, r.event.sym = i.event.sym → r.event.down = true)

section Stream

variable (keycode : SpecialKey → ℤ)

/-- `ProcessKeyboardEvent` is the gate of the declined events with a valid triple. -/
lemma keyLog_eq_behind (inputs : List KeyInput) :
    keyLog keycode inputs = behind (fun i : KeyInput => i.event.sym) (fun i => !i.event.down)
      (KeyInput.passes keycode) (fun sym => (mapQnxKey keycode sym).triple) inputs := by
  unfold keyLog dispatchedKeys behind
  rw [List.map_filterMap]
  apply List.filterMap_congr
  intro i _
  unfold processKeyboardEvent passed KeyInput.passes KeyInput.declined
  cases keyConsumed i.keyCb i.event with
  | true => rfl
  | false =>
    cases hvalid : (mapQnxKey keycode i.event.sym).valid with
    | false => simp [hvalid]
    | true => cases hdown : i.event.down <;> simp [hvalid, hdown, KeyEvent.entry, QnxKeyMap.triple]

/-- A callback that answers as at the presses makes the gate consistent. -/
lemma AnswersAsPresses.consistent {inputs : List KeyInput}
    (h : AnswersAsPresses keycode inputs) :
    Consistent (fun i : KeyInput => i.event.sym) (fun i => !i.event.down)
      (KeyInput.passes keycode) inputs := by
  intro pre i post hsplit hrel
  rw [heldAfter_record_iff]
  cases hvalid : (mapQnxKey keycode i.event.sym).valid with
  | false =>
    refine iff_of_false (by simp [KeyInput.passes, hvalid]) ?_
    rintro ⟨pre', p, mid, -, hsym, -, hpass, -⟩
    simp [KeyInput.passes, hsym, hvalid] at hpass
  | true =>
    have hi := h pre i post hsplit (by simpa using hrel) hvalid
    have hpasses : i.passes keycode = i.declined := by simp [KeyInput.passes, hvalid]
    rw [hpasses, hi]
    refine exists_congr fun pre' => exists_congr fun p => exists_congr fun mid => ?_
    refine and_congr_right fun _ => and_congr_right fun hsym => ?_
    simp [KeyInput.passes, hsym, hvalid]

/-- **Keys behind the callback.**  In a stream in which each pressed symbol is released later, and
whose callback answers each release as it answered the presses that the release ends, every
dispatched release finds an earlier dispatched press of the same triple that has not been released
yet, and every dispatched press is followed by a dispatched release of the same triple. -/
theorem keyLog_matched_and_released {inputs : List KeyInput} (hreleased : SymbolsReleased inputs)
    (hanswers : AnswersAsPresses keycode inputs) :
    ReleasesMatched (keyLog keycode inputs) ∧ PressesReleased (keyLog keycode inputs) := by
  rw [keyLog_eq_behind]
  have hgate := hanswers.consistent
  constructor
  · exact hgate.releasesMatched
  · apply hgate.pressesReleased
    intro pre i post hsplit hpress
    obtain ⟨r, hr, hsym, hdown⟩ := hreleased pre i post hsplit (by simpa using hpress)
    exact ⟨r, hr, hsym, by simp [hdown]⟩

end Stream

/-- The numbers of a keyboard on which the special keys follow each other in the private-use
area. -/
def sampleKeycode (k : SpecialKey) : ℤ := 0xF000 + SpecialKey.cases.idxOf k

/-- A press and a release of the letter `a`, each with the answer to it. -/
def tapOfA (pressConsumed releaseConsumed : Bool) : List KeyInput :=
  [⟨some fun _ _ => pressConsumed, ⟨97, true, ⟨false, false, false⟩⟩⟩,
    ⟨some fun _ _ => releaseConsumed, ⟨97, false, ⟨false, false, false⟩⟩⟩]

/-- The press of a tap is released by it. -/
lemma tapOfA_symbolsReleased (b c : Bool) : SymbolsReleased (tapOfA b c) := by
  intro pre i post hsplit hdown
  rcases pair_eq_append_cons hsplit with ⟨-, rfl, rfl⟩ | ⟨-, rfl, -⟩
  · exact ⟨_, List.mem_singleton_self _, rfl, rfl⟩
  · cases hdown

/-- A tap both of whose events are declined is dispatched whole. -/
theorem declinedTap_matched_and_released :
    ReleasesMatched (keyLog sampleKeycode (tapOfA false false)) ∧
      PressesReleased (keyLog sampleKeycode (tapOfA false false)) := by
  apply keyLog_matched_and_released sampleKeycode (tapOfA_symbolsReleased false false)
  intro pre i post hsplit hup _
  rcases pair_eq_append_cons hsplit with ⟨-, rfl, -⟩ | ⟨rfl, rfl, -⟩
  · cases hup
  · exact iff_of_true rfl ⟨[], _, [], rfl, rfl, rfl, rfl, by simp⟩

/-- The toolbar consumes the press and declines the release: Chromium is told of the release of a
key that was never pressed. -/
theorem consumedPress_not_matched :
    SymbolsReleased (tapOfA true false) ∧
      ¬ ReleasesMatched (keyLog sampleKeycode (tapOfA true false)) := by
  refine ⟨tapOfA_symbolsReleased true false, fun h => ?_⟩
  have hlog : keyLog sampleKeycode (tapOfA true false) =
      [] ++ ((.vkeyA 0, .none, .character 97), .release) :: [] := by decide
  exact absurd (h [] _ [] hlog) (by decide)

end ChromiumQnx
