import ChromiumQnx.Base.FilesQnx
import ChromiumQnx.Foundation.StringSearch
import Mathlib.Data.List.ReduceOption

/-!
# What the polls of a watch report

`FileWatchPoll` compares what `stat` reports for the stored path with the stored `last_stat`.  A
watched file that is absent is reported at every poll, since nothing is stored about its absence,
and a file that comes back is compared with what it was before it went.  The stored path is the
first 1023 bytes of the one given to `FileWatchAdd`.

`PollRun` carries along with the table, for every watch, its path and what `stat` has reported for
it and for the stored path, at the add and at each poll.  The main result says in terms of these
histories alone exactly which polls report a change when there was one, in any sequence of adds,
removals and polls.
-/

namespace ChromiumQnx

open TransitionSystem

/-! ## The polls of one watch -/

/-- The slots after one was written. -/
lemma FileWatches.watches_setWatch (s : FileWatches) (i j : Fin 64) (watch : FileWatchState) :
    (s.setWatch i watch).watches j = if j = i then watch else s.watches j :=
  Function.update_apply s.watches i watch j

/-- The slots after an add that finds one: the slot named by the returned id holds the new watch. -/
lemma watches_fileWatchAdd {stat : StatWorld} {path : List UInt8} {s : FileWatches} {i : Fin 64}
    (h : (fileWatchAdd stat path s).1 = i) (j : Fin 64) :
    (fileWatchAdd stat path s).2.watches j = if j = i then
      { path := copiedPath path
        lastStat := (stat path).getD (s.watches i).lastStat
        active := true }
    else s.watches j := by
  by_cases hlt : s.watchCount < 64
  · have hi : (⟨s.watchCount, hlt⟩ : Fin 64) = i := by
      obtain ⟨hid, -, -⟩ := fileWatchAdd_of_lt stat path hlt
      apply Fin.ext
      change s.watchCount = (i : ℕ)
      omega
    unfold fileWatchAdd
    rw [dif_pos hlt, hi]
    exact FileWatches.watches_setWatch s i j _
  · rw [fileWatchAdd_of_ge stat path (by omega)] at h
    have := i.isLt
    change (-1 : ℤ) = (i : ℕ) at h
    omega

/-- An add that finds no slot changes none. -/
lemma watches_fileWatchAdd_of_none {stat : StatWorld} {path : List UInt8} {s : FileWatches}
    (h : watchSlot (fileWatchAdd stat path s).1 = none) :
    (fileWatchAdd stat path s).2.watches = s.watches := by
  by_cases hlt : s.watchCount < 64
  · obtain ⟨hid, -, -⟩ := fileWatchAdd_of_lt stat path hlt
    have hslot := watchSlot_eq_some (i := ⟨s.watchCount, hlt⟩).mpr hid
    rw [h] at hslot
    cases hslot
  · rw [fileWatchAdd_of_ge stat path (by omega)]

/-- A removal leaves the other slots alone. -/
lemma watches_fileWatchRemove_of_ne {watchId : ℤ} {s : FileWatches} {j : Fin 64}
    (h : watchSlot watchId ≠ some j) : (fileWatchRemove watchId s).watches j = s.watches j := by
  unfold fileWatchRemove
  split
  · rename_i i hi
    rw [FileWatches.watches_setWatch, if_neg fun hj => h (by rw [hi, hj])]
  · rfl

/-- A poll leaves the other slots alone. -/
lemma watches_fileWatchPoll_of_ne {stat : StatWorld} {watchId : ℤ} {s : FileWatches} {j : Fin 64}
    (h : watchSlot watchId ≠ some j) :
    (fileWatchPoll stat watchId s).2.watches j = s.watches j := by
  unfold fileWatchPoll
  split
  · rfl
  · rename_i i hi
    have hne : ∀ watch, (s.setWatch i watch).watches j = s.watches j := by
      intro watch
      rw [FileWatches.watches_setWatch, if_neg fun hj => h (by rw [hi, hj])]
    dsimp only
    split
    · rfl
    · split
      · rfl
      · split
        · exact hne _
        · rfl

/-- **One poll.**  A poll of an active watch reports a change exactly when `stat` does not report
the stored state, and afterwards the reported state is stored, if there is one. -/
lemma fileWatchPoll_of_active {stat : StatWorld} {watchId : ℤ} {s : FileWatches} {i : Fin 64}
    (hslot : watchSlot watchId = some i) (hactive : (s.watches i).active = true) :
    ((fileWatchPoll stat watchId s).1 = true ↔
        stat (s.watches i).path ≠ some (s.watches i).lastStat) ∧
      (fileWatchPoll stat watchId s).2.watches i =
        { s.watches i with
          lastStat := (stat (s.watches i).path).getD (s.watches i).lastStat } := by
  have hguard : ¬ (!(s.watches i).active) = true := by simp [hactive]
  unfold fileWatchPoll
  rw [hslot]
  dsimp only
  rw [if_neg hguard]
  cases hstat : stat (s.watches i).path with
  | none => exact ⟨iff_of_true rfl nofun, rfl⟩
  | some current =>
    dsimp only
    by_cases hsame : current = (s.watches i).lastStat
    · rw [if_neg (by rw [hsame]; simp), hsame]
      exact ⟨iff_of_false Bool.false_ne_true (fun h => h rfl), rfl⟩
    · have hdiffers : current.mtime ≠ (s.watches i).lastStat.mtime ∨
          current.size ≠ (s.watches i).lastStat.size := by
        by_contra hnot
        obtain ⟨hmtime, hsize⟩ := not_or.mp hnot
        apply hsame
        cases current
        cases hlast : (s.watches i).lastStat
        simp_all
      rw [if_pos hdiffers, FileWatches.watches_setWatch, if_pos rfl]
      simp [hsame]

/-- A path of at most 1023 bytes before its terminator is stored whole. -/
lemma copiedPath_eq_self {path : List UInt8} (hzero : 0 ∉ path) (hlen : path.length ≤ 1023) :
    copiedPath path = path := by
  rw [copiedPath, StringSearch.takeWhile_ne_eq_self hzero, List.take_of_length_le hlen]

/-! ## Any number of calls -/

/-- A path: the bytes before its terminator. -/
def WatchPath := { path : List UInt8 // 0 ∉ path }

/-- A file that is watched: what `stat` reported for its path at the add, and at each poll of the
watch what it reports for the path and for the stored path. -/
structure WatchedFile where
  path : WatchPath
  added : Option FileStat
  polls : List (Option FileStat × Option FileStat)

/-- The state in which a file was found the last time it was there; zeros if it never was. -/
def lastSeen (history : List (Option FileStat)) : FileStat :=
  history.reduceOption.getLast?.getD ⟨0, 0⟩

namespace WatchedFile

/-- The history of the watched file. -/
def states (f : WatchedFile) : List (Option FileStat) := f.added :: f.polls.map Prod.fst

/-- The history of the file of the stored path; the add looks at the watched file itself. -/
def storedStates (f : WatchedFile) : List (Option FileStat) := f.added :: f.polls.map Prod.snd

/-- The state of the watched file at the last poll, or at the add. -/
def lastState (f : WatchedFile) : Option FileStat := f.states.getLast (List.cons_ne_nil _ _)

/-- The file after one more poll. -/
def poll (f : WatchedFile) (stat : StatWorld) : WatchedFile :=
  { f with polls := f.polls ++ [(stat f.path.1, stat (copiedPath f.path.1))] }

lemma states_poll (f : WatchedFile) (stat : StatWorld) :
    (f.poll stat).states = f.states ++ [stat f.path.1] := by
  simp [poll, states]

lemma storedStates_poll (f : WatchedFile) (stat : StatWorld) :
    (f.poll stat).storedStates = f.storedStates ++ [stat (copiedPath f.path.1)] := by
  simp [poll, storedStates]

end WatchedFile

/-- A file that is there is seen, and one that is not leaves what was seen before. -/
lemma lastSeen_concat (history : List (Option FileStat)) (state : Option FileStat) :
    lastSeen (history ++ [state]) = state.getD (lastSeen history) := by
  unfold lastSeen
  rw [List.reduceOption_append]
  cases state with
  | none => rw [List.reduceOption_singleton, Option.toList_none, List.append_nil, Option.getD_none]
  | some seen =>
    rw [List.reduceOption_singleton, Option.toList_some, List.getLast?_concat, Option.getD_some,
      Option.getD_some]

/-- A file that was there at the last poll was seen then. -/
lemma WatchedFile.lastSeen_states {f : WatchedFile} {seen : FileStat}
    (h : f.lastState = some seen) : lastSeen f.states = seen := by
  have hconcat := List.dropLast_append_getLast (l := f.states) (List.cons_ne_nil _ _)
  rw [← hconcat, lastSeen_concat]
  change f.lastState.getD _ = seen
  rw [h, Option.getD_some]

/-- The table, and the watched file of every slot that is handed out and not released. -/
structure PollRun where
  table : FileWatches
  watched : Fin 64 → Option WatchedFile

/-- One call of the watcher's interface, with what `stat` reports during it. -/
inductive PollCall
  | add (stat : StatWorld) (path : WatchPath)
  | remove (watchId : ℤ)
  | poll (stat : StatWorld) (watchId : ℤ)

namespace PollRun

/-- Setting the watched file of the slot that an id names. -/
def setWatched (s : PollRun) (watchId : ℤ) (f : Fin 64 → Option WatchedFile) :
    Fin 64 → Option WatchedFile :=
  match watchSlot watchId with
  | some i => Function.update s.watched i (f i)
  | none => s.watched

/-- One call. -/
def step (s : PollRun) : PollCall → Option PollRun
  | .add stat path =>
    some
      { table := (fileWatchAdd stat path.1 s.table).2
        watched := s.setWatched (fileWatchAdd stat path.1 s.table).1
          fun _ => some ⟨path, stat path.1, []⟩ }
  | .remove watchId =>
    some
      { table := fileWatchRemove watchId s.table
        watched := s.setWatched watchId fun _ => none }
  | .poll stat watchId =>
    some
      { table := (fileWatchPoll stat watchId s.table).2
        watched := s.setWatched watchId fun i => (s.watched i).map fun f => f.poll stat }

/-- A slot that has not been handed out. -/
def zeroWatch : FileWatchState := ⟨[], ⟨0, 0⟩, false⟩

/-- The zero-initialised table of the program's start. -/
def start : PollRun where
  table := { watches := fun _ => zeroWatch, watchCount := 0 }
  watched := fun _ => none

/-- A poll of a watch reports a change exactly when the state of its file differs from the one at
the previous poll of the watch, or at the add. -/
def PollsRight (s : PollRun) : PollCall → Prop
  | .poll stat watchId => ∀ i, watchSlot watchId = some i → ∀ f, s.watched i = some f →
    ((fileWatchPoll stat watchId s.table).1 = true ↔ stat f.path.1 ≠ f.lastState)
  | _ => True

/-- A file that was absent when its watch was polled last is there again, and not as it was last
seen.  For a path that is too long to be stored, the file of the shortened path is there as it was
last seen exactly when the watched file is as it was at the last poll. -/
def SeesChange (s : PollRun) : PollCall → Prop
  | .poll stat watchId => ∀ i, watchSlot watchId = some i → ∀ f, s.watched i = some f →
    if f.path.1.length ≤ 1023 then
      f.lastState = none →
        stat f.path.1 ≠ none ∧ stat f.path.1 ≠ some (lastSeen f.states)
    else
      (stat (copiedPath f.path.1) = some (lastSeen f.storedStates) ↔ stat f.path.1 = f.lastState)
  | _ => True

/-- What the table holds of a watched file: its path as far as it fits, and the state in which the
file of this path was last seen. -/
structure Holds (watch : FileWatchState) (f : WatchedFile) : Prop where
  active : watch.active = true
  path : watch.path = copiedPath f.path.1
  lastStat : watch.lastStat = lastSeen f.storedStates
  storedStates : f.path.1.length ≤ 1023 → f.storedStates = f.states

/-- The table holds the watched files, and the slots that have not been handed out are zero. -/
structure Inv (s : PollRun) : Prop where
  holds : ∀ i f, s.watched i = some f → Holds (s.table.watches i) f
  zero : ∀ i : Fin 64, s.table.watchCount ≤ i → s.table.watches i = zeroWatch

lemma start_inv : start.Inv where
  holds _ _ h := by cases h
  zero _ _ := rfl

/-- The watched files after a call that sets the one of the slot `i`. -/
lemma setWatched_of_some {s : PollRun} {watchId : ℤ} {i : Fin 64}
    (hslot : watchSlot watchId = some i) (f : Fin 64 → Option WatchedFile) (j : Fin 64) :
    s.setWatched watchId f j = if j = i then f i else s.watched j := by
  unfold setWatched
  rw [hslot]
  exact Function.update_apply s.watched i (f i) j

lemma setWatched_of_none {s : PollRun} {watchId : ℤ} (hslot : watchSlot watchId = none)
    (f : Fin 64 → Option WatchedFile) : s.setWatched watchId f = s.watched := by
  unfold setWatched
  rw [hslot]

/-- A call that leaves the other slots alone still holds the watched files if it holds its own. -/
lemma Inv.holds_setWatched {s : PollRun} (hs : s.Inv) {table : FileWatches} {watchId : ℤ}
    {f : Fin 64 → Option WatchedFile}
    (hothers : ∀ j, watchSlot watchId ≠ some j → table.watches j = s.table.watches j)
    (hown : ∀ i, watchSlot watchId = some i → ∀ g, f i = some g → Holds (table.watches i) g) :
    ∀ j g, s.setWatched watchId f j = some g → Holds (table.watches j) g := by
  intro j g hg
  cases hslot : watchSlot watchId with
  | none =>
    rw [setWatched_of_none hslot] at hg
    rw [hothers j (by rw [hslot]; exact nofun)]
    exact hs.holds j g hg
  | some i =>
    rw [setWatched_of_some hslot] at hg
    split at hg
    · rename_i hj
      rw [hj]
      exact hown i hslot g hg
    · rename_i hj
      rw [hothers j fun h => hj (Option.some.inj (h.symm.trans hslot))]
      exact hs.holds j g hg

/-- A removal and a poll do not touch a slot that has not been handed out. -/
lemma fileWatchRemove_zero {watchId : ℤ} {s : FileWatches} {i : Fin 64}
    (h : s.watches i = zeroWatch) : (fileWatchRemove watchId s).watches i = zeroWatch := by
  by_cases hslot : watchSlot watchId = some i
  · unfold fileWatchRemove
    rw [hslot]
    dsimp only
    rw [FileWatches.watches_setWatch, if_pos rfl, h]
    rfl
  · rw [watches_fileWatchRemove_of_ne hslot, h]

lemma fileWatchPoll_zero {stat : StatWorld} {watchId : ℤ} {s : FileWatches} {i : Fin 64}
    (h : s.watches i = zeroWatch) : (fileWatchPoll stat watchId s).2.watches i = zeroWatch := by
  by_cases hslot : watchSlot watchId = some i
  · unfold fileWatchPoll
    rw [hslot]
    dsimp only
    rw [if_pos (by rw [h]; rfl), h]
  · rw [watches_fileWatchPoll_of_ne hslot, h]

/-- The slot that an add hands out was zero. -/
lemma Inv.watches_eq_zero {s : PollRun} (hs : s.Inv) {stat : StatWorld} {path : List UInt8}
    {i : Fin 64} (hslot : watchSlot (fileWatchAdd stat path s.table).1 = some i) :
    s.table.watches i = zeroWatch := by
  refine hs.zero i ?_
  have hid := watchSlot_eq_some.mp hslot
  by_cases hlt : s.table.watchCount < 64
  · rw [(fileWatchAdd_of_lt stat path hlt).1] at hid
    omega
  · rw [fileWatchAdd_of_ge stat path (not_lt.mp hlt)] at hid
    exact absurd hid (by omega)

/-- Every call keeps the invariant. -/
lemma Inv.step {s s' : PollRun} {call : PollCall} (hs : s.Inv)
    (hstep : PollRun.step s call = some s') : s'.Inv := by
  cases call with
  | add stat path =>
    cases hstep
    have hothers (j : Fin 64) (hj : watchSlot (fileWatchAdd stat path.1 s.table).1 ≠ some j) :
        (fileWatchAdd stat path.1 s.table).2.watches j = s.table.watches j := by
      cases hslot : watchSlot (fileWatchAdd stat path.1 s.table).1 with
      | none => rw [watches_fileWatchAdd_of_none hslot]
      | some i =>
        rw [watches_fileWatchAdd (watchSlot_eq_some.mp hslot), if_neg]
        rintro rfl
        exact hj hslot
    refine ⟨hs.holds_setWatched hothers ?_, fun j hj => ?_⟩
    · rintro i hslot _ ⟨⟩
      rw [watches_fileWatchAdd (watchSlot_eq_some.mp hslot), if_pos rfl,
        hs.watches_eq_zero hslot]
      exact ⟨rfl, rfl, (lastSeen_concat [] (stat path.1)).symm, fun _ => rfl⟩
    · by_cases hlt : s.table.watchCount < 64
      · obtain ⟨hid, hcount, -⟩ := fileWatchAdd_of_lt stat path.1 hlt
        rw [hcount] at hj
        rw [hothers j fun h => ?_, hs.zero j (by omega)]
        have := watchSlot_eq_some.mp h
        omega
      · rw [fileWatchAdd_of_ge stat path.1 (not_lt.mp hlt)] at hj ⊢
        exact hs.zero j hj
  | remove watchId =>
    cases hstep
    refine ⟨hs.holds_setWatched (fun j hj => watches_fileWatchRemove_of_ne hj) ?_, fun j hj => ?_⟩
    · intro i _ g hg
      cases hg
    · rw [fileWatchRemove_watchCount] at hj
      exact fileWatchRemove_zero (hs.zero j hj)
  | poll stat watchId =>
    cases hstep
    refine ⟨hs.holds_setWatched (fun j hj => watches_fileWatchPoll_of_ne hj) ?_, fun j hj => ?_⟩
    · intro i hslot g hg
      obtain ⟨f, hf, rfl⟩ := Option.map_eq_some_iff.mp hg
      have hholds := hs.holds i f hf
      rw [(fileWatchPoll_of_active hslot hholds.active).2]
      refine ⟨hholds.active, hholds.path, ?_, fun hlen => ?_⟩
      · rw [WatchedFile.storedStates_poll, lastSeen_concat, ← hholds.lastStat, hholds.path]
      · rw [WatchedFile.storedStates_poll, WatchedFile.states_poll, hholds.storedStates hlen,
          copiedPath_eq_self f.path.2 hlen]
    · rw [(fileWatchPoll_frame stat watchId s.table).1] at hj
      exact fileWatchPoll_zero (hs.zero j hj)

/-- Under the invariant a poll is right exactly when its watch sees the change. -/
lemma Inv.pollsRight_iff {s : PollRun} (hs : s.Inv) (call : PollCall) :
    PollsRight s call ↔ SeesChange s call := by
  cases call with
  | add stat path => exact Iff.rfl
  | remove watchId => exact Iff.rfl
  | poll stat watchId =>
    refine forall₂_congr fun i hslot => forall₂_congr fun f hf => ?_
    have hholds := hs.holds i f hf
    rw [(fileWatchPoll_of_active hslot hholds.active).1, hholds.path, hholds.lastStat]
    split
    · rename_i hlen
      rw [copiedPath_eq_self f.path.2 hlen, hholds.storedStates hlen]
      cases hstate : f.lastState with
      | some seen =>
        -- the file was seen at the previous poll
        rw [WatchedFile.lastSeen_states hstate]
        exact iff_of_true Iff.rfl nofun
      | none =>
        constructor
        · intro hright _
          have hpresent : stat f.path.1 ≠ none := by
            intro hnone
            exact hright.mp (by rw [hnone]; exact nofun) hnone
          exact ⟨hpresent, hright.mpr hpresent⟩
        · intro hsees
          obtain ⟨hpresent, hdiffers⟩ := hsees rfl
          exact iff_of_true hdiffers hpresent
    · exact not_iff_not

/-- From every state of the invariant, the runs whose polls are right are those whose watches see
the changes. -/
lemma Inv.stepsMeet_iff {s : PollRun} (hs : s.Inv) (calls : List PollCall) :
    StepsMeet PollRun.step PollsRight s calls ↔ StepsMeet PollRun.step SeesChange s calls := by
  apply stepsMeet_congr (I := Inv) hs
  · intro s call s' hs hstep
    exact hs.step hstep
  · intro s call s' hs _
    exact hs.pollsRight_iff call

/-- **Exactness of the polls.**  In every sequence of calls and for every history of the files, all
polls report a change exactly when there was one, if and only if no watched file is found absent
that was absent before, or comes back as it was last seen, and the files of the paths that are too
long stand still together with those of the shortened paths. -/
theorem pollsRight_iff_seesChange (calls : List PollCall) :
    StepsMeet step PollsRight start calls ↔ StepsMeet step SeesChange start calls :=
  start_inv.stepsMeet_iff calls

/-- A file that is absent all the time is reported by the first poll of its watch. -/
theorem absentFile_not_pollsRight :
    ¬ StepsMeet step PollsRight start
      [.add (fun _ => none) ⟨[97], by decide⟩, .poll (fun _ => none) 0] := by
  intro h
  have hpoll := ((h _ rfl).2 _ rfl).1 0 rfl ⟨⟨[97], by decide⟩, none, []⟩ rfl
  exact hpoll.mp rfl rfl

end PollRun

end ChromiumQnx
