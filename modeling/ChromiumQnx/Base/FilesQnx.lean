import ChromiumQnx.Foundation.TransitionSystem
import Mathlib.Data.Fintype.Basic
import Mathlib.Data.Fintype.Card
import Mathlib.Logic.Function.Basic

/-!
# The polling file watcher

QNX has no inotify, so `files_qnx.cc` keeps a table of 64 watches.  `FileWatchAdd` hands out the
slots by a counter and marks the slot active, `FileWatchRemove` clears the mark, and
`FileWatchPoll` compares what `stat` reports with what was stored.

The counter is never lowered.  `WatchRun` carries along with the table how many calls of
`FileWatchAdd` have been made and whether a watch has been released, both read off the calls alone.
The invariant `WatchRun.Inv` ties these to the table: the slots below the counter have been handed
out, and unless a watch was released all of them are active.
-/

namespace ChromiumQnx

open TransitionSystem

/-! ## The functions of the watcher -/

/-- The fields of `struct stat` that `FileWatchPoll` compares. -/
structure FileStat where
  mtime : ℤ
  size : ℤ
  deriving DecidableEq, Repr

/-- `FileWatchState`: the path as the bytes before its terminator. -/
structure FileWatchState where
  path : List UInt8
  lastStat : FileStat
  active : Bool
  deriving DecidableEq, Repr

/-- `g_watches` and `g_watch_count`. -/
structure FileWatches where
  watches : Fin 64 → FileWatchState
  watchCount : ℕ

/-- The table after one slot was written. -/
def FileWatches.setWatch (s : FileWatches) (i : Fin 64) (watch : FileWatchState) : FileWatches :=
  { s with watches := Function.update s.watches i watch }

/-- What `stat` reports for a path, `none` when it fails. -/
abbrev StatWorld := List UInt8 → Option FileStat

/-- The bytes of a path that are copied into a slot: those before the terminator, 1023 at most. -/
def copiedPath (path : List UInt8) : List UInt8 := (path.takeWhile (· ≠ 0)).take 1023

/-- `FileWatchAdd`: the returned id and the table afterwards.  A failing `stat` leaves the slot's
`last_stat` as it was. -/
def fileWatchAdd (stat : StatWorld) (path : List UInt8) (s : FileWatches) : ℤ × FileWatches :=
  if h : s.watchCount < 64 then
    let idx : Fin 64 := ⟨s.watchCount, h⟩
    let state : FileWatchState :=
      { path := copiedPath path
        lastStat := (stat path).getD (s.watches idx).lastStat
        active := true }
    (idx, { s.setWatch idx state with watchCount := s.watchCount + 1 })
  else (-1, s)

/-- The slot a watch id names, `none` when it is out of range. -/
def watchSlot (watchId : ℤ) : Option (Fin 64) :=
  if h : 0 ≤ watchId ∧ watchId < 64 then some ⟨watchId.toNat, by omega⟩ else none

/-- `FileWatchRemove`. -/
def fileWatchRemove (watchId : ℤ) (s : FileWatches) : FileWatches :=
  match watchSlot watchId with
  | some i => s.setWatch i { s.watches i with active := false }
  | none => s

/-- `FileWatchPoll`: whether a change is reported, and the table afterwards. -/
def fileWatchPoll (stat : StatWorld) (watchId : ℤ) (s : FileWatches) : Bool × FileWatches :=
  match watchSlot watchId with
  | none => (false, s)
  | some i =>
    let watch := s.watches i
    if !watch.active then (false, s) else
    match stat watch.path with
    | none => (true, s)
    | some current =>
      if current.mtime ≠ watch.lastStat.mtime ∨ current.size ≠ watch.lastStat.size then
        (true, s.setWatch i { watch with lastStat := current })
      else (false, s)

/-- The slots of the active watches. -/
def FileWatches.active (s : FileWatches) : Finset (Fin 64) :=
  Finset.univ.filter fun i => (s.watches i).active

@[simp] lemma FileWatches.mem_active {s : FileWatches} {i : Fin 64} :
    i ∈ s.active ↔ (s.watches i).active = true := by
  simp [FileWatches.active]

/-- Writing a slot decides whether that slot is active and leaves the others. -/
lemma mem_active_setWatch {s : FileWatches} {i j : Fin 64} {watch : FileWatchState} :
    j ∈ (s.setWatch i watch).active ↔ if j = i then watch.active = true else j ∈ s.active := by
  rw [FileWatches.mem_active]
  change (Function.update s.watches i watch j).active = true ↔ _
  rw [Function.update_apply]
  split
  · exact Iff.rfl
  · exact FileWatches.mem_active.symm

/-- With a slot left, an add returns the counter, activates that slot and advances the counter. -/
lemma fileWatchAdd_of_lt (stat : StatWorld) (path : List UInt8) {s : FileWatches}
    (h : s.watchCount < 64) :
    (fileWatchAdd stat path s).1 = s.watchCount ∧
      (fileWatchAdd stat path s).2.watchCount = s.watchCount + 1 ∧
      (fileWatchAdd stat path s).2.active = insert ⟨s.watchCount, h⟩ s.active := by
  unfold fileWatchAdd
  rw [dif_pos h]
  refine ⟨rfl, rfl, ?_⟩
  ext i
  rw [Finset.mem_insert]
  apply mem_active_setWatch.trans
  split
  · rename_i hi
    exact iff_of_true rfl (Or.inl hi)
  · rename_i hi
    exact ⟨Or.inr, fun h => h.resolve_left hi⟩

/-- With no slot left, an add fails and changes nothing. -/
lemma fileWatchAdd_of_ge (stat : StatWorld) (path : List UInt8) {s : FileWatches}
    (h : 64 ≤ s.watchCount) : fileWatchAdd stat path s = (-1, s) :=
  dif_neg (by omega)

@[simp] lemma fileWatchRemove_watchCount (watchId : ℤ) (s : FileWatches) :
    (fileWatchRemove watchId s).watchCount = s.watchCount := by
  unfold fileWatchRemove
  split <;> rfl

/-- The slot a watch id names is the id itself. -/
lemma watchSlot_eq_some {watchId : ℤ} {i : Fin 64} : watchSlot watchId = some i ↔ watchId = i := by
  unfold watchSlot
  split
  · rename_i h
    rw [Option.some.injEq, Fin.ext_iff]
    change watchId.toNat = (i : ℕ) ↔ watchId = ((i : ℕ) : ℤ)
    omega
  · rename_i h
    refine ⟨fun hi => absurd hi (by simp), fun hi => absurd ?_ h⟩
    have := i.isLt
    omega

/-- A removal takes the named slot out of the active ones, and no other. -/
lemma mem_active_fileWatchRemove {watchId : ℤ} {s : FileWatches} {i : Fin 64} :
    i ∈ (fileWatchRemove watchId s).active ↔ i ∈ s.active ∧ watchId ≠ i := by
  unfold fileWatchRemove
  split
  · rename_i j hj
    have hid : watchId = j := watchSlot_eq_some.mp hj
    apply mem_active_setWatch.trans
    split
    · rename_i hij
      exact iff_of_false Bool.false_ne_true fun h => h.2 (by rw [hid, hij])
    · rename_i hij
      refine ⟨fun h => ⟨h, fun hi => hij ?_⟩, fun h => h.1⟩
      exact Fin.ext (by omega)
  · rename_i hnone
    refine ⟨fun h => ⟨h, fun hi => ?_⟩, fun h => h.1⟩
    rw [watchSlot_eq_some.mpr hi] at hnone
    cases hnone

/-- A poll changes neither the counter nor which watches are active. -/
lemma fileWatchPoll_frame (stat : StatWorld) (watchId : ℤ) (s : FileWatches) :
    (fileWatchPoll stat watchId s).2.watchCount = s.watchCount ∧
      (fileWatchPoll stat watchId s).2.active = s.active := by
  unfold fileWatchPoll
  split
  · exact ⟨rfl, rfl⟩
  · rename_i i _
    dsimp only
    split
    · exact ⟨rfl, rfl⟩
    · split
      · exact ⟨rfl, rfl⟩
      · split
        · refine ⟨rfl, ?_⟩
          ext j
          apply mem_active_setWatch.trans
          split
          · rename_i hj
            rw [hj, FileWatches.mem_active]
          · exact Iff.rfl
        · exact ⟨rfl, rfl⟩

/-! ## Any number of calls -/

/-- One call of the watcher's interface, with what `stat` reports during it. -/
inductive FileWatchCall
  | add (stat : StatWorld) (path : List UInt8)
  | remove (watchId : ℤ)
  | poll (stat : StatWorld) (watchId : ℤ)

/-- The table, and what the calls made so far say: the number of `FileWatchAdd` calls, and whether
`FileWatchRemove` was called with an id that had been handed out. -/
structure WatchRun where
  table : FileWatches
  added : ℕ
  released : Bool

namespace WatchRun

/-- One call. -/
def step (s : WatchRun) : FileWatchCall → Option WatchRun
  | .add stat path =>
    some { s with table := (fileWatchAdd stat path s.table).2, added := s.added + 1 }
  | .remove watchId =>
    some
      { s with
        table := fileWatchRemove watchId s.table
        released := s.released || decide (0 ≤ watchId ∧ watchId < 64 ∧ watchId < s.added) }
  | .poll stat watchId => some { s with table := (fileWatchPoll stat watchId s.table).2 }

/-- The zero-initialised table of the program's start. -/
def start : WatchRun where
  table := { watches := fun _ => ⟨[], ⟨0, 0⟩, false⟩, watchCount := 0 }
  added := 0
  released := false

/-- What is promised of a call: an add made while fewer than 64 watches are active succeeds, and
the id it returns is not that of an active watch. -/
def AddsWell (s : WatchRun) : FileWatchCall → Prop
  | .add stat path =>
    (s.table.active.card < 64 → 0 ≤ (fileWatchAdd stat path s.table).1) ∧
      ∀ i ∈ s.table.active, (fileWatchAdd stat path s.table).1 ≠ i
  | _ => True

/-- An add comes in time when fewer than 64 adds were made before it or no watch has been released
so far. -/
def AddsInTime (s : WatchRun) : FileWatchCall → Prop
  | .add _ _ => s.added < 64 ∨ s.released = false
  | _ => True

instance (s : WatchRun) : ∀ call, Decidable (AddsInTime s call)
  | .add _ _ => inferInstanceAs (Decidable (s.added < 64 ∨ s.released = false))
  | .remove _ | .poll _ _ => inferInstanceAs (Decidable True)

/-- The counter follows the adds up to 64, only slots below it are active, and one of them is
inactive exactly when a watch was released. -/
structure Inv (s : WatchRun) : Prop where
  count : s.table.watchCount = min 64 s.added
  below : ∀ i ∈ s.table.active, (i : ℕ) < s.table.watchCount
  full : s.released = false → ∀ i : Fin 64, (i : ℕ) < s.table.watchCount → i ∈ s.table.active
  hole : s.released = true → ∃ i : Fin 64, (i : ℕ) < s.table.watchCount ∧ i ∉ s.table.active

lemma start_inv : start.Inv where
  count := rfl
  below i hi := absurd hi (by simp [start])
  full _ i hi := absurd hi (by simp [start])
  hole h := absurd h (by simp [start])

/-- An add keeps the invariant: it activates the slot of the counter, or does nothing. -/
lemma Inv.add {s s' : WatchRun} {stat : StatWorld} {path : List UInt8} (hs : s.Inv)
    (hstep : step s (.add stat path) = some s') : s'.Inv := by
  cases hstep
  have hcount := hs.count
  by_cases h : s.table.watchCount < 64
  · obtain ⟨-, hc, ha⟩ := fileWatchAdd_of_lt stat path h
    constructor
    · change (fileWatchAdd stat path s.table).2.watchCount = min 64 (s.added + 1)
      omega
    · intro i hi
      change (i : ℕ) < (fileWatchAdd stat path s.table).2.watchCount
      rcases Finset.mem_insert.mp (ha ▸ hi) with rfl | hi
      · exact lt_of_lt_of_eq (Nat.lt_succ_self _) hc.symm
      · have := hs.below i hi
        omega
    · intro hr i hi
      change (i : ℕ) < (fileWatchAdd stat path s.table).2.watchCount at hi
      change i ∈ (fileWatchAdd stat path s.table).2.active
      rw [ha, Finset.mem_insert]
      rcases Nat.lt_or_ge i s.table.watchCount with hlt | hge
      · exact Or.inr (hs.full hr i hlt)
      · exact Or.inl (Fin.ext (by change (i : ℕ) = s.table.watchCount; omega))
    · intro hr
      obtain ⟨i, hi, hnot⟩ := hs.hole hr
      refine ⟨i, ?_, ?_⟩
      · change (i : ℕ) < (fileWatchAdd stat path s.table).2.watchCount
        omega
      · change i ∉ (fileWatchAdd stat path s.table).2.active
        rw [ha, Finset.mem_insert, not_or]
        exact ⟨fun h => absurd (Fin.ext_iff.mp h) (Nat.ne_of_lt hi), hnot⟩
  · have h64 : 64 ≤ s.table.watchCount := by omega
    have htable : (fileWatchAdd stat path s.table).2 = s.table := by
      rw [fileWatchAdd_of_ge stat path h64]
    rw [htable]
    refine ⟨?_, hs.below, hs.full, hs.hole⟩
    change s.table.watchCount = min 64 (s.added + 1)
    omega

/-- A removal keeps the invariant: it makes a hole exactly when it names a slot below the counter
that was active. -/
lemma Inv.remove {s s' : WatchRun} {watchId : ℤ} (hs : s.Inv)
    (hstep : step s (.remove watchId) = some s') : s'.Inv := by
  cases hstep
  have hcount := hs.count
  constructor
  · exact (fileWatchRemove_watchCount watchId s.table).trans hs.count
  · intro i hi
    change (i : ℕ) < (fileWatchRemove watchId s.table).watchCount
    rw [fileWatchRemove_watchCount]
    exact hs.below i (mem_active_fileWatchRemove.mp hi).1
  · intro hr i hi
    change (i : ℕ) < (fileWatchRemove watchId s.table).watchCount at hi
    rw [fileWatchRemove_watchCount] at hi
    obtain ⟨hr, hid⟩ := Bool.or_eq_false_iff.mp hr
    refine mem_active_fileWatchRemove.mpr ⟨hs.full hr i hi, fun hi' => ?_⟩
    have := i.isLt
    exact absurd (by omega) (of_decide_eq_false hid)
  · intro hr
    change ∃ i : Fin 64, (i : ℕ) < (fileWatchRemove watchId s.table).watchCount ∧
      i ∉ (fileWatchRemove watchId s.table).active
    rw [fileWatchRemove_watchCount]
    rcases Bool.or_eq_true_iff.mp hr with hr | hid
    · obtain ⟨i, hi, hnot⟩ := hs.hole hr
      exact ⟨i, hi, fun h => hnot (mem_active_fileWatchRemove.mp h).1⟩
    · obtain ⟨h0, h64, hlt⟩ := of_decide_eq_true hid
      refine ⟨⟨watchId.toNat, by omega⟩, by change watchId.toNat < _; omega, fun h => ?_⟩
      apply (mem_active_fileWatchRemove.mp h).2
      change watchId = ((watchId.toNat : ℕ) : ℤ)
      omega

/-- Every call keeps the invariant. -/
lemma Inv.step {s s' : WatchRun} {call : FileWatchCall} (hs : s.Inv)
    (hstep : WatchRun.step s call = some s') : s'.Inv := by
  cases call with
  | add stat path => exact hs.add hstep
  | remove watchId => exact hs.remove hstep
  | poll stat watchId =>
    cases hstep
    obtain ⟨hc, ha⟩ := fileWatchPoll_frame stat watchId s.table
    constructor
    · exact hc.trans hs.count
    · rw [hc, ha]
      exact hs.below
    · rw [hc, ha]
      exact hs.full
    · rw [hc, ha]
      exact hs.hole

/-- Once a watch was released, not all slots are active. -/
lemma Inv.card_active_lt {s : WatchRun} (hs : s.Inv) (hr : s.released = true) :
    s.table.active.card < 64 := by
  obtain ⟨i, -, hnot⟩ := hs.hole hr
  exact Finset.card_lt_univ_of_notMem hnot

/-- As long as no watch was released, a counter at its end means that all slots are active. -/
lemma Inv.card_active_eq {s : WatchRun} (hs : s.Inv) (hr : s.released = false)
    (h : 64 ≤ s.table.watchCount) : s.table.active.card = 64 := by
  have huniv : s.table.active = Finset.univ := by
    ext i
    have := i.isLt
    exact iff_of_true (hs.full hr i (by omega)) (Finset.mem_univ i)
  rw [huniv]
  rfl

/-- Under the invariant a call keeps its promise exactly when it comes in time. -/
lemma Inv.addsWell_iff {s : WatchRun} (hs : s.Inv) (call : FileWatchCall) :
    AddsWell s call ↔ AddsInTime s call := by
  cases call with
  | remove watchId => exact Iff.rfl
  | poll stat watchId => exact Iff.rfl
  | add stat path =>
    have hcount := hs.count
    by_cases h : s.table.watchCount < 64
    · obtain ⟨hid, -, -⟩ := fileWatchAdd_of_lt stat path h
      refine iff_of_true ⟨fun _ => by omega, ?_⟩ (Or.inl (by omega))
      intro i hi
      have := hs.below i hi
      omega
    · have hid : (fileWatchAdd stat path s.table).1 = -1 := by
        rw [fileWatchAdd_of_ge stat path (by omega)]
      constructor
      · intro hwell
        apply Or.inr
        -- a released slot would leave fewer than 64 active watches, and this add fails
        by_contra hr
        have := hwell.1 (hs.card_active_lt (Bool.eq_true_of_not_eq_false hr))
        omega
      · rintro (hadded | hr)
        · omega
        · constructor
          · intro hcard
            rw [hs.card_active_eq hr (by omega)] at hcard
            exact absurd hcard (Nat.lt_irrefl 64)
          · intro i _
            omega

/-- From every state of the invariant, the runs whose adds keep their promise are those whose adds
come in time. -/
lemma Inv.stepsMeet_iff {s : WatchRun} (hs : s.Inv) (calls : List FileWatchCall) :
    StepsMeet WatchRun.step AddsWell s calls ↔ StepsMeet WatchRun.step AddsInTime s calls := by
  apply stepsMeet_congr (I := Inv) hs
  · intro s call s' hs hstep
    exact hs.step hstep
  · intro s call s' hs _
    exact hs.addsWell_iff call

/-- **Exactness of the file watcher.**  In a sequence of calls every add keeps its promise if and
only if every add is made when fewer than 64 adds came before it or no watch has been released. -/
theorem addsWell_iff_addsInTime (calls : List FileWatchCall) :
    StepsMeet step AddsWell start calls ↔ StepsMeet step AddsInTime start calls :=
  start_inv.stepsMeet_iff calls

/-- Sixty-four adds, a removal and one more add: one of the 64 watches is free again, and the last
add fails. -/
theorem addAfterRemove_not_addsWell :
    ¬ StepsMeet step AddsWell start
      (List.replicate 64 (.add (fun _ => none) [97]) ++
        [.remove 0, .add (fun _ => none) [97]]) := by
  rw [start_inv.stepsMeet_iff]
  decide +kernel

end WatchRun

end ChromiumQnx
