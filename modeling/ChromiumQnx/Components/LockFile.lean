import ChromiumQnx.Foundation.TransitionSystem
import Mathlib.Data.Finset.Basic
import Mathlib.Data.List.Dedup
import Mathlib.Data.Finset.Dedup

/-!
# File locks of the storage service

`FilesystemImpl::LockFileLocal` guards a path by an entry of the process-wide lock table before it
opens and locks the file.  On QNX several components of one process lock the same profile, so when
the path is already in the table up to sixteen alternate names are tried, and the name that was
used is reported through `path_locked_out`.  `FilesystemImpl::LockFile` and
`FilesystemProxy::LockFile` keep that name in the lock object, and releasing the lock calls
`UnlockFileLocal` on it.

`lockFileLocal` follows the function on a lock table; `LockService` runs it against any number of
lock and release calls.  The invariant is that the paths of the live locks are exactly the entries
of the table, each held once (`LockService.Consistent`).
-/

namespace ChromiumQnx

open TransitionSystem

variable {π : Type*} [DecidableEq π]

/-! ## One call -/

/-- `base::File::Error`: the error of a path that is in use, or the code of another one. -/
inductive FileError
  | inUse
  | other (code : ℤ)
  deriving DecidableEq, Repr

/-- What the operating system answers when a file is opened and locked. -/
structure LockWorld (π : Type*) where
  /-- The error opening a path reports, `none` when the file is valid. -/
  openFile : π → Option FileError
  /-- The error of `File::Lock(LockMode::kExclusive)`, `none` for `FILE_OK`. -/
  lock : π → Option FileError

/-- `LockTable::AddLock`: fails exactly on a path that is present. -/
def addLock (table : Finset π) (path : π) : Bool × Finset π :=
  if path ∈ table then (false, table) else (true, insert path table)

/-- `LockTable::RemoveLock`. -/
def removeLock (table : Finset π) (path : π) : Finset π := table.erase path

/-- The extension of the alternate name number `i`. -/
def alternateExtension (i : ℕ) : String := ".qnx_alt" ++ if i = 0 then "" else toString i

/-- The loop over the alternate names: the first one that can be added to the table. -/
def lockAlternate (addExtension : π → String → π) (table : Finset π) (path : π) :
    List ℕ → Option (π × Finset π)
  | [] => none
  | i :: is =>
    let pathToUse := addExtension path (alternateExtension i)
    match addLock table pathToUse with
    | (true, table') => some (pathToUse, table')
    | (false, _) => lockAlternate addExtension table path is

/-- The path a lock call enters into the table, the given one or an alternate name of it. -/
def choosePath (addExtension : π → String → π) (table : Finset π) (path : π) :
    Option (π × Finset π) :=
  match addLock table path with
  | (true, table') => some (path, table')
  | (false, _) => lockAlternate addExtension table path (List.range 16)

/-- `FilesystemImpl::LockFileLocal`: the error or the path reported through `path_locked_out`, and
the lock table afterwards. -/
def lockFileLocal (addExtension : π → String → π) (w : LockWorld π) (table : Finset π) (path : π) :
    Except FileError π × Finset π :=
  match choosePath addExtension table path with
  | none => (.error .inUse, table)
  | some (pathToUse, table') =>
    match w.openFile pathToUse with
    | some error => (.error error, removeLock table' pathToUse)
    | none =>
      match w.lock pathToUse with
      | some error => (.error error, removeLock table' pathToUse)
      | none => (.ok pathToUse, table')

/-- `FilesystemImpl::UnlockFileLocal`. -/
def unlockFileLocal (table : Finset π) (path : π) : Finset π := removeLock table path

/-- Adding a lock succeeds on an absent path only, and then enters that path. -/
lemma addLock_eq_true {table table' : Finset π} {path : π}
    (h : addLock table path = (true, table')) : path ∉ table ∧ table' = insert path table := by
  unfold addLock at h
  split at h
  · cases h
  · rename_i hmem
    cases h
    exact ⟨hmem, rfl⟩

/-- An alternate name that was chosen was absent from the table and has been entered. -/
lemma lockAlternate_eq_some {addExtension : π → String → π} {table table' : Finset π}
    {path pathToUse : π} {is : List ℕ}
    (h : lockAlternate addExtension table path is = some (pathToUse, table')) :
    pathToUse ∉ table ∧ table' = insert pathToUse table := by
  induction is with
  | nil => cases h
  | cons i is ih =>
    rw [lockAlternate] at h
    split at h
    · rename_i hadd
      cases h
      exact addLock_eq_true hadd
    · exact ih h

/-- The path a call has chosen was absent from the table and has been entered. -/
lemma choosePath_eq_some {addExtension : π → String → π} {table table' : Finset π}
    {path pathToUse : π} (h : choosePath addExtension table path = some (pathToUse, table')) :
    pathToUse ∉ table ∧ table' = insert pathToUse table := by
  unfold choosePath at h
  split at h
  · rename_i hadd
    cases h
    exact addLock_eq_true hadd
  · exact lockAlternate_eq_some h

/-- Removing the path a call has entered restores the table. -/
lemma removeLock_insert {table : Finset π} {path : π} (h : path ∉ table) :
    removeLock (insert path table) path = table :=
  Finset.erase_insert h

/-- The two outcomes of a lock call: it fails and the table is as it was, or it succeeds and has
entered the reported path, which was absent. -/
theorem lockFileLocal_cases (addExtension : π → String → π) (w : LockWorld π) (table : Finset π)
    (path : π) :
    (∃ error, lockFileLocal addExtension w table path = (.error error, table)) ∨
      ∃ pathToUse, pathToUse ∉ table ∧
        lockFileLocal addExtension w table path = (.ok pathToUse, insert pathToUse table) := by
  unfold lockFileLocal
  cases hchoose : choosePath addExtension table path with
  | none => exact Or.inl ⟨_, rfl⟩
  | some q =>
    obtain ⟨pathToUse, table'⟩ := q
    obtain ⟨hmem, rfl⟩ := choosePath_eq_some hchoose
    cases hopen : w.openFile pathToUse with
    | some error => exact Or.inl ⟨error, by simp only [hopen, removeLock_insert hmem]⟩
    | none =>
      cases hlock : w.lock pathToUse with
      | some error => exact Or.inl ⟨error, by simp only [hopen, hlock, removeLock_insert hmem]⟩
      | none => exact Or.inr ⟨pathToUse, hmem, by simp only [hopen, hlock]⟩

/-! ## Any number of locks -/

/-- The lock table and the lock objects that are alive, each with the path it was given. -/
structure LockService (π : Type*) where
  table : Finset π
  live : List π

/-- The calls: locking through `FilesystemImpl::LockFile` or through `FilesystemProxy::LockFile` in
unrestricted mode, and releasing the live lock at a position. -/
inductive LockCall (π : Type*)
  | filesystemImplLockFile (path : π) (w : LockWorld π)
  | filesystemProxyLockFile (path : π) (w : LockWorld π)
  | release (i : ℕ)

/-- The functions of `base::FilePath` and of the two `LockFile` methods that map paths to paths. -/
structure PathFunctions (π : Type*) where
  /-- `FilePath::AddExtension`. -/
  addExtension : π → String → π
  /-- `FilesystemImpl::MakeAbsolute`. -/
  makeAbsolute : π → π
  /-- `FilesystemProxy::MaybeMakeAbsolute`. -/
  maybeMakeAbsolute : π → π

namespace LockService

/-- The service before the first call. -/
def init : LockService π := ⟨∅, []⟩

/-- Lock an absolute path and keep the reported path in a new lock object. -/
def lockAbsolute (f : PathFunctions π) (w : LockWorld π) (s : LockService π) (path : π) :
    LockService π :=
  match lockFileLocal f.addExtension w s.table path with
  | (.error _, table) => ⟨table, s.live⟩
  | (.ok pathLocked, table) => ⟨table, pathLocked :: s.live⟩

/-- One call.  A release needs a live lock. -/
def step (f : PathFunctions π) (s : LockService π) : LockCall π → Option (LockService π)
  | .filesystemImplLockFile path w => some (lockAbsolute f w s (f.makeAbsolute path))
  | .filesystemProxyLockFile path w => some (lockAbsolute f w s (f.maybeMakeAbsolute path))
  | .release i => s.live[i]?.map fun path => ⟨unlockFileLocal s.table path, s.live.eraseIdx i⟩

/-- The live locks hold pairwise distinct paths, and these are the entries of the table. -/
def Consistent (s : LockService π) : Prop := s.live.Nodup ∧ s.table = s.live.toFinset

/-- Every lock call that fails in this state leaves the table as it is. -/
def FailuresKeepTable (f : PathFunctions π) (s : LockService π) : Prop :=
  ∀ w path error, (lockFileLocal f.addExtension w s.table path).1 = .error error →
    (lockFileLocal f.addExtension w s.table path).2 = s.table

/-- A lock call keeps the service consistent. -/
lemma Consistent.lockAbsolute {s : LockService π} (h : s.Consistent) (f : PathFunctions π)
    (w : LockWorld π) (path : π) : (lockAbsolute f w s path).Consistent := by
  unfold LockService.lockAbsolute
  rcases lockFileLocal_cases f.addExtension w s.table path with
    ⟨error, hres⟩ | ⟨pathToUse, hmem, hres⟩
  · rw [hres]
    exact h
  · rw [hres]
    have hnotin : pathToUse ∉ s.live := by
      rwa [h.2, List.mem_toFinset] at hmem
    refine ⟨List.nodup_cons.mpr ⟨hnotin, h.1⟩, ?_⟩
    rw [h.2]
    exact (List.toFinset_cons).symm

/-- Removing an entry of a list without repetitions removes its value from the set. -/
lemma toFinset_eraseIdx {l : List π} (hl : l.Nodup) {i : ℕ} {a : π} (h : l[i]? = some a) :
    (l.eraseIdx i).toFinset = l.toFinset.erase a := by
  obtain ⟨hi, rfl⟩ := List.getElem?_eq_some_iff.mp h
  rw [← hl.erase_getElem i hi]
  ext b
  simp [hl.mem_erase_iff]

/-- Every call keeps the service consistent. -/
theorem Consistent.step {f : PathFunctions π} {s s' : LockService π} {c : LockCall π}
    (h : s.Consistent) (hstep : step f s c = some s') : s'.Consistent := by
  cases c with
  | filesystemImplLockFile path w =>
    rw [← Option.some.inj hstep]
    exact h.lockAbsolute f w _
  | filesystemProxyLockFile path w =>
    rw [← Option.some.inj hstep]
    exact h.lockAbsolute f w _
  | release i =>
    obtain ⟨path, hpath, rfl⟩ := Option.map_eq_some_iff.mp hstep
    refine ⟨h.1.sublist (List.eraseIdx_sublist _ _), ?_⟩
    rw [toFinset_eraseIdx h.1 hpath, ← h.2]
    rfl

/-- A failing lock call undoes every change it has made to the table. -/
lemma failuresKeepTable (f : PathFunctions π) (s : LockService π) : s.FailuresKeepTable f := by
  intro w path error herror
  rcases lockFileLocal_cases f.addExtension w s.table path with ⟨_, hres⟩ | ⟨_, _, hres⟩
  · rw [hres]
  · rw [hres] at herror
    cases herror

/-- **The lock table.**  Throughout every run of lock and release calls, the paths of the live locks
are pairwise distinct and are the contents of the table, failed calls leave the table as it was,
and the table is empty when no lock is live. -/
theorem lockTable_always (f : PathFunctions π) (calls : List (LockCall π)) :
    Always (step f)
      (fun s => s.Consistent ∧ s.FailuresKeepTable f ∧ (s.live = [] → s.table = ∅))
      (init : LockService π) calls := by
  refine always_of_forall_reachable calls fun s hs => ?_
  have hcons : s.Consistent :=
    hs.invariant (I := Consistent) ⟨List.nodup_nil, rfl⟩ fun _ _ _ h hstep => h.step hstep
  refine ⟨hcons, failuresKeepTable f s, fun hlive => ?_⟩
  rw [hcons.2, hlive]
  rfl

end LockService

end ChromiumQnx
