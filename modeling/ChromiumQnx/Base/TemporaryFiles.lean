import ChromiumQnx.Foundation.Snprintf
import ChromiumQnx.Foundation.TransitionSystem
import Mathlib.Data.List.TakeWhile

/-!
# Temporary files

`CreateAndOpenFdForTemporaryFileInDir` makes a name from the directory, the process id and a counter
of the process, and opens it with `O_CREAT | O_EXCL`.  While the name exists it goes on with the
next number, a thousand times at most.  The name is formatted into a buffer of 1200 bytes, and what
does not fit is cut off.

Any number of threads of any number of processes call the function, and other programs create,
remove and rename files in between.  The main result says in which runs every file that is returned
lies in its directory; that returned files are new and differ, and that the function gives up only
when it may, holds in all runs.
-/

namespace ChromiumQnx

open Snprintf TransitionSystem

/-! ## Names -/

/-- `base::FilePath`: a text without null bytes. -/
structure FilePath where
  value : List UInt8
  nul_free : 0 ∉ value

/-- The name that is tried: what fits of the formatted text into `fullpath`. -/
def fullpath (directory : FilePath) (pid c : Int32) : List UInt8 :=
  (snprintf 1200
    [.str directory.value, .literal "/.chromium_tmp_", .int pid, .literal "_", .int c]).2

/-- The path names a file of the directory.  The empty text names no directory: what is put behind
it lies in the root. -/
def Inside (directory path : List UInt8) : Prop :=
  directory ≠ [] ∧
    ∃ name, path = directory ++ 47 :: name ∧ name ≠ [] ∧ 47 ∉ name ∧ name ≠ [46] ∧ name ≠ [46, 46]

/-- The name behind the slash, whole. -/
def tempName (pid c : Int32) : List UInt8 :=
  asciiBytes ".chromium_tmp_" ++ intText pid ++ asciiBytes "_" ++ intText c

lemma fullpath_eq (directory : FilePath) (pid c : Int32) :
    fullpath directory pid c = (directory.value ++ 47 :: tempName pid c).take 1199 := by
  have hdir : cString directory.value = directory.value := cString_eq_self directory.nul_free
  have hslash : asciiBytes "/.chromium_tmp_" = 47 :: asciiBytes ".chromium_tmp_" := rfl
  unfold fullpath snprintf format tempName
  simp only [List.map_cons, List.map_nil, List.flatten_cons, List.flatten_nil, Piece.text, hdir,
    hslash, List.append_nil, List.append_assoc, List.cons_append]

/-- Digits and signs are no slashes. -/
lemma slash_notMem_intText (i : Int32) : 47 ∉ intText i := by
  have hnat : ∀ n, 47 ∉ natText n := by
    intro n h
    unfold natText at h
    split at h
    · exact absurd h (by decide)
    · obtain ⟨d, hd, hslash⟩ := List.mem_map.mp (List.mem_reverse.mp h)
      have hlt : d < 10 := Nat.digits_lt_base (by decide) hd
      have hnum := congrArg UInt8.toNat hslash
      rw [Nat.toUInt8_eq, UInt8.toNat_ofNat_of_lt' (show 48 + d < 256 by omega)] at hnum
      have hseven : (47 : UInt8).toNat = 47 := rfl
      omega
  unfold intText
  split
  · intro h
    rcases List.mem_append.mp h with hsign | hdigits
    · exact absurd hsign (by decide)
    · exact hnat _ hdigits
  · exact hnat _

lemma slash_notMem_tempName (pid c : Int32) : 47 ∉ tempName pid c := by
  unfold tempName
  simp only [List.mem_append, not_or]
  exact ⟨⟨⟨by decide, slash_notMem_intText pid⟩, by decide⟩, slash_notMem_intText c⟩

/-- **The directory's length.**  The tried name lies in a directory exactly when two characters of
it fit behind the slash. -/
lemma inside_fullpath_iff (directory : FilePath) (pid c : Int32) :
    Inside directory.value (fullpath directory pid c) ↔
      directory.value ≠ [] ∧ directory.value.length ≤ 1196 := by
  rw [fullpath_eq]
  refine and_congr_right fun _ => ?_
  constructor
  · rintro ⟨name, hpath, hne, -, hdot, -⟩
    have hlen := congrArg List.length hpath
    have hpos := List.length_pos_of_ne_nil hne
    rw [List.length_take, List.length_append, List.length_append, List.length_cons,
      List.length_cons] at hlen
    by_contra hlong
    -- of the name only the dot is left
    have hdir : directory.value.length = 1197 := by omega
    rw [List.take_append, List.take_of_length_le (by omega), hdir] at hpath
    have hname : (47 :: tempName pid c).take 2 = 47 :: name := List.append_cancel_left hpath
    exact hdot (List.cons.inj hname).2.symm
  · intro hlen
    obtain ⟨k, hk⟩ : ∃ k, 1199 - directory.value.length = k + 3 :=
      ⟨1196 - directory.value.length, by omega⟩
    obtain ⟨rest, hrest⟩ : ∃ rest, tempName pid c = 46 :: 99 :: rest := ⟨_, rfl⟩
    refine ⟨46 :: 99 :: rest.take k, ?_, nofun, ?_, nofun, nofun⟩
    · rw [List.take_append, List.take_of_length_le (by omega), hk, hrest]
      rfl
    · intro hslash
      apply slash_notMem_tempName pid c
      rw [hrest]
      have hsub : 46 :: 99 :: rest.take k <+: 46 :: 99 :: rest :=
        List.take_prefix (k + 2) (46 :: 99 :: rest)
      exact hsub.subset hslash

/-! ## Threads and processes -/

/-- The threads `θ`, each of a process of `ρ`, and the process ids. -/
structure Processes (θ ρ : Type*) where
  process : θ → ρ
  pid : ρ → Int32

/-- Why `open` failed. -/
inductive OpenError where
  | eexist
  | other (errno : ℤ)
  deriving DecidableEq, Repr

/-- A failed `open`: the name, the error, and whether the name existed. -/
structure FailedOpen where
  path : List UInt8
  error : OpenError
  existed : Bool

/-- A call in its loop: the number of the attempt, and the counter's value once it is fetched.  The
failed attempts are recorded. -/
structure TempCall where
  directory : FilePath
  attempt : ℕ
  number : Option Int32
  failed : List FailedOpen

/-- A finished call: the directory, the value left in `*path`, and the file of the descriptor if it
is valid. -/
structure TempReturn where
  directory : FilePath
  path : List UInt8
  file : Option ℕ
  failed : List FailedOpen

/-- The counters of the processes, the calls in progress, and the files.  A name refers to a file;
`created` records under which name `open` created one. -/
structure TempRun (θ ρ : Type*) where
  counter : ρ → Int32
  calls : θ → Option TempCall
  names : List UInt8 → Option ℕ
  created : ℕ → Option (List UInt8)
  nextFile : ℕ
  returned : List TempReturn

/-- A step of a thread, or of another program.  A call of `open` that is interrupted is repeated and
changes nothing. -/
inductive TempEvent (θ : Type*)
  | call (thread : θ) (directory : FilePath)
  | fetch (thread : θ)
  | openCreates (thread : θ)
  | openFails (thread : θ) (error : OpenError)
  | otherCreates (path : List UInt8)
  | otherRemoves (path : List UInt8)
  | otherRenames (path newPath : List UInt8)

namespace TempRun

variable {θ ρ : Type*} [DecidableEq θ] [DecidableEq ρ] (P : Processes θ ρ)

/-- The call of a thread that is about to open its name. -/
def opening (s : TempRun θ ρ) (thread : θ) : Option (TempCall × List UInt8) :=
  (s.calls thread).bind fun a =>
    a.number.map fun c => (a, fullpath a.directory (P.pid (P.process thread)) c)

/-- The return of a call. -/
def finish (s : TempRun θ ρ) (thread : θ) (r : TempReturn) : TempRun θ ρ :=
  { s with calls := Function.update s.calls thread none, returned := s.returned ++ [r] }

/-- A new file under a name. -/
def create (s : TempRun θ ρ) (path : List UInt8) : TempRun θ ρ :=
  { s with
    names := Function.update s.names path (some s.nextFile)
    nextFile := s.nextFile + 1 }

/-- The successful `open` of a call, which creates its file and returns the descriptor. -/
def openCreated (s : TempRun θ ρ) (thread : θ) (a : TempCall) (path : List UInt8) : TempRun θ ρ :=
  { s.create path with created := Function.update s.created s.nextFile (some path) }.finish thread
    ⟨a.directory, path, some s.nextFile, a.failed⟩

/-- The failed `open` of a call: the next attempt, if the name exists and there is one. -/
def openFailed (s : TempRun θ ρ) (thread : θ) (a : TempCall) (path : List UInt8)
    (error : OpenError) : TempRun θ ρ :=
  let failed := a.failed ++ [⟨path, error, (s.names path).isSome⟩]
  if error = .eexist ∧ a.attempt + 1 < 1000 then
    { s with
      calls := Function.update s.calls thread
        (some { a with attempt := a.attempt + 1, number := none, failed := failed }) }
  else s.finish thread ⟨a.directory, path, none, failed⟩

/-- One step.  `open` succeeds only for a name that does not exist, and fails with `EEXIST` only for
one that does. -/
def step (s : TempRun θ ρ) : TempEvent θ → Option (TempRun θ ρ)
  | .call thread directory =>
    if (s.calls thread).isSome then none
    else some { s with calls := Function.update s.calls thread (some ⟨directory, 0, none, []⟩) }
  | .fetch thread =>
    (s.calls thread).bind fun a =>
      if a.number.isSome then none
      else
        let process := P.process thread
        some
          { s with
            counter := Function.update s.counter process (s.counter process + 1)
            calls := Function.update s.calls thread
              (some { a with number := some (s.counter process) }) }
  | .openCreates thread =>
    (s.opening P thread).bind fun (a, path) =>
      if (s.names path).isSome then none else some (s.openCreated thread a path)
  | .openFails thread error =>
    (s.opening P thread).bind fun (a, path) =>
      if error = .eexist ∧ s.names path = none then none
      else some (s.openFailed thread a path error)
  | .otherCreates path => if (s.names path).isSome then none else some (s.create path)
  | .otherRemoves path => some { s with names := Function.update s.names path none }
  | .otherRenames path newPath =>
    some
      { s with
        names := Function.update (Function.update s.names path none) newPath (s.names path) }

/-- Files that exist before the first call. -/
structure InitialFiles where
  names : List UInt8 → Option ℕ
  bound : ℕ
  names_lt : ∀ path file, names path = some file → file < bound

/-- The start, with any counters and files. -/
def start (counter : ρ → Int32) (files : InitialFiles) : TempRun θ ρ where
  counter := counter
  calls := fun _ => none
  names := files.names
  created := fun _ => none
  nextFile := files.bound
  returned := []

/-! ## What is promised -/

/-- Why a call may give up: its last `open` failed with another error, or a thousand names all
existed. -/
def MayGiveUp (failed : List FailedOpen) : Prop :=
  (∃ f errno, failed.getLast? = some f ∧ f.error = .other errno) ∨
    failed.length = 1000 ∧ ∀ f ∈ failed, f.error = .eexist ∧ f.existed = true

/-- What is promised of the calls that have returned. -/
structure Promised (s : TempRun θ ρ) : Prop where
  created : ∀ r ∈ s.returned, ∀ file, r.file = some file → s.created file = some r.path
  inside : ∀ r ∈ s.returned, r.file.isSome → Inside r.directory.value r.path
  new : s.returned.Pairwise fun r r' => ∀ file, r.file = some file → r'.file ≠ some file
  differ : s.returned.Pairwise fun r r' => ∀ file file', r.file = some file →
    r'.file = some file' → s.names r.path = some file → s.names r'.path = some file' →
      r.path ≠ r'.path
  gaveUp : ∀ r ∈ s.returned, r.file = none → MayGiveUp r.failed

/-- The directory of a call is given, and leaves room for two characters of the name, when its
`open` succeeds. -/
def LeavesRoom (s : TempRun θ ρ) : TempEvent θ → Prop
  | .openCreates thread => ∀ a, s.calls thread = some a →
    a.directory.value ≠ [] ∧ a.directory.value.length ≤ 1196
  | _ => True

/-- A call in its loop has failed at every name so far, which existed. -/
def Trying (a : TempCall) : Prop :=
  a.failed.length = a.attempt ∧ a.attempt < 1000 ∧
    ∀ f ∈ a.failed, f.error = .eexist ∧ f.existed = true

/-- What holds in all runs: the promise but for the directory, and what it follows from. -/
structure Inv (s : TempRun θ ρ) : Prop where
  returned_created : ∀ r ∈ s.returned, ∀ file, r.file = some file → s.created file = some r.path
  new : s.returned.Pairwise fun r r' => ∀ file, r.file = some file → r'.file ≠ some file
  gaveUp : ∀ r ∈ s.returned, r.file = none → MayGiveUp r.failed
  created_lt : ∀ file path, s.created file = some path → file < s.nextFile
  trying : ∀ thread a, s.calls thread = some a → Trying a

/-- Every returned file lies in its directory. -/
def AllInside (s : TempRun θ ρ) : Prop :=
  ∀ r ∈ s.returned, r.file.isSome → Inside r.directory.value r.path

omit [DecidableEq θ] [DecidableEq ρ] in
/-- With the invariant, only the directories are left of the promise. -/
lemma Inv.promised {s : TempRun θ ρ} (hs : s.Inv) (hinside : s.AllInside) : s.Promised where
  created := hs.returned_created
  inside := hinside
  new := hs.new
  differ := hs.new.imp fun hnew file file' hfile hfile' hname hname' hpath => by
    -- one name cannot refer to both files
    rw [hpath, hname'] at hname
    cases hname
    exact hnew file hfile hfile'
  gaveUp := hs.gaveUp

variable {P}

/-! ## The invariant -/

/-- The calls after a change of the one of a thread. -/
lemma trying_update {calls : θ → Option TempCall} (hcalls : ∀ t a, calls t = some a → Trying a)
    {thread : θ} {call : Option TempCall} (hcall : ∀ a, call = some a → Trying a) :
    ∀ t a, Function.update calls thread call t = some a → Trying a := by
  intro t a h
  rw [Function.update_apply] at h
  split at h
  · exact hcall a h
  · exact hcalls t a h

omit [DecidableEq θ] [DecidableEq ρ] in
/-- A step that returns from no call. -/
lemma Inv.of_returned_eq {s s' : TempRun θ ρ} (hs : s.Inv) (hreturned : s'.returned = s.returned)
    (hcreated : s'.created = s.created) (hnext : s.nextFile ≤ s'.nextFile)
    (hcalls : ∀ t a, s'.calls t = some a → Trying a) : s'.Inv where
  returned_created := by
    rw [hreturned, hcreated]
    exact hs.returned_created
  new := hreturned ▸ hs.new
  gaveUp := hreturned ▸ hs.gaveUp
  created_lt file path h := Nat.lt_of_lt_of_le (hs.created_lt file path (hcreated ▸ h)) hnext
  trying := hcalls

omit [DecidableEq ρ] in
/-- The return of a call that gives up. -/
lemma Inv.finish_of_mayGiveUp {s : TempRun θ ρ} (hs : s.Inv) (thread : θ) {r : TempReturn}
    (hfile : r.file = none) (hfailed : MayGiveUp r.failed) : (s.finish thread r).Inv where
  returned_created r' hr' file hfile' := by
    rcases List.mem_append.mp hr' with hold | hnew
    · exact hs.returned_created r' hold file hfile'
    · rw [List.mem_singleton.mp hnew, hfile] at hfile'
      cases hfile'
  new := by
    refine List.pairwise_append.mpr ⟨hs.new, List.pairwise_singleton _ _, ?_⟩
    intro a _ b hb file _
    rw [List.mem_singleton.mp hb, hfile]
    exact nofun
  gaveUp := List.forall_mem_append.mpr ⟨hs.gaveUp, List.forall_mem_singleton.mpr fun _ => hfailed⟩
  created_lt := hs.created_lt
  trying := trying_update hs.trying nofun

omit [DecidableEq ρ] in
/-- A failed `open`. -/
lemma Inv.openFailed {s : TempRun θ ρ} (hs : s.Inv) {thread : θ} {a : TempCall} {path : List UInt8}
    {error : OpenError} (ha : Trying a) (herror : ¬ (error = .eexist ∧ s.names path = none)) :
    (s.openFailed thread a path error).Inv := by
  obtain ⟨hlen, hattempt, hfailed⟩ := ha
  have hlast : error = .eexist → ∀ f ∈ a.failed ++ [⟨path, error, (s.names path).isSome⟩],
      f.error = .eexist ∧ f.existed = true := by
    intro heexist
    refine List.forall_mem_append.mpr ⟨hfailed, List.forall_mem_singleton.mpr ⟨heexist, ?_⟩⟩
    exact Option.isSome_iff_ne_none.mpr fun h => herror ⟨heexist, h⟩
  unfold TempRun.openFailed
  dsimp only
  split
  · rename_i hnext
    refine hs.of_returned_eq rfl rfl (Nat.le_refl _) (trying_update hs.trying ?_)
    rintro b ⟨⟩
    refine ⟨?_, hnext.2, hlast hnext.1⟩
    rw [List.length_append, hlen]
    rfl
  · rename_i hstop
    apply hs.finish_of_mayGiveUp thread rfl
    cases error with
    | other errno => exact Or.inl ⟨_, errno, List.getLast?_concat, rfl⟩
    | eexist =>
      have hlimit : a.attempt + 1 = 1000 := by
        have hnot : ¬ a.attempt + 1 < 1000 := fun h => hstop ⟨rfl, h⟩
        omega
      refine Or.inr ⟨?_, hlast rfl⟩
      rw [List.length_append, hlen]
      exact hlimit

omit [DecidableEq ρ] in
/-- A successful `open`: the file is new. -/
lemma Inv.openCreated {s : TempRun θ ρ} (hs : s.Inv) (thread : θ) (a : TempCall)
    (path : List UInt8) : (s.openCreated thread a path).Inv := by
  have hfresh : ∀ r ∈ s.returned, r.file ≠ some s.nextFile := by
    intro r hr hfile
    exact absurd (hs.created_lt _ _ (hs.returned_created r hr _ hfile)) (Nat.lt_irrefl _)
  refine ⟨?_, ?_, ?_, ?_, trying_update hs.trying nofun⟩
  · refine List.forall_mem_append.mpr ⟨fun r hr file hfile => ?_, List.forall_mem_singleton.mpr ?_⟩
    · have hne : file ≠ s.nextFile := fun h => hfresh r hr (h ▸ hfile)
      exact (Function.update_of_ne hne _ _).trans (hs.returned_created r hr file hfile)
    · rintro file ⟨⟩
      exact Function.update_self _ _ _
  · refine List.pairwise_append.mpr ⟨hs.new, List.pairwise_singleton _ _, ?_⟩
    intro r hr r' hr' file hfile
    rw [List.mem_singleton.mp hr']
    rintro ⟨⟩
    exact hfresh r hr hfile
  · exact List.forall_mem_append.mpr ⟨hs.gaveUp, List.forall_mem_singleton.mpr nofun⟩
  · intro file p h
    change Function.update s.created s.nextFile (some path) file = some p at h
    change file < s.nextFile + 1
    rw [Function.update_apply] at h
    split at h
    · omega
    · exact Nat.lt_succ_of_lt (hs.created_lt file p h)

omit [DecidableEq θ] [DecidableEq ρ] in
/-- The call that is about to open its name. -/
lemma opening_eq_some {s : TempRun θ ρ} {thread : θ} {a : TempCall} {path : List UInt8}
    (h : s.opening P thread = some (a, path)) :
    s.calls thread = some a ∧ ∃ c, path = fullpath a.directory (P.pid (P.process thread)) c := by
  obtain ⟨a', ha, h⟩ := Option.bind_eq_some_iff.mp h
  obtain ⟨c, -, h⟩ := Option.map_eq_some_iff.mp h
  cases h
  exact ⟨ha, c, rfl⟩

/-- **What a step can do.**  A call creates its file, or its `open` fails; every other step creates
no file for a call, returns from none, and leaves the calls trying. -/
lemma step_cases {s s' : TempRun θ ρ} {e : TempEvent θ} (hstep : step P s e = some s') :
    (∃ thread a c, e = .openCreates thread ∧ s.calls thread = some a ∧
      s' = s.openCreated thread a (fullpath a.directory (P.pid (P.process thread)) c)) ∨
    (∃ thread error a path, e = .openFails thread error ∧ s.calls thread = some a ∧
      ¬ (error = .eexist ∧ s.names path = none) ∧ s' = s.openFailed thread a path error) ∨
    (s.LeavesRoom e ∧ s'.returned = s.returned ∧ s'.created = s.created ∧
      s.nextFile ≤ s'.nextFile ∧
      ((∀ t a, s.calls t = some a → Trying a) → ∀ t a, s'.calls t = some a → Trying a)) := by
  cases e with
  | call thread directory =>
    obtain ⟨-, hstep⟩ := Option.ite_none_left_eq_some.mp hstep
    cases hstep
    refine Or.inr (Or.inr ⟨trivial, rfl, rfl, Nat.le_refl _, fun hcalls => ?_⟩)
    refine trying_update hcalls ?_
    rintro a ⟨⟩
    exact ⟨rfl, Nat.succ_pos 999, nofun⟩
  | fetch thread =>
    obtain ⟨a, ha, hstep⟩ := Option.bind_eq_some_iff.mp hstep
    obtain ⟨-, hstep⟩ := Option.ite_none_left_eq_some.mp hstep
    cases hstep
    refine Or.inr (Or.inr ⟨trivial, rfl, rfl, Nat.le_refl _, fun hcalls => ?_⟩)
    refine trying_update hcalls ?_
    rintro b ⟨⟩
    exact hcalls thread a ha
  | openCreates thread =>
    obtain ⟨⟨a, path⟩, hopening, hstep⟩ := Option.bind_eq_some_iff.mp hstep
    obtain ⟨-, hstep⟩ := Option.ite_none_left_eq_some.mp hstep
    cases hstep
    obtain ⟨hcall, c, rfl⟩ := opening_eq_some hopening
    exact Or.inl ⟨thread, a, c, rfl, hcall, rfl⟩
  | openFails thread error =>
    obtain ⟨⟨a, path⟩, hopening, hstep⟩ := Option.bind_eq_some_iff.mp hstep
    obtain ⟨herror, hstep⟩ := Option.ite_none_left_eq_some.mp hstep
    cases hstep
    exact Or.inr (Or.inl ⟨thread, error, a, path, rfl, (opening_eq_some hopening).1, herror, rfl⟩)
  | otherCreates path =>
    obtain ⟨-, hstep⟩ := Option.ite_none_left_eq_some.mp hstep
    cases hstep
    exact Or.inr (Or.inr ⟨trivial, rfl, rfl, Nat.le_succ _, fun hcalls => hcalls⟩)
  | otherRemoves path =>
    cases hstep
    exact Or.inr (Or.inr ⟨trivial, rfl, rfl, Nat.le_refl _, fun hcalls => hcalls⟩)
  | otherRenames path newPath =>
    cases hstep
    exact Or.inr (Or.inr ⟨trivial, rfl, rfl, Nat.le_refl _, fun hcalls => hcalls⟩)

/-- Every step keeps the invariant. -/
lemma Inv.step {s s' : TempRun θ ρ} {e : TempEvent θ} (hs : s.Inv)
    (hstep : TempRun.step P s e = some s') : s'.Inv := by
  obtain ⟨thread, a, c, -, -, rfl⟩ | ⟨thread, error, a, path, -, hcall, herror, rfl⟩ |
    ⟨-, hreturned, hcreated, hnext, htrying⟩ := step_cases hstep
  · exact hs.openCreated thread a _
  · exact hs.openFailed (hs.trying thread a hcall) herror
  · exact hs.of_returned_eq hreturned hcreated hnext (htrying hs.trying)

omit [DecidableEq ρ] in
/-- A failed `open` returns no file. -/
lemma AllInside.openFailed {s : TempRun θ ρ} (hs : s.AllInside) (thread : θ) (a : TempCall)
    (path : List UInt8) (error : OpenError) : (s.openFailed thread a path error).AllInside := by
  unfold TempRun.openFailed
  dsimp only
  split
  · exact hs
  · exact List.forall_mem_append.mpr ⟨hs, List.forall_mem_singleton.mpr nofun⟩

/-- **Step lemma.**  A step keeps the returned files in their directories exactly when the directory
of the call leaves room for the name. -/
lemma AllInside.step_iff {s s' : TempRun θ ρ} {e : TempEvent θ} (hs : s.AllInside)
    (hstep : TempRun.step P s e = some s') : s'.AllInside ↔ s.LeavesRoom e := by
  obtain ⟨thread, a, c, rfl, hcall, rfl⟩ | ⟨thread, error, a, path, rfl, -, -, rfl⟩ |
    ⟨hroom, hreturned, -⟩ := step_cases hstep
  · have hinside := inside_fullpath_iff a.directory (P.pid (P.process thread)) c
    constructor
    · intro h b hb
      rw [hcall] at hb
      cases hb
      exact hinside.mp (h _ (List.mem_append_right _ List.mem_cons_self) rfl)
    · intro h
      refine List.forall_mem_append.mpr ⟨hs, List.forall_mem_singleton.mpr fun _ => ?_⟩
      exact hinside.mpr (h a hcall)
  · exact iff_of_true (hs.openFailed thread a path error) trivial
  · refine iff_of_true ?_ hroom
    unfold AllInside
    rw [hreturned]
    exact hs

/-! ## All runs -/

omit [DecidableEq θ] [DecidableEq ρ] in
lemma start_inv (counter : ρ → Int32) (files : InitialFiles) :
    (start (θ := θ) counter files).Inv where
  returned_created := nofun
  new := List.Pairwise.nil
  gaveUp := nofun
  created_lt := nofun
  trying := nofun

/-- From the start, the promise is kept in the runs whose steps leave room. -/
lemma always_promised_iff (counter : ρ → Int32) (files : InitialFiles)
    (events : List (TempEvent θ)) :
    Always (TempRun.step P) Promised (start counter files) events ↔
      StepsMeet (TempRun.step P) LeavesRoom (start counter files) events := by
  apply always_iff_stepsMeet (I := fun s => s.Inv ∧ s.AllInside)
    ⟨start_inv counter files, fun r hr => nomatch hr⟩
  · rintro s ⟨hinv, hinside⟩
    exact hinv.promised hinside
  · rintro s e s' ⟨hinv, hinside⟩ hroom hstep
    exact ⟨hinv.step hstep, (hinside.step_iff hstep).mpr hroom⟩
  · rintro s e s' ⟨hinv, hinside⟩ hroom hstep hpromised
    exact hroom ((hinside.step_iff hstep).mp hpromised.inside)

/-- **Temporary files.**  For every set of existing files and every interleaving of calls with steps
of other programs, what is promised of the returned calls holds in every state, if and only if the
directory of every call whose `open` succeeds is not empty and has at most 1196 bytes. -/
theorem promised_iff_leavesRoom (P : Processes θ ρ) (counter : ρ → Int32) (files : InitialFiles)
    (events : List (TempEvent θ)) :
    Always (TempRun.step P) Promised (start counter files) events ↔
      StepsMeet (TempRun.step P) LeavesRoom (start counter files) events :=
  always_promised_iff counter files events

/-- A directory of 400 levels named `bb`, of 1200 bytes. -/
def deepDirectory : FilePath where
  value := (List.replicate 400 [47, 98, 98]).flatten
  nul_free h := by
    obtain ⟨level, hlevel, hzero⟩ := List.mem_flatten.mp h
    rw [List.eq_of_mem_replicate hlevel] at hzero
    exact absurd hzero (by decide)

/-- One thread creates a file for the deep directory: its name is the first 1199 bytes of the
directory, a file `b` beside it. -/
theorem deepDirectory_not_promised :
    ¬ Always (TempRun.step (⟨id, fun _ => 7⟩ : Processes Unit Unit)) Promised
      (start (fun _ => 0) ⟨fun _ => none, 0, nofun⟩)
      [.call () deepDirectory, .fetch (), .openCreates ()] := by
  rw [always_promised_iff]
  intro h
  have hroom := ((h _ rfl).2 _ rfl).2 _ rfl
  have hlen : deepDirectory.value.length ≤ 1196 := (hroom.1 _ rfl).2
  have hlong : deepDirectory.value.length = 1200 := by
    unfold deepDirectory
    rw [List.length_flatten, List.map_replicate, List.sum_replicate]
    rfl
  omega

end TempRun

end ChromiumQnx
