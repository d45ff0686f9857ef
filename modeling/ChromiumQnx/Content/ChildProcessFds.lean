import ChromiumQnx.Foundation.DescriptorTable
import ChromiumQnx.Foundation.SequentialCopies
import Mathlib.Data.List.Basic
import Mathlib.Data.List.Nodup
import Mathlib.Data.List.TakeWhile

/-!
# The descriptors of a child process

On QNX `LaunchProcessOnLauncherThread` starts children with `posix_spawn`.  Its file actions open
`/dev/null` on stdin, copy every source of `fds_to_remap` to its destination with `dup2`, and close
the rest: `AddCloseSuperfluousFds` reads `/proc/self/fd` in the parent and adds a close for every
descriptor that is neither stdio nor a destination.

The copies are made one after another, where the fork path puts them in order first with
`ShuffleFileDescriptors`.  `expectedTable` is the table the child should start with, and
`startsWith_expectedTable_iff` says for which parents and remaps it does: every source still names
its file when it is copied (`SequentialCopies.SourcesKept`), and no descriptor that the child keeps
as it is has `FD_CLOEXEC` set.
-/

namespace ChromiumQnx

open SequentialCopies

/-! ## The parent -/

/-- An open descriptor: what it refers to, and its flag `FD_CLOEXEC`. -/
structure FdEntry (F : Type*) where
  file : F
  cloexec : Bool
  deriving DecidableEq, Repr

/-- The descriptors of the parent.  Their numbers are values of type `int`. -/
structure ParentFds (F : Type*) where
  table : DescriptorTable (FdEntry F)
  length_lt : table.slots.length < 2147483648

/-- The remaps of a launch: distinct destinations, and sources that are open in the parent.  The
destinations are numbers that descriptors can have, below `OPEN_MAX`. -/
structure FdsToRemap {F : Type*} (parent : ParentFds F) where
  remaps : List (ℕ × ℕ)
  nodup : (remaps.map Prod.snd).Nodup
  sources_open : ∀ remap ∈ remaps, (parent.table.get? remap.1).isSome

/-! ## Reading `/proc/self/fd` -/

/-- What `strtol` returns, where its end pointer points, and whether `errno` is `ERANGE`. -/
structure StrtolResult where
  value : ℤ
  endptr : List Char
  erange : Bool
  deriving DecidableEq, Repr

/-- `LONG_MAX`, for a `long` of 32 bits. -/
def longMax : ℤ := 2147483647

/-- `LONG_MIN`, for a `long` of 32 bits. -/
def longMin : ℤ := -2147483648

/-- `isspace`. -/
def isSpace (c : Char) : Bool := c.toNat = 32 || (9 ≤ c.toNat && c.toNat ≤ 13)

/-- The sign of a number and what follows it. -/
def splitSign : List Char → Bool × List Char
  | '-' :: s => (true, s)
  | '+' :: s => (false, s)
  | s => (false, s)

/-- `strtol` with base 10. -/
def strtol (s : List Char) : StrtolResult :=
  let signed := splitSign (s.dropWhile isSpace)
  let digits := signed.2.takeWhile Char.isDigit
  let rest := signed.2.dropWhile Char.isDigit
  if digits = [] then ⟨0, s, false⟩
  else
    let magnitude : ℤ := Nat.ofDigitChars 10 digits 0
    let value := if signed.1 then -magnitude else magnitude
    if value < longMin then ⟨longMin, rest, true⟩
    else if longMax < value then ⟨longMax, rest, true⟩
    else ⟨value, rest, false⟩

/-- The name of a descriptor in `/proc/self/fd`. -/
def fdName (fd : ℕ) : List Char := Nat.toDigits 10 fd

/-- A `DirReaderPosix` on `/proc/self/fd`: its own descriptor and the names it returns. -/
structure FdDir where
  fd : ℕ
  names : List (List Char)

/-- The directory as the parent sees it: the reader has the lowest free descriptor, and the names
are the dots and the numbers of all open descriptors, in some order. -/
structure FdDir.Lists {F : Type*} (dir : FdDir) (parent : ParentFds F) : Prop where
  fd_eq : dir.fd = parent.table.lowestFree
  names_perm : dir.names.Perm
    (['.'] :: ['.', '.'] :: (parent.table.lowestFree :: parent.table.openFds).map fdName)

/-! ## The file actions -/

/-- The actions of a `posix_spawn_file_actions_t`. -/
inductive FileAction
  | addopen (fd : ℕ) (path : String)
  | adddup2 (fd newFd : ℕ)
  | addclose (fd : ℕ)
  deriving DecidableEq, Repr

/-- The descriptor `AddCloseSuperfluousFds` closes for a name in the directory. -/
def superfluousFd? (dirFd : ℕ) (remaps : List (ℕ × ℕ)) (name : List Char) : Option ℕ :=
  if name.head? = some '.' then none
  else
    let parsed := strtol name
    if name = [] ∨ parsed.endptr ≠ [] ∨ parsed.value < 0 ∨ parsed.erange then none
    else
      let fd := parsed.value.toNat
      if fd = 0 ∨ fd = 1 ∨ fd = 2 then none
      else if fd = dirFd then none
      else if remaps.any fun remap => fd = remap.2 then none
      else some fd

/-- `AddCloseSuperfluousFds`; there is no directory when `/proc/self/fd` cannot be opened. -/
def addCloseSuperfluousFds (dir : Option FdDir) (remaps : List (ℕ × ℕ)) : List FileAction :=
  match dir with
  | none => []
  | some dir => (dir.names.filterMap (superfluousFd? dir.fd remaps)).map .addclose

/-- The file actions of `LaunchProcessOnLauncherThread`. -/
def launchFileActions (dir : Option FdDir) (remaps : List (ℕ × ℕ)) : List FileAction :=
  .addopen 0 "/dev/null" :: remaps.map (fun remap => .adddup2 remap.1 remap.2) ++
    addCloseSuperfluousFds dir remaps

/-! ## `posix_spawn` -/

/-- What a descriptor of the child refers to: a file of the parent, or one that was opened. -/
inductive ChildFile (F : Type*)
  | inherited (file : F)
  | opened (path : String)
  deriving DecidableEq, Repr

variable {F : Type*}

/-- The descriptors of the child. -/
abbrev ChildFds (F : Type*) := DescriptorTable (FdEntry (ChildFile F))

/-- The child inherits all descriptors, flags included. -/
def inheritFds (t : DescriptorTable (FdEntry F)) : ChildFds F :=
  t.map fun entry => ⟨.inherited entry.file, entry.cloexec⟩

/-- One action in the child, with the semantics of `open`, `dup2` and `close`: `dup2` clears
`FD_CLOEXEC` on the copy, but does nothing when both numbers are the same.  It would also fail for a
destination from `OPEN_MAX` on, which is not among the remaps. -/
def applyFileAction (t : ChildFds F) : FileAction → Option (ChildFds F)
  | .addopen fd path => some (t.set fd (some ⟨.opened path, false⟩))
  | .adddup2 fd newFd =>
    match t.get? fd with
    | none => none
    | some entry => if fd = newFd then some t else some (t.set newFd (some ⟨entry.file, false⟩))
  | .addclose fd =>
    match t.get? fd with
    | none => none
    | some _ => some (t.set fd none)

/-- What is left open after `exec`. -/
def execFile (t : ChildFds F) (fd : ℕ) : Option (ChildFile F) :=
  (t.get? fd).bind fun entry => if entry.cloexec then none else some entry.file

/-- `posix_spawn`: the actions in order, then `exec`.  It fails when an action fails. -/
def posixSpawn (t : DescriptorTable (FdEntry F)) (actions : List FileAction) :
    Option (ℕ → Option (ChildFile F)) :=
  (actions.foldlM applyFileAction (inheritFds t)).map execFile

/-- **The table the child should start with.** -/
def expectedTable (t : DescriptorTable (FdEntry F)) (remaps : List (ℕ × ℕ)) (fd : ℕ) :
    Option (ChildFile F) :=
  match remaps.find? fun remap => remap.2 = fd with
  | some remap => (t.get? remap.1).map fun entry => .inherited entry.file
  | none =>
    if fd = 0 then some (.opened "/dev/null")
    else if fd = 1 ∨ fd = 2 then (t.get? fd).map fun entry => .inherited entry.file
    else none

/-- The child starts, with a given table. -/
def StartsWith (child : Option (ℕ → Option (ChildFile F))) (table : ℕ → Option (ChildFile F)) :
    Prop :=
  ∃ fds, child = some fds ∧ ∀ fd, fds fd = table fd

/-! ## When the child starts with it -/

/-- What a descriptor of the parent refers to, as the child sees it. -/
def parentFile (t : DescriptorTable (FdEntry F)) (fd : ℕ) : Option (ChildFile F) :=
  (t.get? fd).map fun entry => .inherited entry.file

/-- The source of a remap still names its file after the earlier remaps: it is not stdin and not an
earlier destination, or it is an earlier destination whose own source named the same file. -/
def RemapKept (t : DescriptorTable (FdEntry F)) (earlier : List (ℕ × ℕ)) (remap : ℕ × ℕ) : Prop :=
  match earlier.find? fun e => e.2 = remap.1 with
  | some e => parentFile t e.1 = parentFile t remap.1
  | none => remap.1 ≠ 0

/-- A descriptor of the parent survives `exec`. -/
def Inheritable (t : DescriptorTable (FdEntry F)) (fd : ℕ) : Prop :=
  ∀ entry ∈ t.get? fd, entry.cloexec = false

/-- **The condition on a launch.**  All sources are kept, and the descriptors that no `dup2` copies,
which are stdout and stderr and the remaps to the same number, are not closed by `exec`. -/
structure RemapsSafe (t : DescriptorTable (FdEntry F)) (remaps : List (ℕ × ℕ)) : Prop where
  kept : ∀ earlier remap later, remaps = earlier ++ remap :: later → RemapKept t earlier remap
  self_inheritable : ∀ remap ∈ remaps, remap.1 = remap.2 → Inheritable t remap.1
  stdio_inheritable : ∀ fd, fd = 1 ∨ fd = 2 → fd ∉ remaps.map Prod.snd → Inheritable t fd

/-! ## The names in the directory -/

/-- A digit is neither a space nor a sign nor a dot. -/
lemma isDigit_spec {c : Char} (h : c.isDigit) :
    isSpace c = false ∧ c ≠ '-' ∧ c ≠ '+' ∧ c ≠ '.' := by
  refine ⟨?_, ?_, ?_, ?_⟩
  · have hbounds : 48 ≤ c.toNat := by
      simp only [Char.isDigit, Bool.and_eq_true, decide_eq_true_eq] at h
      exact UInt32.le_iff_toNat_le.mp h.1
    simp only [isSpace, Bool.or_eq_false_iff, Bool.and_eq_false_iff, decide_eq_false_iff_not]
    omega
  all_goals
    rintro rfl
    exact absurd h (by decide)

/-- The name of a descriptor begins with a digit and has only digits. -/
lemma fdName_eq_cons (fd : ℕ) :
    ∃ c cs, fdName fd = c :: cs ∧ ∀ d ∈ c :: cs, d.isDigit := by
  obtain ⟨c, cs, hname⟩ := List.exists_cons_of_ne_nil (Nat.toDigits_ne_nil (n := fd) (b := 10))
  refine ⟨c, cs, hname, fun d hd => ?_⟩
  rw [← hname] at hd
  exact Nat.isDigit_of_mem_toDigits (by decide) (by decide) hd

/-- The name of a descriptor is its number to `strtol`. -/
lemma strtol_fdName {fd : ℕ} (h : (fd : ℤ) ≤ longMax) : strtol (fdName fd) = ⟨fd, [], false⟩ := by
  obtain ⟨c, cs, hname, hdigits⟩ := fdName_eq_cons fd
  obtain ⟨hspace, hminus, hplus, -⟩ := isDigit_spec (hdigits c List.mem_cons_self)
  have hskip : (c :: cs).dropWhile isSpace = c :: cs :=
    List.dropWhile_cons_of_neg (by simp [hspace])
  have hsign : splitSign (c :: cs) = (false, c :: cs) := by
    unfold splitSign
    split
    · rename_i heq
      exact absurd (List.cons.inj heq).1 hminus
    · rename_i heq
      exact absurd (List.cons.inj heq).1 hplus
    · rfl
  have hvalue : Nat.ofDigitChars 10 (c :: cs) 0 = fd := by
    rw [← hname]
    exact Nat.ofDigitChars_ten_toDigits
  have hmin : ¬ (fd : ℤ) < longMin := by
    unfold longMin
    omega
  unfold strtol
  rw [hname, hskip, hsign]
  dsimp only
  rw [List.takeWhile_eq_self_iff.mpr hdigits, List.dropWhile_eq_nil_iff.mpr hdigits, hvalue]
  simp [hmin, h]

/-- The descriptor that is closed for a name in the directory. -/
lemma superfluousFd?_fdName (dirFd : ℕ) (remaps : List (ℕ × ℕ)) {fd : ℕ}
    (h : (fd : ℤ) ≤ longMax) :
    superfluousFd? dirFd remaps (fdName fd) =
      if fd = 0 ∨ fd = 1 ∨ fd = 2 then none
      else if fd = dirFd then none
      else if remaps.any fun remap => fd = remap.2 then none
      else some fd := by
  obtain ⟨c, cs, hname, hdigits⟩ := fdName_eq_cons fd
  have hdot := (isDigit_spec (hdigits c List.mem_cons_self)).2.2.2
  unfold superfluousFd?
  rw [strtol_fdName h, if_neg (by simp [hname, hdot]), if_neg (by simp [hname])]
  simp

/-- A descriptor that is neither stdio nor a destination. -/
def isSuperfluous (remaps : List (ℕ × ℕ)) (fd : ℕ) : Bool :=
  !(fd = 0 ∨ fd = 1 ∨ fd = 2) && !remaps.any fun remap => fd = remap.2

/-- The descriptors of the parent that the child closes. -/
def superfluousFds (t : DescriptorTable (FdEntry F)) (remaps : List (ℕ × ℕ)) : List ℕ :=
  t.openFds.filter (isSuperfluous remaps)

/-- **What `AddCloseSuperfluousFds` closes**: every open descriptor of the parent that is neither
stdio nor a destination, once. -/
lemma filterMap_superfluousFd?_perm {parent : ParentFds F} {dir : FdDir} (hdir : dir.Lists parent)
    (remaps : List (ℕ × ℕ)) :
    (dir.names.filterMap (superfluousFd? dir.fd remaps)).Perm
      (superfluousFds parent.table remaps) := by
  have hlength := parent.length_lt
  have hfree : (parent.table.lowestFree : ℤ) ≤ longMax := by
    have hle : parent.table.lowestFree ≤ parent.table.slots.length := List.findIdx_le_length
    unfold longMax
    omega
  have hdots : superfluousFd? dir.fd remaps ['.'] = none ∧
      superfluousFd? dir.fd remaps ['.', '.'] = none := ⟨if_pos rfl, if_pos rfl⟩
  have hself : superfluousFd? dir.fd remaps (fdName parent.table.lowestFree) = none := by
    rw [superfluousFd?_fdName _ _ hfree, hdir.fd_eq]
    simp
  have hopen : ∀ fd ∈ parent.table.openFds, superfluousFd? dir.fd remaps (fdName fd) =
      Option.guard (isSuperfluous remaps) fd := by
    intro fd hfd
    obtain ⟨entry, hentry⟩ := Option.isSome_iff_exists.mp (DescriptorTable.mem_openFds.mp hfd)
    have hlt := DescriptorTable.lt_length_of_get? hentry
    have hne : fd ≠ dir.fd := hdir.fd_eq ▸ DescriptorTable.ne_lowestFree hentry
    rw [superfluousFd?_fdName _ _ (by unfold longMax; omega), if_neg hne, Option.guard]
    unfold isSuperfluous
    by_cases hstdio : fd = 0 ∨ fd = 1 ∨ fd = 2
    · simp [hstdio]
    · cases remaps.any fun remap => fd = remap.2 <;> simp [hstdio]
  refine (hdir.names_perm.filterMap _).trans (List.Perm.of_eq ?_)
  rw [List.filterMap_cons_none hdots.1, List.filterMap_cons_none hdots.2, List.map_cons,
    List.filterMap_cons_none hself, List.filterMap_map]
  exact (List.filterMap_congr hopen).trans (congrFun List.filterMap_eq_filter _)

/-! ## The actions in the child -/

/-- What the descriptors of the child refer to. -/
def fileView (t : ChildFds F) (fd : ℕ) : Option (ChildFile F) := (t.get? fd).map FdEntry.file

/-- One remap copies the file, to a descriptor without the flag unless the numbers are the same. -/
lemma applyFileAction_adddup2 {t : ChildFds F} {remap : ℕ × ℕ} (hopen : (t.get? remap.1).isSome) :
    ∃ t', applyFileAction t (.adddup2 remap.1 remap.2) = some t' ∧
      fileView t' = copy (fileView t) remap ∧
      (∀ fd ≠ remap.2, t'.get? fd = t.get? fd) ∧
      (t'.get? remap.2).map FdEntry.cloexec =
        if remap.1 = remap.2 then (t.get? remap.2).map FdEntry.cloexec else some false := by
  obtain ⟨src, dst⟩ := remap
  obtain ⟨entry, hentry⟩ := Option.isSome_iff_exists.mp hopen
  dsimp only at hentry ⊢
  by_cases hsame : src = dst
  · subst hsame
    refine ⟨t, by simp [applyFileAction, hentry], ?_, fun _ _ => rfl, by rw [if_pos rfl]⟩
    exact (Function.update_eq_self src (fileView t)).symm
  · refine ⟨t.set dst (some ⟨entry.file, false⟩), by simp [applyFileAction, hentry, hsame], ?_,
      fun fd hfd => DescriptorTable.get?_set_ne t _ hfd, ?_⟩
    · funext fd
      by_cases hfd : fd = dst
      · subst hfd
        simp [fileView, copy, hentry]
      · simp [fileView, copy, hfd, DescriptorTable.get?_set_ne t _ hfd]
    · rw [if_neg hsame, DescriptorTable.get?_set_self]
      rfl

/-- **The remaps in the child** copy the files one after another and touch only destinations; a
destination keeps `FD_CLOEXEC` only when it is its own source. -/
lemma foldlM_adddup2 {remaps : List (ℕ × ℕ)} {t : ChildFds F}
    (hopen : ∀ remap ∈ remaps, (t.get? remap.1).isSome) (hnodup : (remaps.map Prod.snd).Nodup) :
    ∃ t', (remaps.map fun remap => FileAction.adddup2 remap.1 remap.2).foldlM applyFileAction t =
        some t' ∧
      fileView t' = copies (fileView t) remaps ∧
      (∀ fd ∉ remaps.map Prod.snd, t'.get? fd = t.get? fd) ∧
      ∀ remap ∈ remaps, (t'.get? remap.2).map FdEntry.cloexec =
        if remap.1 = remap.2 then (t.get? remap.2).map FdEntry.cloexec else some false := by
  induction remaps generalizing t with
  | nil => exact ⟨t, rfl, rfl, fun _ _ => rfl, List.forall_mem_nil _⟩
  | cons remap remaps ih =>
    rw [List.map_cons, List.nodup_cons] at hnodup
    obtain ⟨t₁, happly, hview, hframe, hcloexec⟩ :=
      applyFileAction_adddup2 (hopen remap List.mem_cons_self)
    have hopen₁ : ∀ r ∈ remaps, (t₁.get? r.1).isSome := by
      intro r hr
      have hr' := hopen r (List.mem_cons_of_mem _ hr)
      by_cases hdst : r.1 = remap.2
      · have hfile : fileView t₁ r.1 = fileView t remap.1 := by
          rw [hview, hdst, copy, Function.update_self]
        have hsome : (fileView t remap.1).isSome := by
          simpa [fileView] using hopen remap List.mem_cons_self
        rw [← hfile] at hsome
        simpa [fileView] using hsome
      · rwa [hframe r.1 hdst]
    obtain ⟨t', hfold, hview', hframe', hcloexec'⟩ := ih hopen₁ hnodup.2
    refine ⟨t', ?_, ?_, fun fd hfd => ?_, ?_⟩
    · rw [List.map_cons, List.foldlM_cons, happly]
      exact hfold
    · rw [hview', hview]
      rfl
    · rw [List.map_cons, List.mem_cons, not_or] at hfd
      rw [hframe' fd hfd.2, hframe fd hfd.1]
    · rw [List.forall_mem_cons]
      refine ⟨by rw [hframe' _ hnodup.1, hcloexec], fun r hr => ?_⟩
      have hne : r.2 ≠ remap.2 := fun heq => hnodup.1 (heq ▸ List.mem_map_of_mem hr)
      rw [hcloexec' r hr, hframe r.2 hne]

/-- **The closes in the child**, each of an open descriptor. -/
lemma foldlM_addclose {fds : List ℕ} {t : ChildFds F} (hnodup : fds.Nodup)
    (hopen : ∀ fd ∈ fds, (t.get? fd).isSome) :
    ∃ t', (fds.map FileAction.addclose).foldlM applyFileAction t = some t' ∧
      ∀ fd, t'.get? fd = if fd ∈ fds then none else t.get? fd := by
  induction fds generalizing t with
  | nil => exact ⟨t, rfl, fun fd => by simp⟩
  | cons fd fds ih =>
    rw [List.nodup_cons] at hnodup
    obtain ⟨entry, hentry⟩ := Option.isSome_iff_exists.mp (hopen fd List.mem_cons_self)
    have happly : applyFileAction t (.addclose fd) = some (t.set fd none) := by
      simp [applyFileAction, hentry]
    have hopen₁ : ∀ fd' ∈ fds, ((t.set fd none).get? fd').isSome := by
      intro fd' hfd'
      have hne : fd' ≠ fd := fun heq => hnodup.1 (heq ▸ hfd')
      rw [DescriptorTable.get?_set_ne t _ hne]
      exact hopen fd' (List.mem_cons_of_mem _ hfd')
    obtain ⟨t', hfold, hclosed⟩ := ih hnodup.2 hopen₁
    refine ⟨t', ?_, fun fd' => ?_⟩
    · rw [List.map_cons, List.foldlM_cons, happly]
      exact hfold
    · rw [hclosed fd', DescriptorTable.get?_set]
      by_cases hfd' : fd' = fd <;> simp [hfd']

/-! ## The launch -/

/-- The child after the first action. -/
def childAfterOpen (t : DescriptorTable (FdEntry F)) : ChildFds F :=
  (inheritFds t).set 0 (some ⟨.opened "/dev/null", false⟩)

lemma get?_childAfterOpen_of_ne (t : DescriptorTable (FdEntry F)) {fd : ℕ} (h : fd ≠ 0) :
    (childAfterOpen t).get? fd =
      (t.get? fd).map fun entry => ⟨.inherited entry.file, entry.cloexec⟩ := by
  rw [childAfterOpen, DescriptorTable.get?_set_ne _ _ h, inheritFds, DescriptorTable.get?_map]

lemma fileView_childAfterOpen_of_ne (t : DescriptorTable (FdEntry F)) {fd : ℕ} (h : fd ≠ 0) :
    fileView (childAfterOpen t) fd = parentFile t fd := by
  rw [fileView, get?_childAfterOpen_of_ne t h, Option.map_map]
  rfl

lemma isSome_get?_childAfterOpen {t : DescriptorTable (FdEntry F)} {fd : ℕ}
    (h : (t.get? fd).isSome) : ((childAfterOpen t).get? fd).isSome := by
  by_cases hfd : fd = 0
  · rw [hfd, childAfterOpen, DescriptorTable.get?_set_self]
    rfl
  · rwa [get?_childAfterOpen_of_ne t hfd, Option.isSome_map]

/-- What is superfluous is no destination. -/
lemma mem_superfluousFds {t : DescriptorTable (FdEntry F)} {remaps : List (ℕ × ℕ)} {fd : ℕ} :
    fd ∈ superfluousFds t remaps ↔
      (t.get? fd).isSome ∧ ¬ (fd = 0 ∨ fd = 1 ∨ fd = 2) ∧ fd ∉ remaps.map Prod.snd := by
  have hdst : (remaps.any fun remap => fd = remap.2) = true ↔ fd ∈ remaps.map Prod.snd := by
    rw [List.any_eq_true, List.mem_map]
    exact exists_congr fun remap => and_congr_right' (decide_eq_true_iff.trans eq_comm)
  rw [superfluousFds, List.mem_filter, DescriptorTable.mem_openFds, isSuperfluous,
    Bool.and_eq_true, Bool.not_eq_true', Bool.not_eq_true', decide_eq_false_iff_not,
    ← Bool.not_eq_true, hdst]

/-- The child before `exec`: destinations hold what the copies left there, stdio is as it was after
the first action, and nothing else is open. -/
structure Launched {parent : ParentFds F} (r : FdsToRemap parent) (t : ChildFds F) : Prop where
  destination_file : ∀ remap ∈ r.remaps,
    fileView t remap.2 = copies (fileView (childAfterOpen parent.table)) r.remaps remap.2
  destination_cloexec : ∀ remap ∈ r.remaps, (t.get? remap.2).map FdEntry.cloexec =
    if remap.1 = remap.2 then ((childAfterOpen parent.table).get? remap.2).map FdEntry.cloexec
    else some false
  rest : ∀ fd ∉ r.remaps.map Prod.snd, t.get? fd =
    if fd = 0 ∨ fd = 1 ∨ fd = 2 then (childAfterOpen parent.table).get? fd else none

/-- **The launch succeeds**, in whatever order the directory lists the descriptors. -/
lemma posixSpawn_launchFileActions {parent : ParentFds F} (r : FdsToRemap parent) {dir : FdDir}
    (hdir : dir.Lists parent) :
    ∃ t : ChildFds F,
      posixSpawn parent.table (launchFileActions (some dir) r.remaps) = some (execFile t) ∧
        Launched r t := by
  obtain ⟨t₁, hfold₁, hview, hframe, hcloexec⟩ := foldlM_adddup2
    (fun remap hremap => isSome_get?_childAfterOpen (r.sources_open remap hremap)) r.nodup
  have hperm := filterMap_superfluousFd?_perm hdir r.remaps
  have hnodup := hperm.nodup_iff.mpr (parent.table.nodup_openFds.filter (isSuperfluous r.remaps))
  have hopen : ∀ fd ∈ dir.names.filterMap (superfluousFd? dir.fd r.remaps),
      (t₁.get? fd).isSome := by
    intro fd hfd
    obtain ⟨hsome, -, hdst⟩ := mem_superfluousFds.mp (hperm.mem_iff.mp hfd)
    rw [hframe fd hdst]
    exact isSome_get?_childAfterOpen hsome
  obtain ⟨t, hfold, hclosed⟩ := foldlM_addclose hnodup hopen
  have hkeep : ∀ fd, fd ∉ superfluousFds parent.table r.remaps → t.get? fd = t₁.get? fd :=
    fun fd hfd => by rw [hclosed fd, if_neg fun hmem => hfd (hperm.mem_iff.mp hmem)]
  have hkept : ∀ remap ∈ r.remaps, t.get? remap.2 = t₁.get? remap.2 := fun remap hremap =>
    hkeep _ fun hmem => (mem_superfluousFds.mp hmem).2.2 (List.mem_map_of_mem hremap)
  refine ⟨t, ?_, fun remap hremap => ?_, fun remap hremap => ?_, fun fd hfd => ?_⟩
  · have hopenNull : applyFileAction (inheritFds parent.table) (.addopen 0 "/dev/null") =
        some (childAfterOpen parent.table) := rfl
    rw [posixSpawn, launchFileActions, List.cons_append, List.foldlM_cons, hopenNull,
      Option.bind_eq_bind, Option.bind_some, List.foldlM_append, hfold₁, Option.bind_eq_bind,
      Option.bind_some, addCloseSuperfluousFds, hfold, Option.map_some]
  · rw [fileView, hkept remap hremap, ← fileView, hview]
  · rw [hkept remap hremap, hcloexec remap hremap]
  · by_cases hstdio : fd = 0 ∨ fd = 1 ∨ fd = 2
    · have hstays : fd ∉ superfluousFds parent.table r.remaps := fun hmem =>
        (mem_superfluousFds.mp hmem).2.1 hstdio
      rw [if_pos hstdio, hkeep fd hstays, hframe fd hfd]
    · rw [if_neg hstdio, hclosed fd]
      split_ifs with hmem
      · rfl
      · have hne : fd ≠ 0 := fun h => hstdio (Or.inl h)
        rw [hframe fd hfd, get?_childAfterOpen_of_ne _ hne, Option.map_eq_none_iff]
        by_contra hsome
        exact hmem (hperm.mem_iff.mpr
          (mem_superfluousFds.mpr ⟨Option.isSome_iff_ne_none.mpr hsome, hstdio, hfd⟩))

/-! ## The expected table -/

/-- A remap is the only one with its destination. -/
lemma expectedTable_of_mem {parent : ParentFds F} (r : FdsToRemap parent) {remap : ℕ × ℕ}
    (h : remap ∈ r.remaps) :
    expectedTable parent.table r.remaps remap.2 = parentFile parent.table remap.1 := by
  unfold expectedTable
  cases hfind : r.remaps.find? fun e => e.2 = remap.2 with
  | none => exact absurd (decide_eq_true rfl) (List.find?_eq_none.mp hfind remap h)
  | some e =>
    have hdst : e.2 = remap.2 := by simpa using List.find?_some hfind
    rw [List.inj_on_of_nodup_map r.nodup (List.mem_of_find?_eq_some hfind) h hdst]
    rfl

lemma expectedTable_of_not_mem (t : DescriptorTable (FdEntry F)) {remaps : List (ℕ × ℕ)} {fd : ℕ}
    (h : fd ∉ remaps.map Prod.snd) :
    expectedTable t remaps fd =
      if fd = 0 then some (.opened "/dev/null")
      else if fd = 1 ∨ fd = 2 then parentFile t fd else none := by
  have hfind : remaps.find? (fun e => e.2 = fd) = none := by
    refine List.find?_eq_none.mpr fun e he hdst => h ?_
    exact List.mem_map.mpr ⟨e, he, by simpa using hdst⟩
  rw [expectedTable, hfind]
  rfl

/-- What a descriptor refers to after `exec`. -/
lemma execFile_eq_some_iff {t : ChildFds F} {fd : ℕ} {file : ChildFile F} :
    execFile t fd = some file ↔
      fileView t fd = some file ∧ (t.get? fd).map FdEntry.cloexec = some false := by
  unfold execFile fileView
  cases t.get? fd with
  | none => simp
  | some entry => cases hcloexec : entry.cloexec <;> simp [hcloexec]

/-- An inherited descriptor after `exec`. -/
lemma execFile_inherited_iff {t : DescriptorTable (FdEntry F)} {child : ChildFds F} {fd : ℕ}
    (h : child.get? fd = (t.get? fd).map fun entry => ⟨.inherited entry.file, entry.cloexec⟩) :
    execFile child fd = parentFile t fd ↔ Inheritable t fd := by
  unfold execFile parentFile Inheritable
  rw [h]
  cases t.get? fd with
  | none => simp
  | some entry => cases hcloexec : entry.cloexec <;> simp [hcloexec]

/-- The two ways to say that the sources are kept. -/
lemma sourcesKept_iff {parent : ParentFds F} (r : FdsToRemap parent) :
    SourcesKept (fileView (childAfterOpen parent.table)) (parentFile parent.table) r.remaps ↔
      ∀ earlier remap later, r.remaps = earlier ++ remap :: later →
        RemapKept parent.table earlier remap := by
  refine forall₄_congr fun earlier remap later heq => ?_
  have hopen := r.sources_open remap (by rw [heq]; simp)
  unfold SourceKept RemapKept
  cases earlier.find? fun e => e.2 = remap.1 with
  | some e => exact Iff.rfl
  | none =>
    refine ⟨fun hfile hzero => ?_, fun hne => fileView_childAfterOpen_of_ne _ hne⟩
    obtain ⟨entry, hentry⟩ := Option.isSome_iff_exists.mp hopen
    rw [hzero] at hfile hentry
    rw [fileView, childAfterOpen, DescriptorTable.get?_set_self, parentFile, hentry] at hfile
    cases hfile

/-- A remap to its own number has a source that is not stdin, when all sources are kept. -/
lemma ne_zero_of_kept {parent : ParentFds F} (r : FdsToRemap parent)
    (hkept : ∀ earlier remap later, r.remaps = earlier ++ remap :: later →
      RemapKept parent.table earlier remap)
    {remap : ℕ × ℕ} (h : remap ∈ r.remaps) (hself : remap.1 = remap.2) : remap.1 ≠ 0 := by
  obtain ⟨earlier, later, heq⟩ := List.append_of_mem h
  have hnodup := r.nodup
  rw [heq, List.map_append, List.map_cons, List.nodup_append] at hnodup
  have hfind : earlier.find? (fun e => e.2 = remap.1) = none := by
    refine List.find?_eq_none.mpr fun e he hdst => ?_
    have hne := hnodup.2.2 e.2 (List.mem_map_of_mem he) remap.2 List.mem_cons_self
    exact hne ((of_decide_eq_true hdst).trans hself)
  have hremap := hkept earlier remap later heq
  rwa [RemapKept, hfind] at hremap

/-- The flag of a destination, when the source is open: it is set only on a descriptor that is its
own source and has it in the parent. -/
lemma cloexec_childAfterOpen_iff {t : DescriptorTable (FdEntry F)} {remap : ℕ × ℕ}
    (hopen : (t.get? remap.1).isSome) :
    (if remap.1 = remap.2 then ((childAfterOpen t).get? remap.2).map FdEntry.cloexec
      else some false) = some false ↔
      (remap.1 = remap.2 → remap.1 ≠ 0 → Inheritable t remap.1) := by
  obtain ⟨entry, hentry⟩ := Option.isSome_iff_exists.mp hopen
  by_cases hself : remap.1 = remap.2
  · rw [if_pos hself, ← hself]
    by_cases hzero : remap.1 = 0
    · rw [hzero, childAfterOpen, DescriptorTable.get?_set_self]
      exact iff_of_true rfl fun _ hne => absurd rfl hne
    · rw [get?_childAfterOpen_of_ne t hzero, Inheritable, hentry]
      simp [hself, hself ▸ hzero]
  · exact iff_of_true (if_neg hself) fun h => absurd h hself

/-! ## The child's table -/

namespace Launched

variable {parent : ParentFds F} {r : FdsToRemap parent} {t : ChildFds F}

/-- A destination is right when its copy is and the descriptor survives `exec`. -/
lemma destination_iff (h : Launched r t) {remap : ℕ × ℕ} (hremap : remap ∈ r.remaps) :
    execFile t remap.2 = parentFile parent.table remap.1 ↔
      copies (fileView (childAfterOpen parent.table)) r.remaps remap.2 =
          parentFile parent.table remap.1 ∧
        (remap.1 = remap.2 → remap.1 ≠ 0 → Inheritable parent.table remap.1) := by
  have hopen := r.sources_open remap hremap
  obtain ⟨entry, hentry⟩ := Option.isSome_iff_exists.mp hopen
  have hsource : parentFile parent.table remap.1 = some (.inherited entry.file) := by
    rw [parentFile, hentry]
    rfl
  rw [← cloexec_childAfterOpen_iff hopen, ← h.destination_file remap hremap,
    ← h.destination_cloexec remap hremap, hsource]
  exact execFile_eq_some_iff

/-- Stdin is `/dev/null`, unless it is a destination. -/
lemma stdin (h : Launched r t) (hzero : 0 ∉ r.remaps.map Prod.snd) :
    execFile t 0 = some (.opened "/dev/null") := by
  rw [execFile, h.rest 0 hzero, if_pos (Or.inl rfl), childAfterOpen, DescriptorTable.get?_set_self]
  rfl

/-- Stdout and stderr are the parent's when they survive `exec`. -/
lemma stdio_iff (h : Launched r t) {fd : ℕ} (hfd : fd = 1 ∨ fd = 2)
    (hmem : fd ∉ r.remaps.map Prod.snd) :
    execFile t fd = parentFile parent.table fd ↔ Inheritable parent.table fd := by
  refine execFile_inherited_iff ?_
  rw [h.rest fd hmem, if_pos (Or.inr hfd), get?_childAfterOpen_of_ne _ (by omega)]

/-- No other descriptor is open. -/
lemma closed (h : Launched r t) {fd : ℕ} (hstdio : ¬ (fd = 0 ∨ fd = 1 ∨ fd = 2))
    (hmem : fd ∉ r.remaps.map Prod.snd) : execFile t fd = none := by
  rw [execFile, h.rest fd hmem, if_neg hstdio]
  rfl

/-- In a child with the expected table all sources are kept. -/
lemma kept (h : Launched r t)
    (hright : ∀ remap ∈ r.remaps, execFile t remap.2 = parentFile parent.table remap.1) :
    ∀ earlier remap later, r.remaps = earlier ++ remap :: later →
      RemapKept parent.table earlier remap := by
  refine (sourcesKept_iff r).mp ((forall_copies_iff r.nodup).mp fun remap hremap => ?_)
  exact ((h.destination_iff hremap).mp (hright remap hremap)).1

/-- The child has the expected table if and only if the launch is safe. -/
lemma execFile_eq_expectedTable_iff (h : Launched r t) :
    (∀ fd, execFile t fd = expectedTable parent.table r.remaps fd) ↔
      RemapsSafe parent.table r.remaps := by
  constructor
  · intro htable
    have hright : ∀ remap ∈ r.remaps, execFile t remap.2 = parentFile parent.table remap.1 :=
      fun remap hremap => (htable remap.2).trans (expectedTable_of_mem r hremap)
    have hkept := h.kept hright
    refine ⟨hkept, fun remap hremap hself => ?_, fun fd hfd hmem => ?_⟩
    · have hne := ne_zero_of_kept r hkept hremap hself
      exact ((h.destination_iff hremap).mp (hright remap hremap)).2 hself hne
    · refine (h.stdio_iff hfd hmem).mp ((htable fd).trans ?_)
      rw [expectedTable_of_not_mem _ hmem, if_neg (by omega), if_pos hfd]
  · intro hsafe fd
    by_cases hmem : fd ∈ r.remaps.map Prod.snd
    · obtain ⟨remap, hremap, rfl⟩ := List.mem_map.mp hmem
      have hcopies := (forall_copies_iff r.nodup).mpr ((sourcesKept_iff r).mpr hsafe.kept)
      rw [expectedTable_of_mem r hremap, h.destination_iff hremap]
      exact ⟨hcopies remap hremap, fun hself _ => hsafe.self_inheritable remap hremap hself⟩
    · rw [expectedTable_of_not_mem _ hmem]
      split_ifs with hzero hfd
      · subst hzero
        exact h.stdin hmem
      · exact (h.stdio_iff hfd hmem).mpr (hsafe.stdio_inheritable fd hfd hmem)
      · exact h.closed (not_or.mpr ⟨hzero, hfd⟩) hmem

end Launched

/-- **The child's table.**  The child starts with the expected table, whatever the order of the
remaps and of the directory, if and only if the launch is safe. -/
theorem startsWith_expectedTable_iff (parent : ParentFds F) (r : FdsToRemap parent)
    (dir : {dir : FdDir // dir.Lists parent}) :
    StartsWith (posixSpawn parent.table (launchFileActions (some dir.1) r.remaps))
        (expectedTable parent.table r.remaps) ↔
      RemapsSafe parent.table r.remaps := by
  obtain ⟨t, hspawn, hlaunched⟩ := posixSpawn_launchFileActions r dir.2
  rw [← hlaunched.execFile_eq_expectedTable_iff, hspawn]
  constructor
  · rintro ⟨fds, hfds, htable⟩
    rwa [← Option.some.inj hfds] at htable
  · intro htable
    exact ⟨execFile t, rfl, htable⟩

/-- A parent with stdio and two more descriptors. -/
def parentExample : ParentFds ℕ where
  table := ⟨[some ⟨10, false⟩, some ⟨11, false⟩, some ⟨12, false⟩, none, none, some ⟨15, true⟩,
    some ⟨16, true⟩]⟩
  length_lt := by decide

/-- Remapping 5 to 6 and then 6 to 7 gives the child the file of 5 twice. -/
theorem overlappingRemaps_not_startsWith :
    ¬ ∀ (parent : ParentFds ℕ) (r : FdsToRemap parent) (dir : {dir : FdDir // dir.Lists parent}),
      StartsWith (posixSpawn parent.table (launchFileActions (some dir.1) r.remaps))
        (expectedTable parent.table r.remaps) := by
  intro h
  obtain ⟨fds, hspawn, hfds⟩ := h parentExample ⟨[(5, 6), (6, 7)], by decide, by decide⟩
    ⟨⟨3, ['.'] :: ['.', '.'] :: [3, 0, 1, 2, 5, 6].map fdName⟩, rfl, List.Perm.refl _⟩
  have hseven := congrArg (Option.map fun fds => fds 7) hspawn
  rw [Option.map_some, hfds 7] at hseven
  exact absurd hseven (by decide)

end ChromiumQnx
