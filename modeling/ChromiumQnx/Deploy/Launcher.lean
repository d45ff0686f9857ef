import ChromiumQnx.Foundation.CharBuffer
import Mathlib.Data.List.GetD

/-!
# The directory of the launcher

`resolve_dir` finds the directory that holds the running executable.  It reads
`/proc/self/exefile` into a buffer of `n` bytes, strips white space at the end and cuts the text off
at its last slash.  `argv[0]` stands in when the file gives nothing, and the current directory when
nothing is left in the end.

Nothing is also left of `/prog`, whose directory is the root, and a path that is cut off by the
buffer can lose its last slash.  The main result says on which inputs the directory is right.
-/

namespace ChromiumQnx

namespace Launcher

open CharBuffer Snprintf StringSearch

variable {n : ℕ}

/-! ## `resolve_dir` -/

/-- What is stripped at the end of the executable's path. -/
def isTrailing (c : UInt8) : Bool := c = 10 ∨ c = 13 ∨ c = 32 ∨ c = 0

/-- `while (r > 0 && …) dir[--r] = '\0';`. -/
def stripTrailing (dir : CharBuffer n) : ℕ → CharBuffer n
  | 0 => dir
  | r + 1 => if isTrailing (dir.get r) then stripTrailing (dir.put r 0) r else dir

/-- The part of `resolve_dir` that reads `/proc/self/exefile`.  The content is `none` when the file
cannot be opened or read. -/
def readExefile (dir : CharBuffer n) (exefile : Option (List UInt8)) : CharBuffer n :=
  match exefile with
  | some content =>
    let got := content.take (n - 1)
    let r := got.length
    if 0 < r then stripTrailing ((dir.write got).put r 0) r else dir
  | none => dir

/-- The part that falls back to `argv[0]`. -/
def useArgv0 (dir : CharBuffer n) (argv0 : Option CString) : CharBuffer n :=
  match argv0 with
  | some argv0 =>
    if dir.get 0 = 0 ∧ 47 ∈ argv0.chars then (dir.strncpy argv0 (n - 1)).put (n - 1) 0 else dir
  | none => dir

/-- The part that cuts the path off at its last slash. -/
def cutAtSlash (dir : CharBuffer n) : CharBuffer n :=
  if dir.get 0 ≠ 0 then
    match strrchr 47 dir.text with
    | some slash => dir.put slash 0
    | none => dir
  else dir

/-- `"."`. -/
def dot : CString := ⟨[46], by decide⟩

/-- The part that falls back to the current directory. -/
def useCwd (dir : CharBuffer n) (cwd : Option CString) : CharBuffer n :=
  if dir.get 0 = 0 then
    match dir.getcwd cwd with
    | some dir => dir
    | none => dir.strncpy dot n
  else dir

/-- `resolve_dir`, with the content of `/proc/self/exefile` and the path of the current directory.
-/
def resolveDir (dir : CharBuffer n) (exefile : Option (List UInt8)) (argv0 cwd : Option CString) :
    CharBuffer n :=
  useCwd (cutAtSlash (useArgv0 (readExefile (dir.put 0 0) exefile) argv0)) cwd

/-! ## The directory of the executable -/

/-- The path of the executable: the content of the file without the white space at its end. -/
def exefilePath (exefile : Option (List UInt8)) : List UInt8 :=
  cString ((exefile.getD []).rdropWhile isTrailing)

/-- The directory of a path: the part before its last slash, and the root directory when that slash
is the first character. -/
def DirectoryOf (path d : List UInt8) : Prop :=
  ∃ u v, path = u ++ 47 :: v ∧ 47 ∉ v ∧ d = if u = [] then [47] else u

/-- There is an `argv[0]` with a slash in it. -/
def HoldsSlash (argv0 : Option CString) : Prop := ∃ a, argv0 = some a ∧ 47 ∈ a.chars

/-- What may be given for the directory of the executable: the directory of its path, that of
`argv[0]` only when the file gives nothing, and the current directory only when neither holds a
slash. -/
inductive NamesDirectory (exefile : Option (List UInt8)) (argv0 cwd : Option CString) :
    List UInt8 → Prop
  | exefile {d : List UInt8} (hdir : DirectoryOf (exefilePath exefile) d) :
      NamesDirectory exefile argv0 cwd d
  | argv0 {d : List UInt8} {a : CString} (hnothing : exefilePath exefile = [])
      (ha : argv0 = some a) (hdir : DirectoryOf a.chars d) : NamesDirectory exefile argv0 cwd d
  | cwd {c : CString} (hpath : 47 ∉ exefilePath exefile) (hargv : ¬ HoldsSlash argv0)
      (hc : cwd = some c) : NamesDirectory exefile argv0 cwd c.chars
  | dot (hpath : 47 ∉ exefilePath exefile) (hargv : ¬ HoldsSlash argv0) :
      NamesDirectory exefile argv0 cwd [46]

/-- Of a path in the root directory only the root may be given. -/
lemma NamesDirectory.eq_root {exefile : Option (List UInt8)} {argv0 cwd : Option CString}
    {d v : List UInt8} (h : NamesDirectory exefile argv0 cwd d)
    (hpath : exefilePath exefile = 47 :: v) (hv : 47 ∉ v) : d = [47] := by
  have hmem : 47 ∈ exefilePath exefile := hpath ▸ List.mem_cons_self
  cases h with
  | exefile hdir =>
    obtain ⟨u, w, hsplit, hw, rfl⟩ := hdir
    have hfirst : strrchr 47 (u ++ 47 :: w) = some 0 := by
      rw [← hsplit, hpath]
      exact strrchr_append_cons [] hv
    rw [strrchr_append_cons u hw] at hfirst
    exact if_pos (List.eq_nil_of_length_eq_zero (Option.some.inj hfirst))
  | argv0 hnothing ha hdir => exact absurd (hnothing.symm.trans hpath) nofun
  | cwd hslash hargv hc => exact absurd hmem hslash
  | dot hslash hargv => exact absurd hmem hslash

/-- `resolve_dir` leaves a string that ends inside the buffer and names the directory of the
executable, whatever the current directory is. -/
def ResolvesRight (dir : CharBuffer n) (exefile : Option (List UInt8)) (argv0 : Option CString) :
    Prop :=
  ∀ cwd, (resolveDir dir exefile argv0 cwd).Terminated ∧
    (resolveDir dir exefile argv0 cwd).text.length < n ∧
      NamesDirectory exefile argv0 cwd (resolveDir dir exefile argv0 cwd).text

/-! ## The string in the buffer -/

/-- The string that is left of the file: its first `n - 1` bytes, without the white space at their
end. -/
def keptPath (n : ℕ) (exefile : Option (List UInt8)) : List UInt8 :=
  cString (((exefile.getD []).take (n - 1)).rdropWhile isTrailing)

/-- The string after `argv[0]` was tried. -/
def orArgv0 (n : ℕ) (s : List UInt8) (argv0 : Option CString) : List UInt8 :=
  match argv0 with
  | some a => if s = [] ∧ 47 ∈ a.chars then a.chars.take (n - 1) else s
  | none => s

/-- The string up to its last slash, and all of it without one. -/
def beforeSlash (s : List UInt8) : List UInt8 :=
  match strrchr 47 s with
  | some slash => s.take slash
  | none => s

/-- The string after the current directory was tried. -/
def orCwd (n : ℕ) (s : List UInt8) (cwd : Option CString) : List UInt8 :=
  if s = [] then
    match cwd with
    | some c => if c.chars.length < n then c.chars else [46]
    | none => [46]
  else s

/-- The loop strips the bytes in front of a NUL. -/
lemma stripTrailing_spec (data rest : List UInt8) (dir : CharBuffer n)
    (hdir : dir.bytes = data ++ 0 :: rest) :
    (stripTrailing dir data.length).text = cString (data.rdropWhile isTrailing) ∧
      (stripTrailing dir data.length).Terminated := by
  induction data using List.reverseRecOn generalizing dir rest with
  | nil =>
    refine ⟨?_, ?_⟩
    · change cString dir.bytes = []
      rw [hdir]
      rfl
    · change 0 ∈ dir.bytes
      rw [hdir]
      exact List.mem_cons_self
  | append_singleton data c ih =>
    have hlast : dir.get data.length = c := by
      change dir.bytes.getD data.length 0 = c
      rw [hdir, List.append_assoc, List.getD_append_right _ _ _ _ (Nat.le_refl _), Nat.sub_self]
      rfl
    rw [List.length_append, List.length_singleton, stripTrailing, hlast, List.rdropWhile_concat]
    split
    · refine ih (0 :: rest) (dir.put data.length 0) ?_
      change dir.bytes.set data.length 0 = _
      rw [hdir, List.append_assoc, List.set_append_right _ _ (Nat.le_refl _), Nat.sub_self]
      rfl
    · refine ⟨?_, ?_⟩
      · change cString dir.bytes = _
        rw [hdir, cString_append_zero]
      · change 0 ∈ dir.bytes
        rw [hdir]
        exact List.mem_append_right _ List.mem_cons_self

lemma readExefile_spec (hn : 0 < n) {dir : CharBuffer n} (hempty : dir.text = [])
    (hterm : dir.Terminated) (exefile : Option (List UInt8)) :
    (readExefile dir exefile).text = keptPath n exefile ∧
      (readExefile dir exefile).Terminated := by
  cases exefile with
  | none => exact ⟨hempty.trans (by simp [keptPath, cString]), hterm⟩
  | some content =>
    unfold readExefile keptPath
    dsimp only [Option.getD_some]
    have hlen : (content.take (n - 1)).length < n := by
      rw [List.length_take]
      omega
    split
    · obtain ⟨rest, hbytes⟩ := bytes_write_put dir hlen
      exact stripTrailing_spec _ rest _ hbytes
    · rename_i hzero
      rw [List.eq_nil_of_length_eq_zero (Nat.eq_zero_of_not_pos hzero)]
      exact ⟨hempty, hterm⟩

lemma useArgv0_spec (hn : 0 < n) {dir : CharBuffer n} (hterm : dir.Terminated)
    (argv0 : Option CString) :
    (useArgv0 dir argv0).text = orArgv0 n dir.text argv0 ∧ (useArgv0 dir argv0).Terminated := by
  cases argv0 with
  | none => exact ⟨rfl, hterm⟩
  | some a =>
    unfold useArgv0 orArgv0
    simp only [get_zero_eq_zero_iff]
    split
    · exact ⟨text_strncpy_put dir a (by omega), terminated_put_zero _ (by omega)⟩
    · exact ⟨rfl, hterm⟩

lemma cutAtSlash_spec {dir : CharBuffer n} (hterm : dir.Terminated) :
    (cutAtSlash dir).text = beforeSlash dir.text ∧ (cutAtSlash dir).Terminated := by
  unfold cutAtSlash beforeSlash
  simp only [ne_eq, get_zero_eq_zero_iff]
  split
  · split
    · exact ⟨text_put_zero dir _, hterm.put_zero _⟩
    · exact ⟨rfl, hterm⟩
  · rename_i hempty
    refine ⟨?_, hterm⟩
    rw [not_not.mp hempty]
    rfl

lemma useCwd_spec (hn : 2 ≤ n) {dir : CharBuffer n} (hterm : dir.Terminated)
    (cwd : Option CString) :
    (useCwd dir cwd).text = orCwd n dir.text cwd ∧ (useCwd dir cwd).Terminated := by
  have hdot := strncpy_of_lt dir dot hn
  unfold useCwd orCwd
  simp only [get_zero_eq_zero_iff]
  split
  · cases cwd with
    | none => exact hdot
    | some c =>
      by_cases hlen : c.chars.length < n
      · obtain ⟨b, hb, hstore⟩ := getcwd_of_lt dir hlen
        rw [hb]
        dsimp only
        rw [if_pos hlen]
        exact hstore
      · have hb : dir.getcwd (some c) = none := if_neg hlen
        rw [hb]
        dsimp only
        rw [if_neg hlen]
        exact hdot
  · exact ⟨rfl, hterm⟩

/-- **What `resolve_dir` leaves in the buffer.** -/
theorem resolveDir_spec (hn : 2 ≤ n) (dir : CharBuffer n) (exefile : Option (List UInt8))
    (argv0 cwd : Option CString) :
    (resolveDir dir exefile argv0 cwd).text =
        orCwd n (beforeSlash (orArgv0 n (keptPath n exefile) argv0)) cwd ∧
      (resolveDir dir exefile argv0 cwd).Terminated := by
  have hstart : (dir.put 0 0).text = [] := text_put_zero dir 0
  obtain ⟨hread, hreadTerm⟩ := readExefile_spec (by omega) hstart
    (dir.terminated_put_zero (by omega)) exefile
  obtain ⟨hargv, hargvTerm⟩ := useArgv0_spec (by omega) hreadTerm argv0
  obtain ⟨hcut, hcutTerm⟩ := cutAtSlash_spec hargvTerm
  obtain ⟨hcwd, hcwdTerm⟩ := useCwd_spec hn hcutTerm cwd
  rw [hcut, hargv, hread] at hcwd
  exact ⟨hcwd, hcwdTerm⟩

/-! ## What is kept of a path -/

lemma beforeSlash_append_cons (u : List UInt8) {v : List UInt8} (hv : 47 ∉ v) :
    beforeSlash (u ++ 47 :: v) = u := by
  rw [beforeSlash, strrchr_append_cons u hv]
  exact List.take_left

lemma beforeSlash_eq_self {s : List UInt8} (h : 47 ∉ s) : beforeSlash s = s := by
  rw [beforeSlash, strrchr_eq_none h]

lemma beforeSlash_isPrefix (s : List UInt8) : beforeSlash s <+: s := by
  unfold beforeSlash
  split
  · exact List.take_prefix _ _
  · exact List.prefix_rfl

/-- A string that is no longer than what is left of it has no slash. -/
lemma of_beforeSlash_eq {s u : List UInt8} (hlen : s.length ≤ u.length) (h : beforeSlash s = u) :
    s = u ∧ 47 ∉ u := by
  by_cases hslash : 47 ∈ s
  · obtain ⟨x, v, rfl, hv⟩ := exists_last_of_mem hslash
    rw [beforeSlash_append_cons x hv] at h
    rw [← h, List.length_append, List.length_cons] at hlen
    omega
  · rw [beforeSlash_eq_self hslash] at h
    exact ⟨h, h ▸ hslash⟩

/-- A copy of `k` bytes keeps a slash in front of them. -/
lemma take_append_slash {u v : List UInt8} {k : ℕ} (hlt : u.length < k) :
    ∃ v', v' <+: v ∧ (u ++ 47 :: v).take k = u ++ 47 :: v' := by
  obtain ⟨j, hj⟩ : ∃ j, k - u.length = j + 1 := ⟨k - u.length - 1, by omega⟩
  refine ⟨v.take j, List.take_prefix j v, ?_⟩
  rw [List.take_append, List.take_of_length_le (Nat.le_of_lt hlt), hj, List.take_succ_cons]

/-- What is kept begins the path. -/
lemma keptPath_isPrefix (n : ℕ) (exefile : Option (List UInt8)) :
    keptPath n exefile <+: exefilePath exefile := by
  rw [keptPath, rdropWhile_take]
  exact cString_isPrefix ((List.rdropWhile_prefix _ _).trans (List.take_prefix _ _))

lemma keptPath_eq_nil {exefile : Option (List UInt8)} (h : exefilePath exefile = []) :
    keptPath n exefile = [] :=
  List.prefix_nil.mp (h ▸ keptPath_isPrefix n exefile)

lemma length_keptPath_le (n : ℕ) (exefile : Option (List UInt8)) :
    (keptPath n exefile).length ≤ n - 1 := by
  refine Nat.le_trans (List.takeWhile_prefix _).length_le ?_
  exact Nat.le_trans (List.rdropWhile_prefix _ _).length_le (List.length_take_le _ _)

/-- What is kept, given by the path and whatever follows it. -/
lemma exists_keptPath_eq (n : ℕ) (exefile : Option (List UInt8)) :
    ∃ w, keptPath n exefile =
      cString (((exefilePath exefile ++ w).take (n - 1)).rdropWhile isTrailing) := by
  obtain ⟨w, hw⟩ : exefilePath exefile <+: (exefile.getD []).rdropWhile isTrailing :=
    List.takeWhile_prefix _
  refine ⟨w, ?_⟩
  rw [hw, keptPath, rdropWhile_take]

section

variable {exefile : Option (List UInt8)} {u v : List UInt8}

lemma zero_notMem_of_exefilePath_eq (hpath : exefilePath exefile = u ++ 47 :: v) : 0 ∉ u := by
  intro h
  have hzero := zero_notMem_cString ((exefile.getD []).rdropWhile isTrailing)
  change 0 ∉ exefilePath exefile at hzero
  rw [hpath] at hzero
  exact hzero (List.mem_append_left _ h)

/-- A directory shorter than `n - 1` is kept with its slash. -/
lemma keptPath_of_lt (hpath : exefilePath exefile = u ++ 47 :: v) (hv : 47 ∉ v)
    (hlt : u.length < n - 1) : ∃ v', 47 ∉ v' ∧ keptPath n exefile = u ++ 47 :: v' := by
  obtain ⟨w, hkept⟩ := exists_keptPath_eq n exefile
  obtain ⟨v', -, htake⟩ := take_append_slash (u := u) (v := v ++ w) hlt
  rw [hpath, List.append_assoc, List.cons_append, htake, rdropWhile_append_cons (by decide),
    cString_append_of_notMem (zero_notMem_of_exefilePath_eq hpath)] at hkept
  have hcons : ∀ t, cString (47 :: t) = 47 :: cString t := fun t => rfl
  rw [hcons] at hkept
  have hbegins := keptPath_isPrefix n exefile
  rw [hkept, hpath, List.prefix_append_right_inj, List.cons_prefix_cons] at hbegins
  exact ⟨_, fun h => hv (hbegins.2.subset h), hkept⟩

/-- A directory of `n - 1` characters is kept without its slash, and without white space at its
end. -/
lemma keptPath_of_eq (hpath : exefilePath exefile = u ++ 47 :: v) (hlen : u.length = n - 1) :
    keptPath n exefile = u.rdropWhile isTrailing := by
  obtain ⟨w, hkept⟩ := exists_keptPath_eq n exefile
  rw [hpath, List.append_assoc, List.take_left' hlen] at hkept
  rw [hkept]
  refine cString_eq_self fun h => zero_notMem_of_exefilePath_eq hpath ?_
  exact (List.rdropWhile_prefix _ _).subset h

end

lemma orArgv0_of_ne_nil {s : List UInt8} (hs : s ≠ []) (argv0 : Option CString) :
    orArgv0 n s argv0 = s := by
  cases argv0 with
  | none => rfl
  | some a => exact if_neg fun h => hs h.1

lemma orArgv0_of_not_holdsSlash {argv0 : Option CString} (h : ¬ HoldsSlash argv0)
    (s : List UInt8) : orArgv0 n s argv0 = s := by
  cases argv0 with
  | none => rfl
  | some a => exact if_neg fun hslash => h ⟨a, rfl, hslash.2⟩

lemma orArgv0_nil {a : CString} (h : 47 ∈ a.chars) :
    orArgv0 n [] (some a) = a.chars.take (n - 1) := if_pos ⟨rfl, h⟩

lemma length_orArgv0_le (n : ℕ) (exefile : Option (List UInt8)) (argv0 : Option CString) :
    (orArgv0 n (keptPath n exefile) argv0).length ≤ n - 1 := by
  have hkept := length_keptPath_le n exefile
  cases argv0 with
  | none => exact hkept
  | some a =>
    unfold orArgv0
    dsimp only
    split
    · exact List.length_take_le _ _
    · exact hkept

/-- What is left when the current directory is not known. -/
lemma eq_of_orCwd_none {s u : List UInt8} (h : orCwd n s none = u) : s = u ∨ s = [] ∧ u = [46] := by
  unfold orCwd at h
  split at h
  · exact Or.inr ⟨‹_›, h.symm⟩
  · exact Or.inl h

/-! ## When the directory is right -/

/-- The inputs on which the directory is right.  Of the path that is used, the last slash is not the
first character and lies among the `n - 1` characters that are kept; or the directory fills these
characters, and has no slash of its own that would be taken for the last one.  White space at the
end of such a directory is stripped with it, unless it is nothing but white space and `argv[0]`
begins with it.  Where there is no slash at all, nothing may be kept of the file, or the name of the
current directory. -/
inductive KeepsDirectory (n : ℕ) (exefile : Option (List UInt8)) (argv0 : Option CString) : Prop
  | exefile {u v : List UInt8} (hpath : exefilePath exefile = u ++ 47 :: v) (hv : 47 ∉ v)
      (hroot : u ≠ [])
      (hkept : u.length < n - 1 ∨
        u.length = n - 1 ∧ 47 ∉ u ∧ u.rdropWhile isTrailing = u) : KeepsDirectory n exefile argv0
  | blank {u v : List UInt8} {a : CString} (hpath : exefilePath exefile = u ++ 47 :: v)
      (hv : 47 ∉ v) (hlen : u.length = n - 1) (hblank : u.rdropWhile isTrailing = [])
      (ha : argv0 = some a) (hcopy : u <+: a.chars) (hslash : 47 ∈ a.chars) :
      KeepsDirectory n exefile argv0
  | argv0 {u v : List UInt8} {a : CString} (hnothing : exefilePath exefile = [])
      (ha : argv0 = some a) (hpath : a.chars = u ++ 47 :: v) (hv : 47 ∉ v) (hroot : u ≠ [])
      (hkept : u.length < n - 1 ∨ u.length = n - 1 ∧ 47 ∉ u) : KeepsDirectory n exefile argv0
  | neither (hpath : 47 ∉ exefilePath exefile) (hargv : ¬ HoldsSlash argv0)
      (hkept : keptPath n exefile = [] ∨ keptPath n exefile = [46]) :
      KeepsDirectory n exefile argv0

section

variable {exefile : Option (List UInt8)} {argv0 : Option CString}

/-- The directory is left of a copy of `k` bytes that keeps its slash, or has no other. -/
lemma beforeSlash_take {u v : List UInt8} {k : ℕ} (hv : 47 ∉ v)
    (hkept : u.length < k ∨ u.length = k ∧ 47 ∉ u) :
    beforeSlash ((u ++ 47 :: v).take k) = u := by
  rcases hkept with hlt | ⟨hlen, hslash⟩
  · obtain ⟨v', hv', htake⟩ := take_append_slash (u := u) (v := v) hlt
    rw [htake]
    exact beforeSlash_append_cons u fun hmem => hv (hv'.subset hmem)
  · rw [List.take_left' hlen]
    exact beforeSlash_eq_self hslash

/-- The directory is left of what is kept of the path, under the same condition. -/
lemma beforeSlash_keptPath {u v : List UInt8} (hpath : exefilePath exefile = u ++ 47 :: v)
    (hv : 47 ∉ v) (hroot : u ≠ [])
    (hkept : u.length < n - 1 ∨ u.length = n - 1 ∧ 47 ∉ u ∧ u.rdropWhile isTrailing = u) :
    keptPath n exefile ≠ [] ∧ beforeSlash (keptPath n exefile) = u := by
  rcases hkept with hlt | ⟨hlen, hslash, hend⟩
  · obtain ⟨v', hv', hkeeps⟩ := keptPath_of_lt hpath hv hlt
    rw [hkeeps]
    exact ⟨by simp, beforeSlash_append_cons u hv'⟩
  · rw [keptPath_of_eq hpath hlen, hend]
    exact ⟨hroot, beforeSlash_eq_self hslash⟩

/-- A directory that is left of the source is the result. -/
lemma orCwd_of_beforeSlash {s u : List UInt8} (h : beforeSlash s = u) (hu : u ≠ [])
    (cwd : Option CString) : orCwd n (beforeSlash s) cwd = u := by
  rw [h]
  exact if_neg hu

lemma namesDirectory_of_keepsDirectory (hn : 2 ≤ n) (h : KeepsDirectory n exefile argv0)
    (cwd : Option CString) :
    NamesDirectory exefile argv0 cwd
      (orCwd n (beforeSlash (orArgv0 n (keptPath n exefile) argv0)) cwd) := by
  cases h with
  | @exefile u v hpath hv hroot hkept =>
    obtain ⟨hne, hleft⟩ := beforeSlash_keptPath hpath hv hroot hkept
    rw [orArgv0_of_ne_nil hne, orCwd_of_beforeSlash hleft hroot]
    exact .exefile ⟨u, v, hpath, hv, (if_neg hroot).symm⟩
  | @blank u v a hpath hv hlen hblank ha hcopy hslash =>
    have hroot : u ≠ [] := List.ne_nil_of_length_pos (by omega)
    have hnoSlash : 47 ∉ u := fun hmem =>
      absurd (List.rdropWhile_eq_nil_iff.mp hblank 47 hmem) (by decide)
    have htake : a.chars.take (n - 1) = u := by
      rw [← hlen]
      exact (List.prefix_iff_eq_take.mp hcopy).symm
    rw [ha, keptPath_of_eq hpath hlen, hblank, orArgv0_nil hslash, htake,
      orCwd_of_beforeSlash (beforeSlash_eq_self hnoSlash) hroot]
    exact .exefile ⟨u, v, hpath, hv, (if_neg hroot).symm⟩
  | @argv0 u v a hnothing ha hpath hv hroot hkept =>
    have hslash : 47 ∈ a.chars := hpath ▸ List.mem_append_right u List.mem_cons_self
    rw [ha, keptPath_eq_nil hnothing, orArgv0_nil hslash, hpath,
      orCwd_of_beforeSlash (beforeSlash_take hv hkept) hroot]
    exact .argv0 hnothing rfl ⟨u, v, hpath, hv, (if_neg hroot).symm⟩
  | neither hpath hargv hkept =>
    rw [orArgv0_of_not_holdsSlash hargv]
    rcases hkept with hempty | hdot
    · rw [hempty]
      cases cwd with
      | none => exact .dot hpath hargv
      | some c =>
        change NamesDirectory _ _ _ (if c.chars.length < n then c.chars else [46])
        split
        · exact .cwd hpath hargv rfl
        · exact .dot hpath hargv
    · rw [hdot]
      exact .dot hpath hargv

/-- What is left of a string of at most `n - 1` characters, when the current directory is not known,
is no longer, and it is the whole string when it is as long. -/
lemma left_of_orCwd_none (hn : 2 ≤ n) {s u : List UInt8} (hs : s.length ≤ n - 1)
    (h : orCwd n (beforeSlash s) none = u) :
    u.length ≤ n - 1 ∧
      (u.length = n - 1 → s = u ∧ 47 ∉ u ∨ beforeSlash s = [] ∧ u = [46]) := by
  rcases eq_of_orCwd_none h with hleft | ⟨hnil, rfl⟩
  · refine ⟨?_, fun hlen => Or.inl (of_beforeSlash_eq (hlen.symm ▸ hs) hleft)⟩
    rw [← hleft]
    exact Nat.le_trans (beforeSlash_isPrefix s).length_le hs
  · exact ⟨by rw [List.length_singleton]; omega, fun _ => Or.inr ⟨hnil, rfl⟩⟩

/-- The root directory is lost. -/
lemma orCwd_slash_ne_root {v : List UInt8} (hv : 47 ∉ v) :
    orCwd n (beforeSlash (47 :: v)) none ≠ [47] := by
  have hleft : beforeSlash (47 :: v) = [] := beforeSlash_append_cons [] hv
  rw [hleft]
  exact nofun

/-- The directory of the executable's path as the result. -/
lemma keepsDirectory_of_exefile (hn : 2 ≤ n) {d : List UInt8}
    (hdir : DirectoryOf (exefilePath exefile) d)
    (h : orCwd n (beforeSlash (orArgv0 n (keptPath n exefile) argv0)) none = d) :
    KeepsDirectory n exefile argv0 := by
  obtain ⟨u, v, hpath, hv, rfl⟩ := hdir
  by_cases hroot : u = []
  · subst hroot
    obtain ⟨v', hv', hkeeps⟩ :=
      keptPath_of_lt hpath hv (show ([] : List UInt8).length < n - 1 from by
        rw [List.length_nil]
        omega)
    rw [hkeeps, orArgv0_of_ne_nil (by simp), if_pos rfl] at h
    exact absurd h (orCwd_slash_ne_root hv')
  · rw [if_neg hroot] at h
    obtain ⟨hle, hfull⟩ := left_of_orCwd_none hn (length_orArgv0_le n exefile argv0) h
    rcases Nat.lt_or_eq_of_le hle with hlt | hlen
    · exact .exefile hpath hv hroot (Or.inl hlt)
    · have hkept := keptPath_of_eq hpath hlen
      rcases hfull hlen with ⟨hsource, hslash⟩ | ⟨hnil, rfl⟩
      · by_cases hblank : u.rdropWhile isTrailing = []
        · -- the file gives nothing, and `argv[0]` stands in
          rw [hkept, hblank] at hsource
          obtain ⟨a, rfl, hmem⟩ : HoldsSlash argv0 := by
            by_contra hargv
            exact hroot ((orArgv0_of_not_holdsSlash hargv []).symm.trans hsource).symm
          rw [orArgv0_nil hmem] at hsource
          exact .blank hpath hv hlen hblank rfl (hsource ▸ List.take_prefix _ _) hmem
        · rw [hkept, orArgv0_of_ne_nil hblank] at hsource
          exact .exefile hpath hv hroot (Or.inr ⟨hlen, hslash, hsource⟩)
      · have hdot : keptPath n exefile = [46] := hkept
        rw [hdot, orArgv0_of_ne_nil (by simp)] at hnil
        exact absurd hnil (by decide)

/-- The directory of `argv[0]` as the result. -/
lemma keepsDirectory_of_argv0 (hn : 2 ≤ n) {a : CString} {d : List UInt8}
    (hnothing : exefilePath exefile = []) (hdir : DirectoryOf a.chars d)
    (h : orCwd n (beforeSlash (orArgv0 n (keptPath n exefile) (some a))) none = d) :
    KeepsDirectory n exefile (some a) := by
  obtain ⟨u, v, hpath, hv, rfl⟩ := hdir
  have hmem : 47 ∈ a.chars := hpath ▸ List.mem_append_right u List.mem_cons_self
  rw [keptPath_eq_nil hnothing, orArgv0_nil hmem, hpath] at h
  by_cases hroot : u = []
  · subst hroot
    obtain ⟨v', hv', htake⟩ := take_append_slash (u := []) (v := v) (k := n - 1)
      (by rw [List.length_nil]; omega)
    rw [htake, if_pos rfl] at h
    exact absurd h (orCwd_slash_ne_root fun hslash => hv (hv'.subset hslash))
  · rw [if_neg hroot] at h
    obtain ⟨hle, hfull⟩ := left_of_orCwd_none hn (List.length_take_le _ _) h
    rcases Nat.lt_or_eq_of_le hle with hlt | hlen
    · exact .argv0 hnothing rfl hpath hv hroot (Or.inl hlt)
    · rw [List.take_left' hlen] at hfull
      rcases hfull hlen with ⟨-, hslash⟩ | ⟨hnil, rfl⟩
      · exact .argv0 hnothing rfl hpath hv hroot (Or.inr ⟨hlen, hslash⟩)
      · exact absurd hnil (by decide)

/-- The current directory as the result. -/
lemma keepsDirectory_of_dot (hpath : 47 ∉ exefilePath exefile) (hargv : ¬ HoldsSlash argv0)
    (h : orCwd n (beforeSlash (orArgv0 n (keptPath n exefile) argv0)) none = [46]) :
    KeepsDirectory n exefile argv0 := by
  have hnoSlash : 47 ∉ keptPath n exefile := fun hmem =>
    hpath ((keptPath_isPrefix n exefile).subset hmem)
  rw [orArgv0_of_not_holdsSlash hargv, beforeSlash_eq_self hnoSlash] at h
  refine .neither hpath hargv ?_
  rcases eq_of_orCwd_none h with hdot | ⟨hempty, -⟩
  · exact Or.inr hdot
  · exact Or.inl hempty

end

/-- **The directory of the executable.**  For a buffer of at least two bytes, whatever it held
before, `resolve_dir` leaves a terminated string that names the directory of the executable if and
only if the directory is kept. -/
theorem resolvesRight_iff (hn : 2 ≤ n) (dir : CharBuffer n) (exefile : Option (List UInt8))
    (argv0 : Option CString) :
    ResolvesRight dir exefile argv0 ↔ KeepsDirectory n exefile argv0 := by
  constructor
  · intro h
    obtain ⟨-, -, hnames⟩ := h none
    obtain ⟨d, hd⟩ : ∃ d, (resolveDir dir exefile argv0 none).text = d := ⟨_, rfl⟩
    have hresult := (resolveDir_spec hn dir exefile argv0 none).1.symm.trans hd
    rw [hd] at hnames
    cases hnames with
    | exefile hdir => exact keepsDirectory_of_exefile hn hdir hresult
    | argv0 hnothing ha hdir =>
      subst ha
      exact keepsDirectory_of_argv0 hn hnothing hdir hresult
    | cwd hpath hargv hc => exact absurd hc nofun
    | dot hpath hargv => exact keepsDirectory_of_dot hpath hargv hresult
  · intro h cwd
    obtain ⟨htext, hterm⟩ := resolveDir_spec hn dir exefile argv0 cwd
    refine ⟨hterm, hterm.length_text_lt, ?_⟩
    rw [htext]
    exact namesDirectory_of_keepsDirectory hn h cwd

/-- Of `/apps/berry/native/launcher` the directory is kept. -/
theorem resolvesRight_native :
    ResolvesRight (⟨List.replicate 2048 0, List.length_replicate⟩ : CharBuffer 2048)
      (some (asciiBytes "/apps/berry/native/launcher\n")) none :=
  (resolvesRight_iff (by decide) _ _ _).mpr
    (.exefile (u := asciiBytes "/apps/berry/native") (v := asciiBytes "launcher") (by decide)
      (by decide) (by decide) (Or.inl (by decide)))

/-- Of `/launcher` the root directory is lost: the buffer holds the current directory. -/
theorem rootDirectory_not_resolvesRight :
    ¬ ResolvesRight (⟨List.replicate 2048 0, List.length_replicate⟩ : CharBuffer 2048)
      (some (asciiBytes "/launcher\n")) (some ⟨asciiBytes "/launcher", by decide⟩) := by
  intro h
  obtain ⟨-, -, hnames⟩ := h (some ⟨asciiBytes "/accounts/devuser", by decide⟩)
  have hroot := hnames.eq_root (v := asciiBytes "launcher") (by decide) (by decide)
  rw [(resolveDir_spec (by decide) _ _ _ _).1] at hroot
  exact absurd hroot (by decide)

end Launcher

end ChromiumQnx
