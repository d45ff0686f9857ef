import ChromiumQnx.Deploy.LauncherMain

/-!
# The start of a content shell

Before it calls `ContentMain`, `main` of the shell reads its arguments and a few variables, sends
the output of a child process to the log, names its own executable in `CHROME_EXE_PATH`, arms the
boot watchdog of a one-shot run, and sets the variables for a directory it can write to.  The
browser and its child processes all run this code, a child on the environment that the browser gives
it.
-/

namespace ChromiumQnx

namespace ShellMain

open CharBuffer Launcher Snprintf
open StringSearch (CString)

/-! ## Arguments and variables -/

def keyTrace : EnvKey := envKey "QNX_TRACE" (by decide)

def keyBerryDaemon : EnvKey := envKey "QNX_BERRY_DAEMON" (by decide)

def keyExePath : EnvKey := envKey "CHROME_EXE_PATH" (by decide)

def keyBootWatchdog : EnvKey := envKey "QNX_BOOT_WATCHDOG_MS" (by decide)

def keyTmpDir : EnvKey := envKey "TMPDIR" (by decide)

def keyConfigHome : EnvKey := envKey "XDG_CONFIG_HOME" (by decide)

def keyCacheHome : EnvKey := envKey "XDG_CACHE_HOME" (by decide)

def keyDataHome : EnvKey := envKey "XDG_DATA_HOME" (by decide)

def keyRuntimeDir : EnvKey := envKey "XDG_RUNTIME_DIR" (by decide)

def keyUser : EnvKey := envKey "USER" (by decide)

def keyLogname : EnvKey := envKey "LOGNAME" (by decide)

def keyShell : EnvKey := envKey "SHELL" (by decide)

def keyLang : EnvKey := envKey "LANG" (by decide)

/-- An argument behind `argv[0]` is the given text. -/
def hasArg (argv : List CString) (text : String) : Bool :=
  argv.tail.any fun arg => arg.chars = asciiBytes text

/-- `value && value[0] == '1'`. -/
def isOne (environ : List CString) (k : EnvKey) : Bool :=
  (getenv environ k).bind List.head? = some 49

/-- `strncmp(arg, "--type=", 7) == 0`. -/
def isTypeSwitch (arg : CString) : Bool := asciiBytes "--type=" <+: arg.chars

/-- `proc_type` of a process that takes itself for a child: what follows the first `--type=` that
has something behind it. -/
def procType (argv : List CString) : Option (List UInt8) :=
  (argv.tail.find? fun arg => isTypeSwitch arg ∧ arg.chars.drop 7 ≠ []).map fun arg =>
    arg.chars.drop 7

/-- The path of the file that asks for the daemon, in the directory of `argv[0]`, if it fits into an
array of 1024 bytes. -/
def markerPath (argv0 : CString) : Option CString :=
  match strrchr 47 argv0.chars with
  | some slash =>
    let dirLen := slash + 1
    if dirLen + 20 < 1024 then
      some (cStr (argv0.chars.take dirLen ++ asciiBytes "berry-daemon.mode"))
    else none
  | none => none

/-- `QnxBerryDaemonForced`, after the arguments, the variable and the file were looked at. -/
def daemonForced (present : CString → Bool) (argv environ : List CString) : Bool :=
  hasArg argv "--berry-daemon" || isOne environ keyBerryDaemon ||
    ((argv.head?.bind markerPath).any present)

/-- `boot_ms`. -/
def bootMs (environ : List CString) : ℤ :=
  match (getenv environ keyBootWatchdog).filter (· ≠ []) with
  | some value => atoi value
  | none => 90000

/-- The deadline of the boot watchdog, if it is armed. -/
def bootWatchdog (argv environ : List CString) (daemon : Bool) : Option ℤ :=
  let isChild := argv.tail.any isTypeSwitch
  let bootMs := bootMs environ
  if ¬ isChild ∧ hasArg argv "--dump-dom" ∧ 0 < bootMs ∧ ¬ daemon then some bootMs else none

/-! ## The environment -/

/-- `writable_dir`: the current directory if its path fits into an array of 1024 bytes. -/
def writableDir (cwd : Option CString) : CString :=
  match cwd with
  | some cwd => if cwd.chars.length < 1024 then cwd else dot
  | none => dot

/-- `tmp_buf`. -/
def tmpDir (cwd : Option CString) : CString :=
  formatted 1100 [.str (writableDir cwd).chars, .literal "/tmp"]

/-- `setenv("CHROME_EXE_PATH", argv[0], 1)`, if there is an `argv[0]`. -/
def setExePath (argv environ : List CString) : List CString :=
  match argv.head? with
  | some argv0 => setenv keyExePath argv0 true environ
  | none => environ

/-- The variables for the directory that can be written to. -/
def setDirectories (cwd : Option CString) (environ : List CString) : List CString :=
  let environ := setenv keyHome (writableDir cwd) false environ
  let environ := setenv keyTmpDir (tmpDir cwd) true environ
  let environ := setenv keyConfigHome (writableDir cwd) true environ
  let environ := setenv keyCacheHome (writableDir cwd) true environ
  let environ := setenv keyDataHome (writableDir cwd) true environ
  setenv keyRuntimeDir (tmpDir cwd) true environ

/-- The variables that get a value when they have none. -/
def setDefaults (environ : List CString) : List CString :=
  let environ := setIfUnset keyUser (literal "user") environ
  let environ := setIfUnset keyLogname (literal "user") environ
  let environ := setIfUnset keyShell (literal "/bin/sh") environ
  setIfUnset keyLang (literal "C") environ

/-- The environment of the process when it calls `ContentMain`. -/
def setEnvironment (cwd : Option CString) (argv environ : List CString) : List CString :=
  setDefaults (setDirectories cwd (setExePath argv environ))

/-- `gpu_probe && gpu_probe[0] != '0'`. -/
def probesGpu (environ : List CString) : Bool :=
  match getenv environ keyGpuProbe with
  | some value => value.head? ≠ some 48
  | none => false

/-! ## `main` -/

/-- What `main` has done when it calls `ContentMain`: `g_qnx_trace_enabled`, whether the daemon is
forced, the type of a child process, the descriptors, the deadline of the boot watchdog, the
directory that was made for temporary files, the environment, and whether the GPU is probed. -/
structure Started (F : Type*) where
  trace : Bool
  daemon : Bool
  procType : Option (List UInt8)
  fds : DescriptorTable F
  bootWatchdog : Option ℤ
  tmpDir : CString
  environ : List CString
  probesGpu : Bool

/-- `main`.  The current directory and `access(path, F_OK)` are those of the system, and there is no
`log` when it cannot be opened. -/
def main {F : Type*} (cwd : Option CString) (present : CString → Bool) (argv environ : List CString)
    (fds : DescriptorTable F) (log : Option F) : Started F :=
  let daemon := daemonForced present argv environ
  let started := setEnvironment cwd argv environ
  { trace := hasArg argv "--qnx-trace" || isOne environ keyTrace
    daemon := daemon
    procType := procType argv
    fds := if (procType argv).isSome then redirectOutput fds log else fds
    bootWatchdog := bootWatchdog argv (setExePath argv environ) daemon
    tmpDir := tmpDir cwd
    environ := started
    probesGpu := probesGpu started }

/-! ## What is found in the environment -/

/-- The calls of `setenv`, in order. -/
def assignments (cwd : Option CString) (argv : List CString) : List Assignment :=
  (argv.head?.map fun argv0 => ⟨keyExePath, argv0, true⟩).toList ++
    [⟨keyHome, writableDir cwd, false⟩, ⟨keyTmpDir, tmpDir cwd, true⟩,
      ⟨keyConfigHome, writableDir cwd, true⟩, ⟨keyCacheHome, writableDir cwd, true⟩,
      ⟨keyDataHome, writableDir cwd, true⟩, ⟨keyRuntimeDir, tmpDir cwd, true⟩,
      ⟨keyUser, literal "user", false⟩, ⟨keyLogname, literal "user", false⟩,
      ⟨keyShell, literal "/bin/sh", false⟩, ⟨keyLang, literal "C", false⟩]

lemma setEnvironment_eq (cwd : Option CString) (argv environ : List CString) :
    setEnvironment cwd argv environ = setAll (assignments cwd argv) environ := by
  unfold setEnvironment setDefaults setDirectories setExePath assignments
  simp only [setIfUnset_eq]
  rcases argv.head? with _ | argv0 <;> rfl

/-- The variables that `main` may set. -/
def shellKeys : List EnvKey :=
  [keyExePath, keyHome, keyTmpDir, keyConfigHome, keyCacheHome, keyDataHome, keyRuntimeDir,
    keyUser, keyLogname, keyShell, keyLang]

lemma key_mem_shellKeys {cwd : Option CString} {argv : List CString} {a : Assignment}
    (ha : a ∈ assignments cwd argv) : a.key ∈ shellKeys := by
  rcases List.mem_append.mp ha with hexe | hrest
  · obtain ⟨argv0, -, rfl⟩ := Option.map_eq_some_iff.mp (Option.mem_toList.mp hexe)
    exact List.mem_cons_self
  · exact List.mem_cons_of_mem keyExePath (List.mem_map_of_mem (f := Assignment.key) hrest)

lemma nodup_assignments (cwd : Option CString) (argv : List CString) :
    ((assignments cwd argv).map Assignment.key).Nodup := by
  unfold assignments
  rcases argv.head? with _ | argv0
  · change [keyHome, keyTmpDir, keyConfigHome, keyCacheHome, keyDataHome, keyRuntimeDir, keyUser,
      keyLogname, keyShell, keyLang].Nodup
    decide
  · change [keyExePath, keyHome, keyTmpDir, keyConfigHome, keyCacheHome, keyDataHome,
      keyRuntimeDir, keyUser, keyLogname, keyShell, keyLang].Nodup
    decide

/-- **The environment for `ContentMain`.** -/
lemma getenv_setEnvironment (cwd : Option CString) (argv environ : List CString) (k : EnvKey) :
    getenv (setEnvironment cwd argv environ) k =
      match (assignments cwd argv).find? fun a => a.key = k with
      | some a => if a.overwrite ∨ getenv environ k = none then some a.value.chars
        else getenv environ k
      | none => getenv environ k := by
  rw [setEnvironment_eq]
  exact getenv_setAll (nodup_assignments cwd argv) environ k

/-- Other variables are left alone. -/
lemma getenv_setEnvironment_of_notMem {k : EnvKey} (hk : k ∉ shellKeys) (cwd : Option CString)
    (argv environ : List CString) :
    getenv (setEnvironment cwd argv environ) k = getenv environ k := by
  rw [setEnvironment_eq]
  refine getenv_setAll_of_notMem (fun hmem => hk ?_) environ
  obtain ⟨a, ha, rfl⟩ := List.mem_map.mp hmem
  exact key_mem_shellKeys ha

/-- The directory for temporary files. -/
lemma getenv_keyTmpDir (cwd : Option CString) (argv environ : List CString) :
    getenv (setEnvironment cwd argv environ) keyTmpDir = some (tmpDir cwd).chars := by
  have hmem : (⟨keyTmpDir, tmpDir cwd, true⟩ : Assignment) ∈ assignments cwd argv :=
    List.mem_append_right _ (List.mem_cons_of_mem _ List.mem_cons_self)
  rw [setEnvironment_eq]
  exact (getenv_setAll_of_mem (nodup_assignments cwd argv) hmem environ).trans
    (if_pos (Or.inl rfl))

/-- The program names itself. -/
lemma getenv_keyExePath (cwd : Option CString) (argv0 : CString) (args environ : List CString) :
    getenv (setEnvironment cwd (argv0 :: args) environ) keyExePath = some argv0.chars := by
  rw [getenv_setEnvironment]
  rfl

/-- But for the name of the program, the same calls are made in every process with the same current
directory. -/
lemma find?_assignments (cwd : Option CString) (argv : List CString) {k : EnvKey}
    (hk : k ≠ keyExePath) :
    ((assignments cwd argv).find? fun a => a.key = k) =
      (assignments cwd []).find? fun a => a.key = k := by
  unfold assignments
  rcases argv.head? with _ | argv0
  · rfl
  · exact List.find?_cons_of_neg (by simpa using Ne.symm hk)

/-- The variables that are set whatever the environment says. -/
def IsDirectoryKey (k : EnvKey) : Prop :=
  k ∈ [keyTmpDir, keyConfigHome, keyCacheHome, keyDataHome, keyRuntimeDir]

instance (k : EnvKey) : Decidable (IsDirectoryKey k) := inferInstanceAs (Decidable (k ∈ _))

lemma IsDirectoryKey.ne_keyExePath {k : EnvKey} (h : IsDirectoryKey k) : k ≠ keyExePath := by
  rintro rfl
  revert h
  decide

lemma IsDirectoryKey.find?_assignments {k : EnvKey} (h : IsDirectoryKey k)
    (cwd : Option CString) (argv : List CString) :
    ∃ a, ((assignments cwd argv).find? fun a => a.key = k) = some a ∧ a.overwrite = true := by
  rw [ShellMain.find?_assignments cwd argv h.ne_keyExePath]
  unfold IsDirectoryKey at h
  simp only [List.mem_cons, List.not_mem_nil, or_false] at h
  rcases h with rfl | rfl | rfl | rfl | rfl <;> exact ⟨_, rfl, rfl⟩

/-- A second process finds what the first one found, if it starts with that or if the variable is
set in any case. -/
lemma getenv_setEnvironment_congr {cwd : Option CString}
    {argv argv' environ environ' : List CString} {k : EnvKey} (hk : k ≠ keyExePath)
    (h : IsDirectoryKey k ∨ getenv environ' k = getenv (setEnvironment cwd argv environ) k) :
    getenv (setEnvironment cwd argv' environ') k = getenv (setEnvironment cwd argv environ) k := by
  rw [getenv_setEnvironment, find?_assignments cwd argv' hk]
  rw [getenv_setEnvironment, find?_assignments cwd argv hk] at h ⊢
  rcases hfind : (assignments cwd []).find? (fun a => a.key = k) with _ | a
  · rw [hfind] at h ⊢
    rcases h with hdir | hsame
    · obtain ⟨a, ha, -⟩ := hdir.find?_assignments cwd []
      exact absurd (ha.symm.trans hfind) (Option.some_ne_none a)
    · exact hsame
  · rw [hfind] at h ⊢
    dsimp only at h ⊢
    by_cases hset : a.overwrite = true
    · rw [if_pos (Or.inl hset), if_pos (Or.inl hset)]
    · -- a value that is kept was there when the first process had set its variables
      rcases h with hdir | hsame
      · obtain ⟨b, hb, hbset⟩ := hdir.find?_assignments cwd []
        rw [hfind] at hb
        exact absurd (Option.some.inj hb ▸ hbset) hset
      · have hfound : getenv environ' k ≠ none := by
          rw [hsame]
          split
          · exact Option.some_ne_none _
          · rename_i hnot
            exact fun h => hnot (Or.inr h)
        rw [← hsame, if_neg]
        exact not_or.mpr ⟨hset, hfound⟩

/-! ## A child on the environment of its browser -/

/-- What the child is started with, before it sets variables itself. -/
lemma getenv_childEnviron (environ : List CString) (delegate : EnvironmentMap) (k : EnvKey) :
    getenv (childEnviron environ delegate) k = expectedEnv Snprintf.cString environ delegate k := by
  rw [childEnviron_eq, getenv_append, getenv_inherited, getenv_overrides, expectedEnv_cString]
  rcases (beforeLaunch environ delegate).find k with _ | val
  · exact Option.or_none
  · rfl

/-- The delegate of a launch leaves a variable of the browser alone: it does not name it, or the
browser's own value is forwarded over it. -/
def LeavesAlone (delegate : EnvironmentMap) (environ : List CString) (k : EnvKey) : Prop :=
  delegate.find k = none ∨ k ∈ kForwardEnv ∧ nonEmptyEnv environ k ≠ none

lemma LeavesAlone.getenv_childEnviron {delegate : EnvironmentMap} {environ : List CString}
    {k : EnvKey} (h : LeavesAlone delegate environ k) :
    getenv (childEnviron environ delegate) k = getenv environ k := by
  rw [ShellMain.getenv_childEnviron, expectedEnv]
  rcases hforward : (if k ∈ kForwardEnv then nonEmptyEnv environ k else none) with _ | val
  · rcases h with hnot | ⟨hmem, hval⟩
    · rw [hnot]
    · rw [if_pos hmem] at hforward
      exact absurd hforward hval
  · obtain ⟨-, hval⟩ := Option.ite_none_right_eq_some.mp hforward
    exact (Option.filter_eq_some_iff.mp hval).1.symm

/-- **A child and its browser.**  In the same current directory, whatever the environment of the
browser was and whatever the launch overrides: the child finds its own name, and under every other
key what the browser finds there, if the shell sets it in any case or the launch leaves it alone. -/
theorem getenv_child (cwd : Option CString) (argv argv' environ : List CString)
    (delegate : EnvironmentMap) {k : EnvKey} (hk : k ≠ keyExePath)
    (hkept : IsDirectoryKey k ∨ LeavesAlone delegate (setEnvironment cwd argv environ) k) :
    getenv (setEnvironment cwd argv' (childEnviron (setEnvironment cwd argv environ) delegate)) k =
      getenv (setEnvironment cwd argv environ) k :=
  getenv_setEnvironment_congr hk (hkept.imp_right fun h => h.getenv_childEnviron)

end ShellMain

end ChromiumQnx
