import ChromiumQnx.Content.ShellMain

/-!
# The processes of a launched browser

The launcher executes `content_shell.bin` in its own process, a wrapper that executes the shell, and
the shell, as the browser, starts its child processes: with the environment of
`LaunchProcessOnLauncherThread`, in the same current directory, and with the executable of
`GetChildPath`.  The wrapper and `GetChildPath` are parameters; `PassesOn` and `TakesSwitch` say what
is relied on.

The main results follow what the launcher was given through all of these programs.  One says which
part of its command line decides what the shell takes itself for, one that a child finds the
variables of its browser, and one that all processes look for their data files in the directory of
the launcher.
-/

namespace ChromiumQnx

open CharBuffer Launcher Snprintf
open ShellMain (keyExePath hasArg isTypeSwitch setEnvironment IsDirectoryKey LeavesAlone)
open StringSearch (CString)

/-! ## The programs one after another -/

/-- What a launcher is started with: the system, its two arrays, its command line, its environment,
its descriptors, the log if it can be opened, and the files the shell finds; how `content_shell.bin`
executes the shell, and `GetChildPath`, which looks at the command line of the browser. -/
structure Launch (F : Type*) where
  sys : Launcher.System
  dir : CharBuffer 2048
  work : CharBuffer 2048
  argv : List CString
  environ : List CString
  fds : DescriptorTable F
  log : Option F
  present : CString → Bool
  wrapper : Exec F → Exec F
  getChildPath : List CString → CString

/-- What is relied on of the wrapper: it passes its arguments, its environment, its current directory
and its descriptors on. -/
structure PassesOn {F : Type*} (wrapper : Exec F → Exec F) : Prop where
  argvBuf_eq : ∀ e, (wrapper e).argvBuf = e.argvBuf
  environ_eq : ∀ e, (wrapper e).environ = e.environ
  cwd_eq : ∀ e, (wrapper e).cwd = e.cwd
  fds_eq : ∀ e, (wrapper e).fds = e.fds

/-- The command line in an array that ends with a null pointer. -/
def commandLine (argvBuf : List (Option CString)) : List CString :=
  (argvBuf.takeWhile Option.isSome).filterMap id

/-- The name of the switch that names the executable of the children. -/
def switchName : List UInt8 := asciiBytes "browser-subprocess-path"

/-- This switch, up to its value. -/
def pathSwitch : List UInt8 := asciiBytes "--" ++ switchName ++ asciiBytes "="

/-- What is relied on of `GetChildPath`: it takes the value of the switch if this stands on the
command line once, not behind an argument `--`, and with a value that does not end with white
space. -/
def TakesSwitch (getChildPath : List CString → CString) : Prop :=
  ∀ argv argv0 front value back,
    argv.map CString.chars = argv0 :: (front ++ (pathSwitch ++ value) :: back) →
      (∀ x ∈ front ++ back, ¬ switchName <:+: x) → asciiBytes "--" ∉ front →
        (∃ c ∈ value.getLast?, 32 < c) → (getChildPath argv).chars = value

namespace Launch

variable {F : Type*} (l : Launch F)

/-- The directory of the launcher. -/
def appDir : CString := Launcher.appDir l.sys l.dir l.argv

/-- The wrapper as the launcher starts it. -/
def launched : Exec F := Launcher.main l.sys l.dir l.work l.argv l.environ l.fds l.log

/-- The shell as the wrapper starts it. -/
def shell : Exec F := l.wrapper l.launched

/-- The arguments of the browser. -/
def browserArgv : List CString := commandLine l.shell.argvBuf

/-- The shell when it becomes the browser. -/
def browser : ShellMain.Started F :=
  ShellMain.main l.shell.cwd l.present l.browserArgv l.shell.environ l.shell.fds l.log

/-- The executable that the browser starts its child processes with. -/
def childExe : CString := l.getChildPath l.browserArgv

/-- A child process with an executable and some arguments, started by the browser. -/
def child (exe : CString) (args : List CString) (delegate : EnvironmentMap)
    (fds : DescriptorTable F) (log : Option F) : ShellMain.Started F :=
  ShellMain.main l.shell.cwd l.present (exe :: args)
    (childEnviron l.browser.environ delegate) fds log

/-- The page the browser opens. -/
def url : List UInt8 := expectedUrl l.appDir.chars l.argv

/-- The browser runs in more than one process. -/
def multiProcess : Bool := useMultiProcess l.sys l.environ

/-! ## The command line of the browser -/

/-- The strings in front of the null pointer. -/
lemma map_commandLine {argvBuf : List (Option CString)} {args : List (List UInt8)}
    (h : argvBuf.map (Option.map CString.chars) = args.map some ++ [none]) :
    (commandLine argvBuf).map CString.chars = args := by
  induction args generalizing argvBuf with
  | nil =>
    obtain ⟨a, rfl, ha⟩ := List.map_eq_singleton_iff.mp h
    rw [Option.map_eq_none_iff.mp ha]
    rfl
  | cons arg args ih =>
    obtain ⟨a, rest, rfl, ha, hrest⟩ := List.map_eq_cons_iff.mp h
    obtain ⟨s, rfl, rfl⟩ := Option.map_eq_some_iff.mp ha
    change s.chars :: (commandLine rest).map CString.chars = _
    rw [ih hrest]

lemma length_appDir_lt : l.appDir.chars.length < 2048 :=
  Launcher.length_appDir_lt l.sys l.dir l.argv

lemma browserArgv_eq (hpass : PassesOn l.wrapper) :
    l.browserArgv = commandLine (argvBuf l.appDir (startUrl l.appDir l.argv) l.multiProcess) :=
  congrArg commandLine (hpass.argvBuf_eq l.launched)

/-- **The command line of the browser.** -/
lemma map_browserArgv (hpass : PassesOn l.wrapper) :
    l.browserArgv.map CString.chars = expectedArgv l.appDir.chars l.url l.multiProcess := by
  have hargv := argvBuf_eq l.length_appDir_lt (startUrl l.appDir l.argv) l.multiProcess
  rw [chars_startUrl l.length_appDir_lt] at hargv
  rw [l.browserArgv_eq hpass]
  exact map_commandLine hargv

/-- It begins with the path that the launcher executes. -/
lemma exists_browserArgv (hpass : PassesOn l.wrapper) :
    ∃ args, l.browserArgv = shellPath l.appDir :: args := by
  rw [l.browserArgv_eq hpass]
  exact ⟨_, rfl⟩

/-- The flags in front of those for one of the modes. -/
def frontFlags : List (List UInt8) := [asciiBytes "--no-sandbox", asciiBytes "--no-zygote"]

/-- The flags behind those for one of the modes. -/
def backFlags : List (List UInt8) :=
  [asciiBytes "--use-gl=egl", asciiBytes "--ozone-platform=qnx_screen",
    asciiBytes "--ignore-gpu-blocklist", asciiBytes "--enable-gpu-rasterization",
    asciiBytes "--force-device-scale-factor=2",
    asciiBytes "--disable-features=ServiceWorker,NetworkServiceDedicatedThread,MojoIpcz"]

/-- The flags that do not depend on anything. -/
def ownFlags : List (List UInt8) :=
  frontFlags ++ ([asciiBytes "--in-process-gpu", asciiBytes "--single-process"] ++ backFlags)

/-- Behind the name of the shell stand flags of the launcher, and then the page. -/
lemma tail_expectedArgv (dir url : List UInt8) (multiProcess : Bool) :
    ∃ flags, (expectedArgv dir url multiProcess).tail = flags ++ [url] ∧
      ∀ x ∈ flags, x ∈ ownFlags ∨ pathSwitch <+: x := by
  have hfront : ∀ x ∈ frontFlags, x ∈ ownFlags := fun x hx => List.mem_append_left _ hx
  have hback : ∀ x ∈ backFlags, x ∈ ownFlags := fun x hx =>
    List.mem_append_right _ (List.mem_append_right _ hx)
  rcases multiProcess with _ | _
  · refine ⟨frontFlags ++ asciiBytes "--single-process" :: backFlags, rfl, fun x hx => Or.inl ?_⟩
    rcases List.mem_append.mp hx with hx | hx
    · exact hfront x hx
    · rcases List.mem_cons.mp hx with rfl | hx
      · simp [ownFlags]
      · exact hback x hx
  · refine ⟨frontFlags ++ (pathSwitch ++ (dir ++ asciiBytes "/content_shell.exe")) ::
      asciiBytes "--in-process-gpu" :: backFlags, rfl, fun x hx => ?_⟩
    rcases List.mem_append.mp hx with hx | hx
    · exact Or.inl (hfront x hx)
    · rcases List.mem_cons.mp hx with rfl | hx
      · exact Or.inr (List.prefix_append _ _)
      · rcases List.mem_cons.mp hx with rfl | hx
        · exact Or.inl (by simp [ownFlags])
        · exact Or.inl (hback x hx)

/-- A test that no flag of the launcher passes finds the page or nothing. -/
lemma find?_tail_expectedArgv {p : List UInt8 → Bool} (hown : ∀ x ∈ ownFlags, p x = false)
    (hpath : ∀ x, pathSwitch <+: x → p x = false) (dir url : List UInt8) (multiProcess : Bool) :
    (expectedArgv dir url multiProcess).tail.find? p = if p url then some url else none := by
  obtain ⟨flags, hflags, hnot⟩ := tail_expectedArgv dir url multiProcess
  have hnone : flags.find? p = none := by
    refine List.find?_eq_none.mpr fun x hx => ?_
    rw [(hnot x hx).elim (hown x) (hpath x)]
    exact Bool.false_ne_true
  rw [hflags, List.find?_append, hnone, Option.none_or, List.find?_singleton]

/-- What a test of the arguments of the browser finds. -/
lemma find?_tail_browserArgv (hpass : PassesOn l.wrapper) {p : List UInt8 → Bool} (hown : ∀ x ∈ ownFlags, p x = false)
    (hpath : ∀ x, pathSwitch <+: x → p x = false) :
    (l.browserArgv.tail.find? fun arg => p arg.chars).map CString.chars =
      if p l.url then some l.url else none := by
  rw [← find?_tail_expectedArgv hown hpath l.appDir.chars l.url l.multiProcess,
    ← l.map_browserArgv hpass, ← List.map_tail, List.find?_map]
  rfl

/-- A test that no flag of the launcher passes is about the page. -/
lemma any_tail_browserArgv (hpass : PassesOn l.wrapper) {p : List UInt8 → Bool} (hown : ∀ x ∈ ownFlags, p x = false)
    (hpath : ∀ x, pathSwitch <+: x → p x = false) :
    (l.browserArgv.tail.any fun arg => p arg.chars) = p l.url := by
  have hfind := congrArg Option.isSome (l.find?_tail_browserArgv hpass hown hpath)
  rw [Option.isSome_map, List.isSome_find?] at hfind
  rw [hfind]
  cases p l.url <;> rfl

/-- A text that is no flag of the launcher is an argument of the browser only as its page. -/
lemma hasArg_browserArgv (hpass : PassesOn l.wrapper) {text : String} (hown : asciiBytes text ∉ ownFlags)
    (hpath : ¬ pathSwitch <+: asciiBytes text) :
    hasArg l.browserArgv text = decide (l.url = asciiBytes text) :=
  l.any_tail_browserArgv hpass (p := fun x => decide (x = asciiBytes text))
    (fun _ hx => decide_eq_false fun h => hown (h ▸ hx))
    (fun _ hx => decide_eq_false fun h => hpath (h ▸ hx))

/-! ## What the shell takes itself for -/

/-- The file beside the launcher that asks for the daemon, if its path is short enough. -/
def asksForDaemon : Bool :=
  decide (l.appDir.chars.length + 21 < 1024) &&
    l.present (cStr (l.appDir.chars ++ asciiBytes "/berry-daemon.mode"))

/-- The page is the switch of a child process. -/
def pageIsType : Bool := asciiBytes "--type=" <+: l.url

/-- What the browser takes itself for, given by what the launcher was given. -/
structure BrowserRole : Prop where
  trace_eq : l.browser.trace =
    (decide (l.url = asciiBytes "--qnx-trace") || ShellMain.isOne l.environ ShellMain.keyTrace)
  daemon_eq : l.browser.daemon =
    (decide (l.url = asciiBytes "--berry-daemon") ||
      ShellMain.isOne l.environ ShellMain.keyBerryDaemon || l.asksForDaemon)
  procType_eq : l.browser.procType =
    if l.pageIsType ∧ l.url.drop 7 ≠ [] then some (l.url.drop 7) else none
  bootWatchdog_eq : l.browser.bootWatchdog =
    if l.url = asciiBytes "--dump-dom" ∧ 0 < ShellMain.bootMs l.environ ∧ ¬ l.browser.daemon then
      some (ShellMain.bootMs l.environ)
    else none

lemma getenv_shell (hpass : PassesOn l.wrapper) (k : EnvKey) :
    getenv l.shell.environ k = expectedLauncherEnv l.sys l.appDir l.environ k := by
  rw [shell, hpass.environ_eq]
  exact getenv_setVariables l.sys l.length_appDir_lt l.environ k

/-- A variable that the launcher does not set. -/
lemma getenv_shell_of_notMem (hpass : PassesOn l.wrapper) {k : EnvKey}
    (hk : k ∉ [keyKbdDebug, keyGpuProbe, keyLibraryPath, keyCaBundle, keyScreenRotation]) :
    getenv l.shell.environ k = getenv l.environ k := by
  simp only [List.mem_cons, List.not_mem_nil, or_false, not_or] at hk
  obtain ⟨h1, h2, h3, h4, h5⟩ := hk
  rw [l.getenv_shell hpass, expectedLauncherEnv, if_neg h1, if_neg h2, if_neg h3, if_neg fun h => h4 h.1,
    if_neg fun h => h5 h.1]

/-- The file that the browser looks for. -/
lemma any_markerPath_browser (hpass : PassesOn l.wrapper) :
    ((l.browserArgv.head?.bind ShellMain.markerPath).any l.present) = l.asksForDaemon := by
  have hpath : (shellPath l.appDir).chars =
      l.appDir.chars ++ 47 :: asciiBytes "content_shell.bin" := chars_shellPath l.length_appDir_lt
  have hslash : strrchr 47 (shellPath l.appDir).chars = some l.appDir.chars.length := by
    rw [hpath]
    exact strrchr_append_cons _ (by decide)
  have hdir : (shellPath l.appDir).chars.take (l.appDir.chars.length + 1) =
      l.appDir.chars ++ [47] := by
    rw [hpath, List.append_cons]
    exact List.take_left' (by rw [List.length_append, List.length_singleton])
  have hhead : l.browserArgv.head? = some (shellPath l.appDir) := by
    obtain ⟨args, hargs⟩ := l.exists_browserArgv hpass
    rw [hargs, List.head?_cons]
  rw [hhead, Option.bind_some]
  unfold ShellMain.markerPath asksForDaemon
  rw [hslash]
  dsimp only
  rw [hdir, List.append_assoc]
  by_cases hshort : l.appDir.chars.length + 21 < 1024
  · rw [if_pos (by omega), decide_eq_true hshort, Bool.true_and]
    rfl
  · rw [if_neg (by omega), decide_eq_false hshort, Bool.false_and]
    rfl

/-- The switch of a child process is none of the flags of the launcher. -/
lemma not_type_of_mem_ownFlags {x : List UInt8} (hx : x ∈ ownFlags) :
    ¬ asciiBytes "--type=" <+: x := by
  have hall : (ownFlags.all fun x => ! decide (asciiBytes "--type=" <+: x)) = true := rfl
  simpa using List.all_eq_true.mp hall x hx

lemma not_type_of_pathSwitch {x : List UInt8} (hx : pathSwitch <+: x) :
    ¬ asciiBytes "--type=" <+: x := by
  intro h
  have hle := List.prefix_of_prefix_length_le h hx (by decide)
  revert hle
  decide

lemma any_isTypeSwitch_browser (hpass : PassesOn l.wrapper) :
    l.browserArgv.tail.any isTypeSwitch = l.pageIsType := by
  exact l.any_tail_browserArgv hpass (fun x hx => decide_eq_false (not_type_of_mem_ownFlags hx))
    fun x hx => decide_eq_false (not_type_of_pathSwitch hx)

/-- **What the browser takes itself for.**  If the wrapper passes on what it is given, only the page
counts of the command line of the launcher. -/
theorem browserRole (hpass : PassesOn l.wrapper) : l.BrowserRole := by
  have hone : ∀ k ∉ [keyKbdDebug, keyGpuProbe, keyLibraryPath, keyCaBundle, keyScreenRotation],
      ShellMain.isOne l.shell.environ k = ShellMain.isOne l.environ k := fun k hk => by
    rw [ShellMain.isOne, l.getenv_shell_of_notMem hpass hk]
    rfl
  have hboot : ShellMain.bootMs (ShellMain.setExePath l.browserArgv l.shell.environ) =
      ShellMain.bootMs l.environ := by
    have hget : getenv (ShellMain.setExePath l.browserArgv l.shell.environ)
        ShellMain.keyBootWatchdog = getenv l.environ ShellMain.keyBootWatchdog := by
      obtain ⟨args, hargs⟩ := l.exists_browserArgv hpass
      rw [hargs]
      change getenv (setenv keyExePath (shellPath l.appDir) true l.shell.environ) _ = _
      have hne : ShellMain.keyBootWatchdog ≠ keyExePath := by decide
      rw [getenv_setenv, if_neg fun h => hne h.1, l.getenv_shell_of_notMem hpass (by decide)]
    rw [ShellMain.bootMs, hget]
    rfl
  refine ⟨?_, ?_, ?_, ?_⟩
  · change (hasArg l.browserArgv "--qnx-trace" || ShellMain.isOne l.shell.environ _) = _
    rw [hone _ (by decide), l.hasArg_browserArgv hpass (by decide) (by decide)]
  · change ((hasArg l.browserArgv "--berry-daemon" || ShellMain.isOne l.shell.environ _) || _) = _
    rw [hone _ (by decide), l.hasArg_browserArgv hpass (by decide) (by decide),
      l.any_markerPath_browser hpass]
  · have hfind := l.find?_tail_browserArgv hpass
      (p := fun x => decide (asciiBytes "--type=" <+: x ∧ x.drop 7 ≠ []))
      (fun x hx => decide_eq_false fun h => not_type_of_mem_ownFlags hx h.1)
      (fun x hx => decide_eq_false fun h => not_type_of_pathSwitch hx h.1)
    have hdrop : l.browser.procType =
        ((l.browserArgv.tail.find? fun arg =>
          decide (asciiBytes "--type=" <+: arg.chars ∧ arg.chars.drop 7 ≠ [])).map
            CString.chars).map (List.drop 7) := by
      rw [Option.map_map]
      change ShellMain.procType l.browserArgv = _
      unfold ShellMain.procType isTypeSwitch
      simp only [decide_eq_true_eq]
      rfl
    rw [hdrop, hfind, apply_ite (Option.map (List.drop 7))]
    unfold pageIsType
    simp only [decide_eq_true_eq]
    rfl
  · change ShellMain.bootWatchdog l.browserArgv _ l.browser.daemon = _
    unfold ShellMain.bootWatchdog
    dsimp only
    rw [hboot, l.hasArg_browserArgv hpass (by decide) (by decide), l.any_isTypeSwitch_browser hpass]
    refine if_congr ?_ rfl rfl
    rw [decide_eq_true_iff]
    -- a page that asks for the dump is no switch of a child
    refine and_iff_right_of_imp fun h htype => ?_
    rw [pageIsType, h.1] at htype
    revert htype
    decide

/-- The value of the last switch on a command line, or the program itself. -/
def switchValue (argv : List CString) : CString :=
  match argv.tail.reverse.find? fun arg => pathSwitch <+: arg.chars with
  | some arg => cStr (arg.chars.drop pathSwitch.length)
  | none => argv.headD (literal "")

/-- A page is opened on a phone where the file for several processes is there. -/
def sampleLaunch : Launch ℕ where
  sys := { sandboxed with present := fun _ => true }
  dir := uninitialised
  work := uninitialised
  argv := [literal "berry", literal "http://a.example/"]
  environ := []
  fds := DescriptorTable.empty
  log := none
  present := fun _ => false
  wrapper := id
  getChildPath := switchValue

lemma sampleLaunch_passesOn : PassesOn sampleLaunch.wrapper :=
  ⟨fun _ => rfl, fun _ => rfl, fun _ => rfl, fun _ => rfl⟩

/-- What its browser takes itself for. -/
theorem browserRole_sample : sampleLaunch.BrowserRole :=
  sampleLaunch.browserRole sampleLaunch_passesOn

/-! ## What the processes find in their environments -/

/-- What holds of the browser and of a child process that it starts with the given overrides. -/
structure ChildFinds (delegate : EnvironmentMap) (child : ShellMain.Started F) : Prop where
  /-- The child finds what its browser finds. -/
  agree : ∀ k ≠ keyExePath, IsDirectoryKey k ∨ LeavesAlone delegate l.browser.environ k →
    getenv child.environ k = getenv l.browser.environ k
  /-- That is what the launcher arranged for, where the shell does not set the variable itself. -/
  arranged : ∀ k ∉ ShellMain.shellKeys,
    getenv l.browser.environ k = expectedLauncherEnv l.sys l.appDir l.environ k
  /-- All make their temporary files in one directory. -/
  tmpDir_eq : child.tmpDir = l.browser.tmpDir ∧
    getenv child.environ ShellMain.keyTmpDir = some l.browser.tmpDir.chars
  /-- Neither process probes the GPU. -/
  probesGpu_eq : l.browser.probesGpu = false ∧
    (LeavesAlone delegate l.browser.environ keyGpuProbe → child.probesGpu = false)

lemma browser_environ :
    l.browser.environ = setEnvironment l.shell.cwd l.browserArgv l.shell.environ := by
  simp only [browser, ShellMain.main]

lemma child_environ (exe : CString) (args : List CString) (delegate : EnvironmentMap)
    (fds : DescriptorTable F) (log : Option F) :
    (l.child exe args delegate fds log).environ =
      setEnvironment l.shell.cwd (exe :: args)
        (childEnviron l.browser.environ delegate) := by
  simp only [child, ShellMain.main]

lemma browser_tmpDir : l.browser.tmpDir = ShellMain.tmpDir l.shell.cwd := by
  simp only [browser, ShellMain.main]

lemma child_tmpDir (exe : CString) (args : List CString) (delegate : EnvironmentMap)
    (fds : DescriptorTable F) (log : Option F) :
    (l.child exe args delegate fds log).tmpDir = ShellMain.tmpDir l.shell.cwd := by
  simp only [child, ShellMain.main]

/-- The GPU is probed when the environment says so, once the variables are set. -/
lemma main_probesGpu (cwd : Option CString) (present : CString → Bool)
    (argv environ : List CString) (fds : DescriptorTable F) (log : Option F) :
    (ShellMain.main cwd present argv environ fds log).probesGpu =
      ShellMain.probesGpu (ShellMain.main cwd present argv environ fds log).environ := by
  simp only [ShellMain.main]

/-- The launcher turns the probe off. -/
lemma getenv_keyGpuProbe (hpass : PassesOn l.wrapper) :
    getenv l.browser.environ keyGpuProbe = some (asciiBytes "0") := by
  have hne : keyGpuProbe ≠ keyKbdDebug := by decide
  rw [browser_environ, ShellMain.getenv_setEnvironment_of_notMem (by decide),
    l.getenv_shell hpass, expectedLauncherEnv, if_neg hne, if_pos rfl]

/-- **The environments of a browser and its children.**  For every start of the launcher whose
wrapper passes on what it is given, and for every child with any executable, arguments, overrides
and descriptors. -/
theorem childFinds (hpass : PassesOn l.wrapper) (exe : CString) (args : List CString)
    (delegate : EnvironmentMap) (fds : DescriptorTable F) (log : Option F) :
    l.ChildFinds delegate (l.child exe args delegate fds log) := by
  have hagree : ∀ k ≠ keyExePath, IsDirectoryKey k ∨ LeavesAlone delegate l.browser.environ k →
      getenv (l.child exe args delegate fds log).environ k = getenv l.browser.environ k :=
    fun k hk hkept => by
      rw [browser_environ] at hkept ⊢
      rw [child_environ, browser_environ]
      exact ShellMain.getenv_child _ _ _ _ delegate hk hkept
  have hoff : ∀ environ, getenv environ keyGpuProbe = some (asciiBytes "0") →
      ShellMain.probesGpu environ = false := fun environ h => by
    rw [ShellMain.probesGpu, h]
    rfl
  refine ⟨hagree, fun k hk => ?_, ⟨?_, ?_⟩, ?_, fun halone => ?_⟩
  · rw [browser_environ, ShellMain.getenv_setEnvironment_of_notMem hk, l.getenv_shell hpass]
  · rw [child_tmpDir, browser_tmpDir]
  · rw [child_environ, ShellMain.getenv_keyTmpDir, browser_tmpDir]
  · rw [browser, main_probesGpu]
    exact hoff _ (l.getenv_keyGpuProbe hpass)
  · rw [child, main_probesGpu]
    exact hoff _ ((hagree keyGpuProbe (by decide) (Or.inr halone)).trans
      (l.getenv_keyGpuProbe hpass))

/-- A child of the sample without overrides. -/
theorem childFinds_sample : sampleLaunch.ChildFinds ⟨[], List.Pairwise.nil⟩
    (sampleLaunch.child sampleLaunch.childExe [literal "--type=renderer"]
      ⟨[], List.Pairwise.nil⟩ DescriptorTable.empty none) :=
  sampleLaunch.childFinds sampleLaunch_passesOn _ _ _ _ _

/-! ## The data files -/

end Launch

/-- `GetV8FilePath`. -/
def getV8FilePath (environ : List CString) (fileName : List UInt8) : List UInt8 :=
  let dir := match (getenv environ keyExePath).filter (· ≠ []) with
    | some exe =>
      match strrchr 47 exe with
      | some slash => exe.take (slash + 1)
      | none => asciiBytes "./"
    | none => asciiBytes "./"
  dir ++ fileName

/-- The path of `InitializeICUFromDataFile`. -/
def icuPath (environ : List CString) (icuDataFileName : List UInt8) : List UInt8 :=
  match (getenv environ keyExePath).filter (· ≠ []) with
  | some exe =>
    (match strrchr 47 exe with
      | some slash => exe.take (slash + 1)
      | none => asciiBytes "./") ++ icuDataFileName
  | none => asciiBytes "./" ++ icuDataFileName

/-- `pak_file` of `InitializeResourceBundle`. -/
def pakFile (environ : List CString) : List UInt8 :=
  let pakDir := match (getenv environ keyExePath).filter (· ≠ []) with
    | some exe =>
      match strrchr 47 exe with
      | some slash => exe.take (slash + 1)
      | none => asciiBytes "./"
    | none => asciiBytes "./"
  pakDir ++ asciiBytes "content_shell.pak"

/-- The pak file is looked for where the V8 snapshot is. -/
lemma pakFile_eq (environ : List CString) :
    pakFile environ = getV8FilePath environ (asciiBytes "content_shell.pak") := rfl

/-- Both loaders look in the same directory. -/
lemma icuPath_eq (environ : List CString) (fileName : List UInt8) :
    icuPath environ fileName = getV8FilePath environ fileName := by
  unfold icuPath getV8FilePath
  rcases (getenv environ keyExePath).filter (· ≠ []) with _ | exe <;> rfl

/-- A process that names itself looks in its own directory. -/
lemma getV8FilePath_of_argv0 (cwd : Option CString) {argv0 : CString} {dir name : List UInt8}
    (hargv0 : argv0.chars = dir ++ 47 :: name) (hname : 47 ∉ name) (args environ : List CString)
    (fileName : List UInt8) :
    getV8FilePath (setEnvironment cwd (argv0 :: args) environ) fileName =
      dir ++ 47 :: fileName := by
  have hne : argv0.chars ≠ [] := by simp [hargv0]
  have hdir : argv0.chars.take (dir.length + 1) = dir ++ [47] := by
    rw [hargv0, List.append_cons]
    exact List.take_left' (by rw [List.length_append, List.length_singleton])
  unfold getV8FilePath
  rw [ShellMain.getenv_keyExePath, Option.filter_some, if_pos (decide_eq_true hne)]
  dsimp only
  rw [hargv0, strrchr_append_cons dir hname]
  dsimp only
  rw [← hargv0, hdir, List.append_assoc]
  rfl

namespace Launch

variable {F : Type*} (l : Launch F)

/-- Both loaders look for a file in the directory of the launcher, and there is the pak file. -/
def LooksInAppDir (environ : List CString) (fileName : List UInt8) : Prop :=
  getV8FilePath environ fileName = l.appDir.chars ++ 47 :: fileName ∧
    icuPath environ fileName = l.appDir.chars ++ 47 :: fileName ∧
    pakFile environ = l.appDir.chars ++ 47 :: asciiBytes "content_shell.pak"

/-- With several processes, the executable of the children is the one the launcher named, unless the
page names one too. -/
lemma chars_childExe (hpass : PassesOn l.wrapper) (hpath : TakesSwitch l.getChildPath)
    (hmulti : l.multiProcess = true) (hurl : ¬ switchName <:+: l.url) :
    l.childExe.chars = l.appDir.chars ++ 47 :: asciiBytes "content_shell.exe" := by
  have hown : ∀ x ∈ ownFlags, ¬ switchName <:+: x := by decide +kernel
  have hargv := l.map_browserArgv hpass
  rw [hmulti] at hargv
  have hlast : (l.appDir.chars ++ 47 :: asciiBytes "content_shell.exe").getLast? = some 101 := by
    rw [List.getLast?_append]
    rfl
  refine hpath l.browserArgv _ frontFlags _ (asciiBytes "--in-process-gpu" :: backFlags ++ [l.url])
    hargv (fun x hx => ?_) (by decide) ⟨101, hlast, by decide⟩
  rcases List.mem_append.mp hx with hx | hx
  · exact hown x (List.mem_append_left _ hx)
  · rcases List.mem_append.mp hx with hx | hx
    · refine hown x (List.mem_append_right _ ?_)
      rcases List.mem_cons.mp hx with rfl | hx
      · exact List.mem_cons_self
      · exact List.mem_append_right _ hx
    · rwa [List.mem_singleton.mp hx]

/-- **The data files of a browser and its children.**  For every start of the launcher whose wrapper
passes on what it is given, and every name of a file, both loaders look in the directory of the
launcher, and the resource bundle has its pak file there: in the browser, and, if it runs in several
processes and the page does not name an executable, in every child. -/
theorem dataFiles (hpass : PassesOn l.wrapper) (fileName : List UInt8) :
    l.LooksInAppDir l.browser.environ fileName ∧
      (TakesSwitch l.getChildPath → l.multiProcess = true → ¬ switchName <:+: l.url →
        ∀ args delegate fds log,
          l.LooksInAppDir (l.child l.childExe args delegate fds log).environ fileName) := by
  have hshell : (shellPath l.appDir).chars =
      l.appDir.chars ++ 47 :: asciiBytes "content_shell.bin" := chars_shellPath l.length_appDir_lt
  have hbrowser : ∀ name, getV8FilePath l.browser.environ name = l.appDir.chars ++ 47 :: name := by
    intro name
    obtain ⟨rest, hrest⟩ := l.exists_browserArgv hpass
    rw [browser_environ, hrest]
    exact getV8FilePath_of_argv0 _ hshell (by decide) _ _ _
  unfold LooksInAppDir
  simp only [icuPath_eq, pakFile_eq]
  refine ⟨⟨hbrowser _, hbrowser _, hbrowser _⟩, fun hpath hmulti hurl args delegate fds log => ?_⟩
  have hchild := l.chars_childExe hpass hpath hmulti hurl
  have hstarted : ∀ name, getV8FilePath (l.child l.childExe args delegate fds log).environ name =
      l.appDir.chars ++ 47 :: name := by
    intro name
    rw [child_environ]
    exact getV8FilePath_of_argv0 _ hchild (by decide) _ _ _
  exact ⟨hstarted _, hstarted _, hstarted _⟩

lemma takesSwitch_switchValue : TakesSwitch switchValue := by
  rintro argv argv0 front value back hargv hnot - -
  have hname : ∀ x : List UInt8, ¬ switchName <:+: x → decide (pathSwitch <+: x) = false :=
    fun x hx => decide_eq_false fun h =>
      hx (List.IsInfix.trans ⟨asciiBytes "--", asciiBytes "=", rfl⟩ h.isInfix)
  have hfind : (argv.tail.reverse.find? fun arg => pathSwitch <+: arg.chars).map CString.chars =
      some (pathSwitch ++ value) := by
    have hmap : (argv.tail.reverse.map CString.chars).find? (fun x => pathSwitch <+: x) =
        some (pathSwitch ++ value) := by
      have hback : back.reverse.find? (fun x => decide (pathSwitch <+: x)) = none := by
        refine List.find?_eq_none.mpr fun x hx => ?_
        rw [hname x (hnot x (List.mem_append_right _ (List.mem_reverse.mp hx)))]
        exact Bool.false_ne_true
      rw [List.map_reverse, List.map_tail, hargv, List.tail_cons, List.reverse_append,
        List.reverse_cons, List.append_assoc, List.find?_append, List.find?_append, hback,
        List.find?_singleton, if_pos (decide_eq_true (List.prefix_append _ _))]
      rfl
    rw [← hmap, List.find?_map]
    rfl
  obtain ⟨arg, harg, hchars⟩ := Option.map_eq_some_iff.mp hfind
  rw [switchValue, harg]
  change cString (arg.chars.drop pathSwitch.length) = value
  have hnul : 0 ∉ value := fun h => arg.nul_free (hchars ▸ List.mem_append_right _ h)
  rw [hchars, List.drop_left, cString_eq_self hnul]

/-- A child of the sample looks in the directory of the launcher. -/
theorem dataFiles_sample : sampleLaunch.LooksInAppDir
    (sampleLaunch.child sampleLaunch.childExe [literal "--type=renderer"]
      ⟨[], List.Pairwise.nil⟩ DescriptorTable.empty none).environ (asciiBytes "icudtl.dat") := by
  have hmulti : sampleLaunch.multiProcess = true := rfl
  have hurl : ¬ switchName <:+: sampleLaunch.url := by decide
  exact (sampleLaunch.dataFiles sampleLaunch_passesOn _).2 takesSwitch_switchValue hmulti hurl _ _
    _ _

end Launch

end ChromiumQnx
