import ChromiumQnx.Content.ProcessEnvironment
import ChromiumQnx.Deploy.Launcher
import ChromiumQnx.Foundation.DescriptorTable

/-!
# The launcher

`main` of the launcher resolves its directory, moves to a directory that can be written to, sends
its output to a log, sets the variables the shell needs and calls `execv` on the shell.  All paths
it hands over are formatted into arrays of fixed sizes.

The directory has at most 2047 characters, so that none of these arrays is too small; only the
library path, which has the inherited one behind it, may be cut off.  The first main result says
exactly what the shell is started with, the second one which working directory it gets.
-/

namespace ChromiumQnx

namespace Launcher

open CharBuffer Snprintf
open StringSearch (CString)

/-! ## The system -/

/-- What the system answers: the content of `/proc/self/exefile`, the current directory, what
`access` allows, and the current directory after a `chdir` that succeeds. -/
structure System where
  exefile : Option (List UInt8)
  cwd : Option CString
  writable : CString → Bool
  readable : CString → Bool
  present : CString → Bool
  enter : CString → Option (Option CString)

/-- A string of the program. -/
def literal (text : String) : CString := cStr (asciiBytes text)

/-- The string that `snprintf` leaves in an array. -/
def formatted (size : ℕ) (pieces : List Piece) : CString := cStr (snprintf size pieces).2

/-- The variables of the launcher. -/
def keyHome : EnvKey := envKey "HOME" (by decide)

def keyMultiProcess : EnvKey := envKey "QNX_MULTI_PROCESS" (by decide)

def keyKbdDebug : EnvKey := envKey "QNX_KBD_DEBUG" (by decide)

def keyGpuProbe : EnvKey := envKey "QNX_GPU_PROBE" (by decide)

def keyLibraryPath : EnvKey := envKey "LD_LIBRARY_PATH" (by decide)

def keyCaBundle : EnvKey := envKey "QNX_CA_BUNDLE" (by decide)

/-! ## The working directory -/

/-- `strncpy(work, s, sizeof(work) - 1); work[sizeof(work) - 1] = '\0';`. -/
def copyPath (work : CharBuffer 2048) (s : CString) : CharBuffer 2048 :=
  (work.strncpy s (2048 - 1)).put (2048 - 1) 0

/-- The data directory beside `/app/native`, if the path has that part. -/
def useDataDir (work : CharBuffer 2048) : CharBuffer 2048 :=
  match strstr (asciiBytes "/app/native") work.text with
  | some p =>
    let work := work.put p 0
    work.strncat (literal "/data") (2048 - work.text.length - 1)
  | none => work

/-- `home && home[0] && access(home, W_OK) == 0`. -/
def UsesHome (sys : System) (home : CString) : Prop := home.chars ≠ [] ∧ sys.writable home

instance (sys : System) (home : CString) : Decidable (UsesHome sys home) :=
  inferInstanceAs (Decidable (_ ∧ _))

/-- The block that fills `work`. -/
def chooseWork (sys : System) (home : Option CString) (dir : CString) (work : CharBuffer 2048) :
    CharBuffer 2048 :=
  match home.filter fun home => UsesHome sys home with
  | some home => copyPath (work.put 0 0) home
  | none =>
    let work := useDataDir (copyPath (work.put 0 0) dir)
    if sys.writable work.string then work else copyPath work dir

/-- `if (work[0]) chdir(work);`. -/
def enterWork (sys : System) (work : CharBuffer 2048) : Option CString :=
  if work.get 0 ≠ 0 then (sys.enter work.string).getD sys.cwd else sys.cwd

/-! ## The descriptors -/

/-- `dup2` of an open descriptor. -/
def dup2 {F : Type*} (fds : DescriptorTable F) (fd newFd : ℕ) : DescriptorTable F :=
  match fds.get? fd with
  | some file => fds.set newFd (some file)
  | none => fds

/-- The log is opened and put on stdout and stderr.  There is no `log` when it cannot be opened. -/
def redirectOutput {F : Type*} (fds : DescriptorTable F) (log : Option F) : DescriptorTable F :=
  match log with
  | some log =>
    let lfd := fds.lowestFree
    let fds := dup2 (dup2 (fds.openLowest log) lfd 1) lfd 2
    if 2 < lfd then fds.set lfd none else fds
  | none => fds

/-! ## The environment and the arguments -/

/-- `use_multi_process`. -/
def useMultiProcess (sys : System) (environ : List CString) : Bool :=
  ((getenv environ keyMultiProcess).bind List.head? = some 49) ||
    sys.present (literal "/accounts/1000/shared/misc/berry-mp.enable")

/-- `ld`, with the inherited library path behind the directory if there is one. -/
def libraryPathText (dir : CString) (old : Option (List UInt8)) : CString :=
  let old := old.filter (· ≠ [])
  formatted 4096 [.str dir.chars, .str (if old.isSome then asciiBytes ":" else []),
    .str (old.getD [])]

/-- The variables that the launcher sets. -/
def setVariables (sys : System) (dir : CString) (environ : List CString) : List CString :=
  let environ := setenv keyKbdDebug (literal "1") true environ
  let environ := setenv keyGpuProbe (literal "0") true environ
  let ld := libraryPathText dir (getenv environ keyLibraryPath)
  let environ := setenv keyLibraryPath ld true environ
  let ca := formatted 2200 [.str dir.chars, .literal "/root_store.certs"]
  let environ := if sys.readable ca then setenv keyCaBundle ca true environ else environ
  setenv keyScreenRotation (literal "90") false environ

/-- `shell`. -/
def shellPath (dir : CString) : CString :=
  formatted 2100 [.str dir.chars, .literal "/content_shell.bin"]

/-- `url`. -/
def startUrl (dir : CString) (argv : List CString) : CString :=
  let home := formatted 2300 [.literal "file://", .str dir.chars, .literal "/home.html"]
  match argv[1]? with
  | some url => if url.chars ≠ [] then url else home
  | none => home

/-- `subprocess_path`. -/
def subprocessPath (dir : CString) : CString :=
  formatted 2300
    [.literal "--browser-subprocess-path=", .str dir.chars, .literal "/content_shell.exe"]

/-- What is stored into `argv_buf`, in order. -/
def argvBuf (dir url : CString) (multiProcess : Bool) : List (Option CString) :=
  [some (shellPath dir), some (literal "--no-sandbox"), some (literal "--no-zygote")] ++
    (if ¬ multiProcess then [some (literal "--single-process")] else []) ++
    (if multiProcess then [some (subprocessPath dir), some (literal "--in-process-gpu")] else []) ++
    [some (literal "--use-gl=egl"), some (literal "--ozone-platform=qnx_screen"),
      some (literal "--ignore-gpu-blocklist"), some (literal "--enable-gpu-rasterization"),
      some (literal "--force-device-scale-factor=2"),
      some (literal "--disable-features=ServiceWorker,NetworkServiceDedicatedThread,MojoIpcz"),
      some url, none]

/-- A program that is started with `execv`, in the process of the launcher. -/
structure Exec (F : Type*) where
  path : CString
  argvBuf : List (Option CString)
  environ : List CString
  cwd : Option CString
  fds : DescriptorTable F

/-- The array `dir`, filled by `resolve_dir`. -/
def dirBuf (sys : System) (dir : CharBuffer 2048) (argv : List CString) : CharBuffer 2048 :=
  resolveDir dir sys.exefile argv.head? sys.cwd

/-- `main`, up to the call of `execv`.  The arrays `dir` and `work` are not initialised. -/
def main {F : Type*} (sys : System) (dir work : CharBuffer 2048) (argv environ : List CString)
    (fds : DescriptorTable F) (log : Option F) : Exec F :=
  let dir := (dirBuf sys dir argv).string
  let home := envString environ keyHome
  { path := shellPath dir
    argvBuf := argvBuf dir (startUrl dir argv) (useMultiProcess sys environ)
    environ := setVariables sys dir environ
    cwd := enterWork sys (chooseWork sys home dir work)
    fds := redirectOutput fds log }

/-! ## Formatted strings -/

/-- An array holds what fits of the formatted text. -/
lemma chars_formatted {size : ℕ} {pieces : List Piece} (hnul : ∀ p ∈ pieces, 0 ∉ p.text) :
    (formatted size pieces).chars = (format pieces).take (size - 1) := by
  refine cString_eq_self fun h => ?_
  obtain ⟨text, htext, hzero⟩ := List.mem_flatten.mp (List.mem_of_mem_take h)
  obtain ⟨p, hp, rfl⟩ := List.mem_map.mp htext
  exact hnul p hp hzero

lemma chars_formatted_of_lt {size : ℕ} {pieces : List Piece} (hnul : ∀ p ∈ pieces, 0 ∉ p.text)
    (hlen : (format pieces).length < size) : (formatted size pieces).chars = format pieces := by
  rw [chars_formatted hnul]
  exact List.take_of_length_le (by omega)

lemma format_append (before after : List Piece) :
    format (before ++ after) = format before ++ format after := by
  unfold format
  rw [List.map_append, List.flatten_append]

/-- A path in the directory that fits is not cut off. -/
lemma chars_formatted_path {size : ℕ} (before : List Piece) {after : String} {dir : CString}
    (hbefore : ∀ p ∈ before, 0 ∉ p.text) (hafter : 0 ∉ asciiBytes after)
    (hlen : (format before).length + dir.chars.length + after.length < size) :
    (formatted size (before ++ [.str dir.chars, .literal after])).chars =
      format before ++ (dir.chars ++ asciiBytes after) := by
  have hpath : format [.str dir.chars, .literal after] = dir.chars ++ asciiBytes after := by
    simp [format, Piece.text, cString_eq_self dir.nul_free]
  have hnul : ∀ p ∈ before ++ [Piece.str dir.chars, .literal after], 0 ∉ p.text := by
    intro p hp
    simp only [List.mem_append, List.mem_cons, List.not_mem_nil, or_false] at hp
    rcases hp with hp | rfl | rfl
    · exact hbefore p hp
    · exact zero_notMem_cString dir.chars
    · exact hafter
  rw [chars_formatted_of_lt hnul, format_append, hpath]
  rw [format_append, hpath, List.length_append, List.length_append]
  have hafterLen : (asciiBytes after).length = after.length := length_text_literal after
  omega

lemma chars_literal {text : String} (h : 0 ∉ asciiBytes text) :
    (literal text).chars = asciiBytes text := cString_eq_self h

/-! ## What the shell is started with -/

/-- The library path for the shell: the directory, and the inherited path behind it. -/
def libraryPath (dir : List UInt8) (old : Option (List UInt8)) : List UInt8 :=
  match old.filter (· ≠ []) with
  | some old => dir ++ asciiBytes ":" ++ old
  | none => dir

/-- The arguments of the shell. -/
def expectedArgv (dir url : List UInt8) (multiProcess : Bool) : List (List UInt8) :=
  [dir ++ asciiBytes "/content_shell.bin", asciiBytes "--no-sandbox", asciiBytes "--no-zygote"] ++
    (if multiProcess then
      [asciiBytes "--browser-subprocess-path=" ++ (dir ++ asciiBytes "/content_shell.exe"),
        asciiBytes "--in-process-gpu"]
    else [asciiBytes "--single-process"]) ++
    [asciiBytes "--use-gl=egl", asciiBytes "--ozone-platform=qnx_screen",
      asciiBytes "--ignore-gpu-blocklist", asciiBytes "--enable-gpu-rasterization",
      asciiBytes "--force-device-scale-factor=2",
      asciiBytes "--disable-features=ServiceWorker,NetworkServiceDedicatedThread,MojoIpcz", url]

/-- The page the shell opens: the first argument of the launcher, or the start page. -/
def expectedUrl (dir : List UInt8) (argv : List CString) : List UInt8 :=
  match (argv[1]?.map CString.chars).filter (· ≠ []) with
  | some url => url
  | none => asciiBytes "file://" ++ (dir ++ asciiBytes "/home.html")

/-- What the shell finds under a key. -/
def expectedLauncherEnv (sys : System) (dir : CString) (environ : List CString) (k : EnvKey) :
    Option (List UInt8) :=
  if k = keyKbdDebug then some (asciiBytes "1")
  else if k = keyGpuProbe then some (asciiBytes "0")
  else if k = keyLibraryPath then
    some ((libraryPath dir.chars (getenv environ keyLibraryPath)).take 4095)
  else if k = keyCaBundle ∧ sys.readable (cStr (dir.chars ++ asciiBytes "/root_store.certs")) then
    some (dir.chars ++ asciiBytes "/root_store.certs")
  else if k = keyScreenRotation ∧ getenv environ k = none then some (asciiBytes "90")
  else getenv environ k

/-- The directory that `main` works with. -/
def appDir (sys : System) (dir : CharBuffer 2048) (argv : List CString) : CString :=
  (dirBuf sys dir argv).string

/-- The directory fits into its array. -/
lemma length_appDir_lt (sys : System) (dir : CharBuffer 2048) (argv : List CString) :
    (appDir sys dir argv).chars.length < 2048 :=
  (resolveDir_spec (by decide) dir sys.exefile argv.head? sys.cwd).2.length_text_lt

section

variable {dir : CString} (hdir : dir.chars.length < 2048)
include hdir

lemma chars_shellPath :
    (shellPath dir).chars = dir.chars ++ asciiBytes "/content_shell.bin" := by
  have hlen : "/content_shell.bin".length = 18 := rfl
  exact chars_formatted_path [] (List.forall_mem_nil _) (by decide)
    (by rw [length_format_nil, hlen]; omega)

lemma chars_subprocessPath :
    (subprocessPath dir).chars =
      asciiBytes "--browser-subprocess-path=" ++
        (dir.chars ++ asciiBytes "/content_shell.exe") := by
  have hlen : "/content_shell.exe".length = 18 := rfl
  have hswitch : (format [.literal "--browser-subprocess-path="]).length = 26 := rfl
  exact chars_formatted_path [.literal "--browser-subprocess-path="]
    (List.forall_mem_singleton.mpr (by decide)) (by decide) (by rw [hlen, hswitch]; omega)

lemma chars_startUrl (argv : List CString) :
    (startUrl dir argv).chars = expectedUrl dir.chars argv := by
  have hhome : (formatted 2300 [.literal "file://", .str dir.chars, .literal "/home.html"]).chars =
      asciiBytes "file://" ++ (dir.chars ++ asciiBytes "/home.html") := by
    have hlen : "/home.html".length = 10 := rfl
    have hscheme : (format [.literal "file://"]).length = 7 := rfl
    exact chars_formatted_path [.literal "file://"]
      (List.forall_mem_singleton.mpr (by decide)) (by decide) (by rw [hlen, hscheme]; omega)
  unfold startUrl expectedUrl
  rcases argv[1]? with _ | url
  · exact hhome
  · by_cases hurl : url.chars = []
    · simp [hurl, hhome, Option.filter_some]
    · simp [hurl, Option.filter_some]

/-- **The arguments of the shell** are stored whole, for either mode. -/
lemma argvBuf_eq (url : CString) (multiProcess : Bool) :
    (argvBuf dir url multiProcess).map (Option.map CString.chars) =
      (expectedArgv dir.chars url.chars multiProcess).map some ++ [none] := by
  have hflag : ∀ text ∈ ["--no-sandbox", "--no-zygote", "--single-process", "--in-process-gpu",
      "--use-gl=egl", "--ozone-platform=qnx_screen", "--ignore-gpu-blocklist",
      "--enable-gpu-rasterization", "--force-device-scale-factor=2",
      "--disable-features=ServiceWorker,NetworkServiceDedicatedThread,MojoIpcz"],
      (literal text).chars = asciiBytes text := by
    intro text htext
    apply chars_literal
    revert text
    decide
  simp only [List.forall_mem_cons, List.not_mem_nil, false_implies, implies_true, and_true]
    at hflag
  obtain ⟨h1, h2, h3, h4, h5, h6, h7, h8, h9, h10⟩ := hflag
  cases multiProcess <;>
    simp [argvBuf, expectedArgv, chars_shellPath hdir, chars_subprocessPath hdir, h1, h2, h3, h4,
      h5, h6, h7, h8, h9, h10]

end

/-- The library path holds as much of both as fits. -/
lemma chars_libraryPathText (dir : CString) {old : Option (List UInt8)}
    (hold : ∀ v ∈ old, 0 ∉ v) :
    (libraryPathText dir old).chars = (libraryPath dir.chars old).take 4095 := by
  have hsep : cString (asciiBytes ":") = asciiBytes ":" := cString_eq_self (by decide)
  have hnil : cString [] = [] := rfl
  have hnul : ∀ p ∈ [Piece.str dir.chars,
      .str (if (old.filter (· ≠ [])).isSome then asciiBytes ":" else []),
      .str ((old.filter (· ≠ [])).getD [])], 0 ∉ p.text := by
    intro p hp
    simp only [List.mem_cons, List.not_mem_nil, or_false] at hp
    rcases hp with rfl | rfl | rfl
    · exact zero_notMem_cString _
    · exact zero_notMem_cString _
    · exact zero_notMem_cString _
  unfold libraryPathText libraryPath
  dsimp only
  rw [chars_formatted hnul]
  rcases hfound : old.filter (· ≠ []) with _ | v
  · simp [format, Piece.text, cString_eq_self dir.nul_free, hnil]
  · have hv := hold v (Option.filter_eq_some_iff.mp hfound).1
    simp [format, Piece.text, cString_eq_self dir.nul_free, cString_eq_self hv, hsep]

/-- **The variables of the shell.** -/
lemma getenv_setVariables (sys : System) {dir : CString} (hdir : dir.chars.length < 2048)
    (environ : List CString) (k : EnvKey) :
    getenv (setVariables sys dir environ) k = expectedLauncherEnv sys dir environ k := by
  have hca : (formatted 2200 [.str dir.chars, .literal "/root_store.certs"]).chars =
      dir.chars ++ asciiBytes "/root_store.certs" := by
    have hlen : "/root_store.certs".length = 17 := rfl
    exact chars_formatted_path [] (List.forall_mem_nil _) (by decide)
      (by rw [length_format_nil, hlen]; omega)
  have hcaEq : formatted 2200 [.str dir.chars, .literal "/root_store.certs"] =
      cStr (dir.chars ++ asciiBytes "/root_store.certs") := by
    rw [← hca, cStr_chars]
  have hcaChars : (cStr (dir.chars ++ asciiBytes "/root_store.certs")).chars =
      dir.chars ++ asciiBytes "/root_store.certs" := by rw [← hcaEq, hca]
  have hold : ∀ v ∈ getenv environ keyLibraryPath, 0 ∉ v := fun v hv => zero_notMem_getenv hv
  have hld := chars_libraryPathText dir hold
  have hone : (literal "1").chars = asciiBytes "1" := chars_literal (by decide)
  have hzero : (literal "0").chars = asciiBytes "0" := chars_literal (by decide)
  have hninety : (literal "90").chars = asciiBytes "90" := chars_literal (by decide)
  unfold setVariables expectedLauncherEnv
  dsimp only
  rw [hcaEq]
  have hdistinct :
      [keyKbdDebug, keyGpuProbe, keyLibraryPath, keyCaBundle, keyScreenRotation].Nodup := by
    decide
  simp only [List.nodup_cons, List.mem_cons, List.not_mem_nil, not_or, or_false, not_false_eq_true,
    List.nodup_nil, and_true] at hdistinct
  obtain ⟨⟨h12, h13, h14, h15⟩, ⟨h23, h24, h25⟩, ⟨h34, h35⟩, h45⟩ := hdistinct
  by_cases hreadable : sys.readable (cStr (dir.chars ++ asciiBytes "/root_store.certs")) = true
  · simp only [if_pos hreadable, getenv_setenv, hone, hzero, hninety, hcaChars]
    grind
  · simp only [if_neg hreadable, getenv_setenv, hone, hzero, hninety]
    grind

/-- **The descriptors of the shell.**  Stdout and stderr are the log when it could be opened.  A
closed stdin becomes the log too, and nothing else changes. -/
lemma get?_redirectOutput {F : Type*} (fds : DescriptorTable F) (log : Option F) (fd : ℕ) :
    (redirectOutput fds log).get? fd =
      if log.isSome ∧ (fd = 1 ∨ fd = 2 ∨ fd = 0 ∧ fds.get? 0 = none) then log
      else fds.get? fd := by
  rcases log with _ | log
  · rfl
  have hfree := fds.get?_lowestFree
  have hzero : fds.get? 0 = none ↔ fds.lowestFree = 0 :=
    ⟨fun h => Nat.le_zero.mp (DescriptorTable.lowestFree_le h), fun h => h ▸ hfree⟩
  -- the log is at its own number while it is copied
  have hopen : ∀ newFd, dup2 (fds.openLowest log) fds.lowestFree newFd =
      (fds.openLowest log).set newFd (some log) := fun newFd => by
    rw [dup2, DescriptorTable.openLowest, DescriptorTable.get?_set_self]
  have hcopied : ((fds.openLowest log).set 1 (some log)).get? fds.lowestFree = some log := by
    rw [DescriptorTable.get?_set, DescriptorTable.openLowest, DescriptorTable.get?_set_self,
      ite_self]
  have hboth : dup2 (dup2 (fds.openLowest log) fds.lowestFree 1) fds.lowestFree 2 =
      ((fds.openLowest log).set 1 (some log)).set 2 (some log) := by
    rw [hopen, dup2, hcopied]
  unfold redirectOutput
  dsimp only
  simp only [hboth, hzero, Option.isSome_some, true_and]
  by_cases hlow : 2 < fds.lowestFree
  · -- the log leaves its own number, which was free before
    rw [if_pos hlow]
    simp only [DescriptorTable.get?_set, DescriptorTable.openLowest]
    grind
  · rw [if_neg hlow]
    simp only [DescriptorTable.get?_set, DescriptorTable.openLowest]
    grind

/-- What the launcher starts the shell with. -/
structure StartsShell {F : Type*} (sys : System) (dir : CString) (argv environ : List CString)
    (fds : DescriptorTable F) (log : Option F) (shell : Exec F) : Prop where
  path_eq : shell.path.chars = dir.chars ++ asciiBytes "/content_shell.bin"
  argv_eq : shell.argvBuf.map (Option.map CString.chars) =
    (expectedArgv dir.chars (expectedUrl dir.chars argv) (useMultiProcess sys environ)).map some ++
      [none]
  slots : shell.argvBuf.length ≤ 19
  getenv_eq : ∀ k, getenv shell.environ k = expectedLauncherEnv sys dir environ k
  get?_eq : ∀ fd, shell.fds.get? fd =
    if log.isSome ∧ (fd = 1 ∨ fd = 2 ∨ fd = 0 ∧ fds.get? 0 = none) then log else fds.get? fd

/-- **The start of the shell.**  On every system and for every command line, environment and table
of descriptors: the path and the arguments are whole, the arguments fit into their array and end
with its only null pointer, the flags are those of one of the two modes, and the environment and the
descriptors are changed as they should be.  Only the library path may be cut off. -/
theorem main_startsShell {F : Type*} (sys : System) (dir work : CharBuffer 2048)
    (argv environ : List CString) (fds : DescriptorTable F) (log : Option F) :
    StartsShell sys (appDir sys dir argv) argv environ fds log
      (main sys dir work argv environ fds log) := by
  have hdir := length_appDir_lt sys dir argv
  refine ⟨chars_shellPath hdir, ?_, ?_, getenv_setVariables sys hdir environ,
    get?_redirectOutput fds log⟩
  · rw [← chars_startUrl hdir argv]
    exact argvBuf_eq hdir (startUrl (appDir sys dir argv) argv) (useMultiProcess sys environ)
  · change (argvBuf _ _ (useMultiProcess sys environ)).length ≤ 19
    cases useMultiProcess sys environ <;> simp [argvBuf]

/-! ## Where the shell works -/

/-- The data directory of the sandbox that holds a directory, if it is in one. -/
def sandboxData (dir : CString) : CString :=
  match strstr (asciiBytes "/app/native") dir.chars with
  | some p => cStr (dir.chars.take p ++ asciiBytes "/data")
  | none => dir

lemma string_eq {n : ℕ} {b : CharBuffer n} {s : CString} (h : b.text = s.chars) :
    b.string = s := by
  obtain ⟨chars, hnul⟩ := s
  unfold CharBuffer.string
  simp only [h]

lemma copyPath_spec (work : CharBuffer 2048) (s : CString) :
    (copyPath work s).text = s.chars.take 2047 ∧ (copyPath work s).Terminated :=
  ⟨text_strncpy_put work s (by decide), terminated_put_zero _ (by decide)⟩

/-- The data directory is no longer than the directory, and fits where this one fits. -/
lemma useDataDir_spec {work : CharBuffer 2048} {dir : CString} (hwork : work.text = dir.chars)
    (hterm : work.Terminated) :
    (useDataDir work).text = (sandboxData dir).chars ∧ (useDataDir work).Terminated := by
  unfold useDataDir sandboxData
  rw [hwork]
  rcases hfound : strstr (asciiBytes "/app/native") dir.chars with _ | p
  · exact ⟨hwork, hterm⟩
  · have hdata : (literal "/data").chars = asciiBytes "/data" := chars_literal (by decide)
    have hdataLen : (literal "/data").chars.length = 5 := by rw [hdata]; rfl
    have hcut : (work.put p 0).text = dir.chars.take p := by rw [text_put_zero, hwork]
    -- the text that is cut off is longer than what is put in its place
    have hroom : (dir.chars.take p).length + 11 ≤ dir.chars.length := by
      obtain ⟨v, hv⟩ := exists_of_strstr hfound
      have hlen := congrArg List.length hv
      rw [List.length_append, List.length_append] at hlen
      have hnative : (asciiBytes "/app/native").length = 11 := rfl
      omega
    have hdir := hterm.length_text_lt
    rw [hwork] at hdir
    have hstore := text_strncat (work.put p 0) (literal "/data")
      (k := 2048 - (work.put p 0).text.length - 1) (by rw [hcut]; omega) (by rw [hcut]; omega)
    rw [hcut, hdata] at hstore
    dsimp only
    rw [hcut]
    refine ⟨hstore.1.trans ?_, hstore.2⟩
    refine (cString_eq_self fun h => ?_).symm
    rcases List.mem_append.mp h with h | h
    · exact dir.nul_free (List.mem_of_mem_take h)
    · exact absurd h (by decide)

/-- The directory that is chosen: `HOME` if it can be used, else the data directory if it can be
written to, else the directory of the launcher. -/
def workDir (sys : System) (home : Option CString) (dir : CString) : CString :=
  match home.filter fun home => UsesHome sys home with
  | some home => home
  | none => if sys.writable (sandboxData dir) then sandboxData dir else dir

/-- The array holds the chosen directory, if a `HOME` that can be used fits into it. -/
lemma chooseWork_spec (sys : System) {home : Option CString} {dir : CString}
    (hdir : dir.chars.length < 2048) (hhome : ∀ h ∈ home, UsesHome sys h → h.chars.length < 2048)
    (work : CharBuffer 2048) :
    (chooseWork sys home dir work).text = (workDir sys home dir).chars ∧
      (chooseWork sys home dir work).Terminated := by
  have hcopy : ∀ (b : CharBuffer 2048) {s : CString}, s.chars.length < 2048 →
      (copyPath b s).text = s.chars ∧ (copyPath b s).Terminated := fun b s hs =>
    ⟨(copyPath_spec b s).1.trans (List.take_of_length_le (by omega)), (copyPath_spec b s).2⟩
  unfold chooseWork workDir
  rcases hused : home.filter fun home => UsesHome sys home with _ | h
  · obtain ⟨htext, hterm⟩ := hcopy (work.put 0 0) hdir
    obtain ⟨hdata, hdataTerm⟩ := useDataDir_spec htext hterm
    dsimp only
    rw [string_eq hdata]
    split
    · exact ⟨hdata, hdataTerm⟩
    · exact hcopy _ hdir
  · obtain ⟨hmem, huses⟩ := Option.filter_eq_some_iff.mp hused
    exact hcopy _ (hhome h hmem (of_decide_eq_true huses))

/-- The chosen directory can be written to if one of the three can. -/
lemma writable_workDir_iff (sys : System) (home : Option CString) (dir : CString) :
    sys.writable (workDir sys home dir) ↔
      (∃ h ∈ home, UsesHome sys h) ∨ sys.writable (sandboxData dir) ∨ sys.writable dir := by
  unfold workDir
  rcases hused : home.filter fun home => UsesHome sys home with _ | h
  · have hnone : ¬ ∃ h ∈ home, UsesHome sys h := by
      rintro ⟨h, hmem, huses⟩
      exact Option.filter_eq_none_iff.mp hused h hmem (decide_eq_true huses)
    rw [or_iff_right hnone]
    dsimp only
    split
    · rename_i hdata
      exact iff_of_true hdata (Or.inl hdata)
    · rename_i hdata
      exact (or_iff_right hdata).symm
  · obtain ⟨hmem, huses⟩ := Option.filter_eq_some_iff.mp hused
    have huses := of_decide_eq_true huses
    exact iff_of_true huses.2 (Or.inl ⟨h, hmem, huses⟩)

/-- **The working directory of the shell.**  No writable path is too long for the array.  Then the
shell works in the first of `HOME`, the data directory of the sandbox and the directory of the
launcher that can be written to, whenever there is one and it can be entered. -/
theorem main_cwd {F : Type*} (sys : System) (hmax : ∀ p, sys.writable p → p.chars.length < 2048)
    (dir work : CharBuffer 2048) (argv environ : List CString) (fds : DescriptorTable F)
    (log : Option F) :
    ∃ w, w = workDir sys (envString environ keyHome) (appDir sys dir argv) ∧
      (main sys dir work argv environ fds log).cwd =
        (if w.chars = [] then sys.cwd else (sys.enter w).getD sys.cwd) ∧
      (sys.writable w ↔
        (∃ h ∈ envString environ keyHome, UsesHome sys h) ∨
          sys.writable (sandboxData (appDir sys dir argv)) ∨
          sys.writable (appDir sys dir argv)) := by
  refine ⟨_, rfl, ?_, writable_workDir_iff sys _ _⟩
  have hhome : ∀ h ∈ envString environ keyHome, UsesHome sys h → h.chars.length < 2048 :=
    fun h _ huses => hmax h huses.2
  obtain ⟨htext, -⟩ := chooseWork_spec sys (length_appDir_lt sys dir argv) hhome work
  change enterWork sys (chooseWork sys (envString environ keyHome) (appDir sys dir argv) work) = _
  unfold enterWork
  rw [string_eq htext]
  simp only [ne_eq, get_zero_eq_zero_iff, htext, ite_not]

/-- A phone on which the data directory of the sandbox is the only one that can be written to. -/
def sandboxed : System where
  exefile := some (asciiBytes "/apps/b/app/native/berry")
  cwd := some (literal "/accounts/devuser")
  writable := fun p => p.chars = asciiBytes "/apps/b/data"
  readable := fun _ => true
  present := fun _ => false
  enter := fun p => some (some p)

/-- An array that is not initialised. -/
def uninitialised : CharBuffer 2048 := ⟨List.replicate 2048 7, List.length_replicate⟩

/-- There the shell works in the data directory. -/
theorem main_cwd_sandboxed :
    (main sandboxed uninitialised uninitialised [] [] (DescriptorTable.empty : DescriptorTable ℕ)
      none).cwd = some (literal "/apps/b/data") := by
  have hmax : ∀ p, sandboxed.writable p → p.chars.length < 2048 := fun p hp => by
    have hp : p.chars = asciiBytes "/apps/b/data" := of_decide_eq_true hp
    rw [hp]
    decide
  have hdir : appDir sandboxed uninitialised [] = literal "/apps/b/app/native" :=
    string_eq ((resolveDir_spec (by decide) _ _ _ _).1.trans (by decide))
  obtain ⟨w, hw, hcwd, -⟩ := main_cwd sandboxed hmax uninitialised uninitialised [] []
    (DescriptorTable.empty : DescriptorTable ℕ) none
  have hdata : w = literal "/apps/b/data" := by
    rw [hw, hdir]
    rfl
  rw [hcwd, hdata]
  rfl

end Launcher

end ChromiumQnx
