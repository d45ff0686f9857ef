import ChromiumQnx.Foundation.OrderedMap
import ChromiumQnx.Foundation.Snprintf
import ChromiumQnx.Foundation.StringSearch
import Mathlib.Data.List.Lex
import Mathlib.Data.List.TakeWhile

/-!
# The environment of a child process

`BeforeLaunchOnLauncherThread` takes the overrides of the launcher's delegate and adds the browser's
own values of a few variables.  `LaunchProcessOnLauncherThread` builds the environment of the child
from the browser's `environ` and these overrides: entries whose key is overridden are left out, and
the overrides with a value are added.

The main result says what `getenv` gives in the child for every key, that every entry has the form
`key=value`, and that no overridden key occurs twice.  A value handed over as `c_str()` ends at its
first null byte.
-/

namespace ChromiumQnx

open Snprintf (asciiBytes cString cString_eq_self cString_append_of_notMem)
open StringSearch (CString notMem_takeWhile_ne)

/-! ## Keys and entries -/

/-- The name of a variable: it holds neither `=` nor a null byte. -/
@[ext]
structure EnvKey where
  name : List UInt8
  plain : 61 ∉ name ∧ 0 ∉ name

/-- The order of `std::string`. -/
instance : LinearOrder EnvKey :=
  LinearOrder.lift' (fun k => k.name.map UInt8.toNat) fun _ _ h =>
    EnvKey.ext (List.map_injective_iff.mpr (fun _ _ => UInt8.toNat_inj.mp) h)

/-- `base::EnvironmentMap`. -/
abbrev EnvironmentMap := OrderedMap EnvKey (List UInt8)

/-- `c_str()` of a string, up to its first null byte. -/
def cStr (s : List UInt8) : CString := ⟨cString s, notMem_takeWhile_ne 0 s⟩

/-- `getenv`: what follows `name=` in the first entry that begins so. -/
def getenv (environ : List CString) (k : EnvKey) : Option (List UInt8) :=
  environ.findSome? fun e =>
    if k.name ++ [61] <+: e.chars then some (e.chars.drop (k.name.length + 1)) else none

/-- The key of an entry, in front of its first `=`. -/
def entryKey (e : CString) : Option EnvKey :=
  if 61 ∈ e.chars then
    some
      { name := e.chars.takeWhile (· ≠ 61)
        plain := ⟨notMem_takeWhile_ne 61 e.chars,
          fun h => e.nul_free ((List.takeWhile_prefix _).subset h)⟩ }
  else none

/-! ## Building the environment -/

/-- `kForwardEnv`. -/
def kForwardEnv : List EnvKey :=
  [⟨asciiBytes "LD_LIBRARY_PATH", by decide⟩, ⟨asciiBytes "QNX_CA_BUNDLE", by decide⟩,
    ⟨asciiBytes "TMPDIR", by decide⟩, ⟨asciiBytes "HOME", by decide⟩,
    ⟨asciiBytes "CHROME_EXE_PATH", by decide⟩, ⟨asciiBytes "QNX_SCREEN_ROTATION", by decide⟩,
    ⟨asciiBytes "QNX_TRACE", by decide⟩]

/-- The browser's value of a variable, if it has one that is not empty. -/
def nonEmptyEnv (environ : List CString) (k : EnvKey) : Option (List UInt8) :=
  (getenv environ k).filter (· ≠ [])

/-- A round of the loop over `kForwardEnv`. -/
def forwardKey (environ : List CString) (env : EnvironmentMap) (k : EnvKey) : EnvironmentMap :=
  match nonEmptyEnv environ k with
  | some val => env.set k val
  | none => env

/-- `BeforeLaunchOnLauncherThread`: `options->environment`. -/
def beforeLaunch (environ : List CString) (delegate : EnvironmentMap) : EnvironmentMap :=
  kForwardEnv.foldl (forwardKey environ) delegate

/-- An entry of `environ` that the child inherits: it has a key, which is not overridden. -/
def inherits (overrides : EnvironmentMap) (e : CString) : Bool :=
  match entryKey e with
  | none => false
  | some key => (overrides.find key).isNone

/-- The entry of an override. -/
def overrideEntry (kv : EnvKey × List UInt8) : List UInt8 := kv.1.name ++ [61] ++ kv.2

/-- `env_storage`: the inherited entries, and the overrides that are not empty. -/
def envStorage (environ : List CString) (overrides : EnvironmentMap) : List (List UInt8) :=
  (environ.filter (inherits overrides)).map CString.chars ++
    (overrides.entries.filter fun kv => kv.2 ≠ []).map overrideEntry

/-- `envp` of the child. -/
def childEnviron (environ : List CString) (delegate : EnvironmentMap) : List CString :=
  (envStorage environ (beforeLaunch environ delegate)).map cStr

/-- What the child is to find under a key, when a value of the delegate arrives as `cut` makes of
it. -/
def expectedEnv (cut : List UInt8 → List UInt8) (environ : List CString)
    (delegate : EnvironmentMap) (k : EnvKey) : Option (List UInt8) :=
  match if k ∈ kForwardEnv then nonEmptyEnv environ k else none with
  | some val => some val
  | none =>
    match delegate.find k with
    | some val => if val = [] then none else some (cut val)
    | none => getenv environ k

/-- What is promised of the child's environment. -/
structure ChildEnvironRight (cut : List UInt8 → List UInt8) (environ : List CString)
    (delegate : EnvironmentMap) (child : List CString) : Prop where
  getenv_eq : ∀ k, getenv child k = expectedEnv cut environ delegate k
  has_key : ∀ e ∈ child, 61 ∈ e.chars
  once : ∀ k, ((beforeLaunch environ delegate).find k).isSome →
    (child.map entryKey).count (some k) ≤ 1

/-! ## Entries and `getenv` -/

/-- An entry begins with `name=` exactly when the name is its key. -/
lemma prefix_iff_entryKey {e : CString} {k : EnvKey} :
    k.name ++ [61] <+: e.chars ↔ entryKey e = some k := by
  unfold entryKey
  constructor
  · rintro ⟨value, hvalue⟩
    have hmem : 61 ∈ e.chars := by
      rw [← hvalue]
      exact List.mem_append_left _ (List.mem_append_right _ List.mem_cons_self)
    have hname : e.chars.takeWhile (· ≠ 61) = k.name := by
      rw [← hvalue, List.append_assoc, List.takeWhile_append_of_pos, List.singleton_append,
        List.takeWhile_cons_of_neg (by decide), List.append_nil]
      intro b hb
      exact decide_eq_true fun h => k.plain.1 (h ▸ hb)
    rw [if_pos hmem]
    exact congrArg some (EnvKey.ext hname)
  · intro h
    obtain ⟨hmem, hkey⟩ := Option.ite_none_right_eq_some.mp h
    have hname : e.chars.takeWhile (· ≠ 61) = k.name := by rw [← Option.some.inj hkey]
    -- what follows the key begins with the first `=`
    have hdrop : e.chars.dropWhile (· ≠ 61) ≠ [] := by
      intro hnil
      exact absurd (List.dropWhile_eq_nil_iff.mp hnil 61 hmem) (by decide)
    obtain ⟨c, rest, hrest⟩ := List.exists_cons_of_ne_nil hdrop
    have hc : c = 61 := by
      have hhead := List.head_dropWhile_not (fun b : UInt8 => decide (b ≠ 61)) hdrop
      simp only [hrest, List.head_cons] at hhead
      exact not_not.mp (of_decide_eq_false hhead)
    refine ⟨rest, ?_⟩
    rw [← hname, List.append_assoc, List.singleton_append, ← hc, ← hrest, hc]
    exact List.takeWhile_append_dropWhile

/-- The entries before the first one with the key do not count. -/
lemma getenv_cons (e : CString) (environ : List CString) (k : EnvKey) :
    getenv (e :: environ) k =
      if entryKey e = some k then some (e.chars.drop (k.name.length + 1))
      else getenv environ k := by
  unfold getenv
  rw [List.findSome?_cons]
  by_cases h : entryKey e = some k
  · rw [if_pos h, if_pos (prefix_iff_entryKey.mpr h)]
  · rw [if_neg h, if_neg (mt prefix_iff_entryKey.mp h)]

lemma getenv_append (a b : List CString) (k : EnvKey) :
    getenv (a ++ b) k = (getenv a k).or (getenv b k) :=
  List.findSome?_append

/-- Values hold no null byte. -/
lemma zero_notMem_getenv {environ : List CString} {k : EnvKey} {v : List UInt8}
    (h : getenv environ k = some v) : 0 ∉ v := by
  obtain ⟨e, -, he⟩ := List.exists_of_findSome?_eq_some h
  obtain ⟨-, hv⟩ := Option.ite_none_right_eq_some.mp he
  intro hzero
  rw [← Option.some.inj hv] at hzero
  exact e.nul_free (List.mem_of_mem_drop hzero)

lemma cStr_chars (e : CString) : cStr e.chars = e := by
  obtain ⟨chars, hnul⟩ := e
  unfold cStr
  simp only [cString_eq_self hnul]

/-- The entry of an override has its key, and its value up to the first null byte. -/
lemma cStr_overrideEntry (kv : EnvKey × List UInt8) :
    (cStr (overrideEntry kv)).chars = kv.1.name ++ [61] ++ cString kv.2 := by
  refine cString_append_of_notMem (fun hzero => ?_) kv.2
  rcases List.mem_append.mp hzero with hname | hsep
  · exact kv.1.plain.2 hname
  · exact absurd hsep (by decide)

lemma entryKey_overrideEntry (kv : EnvKey × List UInt8) :
    entryKey (cStr (overrideEntry kv)) = some kv.1 := by
  rw [← prefix_iff_entryKey, cStr_overrideEntry]
  exact List.prefix_append _ _

/-! ## What the child finds -/

/-- A forwarded key has the browser's value, if that is not empty. -/
lemma find_forwardKey (environ : List CString) (env : EnvironmentMap) (key k : EnvKey) :
    (forwardKey environ env key).find k =
      match if k = key then nonEmptyEnv environ k else none with
      | some val => some val
      | none => env.find k := by
  unfold forwardKey
  by_cases hk : k = key
  · rw [if_pos hk, ← hk]
    cases nonEmptyEnv environ k with
    | none => rfl
    | some val => exact (OrderedMap.find_set env k val k).trans (if_pos rfl)
  · rw [if_neg hk]
    cases nonEmptyEnv environ key with
    | none => rfl
    | some val => exact (OrderedMap.find_set env key val k).trans (if_neg hk)

/-- After the loop over some keys, the browser's values of these keys are found that are not empty,
and otherwise what was found before. -/
lemma find_foldl_forwardKey (environ : List CString) (keys : List EnvKey) (env : EnvironmentMap)
    (k : EnvKey) :
    (keys.foldl (forwardKey environ) env).find k =
      match if k ∈ keys then nonEmptyEnv environ k else none with
      | some val => some val
      | none => env.find k := by
  induction keys generalizing env with
  | nil => rw [List.foldl_nil, if_neg List.not_mem_nil]
  | cons key keys ih =>
    rw [List.foldl_cons, ih, find_forwardKey]
    by_cases hmem : k ∈ keys
    · rw [if_pos hmem, if_pos (List.mem_cons_of_mem key hmem)]
      cases hval : nonEmptyEnv environ k with
      | some val => rfl
      | none => rw [ite_self]
    · rw [if_neg hmem]
      by_cases hk : k = key
      · rw [if_pos hk, if_pos (List.mem_cons.mpr (Or.inl hk))]
      · rw [if_neg hk, if_neg (fun h => (List.mem_cons.mp h).elim hk hmem)]

/-- Among the inherited entries, the parent's value is found unless the key is overridden. -/
lemma getenv_inherited (environ : List CString) (overrides : EnvironmentMap) (k : EnvKey) :
    getenv (environ.filter (inherits overrides)) k =
      if (overrides.find k).isNone then getenv environ k else none := by
  induction environ with
  | nil => exact (ite_self _).symm
  | cons e environ ih =>
    rw [getenv_cons e environ]
    by_cases hkey : entryKey e = some k
    · have hinherits : inherits overrides e = (overrides.find k).isNone := by
        rw [inherits, hkey]
      rw [if_pos hkey]
      by_cases hfree : (overrides.find k).isNone = true
      · rw [List.filter_cons_of_pos (hinherits.trans hfree), getenv_cons, if_pos hkey, if_pos hfree]
      · rw [List.filter_cons_of_neg (by rw [hinherits]; exact hfree), ih, if_neg hfree,
          if_neg hfree]
    · rw [if_neg hkey, ← ih]
      by_cases hinherits : inherits overrides e = true
      · rw [List.filter_cons_of_pos hinherits, getenv_cons, if_neg hkey]
      · rw [List.filter_cons_of_neg hinherits]

/-- The entries that overrides give. -/
def overrideEntries (entries : List (EnvKey × List UInt8)) : List CString :=
  ((entries.filter fun kv => kv.2 ≠ []).map overrideEntry).map cStr

/-- The entry in front is found by its key, unless it is empty. -/
lemma getenv_overrideEntries_cons (e : EnvKey × List UInt8) (entries : List (EnvKey × List UInt8))
    (k : EnvKey) :
    getenv (overrideEntries (e :: entries)) k =
      if e.1 = k ∧ e.2 ≠ [] then some (cString e.2) else getenv (overrideEntries entries) k := by
  unfold overrideEntries
  by_cases hval : e.2 = []
  · rw [List.filter_cons_of_neg (by simpa using hval), if_neg fun h => h.2 hval]
  · rw [List.filter_cons_of_pos (by simpa using hval), List.map_cons, List.map_cons, getenv_cons,
      entryKey_overrideEntry, cStr_overrideEntry]
    by_cases hkey : e.1 = k
    · have hlen : k.name.length + 1 = (e.1.name ++ [61]).length := by
        rw [hkey, List.length_append, List.length_singleton]
      rw [if_pos (congrArg some hkey), if_pos ⟨hkey, hval⟩, hlen, List.drop_left]
    · rw [if_neg fun heq => hkey (Option.some.inj heq), if_neg fun h => hkey h.1]

lemma getenv_overrideEntries_of_notMem {entries : List (EnvKey × List UInt8)} {k : EnvKey}
    (h : k ∉ entries.map Prod.fst) : getenv (overrideEntries entries) k = none := by
  induction entries with
  | nil => rfl
  | cons kv entries ih =>
    rw [List.map_cons, List.mem_cons, not_or] at h
    rw [getenv_overrideEntries_cons, if_neg fun heq => h.1 heq.1.symm, ih h.2]

/-- Among the entries of the overrides, the one with the key is found, if it is not empty. -/
lemma getenv_overrideEntries {entries : List (EnvKey × List UInt8)}
    (hnodup : (entries.map Prod.fst).Nodup) {kv : EnvKey × List UInt8} (hkv : kv ∈ entries) :
    getenv (overrideEntries entries) kv.1 = if kv.2 = [] then none else some (cString kv.2) := by
  induction entries with
  | nil => cases hkv
  | cons e entries ih =>
    obtain ⟨hnot, hnodup⟩ := List.nodup_cons.mp hnodup
    rw [getenv_overrideEntries_cons]
    rcases List.mem_cons.mp hkv with rfl | hkv
    · by_cases hval : kv.2 = []
      · rw [if_neg fun h => h.2 hval, if_pos hval, getenv_overrideEntries_of_notMem hnot]
      · rw [if_pos ⟨rfl, hval⟩, if_neg hval]
    · have hne : e.1 ≠ kv.1 := fun heq => hnot (List.mem_map.mpr ⟨kv, hkv, heq.symm⟩)
      rw [if_neg fun h => hne h.1, ih hnodup hkv]

/-- The child's environment: inherited entries, then those of the overrides. -/
lemma childEnviron_eq (environ : List CString) (delegate : EnvironmentMap) :
    childEnviron environ delegate =
      environ.filter (inherits (beforeLaunch environ delegate)) ++
        overrideEntries (beforeLaunch environ delegate).entries := by
  unfold childEnviron envStorage overrideEntries
  rw [List.map_append, List.map_map, show cStr ∘ CString.chars = id from funext cStr_chars,
    List.map_id]

/-- The entries of the overrides have different keys. -/
lemma nodup_entryKey_overrideEntries {entries : List (EnvKey × List UInt8)}
    (hnodup : (entries.map Prod.fst).Nodup) : ((overrideEntries entries).map entryKey).Nodup := by
  have hkeys : (overrideEntries entries).map entryKey =
      ((entries.filter fun kv => kv.2 ≠ []).map Prod.fst).map some := by
    unfold overrideEntries
    rw [List.map_map, List.map_map, List.map_map]
    exact List.map_congr_left fun kv _ => entryKey_overrideEntry kv
  rw [hkeys]
  exact (hnodup.sublist (List.filter_sublist.map Prod.fst)).map (Option.some_injective EnvKey)

/-- What an override gives in the child. -/
lemma getenv_overrides (overrides : EnvironmentMap) (k : EnvKey) :
    getenv (overrideEntries overrides.entries) k =
      (overrides.find k).bind fun val => if val = [] then none else some (cString val) := by
  have hnodup : (overrides.entries.map Prod.fst).Nodup := overrides.sorted.imp ne_of_lt
  cases hfind : overrides.find k with
  | some val =>
    have hmem : (k, val) ∈ overrides.entries := OrderedMap.find_eq_some_iff.mp hfind
    exact getenv_overrideEntries hnodup hmem
  | none =>
    apply getenv_overrideEntries_of_notMem
    intro hmem
    obtain ⟨kv, hkv, rfl⟩ := List.mem_map.mp hmem
    rw [OrderedMap.find_eq_some_iff.mpr hkv] at hfind
    cases hfind

/-- The overrides say what is expected. -/
lemma expectedEnv_cString (environ : List CString) (delegate : EnvironmentMap) (k : EnvKey) :
    expectedEnv cString environ delegate k =
      match (beforeLaunch environ delegate).find k with
      | some val => if val = [] then none else some (cString val)
      | none => getenv environ k := by
  have hfind := find_foldl_forwardKey environ kForwardEnv delegate k
  change (beforeLaunch environ delegate).find k = _ at hfind
  unfold expectedEnv
  rw [hfind]
  cases hforward : if k ∈ kForwardEnv then nonEmptyEnv environ k else none with
  | none => rfl
  | some val =>
    -- the browser's own value is not empty and holds no null byte
    obtain ⟨-, hval⟩ := Option.ite_none_right_eq_some.mp hforward
    obtain ⟨hget, hne⟩ := Option.filter_eq_some_iff.mp hval
    dsimp only
    rw [if_neg (of_decide_eq_true hne), cString_eq_self (zero_notMem_getenv hget)]

/-- **The child's environment.**  For every environment of the browser and every map of the
delegate, whose values arrive up to their first null byte. -/
theorem childEnviron_right (environ : List CString) (delegate : EnvironmentMap) :
    ChildEnvironRight cString environ delegate (childEnviron environ delegate) := by
  have hnodup : ((beforeLaunch environ delegate).entries.map Prod.fst).Nodup :=
    (beforeLaunch environ delegate).sorted.imp ne_of_lt
  rw [childEnviron_eq]
  refine ⟨fun k => ?_, fun e he => ?_, fun k hk => ?_⟩
  · rw [getenv_append, getenv_inherited, getenv_overrides, expectedEnv_cString]
    cases (beforeLaunch environ delegate).find k with
    | none => exact Option.or_none
    | some val => rfl
  · rcases List.mem_append.mp he with hin | hown
    · have hinherits := (List.mem_filter.mp hin).2
      unfold inherits entryKey at hinherits
      by_contra hnot
      rw [if_neg hnot] at hinherits
      cases hinherits
    · obtain ⟨s, hs, rfl⟩ := List.mem_map.mp hown
      obtain ⟨kv, -, rfl⟩ := List.mem_map.mp hs
      rw [cStr_overrideEntry]
      exact List.mem_append_left _ (List.mem_append_right _ List.mem_cons_self)
  · have hin : ((environ.filter (inherits (beforeLaunch environ delegate))).map entryKey).count
        (some k) = 0 := by
      apply List.count_eq_zero.mpr
      intro hmem
      obtain ⟨e, he, hkey⟩ := List.mem_map.mp hmem
      have hinherits := (List.mem_filter.mp he).2
      unfold inherits at hinherits
      rw [hkey] at hinherits
      rw [Option.isNone_iff_eq_none.mp hinherits] at hk
      cases hk
    rw [List.map_append, List.count_append, hin, Nat.zero_add]
    exact List.nodup_iff_count_le_one.mp (nodup_entryKey_overrideEntries hnodup) (some k)

/-- The variable `A`. -/
def keyA : EnvKey := ⟨asciiBytes "A", by decide⟩

/-- The delegate sets `A` to a value with a null byte in it: the child finds what stands in front of
it. -/
theorem nulValue_not_childEnvironRight :
    ¬ ∀ environ delegate,
      ChildEnvironRight id environ delegate (childEnviron environ delegate) := by
  intro h
  have hvalue := (h [] ⟨[(keyA, [97, 0, 98])], List.pairwise_singleton _ _⟩).getenv_eq keyA
  exact absurd hvalue (by decide)

end ChromiumQnx
