import ChromiumQnx.Content.ChildProcessEnvironment
import ChromiumQnx.Content.ChildProcessFds

/-!
# Setting variables

`setenv` on the entries of `environ`: the first entry with the key is replaced when that is asked
for, and a new entry is added behind the others when there is none.  `getenv_setenv` says what is
found afterwards, and is all that the programs below need.

A program that sets several variables does so one after another, as given by `Assignment`s.
-/

namespace ChromiumQnx

open Snprintf (asciiBytes)
open StringSearch (CString)

/-! ## Names -/

/-- The name of a variable, given by a text of the program. -/
def envKey (text : String) (plain : (asciiBytes text).all fun c => c ≠ 61 ∧ c ≠ 0) : EnvKey where
  name := asciiBytes text
  plain := by
    have hall := List.all_eq_true.mp plain
    constructor
    · intro h
      exact absurd (of_decide_eq_true (hall 61 h)).1 (by decide)
    · intro h
      exact absurd (of_decide_eq_true (hall 0 h)).2 (by decide)

/-- The rotation of the Screen windows. -/
def keyScreenRotation : EnvKey := envKey "QNX_SCREEN_ROTATION" (by decide)

/-! ## `setenv` -/

/-- The entry `name=value`. -/
def envEntry (k : EnvKey) (v : CString) : CString where
  chars := k.name ++ [61] ++ v.chars
  nul_free := by
    intro h
    rcases List.mem_append.mp h with hkey | hvalue
    · rcases List.mem_append.mp hkey with hname | hsep
      · exact k.plain.2 hname
      · exact absurd hsep (by decide)
    · exact v.nul_free hvalue

/-- `setenv(name, value, overwrite)`. -/
def setenv (k : EnvKey) (v : CString) (overwrite : Bool) : List CString → List CString
  | [] => [envEntry k v]
  | e :: environ =>
    if entryKey e = some k then (if overwrite then envEntry k v :: environ else e :: environ)
    else e :: setenv k v overwrite environ

lemma entryKey_envEntry (k : EnvKey) (v : CString) : entryKey (envEntry k v) = some k :=
  prefix_iff_entryKey.mp (List.prefix_append _ _)

/-- A new entry in front is found by its key. -/
lemma getenv_envEntry_cons (k k' : EnvKey) (v : CString) (environ : List CString) :
    getenv (envEntry k v :: environ) k' = if k' = k then some v.chars else getenv environ k' := by
  rw [getenv_cons, entryKey_envEntry]
  by_cases hk : k' = k
  · have hlen : k'.name.length + 1 = (k.name ++ [61]).length := by
      rw [hk, List.length_append, List.length_singleton]
    have hvalue : (envEntry k v).chars.drop (k.name ++ [61]).length = v.chars := List.drop_left
    rw [if_pos (congrArg some hk.symm), if_pos hk, hlen, hvalue]
  · rw [if_neg fun h => hk (Option.some.inj h).symm, if_neg hk]

/-- **What `setenv` leaves to be found.**  The key has the new value, unless it has one that is to
be kept, and every other key has the value it had. -/
theorem getenv_setenv (k k' : EnvKey) (v : CString) (overwrite : Bool) (environ : List CString) :
    getenv (setenv k v overwrite environ) k' =
      if k' = k ∧ (overwrite ∨ getenv environ k = none) then some v.chars
      else getenv environ k' := by
  induction environ with
  | nil =>
    rw [setenv, getenv_envEntry_cons]
    exact if_congr ⟨fun hk => ⟨hk, Or.inr rfl⟩, fun h => h.1⟩ rfl rfl
  | cons e environ ih =>
    rw [setenv]
    by_cases hkey : entryKey e = some k
    · have hfound : getenv (e :: environ) k ≠ none := by
        rw [getenv_cons, if_pos hkey]
        exact Option.some_ne_none _
      rw [if_pos hkey]
      cases overwrite with
      | true =>
        rw [if_pos rfl, getenv_envEntry_cons]
        by_cases hk : k' = k
        · rw [if_pos hk, if_pos ⟨hk, Or.inl rfl⟩]
        · have hother : entryKey e ≠ some k' := fun h => hk (Option.some.inj (h.symm.trans hkey))
          rw [if_neg hk, if_neg fun h => hk h.1, getenv_cons, if_neg hother]
      | false =>
        rw [if_neg Bool.false_ne_true, if_neg fun h => h.2.elim Bool.false_ne_true hfound]
    · have hsame : getenv (e :: environ) k = getenv environ k := by
        rw [getenv_cons, if_neg hkey]
      rw [if_neg hkey, hsame, getenv_cons, getenv_cons, ih]
      by_cases hk' : entryKey e = some k'
      · have hne : k' ≠ k := fun h => hkey (h ▸ hk')
        rw [if_pos hk', if_pos hk', if_neg fun h => hne h.1]
      · rw [if_neg hk', if_neg hk']

/-- A value that was found is a string. -/
def envString (environ : List CString) (k : EnvKey) : Option CString :=
  (getenv environ k).map cStr

/-- `atoi`, for a `long` of 32 bits. -/
def atoi (s : List UInt8) : ℤ := (strtol (s.map fun c => Char.ofNat c.toNat)).value

/-! ## Several variables -/

/-- A call of `setenv`. -/
structure Assignment where
  key : EnvKey
  value : CString
  overwrite : Bool

/-- Calls of `setenv` one after another. -/
def setAll (assignments : List Assignment) (environ : List CString) : List CString :=
  assignments.foldl (fun environ a => setenv a.key a.value a.overwrite environ) environ

/-- A variable that no call names keeps its value. -/
lemma getenv_setAll_of_notMem {assignments : List Assignment} {k : EnvKey}
    (h : k ∉ assignments.map Assignment.key) (environ : List CString) :
    getenv (setAll assignments environ) k = getenv environ k := by
  induction assignments generalizing environ with
  | nil => rfl
  | cons a assignments ih =>
    rw [List.map_cons, List.mem_cons, not_or] at h
    change getenv (setAll assignments (setenv a.key a.value a.overwrite environ)) k = _
    rw [ih h.2, getenv_setenv, if_neg fun hk => h.1 hk.1]

/-- A variable that one call names has the value of this call, unless it had one that the call
keeps. -/
lemma getenv_setAll_of_mem {assignments : List Assignment}
    (hnodup : (assignments.map Assignment.key).Nodup) {a : Assignment} (ha : a ∈ assignments)
    (environ : List CString) :
    getenv (setAll assignments environ) a.key =
      if a.overwrite ∨ getenv environ a.key = none then some a.value.chars
      else getenv environ a.key := by
  induction assignments generalizing environ with
  | nil => exact absurd ha List.not_mem_nil
  | cons b assignments ih =>
    obtain ⟨hnot, hnodup⟩ := List.nodup_cons.mp hnodup
    change getenv (setAll assignments (setenv b.key b.value b.overwrite environ)) a.key = _
    rcases List.mem_cons.mp ha with rfl | ha
    · rw [getenv_setAll_of_notMem hnot, getenv_setenv]
      exact if_congr ⟨fun h => h.2, fun h => ⟨rfl, h⟩⟩ rfl rfl
    · have hne : a.key ≠ b.key := fun h => hnot (h ▸ List.mem_map_of_mem ha)
      have hkept : getenv (setenv b.key b.value b.overwrite environ) a.key =
          getenv environ a.key := by
        rw [getenv_setenv, if_neg fun h => hne h.1]
      rw [ih hnodup ha, hkept]

/-- What several calls for different variables leave to be found. -/
theorem getenv_setAll {assignments : List Assignment}
    (hnodup : (assignments.map Assignment.key).Nodup) (environ : List CString) (k : EnvKey) :
    getenv (setAll assignments environ) k =
      match assignments.find? fun a => a.key = k with
      | some a => if a.overwrite ∨ getenv environ k = none then some a.value.chars
        else getenv environ k
      | none => getenv environ k := by
  rcases hfind : assignments.find? (fun a => a.key = k) with _ | a
  · have hnot : k ∉ assignments.map Assignment.key := fun hmem => by
      obtain ⟨a, ha, hk⟩ := List.mem_map.mp hmem
      exact List.find?_eq_none.mp hfind a ha (decide_eq_true hk)
    rw [hfind]
    exact getenv_setAll_of_notMem hnot environ
  · have hfound := List.find?_some hfind
    obtain rfl : a.key = k := of_decide_eq_true hfound
    rw [hfind]
    exact getenv_setAll_of_mem hnodup (List.mem_of_find?_eq_some hfind) environ

/-- `if (!getenv(name)) setenv(name, value, 1);`. -/
def setIfUnset (k : EnvKey) (v : CString) (environ : List CString) : List CString :=
  if getenv environ k = none then setenv k v true environ else environ

/-- That is a call that keeps what is set. -/
lemma setIfUnset_eq (k : EnvKey) (v : CString) (environ : List CString) :
    setIfUnset k v environ = setenv k v false environ := by
  unfold setIfUnset
  induction environ with
  | nil => exact if_pos rfl
  | cons e environ ih =>
    rw [setenv, setenv, getenv_cons]
    by_cases hkey : entryKey e = some k
    · rw [if_pos hkey, if_pos hkey, if_pos hkey, if_neg (Option.some_ne_none _),
        if_neg Bool.false_ne_true]
    · rw [if_neg hkey, if_neg hkey, if_neg hkey, ← ih]
      split <;> rfl

end ChromiumQnx
