import Mathlib.Logic.Function.Basic
import Mathlib.Tactic.Common

/-!
# A dynamic loader

Shared libraries are opened and closed by reference counting: the first `open` of a library loads
it, the close of its last reference unloads it.  A `Symbol` remembers which load of its library it
was resolved from, and it is `Live` while that load lasts.
-/

/-- For every library the number of its open references, and how often it has been loaded. -/
structure DynamicLoader (ι : Type*) where
  refs : ι → ℕ
  loads : ι → ℕ

namespace DynamicLoader

variable {ι : Type*} [DecidableEq ι]

/-- A symbol, by its library and the load it was resolved from. -/
structure Symbol (ι : Type*) where
  library : ι
  load : ℕ
  deriving DecidableEq, Repr

/-- A loader that has loaded nothing. -/
def empty (ι : Type*) : DynamicLoader ι where
  refs := fun _ => 0
  loads := fun _ => 0

/-- A successful `dlopen`. -/
def openLib (l : DynamicLoader ι) (i : ι) : DynamicLoader ι where
  refs := Function.update l.refs i (l.refs i + 1)
  loads := Function.update l.loads i (if l.refs i = 0 then l.loads i + 1 else l.loads i)

/-- A `dlclose`. -/
def closeLib (l : DynamicLoader ι) (i : ι) : DynamicLoader ι :=
  { l with refs := Function.update l.refs i (l.refs i - 1) }

/-- What a successful `dlsym` in a library yields. -/
def resolve (l : DynamicLoader ι) (i : ι) : Symbol ι := ⟨i, l.loads i⟩

/-- The load a symbol was resolved from still has an open reference. -/
def Live (l : DynamicLoader ι) (s : Symbol ι) : Prop :=
  0 < l.refs s.library ∧ l.loads s.library = s.load

instance (l : DynamicLoader ι) (s : Symbol ι) : Decidable (l.Live s) :=
  inferInstanceAs (Decidable (_ ∧ _))

omit [DecidableEq ι] in
/-- A symbol just resolved from a library that is open is live. -/
lemma live_resolve {l : DynamicLoader ι} {i : ι} (h : 0 < l.refs i) : l.Live (l.resolve i) :=
  ⟨h, rfl⟩

lemma refs_openLib (l : DynamicLoader ι) (i j : ι) :
    (l.openLib i).refs j = if j = i then l.refs i + 1 else l.refs j :=
  Function.update_apply l.refs i _ j

lemma refs_openLib_pos (l : DynamicLoader ι) (i : ι) : 0 < (l.openLib i).refs i := by
  rw [refs_openLib, if_pos rfl]
  exact Nat.succ_pos _

/-- Opening a library lowers no count. -/
lemma refs_le_refs_openLib (l : DynamicLoader ι) (i j : ι) :
    l.refs j ≤ (l.openLib i).refs j := by
  rw [refs_openLib]
  split
  · rename_i hj
    rw [hj]
    exact Nat.le_succ _
  · exact Nat.le_refl _

lemma refs_closeLib_of_ne (l : DynamicLoader ι) {i j : ι} (h : j ≠ i) :
    (l.closeLib i).refs j = l.refs j :=
  Function.update_of_ne h _ _

/-- Opening a library reloads none that is open. -/
lemma loads_openLib {l : DynamicLoader ι} {j : ι} (i : ι) (h : 0 < l.refs j) :
    (l.openLib i).loads j = l.loads j := by
  apply (Function.update_apply l.loads i _ j).trans
  split
  · rename_i hj
    subst hj
    exact if_neg (Nat.ne_of_gt h)
  · rfl

/-- Opening a library keeps every live symbol live. -/
lemma Live.openLib {l : DynamicLoader ι} {s : Symbol ι} (h : l.Live s) (i : ι) :
    (l.openLib i).Live s := by
  constructor
  · exact Nat.lt_of_lt_of_le h.1 (refs_le_refs_openLib l i s.library)
  · exact (loads_openLib i h.1).trans h.2

/-- Closing a library that stays open keeps every live symbol live. -/
lemma Live.closeLib {l : DynamicLoader ι} {s : Symbol ι} (h : l.Live s) {i : ι}
    (hopen : 0 < (l.closeLib i).refs s.library) : (l.closeLib i).Live s :=
  ⟨hopen, h.2⟩

/-- Opening a library and closing it again keeps every live symbol live. -/
lemma Live.closeLib_openLib {l : DynamicLoader ι} {s : Symbol ι} (h : l.Live s) (i : ι) :
    ((l.openLib i).closeLib i).Live s := by
  constructor
  · by_cases hi : s.library = i
    · subst hi
      have hpos := h.1
      simp only [DynamicLoader.closeLib, DynamicLoader.openLib, Function.update_self]
      omega
    · rw [refs_closeLib_of_ne _ hi]
      exact (h.openLib i).1
  · exact (h.openLib i).2

end DynamicLoader
