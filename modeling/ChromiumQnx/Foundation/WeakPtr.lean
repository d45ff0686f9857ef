import Mathlib.Tactic.Common

/-!
# Weak pointers

An object hands out weak pointers to itself and can invalidate all of them at once; pointers handed
out later are valid again.  `WeakPtrFactory` counts the invalidations, and a pointer remembers the
count at which it was made.
-/

/-- The factory of an object: how often its pointers have been invalidated. -/
structure WeakPtrFactory where
  generation : ℕ
  deriving DecidableEq, Repr

/-- A weak pointer, with the count at which it was made. -/
structure WeakPtr where
  generation : ℕ
  deriving DecidableEq, Repr

namespace WeakPtrFactory

/-- A new pointer. -/
def getWeakPtr (f : WeakPtrFactory) : WeakPtr := ⟨f.generation⟩

/-- Invalidate all pointers made so far. -/
def invalidateWeakPtrs (f : WeakPtrFactory) : WeakPtrFactory := ⟨f.generation + 1⟩

/-- Whether a pointer is valid. -/
def isValid (f : WeakPtrFactory) (p : WeakPtr) : Bool := p.generation = f.generation

/-- The pointers that can have been made so far. -/
def Issued (f : WeakPtrFactory) (p : WeakPtr) : Prop := p.generation ≤ f.generation

@[simp] lemma isValid_getWeakPtr (f : WeakPtrFactory) : f.isValid f.getWeakPtr :=
  decide_eq_true rfl

lemma issued_getWeakPtr (f : WeakPtrFactory) : f.Issued f.getWeakPtr := Nat.le_refl _

/-- Invalidation makes no pointers. -/
lemma Issued.invalidateWeakPtrs {f : WeakPtrFactory} {p : WeakPtr} (h : f.Issued p) :
    f.invalidateWeakPtrs.Issued p := Nat.le_succ_of_le h

/-- After an invalidation none of the pointers made so far is valid. -/
lemma isValid_invalidateWeakPtrs {f : WeakPtrFactory} {p : WeakPtr} (h : f.Issued p) :
    f.invalidateWeakPtrs.isValid p = false :=
  decide_eq_false (Nat.ne_of_lt (Nat.lt_succ_of_le h))

end WeakPtrFactory
