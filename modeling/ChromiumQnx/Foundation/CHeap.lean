import ChromiumQnx.Foundation.KeyedList

/-!
# A heap of allocated blocks

`malloc` makes a block with a new address, `free` drops a block, and `store` fills one from its
beginning.  Freeing what is not allocated, and storing more than a block holds, have no result.

`store_malloc` and `free_last` are what code needs that allocates a block, fills it, and keeps it
or gives it back.
-/

/-- An allocated block: how much it holds, and what was stored from its beginning. -/
structure Block (α : Type*) where
  size : ℕ
  stored : List α
  deriving DecidableEq, Repr

/-- The allocated blocks with their addresses, oldest first, and the next new address. -/
@[ext]
structure CHeap (α : Type*) where
  blocks : List (ℕ × Block α)
  next : ℕ
  below : ∀ b ∈ blocks, b.1 < next
  nodup : (blocks.map Prod.fst).Nodup

namespace CHeap

variable {α : Type*}

/-- Nothing is allocated. -/
def empty : CHeap α := ⟨[], 0, List.forall_mem_nil _, List.nodup_nil⟩

/-- The block at an address. -/
def block? (h : CHeap α) (p : ℕ) : Option (Block α) :=
  (h.blocks.find? fun b => decide (b.1 = p)).map Prod.snd

/-- `malloc`, when it succeeds: the heap with a block at the address `h.next`. -/
def malloc (h : CHeap α) (size : ℕ) : CHeap α where
  blocks := h.blocks ++ [(h.next, ⟨size, []⟩)]
  next := h.next + 1
  below := by
    rw [List.forall_mem_append, List.forall_mem_singleton]
    exact ⟨fun b hb => Nat.lt_succ_of_lt (h.below b hb), Nat.lt_succ_self _⟩
  nodup := by
    rw [List.map_append, List.nodup_append]
    refine ⟨h.nodup, List.nodup_singleton _, fun p hp q hq => ?_⟩
    obtain ⟨b, hb, rfl⟩ := List.mem_map.mp hp
    obtain rfl : q = h.next := by simpa using hq
    exact Nat.ne_of_lt (h.below b hb)

/-- The heap without a block. -/
def drop (h : CHeap α) (p : ℕ) : CHeap α where
  blocks := KeyedList.erase p h.blocks
  next := h.next
  below b hb := h.below b (KeyedList.mem_erase.mp hb).1
  nodup := by
    rw [KeyedList.map_fst_erase]
    exact h.nodup.filter _

/-- The heap with a block filled from its beginning. -/
def fill (h : CHeap α) (p : ℕ) (l : List α) : CHeap α where
  blocks := KeyedList.modify p (fun block => { block with stored := l }) h.blocks
  next := h.next
  below b hb := by
    obtain ⟨d, hd, rfl⟩ := KeyedList.mem_modify.mp hb
    split
    · exact h.below d hd
    · exact h.below d hd
  nodup := by
    rw [KeyedList.map_fst_modify]
    exact h.nodup

/-- `free`. -/
def free (h : CHeap α) (p : ℕ) : Option (CHeap α) :=
  if (h.block? p).isSome then some (h.drop p) else none

/-- Storing from the beginning of a block. -/
def store (h : CHeap α) (p : ℕ) (l : List α) : Option (CHeap α) :=
  (h.block? p).bind fun block => if l.length ≤ block.size then some (h.fill p l) else none

/-! ## Reading a block -/

lemma block?_eq_some_iff {h : CHeap α} {p : ℕ} {block : Block α} :
    h.block? p = some block ↔ (p, block) ∈ h.blocks := by
  unfold block?
  constructor
  · intro hfind
    obtain ⟨b, hb, rfl⟩ := Option.map_eq_some_iff.mp hfind
    have hp : b.1 = p :=
      of_decide_eq_true (List.find?_some (p := fun b : ℕ × Block α => decide (b.1 = p)) hb)
    rw [← hp]
    exact List.mem_of_find?_eq_some hb
  · intro hmem
    have hfound : (h.blocks.find? fun b => decide (b.1 = p)).isSome :=
      List.find?_isSome.mpr ⟨(p, block), hmem, decide_eq_true rfl⟩
    obtain ⟨b, hb⟩ := Option.isSome_iff_exists.mp hfound
    have hp : b.1 = p :=
      of_decide_eq_true (List.find?_some (p := fun b : ℕ × Block α => decide (b.1 = p)) hb)
    rw [hb, Option.map_some]
    have hpair : (p, b.2) ∈ h.blocks := by
      rw [← hp]
      exact List.mem_of_find?_eq_some hb
    rw [KeyedList.eq_of_mem h.nodup hpair hmem]

lemma next_notMem (h : CHeap α) : h.next ∉ h.blocks.map Prod.fst := by
  intro hmem
  obtain ⟨b, hb, hnext⟩ := List.mem_map.mp hmem
  exact Nat.ne_of_lt (h.below b hb) hnext

lemma block?_malloc_next (h : CHeap α) (size : ℕ) :
    (h.malloc size).block? h.next = some ⟨size, []⟩ :=
  block?_eq_some_iff.mpr (List.mem_append_right _ List.mem_cons_self)

/-- What a block holds stays when others are added. -/
lemma block?_of_append {h h' : CHeap α} {added : List (ℕ × Block α)}
    (hblocks : h'.blocks = h.blocks ++ added) {p : ℕ} (hp : p ∈ h.blocks.map Prod.fst) :
    h'.block? p = h.block? p := by
  obtain ⟨⟨q, block⟩, hmem, rfl⟩ := List.mem_map.mp hp
  have hold : h.block? q = some block := block?_eq_some_iff.mpr hmem
  rw [hold, block?_eq_some_iff, hblocks]
  exact List.mem_append_left _ hmem

lemma block?_of_added {h h' : CHeap α} {added : List (ℕ × Block α)}
    (hblocks : h'.blocks = h.blocks ++ added) {p : ℕ} {block : Block α}
    (hmem : (p, block) ∈ added) : h'.block? p = some block := by
  rw [block?_eq_some_iff, hblocks]
  exact List.mem_append_right _ hmem

/-! ## A new block -/

/-- A new block can be filled as far as it goes. -/
theorem store_malloc {h : CHeap α} {size : ℕ} {l : List α} (hl : l.length ≤ size) :
    ∃ h', (h.malloc size).store h.next l = some h' ∧
      h'.blocks = h.blocks ++ [(h.next, ⟨size, l⟩)] ∧ h'.next = h.next + 1 := by
  refine ⟨(h.malloc size).fill h.next l, ?_, ?_, rfl⟩
  · rw [store, block?_malloc_next, Option.bind_some, if_pos hl]
  · have hold := KeyedList.modify_of_notMem h.next_notMem fun b => { b with stored := l }
    unfold KeyedList.modify at hold
    have hfill : ((h.malloc size).fill h.next l).blocks =
        KeyedList.modify h.next (fun b => { b with stored := l })
          (h.blocks ++ [(h.next, ⟨size, []⟩)]) := rfl
    rw [hfill, KeyedList.modify, List.map_append, hold, List.map_singleton, if_pos rfl]

/-- The newest block can be given back. -/
theorem free_last {h h' : CHeap α} {p : ℕ} {block : Block α}
    (hblocks : h'.blocks = h.blocks ++ [(p, block)]) :
    ∃ h'', h'.free p = some h'' ∧ h''.blocks = h.blocks ∧ h''.next = h'.next := by
  have hnodup := h'.nodup
  rw [hblocks, List.map_append, List.nodup_append] at hnodup
  have hp : p ∉ h.blocks.map Prod.fst := fun hmem =>
    hnodup.2.2 p hmem p (List.mem_singleton_self _) rfl
  have hblock : h'.block? p = some block := by
    rw [block?_eq_some_iff, hblocks]
    exact List.mem_append_right _ (List.mem_singleton_self _)
  refine ⟨h'.drop p, ?_, ?_, rfl⟩
  · rw [free, hblock]
    rfl
  · have hold := KeyedList.erase_of_notMem hp
    unfold KeyedList.erase at hold
    change KeyedList.erase p h'.blocks = _
    rw [KeyedList.erase, hblocks, List.filter_append, hold, List.filter_singleton]
    simp

end CHeap
