import ChromiumQnx.Foundation.OrderedMap
import Mathlib.Algebra.Order.BigOperators.Group.List
import Mathlib.Algebra.GroupWithZero.Nat
import Mathlib.Data.Finset.Defs
import Mathlib.Algebra.Order.Group.Nat

/-!
# Deleting shared dictionaries

`SharedDictionaryStorageOnDisk` keeps the dictionaries in use by their disk cache token, and the
information on all stored dictionaries by origin and by match key.  `OnDictionaryDeleted` takes the
dictionaries of a set of tokens out of both maps, with three loops that erase while iterating: over
the first map, over the inner maps of the second, and over the second map for inner maps that became
empty.

The main result says that the loops end without an access past the end of a map, and what the maps
hold afterwards; they do what the `std::erase_if` calls did that they replace.
-/

namespace ChromiumQnx

universe u

/-! ## The storage -/

/-- `SharedDictionaryInfo`: the disk cache token, and what else it holds. -/
structure SharedDictionaryInfo (τ ρ : Type u) where
  diskCacheKeyToken : τ
  fields : ρ
  deriving DecidableEq, Repr

/-- The maps of `SharedDictionaryStorageOnDisk`.  Tokens are `τ`, the dictionaries in use `δ`,
origins `ω`, and the keys of the inner maps, of match pattern and destinations, `κ`. -/
@[ext]
structure SharedDictionaryStorageOnDisk (τ δ ω κ ρ : Type u) [LinearOrder τ] [LinearOrder ω]
    [LinearOrder κ] where
  dictionaries : OrderedMap τ δ
  dictionaryInfoMap : OrderedMap ω (OrderedMap κ (SharedDictionaryInfo τ ρ))

namespace SharedDictionaryStorageOnDisk

variable {τ δ ω κ ρ : Type u} [LinearOrder τ] [LinearOrder ω] [LinearOrder κ]

/-- `disk_cache_key_tokens.find(it->first) != end()` for a dictionary in use. -/
def dictionaryDeleted (tokens : Finset τ) (e : τ × δ) : Bool :=
  decide (e.1 ∈ tokens)

/-- The same test for the token of an information entry. -/
def infoDeleted (tokens : Finset τ) (e : κ × SharedDictionaryInfo τ ρ) : Bool :=
  decide (e.2.diskCacheKeyToken ∈ tokens)

/-- `it->second.empty()`. -/
def infosEmpty (e : ω × OrderedMap κ (SharedDictionaryInfo τ ρ)) : Bool :=
  e.2.entries.isEmpty

/-- `OnDictionaryDeleted`, with a bound on the rounds of each of its iterator loops. -/
def onDictionaryDeleted (rounds : ℕ) (tokens : Finset τ)
    (s : SharedDictionaryStorageOnDisk τ δ ω κ ρ) :
    Option (SharedDictionaryStorageOnDisk τ δ ω κ ρ) := do
  let dictionaries ← OrderedMap.eraseLoop (dictionaryDeleted tokens) rounds 0 s.dictionaries
  let erased ← s.dictionaryInfoMap.forValues (OrderedMap.eraseLoop (infoDeleted tokens) rounds 0)
  let dictionaryInfoMap ← OrderedMap.eraseLoop infosEmpty rounds 0 erased
  return ⟨dictionaries, dictionaryInfoMap⟩

/-- The version with `std::erase_if` that the loops replace. -/
def onDictionaryDeletedEraseIf (tokens : Finset τ) (s : SharedDictionaryStorageOnDisk τ δ ω κ ρ) :
    SharedDictionaryStorageOnDisk τ δ ω κ ρ where
  dictionaries := s.dictionaries.eraseIf (dictionaryDeleted tokens)
  dictionaryInfoMap :=
    (s.dictionaryInfoMap.mapValues (OrderedMap.eraseIf (infoDeleted tokens))).eraseIf infosEmpty

/-- The information map holds an entry for an origin and an inner key. -/
def HoldsInfo (s : SharedDictionaryStorageOnDisk τ δ ω κ ρ) (origin : ω) (key : κ)
    (info : SharedDictionaryInfo τ ρ) : Prop :=
  ∃ infos, (origin, infos) ∈ s.dictionaryInfoMap.entries ∧ (key, info) ∈ infos.entries

/-- What is left of a storage when the dictionaries of a set of tokens are gone. -/
structure DeletedFrom (tokens : Finset τ) (s s' : SharedDictionaryStorageOnDisk τ δ ω κ ρ) :
    Prop where
  dictionaries : ∀ e, e ∈ s'.dictionaries.entries ↔ e ∈ s.dictionaries.entries ∧ e.1 ∉ tokens
  infos : ∀ origin key info, s'.HoldsInfo origin key info ↔
    s.HoldsInfo origin key info ∧ info.diskCacheKeyToken ∉ tokens
  no_empty : ∀ e ∈ s'.dictionaryInfoMap.entries, e.2.entries ≠ []

/-! ## What the loops leave -/

/-- Enough rounds for every map of the storage. -/
def enoughRounds (s : SharedDictionaryStorageOnDisk τ δ ω κ ρ) : ℕ :=
  s.dictionaries.entries.length + s.dictionaryInfoMap.entries.length +
    (s.dictionaryInfoMap.entries.map fun e => e.2.entries.length).sum + 1

/-- The loops do what `std::erase_if` does. -/
lemma onDictionaryDeleted_eq {s : SharedDictionaryStorageOnDisk τ δ ω κ ρ} {tokens : Finset τ}
    {rounds : ℕ} (hrounds : s.enoughRounds ≤ rounds) :
    onDictionaryDeleted rounds tokens s = some (onDictionaryDeletedEraseIf tokens s) := by
  have hinner : ∀ e ∈ s.dictionaryInfoMap.entries, e.2.entries.length < rounds := by
    intro e he
    have hle : e.2.entries.length ≤
        (s.dictionaryInfoMap.entries.map fun e => e.2.entries.length).sum :=
      List.le_sum_of_mem (List.mem_map_of_mem he)
    unfold enoughRounds at hrounds
    omega
  have hfor : s.dictionaryInfoMap.forValues
      (OrderedMap.eraseLoop (infoDeleted tokens) rounds 0) =
        some (s.dictionaryInfoMap.mapValues (OrderedMap.eraseIf (infoDeleted tokens))) :=
    OrderedMap.forValues_eq fun e he => OrderedMap.eraseLoop_zero (hinner e he)
  have hlen : (s.dictionaryInfoMap.mapValues
      (OrderedMap.eraseIf (infoDeleted tokens))).entries.length =
        s.dictionaryInfoMap.entries.length :=
    List.length_map _
  unfold enoughRounds at hrounds
  unfold onDictionaryDeleted
  rw [OrderedMap.eraseLoop_zero (by omega), hfor]
  simp only [Option.bind_eq_bind, Option.bind_some]
  rw [OrderedMap.eraseLoop_zero (by omega)]
  rfl

/-- An origin's entry after the deletion is what is left of its entry before, which is not nothing.
-/
lemma mem_infoMap_eraseIf {s : SharedDictionaryStorageOnDisk τ δ ω κ ρ} {tokens : Finset τ}
    {e : ω × OrderedMap κ (SharedDictionaryInfo τ ρ)} :
    e ∈ (onDictionaryDeletedEraseIf tokens s).dictionaryInfoMap.entries ↔
      (∃ infos, (e.1, infos) ∈ s.dictionaryInfoMap.entries ∧
        infos.eraseIf (infoDeleted tokens) = e.2) ∧ e.2.entries ≠ [] := by
  unfold onDictionaryDeletedEraseIf
  rw [OrderedMap.mem_eraseIf, OrderedMap.mem_mapValues, infosEmpty, List.isEmpty_eq_false_iff]

/-- What the version with `std::erase_if` leaves. -/
lemma deletedFrom_eraseIf (tokens : Finset τ) (s : SharedDictionaryStorageOnDisk τ δ ω κ ρ) :
    DeletedFrom tokens s (onDictionaryDeletedEraseIf tokens s) where
  dictionaries e := by
    unfold onDictionaryDeletedEraseIf
    rw [OrderedMap.mem_eraseIf, dictionaryDeleted, decide_eq_false_iff_not]
  infos origin key info := by
    have hleft : ∀ infos : OrderedMap κ (SharedDictionaryInfo τ ρ),
        (key, info) ∈ (infos.eraseIf (infoDeleted tokens)).entries ↔
          (key, info) ∈ infos.entries ∧ info.diskCacheKeyToken ∉ tokens := by
      intro infos
      rw [OrderedMap.mem_eraseIf, infoDeleted, decide_eq_false_iff_not]
    constructor
    · rintro ⟨left, hleftmem, hmem⟩
      obtain ⟨⟨infos, hinfos, rfl⟩, -⟩ := mem_infoMap_eraseIf.mp hleftmem
      obtain ⟨hold, hnot⟩ := (hleft infos).mp hmem
      exact ⟨⟨infos, hinfos, hold⟩, hnot⟩
    · rintro ⟨⟨infos, hinfos, hold⟩, hnot⟩
      have hmem := (hleft infos).mpr ⟨hold, hnot⟩
      -- the entry itself shows that the inner map did not become empty
      exact ⟨_, mem_infoMap_eraseIf.mpr ⟨⟨infos, hinfos, rfl⟩, List.ne_nil_of_mem hmem⟩, hmem⟩
  no_empty e he := (mem_infoMap_eraseIf.mp he).2

/-- **Deleting dictionaries.**  With enough rounds the loops end, without an access past the end of
a map.  Both maps then hold the entries they held whose token is not in the set, no inner map is
empty, and `std::erase_if` would have left the same. -/
theorem onDictionaryDeleted_deletedFrom (tokens : Finset τ)
    (s : SharedDictionaryStorageOnDisk τ δ ω κ ρ) :
    ∃ bound, ∀ rounds ≥ bound, ∃ s', onDictionaryDeleted rounds tokens s = some s' ∧
      DeletedFrom tokens s s' ∧ s' = onDictionaryDeletedEraseIf tokens s :=
  ⟨s.enoughRounds, fun _ hrounds =>
    ⟨_, onDictionaryDeleted_eq hrounds, deletedFrom_eraseIf tokens s, rfl⟩⟩

end SharedDictionaryStorageOnDisk

end ChromiumQnx
