import Mathlib.Order.Lattice
import Mathlib.Data.List.Nodup
import Mathlib.Tactic.Common

/-!
# Ordered maps and erasing while iterating

An `OrderedMap` lists its entries in the order of their keys, which are distinct.  `eraseLoop` is
the loop that walks over a map with an iterator and erases the entries that satisfy a predicate: an
erase gives the iterator of the next entry, any other round advances.  An iterator is a position,
and reading at a position where there is no entry is an error of the loop.

`eraseLoop_zero` says that the loop ends, makes no such error, and leaves the entries that do not
satisfy the predicate, so that it does what `eraseIf` does.  `forValues` visits the values of a map
one after the other and may change them.  `find` and `set` look a key up and assign to it, and
`find_foldl` looks at the events on one key only.
-/

/-- A map whose entries are in the order of their keys. -/
@[ext]
structure OrderedMap (κ ν : Type*) [LinearOrder κ] where
  entries : List (κ × ν)
  sorted : (entries.map Prod.fst).Pairwise (· < ·)

namespace OrderedMap

variable {κ ν : Type*} [LinearOrder κ]

/-! ## Erasing -/

/-- `erase` of the entry at a position. -/
def eraseAt (m : OrderedMap κ ν) (i : ℕ) : OrderedMap κ ν where
  entries := m.entries.eraseIdx i
  sorted := m.sorted.sublist ((List.eraseIdx_sublist m.entries i).map Prod.fst)

/-- `std::erase_if`: the map without the entries that satisfy the predicate. -/
def eraseIf (p : κ × ν → Bool) (m : OrderedMap κ ν) : OrderedMap κ ν where
  entries := m.entries.filter fun e => !p e
  sorted := m.sorted.sublist (List.filter_sublist.map Prod.fst)

/-- `for (it = begin; it != end;)` with `it = erase(it)` for the entries that satisfy the predicate
and `++it` for the others.  The first number bounds the rounds; the loop has no result when they are
used up, or when it reads past the end. -/
def eraseLoop (p : κ × ν → Bool) : ℕ → ℕ → OrderedMap κ ν → Option (OrderedMap κ ν)
  | 0, _, _ => none
  | rounds + 1, it, m =>
    if it = m.entries.length then some m else
    match m.entries[it]? with
    | none => none
    | some e =>
      if p e then eraseLoop p rounds it (m.eraseAt it) else eraseLoop p rounds (it + 1) m

/-- **The loop's result.**  The entries before the iterator stay, and of the others those that do
not satisfy the predicate. -/
theorem eraseLoop_eq {p : κ × ν → Bool} {rounds it : ℕ} {m : OrderedMap κ ν}
    (hit : it ≤ m.entries.length) (hrounds : m.entries.length - it < rounds) :
    (eraseLoop p rounds it m).map entries =
      some (m.entries.take it ++ (m.entries.drop it).filter fun e => !p e) := by
  induction rounds generalizing it m with
  | zero => exact absurd hrounds (Nat.not_lt_zero _)
  | succ rounds ih =>
    unfold eraseLoop
    by_cases hend : it = m.entries.length
    · rw [if_pos hend, Option.map_some, hend, List.take_length, List.drop_length, List.filter_nil,
        List.append_nil]
    · have hlt : it < m.entries.length := Nat.lt_of_le_of_ne hit hend
      rw [if_neg hend, List.getElem?_eq_getElem hlt, List.drop_eq_getElem_cons hlt]
      dsimp only
      cases hp : p m.entries[it] with
      | true =>
        -- the rest moves up to the iterator
        have htake : (m.eraseAt it).entries.take it = m.entries.take it := by
          change (m.entries.eraseIdx it).take it = _
          rw [List.eraseIdx_eq_take_drop_succ, List.take_left' (List.length_take_of_le hit)]
        have hdrop : (m.eraseAt it).entries.drop it = m.entries.drop (it + 1) := by
          change (m.entries.eraseIdx it).drop it = _
          rw [List.eraseIdx_eq_take_drop_succ, List.drop_left' (List.length_take_of_le hit)]
        have hlen : (m.eraseAt it).entries.length = m.entries.length - 1 :=
          List.length_eraseIdx_of_lt hlt
        rw [if_pos rfl, ih (by omega) (by omega), htake, hdrop,
          List.filter_cons_of_neg (by simp [hp])]
      | false =>
        rw [if_neg Bool.false_ne_true, ih (by omega) (by omega),
          List.take_succ_eq_append_getElem hlt, List.filter_cons_of_pos (by simp [hp]),
          List.append_assoc, List.singleton_append]

/-- From the beginning of the map, the loop does what `std::erase_if` does. -/
theorem eraseLoop_zero {p : κ × ν → Bool} {rounds : ℕ} {m : OrderedMap κ ν}
    (hrounds : m.entries.length < rounds) : eraseLoop p rounds 0 m = some (m.eraseIf p) := by
  have hentries := eraseLoop_eq (p := p) (Nat.zero_le m.entries.length) hrounds
  obtain ⟨m', hm', heq⟩ := Option.map_eq_some_iff.mp hentries
  rw [hm']
  exact congrArg some (OrderedMap.ext heq)

lemma mem_eraseIf {p : κ × ν → Bool} {m : OrderedMap κ ν} {e : κ × ν} :
    e ∈ (m.eraseIf p).entries ↔ e ∈ m.entries ∧ p e = false := by
  rw [eraseIf, List.mem_filter, Bool.not_eq_true']

/-! ## Visiting the values -/

/-- Replacing the values, keys unchanged. -/
def mapValues (g : ν → ν) (m : OrderedMap κ ν) : OrderedMap κ ν where
  entries := m.entries.map fun e => (e.1, g e.2)
  sorted := by
    rw [List.map_map]
    exact m.sorted

omit [LinearOrder κ] in
/-- The entries after a visit of their values, one after the other. -/
def visitValues (f : ν → Option ν) : List (κ × ν) → Option (List (κ × ν))
  | [] => some []
  | e :: es => (f e.2).bind fun v => (visitValues f es).map ((e.1, v) :: ·)

omit [LinearOrder κ] in
lemma map_fst_visitValues {f : ν → Option ν} {es es' : List (κ × ν)}
    (h : visitValues f es = some es') : es'.map Prod.fst = es.map Prod.fst := by
  induction es generalizing es' with
  | nil =>
    cases h
    rfl
  | cons e es ih =>
    obtain ⟨v, -, h⟩ := Option.bind_eq_some_iff.mp h
    obtain ⟨rest, hrest, rfl⟩ := Option.map_eq_some_iff.mp h
    rw [List.map_cons, List.map_cons, ih hrest]

omit [LinearOrder κ] in
lemma visitValues_eq {f : ν → Option ν} {g : ν → ν} {es : List (κ × ν)}
    (h : ∀ e ∈ es, f e.2 = some (g e.2)) :
    visitValues f es = some (es.map fun e => (e.1, g e.2)) := by
  induction es with
  | nil => rfl
  | cons e es ih =>
    rw [visitValues, h e List.mem_cons_self, Option.bind_some,
      ih fun d hd => h d (List.mem_cons_of_mem e hd)]
    rfl

/-- `for (auto& it : map)` with a change of `it.second` that may fail. -/
def forValues (f : ν → Option ν) (m : OrderedMap κ ν) : Option (OrderedMap κ ν) :=
  match h : visitValues f m.entries with
  | none => none
  | some es => some ⟨es, by rw [map_fst_visitValues h]; exact m.sorted⟩

/-- When no visit fails, the values are replaced. -/
theorem forValues_eq {f : ν → Option ν} {g : ν → ν} {m : OrderedMap κ ν}
    (h : ∀ e ∈ m.entries, f e.2 = some (g e.2)) : m.forValues f = some (m.mapValues g) := by
  have hvisit := visitValues_eq h
  unfold forValues
  split
  · rename_i hnone
    rw [hvisit] at hnone
    cases hnone
  · rename_i es hes
    rw [hvisit] at hes
    cases hes
    rfl

lemma mem_mapValues {g : ν → ν} {m : OrderedMap κ ν} {e : κ × ν} :
    e ∈ (m.mapValues g).entries ↔ ∃ v, (e.1, v) ∈ m.entries ∧ g v = e.2 := by
  rw [mapValues, List.mem_map]
  constructor
  · rintro ⟨⟨k, v⟩, hmem, rfl⟩
    exact ⟨v, hmem, rfl⟩
  · rintro ⟨v, hmem, hv⟩
    exact ⟨(e.1, v), hmem, Prod.ext rfl hv⟩

/-! ## Looking up and assigning -/

/-- The keys of two different entries differ. -/
lemma eq_of_mem_of_fst_eq {m : OrderedMap κ ν} {a b : κ × ν} (ha : a ∈ m.entries)
    (hb : b ∈ m.entries) (hkey : a.1 = b.1) : a = b := by
  have hnodup : (m.entries.map Prod.fst).Nodup := m.sorted.imp ne_of_lt
  exact List.inj_on_of_nodup_map hnodup ha hb hkey

/-- The value stored under a key. -/
def find (m : OrderedMap κ ν) (k : κ) : Option ν :=
  (m.entries.find? fun e => decide (e.1 = k)).map Prod.snd

lemma find_eq_some_iff {m : OrderedMap κ ν} {k : κ} {v : ν} :
    m.find k = some v ↔ (k, v) ∈ m.entries := by
  unfold find
  constructor
  · intro h
    obtain ⟨e, he, rfl⟩ := Option.map_eq_some_iff.mp h
    have hkey : e.1 = k :=
      of_decide_eq_true (List.find?_some (p := fun e : κ × ν => decide (e.1 = k)) he)
    rw [← hkey]
    exact List.mem_of_find?_eq_some he
  · intro h
    have hfound : (m.entries.find? fun e => decide (e.1 = k)).isSome :=
      List.find?_isSome.mpr ⟨(k, v), h, decide_eq_true rfl⟩
    obtain ⟨e, he⟩ := Option.isSome_iff_exists.mp hfound
    have hkey : e.1 = k :=
      of_decide_eq_true (List.find?_some (p := fun e : κ × ν => decide (e.1 = k)) he)
    rw [he, eq_of_mem_of_fst_eq (List.mem_of_find?_eq_some he) h hkey]
    rfl

/-- `map[k] = v`: the entries with smaller keys, the assigned one, and those with greater keys. -/
def set (m : OrderedMap κ ν) (k : κ) (v : ν) : OrderedMap κ ν where
  entries := m.entries.filter (fun e => decide (e.1 < k)) ++
    (k, v) :: m.entries.filter fun e => decide (k < e.1)
  sorted := by
    rw [List.map_append, List.map_cons, List.pairwise_append, List.pairwise_cons]
    have hbelow : ∀ a ∈ (m.entries.filter fun e => decide (e.1 < k)).map Prod.fst, a < k := by
      intro a ha
      obtain ⟨e, he, rfl⟩ := List.mem_map.mp ha
      exact of_decide_eq_true (List.mem_filter.mp he).2
    have habove : ∀ b ∈ (m.entries.filter fun e => decide (k < e.1)).map Prod.fst, k < b := by
      intro b hb
      obtain ⟨e, he, rfl⟩ := List.mem_map.mp hb
      exact of_decide_eq_true (List.mem_filter.mp he).2
    refine ⟨m.sorted.sublist (List.filter_sublist.map Prod.fst),
      ⟨habove, m.sorted.sublist (List.filter_sublist.map Prod.fst)⟩, fun a ha b hb => ?_⟩
    rcases List.mem_cons.mp hb with rfl | hb
    · exact hbelow a ha
    · exact lt_trans (hbelow a ha) (habove b hb)

lemma mem_set {m : OrderedMap κ ν} {k : κ} {v : ν} {e : κ × ν} :
    e ∈ (m.set k v).entries ↔ e = (k, v) ∨ e ∈ m.entries ∧ e.1 ≠ k := by
  change e ∈ m.entries.filter _ ++ (k, v) :: m.entries.filter _ ↔ _
  rw [List.mem_append, List.mem_cons, List.mem_filter, List.mem_filter, decide_eq_true_eq,
    decide_eq_true_eq, ne_iff_lt_or_gt]
  constructor
  · rintro (⟨hmem, hlt⟩ | rfl | ⟨hmem, hgt⟩)
    · exact Or.inr ⟨hmem, Or.inl hlt⟩
    · exact Or.inl rfl
    · exact Or.inr ⟨hmem, Or.inr hgt⟩
  · rintro (rfl | ⟨hmem, hlt | hgt⟩)
    · exact Or.inr (Or.inl rfl)
    · exact Or.inl ⟨hmem, hlt⟩
    · exact Or.inr (Or.inr ⟨hmem, hgt⟩)

/-- An assignment changes what is found under its key, and nothing else. -/
theorem find_set (m : OrderedMap κ ν) (k : κ) (v : ν) (j : κ) :
    (m.set k v).find j = if j = k then some v else m.find j := by
  by_cases h : j = k
  · rw [if_pos h, find_eq_some_iff, mem_set, h]
    exact Or.inl rfl
  · rw [if_neg h]
    ext w
    rw [find_eq_some_iff, find_eq_some_iff, mem_set]
    constructor
    · rintro (heq | ⟨hmem, -⟩)
      · exact absurd (congrArg Prod.fst heq) h
      · exact hmem
    · intro hmem
      exact Or.inr ⟨hmem, h⟩

/-- Erasing an entry changes what is found under its key, and nothing else. -/
theorem find_eraseIf_key (m : OrderedMap κ ν) (k j : κ) :
    (m.eraseIf fun e => decide (e.1 = k)).find j = if j = k then none else m.find j := by
  ext v
  rw [find_eq_some_iff, mem_eraseIf, decide_eq_false_iff_not]
  by_cases h : j = k
  · rw [if_pos h]
    exact iff_of_false (fun hmem => hmem.2 h) (Option.some_ne_none v ∘ Eq.symm)
  · rw [if_neg h, find_eq_some_iff]
    exact and_iff_left h

/-- A key behind all others is assigned to at the end. -/
lemma entries_set_of_forall_lt {m : OrderedMap κ ν} {k : κ} (h : ∀ e ∈ m.entries, e.1 < k) (v : ν) :
    (m.set k v).entries = m.entries ++ [(k, v)] := by
  have hbelow : (m.entries.filter fun e => decide (e.1 < k)) = m.entries :=
    List.filter_eq_self.mpr fun e he => decide_eq_true (h e he)
  have habove : (m.entries.filter fun e => decide (k < e.1)) = [] :=
    List.filter_eq_nil_iff.mpr fun e he hlt => lt_asymm (h e he) (of_decide_eq_true hlt)
  change m.entries.filter _ ++ (k, v) :: m.entries.filter _ = _
  rw [hbelow, habove]

/-! ## Events on one key -/

/-- When every event only changes what is found under its own key, what is found under a key
depends on the events with that key alone. -/
theorem find_foldl {ε : Type*} {step : OrderedMap κ ν → ε → OrderedMap κ ν} {key : ε → κ}
    (act : Option ν → ε → Option ν)
    (hstep : ∀ m e k, (step m e).find k = if k = key e then act (m.find k) e else m.find k)
    (m : OrderedMap κ ν) (es : List ε) (k : κ) :
    (es.foldl step m).find k = (es.filter fun e => decide (k = key e)).foldl act (m.find k) := by
  induction es generalizing m with
  | nil => rfl
  | cons e es ih =>
    rw [List.foldl_cons, ih, hstep, List.filter_cons]
    by_cases h : k = key e
    · rw [if_pos h, if_pos (decide_eq_true h), List.foldl_cons]
    · rw [if_neg h, if_neg fun hdec => h (of_decide_eq_true hdec)]

end OrderedMap
