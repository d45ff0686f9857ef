import Mathlib.Data.List.Basic
import Mathlib.Data.List.GetD
import Mathlib.Order.Nat
import Mathlib.Tactic.Common

/-!
# Rewriting a keyword to its normal form

A keyword occurs in a text wherever the text agrees with it up to `fold`, a function that forgets,
say, the case of letters.  `Keyword.rewriteFirst` brings the first occurrence into the normal form
`key`; `(chunks.map k.rewriteFirst).flatten` does this for every chunk of a text separately.

The first letter of a keyword occurs nowhere else in it, so occurrences do not overlap, and a text
that has been rewritten at some of its occurrences can be described place by place
(`Keyword.RewrittenAt`).  `Keyword.chunkwise_iff` compares the two ways to rewrite a text: they
agree and leave only normal forms, if and only if every occurrence that is not in normal form is the
first one and lies inside a chunk.
-/

/-- A keyword in its normal form, whose first letter occurs nowhere else in it. -/
structure Keyword (α β : Type*) where
  fold : α → β
  key : List α
  key_ne_nil : key ≠ []
  head_unique : ∀ d < key.length, 0 < d → key[d]?.map fold ≠ key[0]?.map fold

namespace Keyword

variable {α β : Type*} (k : Keyword α β)

/-- The keyword occurs at a place, in some form. -/
def OccursAt (text : List α) (i : ℕ) : Prop :=
  ∀ d < k.key.length, text[i + d]?.map k.fold = k.key[d]?.map k.fold

/-- The keyword occurs at a place in its normal form. -/
def ExactAt (text : List α) (i : ℕ) : Prop := ∀ d < k.key.length, text[i + d]? = k.key[d]?

/-- The first occurrence. -/
def IsFirst (text : List α) (i : ℕ) : Prop :=
  k.OccursAt text i ∧ ∀ j < i, ¬ k.OccursAt text j

instance [DecidableEq β] (text : List α) (i : ℕ) : Decidable (k.OccursAt text i) :=
  inferInstanceAs (Decidable (∀ d < k.key.length, _))

instance [DecidableEq α] (text : List α) (i : ℕ) : Decidable (k.ExactAt text i) :=
  inferInstanceAs (Decidable (∀ d < k.key.length, _))

/-- The place of the first occurrence, if there is one. -/
def firstOccurrence? [DecidableEq β] (text : List α) : Option ℕ :=
  (List.range text.length).find? fun i => k.OccursAt text i

/-- Put the normal form in the place of the first occurrence. -/
def rewriteFirst [DecidableEq β] (text : List α) : List α :=
  match k.firstOccurrence? text with
  | none => text
  | some pos => text.take pos ++ k.key ++ text.drop (pos + k.key.length)

/-- The first occurrences of the chunks, as places in the whole text. -/
def FirstInChunk : List (List α) → ℕ → Prop
  | [], _ => False
  | c :: cs, i => k.IsFirst c i ∨ ∃ j, FirstInChunk cs j ∧ i = c.length + j

/-- A place from which the length of the keyword fits into a chunk. -/
def InsideChunk : List (List α) → ℕ → Prop
  | [], _ => False
  | c :: cs, i => i + k.key.length ≤ c.length ∨ ∃ j, InsideChunk cs j ∧ i = c.length + j

/-- `A` is `text` with the normal form at the places in `S`. -/
structure RewrittenAt (S : ℕ → Prop) (text A : List α) : Prop where
  length_eq : A.length = text.length
  exactAt : ∀ i, S i → k.ExactAt A i
  off : ∀ j, (∀ i, S i → ¬ (i ≤ j ∧ j < i + k.key.length)) → A[j]? = text[j]?

/-- `A` is `text`, but for the form of the keyword at the places in `D`. -/
structure ChangedOnlyAt (D : ℕ → Prop) (text A : List α) : Prop where
  length_eq : A.length = text.length
  fold_eq : ∀ j : ℕ, A[j]?.map k.fold = text[j]?.map k.fold
  off : ∀ j, (∀ i, D i → ¬ (i ≤ j ∧ j < i + k.key.length)) → A[j]? = text[j]?

variable {k} {text A B : List α} {S T : ℕ → Prop} {i j : ℕ}

lemma key_length_pos : 0 < k.key.length := List.length_pos_iff.mpr k.key_ne_nil

/-! ## Occurrences -/

lemma ExactAt.occursAt (h : k.ExactAt text i) : k.OccursAt text i :=
  fun d hd => congrArg (Option.map k.fold) (h d hd)

/-- An occurrence lies in the text. -/
lemma OccursAt.add_length_le (h : k.OccursAt text i) : i + k.key.length ≤ text.length := by
  have hpos : 0 < k.key.length := key_length_pos
  have hlast := h (k.key.length - 1) (by omega)
  by_contra hout
  rw [List.getElem?_eq_none (by omega), List.getElem?_eq_getElem (by omega)] at hlast
  cases hlast

/-- Occurrences do not overlap. -/
lemma OccursAt.eq_of_overlap (hi : k.OccursAt text i) (hj : k.OccursAt text j) (hle : i ≤ j)
    (hlt : j < i + k.key.length) : i = j := by
  by_contra hne
  refine k.head_unique (j - i) (by omega) (by omega) ?_
  rw [← hi (j - i) (by omega), ← hj 0 key_length_pos, Nat.add_sub_cancel' hle, Nat.add_zero]

/-- A place is covered by one occurrence at most. -/
lemma OccursAt.eq_of_covered {n : ℕ} (hi : k.OccursAt text i) (hj : k.OccursAt text j)
    (hni : i ≤ n ∧ n < i + k.key.length) (hnj : j ≤ n ∧ n < j + k.key.length) : i = j := by
  rcases le_total i j with hle | hle
  · exact hi.eq_of_overlap hj hle (by omega)
  · exact (hj.eq_of_overlap hi hle (by omega)).symm

/-- An occurrence as a part of the text that agrees with the keyword. -/
lemma occursAt_iff_map_eq :
    k.OccursAt text i ↔ ((text.drop i).take k.key.length).map k.fold = k.key.map k.fold := by
  constructor
  · intro h
    refine List.ext_getElem? fun d => ?_
    rw [List.getElem?_map, List.getElem?_map, List.getElem?_take]
    split_ifs with hd
    · rw [List.getElem?_drop, h d hd]
    · rw [List.getElem?_eq_none (not_lt.mp hd)]
  · intro h d hd
    have hget := congrArg (fun l => l[d]?) h
    simpa only [List.getElem?_map, List.getElem?_take_of_lt hd, List.getElem?_drop] using hget

/-- Occurrences in the first part of a text. -/
lemma occursAt_append_left {a b : List α} (h : i + k.key.length ≤ a.length) :
    k.OccursAt (a ++ b) i ↔ k.OccursAt a i := by
  refine forall₂_congr fun d hd => ?_
  rw [List.getElem?_append_left (by omega)]

/-- Occurrences in the second part of a text. -/
lemma occursAt_append_right {a b : List α} :
    k.OccursAt (a ++ b) (a.length + i) ↔ k.OccursAt b i := by
  refine forall₂_congr fun d _ => ?_
  rw [List.getElem?_append_right (by omega)]
  congr! 3
  omega

/-! ## The first occurrence -/

section FirstOccurrence

variable [DecidableEq β]

lemma firstOccurrence?_eq_some_iff : k.firstOccurrence? text = some i ↔ k.IsFirst text i := by
  rw [firstOccurrence?, List.find?_range_eq_some, List.mem_range, decide_eq_true_iff, IsFirst]
  refine ⟨fun h => ⟨h.1, fun j hj => by simpa using h.2.2 j hj⟩, fun h => ⟨h.1, ?_, ?_⟩⟩
  · have hle := h.1.add_length_le
    have hpos : 0 < k.key.length := key_length_pos
    omega
  · exact fun j hj => by simpa using h.2 j hj

lemma firstOccurrence?_eq_none_iff :
    k.firstOccurrence? text = none ↔ ∀ i, ¬ k.OccursAt text i := by
  rw [firstOccurrence?, List.find?_eq_none]
  refine ⟨fun h i hi => h i ?_ (decide_eq_true hi), fun h i _ => by simpa using h i⟩
  have hle := hi.add_length_le
  have hpos : 0 < k.key.length := key_length_pos
  exact List.mem_range.mpr (by omega)

end FirstOccurrence

/-- There is one first occurrence. -/
lemma IsFirst.unique (hi : k.IsFirst text i) (hj : k.IsFirst text j) : i = j :=
  le_antisymm (not_lt.mp fun h => hi.2 j h hj.1) (not_lt.mp fun h => hj.2 i h hi.1)

/-! ## Rewriting -/

/-- Rewriting the first occurrence. -/
lemma rewrittenAt_rewriteFirst [DecidableEq β] (text : List α) :
    k.RewrittenAt (k.IsFirst text) text (k.rewriteFirst text) := by
  unfold rewriteFirst
  cases hfirst : k.firstOccurrence? text with
  | none =>
    have hnone := firstOccurrence?_eq_none_iff.mp hfirst
    exact ⟨rfl, fun i hi => absurd hi.1 (hnone i), fun _ _ => rfl⟩
  | some pos =>
    rw [firstOccurrence?_eq_some_iff] at hfirst
    have hle := hfirst.1.add_length_le
    have htake : (text.take pos).length = pos := by
      rw [List.length_take]
      omega
    have hhead : (text.take pos ++ k.key).length = pos + k.key.length := by
      rw [List.length_append, htake]
    dsimp only
    refine ⟨?_, fun i hi d hd => ?_, fun j hj => ?_⟩
    · rw [List.length_append, hhead, List.length_drop]
      omega
    · rw [hi.unique hfirst, List.getElem?_append_left (by omega),
        List.getElem?_append_right (by omega), htake, Nat.add_sub_cancel_left]
    · have hout := hj pos hfirst
      rcases lt_or_ge j pos with hlt | hge
      · rw [List.getElem?_append_left (by omega), List.getElem?_append_left (by omega),
          List.getElem?_take_of_lt hlt]
      · rw [List.getElem?_append_right (by omega), hhead, List.getElem?_drop]
        congr 1
        omega

/-- Two texts that have been rewritten, one behind the other. -/
lemma RewrittenAt.append {a b : List α} (ha : k.RewrittenAt S a A) (hb : k.RewrittenAt T b B)
    (hfits : ∀ i, S i → i + k.key.length ≤ a.length) :
    k.RewrittenAt (fun i => S i ∨ ∃ j, T j ∧ i = a.length + j) (a ++ b) (A ++ B) where
  length_eq := by rw [List.length_append, List.length_append, ha.length_eq, hb.length_eq]
  exactAt := by
    rintro i (hi | ⟨j, hj, rfl⟩) d hd
    · have hfit := hfits i hi
      rw [List.getElem?_append_left (by rw [ha.length_eq]; omega)]
      exact ha.exactAt i hi d hd
    · rw [List.getElem?_append_right (by rw [ha.length_eq]; omega), ← hb.exactAt j hj d hd,
        ha.length_eq]
      congr 1
      omega
  off := by
    intro n hn
    rcases lt_or_ge n a.length with hlt | hge
    · rw [List.getElem?_append_left (by rwa [ha.length_eq]), List.getElem?_append_left hlt]
      exact ha.off n fun i hi => hn i (Or.inl hi)
    · rw [List.getElem?_append_right (by rwa [ha.length_eq]), List.getElem?_append_right hge,
        ha.length_eq]
      refine hb.off _ fun j hj hcovered => hn (a.length + j) (Or.inr ⟨j, hj, rfl⟩) ?_
      omega

/-- Rewriting every chunk. -/
lemma rewrittenAt_flatten [DecidableEq β] (chunks : List (List α)) :
    k.RewrittenAt (k.FirstInChunk chunks) chunks.flatten
      (chunks.map k.rewriteFirst).flatten := by
  induction chunks with
  | nil => exact ⟨rfl, fun _ h => h.elim, fun _ _ => rfl⟩
  | cons c cs ih =>
    rw [List.map_cons, List.flatten_cons, List.flatten_cons]
    exact (rewrittenAt_rewriteFirst c).append ih fun i hi => hi.1.add_length_le

/-- **The form of an occurrence after the rewriting**: it is normal when it was, or when the text
was rewritten there. -/
lemma RewrittenAt.exactAt_iff (h : k.RewrittenAt S text A) (hS : ∀ i, S i → k.OccursAt text i)
    (hi : k.OccursAt text i) : k.ExactAt A i ↔ k.ExactAt text i ∨ S i := by
  by_cases hmem : S i
  · exact iff_of_true (h.exactAt i hmem) (Or.inr hmem)
  · rw [or_iff_left hmem]
    refine forall₂_congr fun d hd => ?_
    rw [h.off (i + d) fun j hj hcovered => ?_]
    have heq := (hS j hj).eq_of_covered hi hcovered ⟨by omega, by omega⟩
    exact hmem (heq ▸ hj)

/-- Rewriting changes the form of letters only. -/
lemma RewrittenAt.fold_eq (h : k.RewrittenAt S text A) (hS : ∀ i, S i → k.OccursAt text i)
    (n : ℕ) : A[n]?.map k.fold = text[n]?.map k.fold := by
  by_cases hcovered : ∃ i, S i ∧ i ≤ n ∧ n < i + k.key.length
  · obtain ⟨i, hi, hle, hlt⟩ := hcovered
    have hA := (h.exactAt i hi).occursAt (n - i) (by omega)
    have htext := hS i hi (n - i) (by omega)
    rw [Nat.add_sub_cancel' hle] at hA htext
    rw [hA, htext]
  · rw [h.off n fun i hi hn => hcovered ⟨i, hi, hn⟩]

/-- Rewriting does not change where the keyword occurs. -/
lemma RewrittenAt.occursAt_iff (h : k.RewrittenAt S text A) (hS : ∀ i, S i → k.OccursAt text i) :
    k.OccursAt A i ↔ k.OccursAt text i :=
  forall₂_congr fun d _ => by rw [h.fold_eq hS]

/-- **Where the rewriting may change a text.**  Let `D` be a set of occurrences.  Rewriting the
first occurrence changes the text at most at the occurrences in `D`, if and only if the first
occurrence is in `D` or in normal form already. -/
theorem changedOnlyAt_rewriteFirst_iff [DecidableEq β] {D : ℕ → Prop}
    (hD : ∀ i, D i → k.OccursAt text i) :
    k.ChangedOnlyAt D text (k.rewriteFirst text) ↔
      ∀ i, k.IsFirst text i → D i ∨ k.ExactAt text i := by
  have hrewritten := rewrittenAt_rewriteFirst (k := k) text
  have hfirst : ∀ i, k.IsFirst text i → k.OccursAt text i := fun _ h => h.1
  constructor
  · intro h i hi
    by_contra hneither
    rw [not_or] at hneither
    apply hneither.2
    intro d hd
    -- the place is covered by no occurrence of `D`, as it is covered by this one
    rw [← h.off (i + d), hrewritten.exactAt i hi d hd]
    intro j hj hcovered
    have heq := (hD j hj).eq_of_covered hi.1 hcovered ⟨by omega, by omega⟩
    exact hneither.1 (heq ▸ hj)
  · intro h
    refine ⟨hrewritten.length_eq, hrewritten.fold_eq hfirst, fun n hn => ?_⟩
    by_cases hcovered : ∃ i, k.IsFirst text i ∧ i ≤ n ∧ n < i + k.key.length
    · obtain ⟨i, hi, hle, hlt⟩ := hcovered
      have hexact := (h i hi).resolve_left fun hDi => hn i hDi ⟨hle, hlt⟩
      rw [← Nat.add_sub_cancel' hle, hrewritten.exactAt i hi (n - i) (by omega),
        hexact (n - i) (by omega)]
    · exact hrewritten.off n fun i hi hin => hcovered ⟨i, hi, hin⟩

/-- Two rewritten texts with normal forms wherever one of them was rewritten are the same. -/
lemma RewrittenAt.eq_of_exactAt (hA : k.RewrittenAt S text A) (hB : k.RewrittenAt T text B)
    (h : ∀ i, S i ∨ T i → k.ExactAt A i ∧ k.ExactAt B i) : A = B := by
  refine List.ext_getElem? fun n => ?_
  by_cases hcovered : ∃ i, (S i ∨ T i) ∧ i ≤ n ∧ n < i + k.key.length
  · obtain ⟨i, hi, hle, hlt⟩ := hcovered
    obtain ⟨hAi, hBi⟩ := h i hi
    rw [← Nat.add_sub_cancel' hle, hAi (n - i) (by omega), hBi (n - i) (by omega)]
  · rw [hA.off n fun i hi hn => hcovered ⟨i, Or.inl hi, hn⟩,
      hB.off n fun i hi hn => hcovered ⟨i, Or.inr hi, hn⟩]

/-! ## Chunks -/

/-- The first occurrence in a chunk is an occurrence in the text, inside this chunk. -/
lemma FirstInChunk.spec {chunks : List (List α)} (h : k.FirstInChunk chunks i) :
    k.OccursAt chunks.flatten i ∧ k.InsideChunk chunks i := by
  induction chunks generalizing i with
  | nil => exact h.elim
  | cons c cs ih =>
    rcases h with hfirst | ⟨j, hj, rfl⟩
    · have hle := hfirst.1.add_length_le
      exact ⟨(occursAt_append_left hle).mpr hfirst.1, Or.inl hle⟩
    · obtain ⟨hoccurs, hinside⟩ := ih hj
      exact ⟨occursAt_append_right.mpr hoccurs, Or.inr ⟨j, hinside, rfl⟩⟩

/-- The first occurrence in the text, when it is inside a chunk, is the first there. -/
lemma IsFirst.firstInChunk {chunks : List (List α)} (h : k.IsFirst chunks.flatten i)
    (hinside : k.InsideChunk chunks i) : k.FirstInChunk chunks i := by
  induction chunks generalizing i with
  | nil => exact hinside.elim
  | cons c cs ih =>
    rw [List.flatten_cons] at h
    rcases hinside with hle | ⟨j, hj, rfl⟩
    · refine Or.inl ⟨(occursAt_append_left hle).mp h.1, fun n hn hoccurs => h.2 n hn ?_⟩
      exact (occursAt_append_left (by omega)).mpr hoccurs
    · refine Or.inr ⟨j, ih ⟨occursAt_append_right.mp h.1, fun n hn hoccurs => ?_⟩ hj, rfl⟩
      exact h.2 (c.length + n) (by omega) (occursAt_append_right.mpr hoccurs)

/-- **Rewriting chunk by chunk.**  It gives the same text as rewriting the whole, with only normal
forms in it, if and only if every occurrence that is not in normal form is the first one of the text
and lies inside a chunk. -/
theorem chunkwise_iff [DecidableEq β] (chunks : List (List α)) :
    ((chunks.map k.rewriteFirst).flatten = k.rewriteFirst chunks.flatten ∧
      ∀ i, k.OccursAt (k.rewriteFirst chunks.flatten) i →
        k.ExactAt (k.rewriteFirst chunks.flatten) i) ↔
    ∀ i, k.OccursAt chunks.flatten i → k.ExactAt chunks.flatten i ∨
      k.IsFirst chunks.flatten i ∧ k.InsideChunk chunks i := by
  have hwhole := rewrittenAt_rewriteFirst (k := k) chunks.flatten
  have hparts := rewrittenAt_flatten (k := k) chunks
  have hfirst : ∀ i, k.IsFirst chunks.flatten i → k.OccursAt chunks.flatten i := fun _ h => h.1
  have hchunk : ∀ i, k.FirstInChunk chunks i → k.OccursAt chunks.flatten i := fun _ h => h.spec.1
  constructor
  · rintro ⟨heq, hexact⟩ i hi
    have hnormal := hexact i ((hwhole.occursAt_iff hfirst).mpr hi)
    rcases (hwhole.exactAt_iff hfirst hi).mp hnormal with h | hisFirst
    · exact Or.inl h
    · rw [← heq, hparts.exactAt_iff hchunk hi] at hnormal
      exact hnormal.imp_right fun h => ⟨hisFirst, h.spec.2⟩
  · intro hsafe
    have hnormal : ∀ i, k.OccursAt chunks.flatten i →
        k.ExactAt (chunks.map k.rewriteFirst).flatten i ∧
          k.ExactAt (k.rewriteFirst chunks.flatten) i := by
      intro i hi
      rw [hparts.exactAt_iff hchunk hi, hwhole.exactAt_iff hfirst hi]
      rcases hsafe i hi with h | ⟨h, hinside⟩
      · exact ⟨Or.inl h, Or.inl h⟩
      · exact ⟨Or.inr (h.firstInChunk hinside), Or.inr h⟩
    refine ⟨hparts.eq_of_exactAt hwhole fun i hi => hnormal i (hi.elim (hchunk i) (hfirst i)),
      fun i hi => (hnormal i ((hwhole.occursAt_iff hfirst).mp hi)).2⟩

end Keyword
