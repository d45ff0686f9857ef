import Mathlib.Data.Finset.Card
import Mathlib.Data.List.Basic

/-!
# Presses and releases

Logs of keys that go down, stay down and come up.  `HeldAfter k log` says that `k` is down after the
log, `WellFormed log` that nothing is held or released that is not down, `ReleasesMatched log` that
every release can be given a press of its own among the earlier ones, and `PressesReleased log` that
every press is followed by a release.

The second half is about a gate that lets some events of a stream pass and swallows the others,
possibly giving several keys one label on the way.  A gate is `Consistent` when it lets a release
pass exactly if it has let a press of that key pass since the key's previous release.  What passes a
consistent gate has its releases matched, and its presses released when those of the stream are.
-/

namespace PressRelease

/-- What happens to a key. -/
inductive Phase
  | press
  | hold
  | release
  deriving DecidableEq, Repr

variable {κ : Type*}

/-! ## Logs -/

/-- The key was pressed and has not been released since. -/
def HeldAfter (k : κ) (log : List (κ × Phase)) : Prop :=
  ∃ pre post, log = pre ++ (k, .press) :: post ∧ (k, .release) ∉ post

/-- Whatever is held or released has been pressed, with no release in between. -/
def WellFormed (log : List (κ × Phase)) : Prop :=
  ∀ pre e post, log = pre ++ e :: post → e.2 ≠ .press → HeldAfter e.1 pre

/-- Each release finds more presses than releases of its key before it. -/
def ReleasesMatched [DecidableEq κ] (log : List (κ × Phase)) : Prop :=
  ∀ pre k post, log = pre ++ (k, .release) :: post →
    pre.count (k, .release) < pre.count (k, .press)

/-- Each press is followed by a release of its key. -/
def PressesReleased (log : List (κ × Phase)) : Prop :=
  ∀ pre k post, log = pre ++ (k, .press) :: post → (k, .release) ∈ post

lemma not_heldAfter_nil (k : κ) : ¬ HeldAfter k [] := by
  rintro ⟨pre, post, h, -⟩
  exact absurd h.symm (by simp)

/-- A split of a log with one more event either splits off that event or is a split of the log. -/
lemma concat_eq_append_cons {α : Type*} {l pre post : List α} {a b : α}
    (h : l ++ [a] = pre ++ b :: post) :
    (pre = l ∧ b = a ∧ post = []) ∨ ∃ post', post = post' ++ [a] ∧ l = pre ++ b :: post' := by
  rcases List.append_eq_append_iff.mp h with ⟨mid, rfl, hmid⟩ | ⟨mid, rfl, hmid⟩
  · obtain ⟨rfl, hb⟩ | ⟨mid', -, hnil⟩ := List.cons_eq_append_iff.mp hmid
    · obtain ⟨rfl, rfl⟩ := List.cons.inj hb
      exact Or.inl ⟨List.append_nil l, rfl, rfl⟩
    · exact absurd hnil.symm (by simp)
  · obtain ⟨rfl, hb⟩ | ⟨mid', rfl, rfl⟩ := List.cons_eq_append_iff.mp hmid
    · obtain ⟨rfl, rfl⟩ := List.cons.inj hb
      exact Or.inl ⟨(List.append_nil pre).symm, rfl, rfl⟩
    · exact Or.inr ⟨mid', rfl, rfl⟩

/-- The two splits of a log of two events. -/
lemma pair_eq_append_cons {α : Type*} {pre post : List α} {a b c : α}
    (h : [a, b] = pre ++ c :: post) :
    (pre = [] ∧ c = a ∧ post = [b]) ∨ (pre = [a] ∧ c = b ∧ post = []) := by
  rcases concat_eq_append_cons (show [a] ++ [b] = pre ++ c :: post from h) with
    ⟨rfl, rfl, rfl⟩ | ⟨post', rfl, hsplit⟩
  · exact Or.inr ⟨rfl, rfl, rfl⟩
  · rcases concat_eq_append_cons (show [] ++ [a] = pre ++ c :: post' from hsplit) with
      ⟨rfl, rfl, rfl⟩ | ⟨post'', -, hnil⟩
    · exact Or.inl ⟨rfl, rfl, rfl⟩
    · exact absurd hnil.symm (by simp)

/-- Some element has a property: then a first one has it. -/
lemma exists_first {α : Type*} {P : α → Prop} {l : List α} (h : ∃ a ∈ l, P a) :
    ∃ pre a post, l = pre ++ a :: post ∧ P a ∧ ∀ b ∈ pre, ¬ P b := by
  induction l with
  | nil =>
    obtain ⟨a, ha, -⟩ := h
    exact absurd ha List.not_mem_nil
  | cons b l ih =>
    by_cases hb : P b
    · exact ⟨[], b, l, rfl, hb, fun c hc => absurd hc List.not_mem_nil⟩
    · obtain ⟨a, ha, hPa⟩ := h
      rcases List.mem_cons.mp ha with rfl | ha
      · exact absurd hPa hb
      · obtain ⟨pre, c, post, rfl, hc, hpre⟩ := ih ⟨a, ha, hPa⟩
        refine ⟨b :: pre, c, post, rfl, hc, ?_⟩
        exact List.forall_mem_cons.mpr ⟨hb, hpre⟩

/-- A key is down after one more event if that event presses it, or if it was down and the event
does not release it. -/
theorem heldAfter_concat {k : κ} {log : List (κ × Phase)} {e : κ × Phase} :
    HeldAfter k (log ++ [e]) ↔ e = (k, .press) ∨ HeldAfter k log ∧ e ≠ (k, .release) := by
  constructor
  · rintro ⟨pre, post, h, hpost⟩
    rcases concat_eq_append_cons h with ⟨-, he, -⟩ | ⟨post', rfl, hlog⟩
    · exact Or.inl he.symm
    · rw [List.mem_append, List.mem_singleton, not_or] at hpost
      exact Or.inr ⟨⟨pre, post', hlog, hpost.1⟩, Ne.symm hpost.2⟩
  · rintro (rfl | ⟨⟨pre, post, rfl, hpost⟩, he⟩)
    · exact ⟨log, [], rfl, List.not_mem_nil⟩
    · refine ⟨pre, post ++ [e], by simp, ?_⟩
      rw [List.mem_append, List.mem_singleton, not_or]
      exact ⟨hpost, he.symm⟩

/-- An event of another key does not matter to a key. -/
lemma heldAfter_concat_of_ne {k : κ} {log : List (κ × Phase)} {e : κ × Phase} (h : e.1 ≠ k) :
    HeldAfter k (log ++ [e]) ↔ HeldAfter k log := by
  rw [heldAfter_concat]
  constructor
  · rintro (rfl | ⟨hheld, -⟩)
    · exact absurd rfl h
    · exact hheld
  · intro hheld
    exact Or.inr ⟨hheld, fun he => h (by rw [he])⟩

lemma wellFormed_nil : WellFormed ([] : List (κ × Phase)) := by
  intro pre e post h
  exact absurd h.symm (by simp)

/-- One more event keeps a log well formed when it is a press or its key is down. -/
theorem wellFormed_concat {log : List (κ × Phase)} {e : κ × Phase} :
    WellFormed (log ++ [e]) ↔ WellFormed log ∧ (e.2 ≠ .press → HeldAfter e.1 log) := by
  constructor
  · intro h
    constructor
    · intro pre d post hlog
      exact h pre d (post ++ [e]) (by simp [hlog])
    · exact h log e [] rfl
  · rintro ⟨hlog, he⟩ pre d post h
    rcases concat_eq_append_cons h with ⟨rfl, rfl, -⟩ | ⟨post', -, hsplit⟩
    · exact he
    · exact hlog pre d post' hsplit

/-! ## Gates -/

section Gate

variable {ε τ : Type*} (key : ε → κ) (isRelease passes : ε → Bool) (label : κ → τ)

/-- An event as the gate's own record of it: a press counts when it was let pass, a release always
ends what came before it. -/
def record (e : ε) : κ × Phase :=
  (key e, if isRelease e then .release else if passes e then .press else .hold)

/-- The event behind the gate, if there is one. -/
def passed (e : ε) : Option (τ × Phase) :=
  if passes e then some (label (key e), if isRelease e then .release else .press) else none

/-- The log behind the gate. -/
def behind (es : List ε) : List (τ × Phase) :=
  es.filterMap (passed key isRelease passes label)

/-- A release passes exactly if a press of its key has passed since the key's previous release. -/
def Consistent (es : List ε) : Prop :=
  ∀ pre e post, es = pre ++ e :: post → isRelease e = true →
    (passes e = true ↔ HeldAfter (key e) (pre.map (record key isRelease passes)))

variable {key isRelease passes label}

lemma Consistent.of_append {es fs : List ε} (h : Consistent key isRelease passes (es ++ fs)) :
    Consistent key isRelease passes es := by
  intro pre e post hes
  exact h pre e (post ++ fs) (by simp [hes])

lemma behind_concat_of_not_passes {e : ε} (es : List ε) (he : passes e = false) :
    behind key isRelease passes label (es ++ [e]) = behind key isRelease passes label es := by
  rw [behind, List.filterMap_append]
  simp [behind, passed, he]

lemma behind_concat_of_passes {e : ε} (es : List ε) (he : passes e = true) :
    behind key isRelease passes label (es ++ [e]) = behind key isRelease passes label es ++
      [(label (key e), if isRelease e then .release else .press)] := by
  rw [behind, List.filterMap_append]
  simp [behind, passed, he]

lemma record_of_release {e : ε} (hrel : isRelease e = true) :
    record key isRelease passes e = (key e, .release) := by
  rw [record, if_pos hrel]

lemma record_of_press {e : ε} (hrel : isRelease e = false) (hpass : passes e = true) :
    record key isRelease passes e = (key e, .press) := by
  rw [record, if_neg (Bool.eq_false_iff.mp hrel), if_pos hpass]

/-- An event that does not pass puts no key down. -/
lemma heldAfter_of_record_of_not_passes {e : ε} {k : κ} {log : List (κ × Phase)}
    (hpass : passes e = false) (h : HeldAfter k (log ++ [record key isRelease passes e])) :
    HeldAfter k log := by
  rcases heldAfter_concat.mp h with hpress | ⟨hbefore, -⟩
  · have hphase : (record key isRelease passes e).2 = .press := by rw [hpress]
    unfold record at hphase
    rw [if_neg (Bool.eq_false_iff.mp hpass)] at hphase
    split at hphase <;> cases hphase
  · exact hbefore

lemma count_concat {α : Type*} [BEq α] (l : List α) (a b : α) :
    (l ++ [b]).count a = l.count a + if b == a then 1 else 0 := by
  rw [List.count_append, List.count_singleton]

lemma record_eq_release {e : ε} {k : κ}
    (h : record key isRelease passes e = (k, .release)) : key e = k ∧ isRelease e = true := by
  obtain ⟨hkey, hphase⟩ := Prod.mk.inj h
  refine ⟨hkey, ?_⟩
  by_contra hrel
  rw [if_neg hrel] at hphase
  split at hphase <;> cases hphase

lemma record_eq_press {e : ε} {k : κ} (h : record key isRelease passes e = (k, .press)) :
    key e = k ∧ isRelease e = false ∧ passes e = true := by
  obtain ⟨hkey, hphase⟩ := Prod.mk.inj h
  split at hphase
  · cases hphase
  · rename_i hrel
    split at hphase
    · rename_i hpass
      exact ⟨hkey, Bool.eq_false_iff.mpr hrel, hpass⟩
    · cases hphase

/-- In a gate's record a key is down when a press of it has passed and no release of it came
since. -/
theorem heldAfter_record_iff {es : List ε} {k : κ} :
    HeldAfter k (es.map (record key isRelease passes)) ↔
      ∃ pre p post, es = pre ++ p :: post ∧ key p = k ∧ isRelease p = false ∧ passes p = true ∧
        ∀ r ∈ post, key r = k → isRelease r = false := by
  constructor
  · rintro ⟨pre, post, h, hpost⟩
    obtain ⟨es₁, rest, rfl, rfl, hrest⟩ := List.map_eq_append_iff.mp h
    obtain ⟨p, es₂, rfl, hp, rfl⟩ := List.map_eq_cons_iff.mp hrest
    obtain ⟨hkey, hrel, hpass⟩ := record_eq_press hp
    refine ⟨es₁, p, es₂, rfl, hkey, hrel, hpass, fun r hr hk => ?_⟩
    by_contra hrrel
    apply hpost
    refine List.mem_map.mpr ⟨r, hr, ?_⟩
    rw [record_of_release (Bool.eq_true_of_not_eq_false hrrel), hk]
  · rintro ⟨pre, p, post, rfl, rfl, hrel, hpass, hpost⟩
    refine ⟨pre.map (record key isRelease passes), post.map (record key isRelease passes), ?_, ?_⟩
    · rw [List.map_append, List.map_cons, record_of_press hrel hpass]
    · intro hmem
      obtain ⟨r, hr, hrecord⟩ := List.mem_map.mp hmem
      obtain ⟨hk, hrrel⟩ := record_eq_release hrecord
      rw [hpost r hr hk] at hrrel
      cases hrrel

lemma passed_eq_some {e : ε} {t : τ} {phase : Phase}
    (h : passed key isRelease passes label e = some (t, phase)) :
    passes e = true ∧ label (key e) = t ∧
      phase = if isRelease e then .release else .press := by
  obtain ⟨hpass, heq⟩ := Option.ite_some_none_eq_some.mp h
  obtain ⟨hlabel, hphase⟩ := Prod.mk.inj heq
  exact ⟨hpass, hlabel, hphase.symm⟩

/-- A split of the log behind a gate comes from a split of the stream. -/
lemma behind_eq_append_cons {es : List ε} {pre post : List (τ × Phase)} {a : τ × Phase}
    (h : behind key isRelease passes label es = pre ++ a :: post) :
    ∃ es₁ e es₂, es = es₁ ++ e :: es₂ ∧ behind key isRelease passes label es₁ = pre ∧
      passed key isRelease passes label e = some a ∧
      behind key isRelease passes label es₂ = post := by
  obtain ⟨es₁, rest, rfl, hpre, hrest⟩ := List.filterMap_eq_append_iff.mp h
  obtain ⟨skipped, e, es₂, rfl, hskipped, he, hpost⟩ := List.filterMap_eq_cons_iff.mp hrest
  refine ⟨es₁ ++ skipped, e, es₂, by simp, ?_, he, hpost⟩
  rw [behind, List.filterMap_append, hpre, List.filterMap_eq_nil_iff.mpr hskipped,
    List.append_nil]

/-- Behind a consistent gate every press is released, when every press of the stream is. -/
theorem Consistent.pressesReleased {es : List ε} (h : Consistent key isRelease passes es)
    (hes : ∀ pre e post, es = pre ++ e :: post → isRelease e = false →
      ∃ r ∈ post, key r = key e ∧ isRelease r = true) :
    PressesReleased (behind key isRelease passes label es) := by
  intro pre t post hsplit
  obtain ⟨es₁, e, es₂, rfl, rfl, he, rfl⟩ := behind_eq_append_cons hsplit
  obtain ⟨hpass, rfl, hphase⟩ := passed_eq_some he
  have hrel : isRelease e = false := by
    by_contra hrel
    rw [if_pos (Bool.eq_true_of_not_eq_false hrel)] at hphase
    cases hphase
  -- the first release of the key after the press decides
  obtain ⟨mid, r, rest, rfl, ⟨hkey, hrrel⟩, hmid⟩ := exists_first (hes es₁ e es₂ rfl hrel)
  have hheld : HeldAfter (key e) ((es₁ ++ e :: mid).map (record key isRelease passes)) := by
    refine heldAfter_record_iff.mpr ⟨es₁, e, mid, rfl, rfl, hrel, hpass, fun a ha hk => ?_⟩
    by_contra harel
    exact hmid a ha ⟨hk, Bool.eq_true_of_not_eq_false harel⟩
  rw [← hkey] at hheld
  have hrpass : passes r = true :=
    (h (es₁ ++ e :: mid) r rest (by simp) hrrel).mpr hheld
  rw [behind, List.mem_filterMap]
  refine ⟨r, by simp, ?_⟩
  rw [passed, if_pos hrpass, if_pos hrrel, hkey]

/-- Keys of one label that are all down in the gate's record. -/
def DownIn (key : ε → κ) (isRelease passes : ε → Bool) (label : κ → τ) (t : τ) (S : Finset κ)
    (es : List ε) : Prop :=
  ∀ k ∈ S, label k = t ∧ HeldAfter k (es.map (record key isRelease passes))

lemma DownIn.eq_empty {t : τ} {S : Finset κ} (h : DownIn key isRelease passes label t S []) :
    S = ∅ :=
  Finset.eq_empty_of_forall_notMem fun k hk => not_heldAfter_nil k (h k hk).2

/-- What is down after an event that does not pass was down before it. -/
lemma DownIn.of_not_passes {t : τ} {S : Finset κ} {es : List ε} {e : ε}
    (h : DownIn key isRelease passes label t S (es ++ [e])) (hpass : passes e = false) :
    DownIn key isRelease passes label t S es := by
  intro k hk
  have hheld := (h k hk).2
  rw [List.map_append, List.map_singleton] at hheld
  exact ⟨(h k hk).1, heldAfter_of_record_of_not_passes hpass hheld⟩

/-- What is down after a release does not contain its key, and was down before it. -/
lemma DownIn.of_release {t : τ} {S : Finset κ} {es : List ε} {e : ε}
    (h : DownIn key isRelease passes label t S (es ++ [e])) (hrel : isRelease e = true) :
    key e ∉ S ∧ DownIn key isRelease passes label t S es := by
  unfold DownIn at h
  rw [List.map_append, List.map_singleton, record_of_release hrel] at h
  have hmem : key e ∉ S := by
    intro hmem
    rcases heldAfter_concat.mp (h _ hmem).2 with hpress | ⟨-, hne⟩
    · cases hpress
    · exact hne rfl
  refine ⟨hmem, fun k hk => ?_⟩
  have hne : key e ≠ k := fun heq => hmem (heq ▸ hk)
  exact ⟨(h k hk).1, (heldAfter_concat_of_ne hne).mp (h k hk).2⟩

variable [DecidableEq κ]

/-- What is down after a press that passes was down before it, but for the pressed key. -/
lemma DownIn.erase_of_press {t : τ} {S : Finset κ} {es : List ε} {e : ε}
    (h : DownIn key isRelease passes label t S (es ++ [e])) (hrel : isRelease e = false)
    (hpass : passes e = true) : DownIn key isRelease passes label t (S.erase (key e)) es := by
  unfold DownIn at h
  rw [List.map_append, List.map_singleton, record_of_press hrel hpass] at h
  intro k hk
  obtain ⟨hne, hk⟩ := Finset.mem_erase.mp hk
  exact ⟨(h k hk).1, (heldAfter_concat_of_ne hne.symm).mp (h k hk).2⟩

variable [DecidableEq τ]

/-- **The gate's balance.**  Keys of one label that are down all have an unreleased press of their
own behind a consistent gate. -/
theorem Consistent.card_add_count_le {es : List ε} (h : Consistent key isRelease passes es)
    {t : τ} {S : Finset κ} (hS : DownIn key isRelease passes label t S es) :
    S.card + (behind key isRelease passes label es).count (t, .release) ≤
      (behind key isRelease passes label es).count (t, .press) := by
  induction es using List.reverseRecOn generalizing S with
  | nil =>
    rw [hS.eq_empty]
    exact Nat.le_refl 0
  | append_singleton es e ih =>
    have hes := h.of_append
    cases hpass : passes e with
    | false =>
      rw [behind_concat_of_not_passes es hpass]
      exact ih hes (hS.of_not_passes hpass)
    | true =>
      rw [behind_concat_of_passes es hpass, count_concat, count_concat]
      cases hrel : isRelease e with
      | false =>
        -- a press adds one to the presses, and its key to what may be down
        have hbefore := ih hes (hS.erase_of_press hrel hpass)
        by_cases hmem : key e ∈ S
        · rw [Finset.card_erase_of_mem hmem] at hbefore
          simp [(hS _ hmem).1]
          omega
        · rw [Finset.erase_eq_of_notMem hmem] at hbefore
          simp
          omega
      | true =>
        -- a release that passes ends a press: its key was down as well
        obtain ⟨hmem, hdown⟩ := hS.of_release hrel
        by_cases hlabel : label (key e) = t
        · have hheld := (h es e [] rfl hrel).mp hpass
          have hinsert : DownIn key isRelease passes label t (insert (key e) S) es := by
            intro k hk
            rcases Finset.mem_insert.mp hk with rfl | hk
            · exact ⟨hlabel, hheld⟩
            · exact hdown k hk
          have hbefore := ih hes hinsert
          rw [Finset.card_insert_of_notMem hmem] at hbefore
          simp [hlabel]
          omega
        · have hbefore := ih hes hdown
          simp [hlabel]
          omega

/-- Behind a consistent gate every release is matched. -/
theorem Consistent.releasesMatched {es : List ε} (h : Consistent key isRelease passes es) :
    ReleasesMatched (behind key isRelease passes label es) := by
  intro pre t post hsplit
  obtain ⟨es₁, e, es₂, rfl, rfl, he, -⟩ := behind_eq_append_cons hsplit
  obtain ⟨hpass, hlabel, hphase⟩ := passed_eq_some he
  have hrel : isRelease e = true := by
    by_contra hrel
    rw [if_neg hrel] at hphase
    cases hphase
  have hheld := (h es₁ e es₂ rfl hrel).mp hpass
  have hdown : DownIn key isRelease passes label t {key e} es₁ := by
    intro k hk
    rw [Finset.mem_singleton.mp hk]
    exact ⟨hlabel, hheld⟩
  have hcount := h.of_append.card_add_count_le hdown
  rw [Finset.card_singleton] at hcount
  omega

end Gate

end PressRelease
