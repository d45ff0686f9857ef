import ChromiumQnx.Foundation.KeyedList
import ChromiumQnx.Foundation.Snprintf
import ChromiumQnx.Foundation.TransitionSystem
import Mathlib.Logic.Function.Basic

/-!
# Anonymous shared memory

`CreateAnonymousSharedMemory` makes a shared memory object under a name of its process and a
counter, and removes the name at once.  The counter is an ordinary static variable, so that two
threads can read the same value, and a process that dies between the two calls leaves its name
behind.

`sharedMemory_right` says that no two calls get the same object all the same, which names there are
at any time, and which calls are refused because their name is taken.
-/

namespace ChromiumQnx

open Snprintf TransitionSystem

namespace SharedMemory

/-! ## Calls -/

/-- How a call ended. -/
inductive Result
  | fd (obj : ℕ)
  | nameExists
  | openFailed
  | truncateFailed
  deriving DecidableEq, Repr

/-- Where a call is: before it reads the counter, between reading and writing it, before `shm_open`,
before `shm_unlink`, before `ftruncate`, or at its end. -/
inductive Phase
  | called
  | counted (count : Int32)
  | named (count : Int32)
  | opened (count : Int32) (obj : ℕ)
  | unlinked (obj : ℕ)
  | returned (result : Result)
  deriving DecidableEq, Repr

/-- A call of `CreateAnonymousSharedMemory`. -/
structure ShmCall where
  pid : Int32
  phase : Phase
  /-- Its process lives. -/
  alive : Bool
  deriving DecidableEq, Repr

/-- The name of an object, as it is in the buffer of 64 bytes. -/
def shmName (pid count : Int32) : List UInt8 :=
  (snprintf 64 [.literal "/chromium_shm_", .int pid, .literal "_", .int count]).2

/-- The name that a call has linked to its object. -/
def ShmCall.linked (c : ShmCall) : Option (List UInt8 × ℕ) :=
  match c.phase with
  | .opened count obj => some (shmName c.pid count, obj)
  | _ => none

/-- The object that a call has. -/
def ShmCall.object (c : ShmCall) : Option ℕ :=
  match c.phase with
  | .opened _ obj => some obj
  | .unlinked obj => some obj
  | .returned (.fd obj) => some obj
  | _ => none

/-- The names of shared memory objects, the counter of each process, and the calls. -/
structure State where
  names : List (List UInt8 × ℕ)
  counter : Int32 → Int32
  calls : List (ℕ × ShmCall)
  nextCall : ℕ
  nextObj : ℕ

/-- No call was made. -/
def start : State where
  names := []
  counter := fun _ => 0
  calls := []
  nextCall := 0
  nextObj := 0

/-- A call is in another phase. -/
def State.setPhase (s : State) (i : ℕ) (phase : Phase) : State :=
  { s with calls := KeyedList.modify i (fun c => { c with phase := phase }) s.calls }

/-- The call with a number. -/
def State.call? (s : State) (i : ℕ) : Option ShmCall :=
  (s.calls.find? fun e => decide (e.1 = i)).map Prod.snd

/-- The next step of a call, `ok` telling whether the system call of this step succeeds when it may.
With `O_EXCL`, `shm_open` fails when the name is there. -/
def advance (s : State) (i : ℕ) (c : ShmCall) (ok : Bool) : Option State :=
  match c.phase with
  | .called => some (s.setPhase i (.counted (s.counter c.pid)))
  | .counted count =>
    some ({ s with counter := Function.update s.counter c.pid (count + 1) }.setPhase i
      (.named count))
  | .named count =>
    if shmName c.pid count ∈ s.names.map Prod.fst then
      some (s.setPhase i (.returned .nameExists))
    else if ok then
      some ({ s with
        names := s.names ++ [(shmName c.pid count, s.nextObj)]
        nextObj := s.nextObj + 1 }.setPhase i (.opened count s.nextObj))
    else some (s.setPhase i (.returned .openFailed))
  | .opened count obj =>
    some ({ s with names := KeyedList.erase (shmName c.pid count) s.names }.setPhase i
      (.unlinked obj))
  | .unlinked obj => some (s.setPhase i (.returned (if ok then .fd obj else .truncateFailed)))
  | .returned _ => none

/-- What can happen: a thread of a process calls the function, a call takes its next step, or a
process dies; another one that gets its number starts to count anew. -/
inductive Event
  | call (pid : Int32)
  | step (i : ℕ) (ok : Bool)
  | die (pid : Int32)
  deriving DecidableEq, Repr

/-- One event. -/
def step (s : State) : Event → Option State
  | .call pid =>
    some { s with
      calls := s.calls ++ [(s.nextCall, ⟨pid, .called, true⟩)]
      nextCall := s.nextCall + 1 }
  | .step i ok => (s.call? i).bind fun c => if c.alive then advance s i c ok else none
  | .die pid =>
    some { s with
      calls := s.calls.map fun e =>
        (e.1, if e.2.pid = pid then { e.2 with alive := false } else e.2)
      counter := Function.update s.counter pid 0 }

/-! ## Names -/

/-- A name fits into its buffer. -/
lemma shmName_eq (pid count : Int32) :
    shmName pid count =
      asciiBytes "/chromium_shm_" ++ (intText pid ++ (asciiBytes "_" ++ intText count)) := by
  have hpid := length_intText_le pid
  have hcount := length_intText_le count
  have hprefix : "/chromium_shm_".length = 14 := rfl
  have hline : "_".length = 1 := rfl
  have hlength : (format
      [.literal "/chromium_shm_", .int pid, .literal "_", .int count]).length < 64 := by
    simp only [length_format_cons, length_format_nil, length_text_literal, length_text_int]
    omega
  rw [shmName, snprintf_of_lt (by decide) hlength]
  simp [format, Piece.text]

/-- Different processes and counts have different names. -/
lemma shmName_injective {p q m n : Int32} (h : shmName p m = shmName q n) : p = q ∧ m = n := by
  rw [shmName_eq, shmName_eq] at h
  have hline : ∀ i : Int32, (95 : UInt8) ∉ intText i := fun i hmem =>
    absurd (mem_intText hmem) (by decide)
  have hrest : intText p ++ 95 :: intText m = intText q ++ 95 :: intText n :=
    List.append_cancel_left h
  have hpid : intText p = intText q := by
    have htake := congrArg (List.takeWhile (· ≠ 95)) hrest
    rwa [StringSearch.takeWhile_ne_append_cons, StringSearch.takeWhile_ne_append_cons,
      StringSearch.takeWhile_ne_eq_self (hline p), StringSearch.takeWhile_ne_eq_self (hline q)]
      at htake
  rw [hpid] at hrest
  exact ⟨intText_injective hpid,
    intText_injective (List.cons.inj (List.append_cancel_left hrest)).2⟩

/-! ## What holds at any time -/

/-- What holds of names, calls and objects. -/
structure Inv (s : State) : Prop where
  calls_nodup : (s.calls.map Prod.fst).Nodup
  calls_below : ∀ e ∈ s.calls, e.1 < s.nextCall
  objects_below : ∀ e ∈ s.calls, ∀ obj ∈ e.2.object, obj < s.nextObj
  /-- An object belongs to one call. -/
  objects_distinct : ∀ e ∈ s.calls, ∀ d ∈ s.calls, ∀ obj ∈ e.2.object, obj ∈ d.2.object → e.1 = d.1
  names_nodup : (s.names.map Prod.fst).Nodup
  /-- The names are those that calls have linked. -/
  mem_names : ∀ x, x ∈ s.names ↔ ∃ e ∈ s.calls, x ∈ e.2.linked

lemma start_inv : Inv start where
  calls_nodup := List.nodup_nil
  calls_below := List.forall_mem_nil _
  objects_below := List.forall_mem_nil _
  objects_distinct := List.forall_mem_nil _
  names_nodup := List.nodup_nil
  mem_names _ := iff_of_false List.not_mem_nil fun ⟨_, he, _⟩ => List.not_mem_nil he

/-- A call has the object to which it has linked a name. -/
lemma object_of_linked {c : ShmCall} {x : List UInt8 × ℕ} (h : x ∈ c.linked) : x.2 ∈ c.object := by
  obtain ⟨pid, phase, alive⟩ := c
  cases phase with
  | opened count obj =>
    rw [← Option.some.inj h]
    rfl
  | called => exact absurd h (Option.not_mem_none x)
  | counted count => exact absurd h (Option.not_mem_none x)
  | named count => exact absurd h (Option.not_mem_none x)
  | unlinked obj => exact absurd h (Option.not_mem_none x)
  | returned result => exact absurd h (Option.not_mem_none x)

lemma mem_of_call? {s : State} {i : ℕ} {c : ShmCall} (h : s.call? i = some c) :
    (i, c) ∈ s.calls := by
  obtain ⟨e, he, rfl⟩ := Option.map_eq_some_iff.mp h
  have hi : e.1 = i := of_decide_eq_true (List.find?_some (p := fun e : ℕ × ShmCall =>
    decide (e.1 = i)) he)
  rw [← hi]
  exact List.mem_of_find?_eq_some he

lemma map_fst_calls_setPhase (s : State) (i : ℕ) (phase : Phase) :
    (s.setPhase i phase).calls.map Prod.fst = s.calls.map Prod.fst := by
  rw [State.setPhase, KeyedList.map_fst_modify]

/-- **A step of a call** keeps the invariant, when the object of the call is the one it had or a new
one, and the names change by what the call has linked. -/
lemma Inv.setPhase {s : State} (h : Inv s) {i : ℕ} {c : ShmCall} (hc : (i, c) ∈ s.calls)
    {phase : Phase} {names : List (List UInt8 × ℕ)} {nextObj : ℕ} {counter : Int32 → Int32}
    (hobject : ∀ obj ∈ { c with phase := phase }.object, obj ∈ c.object ∨ obj = s.nextObj)
    (hnext : s.nextObj ≤ nextObj ∧ ∀ obj ∈ { c with phase := phase }.object, obj < nextObj)
    (hnodup : (names.map Prod.fst).Nodup)
    (hnames : ∀ x, x ∈ names ↔
      x ∈ { c with phase := phase }.linked ∨ x ∈ s.names ∧ x ∉ c.linked) :
    Inv ({ s with names := names, nextObj := nextObj, counter := counter }.setPhase i phase) := by
  have hmem : ∀ j d, (j, d) ∈ KeyedList.modify i (fun c => { c with phase := phase }) s.calls ↔
      j = i ∧ d = { c with phase := phase } ∨ j ≠ i ∧ (j, d) ∈ s.calls := fun j d =>
    KeyedList.mem_modify_iff h.calls_nodup hc
  have hfresh : ∀ e ∈ s.calls, ∀ obj ∈ { c with phase := phase }.object, obj ∈ e.2.object →
      e.1 = i := by
    intro e he obj hobj hobj'
    rcases hobject obj hobj with hold | rfl
    · exact h.objects_distinct e he (i, c) hc obj hobj' hold
    · exact absurd (h.objects_below e he _ hobj') (Nat.lt_irrefl _)
  constructor
  · rw [map_fst_calls_setPhase]
    exact h.calls_nodup
  · rintro ⟨j, d⟩ he
    rcases (hmem j d).mp he with ⟨rfl, -⟩ | ⟨-, hd⟩
    · exact h.calls_below (j, c) hc
    · exact h.calls_below (j, d) hd
  · rintro ⟨j, d⟩ he obj hobj
    rcases (hmem j d).mp he with ⟨rfl, rfl⟩ | ⟨-, hd⟩
    · exact hnext.2 obj hobj
    · exact Nat.lt_of_lt_of_le (h.objects_below (j, d) hd obj hobj) hnext.1
  · rintro ⟨j, d⟩ he ⟨j', d'⟩ he' obj hobj hobj'
    rcases (hmem j d).mp he with ⟨hj, rfl⟩ | ⟨-, hd⟩ <;>
      rcases (hmem j' d').mp he' with ⟨hj', rfl⟩ | ⟨-, hd'⟩
    · exact hj.trans hj'.symm
    · exact hj.trans (hfresh (j', d') hd' obj hobj hobj').symm
    · exact (hfresh (j, d) hd obj hobj' hobj).trans hj'.symm
    · exact h.objects_distinct (j, d) hd (j', d') hd' obj hobj hobj'
  · exact hnodup
  · intro x
    refine (hnames x).trans ⟨?_, ?_⟩
    · rintro (hnew | ⟨hold, hnot⟩)
      · exact ⟨(i, _), (hmem i _).mpr (Or.inl ⟨rfl, rfl⟩), hnew⟩
      · obtain ⟨⟨j, d⟩, he, hlinked⟩ := (h.mem_names x).mp hold
        have hne : j ≠ i := by
          rintro rfl
          rw [KeyedList.eq_of_mem h.calls_nodup he hc] at hlinked
          exact hnot hlinked
        exact ⟨(j, d), (hmem j d).mpr (Or.inr ⟨hne, he⟩), hlinked⟩
    · rintro ⟨⟨j, d⟩, he, hlinked⟩
      rcases (hmem j d).mp he with ⟨rfl, rfl⟩ | ⟨hne, he⟩
      · exact Or.inl hlinked
      · refine Or.inr ⟨(h.mem_names x).mpr ⟨_, he, hlinked⟩, fun hlinked' => hne ?_⟩
        exact h.objects_distinct _ he _ hc x.2 (object_of_linked hlinked)
          (object_of_linked hlinked')

/-- Steps of a call that have nothing to do with names and objects. -/
lemma Inv.setPhase_of_none {s : State} (h : Inv s) {i : ℕ} {c : ShmCall} (hc : (i, c) ∈ s.calls)
    {phase : Phase} (hlinked : c.linked = none) (hlinked' : { c with phase := phase }.linked = none)
    (hobject' : { c with phase := phase }.object = none) (counter : Int32 → Int32) :
    Inv ({ s with counter := counter }.setPhase i phase) := by
  have hnone : ∀ obj, obj ∉ { c with phase := phase }.object := fun obj hobj => by
    rw [hobject'] at hobj
    exact Option.not_mem_none obj hobj
  refine h.setPhase hc (fun obj hobj => absurd hobj (hnone obj))
    ⟨Nat.le_refl _, fun obj hobj => absurd hobj (hnone obj)⟩ h.names_nodup fun x => ?_
  rw [hlinked, hlinked']
  constructor
  · exact fun hx => Or.inr ⟨hx, Option.not_mem_none x⟩
  · rintro (hx | ⟨hx, -⟩)
    · exact absurd hx (Option.not_mem_none x)
    · exact hx

/-- Every step of a call keeps the invariant. -/
lemma Inv.advance {s s' : State} (h : Inv s) {i : ℕ} {c : ShmCall} (hc : (i, c) ∈ s.calls)
    {ok : Bool} (hstep : advance s i c ok = some s') : Inv s' := by
  obtain ⟨pid, phase, alive⟩ := c
  cases phase with
  | called =>
    cases hstep
    exact h.setPhase_of_none hc rfl rfl rfl s.counter
  | counted count =>
    cases hstep
    exact h.setPhase_of_none hc rfl rfl rfl _
  | named count =>
    unfold SharedMemory.advance at hstep
    dsimp only at hstep
    split_ifs at hstep with htaken hok
    · cases hstep
      exact h.setPhase_of_none hc rfl rfl rfl s.counter
    · cases hstep
      refine h.setPhase hc (fun obj hobj => Or.inr (Option.some.inj hobj).symm)
        ⟨Nat.le_succ _, fun obj hobj => Option.some.inj hobj ▸ Nat.lt_succ_self _⟩ ?_ fun x => ?_
      · rw [List.map_append, List.nodup_append]
        refine ⟨h.names_nodup, List.nodup_singleton _, fun a ha b hb heq => htaken ?_⟩
        have hname : b = shmName pid count := by simpa using hb
        rwa [← hname, ← heq]
      · rw [List.mem_append, List.mem_singleton, or_comm]
        refine or_congr (eq_comm.trans Option.some_inj.symm) ?_
        exact (and_iff_left (Option.not_mem_none x)).symm
    · cases hstep
      exact h.setPhase_of_none hc rfl rfl rfl s.counter
  | opened count obj =>
    cases hstep
    refine h.setPhase hc (fun obj' hobj' => Or.inl hobj')
      ⟨Nat.le_refl _, fun obj' hobj' => h.objects_below _ hc obj' hobj'⟩ ?_ fun x => ?_
    · rw [KeyedList.map_fst_erase]
      exact h.names_nodup.filter _
    · have hmine : (shmName pid count, obj) ∈ s.names := (h.mem_names _).mpr ⟨_, hc, rfl⟩
      rw [KeyedList.mem_erase]
      refine Iff.trans (and_congr_right fun hx => not_congr ?_)
        (or_iff_right (Option.not_mem_none x)).symm
      constructor
      · intro hname
        have hobj : x.2 = obj := KeyedList.eq_of_mem h.names_nodup (k := shmName pid count)
          (by rwa [← hname]) hmine
        exact congrArg some (Prod.ext hname.symm hobj.symm)
      · exact fun hlinked => (congrArg Prod.fst (Option.some.inj hlinked)).symm
  | unlinked obj =>
    cases hstep
    have hnone : ∀ x, x ∈ s.names ↔
        x ∈ (⟨pid, .returned (if ok then .fd obj else .truncateFailed), alive⟩ : ShmCall).linked ∨
          x ∈ s.names ∧ x ∉ (⟨pid, .unlinked obj, alive⟩ : ShmCall).linked := fun x =>
      ⟨fun hx => Or.inr ⟨hx, Option.not_mem_none x⟩, fun hx =>
        hx.elim (fun hx => absurd hx (Option.not_mem_none x)) And.left⟩
    have hkept : ∀ obj' ∈
        (⟨pid, .returned (if ok then .fd obj else .truncateFailed), alive⟩ : ShmCall).object,
        obj' ∈ (⟨pid, .unlinked obj, alive⟩ : ShmCall).object := by
      intro obj' hobj'
      cases ok with
      | true => exact hobj'
      | false => exact absurd hobj' (Option.not_mem_none obj')
    exact h.setPhase hc (fun obj' hobj' => Or.inl (hkept obj' hobj'))
      ⟨Nat.le_refl _, fun obj' hobj' => h.objects_below _ hc obj' (hkept obj' hobj')⟩
      h.names_nodup hnone
  | returned result => cases hstep

/-- A new call has no object and no name. -/
lemma Inv.call {s : State} (h : Inv s) (pid : Int32) :
    Inv { s with
      calls := s.calls ++ [(s.nextCall, ⟨pid, .called, true⟩)]
      nextCall := s.nextCall + 1 } := by
  constructor
  · rw [List.map_append, List.nodup_append]
    refine ⟨h.calls_nodup, List.nodup_singleton _, fun a ha b hb heq => ?_⟩
    obtain ⟨e, he, rfl⟩ := List.mem_map.mp ha
    have hb' : b = s.nextCall := by simpa using hb
    exact Nat.ne_of_lt (h.calls_below e he) (heq.trans hb')
  · rw [List.forall_mem_append, List.forall_mem_singleton]
    exact ⟨fun e he => Nat.lt_succ_of_lt (h.calls_below e he), Nat.lt_succ_self _⟩
  · rw [List.forall_mem_append, List.forall_mem_singleton]
    exact ⟨h.objects_below, fun obj hobj => absurd hobj (Option.not_mem_none obj)⟩
  · intro e he d hd obj hobj hobj'
    rcases List.mem_append.mp he with he | he
    · rcases List.mem_append.mp hd with hd | hd
      · exact h.objects_distinct e he d hd obj hobj hobj'
      · rw [List.mem_singleton.mp hd] at hobj'
        exact absurd hobj' (Option.not_mem_none obj)
    · rw [List.mem_singleton.mp he] at hobj
      exact absurd hobj (Option.not_mem_none obj)
  · exact h.names_nodup
  · intro x
    rw [h.mem_names]
    constructor
    · rintro ⟨e, he, hx⟩
      exact ⟨e, List.mem_append_left _ he, hx⟩
    · rintro ⟨e, he, hx⟩
      rcases List.mem_append.mp he with he | he
      · exact ⟨e, he, hx⟩
      · rw [List.mem_singleton.mp he] at hx
        exact absurd hx (Option.not_mem_none x)

/-- The calls of a process that dies keep what they have. -/
lemma Inv.die {s : State} (h : Inv s) (pid : Int32) (counter : Int32 → Int32) :
    Inv { s with
      calls := s.calls.map fun e =>
        (e.1, if e.2.pid = pid then { e.2 with alive := false } else e.2)
      counter := counter } := by
  have hlinked : ∀ c : ShmCall,
      (if c.pid = pid then { c with alive := false } else c).linked = c.linked := by
    intro c
    split <;> rfl
  have hobject : ∀ c : ShmCall,
      (if c.pid = pid then { c with alive := false } else c).object = c.object := by
    intro c
    split <;> rfl
  constructor
  · rw [List.map_map]
    exact h.calls_nodup
  · rw [List.forall_mem_map]
    exact h.calls_below
  · rw [List.forall_mem_map]
    intro e he obj hobj
    rw [hobject] at hobj
    exact h.objects_below e he obj hobj
  · rw [List.forall_mem_map]
    intro e he
    rw [List.forall_mem_map]
    intro d hd obj hobj hobj'
    rw [hobject] at hobj hobj'
    exact h.objects_distinct e he d hd obj hobj hobj'
  · exact h.names_nodup
  · intro x
    rw [h.mem_names]
    constructor
    · rintro ⟨e, he, hx⟩
      exact ⟨_, List.mem_map_of_mem he, by rwa [hlinked]⟩
    · rintro ⟨_, hmapped, hx⟩
      obtain ⟨e, he, rfl⟩ := List.mem_map.mp hmapped
      exact ⟨e, he, by rwa [hlinked] at hx⟩

lemma Inv.step {s s' : State} {event : Event} (h : Inv s)
    (hstep : SharedMemory.step s event = some s') : Inv s' := by
  cases event with
  | call pid =>
    cases hstep
    exact h.call pid
  | step i ok =>
    obtain ⟨c, hc, hadvance⟩ := Option.bind_eq_some_iff.mp hstep
    split at hadvance
    · exact h.advance (mem_of_call? hc) hadvance
    · cases hadvance
  | die pid =>
    cases hstep
    exact h.die pid _

/-- What holds of anonymous shared memory. -/
structure Right (s : State) : Prop where
  /-- No two calls have the same object. -/
  anonymous : ∀ e ∈ s.calls, ∀ d ∈ s.calls, ∀ obj ∈ e.2.object, obj ∈ d.2.object → e.1 = d.1
  /-- A name is there while its call, alive or not, is between `shm_open` and `shm_unlink`. -/
  names : ∀ x, x ∈ s.names ↔ ∃ e ∈ s.calls, x ∈ e.2.linked
  /-- A call will be refused exactly when one of the same process and count has its name there. -/
  refused : ∀ e ∈ s.calls, ∀ count, e.2.phase = .named count →
    (shmName e.2.pid count ∈ s.names.map Prod.fst ↔
      ∃ d ∈ s.calls, d.2.pid = e.2.pid ∧ ∃ obj, d.2.phase = .opened count obj)

/-- **Anonymous shared memory.**  In every interleaving of calls of any threads and processes, with
processes dying at any time, no two calls get the same object, the names are those of the calls
between `shm_open` and `shm_unlink` and of those that died there, and a call is refused because of
its name if and only if one of these has the same process number and count. -/
theorem sharedMemory_right {s : State} (h : Reachable SharedMemory.step start s) : Right s := by
  have hinv : Inv s := h.invariant start_inv fun _ _ _ h hstep => h.step hstep
  refine ⟨hinv.objects_distinct, hinv.mem_names, fun e _ count _ => ?_⟩
  rw [List.mem_map]
  constructor
  · rintro ⟨⟨name, obj⟩, hname, rfl⟩
    obtain ⟨⟨j, ⟨pid, phase, alive⟩⟩, hd, hlinked⟩ := (hinv.mem_names _).mp hname
    cases phase with
    | opened count' obj' =>
      obtain ⟨hpid, rfl⟩ := shmName_injective (congrArg Prod.fst (Option.some.inj hlinked))
      exact ⟨_, hd, hpid, obj', rfl⟩
    | called => exact absurd hlinked (Option.not_mem_none _)
    | counted count' => exact absurd hlinked (Option.not_mem_none _)
    | named count' => exact absurd hlinked (Option.not_mem_none _)
    | unlinked obj' => exact absurd hlinked (Option.not_mem_none _)
    | returned result => exact absurd hlinked (Option.not_mem_none _)
  · rintro ⟨d, hd, hpid, obj, hphase⟩
    refine ⟨(shmName d.2.pid count, obj), (hinv.mem_names _).mpr ⟨d, hd, ?_⟩, by rw [hpid]⟩
    rw [ShmCall.linked, hphase]
    rfl

/-- Two threads read the same count, and one of them opens its object. -/
def sameCount : List Event :=
  [.call 7, .call 7, .step 0 true, .step 1 true, .step 0 true, .step 1 true, .step 0 true]

theorem sharedMemory_right_sameCount :
    ∃ s, runFrom SharedMemory.step start sameCount = some s ∧ Right s := by
  obtain ⟨s, hrun⟩ : ∃ s, runFrom SharedMemory.step start sameCount = some s := ⟨_, rfl⟩
  exact ⟨s, hrun, sharedMemory_right (Reachable.refl.runFrom hrun)⟩

end SharedMemory

end ChromiumQnx
