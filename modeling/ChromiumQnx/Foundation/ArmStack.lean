import Mathlib.Data.Nat.Digits.Defs
import Mathlib.Tactic.Common

/-!
# The stack of 32-bit ARM code

A few instructions on the core registers, enough for code that prepares a call by hand, and what
compiled code does with its stack: it makes frames, and it accesses memory at an offset from the
stack pointer.  An access that states an alignment faults at other addresses.

Code that is compiled for a stack with an alignment makes frames of multiples of it, and states it
for accesses at multiples of it.  `CallTree.run_eq` says from which stack pointers such code runs
without a fault.
-/

namespace Arm

/-! ## Registers -/

/-- The core registers. -/
abbrev Registers := Fin 16 → BitVec 32

/-- The scratch register of calls. -/
abbrev ip : Fin 16 := ⟨12, by decide⟩

/-- The stack pointer. -/
abbrev sp : Fin 16 := ⟨13, by decide⟩

/-- The program counter. -/
abbrev pc : Fin 16 := ⟨15, by decide⟩

/-- Instructions on registers, and a branch. -/
inductive Instruction
  | mov (rd rm : Fin 16)
  | bic (rd rn : Fin 16) (imm : BitVec 32)
  | b (target : BitVec 32)
  deriving DecidableEq, Repr

/-- One instruction.  The program counter is only kept where a branch sets it. -/
def Instruction.exec : Instruction → Registers → Registers
  | .mov rd rm, r => Function.update r rd (r rm)
  | .bic rd rn imm, r => Function.update r rd (r rn &&& ~~~imm)
  | .b target, r => Function.update r pc target

/-- Instructions one after another. -/
def execAll (code : List Instruction) (r : Registers) : Registers :=
  code.foldl (fun r i => i.exec r) r

/-- The register an instruction writes. -/
def Instruction.written : Instruction → Fin 16
  | .mov rd _ => rd
  | .bic rd _ _ => rd
  | .b _ => pc

/-- Other registers are kept. -/
lemma execAll_of_notMem {code : List Instruction} {i : Fin 16}
    (h : i ∉ code.map Instruction.written) (r : Registers) : execAll code r i = r i := by
  induction code generalizing r with
  | nil => rfl
  | cons instr code ih =>
    rw [List.map_cons, List.mem_cons, not_or] at h
    refine (ih h.2 _).trans ?_
    cases instr <;> exact Function.update_of_ne h.1 _ _

/-! ## Alignment -/

/-- Clearing the low bits of an address is shifting them out. -/
lemma and_not_mask (k : ℕ) (x : BitVec 32) :
    x &&& ~~~BitVec.ofNat 32 (2 ^ k - 1) = (x >>> k) <<< k := by
  refine BitVec.eq_of_getLsbD_eq fun i hi => ?_
  rw [BitVec.getLsbD_and, BitVec.getLsbD_not, BitVec.getLsbD_ofNat, Nat.testBit_two_pow_sub_one,
    BitVec.getLsbD_shiftLeft, BitVec.getLsbD_ushiftRight]
  by_cases hik : i < k
  · simp [hik, hi]
  · rw [Nat.add_sub_cancel' (Nat.le_of_not_lt hik)]
    simp [hik, hi]

/-- What is left is the largest multiple that is not above the address. -/
lemma toNat_and_not_mask (k : ℕ) (x : BitVec 32) :
    (x &&& ~~~BitVec.ofNat 32 (2 ^ k - 1)).toNat = x.toNat - x.toNat % 2 ^ k := by
  have hdiv := Nat.div_add_mod x.toNat (2 ^ k)
  have hlt := x.isLt
  rw [and_not_mask, BitVec.toNat_shiftLeft, BitVec.toNat_ushiftRight, Nat.shiftRight_eq_div_pow,
    Nat.shiftLeft_eq, Nat.mul_comm, Nat.mod_eq_of_lt (by omega)]
  omega

/-- Multiples of an alignment do not change where an address stands. -/
lemma mod_add_mul {k : ℕ} (hk : k ≤ 32) (x : BitVec 32) (n : ℕ) :
    (x + BitVec.ofNat 32 (2 ^ k * n)).toNat % 2 ^ k = x.toNat % 2 ^ k := by
  have hdvd : 2 ^ k ∣ 2 ^ 32 := pow_dvd_pow 2 hk
  rw [BitVec.toNat_add, BitVec.toNat_ofNat, Nat.mod_mod_of_dvd _ hdvd, Nat.add_mod,
    Nat.mod_mod_of_dvd _ hdvd, Nat.mul_mod_right, Nat.add_zero, Nat.mod_mod]

lemma mod_sub_mul {k : ℕ} (hk : k ≤ 32) (x : BitVec 32) (n : ℕ) :
    (x - BitVec.ofNat 32 (2 ^ k * n)).toNat % 2 ^ k = x.toNat % 2 ^ k := by
  rw [← mod_add_mul hk (x - BitVec.ofNat 32 (2 ^ k * n)) n, BitVec.sub_add_cancel]

/-! ## Compiled code -/

/-- What a compiled function does with the stack, with everything it calls.  Sizes and offsets are
multiples of the alignment the code is compiled for. -/
inductive CallTree
  /-- Back to the caller. -/
  | ret
  /-- An access of that alignment above the stack pointer. -/
  | access (offset : ℕ) (rest : CallTree)
  /-- A call: the callee makes its frame, and frees it in the end. -/
  | call (frame : ℕ) (callee rest : CallTree)
  deriving DecidableEq, Repr

namespace CallTree

/-- There is an access that states the alignment. -/
def accesses : CallTree → Bool
  | ret => false
  | access _ _ => true
  | call _ callee rest => callee.accesses || rest.accesses

/-- Runs code that is compiled for an alignment of `2 ^ k` from a stack pointer.  The answer is the
stack pointer in the end, or nothing when an access faulted. -/
def run (k : ℕ) : CallTree → BitVec 32 → Option (BitVec 32)
  | ret, s => some s
  | access offset rest, s =>
    if (s + BitVec.ofNat 32 (2 ^ k * offset)).toNat % 2 ^ k = 0 then rest.run k s else none
  | call frame callee rest, s =>
    (callee.run k (s - BitVec.ofNat 32 (2 ^ k * frame))).bind fun s' =>
      rest.run k (s' + BitVec.ofNat 32 (2 ^ k * frame))

/-- **Runs of compiled code.**  Code runs without a fault, and leaves the stack pointer where it
was, if it starts from a multiple of the alignment or never makes use of it. -/
theorem run_eq {k : ℕ} (hk : k ≤ 32) (t : CallTree) (s : BitVec 32) :
    t.run k s = if s.toNat % 2 ^ k = 0 ∨ t.accesses = false then some s else none := by
  induction t generalizing s with
  | ret => exact (if_pos (Or.inr rfl)).symm
  | access offset rest ih =>
    rw [run, mod_add_mul hk, ih]
    by_cases haligned : s.toNat % 2 ^ k = 0
    · rw [if_pos haligned, if_pos (Or.inl haligned), if_pos (Or.inl haligned)]
    · rw [if_neg haligned, if_neg fun h => h.elim haligned fun h => Bool.noConfusion h]
  | call frame callee rest ihcallee ihrest =>
    have hnone : (call frame callee rest).accesses = false ↔
        callee.accesses = false ∧ rest.accesses = false := Bool.or_eq_false_iff
    rw [run, ihcallee, mod_sub_mul hk]
    by_cases haligned : s.toNat % 2 ^ k = 0
    · rw [if_pos (Or.inl haligned), Option.bind_some, BitVec.sub_add_cancel, ihrest,
        if_pos (Or.inl haligned), if_pos (Or.inl haligned)]
    · by_cases hcallee : callee.accesses = false
      · rw [if_pos (Or.inr hcallee), Option.bind_some, BitVec.sub_add_cancel, ihrest]
        exact if_congr (or_congr_right ((and_iff_right hcallee).symm.trans hnone.symm)) rfl rfl
      · rw [if_neg fun h => h.elim haligned hcallee, Option.bind_none,
          if_neg fun h => h.elim haligned fun h => hcallee (hnone.mp h).1]

end CallTree

end Arm
