import ChromiumQnx.Foundation.ArmStack

/-!
# The start routine of a thread

Chromium is compiled for a stack that is aligned to 16 bytes, and makes use of it with aligned loads
and stores that do not realign the stack.  QNX starts threads with less.  On ARM threads are
therefore started at `QnxThreadFuncTrampoline`, which rounds the stack pointer down and goes on to
`QnxThreadFuncAligned`.

The main result says what the trampoline hands on, that no aligned access of the thread's code
faults behind it, and for which threads one would without it.
-/

namespace ChromiumQnx

open Arm

/-- `QnxThreadFuncTrampoline`, given the address of `QnxThreadFuncAligned`. -/
def qnxThreadFuncTrampoline (qnxThreadFuncAligned : BitVec 32) : List Instruction :=
  [.mov ip sp, .bic ip ip 15, .mov sp ip, .b qnxThreadFuncAligned]

/-- A thread at its start routine: the registers, where `QnxThreadFuncAligned` is, and what it does
with the stack, together with all the code it calls. -/
structure ThreadStart where
  registers : Registers
  qnxThreadFuncAligned : BitVec 32
  code : CallTree

namespace ThreadStart

variable (t : ThreadStart)

/-- The alignment that the code is compiled for, as a power of two. -/
def alignment : ℕ := 4

/-- The registers behind the trampoline. -/
def entered : Registers := execAll (qnxThreadFuncTrampoline t.qnxThreadFuncAligned) t.registers

/-- The stack pointer stands at a multiple of the alignment. -/
def Aligned (r : Registers) : Prop := (r sp).toNat % 2 ^ alignment = 0

instance (r : Registers) : Decidable (Aligned r) := inferInstanceAs (Decidable (_ = _))

/-- What is right about the start of a thread. -/
structure StartsRight : Prop where
  /-- The argument, the link register and all registers that a callee must keep are those of the
  thread. -/
  kept : ∀ i, i ≠ ip → i ≠ sp → i ≠ pc → t.entered i = t.registers i
  pc_eq : t.entered pc = t.qnxThreadFuncAligned
  /-- The stack pointer is rounded down, and by less than the alignment. -/
  sp_eq : (t.entered sp).toNat =
    (t.registers sp).toNat - (t.registers sp).toNat % 2 ^ alignment
  aligned : Aligned t.entered
  /-- No access faults, and in the end the stack pointer is where it was. -/
  runs : t.code.run alignment (t.entered sp) = some (t.entered sp)
  /-- Without the trampoline that needs a thread with an aligned stack, or code without aligned
  accesses. -/
  runs_directly_iff : t.code.run alignment (t.registers sp) = some (t.registers sp) ↔
    Aligned t.registers ∨ t.code.accesses = false
  /-- The trampoline does not put the stack pointer of the thread back. -/
  sp_kept_iff : t.entered sp = t.registers sp ↔ Aligned t.registers

lemma entered_sp : t.entered sp = t.registers sp &&& ~~~BitVec.ofNat 32 (2 ^ alignment - 1) := rfl

lemma toNat_entered_sp :
    (t.entered sp).toNat = (t.registers sp).toNat - (t.registers sp).toNat % 2 ^ alignment := by
  rw [entered_sp, toNat_and_not_mask]

/-- **The start of a thread.**  For every thread and all code it may run. -/
theorem startsRight : t.StartsRight := by
  have hk : alignment ≤ 32 := by decide
  have hsp := t.toNat_entered_sp
  have hle := Nat.mod_le (t.registers sp).toNat (2 ^ alignment)
  have haligned : Aligned t.entered := by
    unfold Aligned
    rw [hsp]
    exact Nat.mod_eq_zero_of_dvd (Nat.dvd_sub_mod _)
  refine ⟨fun i hip hsp hpc => ?_, rfl, hsp, haligned, ?_, ?_, ?_⟩
  · refine execAll_of_notMem ?_ _
    simp [qnxThreadFuncTrampoline, Instruction.written, hip, hsp, hpc]
  · exact (CallTree.run_eq hk _ _).trans (if_pos (Or.inl haligned))
  · rw [CallTree.run_eq hk]
    split
    · rename_i h
      exact iff_of_true rfl h
    · rename_i h
      exact iff_of_false (Option.some_ne_none _).symm h
  · rw [← BitVec.toNat_inj, hsp]
    unfold Aligned
    omega

end ThreadStart

end ChromiumQnx
