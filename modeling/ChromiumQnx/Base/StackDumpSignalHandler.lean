import ChromiumQnx.Foundation.PartialOutput
import ChromiumQnx.Foundation.Snprintf

/-!
# The dump of a crash

On QNX `StackDumpSignalHandler` first writes its own dump: a line with the signal and three
registers, a line for the code around the program counter and the return address, a line for each
register that points into a known function, and the words of the stack that do.  It formats every
line into a buffer of 512 bytes and hands the returned number to `write`, and it reads the registers
and the stack of the crashed thread without asking whether they can be read.

`stackDump_eq_expected_iff` says when the dump runs to its end and writes nothing but its lines.
-/

namespace ChromiumQnx

open Snprintf

/-! ## What the handler is given -/

/-- The fields of `Dl_info` that the handler prints. -/
structure DlInfo where
  fname : Option (List UInt8)
  sname : Option (List UInt8)
  saddr : UInt32
  deriving DecidableEq, Repr

/-- A call of the handler: its arguments, and what it finds out about the thread and its memory. -/
structure Crash where
  tid : UInt32
  signal : Int32
  /-- `info->si_code`, when there is an `info`. -/
  siCode : Option Int32
  /-- The general registers in `void_context`, when there is one. -/
  gpr : Option (Fin 16 → UInt32)
  /-- The word at an address, when it can be read. -/
  word : ℕ → Option UInt32
  dladdr : UInt32 → Option DlInfo

namespace Crash

/-- A number in hexadecimal, `%x`. -/
def hexText (n : UInt32) : List UInt8 :=
  if n = 0 then asciiBytes "0"
  else ((Nat.digits 16 n.toNat).map fun d => (if d < 10 then 48 + d else 87 + d).toUInt8).reverse

/-- `signame`. -/
def signame (signal : Int32) : List UInt8 :=
  if signal = 6 then asciiBytes "SIGABRT"
  else if signal = 11 then asciiBytes "SIGSEGV"
  else if signal = 4 then asciiBytes "SIGILL"
  else if signal = 5 then asciiBytes "SIGTRAP"
  else asciiBytes "?"

variable (c : Crash)

/-- A register, zero without a context. -/
def register (r : Fin 16) : UInt32 := (c.gpr.map fun gpr => gpr r).getD 0

def pc : UInt32 := c.register 15

def lr : UInt32 := c.register 14

def sp : UInt32 := c.register 13

/-! ## The lines -/

/-- A text or its replacement. -/
def orUnknown (text : Option (List UInt8)) : List UInt8 := text.getD (asciiBytes "?")

/-- The line of the signal. -/
def signalPieces : List Piece :=
  [.literal "QNX:CRASH tid=", .str (hexText c.tid), .literal " sig=", .str (signame c.signal),
    .literal "(", .int c.signal, .literal ") code=", .int (c.siCode.getD (-1)), .literal " pc=0x",
    .str (hexText c.pc), .literal " lr=0x", .str (hexText c.lr), .literal " sp=0x",
    .str (hexText c.sp), .literal "\n"]

/-- The line of a code address with the name of a register, when the address is not zero and lies in
a loaded object. -/
def codePieces (name : String) (addr : UInt32) : Option (List Piece) :=
  if addr = 0 then none
  else (c.dladdr addr).map fun dli =>
    [.literal name, .str (orUnknown dli.fname), .literal ":", .str (orUnknown dli.sname),
      .literal "+0x", .str (hexText (addr - dli.saddr)), .literal "\n"]

/-- The line of a register that points into a known function. -/
def registerPieces (gpr : Fin 16 → UInt32) (r : Fin 16) : Option (List Piece) :=
  let rv := gpr r
  if rv > 0x100000 then
    (c.dladdr rv).bind fun dli => dli.sname.map fun sname =>
      [.literal "QNX:R", .int (Int32.ofNat r), .literal "=0x", .str (hexText rv), .literal " ",
        .str (orUnknown dli.fname), .literal ":", .str sname, .literal "+0x",
        .str (hexText (rv - dli.saddr)), .literal "\n"]
  else none

/-- The text of a word of the stack that is taken for a return address. -/
def stackPieces (i : ℕ) (val : UInt32) : Option (List Piece) :=
  if val > 0x1000000 ∧ val < 0x6000000 then
    let addr := val &&& ~~~1
    (c.dladdr addr).bind fun dli => dli.sname.map fun sname =>
      [.literal " [", .int (Int32.ofNat i), .literal "]", .str (hexText val), .literal ":",
        .str sname, .literal "+", .str (hexText (addr - dli.saddr))]
  else none

/-! ## The dump -/

/-- A call of `write`: the count that is passed, and the text it should write. -/
structure Written where
  count : ℕ
  text : List UInt8
  deriving DecidableEq, Repr

/-- A line formatted into the buffer. -/
def formatted (pieces : List Piece) : Written :=
  let result := snprintf 512 pieces
  ⟨toSizeT result.1, result.2⟩

/-- A text that is written as it is. -/
def literal (text : String) : Written := ⟨text.length, asciiBytes text⟩

/-- A line that is written if there is one. -/
def writeIf (pieces : Option (List Piece)) : PartialOutput Written :=
  .write (pieces.map formatted).toList

/-- The address of `sptr + i`. -/
def stackAddr (i : ℕ) : ℕ := (c.sp.toNat + 4 * i) % 2 ^ 32

/-- The loop over the stack from the word `i` on, with the rounds that are left. -/
def scanStack : ℕ → ℕ → PartialOutput Written
  | 0, _ => .write []
  | rounds + 1, i =>
    if c.stackAddr i < 0x7fffffff then
      match c.word (c.stackAddr i) with
      | none => .fault
      | some val => (writeIf (c.stackPieces i val)).andThen (scanStack rounds (i + 1))
    else .write []

/-- The loop over the registers: they are read from the context, whether there is one or not. -/
def registerLines : PartialOutput Written :=
  match c.gpr with
  | none => .fault
  | some gpr =>
    .inOrder ((List.finRange 16).map fun r => writeIf (c.registerPieces gpr r))

/-- The scan of the stack. -/
def stackPart : PartialOutput Written :=
  if c.sp > 0x10000 then
    .inOrder [.write [literal "QNX:STACK:"], c.scanStack 80 0, .write [literal "\n"]]
  else .write []

/-- The dump of `StackDumpSignalHandler`. -/
def stackDump : PartialOutput Written :=
  .inOrder
    [.write [formatted c.signalPieces],
      writeIf (c.codePieces "QNX:PC " c.pc),
      writeIf (c.codePieces "QNX:LR " c.lr),
      c.registerLines,
      c.stackPart]

/-! ## What the dump should be -/

/-- A line as a whole. -/
def whole (pieces : List Piece) : Written := ⟨(format pieces).length, format pieces⟩

/-- The words of the stack that the loop looks at: at most 80, below the end of the address space
of a process. -/
def scannedWords : List ℕ := (List.range 80).takeWhile fun i => c.stackAddr i < 0x7fffffff

/-- The lines of the code addresses and of the registers. -/
def symbolLines : List (List Piece) :=
  (c.codePieces "QNX:PC " c.pc).toList ++ ((c.codePieces "QNX:LR " c.lr).toList ++
    c.gpr.elim [] fun gpr => (List.finRange 16).filterMap (c.registerPieces gpr))

/-- The return addresses in some words of the stack. -/
def returnAddresses (words : List ℕ) : List (List Piece) :=
  words.filterMap fun i => (c.word (c.stackAddr i)).bind (c.stackPieces i)

/-- **What the dump should be**: every line, whole. -/
def expectedDump : List Written :=
  whole c.signalPieces :: c.symbolLines.map whole ++
    if c.sp > 0x10000 then
      literal "QNX:STACK:" :: ((c.returnAddresses c.scannedWords).map whole ++ [literal "\n"])
    else []

/-- The words that the loop looks at can be read. -/
def StackReadable : Prop :=
  c.sp > 0x10000 → ∀ i ∈ c.scannedWords, (c.word (c.stackAddr i)).isSome

/-- The lines with the names of functions and files leave room for the terminator. -/
def SymbolsFit : Prop :=
  (∀ pieces ∈ c.symbolLines, (format pieces).length < 512) ∧
    (c.sp > 0x10000 →
      ∀ pieces ∈ c.returnAddresses c.scannedWords, (format pieces).length < 512)

instance : Decidable c.StackReadable := inferInstanceAs (Decidable (_ → ∀ i ∈ c.scannedWords, _))

instance : Decidable c.SymbolsFit :=
  inferInstanceAs (Decidable ((∀ pieces ∈ c.symbolLines, _) ∧
    (_ → ∀ pieces ∈ c.returnAddresses c.scannedWords, _)))

/-! ## When the dump is that -/

/-- A line is written whole when it fits into the buffer. -/
lemma formatted_eq_whole_iff (pieces : List Piece) :
    formatted pieces = whole pieces ↔ (format pieces).length < 512 := by
  constructor
  · intro h
    refine (snprintf_fits_iff (by decide) (by decide)).mp ?_
    have hcount : toSizeT (snprintf 512 pieces).1 = (format pieces).length :=
      congrArg Written.count h
    have htext : (snprintf 512 pieces).2 = format pieces := congrArg Written.text h
    rw [hcount, htext]
  · intro h
    have hmax : intMax = 2147483647 := rfl
    unfold formatted
    rw [snprintf_of_lt (by decide) h]
    dsimp only
    rw [toSizeT_natCast (by omega)]
    rfl

lemma map_formatted_eq_iff (lines : List (List Piece)) :
    lines.map formatted = lines.map whole ↔ ∀ pieces ∈ lines, (format pieces).length < 512 :=
  List.map_inj_left.trans (forall₂_congr fun pieces _ => formatted_eq_whole_iff pieces)

lemma length_hexText_le (n : UInt32) : (hexText n).length ≤ 8 := by
  unfold hexText
  split
  · exact Nat.le_of_ble_eq_true rfl
  · rw [List.length_reverse, List.length_map]
    exact (Nat.digits_length_le_iff (by norm_num) _).mpr n.toNat_lt

lemma length_signame_le (signal : Int32) : (signame signal).length ≤ 7 := by
  unfold signame
  split_ifs <;> exact Nat.le_of_ble_eq_true rfl

lemma length_cString_le (s : List UInt8) : (cString s).length ≤ s.length :=
  (List.takeWhile_prefix _).length_le

/-- The line of the signal always fits. -/
lemma formatted_signalPieces : formatted c.signalPieces = whole c.signalPieces := by
  refine (formatted_eq_whole_iff _).mpr (lt_of_le_of_lt (length_format_le _) ?_)
  have hhex : ∀ n, (cString (hexText n)).length ≤ 8 := fun n =>
    (length_cString_le _).trans (length_hexText_le n)
  have hsigname := (length_cString_le _).trans (length_signame_le c.signal)
  have htexts : "QNX:CRASH tid=".length + " sig=".length + "(".length + ") code=".length +
      " pc=0x".length + " lr=0x".length + " sp=0x".length + "\n".length = 46 := rfl
  have htid := hhex c.tid
  have hpc := hhex c.pc
  have hlr := hhex c.lr
  have hsp := hhex c.sp
  simp only [signalPieces, List.map_cons, List.map_nil, List.sum_cons, List.sum_nil,
    Piece.maxLength]
  omega

/-- The loop runs to its end when the words it looks at can be read. -/
lemma scanStack_completed_iff (rounds i : ℕ) :
    (c.scanStack rounds i).completed ↔
      ∀ j ∈ (List.range' i rounds).takeWhile fun j => c.stackAddr j < 0x7fffffff,
        (c.word (c.stackAddr j)).isSome := by
  induction rounds generalizing i with
  | zero => exact iff_of_true rfl (List.forall_mem_nil _)
  | succ rounds ih =>
    rw [scanStack, List.range'_succ, List.takeWhile_cons]
    split
    · rename_i hlt
      rw [if_pos (decide_eq_true hlt), List.forall_mem_cons]
      cases hword : c.word (c.stackAddr i) with
      | none => exact iff_of_false Bool.false_ne_true fun h => Bool.false_ne_true h.1
      | some val =>
        dsimp only
        rw [PartialOutput.andThen_completed, ← ih (i + 1)]
        exact (and_iff_right rfl).symm
    · rename_i hge
      rw [if_neg fun h => hge (of_decide_eq_true h)]
      exact iff_of_true rfl (List.forall_mem_nil _)

/-- What the loop has written then. -/
lemma written_scanStack {rounds i : ℕ} (h : (c.scanStack rounds i).completed) :
    (c.scanStack rounds i).written =
      (c.returnAddresses
        ((List.range' i rounds).takeWhile fun j => c.stackAddr j < 0x7fffffff)).map formatted := by
  induction rounds generalizing i with
  | zero => rfl
  | succ rounds ih =>
    rw [scanStack] at h ⊢
    rw [List.range'_succ, List.takeWhile_cons]
    split at h
    · rename_i hlt
      rw [if_pos hlt, if_pos (decide_eq_true hlt)]
      cases hword : c.word (c.stackAddr i) with
      | none =>
        rw [hword] at h
        exact absurd h Bool.false_ne_true
      | some val =>
        rw [hword] at h
        dsimp only at h ⊢
        rw [PartialOutput.andThen_completed] at h
        have hrest : (c.scanStack rounds (i + 1)).completed := h
        rw [PartialOutput.written_andThen rfl, ih hrest, returnAddresses, returnAddresses,
          List.filterMap_cons, hword, Option.bind_some]
        cases c.stackPieces i val <;> rfl
    · rename_i hge
      rw [if_neg hge, if_neg fun h => hge (of_decide_eq_true h)]
      rfl

/-- The registers' lines, when there is a context. -/
lemma registerLines_of_some {gpr : Fin 16 → UInt32} (h : c.gpr = some gpr) :
    c.registerLines =
      .write (((List.finRange 16).filterMap (c.registerPieces gpr)).map formatted) := by
  have hparts : ∀ p ∈ (List.finRange 16).map fun r => writeIf (c.registerPieces gpr r),
      p.completed = true := by
    intro p hp
    obtain ⟨r, -, rfl⟩ := List.mem_map.mp hp
    rfl
  have hwritten := PartialOutput.written_inOrder hparts
  have hcompleted := PartialOutput.inOrder_completed_iff.mpr hparts
  rw [List.flatMap_map] at hwritten
  rw [registerLines, h]
  refine PartialOutput.ext ?_ hcompleted
  refine hwritten.trans ?_
  rw [List.map_filterMap]
  exact List.filterMap_eq_flatMap_toList _ _ |>.symm

lemma stackPart_completed_iff : c.stackPart.completed ↔ c.StackReadable := by
  unfold stackPart StackReadable scannedWords
  split
  · rename_i hsp
    rw [PartialOutput.inOrder_completed_iff, List.range_eq_range', ← scanStack_completed_iff]
    simp [PartialOutput.write, hsp]
  · rename_i hsp
    exact iff_of_true rfl fun h => absurd h hsp

lemma written_stackPart (h : c.StackReadable) :
    c.stackPart.written =
      if c.sp > 0x10000 then
        literal "QNX:STACK:" ::
          ((c.returnAddresses c.scannedWords).map formatted ++ [literal "\n"])
      else [] := by
  have hcompleted := (stackPart_completed_iff c).mpr h
  unfold stackPart at hcompleted ⊢
  split at hcompleted
  · rename_i hsp
    have hparts := PartialOutput.inOrder_completed_iff.mp hcompleted
    have hscan : (c.scanStack 80 0).completed := hparts _ (by simp)
    rw [if_pos hsp, if_pos hsp, PartialOutput.written_inOrder hparts, scannedWords,
      List.range_eq_range', ← written_scanStack c hscan]
    rfl
  · rename_i hsp
    rw [if_neg hsp, if_neg hsp]
    rfl

/-- The dump runs to its end when there is a context and the stack can be read. -/
lemma stackDump_completed_iff :
    c.stackDump.completed ↔ c.gpr.isSome ∧ c.StackReadable := by
  have hregisters : c.registerLines.completed ↔ c.gpr.isSome := by
    cases hgpr : c.gpr with
    | none =>
      rw [registerLines, hgpr]
      exact Iff.rfl
    | some gpr =>
      rw [registerLines_of_some c hgpr]
      exact iff_of_true rfl rfl
  rw [stackDump, PartialOutput.inOrder_completed_iff, List.forall_mem_cons, List.forall_mem_cons,
    List.forall_mem_cons, List.forall_mem_cons, List.forall_mem_singleton, stackPart_completed_iff,
    hregisters]
  exact ⟨fun h => h.2.2.2, fun h => ⟨rfl, rfl, rfl, h⟩⟩

/-- What the dump has written then. -/
lemma written_stackDump (hgpr : c.gpr.isSome) (hstack : c.StackReadable) :
    c.stackDump.written =
      whole c.signalPieces :: c.symbolLines.map formatted ++ c.stackPart.written := by
  have hparts := PartialOutput.inOrder_completed_iff.mp
    ((stackDump_completed_iff c).mpr ⟨hgpr, hstack⟩)
  obtain ⟨gpr, hgpr⟩ := Option.isSome_iff_exists.mp hgpr
  rw [stackDump, PartialOutput.written_inOrder hparts, registerLines_of_some c hgpr, symbolLines,
    hgpr, formatted_signalPieces]
  simp [PartialOutput.write, writeIf, Option.toList_map]

/-- The dump is as expected when all its lines fit. -/
lemma written_eq_expected_iff (hstack : c.StackReadable) :
    whole c.signalPieces :: c.symbolLines.map formatted ++ c.stackPart.written = c.expectedDump ↔
      c.SymbolsFit := by
  rw [written_stackPart c hstack, expectedDump, SymbolsFit, ← map_formatted_eq_iff,
    ← map_formatted_eq_iff]
  by_cases hsp : c.sp > 0x10000
  · rw [if_pos hsp, if_pos hsp]
    constructor
    · intro h
      obtain ⟨hsymbols, hstack⟩ := List.append_inj h
        (by rw [List.length_cons, List.length_cons, List.length_map, List.length_map])
      exact ⟨(List.cons.inj hsymbols).2, fun _ =>
        List.append_cancel_right (List.cons.inj hstack).2⟩
    · rintro ⟨hsymbols, hstack⟩
      rw [hsymbols, hstack hsp]
  · rw [if_neg hsp, if_neg hsp, List.append_nil, List.append_nil]
    refine ⟨fun h => ⟨(List.cons.inj h).2, fun h' => absurd h' hsp⟩, fun h => ?_⟩
    rw [h.1]

/-- **The dump of a crash.**  The dump runs to its end, every access of it allowed, and writes the
lines it should and nothing else, if and only if the handler is given a context, the words of the
stack that it looks at can be read, and no line with a name has 512 bytes or more. -/
theorem stackDump_eq_expected_iff :
    c.stackDump = .write c.expectedDump ↔ c.gpr.isSome ∧ c.StackReadable ∧ c.SymbolsFit := by
  constructor
  · intro h
    have hcompleted : c.stackDump.completed = true := by
      rw [h]
      rfl
    obtain ⟨hgpr, hstack⟩ := (stackDump_completed_iff c).mp hcompleted
    have hwritten : c.stackDump.written = c.expectedDump := congrArg PartialOutput.written h
    rw [written_stackDump c hgpr hstack] at hwritten
    exact ⟨hgpr, hstack, (written_eq_expected_iff c hstack).mp hwritten⟩
  · rintro ⟨hgpr, hstack, hfit⟩
    refine PartialOutput.ext ?_ ((stackDump_completed_iff c).mpr ⟨hgpr, hstack⟩)
    rw [written_stackDump c hgpr hstack]
    exact (written_eq_expected_iff c hstack).mpr hfit

end Crash

end ChromiumQnx
