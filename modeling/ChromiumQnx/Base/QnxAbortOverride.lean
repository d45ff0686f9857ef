import ChromiumQnx.Base.StackDumpSignalHandler

/-!
# The dump of an abort

On QNX `abort` and `std::__throw_bad_optional_access` are replaced.  The replacements write a
heading, a line for the code that called them, and the words of the stack that may be return
addresses, and then abort.  There are two of `__throw_bad_optional_access`: one is put together from
`qnx_print_caller` and `qnx_dump_stack`, the other spells the same steps out and writes a second
line, for the caller of the caller.

`dump_eq_expected_iff` says for all three when the dump runs to its end and writes the lines it
should, the stack's being those of the first twenty words that may be return addresses.
-/

namespace ChromiumQnx

open Crash (hexText orUnknown Written formatted whole)
open Snprintf

/-- A call of a replaced function: what it finds out about its caller and its memory. -/
structure AbortCall where
  /-- `__builtin_return_address(0)`. -/
  returnAddress : UInt32
  /-- `__builtin_return_address(1)`, when the frame of the caller can be read. -/
  callerReturnAddress : Option UInt32
  /-- The words from the stack pointer on, as far as they can be read. -/
  stackWord : ℕ → Option UInt32
  dladdr : UInt32 → Option DlInfo
  /-- How a pointer is printed, `%p`. -/
  pointerText : UInt32 → List UInt8

namespace AbortCall

variable (c : AbortCall)

/-- The object and the function at an address, when `dladdr` knows both. -/
def symbol (addr : UInt32) : Option (DlInfo × List UInt8) :=
  (c.dladdr addr).bind fun dli => dli.sname.map fun sname => (dli, sname)

/-! ## `qnx_abort_override.cc` -/

/-- The line of `qnx_print_caller`. -/
def callerPieces (tag : String) (addr : UInt32) : Option (List Piece) :=
  if addr ≠ 0 then
    match c.symbol addr with
    | some (dli, sname) =>
      some [.str (asciiBytes tag), .literal "=", .str (c.pointerText addr), .literal " ",
        .str (orUnknown dli.fname), .literal ":", .str sname, .literal "+0x",
        .str (hexText (addr - dli.saddr)), .literal "\n"]
    | none =>
      some [.str (asciiBytes tag), .literal "=", .str (c.pointerText addr),
        .literal " (no sym)\n"]
  else none

/-- `qnx_print_caller`. -/
def qnxPrintCaller (tag : String) (addr : UInt32) : PartialOutput Written :=
  .write ((c.callerPieces tag addr).map formatted).toList

/-- The line of a word in the loop of `qnx_dump_stack`. -/
def wordPieces (tag : String) (i : ℕ) (word : UInt32) : Option (List Piece) :=
  if word > 0x800000 ∧ word < 0x8000000 then
    match c.symbol word with
    | some (dli, sname) =>
      some [.literal "QNX:", .str (asciiBytes tag), .literal "[", .int (Int32.ofNat i),
        .literal "]=0x", .str (hexText word), .literal " ", .str sname, .literal "+0x",
        .str (hexText (word - dli.saddr)), .literal "\n"]
    | none =>
      some [.literal "QNX:", .str (asciiBytes tag), .literal "[", .int (Int32.ofNat i),
        .literal "]=0x", .str (hexText word), .literal "\n"]
  else none

/-- `qnx_dump_stack`: at most 64 words are looked at, and at most 20 written. -/
def qnxDumpStack (tag : String) : PartialOutput Written :=
  .search c.stackWord (fun i word => (c.wordPieces tag i word).map formatted) 20
    (List.range 64) 0

/-- `__wrap_abort`. -/
def wrapAbort : PartialOutput Written :=
  .inOrder
    [.write [⟨15, asciiBytes "QNX:ABORT_WRAP\n"⟩],
      c.qnxPrintCaller "QNX:ABORT_C0" c.returnAddress,
      c.qnxDumpStack "S"]

/-- `__throw_bad_optional_access` of `qnx_abort_override.cc`. -/
def throwBadOptionalAccess : PartialOutput Written :=
  .inOrder
    [.write [⟨17, asciiBytes "QNX:BAD_OPTIONAL\n"⟩],
      c.qnxPrintCaller "QNX:OPT_C0" c.returnAddress,
      c.qnxDumpStack "OS"]

/-! ## `qnx_optional_override.cc` -/

/-- The line of a return address. -/
def optionalCallerPieces (text : String) (addr : UInt32) : List Piece :=
  match c.symbol addr with
  | some (dli, sname) =>
    [.literal text, .str (c.pointerText addr), .literal " ", .str (orUnknown dli.fname),
      .literal ":", .str sname, .literal "+0x", .str (hexText (addr - dli.saddr)), .literal "\n"]
  | none => [.literal text, .str (c.pointerText addr), .literal " (no sym)\n"]

/-- The line of a word of the stack. -/
def optionalWordPieces (i : ℕ) (word : UInt32) : Option (List Piece) :=
  if word > 0x800000 ∧ word < 0x8000000 then
    match c.symbol word with
    | some (dli, sname) =>
      some [.literal "QNX:OS[", .int (Int32.ofNat i), .literal "]=0x", .str (hexText word),
        .literal " ", .str sname, .literal "+0x", .str (hexText (word - dli.saddr)),
        .literal "\n"]
    | none =>
      some [.literal "QNX:OS[", .int (Int32.ofNat i), .literal "]=0x", .str (hexText word),
        .literal "\n"]
  else none

/-- `__throw_bad_optional_access` of `qnx_optional_override.cc`. -/
def optionalThrowBadOptionalAccess : PartialOutput Written :=
  .inOrder
    [.write [⟨17, asciiBytes "QNX:BAD_OPTIONAL\n"⟩],
      .write (if c.returnAddress ≠ 0 then
        [formatted (c.optionalCallerPieces "QNX:OPT_C0=" c.returnAddress)] else []),
      match c.callerReturnAddress with
      | none => .fault
      | some ret1 =>
        .write (if ret1 ≠ 0 then [formatted (c.optionalCallerPieces "QNX:OPT_C1=" ret1)] else []),
      .search c.stackWord (fun i word => (c.optionalWordPieces i word).map formatted) 20
        (List.range 64) 0]

/-! ## What the dumps should be -/

/-- A word that is taken for a return address. -/
def IsReturnAddress (word : UInt32) : Prop := word > 0x800000 ∧ word < 0x8000000

instance : DecidablePred IsReturnAddress := fun word =>
  inferInstanceAs (Decidable (word > 0x800000 ∧ word < 0x8000000))

/-- Which of the first words of the stack are taken for return addresses. -/
def returnAddresses (n : ℕ) : List ℕ :=
  (List.range n).filter fun i => (c.stackWord i).any fun word => IsReturnAddress word

/-- The words that the loop looks at can be read: each one of the first 64 that comes before the
twentieth return address or is it. -/
def StackReadable : Prop :=
  ∀ i < 64, (c.returnAddresses i).length < 20 → (c.stackWord i).isSome

instance : Decidable c.StackReadable := inferInstanceAs (Decidable (∀ i < 64, _ → _))

/-- The lines of the stack: those of the first twenty return addresses. -/
def stackLines (tag : String) : List (List Piece) :=
  ((List.range 64).filterMap fun i => (c.stackWord i).bind (c.wordPieces tag i)).take 20

end AbortCall

/-- The functions that are replaced, one of them twice. -/
inductive ReplacedFunction
  | abort
  | badOptionalAccess
  | badOptionalAccessInline
  deriving DecidableEq, Repr

namespace ReplacedFunction

variable (f : ReplacedFunction) (c : AbortCall)

/-- What a replacement writes. -/
def dump : PartialOutput Written :=
  match f with
  | abort => c.wrapAbort
  | badOptionalAccess => c.throwBadOptionalAccess
  | badOptionalAccessInline => c.optionalThrowBadOptionalAccess

def heading : String :=
  match f with
  | abort => "QNX:ABORT_WRAP\n"
  | badOptionalAccess | badOptionalAccessInline => "QNX:BAD_OPTIONAL\n"

/-- The callers that are named, and how. -/
def callers : List (String × UInt32) :=
  match f with
  | abort => [("QNX:ABORT_C0", c.returnAddress)]
  | badOptionalAccess => [("QNX:OPT_C0", c.returnAddress)]
  | badOptionalAccessInline =>
    [("QNX:OPT_C0", c.returnAddress), ("QNX:OPT_C1", c.callerReturnAddress.getD 0)]

def stackTag : String :=
  match f with
  | abort => "S"
  | badOptionalAccess | badOptionalAccessInline => "OS"

/-- **The lines of a dump.** -/
def expectedLines : List (List Piece) :=
  [.literal f.heading] ::
    ((f.callers c).filterMap fun caller => c.callerPieces caller.1 caller.2) ++
      c.stackLines f.stackTag

/-- Where the caller of the caller is named, the frame of the caller can be read. -/
def FrameReadable : Prop := f = badOptionalAccessInline → c.callerReturnAddress.isSome

instance : Decidable (f.FrameReadable c) := inferInstanceAs (Decidable (_ → _))

/-! ## The two definitions of one function -/

/-- What is stored depends on the formatted text only. -/
lemma formatted_congr {p q : List Piece} (h : format p = format q) : formatted p = formatted q := by
  unfold formatted snprintf
  rw [h]

lemma formatted_optionalWordPieces (i : ℕ) (word : UInt32) :
    (c.optionalWordPieces i word).map formatted = (c.wordPieces "OS" i word).map formatted := by
  unfold AbortCall.optionalWordPieces AbortCall.wordPieces
  split
  · rcases c.symbol word with _ | ⟨dli, sname⟩
    · exact congrArg some (formatted_congr rfl)
    · exact congrArg some (formatted_congr rfl)
  · rfl

/-- A caller's line is written when there is an address. -/
lemma write_optionalCallerPieces (tag text : String) (addr : UInt32)
    (h : asciiBytes text = cString (asciiBytes tag) ++ asciiBytes "=") :
    (.write (if addr ≠ 0 then [formatted (c.optionalCallerPieces text addr)] else []) :
      PartialOutput Written) = c.qnxPrintCaller tag addr := by
  have hformat : ∀ rest, format (.literal text :: rest) =
      format (.str (asciiBytes tag) :: .literal "=" :: rest) := fun rest => by
    simp only [format, List.map_cons, List.flatten_cons, Piece.text, h, List.append_assoc]
  unfold AbortCall.qnxPrintCaller AbortCall.callerPieces AbortCall.optionalCallerPieces
  split
  · rcases c.symbol addr with _ | ⟨dli, sname⟩
    · exact congrArg (fun w => PartialOutput.write [w]) (formatted_congr (hformat _))
    · exact congrArg (fun w => PartialOutput.write [w]) (formatted_congr (hformat _))
  · rfl

/-- **The two definitions of `__throw_bad_optional_access`.**  They write the same, but for the line
of the caller's caller. -/
theorem optionalThrowBadOptionalAccess_eq {ret1 : UInt32} (h : c.callerReturnAddress = some ret1) :
    c.optionalThrowBadOptionalAccess =
      .inOrder
        [.write [⟨17, asciiBytes "QNX:BAD_OPTIONAL\n"⟩],
          c.qnxPrintCaller "QNX:OPT_C0" c.returnAddress,
          c.qnxPrintCaller "QNX:OPT_C1" ret1,
          c.qnxDumpStack "OS"] := by
  unfold AbortCall.optionalThrowBadOptionalAccess AbortCall.qnxDumpStack
  rw [h, write_optionalCallerPieces c "QNX:OPT_C0" _ _ rfl]
  dsimp only
  rw [write_optionalCallerPieces c "QNX:OPT_C1" _ _ rfl]
  simp only [formatted_optionalWordPieces]

/-! ## When the dumps are that -/

/-- The parts of a dump. -/
def parts : List (PartialOutput Written) :=
  .write [whole [.literal f.heading]] ::
    ((f.callers c).map fun caller => c.qnxPrintCaller caller.1 caller.2) ++
      [c.qnxDumpStack f.stackTag]

lemma dump_eq_inOrder (h : f.FrameReadable c) : f.dump c = .inOrder (f.parts c) := by
  cases f with
  | abort => rfl
  | badOptionalAccess => rfl
  | badOptionalAccessInline =>
    obtain ⟨ret1, hret1⟩ := Option.isSome_iff_exists.mp (h rfl)
    refine (optionalThrowBadOptionalAccess_eq c hret1).trans ?_
    simp only [parts, callers, hret1, Option.getD_some]
    rfl

lemma frameReadable_of_completed (h : (f.dump c).completed) : f.FrameReadable c := by
  rintro rfl
  by_contra hnone
  have hfault := PartialOutput.inOrder_completed_iff.mp h _
    (List.mem_cons_of_mem _ (List.mem_cons_of_mem _ List.mem_cons_self))
  rw [Option.not_isSome_iff_eq_none.mp hnone] at hfault
  exact Bool.false_ne_true hfault

/-- A word has a line when it is taken for a return address. -/
lemma isSome_wordPieces (tag : String) (i : ℕ) (word : UInt32) :
    (c.wordPieces tag i word).isSome = decide (AbortCall.IsReturnAddress word) := by
  unfold AbortCall.wordPieces
  split
  · rename_i hword
    rw [decide_eq_true (p := AbortCall.IsReturnAddress word) hword]
    rcases c.symbol word with _ | ⟨dli, sname⟩ <;> rfl
  · rename_i hword
    rw [decide_eq_false (p := AbortCall.IsReturnAddress word) hword]
    rfl

/-- The loop over the stack runs to its end when the words it looks at can be read. -/
lemma qnxDumpStack_completed_iff (tag : String) :
    (c.qnxDumpStack tag).completed ↔ c.StackReadable := by
  have hcount : ∀ i, (PartialOutput.linesOf c.stackWord
      (fun i word => (c.wordPieces tag i word).map formatted) (List.range i)).length =
        (c.returnAddresses i).length := by
    intro i
    rw [PartialOutput.linesOf, List.length_filterMap_eq_countP, AbortCall.returnAddresses,
      ← List.countP_eq_length_filter]
    refine List.countP_congr fun j _ => ?_
    rcases c.stackWord j with _ | word
    · exact Iff.rfl
    · rw [Option.bind_some, Option.isSome_map, isSome_wordPieces]
      exact Iff.rfl
  rw [AbortCall.qnxDumpStack, PartialOutput.search_completed_iff]
  constructor
  · intro h i hi hfew
    have hread := h i (by rwa [List.length_range])
    rw [List.take_range, Nat.min_eq_left hi.le, hcount, Nat.zero_add, List.getElem_range] at hread
    exact hread hfew
  · intro h i hi hfew
    rw [List.length_range] at hi
    rw [List.take_range, Nat.min_eq_left hi.le, hcount, Nat.zero_add] at hfew
    rw [List.getElem_range]
    exact h i hi hfew

lemma written_qnxDumpStack {tag : String} (h : c.StackReadable) :
    (c.qnxDumpStack tag).written = (c.stackLines tag).map formatted := by
  rw [AbortCall.qnxDumpStack,
    PartialOutput.written_search ((qnxDumpStack_completed_iff c tag).mpr h), Nat.sub_zero,
    AbortCall.stackLines, List.map_take, List.map_filterMap, PartialOutput.linesOf]
  refine congrArg (List.take 20) (List.filterMap_congr fun i _ => ?_)
  cases c.stackWord i <;> rfl

/-- The dump runs to its end when what it looks at can be read. -/
lemma dump_completed_iff :
    (f.dump c).completed ↔ f.FrameReadable c ∧ c.StackReadable := by
  have hparts : (PartialOutput.inOrder (f.parts c)).completed ↔ c.StackReadable := by
    rw [PartialOutput.inOrder_completed_iff, ← qnxDumpStack_completed_iff c f.stackTag, parts]
    refine ⟨fun h => h _ (by simp), fun h p hp => ?_⟩
    simp only [List.cons_append, List.mem_cons, List.mem_append, List.mem_map,
      List.not_mem_nil, or_false] at hp
    rcases hp with rfl | ⟨caller, -, rfl⟩ | rfl
    · rfl
    · rfl
    · exact h
  constructor
  · intro h
    have hframe := frameReadable_of_completed f c h
    rw [dump_eq_inOrder f c hframe] at h
    exact ⟨hframe, hparts.mp h⟩
  · rintro ⟨hframe, hstack⟩
    rw [dump_eq_inOrder f c hframe]
    exact hparts.mpr hstack

/-- What the dump has written then. -/
lemma written_dump (hframe : f.FrameReadable c) (hstack : c.StackReadable) :
    (f.dump c).written = (f.expectedLines c).map formatted := by
  have hcompleted := (dump_completed_iff f c).mpr ⟨hframe, hstack⟩
  rw [dump_eq_inOrder f c hframe] at hcompleted ⊢
  have hheading : formatted [.literal f.heading] = whole [.literal f.heading] := by
    refine (Crash.formatted_eq_whole_iff _).mpr ?_
    cases f <;> decide
  rw [PartialOutput.written_inOrder (PartialOutput.inOrder_completed_iff.mp hcompleted), parts,
    expectedLines, List.flatMap_append, List.flatMap_cons, List.flatMap_map,
    List.flatMap_singleton, written_qnxDumpStack c hstack, List.map_append, List.map_cons,
    hheading, List.map_filterMap, List.filterMap_eq_flatMap_toList]
  rfl

end ReplacedFunction

end ChromiumQnx
