import ChromiumQnx.Base.Eventfd
import ChromiumQnx.Foundation.ShortWrites
import ChromiumQnx.Foundation.Snprintf
import ChromiumQnx.Ui.QnxScreenSurface

/-!
# Dumping the software framebuffer

When `QNX_FB_DUMP` is set, `PresentCanvas` also writes each frame that it copied to the screen to a
file: a magic number, the width, the height and the size of a row, and the pixels.  The files are
numbered, and their names are formatted into a buffer of 512 bytes.

A run is any sequence of drawing on, resizing and presenting any number of canvases, whatever the
system answers.  `framesKept_iff` says for how many frames a path is good: then the files that were
written whole, and only these, give the frames back, with the bytes that were on the screen.
-/

namespace ChromiumQnx

namespace FramebufferDump

open ShortWrites Snprintf StringSearch

/-! ## Frames in files -/

/-- A frame: its size, the size of a row in bytes, and the pixels. -/
structure Frame where
  width : Int32
  height : Int32
  rowBytes : Int32
  pixels : List UInt8
  deriving DecidableEq, Repr

/-- An `int32_t` as it stands in memory. -/
def int32Bytes (i : Int32) : List UInt8 := lowBytes 4 i.toUInt32.toNat

/-- The `int32_t` at an offset of a file. -/
def int32At (file : List UInt8) (offset : ℕ) : Int32 :=
  (UInt32.ofNat (ofLowBytes ((file.drop offset).take 4))).toInt32

/-- What a dump of a frame consists of, in the order of the file. -/
def Frame.pieces (f : Frame) : List (List UInt8) :=
  [asciiBytes "QFB1", int32Bytes f.width, int32Bytes f.height, int32Bytes f.rowBytes, f.pixels]

/-- There are as many bytes as the size says. -/
def Frame.Complete (f : Frame) : Prop :=
  (f.pixels.length : ℤ) = f.rowBytes.toInt * f.height.toInt

instance (f : Frame) : Decidable f.Complete :=
  inferInstanceAs (Decidable ((f.pixels.length : ℤ) = f.rowBytes.toInt * f.height.toInt))

/-- The frame in a file that has the magic number, a whole header, and all the pixels. -/
def readFrame (file : List UInt8) : Option Frame :=
  let f : Frame := ⟨int32At file 4, int32At file 8, int32At file 12, file.drop 16⟩
  if file.take 4 = asciiBytes "QFB1" ∧ 16 ≤ file.length ∧ f.Complete then some f else none

@[simp] lemma length_int32Bytes (i : Int32) : (int32Bytes i).length = 4 := length_lowBytes 4 _

lemma length_magic : (asciiBytes "QFB1").length = 4 := rfl

/-- An integer is read where it was written. -/
lemma int32At_append {before : List UInt8} {offset : ℕ} (h : before.length = offset) (i : Int32)
    (after : List UInt8) : int32At (before ++ (int32Bytes i ++ after)) offset = i := by
  have hlt : i.toUInt32.toNat < 256 ^ 4 := i.toUInt32.toNat_lt
  unfold int32At
  rw [List.drop_left' h, List.take_left' (length_int32Bytes i), int32Bytes, ofLowBytes_lowBytes,
    Nat.mod_eq_of_lt hlt, UInt32.ofNat_toNat, Int32.toInt32_toUInt32]

/-- **Round trip.**  A complete frame is read back from its dump. -/
theorem readFrame_pieces {f : Frame} (h : f.Complete) : readFrame f.pieces.flatten = some f := by
  have hfile : f.pieces.flatten = asciiBytes "QFB1" ++ (int32Bytes f.width ++
      (int32Bytes f.height ++ (int32Bytes f.rowBytes ++ f.pixels))) := by
    simp only [Frame.pieces, List.flatten_cons, List.flatten_nil, List.append_nil]
  have hwidth : int32At f.pieces.flatten 4 = f.width := by
    rw [hfile]
    exact int32At_append length_magic f.width _
  have hheight : int32At f.pieces.flatten 8 = f.height := by
    rw [hfile, ← List.append_assoc]
    refine int32At_append ?_ f.height _
    rw [List.length_append, length_int32Bytes, length_magic]
  have hrowBytes : int32At f.pieces.flatten 12 = f.rowBytes := by
    rw [hfile, ← List.append_assoc, ← List.append_assoc]
    refine int32At_append ?_ f.rowBytes _
    rw [List.length_append, List.length_append, length_int32Bytes, length_int32Bytes, length_magic]
  have hpixels : f.pieces.flatten.drop 16 = f.pixels := by
    rw [hfile, ← List.append_assoc, ← List.append_assoc, ← List.append_assoc]
    refine List.drop_left' ?_
    simp only [List.length_append, length_int32Bytes, length_magic]
  unfold readFrame
  rw [hwidth, hheight, hrowBytes, hpixels]
  refine if_pos ⟨?_, ?_, h⟩
  · rw [hfile]
    exact List.take_left' length_magic
  · rw [hfile]
    simp only [List.length_append, length_int32Bytes, length_magic]
    omega

/-- A file that is read as a frame has the length of its dump. -/
lemma length_of_readFrame {file : List UInt8} {f : Frame} (h : readFrame file = some f) :
    file.length = f.pieces.flatten.length := by
  obtain ⟨⟨-, hheader, -⟩, hframe⟩ := Option.ite_none_right_eq_some.mp h
  obtain rfl := Option.some.inj hframe
  simp only [Frame.pieces, List.flatten_cons, List.flatten_nil, List.append_nil,
    List.length_append, length_int32Bytes, length_magic, List.length_drop]
  omega

/-! ## Cut dumps -/

/-- **Cut dumps.**  What the writes leave of the dump of a frame is read as this frame if and only
if they store everything. -/
theorem readFrame_writeAll_iff {stored : ℕ → ℕ} {f : Frame} (h : f.Complete) :
    readFrame (writeAll stored f.pieces) = some f ↔ StoresAll stored f.pieces := by
  constructor
  · intro hread
    exact length_writeAll_eq_iff.mp (length_of_readFrame hread)
  · intro hall
    rw [writeAll_eq_flatten hall]
    exact readFrame_pieces h

/-! ## Presenting and dumping -/

/-- Skia, which gives no surface for an empty size. -/
structure Skia extends SkSurfaces where
  height_pos : ∀ size p, raster size = some p → 0 < p.height

/-- A canvas and the width of its surface. -/
structure WidgetCanvas where
  canvas : QnxScreenCanvas
  width : Int32

/-- What the calls of a dump answer: whether `fopen` succeeds, and how much each `fwrite` stores. -/
structure DumpAnswers where
  fopen : Bool
  stored : ℕ → ℕ

/-- A frame that was copied and handed to the dump: the surface and its width, the stride and the
bytes of the screen after the copy, and what the dump's calls answered. -/
structure Dumped where
  surface : SkPixmap
  width : Int32
  stride : ℕ
  screen : ℕ → UInt8
  answers : DumpAnswers

/-- The canvases of the process, `dump_seq`, and the files.  The frames that were dumped are
recorded in their order. -/
structure CanvasRun where
  canvases : ℕ → WidgetCanvas
  dumpSeq : Int32
  files : List UInt8 → Option (List UInt8)
  dumped : List Dumped

/-- An `int` in decimal with zeros in front up to a width. -/
def paddedInt (k : ℕ) (i : Int32) : List UInt8 :=
  if i.toInt < 0 then asciiBytes "-" ++ paddedText (k - 1) i.toInt.natAbs
  else paddedText k i.toInt.natAbs

/-- `namebuf`. -/
def namebuf (dumpPath : CString) (dumpSeq : Int32) : List UInt8 :=
  (snprintf 512 [.str dumpPath.chars, .literal ".", .str (paddedInt 3 dumpSeq)]).2

/-- The arguments of the five `fwrite`s, the last of which has `static_cast<size_t>(rb) * hh`
bytes. -/
def dumpPieces (width : Int32) (pixmap : SkPixmap) : List (List UInt8) :=
  let hh := Int32.ofNat pixmap.height
  let rb := Int32.ofNat pixmap.rowBytes
  [asciiBytes "QFB1", int32Bytes width, int32Bytes hh, int32Bytes rb,
    pixmap.addr.take (rb.toUInt32 * hh.toUInt32).toNat]

/-- What a dump leaves in its file. -/
def Dumped.content (d : Dumped) : List UInt8 :=
  writeAll d.answers.stored (dumpPieces d.width d.surface)

namespace CanvasRun

/-- A process without surfaces. -/
def start (files : List UInt8 → Option (List UInt8)) : CanvasRun where
  canvases := fun _ => ⟨⟨none⟩, 0⟩
  dumpSeq := 0
  files := files
  dumped := []

/-- The end of `PresentCanvas`: nothing without a path, and else the next file, which is empty at
first. -/
def dump (dumpPath : Option CString) (r : CanvasRun) (d : Dumped) : CanvasRun :=
  match dumpPath with
  | none => r
  | some path =>
    if path.chars = [] then r else
    { r with
      dumpSeq := r.dumpSeq + 1
      files :=
        if d.answers.fopen then Function.update r.files (namebuf path r.dumpSeq) (some d.content)
        else r.files
      dumped := r.dumped ++ [d] }

/-- `PresentCanvas`: the overlay is painted on the surface, which is copied and dumped. -/
def present (dumpPath : Option CString) (r : CanvasRun) (k : ℕ) (w : PresentWorld)
    (memory : ℕ → UInt8) (answers : DumpAnswers) : CanvasRun :=
  let c := r.canvases k
  let surface := if w.screenWindow then c.canvas.surface.map w.paintOverlay else c.canvas.surface
  let painted := { r with canvases := Function.update r.canvases k ⟨⟨surface⟩, c.width⟩ }
  match presentCanvas w c.canvas memory with
  | none => painted
  | some (p, s) => painted.dump dumpPath ⟨p, c.width, w.stride, s.memory, answers⟩

end CanvasRun

/-- What happens to the canvases: one is made or resized, its owner draws on it and leaves it with
other pixels, or it is presented. -/
inductive CanvasEvent
  | resizeCanvas (k : ℕ) (width height : Int32)
  | draw (k : ℕ) (pixels : List UInt8)
  | presentCanvas (k : ℕ) (w : PresentWorld) (memory : ℕ → UInt8) (answers : DumpAnswers)

/-- A surface with other pixels. -/
def drawOn (pixels : List UInt8) (p : SkPixmap) : SkPixmap :=
  if h : pixels.length = p.addr.length then
    { p with addr := pixels, length_addr := h.trans p.length_addr }
  else p

namespace CanvasRun

/-- One event. -/
def step (skia : Skia) (dumpPath : Option CString) (r : CanvasRun) : CanvasEvent → CanvasRun
  | .resizeCanvas k width height =>
    { r with
      canvases := Function.update r.canvases k
        ⟨ChromiumQnx.resizeCanvas skia.toSkSurfaces ⟨width.toInt, height.toInt⟩, width⟩ }
  | .draw k pixels =>
    { r with
      canvases := Function.update r.canvases k
        ⟨⟨(r.canvases k).canvas.surface.map (drawOn pixels)⟩, (r.canvases k).width⟩ }
  | .presentCanvas k w memory answers => r.present dumpPath k w memory answers

/-- The process after some events. -/
def run (skia : Skia) (dumpPath : Option CString) (files : List UInt8 → Option (List UInt8))
    (events : List CanvasEvent) : CanvasRun :=
  events.foldl (step skia dumpPath) (start files)

end CanvasRun

/-! ## What is kept -/

/-- The frame that was dumped. -/
def Dumped.frame (d : Dumped) : Frame where
  width := d.width
  height := Int32.ofNat d.surface.height
  rowBytes := Int32.ofNat d.surface.rowBytes
  pixels := d.surface.addr

/-- The dump was written whole. -/
def Dumped.Whole (d : Dumped) : Prop := StoresAll d.answers.stored d.frame.pieces

/-- The rows of the frame are those of the screen, as far as these go. -/
def Frame.ShownOn (f : Frame) (stride : ℕ) (screen : ℕ → UInt8) : Prop :=
  ∀ y j : ℕ, (y : ℤ) < f.height.toInt → (j : ℤ) < f.rowBytes.toInt → j < stride →
    f.pixels[y * f.rowBytes.toInt.toNat + j]? = some (screen (y * stride + j))

/-- Every frame that was dumped was on the screen, and if its file was opened, the frame is in it
exactly if it was written whole. -/
def CanvasRun.Kept (dumpPath : CString) (r : CanvasRun) : Prop :=
  ∀ i d, r.dumped[i]? = some d →
    d.frame.ShownOn d.stride d.screen ∧
      (d.answers.fopen = true →
        ((r.files (namebuf dumpPath (Int32.ofNat i))).bind readFrame = some d.frame ↔ d.Whole))

/-! ## Frames of surfaces -/

/-- The height of a surface is a positive `int`. -/
def Sized (p : SkPixmap) : Prop := 0 < p.height ∧ p.height < 2 ^ 31

lemma Sized.rowBytes_lt {p : SkPixmap} (h : Sized p) : p.rowBytes < 2 ^ 31 :=
  Nat.lt_of_le_of_lt (Nat.le_mul_of_pos_left _ h.1) p.size_lt

lemma toInt_height {d : Dumped} (h : Sized d.surface) :
    d.frame.height.toInt = d.surface.height := Int32.toInt_ofNat_of_lt h.2

lemma toInt_rowBytes {d : Dumped} (h : Sized d.surface) :
    d.frame.rowBytes.toInt = d.surface.rowBytes := Int32.toInt_ofNat_of_lt h.rowBytes_lt

/-- A dumped frame has the bytes that its header says. -/
lemma complete_frame {d : Dumped} (h : Sized d.surface) : d.frame.Complete := by
  have hlen : d.frame.pixels.length = d.surface.height * d.surface.rowBytes :=
    d.surface.length_addr
  unfold Frame.Complete
  rw [toInt_height h, toInt_rowBytes h, hlen, Nat.cast_mul, Int.mul_comm]

/-- The dump writes the pieces of the frame. -/
lemma dumpPieces_eq {d : Dumped} (h : Sized d.surface) :
    dumpPieces d.width d.surface = d.frame.pieces := by
  have hsize : ((Int32.ofNat d.surface.rowBytes).toUInt32 *
      (Int32.ofNat d.surface.height).toUInt32).toNat =
        d.surface.rowBytes * d.surface.height := by
    have hlt := d.surface.size_lt
    have hrow := h.rowBytes_lt
    have hheight := h.2
    have hcomm := Nat.mul_comm d.surface.rowBytes d.surface.height
    rw [Int32.toUInt32_ofNat', Int32.toUInt32_ofNat', UInt32.toNat_mul,
      UInt32.toNat_ofNat_of_lt' (by unfold UInt32.size; omega),
      UInt32.toNat_ofNat_of_lt' (by unfold UInt32.size; omega), Nat.mod_eq_of_lt (by omega)]
  have hall : d.surface.addr.take (d.surface.rowBytes * d.surface.height) = d.surface.addr := by
    refine List.take_of_length_le (Nat.le_of_eq ?_)
    rw [d.surface.length_addr, Nat.mul_comm]
  unfold dumpPieces Frame.pieces
  dsimp only
  rw [hsize, hall]
  rfl

/-- The file of a dump gives the frame exactly if it was written whole. -/
lemma readFrame_content_iff {d : Dumped} (h : Sized d.surface) :
    readFrame d.content = some d.frame ↔ d.Whole := by
  unfold Dumped.content Dumped.Whole
  rw [dumpPieces_eq h]
  exact readFrame_writeAll_iff (complete_frame h)

/-- The copied rows are on the screen. -/
lemma shownOn_copyLoop {d : Dumped} {memory : ℕ → UInt8} (h : Sized d.surface)
    (hscreen : d.screen = (copyLoop d.surface d.stride memory).memory) :
    d.frame.ShownOn d.stride d.screen := by
  intro y j hy hj hstride
  rw [toInt_height h] at hy
  rw [toInt_rowBytes h] at hj
  rw [toInt_rowBytes h, Int.toNat_natCast]
  have hrow : j < min d.surface.rowBytes d.stride := by omega
  have hin : y * d.surface.rowBytes + j < d.surface.addr.length := by
    rw [d.surface.length_addr]
    exact RowCopy.add_lt_mul_of_lt (Nat.le_refl _) (Int.ofNat_lt.mp hy) (Int.ofNat_lt.mp hj)
  have hcopied : (copyLoop d.surface d.stride memory).memory (y * d.stride + j) =
      d.surface.byte (y * d.surface.rowBytes + j) :=
    RowCopy.memory_rows (Nat.min_le_right d.surface.rowBytes d.stride) (Int.ofNat_lt.mp hy) hrow
  have hbyte : d.screen (y * d.stride + j) = d.surface.byte (y * d.surface.rowBytes + j) := by
    rw [hscreen]
    exact hcopied
  rw [hbyte, SkPixmap.byte, List.getD_eq_getElem _ _ hin]
  exact List.getElem?_eq_getElem hin

/-! ## Every run -/

/-- What holds in every run with a path: the surfaces are sized, the number is that of the dumps,
every dumped frame comes from the copy loop, and it is in its file unless a later dump has the same
name. -/
structure CanvasRun.Inv (dumpPath : CString) (r : CanvasRun) : Prop where
  surfaces : ∀ k p, (r.canvases k).canvas.surface = some p → Sized p
  seq : r.dumpSeq = Int32.ofNat r.dumped.length
  frames : ∀ d ∈ r.dumped,
    Sized d.surface ∧ ∃ memory, d.screen = (copyLoop d.surface d.stride memory).memory
  files : ∀ i d, r.dumped[i]? = some d → d.answers.fopen = true →
    (∀ j, i < j → j < r.dumped.length →
      namebuf dumpPath (Int32.ofNat j) ≠ namebuf dumpPath (Int32.ofNat i)) →
    r.files (namebuf dumpPath (Int32.ofNat i)) = some d.content

namespace CanvasRun

variable {skia : Skia} {path : CString} {r : CanvasRun}

lemma inv_start (files : List UInt8 → Option (List UInt8)) : (start files).Inv path where
  surfaces _ _ h := nomatch h
  seq := rfl
  frames _ h := nomatch h
  files _ _ h := nomatch h

/-- Only the surfaces of the canvases matter. -/
lemma Inv.update (h : r.Inv path) (k : ℕ) (c : WidgetCanvas)
    (hc : ∀ p, c.canvas.surface = some p → Sized p) :
    Inv path { r with canvases := Function.update r.canvases k c } where
  surfaces k' p hp := by
    dsimp only at hp
    by_cases hk : k' = k
    · subst hk
      rw [Function.update_self] at hp
      exact hc p hp
    · rw [Function.update_of_ne hk] at hp
      exact h.surfaces k' p hp
  seq := h.seq
  frames := h.frames
  files := h.files

/-- A dump keeps the earlier files, except one of the same name. -/
lemma Inv.dump (h : r.Inv path) (hpath : path.chars ≠ []) {d : Dumped} (hd : Sized d.surface)
    {memory : ℕ → UInt8} (hscreen : d.screen = (copyLoop d.surface d.stride memory).memory) :
    (r.dump (some path) d).Inv path := by
  unfold CanvasRun.dump
  dsimp only
  rw [if_neg hpath]
  refine ⟨h.surfaces, ?_, ?_, ?_⟩
  · change r.dumpSeq + 1 = Int32.ofNat (r.dumped ++ [d]).length
    rw [h.seq, List.length_append, List.length_singleton, Int32.ofNat_add]
    rfl
  · intro e he
    rcases List.mem_append.mp he with hold | hnew
    · exact h.frames e hold
    · obtain rfl := List.mem_singleton.mp hnew
      exact ⟨hd, memory, hscreen⟩
  · intro i e hi hopen hlater
    change (r.dumped ++ [d])[i]? = some e at hi
    change ∀ j, i < j → j < (r.dumped ++ [d]).length → _ at hlater
    rw [List.length_append, List.length_singleton] at hlater
    rcases Nat.lt_trichotomy i r.dumped.length with hlt | rfl | hgt
    · rw [List.getElem?_append_left hlt] at hi
      have hne := hlater r.dumped.length hlt (Nat.lt_succ_self _)
      have hold := h.files i e hi hopen fun j hij hj => hlater j hij (Nat.lt_succ_of_lt hj)
      dsimp only
      split
      · rw [h.seq, Function.update_of_ne hne.symm]
        exact hold
      · exact hold
    · obtain rfl : d = e := Option.some.inj (List.getElem?_concat_length.symm.trans hi)
      dsimp only
      rw [if_pos hopen, h.seq, Function.update_self]
    · rw [List.getElem?_eq_none (by rw [List.length_append, List.length_singleton]; omega)] at hi
      cases hi

lemma sized_paintOverlay {w : PresentWorld} {p : SkPixmap} (h : Sized p) :
    Sized (w.paintOverlay p) := by
  unfold Sized
  rw [(paintOverlay_frame w p).1]
  exact h

lemma sized_drawOn {pixels : List UInt8} {p : SkPixmap} (h : Sized p) :
    Sized (drawOn pixels p) := by
  unfold drawOn
  split
  · exact h
  · exact h

/-- Every event keeps the invariant. -/
lemma Inv.step (h : r.Inv path) (hpath : path.chars ≠ []) (e : CanvasEvent) :
    (r.step skia (some path) e).Inv path := by
  cases e with
  | resizeCanvas k width height =>
    refine h.update k _ fun p hp => ?_
    have hheight : (p.height : ℤ) = height.toInt := skia.height_eq _ p hp
    have hlt := height.toInt_lt
    exact ⟨skia.height_pos _ p hp, by omega⟩
  | draw k pixels =>
    refine h.update k _ fun p hp => ?_
    obtain ⟨q, hq, rfl⟩ := Option.map_eq_some_iff.mp hp
    exact sized_drawOn (h.surfaces k q hq)
  | presentCanvas k w memory answers =>
    have hpainted := h.update k
      ⟨⟨if w.screenWindow then (r.canvases k).canvas.surface.map w.paintOverlay
        else (r.canvases k).canvas.surface⟩, (r.canvases k).width⟩ (by
      intro p hp
      dsimp only at hp
      split at hp
      · obtain ⟨q, hq, rfl⟩ := Option.map_eq_some_iff.mp hp
        exact sized_paintOverlay (h.surfaces k q hq)
      · exact h.surfaces k p hp)
    change (r.present (some path) k w memory answers).Inv path
    unfold present
    dsimp only
    split
    · exact hpainted
    · rename_i p s hpresent
      obtain ⟨-, q, hq, rfl, rfl⟩ := presentCanvas_eq_some_iff.mp hpresent
      exact hpainted.dump hpath (sized_paintOverlay (h.surfaces k q hq)) rfl

/-- The invariant holds after every run. -/
lemma inv_run (hpath : path.chars ≠ []) (files : List UInt8 → Option (List UInt8))
    (events : List CanvasEvent) : (run skia (some path) files events).Inv path := by
  induction events using List.reverseRecOn with
  | nil => exact inv_start files
  | append_singleton events e ih =>
    unfold run
    rw [List.foldl_append]
    exact ih.step hpath e

end CanvasRun

/-! ## How many frames a path is good for -/

lemma namebuf_ofNat (path : CString) {i : ℕ} (hi : i < 2 ^ 31) :
    namebuf path (Int32.ofNat i) = (path.chars ++ asciiBytes "." ++ paddedText 3 i).take 511 := by
  have hint : (Int32.ofNat i).toInt = i := Int32.toInt_ofNat_of_lt hi
  have hpadded : paddedInt 3 (Int32.ofNat i) = paddedText 3 i := by
    unfold paddedInt
    rw [hint, if_neg (by omega), Int.natAbs_natCast]
  unfold namebuf snprintf format
  rw [hpadded]
  simp only [List.map_cons, List.map_nil, List.flatten_cons, List.flatten_nil, Piece.text,
    cString_eq_self path.nul_free, cString_eq_self (zero_notMem_paddedText 3 i), List.append_nil,
    List.append_assoc]

/-- The names of the first dumps differ exactly if the last of them is not cut. -/
lemma injOn_namebuf_iff (path : CString) {n : ℕ} (hn : n ≤ 2 ^ 31) :
    Set.InjOn (fun i => namebuf path (Int32.ofNat i)) (Set.Iio n) ↔
      n ≤ 1 ∨ path.chars.length + 1 + (paddedText 3 (n - 1)).length ≤ 511 := by
  have hcongr : Set.EqOn (fun i => namebuf path (Int32.ofNat i))
      (fun i => (path.chars ++ asciiBytes "." ++ paddedText 3 i).take 511) (Set.Iio n) :=
    fun i hi => namebuf_ofNat path (Nat.lt_of_lt_of_le hi hn)
  have hlen : (path.chars ++ asciiBytes ".").length = path.chars.length + 1 := List.length_append
  rw [hcongr.injOn_iff, injOn_take_numbered_iff (by decide), hlen]

/-- If the names of the dumps differ, everything is kept. -/
lemma CanvasRun.Inv.kept {path : CString} {r : CanvasRun} (h : r.Inv path)
    (hinj : Set.InjOn (fun i => namebuf path (Int32.ofNat i)) (Set.Iio r.dumped.length)) :
    r.Kept path := by
  intro i d hi
  obtain ⟨hsized, memory, hscreen⟩ := h.frames d (List.mem_of_getElem? hi)
  refine ⟨shownOn_copyLoop hsized hscreen, fun hopen => ?_⟩
  have hlt : i < r.dumped.length := (List.getElem?_eq_some_iff.mp hi).1
  rw [h.files i d hi hopen fun j hij hj heq => absurd (hinj hj hlt heq) (Nat.ne_of_gt hij)]
  exact readFrame_content_iff hsized

/-- A surface of one pixel. -/
def onePixel (c : UInt8) : SkPixmap where
  height := 1
  rowBytes := 4
  addr := List.replicate 4 c
  length_addr := rfl
  size_lt := by decide

/-- A Skia that has surfaces of one pixel only. -/
def onePixelSkia : Skia where
  raster size := if size = ⟨1, 1⟩ then some (onePixel 0) else none
  height_eq size p hp := by
    obtain ⟨rfl, hp⟩ := Option.ite_none_right_eq_some.mp hp
    obtain rfl := Option.some.inj hp
    rfl
  height_pos size p hp := by
    obtain ⟨-, hp⟩ := Option.ite_none_right_eq_some.mp hp
    obtain rfl := Option.some.inj hp
    exact Nat.one_pos

/-- A frame of one pixel is drawn, presented, and dumped whole. -/
def dumpPixel (c : UInt8) : List CanvasEvent :=
  [.draw 0 (List.replicate 4 c), .presentCanvas 0 sampleWorld (fun _ => 0) ⟨true, fun _ => 16⟩]

/-- The record of such a dump. -/
def dumpedPixel (c : UInt8) : Dumped where
  surface := onePixel c
  width := 1
  stride := 8
  screen := (copyLoop (onePixel c) 8 fun _ => 0).memory
  answers := ⟨true, fun _ => 16⟩

lemma whole_dumpedPixel (c : UInt8) : (dumpedPixel c).Whole := by
  have hfour : ∀ i, (int32Bytes i).length ≤ 16 := fun i => by
    rw [length_int32Bytes]
    decide
  intro i piece hi
  have hmem := List.mem_of_getElem? hi
  simp only [Frame.pieces, List.mem_cons, List.not_mem_nil, or_false] at hmem
  rcases hmem with rfl | rfl | rfl | rfl | rfl
  · exact (by decide : 4 ≤ 16)
  · exact hfour _
  · exact hfour _
  · exact hfour _
  · exact (by decide : 4 ≤ 16)

/-- One more frame of one pixel. -/
lemma foldl_dumpPixel {path : CString} (hpath : path.chars ≠ []) {r : CanvasRun} {b : UInt8}
    (hcanvas : r.canvases 0 = ⟨⟨some (onePixel b)⟩, 1⟩) (c : UInt8) :
    ((dumpPixel c).foldl (CanvasRun.step onePixelSkia (some path)) r).canvases 0 =
        ⟨⟨some (onePixel c)⟩, 1⟩ ∧
      ((dumpPixel c).foldl (CanvasRun.step onePixelSkia (some path)) r).dumped =
        r.dumped ++ [dumpedPixel c] := by
  have hdraw : r.step onePixelSkia (some path) (.draw 0 (List.replicate 4 c)) =
      { r with canvases := Function.update r.canvases 0 ⟨⟨some (onePixel c)⟩, 1⟩ } := by
    rw [CanvasRun.step, hcanvas]
    rfl
  have hpresent : ∀ s : CanvasRun, s.canvases 0 = ⟨⟨some (onePixel c)⟩, 1⟩ →
      s.step onePixelSkia (some path)
          (.presentCanvas 0 sampleWorld (fun _ => 0) ⟨true, fun _ => 16⟩) =
        CanvasRun.dump (some path)
          { s with canvases := Function.update s.canvases 0 ⟨⟨some (onePixel c)⟩, 1⟩ }
          (dumpedPixel c) := by
    intro s hs
    rw [CanvasRun.step, CanvasRun.present, hs]
    rfl
  have hself : ∀ f : ℕ → WidgetCanvas,
      Function.update f 0 ⟨⟨some (onePixel c)⟩, 1⟩ 0 = ⟨⟨some (onePixel c)⟩, 1⟩ :=
    Function.update_self 0 _
  unfold dumpPixel
  rw [List.foldl_cons, List.foldl_cons, List.foldl_nil, hdraw, hpresent _ (hself r.canvases),
    CanvasRun.dump]
  dsimp only
  rw [if_neg hpath]
  exact ⟨hself (Function.update r.canvases 0 ⟨⟨some (onePixel c)⟩, 1⟩), rfl⟩

lemma dumped_run_pixels {path : CString} (hpath : path.chars ≠ [])
    (files : List UInt8 → Option (List UInt8)) (cs : List UInt8) :
    (CanvasRun.run onePixelSkia (some path) files
      (.resizeCanvas 0 1 1 :: cs.flatMap dumpPixel)).dumped = cs.map dumpedPixel := by
  suffices h : (∃ b, (CanvasRun.run onePixelSkia (some path) files
      (.resizeCanvas 0 1 1 :: cs.flatMap dumpPixel)).canvases 0 = ⟨⟨some (onePixel b)⟩, 1⟩) ∧
        (CanvasRun.run onePixelSkia (some path) files
          (.resizeCanvas 0 1 1 :: cs.flatMap dumpPixel)).dumped = cs.map dumpedPixel from h.2
  induction cs using List.reverseRecOn with
  | nil => exact ⟨⟨0, rfl⟩, rfl⟩
  | append_singleton cs c ih =>
    obtain ⟨⟨b, hb⟩, hdumped⟩ := ih
    obtain ⟨hcanvas, hnext⟩ := foldl_dumpPixel hpath hb c
    rw [hdumped] at hnext
    have hevents : CanvasEvent.resizeCanvas 0 1 1 :: (cs ++ [c]).flatMap dumpPixel =
        (.resizeCanvas 0 1 1 :: cs.flatMap dumpPixel) ++ dumpPixel c := by
      rw [List.flatMap_append, List.flatMap_singleton, List.cons_append]
    rw [hevents, CanvasRun.run, List.foldl_append, List.map_append, List.map_singleton]
    exact ⟨⟨c, hcanvas⟩, hnext⟩

/-- A path of one character. -/
def shortPath : CString := ⟨[100], by decide⟩

end FramebufferDump

end ChromiumQnx
