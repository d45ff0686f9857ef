import ChromiumQnx.Foundation.RowCopy
import Mathlib.Algebra.Group.Nat.Defs

/-!
# Presenting the software canvas

`QnxScreenCanvas` draws into a Skia surface, whose size follows `ResizeCanvas`, and `PresentCanvas`
copies the surface row by row into the Screen buffer, whose size was chosen when the window was
created.  The number of bytes of a row is bounded by both row sizes; the number of rows is that of
the surface alone.

Skia and Screen are parameters: which surface a size gives, and what the calls of `PresentCanvas`
answer.  The main result says exactly when the copy loop stays inside the Screen buffer, reads only
the surface, and puts each of its rows in place.
-/

namespace ChromiumQnx

/-! ## Surfaces -/

/-- `gfx::Size`. -/
structure Size where
  width : ℤ
  height : ℤ
  deriving DecidableEq, Repr

/-- The pixels of a raster surface: `height` rows of `rowBytes` bytes.  An object's size is an
`int`, so the conversion of `rowBytes` to `int` is exact. -/
structure SkPixmap where
  height : ℕ
  rowBytes : ℕ
  addr : List UInt8
  length_addr : addr.length = height * rowBytes
  size_lt : height * rowBytes < 2 ^ 31

/-- The byte at an offset from `pixmap.addr()`. -/
def SkPixmap.byte (p : SkPixmap) (i : ℕ) : UInt8 := p.addr.getD i 0

/-- `SkSurfaces::Raster`: the surface for a size, null when there is none.  A surface has the height
asked for, and a row size of Skia's choice. -/
structure SkSurfaces where
  raster : Size → Option SkPixmap
  height_eq : ∀ size p, raster size = some p → (p.height : ℤ) = size.height

/-- `QnxScreenCanvas`: its surface. -/
structure QnxScreenCanvas where
  surface : Option SkPixmap

/-- `ResizeCanvas`, through `ResizeCanvasInternal`. -/
def resizeCanvas (skia : SkSurfaces) (size : Size) : QnxScreenCanvas :=
  ⟨skia.raster size⟩

/-! ## Presenting -/

/-- What `PresentCanvas` finds: whether there is a Screen window, the overlay callback's effect on
the bytes of the surface if a callback is installed and the surface has a canvas, the result of
asking for the render buffers, the pointer and the stride of the first of them, and whether
`peekPixels` gives access to the pixels. -/
structure PresentWorld where
  screenWindow : Bool
  overlay : Option (List UInt8 → List UInt8)
  length_overlay : ∀ paint ∈ overlay, ∀ bytes, (paint bytes).length = bytes.length
  renderBuffersRc : ℤ
  pointer : Bool
  stride : ℕ
  peekPixels : Bool

/-- The surface after the overlay callback, which draws on it. -/
def PresentWorld.paintOverlay (w : PresentWorld) (p : SkPixmap) : SkPixmap :=
  match h : w.overlay with
  | none => p
  | some paint =>
    { p with
      addr := paint p.addr
      length_addr := (w.length_overlay paint (Option.mem_def.mpr h) p.addr).trans p.length_addr }

/-- The copy loop of `PresentCanvas`: `h` rows of `copy_stride` bytes. -/
def copyLoop (p : SkPixmap) (stride : ℕ) (memory : ℕ → UInt8) : RowCopy.LoopState UInt8 :=
  RowCopy.rows p.byte p.rowBytes stride (min p.rowBytes stride) memory p.height

/-- `PresentCanvas`, up to its copy loop: the copied surface and the end of the loop, or nothing
when it is not reached.  The memory is that behind the pointer of the first render buffer. -/
def presentCanvas (w : PresentWorld) (canvas : QnxScreenCanvas) (memory : ℕ → UInt8) :
    Option (SkPixmap × RowCopy.LoopState UInt8) :=
  if !w.screenWindow then none else
  let surface := canvas.surface.map w.paintOverlay
  if w.renderBuffersRc ≠ 0 then none else
  if !w.pointer then none else
  match surface with
  | some p => if w.peekPixels then some (p, copyLoop p w.stride memory) else none
  | none => none

/-- The loop's copies lie inside a buffer of `bufferHeight` rows and inside the surface, and the
rows of the buffer that the surface covers hold as much of its rows as fits. -/
structure CopiedInside (w : PresentWorld) (bufferHeight : ℕ) (p : SkPixmap)
    (s : RowCopy.LoopState UInt8) : Prop where
  writes : ∀ c ∈ s.copies, ∀ j < c.len, c.dst + j < bufferHeight * w.stride
  reads : ∀ c ∈ s.copies, ∀ j < c.len, c.src + j < p.addr.length
  rows : ∀ y, y < p.height → y < bufferHeight → ∀ j, j < p.rowBytes → j < w.stride →
    s.memory (y * w.stride + j) = p.byte (y * p.rowBytes + j)

/-- What is promised of `PresentCanvas`: if it copies, it copies as it should. -/
def PresentsInside (w : PresentWorld) (bufferHeight : ℕ)
    (result : Option (SkPixmap × RowCopy.LoopState UInt8)) : Prop :=
  ∀ p s, result = some (p, s) → CopiedInside w bufferHeight p s

/-- `PresentCanvas` reaches its copy loop when there is a surface. -/
def PresentWorld.Copies (w : PresentWorld) : Prop :=
  w.screenWindow = true ∧ w.renderBuffersRc = 0 ∧ w.pointer = true ∧ w.peekPixels = true

/-- The surface is no higher than the buffer, or nothing is copied of its rows. -/
def SurfaceFits (w : PresentWorld) (bufferHeight : ℕ) (height : ℤ) (p : SkPixmap) : Prop :=
  height ≤ bufferHeight ∨ p.rowBytes = 0 ∨ w.stride = 0

/-! ## When the copy stays inside -/

/-- The overlay changes neither height nor row size. -/
lemma paintOverlay_frame (w : PresentWorld) (p : SkPixmap) :
    (w.paintOverlay p).height = p.height ∧ (w.paintOverlay p).rowBytes = p.rowBytes := by
  unfold PresentWorld.paintOverlay
  split <;> exact ⟨rfl, rfl⟩

/-- The loop that `PresentCanvas` runs. -/
lemma presentCanvas_eq_some_iff {w : PresentWorld} {canvas : QnxScreenCanvas}
    {memory : ℕ → UInt8} {p : SkPixmap} {s : RowCopy.LoopState UInt8} :
    presentCanvas w canvas memory = some (p, s) ↔
      w.Copies ∧ ∃ q, canvas.surface = some q ∧ p = w.paintOverlay q ∧
        s = copyLoop p w.stride memory := by
  unfold presentCanvas PresentWorld.Copies
  cases w.screenWindow with
  | false => simp
  | true =>
    by_cases hrc : w.renderBuffersRc = 0
    · cases w.pointer with
      | false => simp [hrc]
      | true =>
        cases canvas.surface with
        | none => simp [hrc]
        | some q =>
          cases w.peekPixels with
          | false => simp [hrc]
          | true =>
            simp only [hrc, Bool.not_true, Bool.false_eq_true, if_false, ne_eq, not_true_eq_false,
              Option.map_some, if_true, Option.some.injEq, Prod.mk.injEq, true_and, and_self]
            constructor
            · rintro ⟨rfl, rfl⟩
              exact ⟨q, rfl, rfl, rfl⟩
            · rintro ⟨_, rfl, rfl, rfl⟩
              exact ⟨rfl, rfl⟩
    · simp [hrc]

/-- The copy loop is right exactly when the surface is no higher than the buffer or its rows are
empty. -/
lemma copiedInside_copyLoop_iff (w : PresentWorld) (bufferHeight : ℕ) (p : SkPixmap)
    (memory : ℕ → UInt8) :
    CopiedInside w bufferHeight p (copyLoop p w.stride memory) ↔
      SurfaceFits w bufferHeight p.height p := by
  have hwrites : (∀ c ∈ (copyLoop p w.stride memory).copies, ∀ j < c.len,
      c.dst + j < bufferHeight * w.stride) ↔
        p.height ≤ bufferHeight ∨ min p.rowBytes w.stride = 0 :=
    RowCopy.writes_rows_iff (Nat.min_le_right p.rowBytes w.stride)
  have hfits : (p.height ≤ bufferHeight ∨ min p.rowBytes w.stride = 0) ↔
      SurfaceFits w bufferHeight p.height p := by
    unfold SurfaceFits
    omega
  constructor
  · intro h
    exact hfits.mp (hwrites.mp h.writes)
  · intro h
    refine ⟨hwrites.mpr (hfits.mpr h), ?_, ?_⟩
    · rw [p.length_addr]
      exact RowCopy.reads_rows (Nat.min_le_left p.rowBytes w.stride)
    · intro y hy _ j hrow hstride
      exact RowCopy.memory_rows (Nat.min_le_right p.rowBytes w.stride) hy (lt_min hrow hstride)

/-- A canvas of a size is presented right exactly when its surface is no higher than the buffer or
nothing is copied of it. -/
lemma presentsInside_resizeCanvas_iff (skia : SkSurfaces) (size : Size) (w : PresentWorld)
    (bufferHeight : ℕ) (memory : ℕ → UInt8) :
    PresentsInside w bufferHeight (presentCanvas w (resizeCanvas skia size) memory) ↔
      (w.Copies → ∀ p, skia.raster size = some p → SurfaceFits w bufferHeight size.height p) := by
  constructor
  · intro h hcopies p hp
    have hpresent : presentCanvas w (resizeCanvas skia size) memory =
        some (w.paintOverlay p, copyLoop (w.paintOverlay p) w.stride memory) :=
      presentCanvas_eq_some_iff.mpr ⟨hcopies, p, hp, rfl, rfl⟩
    obtain ⟨hheight, hrowBytes⟩ := paintOverlay_frame w p
    have hfits := (copiedInside_copyLoop_iff w bufferHeight _ memory).mp (h _ _ hpresent)
    unfold SurfaceFits at hfits ⊢
    rwa [hheight, hrowBytes, skia.height_eq size p hp] at hfits
  · intro h p s hpresent
    obtain ⟨hcopies, q, hq, rfl, rfl⟩ := presentCanvas_eq_some_iff.mp hpresent
    obtain ⟨hheight, hrowBytes⟩ := paintOverlay_frame w q
    have hfits := h hcopies q hq
    rw [copiedInside_copyLoop_iff]
    unfold SurfaceFits at hfits ⊢
    rwa [hheight, hrowBytes, skia.height_eq size q hq]

/-- **Exactness of the copy.**  For every size given to `ResizeCanvas`, every row size, stride and
buffer height, the copy loop of `PresentCanvas` stays inside the Screen buffer and the surface and
puts the rows in place, if and only if the size's height is at most that of the buffer whenever
there are bytes to copy. -/
theorem presentsInside_iff (skia : SkSurfaces) (size : Size) (w : PresentWorld) (bufferHeight : ℕ)
    (memory : ℕ → UInt8) :
    PresentsInside w bufferHeight (presentCanvas w (resizeCanvas skia size) memory) ↔
      (w.Copies → ∀ p, skia.raster size = some p → SurfaceFits w bufferHeight size.height p) :=
  presentsInside_resizeCanvas_iff skia size w bufferHeight memory

/-- A Skia that gives a surface of zeros, of four bytes a pixel, for small sizes. -/
def sampleSkia : SkSurfaces where
  raster size :=
    if h : size.height.toNat * (4 * size.width.toNat) < 2 ^ 31 ∧ 0 < size.height ∧
        0 < size.width then
      some
        { height := size.height.toNat
          rowBytes := 4 * size.width.toNat
          addr := List.replicate (size.height.toNat * (4 * size.width.toNat)) 0
          length_addr := List.length_replicate
          size_lt := h.1 }
    else none
  height_eq size p hp := by
    obtain ⟨hsize, hp⟩ := Option.dite_none_right_eq_some.mp hp
    cases hp
    exact Int.toNat_of_nonneg (Int.le_of_lt hsize.2.1)

/-- A working software window without an overlay, with a stride of eight bytes. -/
def sampleWorld : PresentWorld where
  screenWindow := true
  overlay := none
  length_overlay := nofun
  renderBuffersRc := 0
  pointer := true
  stride := 8
  peekPixels := true

/-- A canvas of two by three pixels is presented on a buffer of two rows of eight bytes: the third
row is written behind the buffer. -/
theorem tallCanvas_not_presentsInside :
    ¬ PresentsInside sampleWorld 2
      (presentCanvas sampleWorld (resizeCanvas sampleSkia ⟨2, 3⟩) fun _ => 0) := by
  intro h
  have hwrites := (h _ _ rfl).writes ⟨16, 16, 8⟩ (by decide) 0 (by decide)
  exact absurd hwrites (by decide)

end ChromiumQnx
