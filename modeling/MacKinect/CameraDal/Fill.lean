import Mathlib.Data.List.GetD
import MacKinect.CInt
import MacKinect.FreenectV1.Frames

/-! `CreateSampleBuffer` (dal_plugin/KinectCameraDALPlugin.cpp): `FillFromRGB` scales the frame
`nextRGB` returned by nearest neighbour in the code's `int` arithmetic, and `FillFallbackPattern`
draws a moving gradient otherwise. A pixel whose reads leave the source buffer is `none`. -/
namespace MacKinect.CameraDal

def kOutputWidth : Nat := 640
def kOutputHeight : Nat := 480

abbrev Bgra := UInt8 × UInt8 × UInt8 × UInt8

def fallbackPixel (frameIndex x y : Nat) : Bgra :=
  (UInt8.ofNat ((x + y + frameIndex * 3) % 256), UInt8.ofNat ((y + frameIndex * 2) % 256),
    UInt8.ofNat ((x + frameIndex) % 256), 255)

/-- FillFromRGB's guard
`src_width <= 0 || src_height <= 0 || rgb.size() < static_cast<std::size_t>(src_width * src_height * 3)`:
true when it falls back. -/
def fillRejects (size : Nat) (srcWidth srcHeight : Int) : Bool :=
  srcWidth ≤ 0 || srcHeight ≤ 0 || size < unsignedOf 64 (int32 (int32 (srcWidth * srcHeight) * 3))

def sourceRow (srcHeight : Int) (y : Nat) : Int := (int32 (y * srcHeight)).tdiv kOutputHeight

def sourceColumn (srcWidth : Int) (x : Nat) : Int := (int32 (x * srcWidth)).tdiv kOutputWidth

/-- `si = static_cast<std::size_t>((sy * src_width + sx) * 3)`. -/
def sourceIndex (srcWidth srcHeight : Int) (x y : Nat) : Nat :=
  unsignedOf 64
    (int32 (int32 (int32 (sourceRow srcHeight y * srcWidth) + sourceColumn srcWidth x) * 3))

def pixelReads (srcWidth srcHeight : Int) (x y : Nat) : List Nat :=
  let si := sourceIndex srcWidth srcHeight x y
  [(si + 2) % 2 ^ 64, (si + 1) % 2 ^ 64, si]

/-- The pixel FillFromRGB writes at `(x, y)`: `rgb[si + 2]`, `rgb[si + 1]`, `rgb[si + 0]`, 255. -/
def fillPixel (rgb : List UInt8) (srcWidth srcHeight : Int) (x y : Nat) : Option Bgra :=
  let si := sourceIndex srcWidth srcHeight x y
  do
    let b ← rgb[(si + 2) % 2 ^ 64]?
    let g ← rgb[(si + 1) % 2 ^ 64]?
    let r ← rgb[si]?
    pure (b, g, r, 255)

/-- `FillFromRGB`; `frameCounter` is `gFrameCounter.load()`. -/
def fillFromRGB (rgb : List UInt8) (srcWidth srcHeight : Int) (frameCounter : Nat) :
    Nat → Nat → Option Bgra :=
  if fillRejects rgb.length srcWidth srcHeight then fun x y => some (fallbackPixel frameCounter x y)
  else fillPixel rgb srcWidth srcHeight

/-- `KinectFrameSource::nextRGB` on the frame the device's `getFrame` returned, if any. -/
def nextRGB : Option FrameData → Option (List UInt8 × Int × Int)
  | some frame =>
    if frame.rgb = [] ∨ frame.width ≤ 0 ∨ frame.height ≤ 0 then none
    else some (frame.rgb, frame.width, frame.height)
  | none => none

def createSampleBuffer (next : Option (List UInt8 × Int × Int)) (frameIndex frameCounter : Nat) :
    Nat → Nat → Option Bgra :=
  match next with
  | some (rgb, srcWidth, srcHeight) => fillFromRGB rgb srcWidth srcHeight frameCounter
  | none => fun x y => some (fallbackPixel frameIndex x y)

/-! ## Reads -/

theorem fillFromRGB_of_accepted {rgb : List UInt8} {srcWidth srcHeight : Int} (frameCounter : Nat)
    (accepted : fillRejects rgb.length srcWidth srcHeight = false) :
    fillFromRGB rgb srcWidth srcHeight frameCounter = fillPixel rgb srcWidth srcHeight := by
  rw [fillFromRGB, accepted, if_neg Bool.false_ne_true]

theorem pixelReads_eq (srcWidth srcHeight : Int) (x y : Nat) :
    pixelReads srcWidth srcHeight x y = [(sourceIndex srcWidth srcHeight x y + 2) % 2 ^ 64,
      (sourceIndex srcWidth srcHeight x y + 1) % 2 ^ 64, sourceIndex srcWidth srcHeight x y] :=
  rfl

theorem bgrReads_eq_none_iff (rgb : List UInt8) (blue green red : Nat) :
    (do let b ← rgb[blue]?; let g ← rgb[green]?; let r ← rgb[red]?; pure (b, g, r, 255) :
      Option Bgra) = none ↔ ∃ i ∈ [blue, green, red], rgb.length ≤ i := by
  rcases Nat.lt_or_ge blue rgb.length with b | b <;>
  rcases Nat.lt_or_ge green rgb.length with g | g <;>
  rcases Nat.lt_or_ge red rgb.length with r | r <;>
  simp [b, g, r, List.getElem?_eq_getElem, List.getElem?_eq_none, Nat.not_le.mpr]

theorem bgrReads_of_lt {rgb : List UInt8} {blue green red : Nat} (b : blue < rgb.length)
    (g : green < rgb.length) (r : red < rgb.length) :
    (do let b ← rgb[blue]?; let g ← rgb[green]?; let r ← rgb[red]?; pure (b, g, r, 255) :
      Option Bgra) = some (rgb.getD blue 0, rgb.getD green 0, rgb.getD red 0, 255) := by
  simp [b, g, r, List.getElem?_eq_getElem, List.getD_eq_getElem]

theorem fillPixel_eq_none_iff (rgb : List UInt8) (srcWidth srcHeight : Int) (x y : Nat) :
    fillPixel rgb srcWidth srcHeight x y = none ↔
      ∃ i ∈ pixelReads srcWidth srcHeight x y, rgb.length ≤ i :=
  bgrReads_eq_none_iff rgb _ _ _

theorem fillPixel_of_reads {rgb : List UInt8} {srcWidth srcHeight : Int} {x y blue green red : Nat}
    (reads : pixelReads srcWidth srcHeight x y = [blue, green, red])
    (inside : ∀ i ∈ [blue, green, red], i < rgb.length) :
    fillPixel rgb srcWidth srcHeight x y =
      some (rgb.getD blue 0, rgb.getD green 0, rgb.getD red 0, 255) := by
  rw [pixelReads_eq] at reads
  injection reads with b reads
  injection reads with g reads
  injection reads with r
  subst b g r
  simp only [List.mem_cons, List.not_mem_nil, forall_eq_or_imp, forall_eq] at inside
  exact bgrReads_of_lt inside.1 inside.2.1 inside.2.2.1

/-! ## Without overflow -/

section Exact

variable {srcWidth srcHeight : Nat}

/-- `(k * size) / output` in `int` arithmetic is the floor of the exact quotient while
`(output - 1) * size` fits in an `int`. -/
theorem scaled_exact {k output size : Nat} (inside : k < output)
    (fits : (output - 1) * size < 2 ^ 31) :
    (int32 (k * size)).tdiv output = ((k * size / output : Nat) : Int) := by
  have scaled : k * size ≤ (output - 1) * size := Nat.mul_le_mul_right _ (by omega)
  rw [int32_of_fits (by omega) (by push_cast; omega), Int.tdiv_eq_ediv (by omega) (by omega)]
  push_cast
  rfl

theorem scaled_lt {x size : Nat} (output : Nat) (inside : x < output) (positive : 0 < size) :
    x * size / output < size :=
  Nat.div_lt_of_lt_mul (Nat.mul_lt_mul_of_pos_right inside positive)

theorem sourceIndex_exact {x y : Nat} (column : x < kOutputWidth) (row : y < kOutputHeight)
    (wide : 0 < srcWidth) (tall : 0 < srcHeight) (product : srcWidth * srcHeight * 3 < 2 ^ 31)
    (rows : 479 * srcHeight < 2 ^ 31) (columns : 639 * srcWidth < 2 ^ 31) :
    sourceIndex srcWidth srcHeight x y =
        3 * (y * srcHeight / kOutputHeight * srcWidth + x * srcWidth / kOutputWidth) ∧
      3 * (y * srcHeight / kOutputHeight * srcWidth + x * srcWidth / kOutputWidth) + 2 <
        srcWidth * srcHeight * 3 := by
  have sx := scaled_lt kOutputWidth column wide
  have sy := scaled_lt kOutputHeight row tall
  rw [sourceIndex, sourceRow, sourceColumn, scaled_exact row rows, scaled_exact column columns]
  generalize x * srcWidth / kOutputWidth = c at sx ⊢
  generalize y * srcHeight / kOutputHeight = r at sy ⊢
  have rowEnd : r * srcWidth + srcWidth ≤ srcHeight * srcWidth := by
    rw [← Nat.succ_mul]; exact Nat.mul_le_mul_right _ sy
  have area : srcHeight * srcWidth = srcWidth * srcHeight := Nat.mul_comm _ _
  have inside : 3 * (r * srcWidth + c) + 2 < srcWidth * srcHeight * 3 := by omega
  have fits : (r * srcWidth + c) * 3 < 2 ^ 31 := by omega
  have start := int32_natCast (show r * srcWidth < 2 ^ 31 by omega)
  have pixel := int32_natCast (show r * srcWidth + c < 2 ^ 31 by clear start; omega)
  have offset := int32_natCast fits
  have index := unsignedOf_natCast 64 (fits.trans (by decide))
  push_cast at start pixel offset index
  refine ⟨?_, inside⟩
  rw [start, pixel, offset, index]
  exact Nat.mul_comm _ _

theorem fillRejects_of_fits {size : Nat} (wide : 0 < srcWidth) (tall : 0 < srcHeight)
    (sized : srcWidth * srcHeight * 3 ≤ size) (product : srcWidth * srcHeight * 3 < 2 ^ 31) :
    fillRejects size srcWidth srcHeight = false := by
  have area := int32_natCast (show srcWidth * srcHeight < 2 ^ 31 by omega)
  have tripled := int32_natCast product
  have index := unsignedOf_natCast 64 (product.trans (by decide))
  push_cast at area tripled index
  simp only [fillRejects, area, tripled, index, Bool.or_eq_false_iff, decide_eq_false_iff_not]
  omega

/-- Without overflow, pixel `(x, y)` reads inside a `w·h·3` buffer and takes the bytes B, G, R
of source pixel `(⌊x·w/640⌋, ⌊y·h/480⌋)`. -/
theorem fillPixel_exact {rgb : List UInt8} {x y : Nat} (column : x < kOutputWidth)
    (row : y < kOutputHeight) (wide : 0 < srcWidth) (tall : 0 < srcHeight)
    (sized : srcWidth * srcHeight * 3 ≤ rgb.length) (product : srcWidth * srcHeight * 3 < 2 ^ 31)
    (rows : 479 * srcHeight < 2 ^ 31) (columns : 639 * srcWidth < 2 ^ 31) :
    (∀ i ∈ pixelReads srcWidth srcHeight x y, i < rgb.length) ∧
      let source := y * srcHeight / kOutputHeight * srcWidth + x * srcWidth / kOutputWidth
      fillPixel rgb srcWidth srcHeight x y = some (rgb.getD (3 * source + 2) 0,
        rgb.getD (3 * source + 1) 0, rgb.getD (3 * source) 0, 255) := by
  obtain ⟨index, inside⟩ := sourceIndex_exact column row wide tall product rows columns
  generalize y * srcHeight / kOutputHeight * srcWidth + x * srcWidth / kOutputWidth = source
    at index inside ⊢
  have reads :
      pixelReads srcWidth srcHeight x y = [3 * source + 2, 3 * source + 1, 3 * source] := by
    rw [pixelReads_eq, index, Nat.mod_eq_of_lt (show 3 * source + 2 < 2 ^ 64 by omega),
      Nat.mod_eq_of_lt (show 3 * source + 1 < 2 ^ 64 by omega)]
  have bounded : ∀ i ∈ [3 * source + 2, 3 * source + 1, 3 * source], i < rgb.length := by
    simp only [List.mem_cons, List.not_mem_nil, or_false]
    omega
  exact ⟨reads ▸ bounded, fillPixel_of_reads reads bounded⟩

/-- Where the guard's product, `479 · h` and `639 · w` all fit in an `int`, FillFromRGB accepts
a buffer of `w·h·3` bytes, reads only inside it, and gives pixel `(x, y)` the bytes B, G, R of
source pixel `(⌊x·w/640⌋, ⌊y·h/480⌋)` and alpha 255. -/
theorem fill_exact_without_overflow (rgb : List UInt8) (frameCounter : Nat)
    (wide : 0 < srcWidth) (tall : 0 < srcHeight) (sized : srcWidth * srcHeight * 3 ≤ rgb.length)
    (product : srcWidth * srcHeight * 3 < 2 ^ 31) (rows : 479 * srcHeight < 2 ^ 31)
    (columns : 639 * srcWidth < 2 ^ 31) :
    fillRejects rgb.length srcWidth srcHeight = false ∧
    ∀ x < kOutputWidth, ∀ y < kOutputHeight,
      (∀ i ∈ pixelReads srcWidth srcHeight x y, i < rgb.length) ∧
      let source := y * srcHeight / kOutputHeight * srcWidth + x * srcWidth / kOutputWidth
      fillFromRGB rgb srcWidth srcHeight frameCounter x y = some (rgb.getD (3 * source + 2) 0,
        rgb.getD (3 * source + 1) 0, rgb.getD (3 * source) 0, 255) := by
  have accepted := fillRejects_of_fits wide tall sized product
  refine ⟨accepted, fun x column y row => ?_⟩
  rw [fillFromRGB_of_accepted frameCounter accepted]
  exact fillPixel_exact column row wide tall sized product rows columns

theorem fill_exact_without_overflow_two_pixels :
    (0 < 2 ∧ 0 < 1 ∧ 2 * 1 * 3 ≤ [10, 20, 30, 40, 50, 60].length ∧ 2 * 1 * 3 < 2 ^ 31 ∧
      479 * 1 < 2 ^ 31 ∧ 639 * 2 < 2 ^ 31) ∧
    fillRejects [10, 20, 30, 40, 50, 60].length 2 1 = false ∧
    ∀ x < kOutputWidth, ∀ y < kOutputHeight,
      (∀ i ∈ pixelReads 2 1 x y, i < [10, 20, 30, 40, 50, 60].length) ∧
      let source := y * 1 / kOutputHeight * 2 + x * 2 / kOutputWidth
      fillFromRGB [10, 20, 30, 40, 50, 60] 2 1 0 x y = some
        ([10, 20, 30, 40, 50, 60].getD (3 * source + 2) 0,
          [10, 20, 30, 40, 50, 60].getD (3 * source + 1) 0,
          [10, 20, 30, 40, 50, 60].getD (3 * source) 0, 255) :=
  ⟨by decide, @fill_exact_without_overflow 2 1 [10, 20, 30, 40, 50, 60] 0 (by decide) (by decide)
    (by decide) (by decide) (by decide) (by decide)⟩

end Exact

/-! ## Frames the guard admits -/

/-- Two frames that pass FillFromRGB's guard and whose reads leave the buffer. At 65536 × 65536
the guard's `src_width * src_height` wraps to 0, so an empty buffer passes and pixel (0, 0)
reads `rgb[2]`. At 1 × 5000000 the buffer holds all 15000000 bytes and source row
`⌊479 · 5000000 / 480⌋` lies inside it, but `y * src_height` wraps from row 430 on, so `sy` is
negative and pixel (0, 479) reads near the top of `size_t`. -/
theorem fill_reads_outside_admitted_frames :
    (fillRejects 0 65536 65536 = false ∧ pixelReads 65536 65536 0 0 = [2, 1, 0] ∧
      ∀ frameCounter, fillFromRGB [] 65536 65536 frameCounter 0 0 = none) ∧
    fillRejects 15000000 1 5000000 = false ∧
      3 * (479 * 5000000 / kOutputHeight * 1 + 0 * 1 / kOutputWidth) + 2 < 15000000 ∧
      pixelReads 1 5000000 0 479 = [2 ^ 64 - 11874793, 2 ^ 64 - 11874794, 2 ^ 64 - 11874795] ∧
      ∀ frameCounter, fillFromRGB (List.replicate 15000000 0) 1 5000000 frameCounter 0 479 = none := by
  have admitted : fillRejects 15000000 1 5000000 = false := by decide
  refine ⟨⟨by decide, by decide, fun _ => rfl⟩, admitted, by decide, by decide, fun c => ?_⟩
  rw [fillFromRGB_of_accepted c (by rw [List.length_replicate]; exact admitted),
    fillPixel_eq_none_iff]
  exact ⟨2 ^ 64 - 11874795, by decide, by rw [List.length_replicate]; decide⟩

/-! ## First-generation frames -/

theorem createSampleBuffer_nextRGB {frame : FrameData} (colour : frame.rgb ≠ [])
    (wide : 0 < frame.width) (tall : 0 < frame.height) (frameIndex frameCounter : Nat) :
    createSampleBuffer (nextRGB (some frame)) frameIndex frameCounter =
      fillFromRGB frame.rgb frame.width frame.height frameCounter := by
  rw [nextRGB, if_neg fun invalid => by
    rcases invalid with empty | narrow | short
    exacts [colour empty, by omega, by omega]]
  rfl

/-- With a first-generation Kinect behind the plugin, every colour frame getFrame returns is
640 × 480 and holds all its bytes, so CreateSampleBuffer copies it pixel for pixel: output pixel
`(x, y)` holds the bytes B, G, R of source pixel `y · 640 + x`. -/
theorem gen1_colour_copied_unscaled (audio : Bool) (ops : List FreenectV1.Op) {frame : FrameData}
    (returned : (FreenectV1.getFrame (FreenectV1.run ops (FreenectV1.opened audio))).2 = some frame)
    (colour : frame.rgb ≠ []) (frameIndex frameCounter : Nat) :
    ∀ x < kOutputWidth, ∀ y < kOutputHeight,
      createSampleBuffer (nextRGB (some frame)) frameIndex frameCounter x y =
        some (frame.rgb.getD (3 * (y * 640 + x) + 2) 0, frame.rgb.getD (3 * (y * 640 + x) + 1) 0,
          frame.rgb.getD (3 * (y * 640 + x)) 0, 255) := by
  rw [FreenectV1.getFrame_run] at returned
  obtain ⟨w, written, rfl⟩ := Option.map_eq_some'.mp returned
  obtain ⟨width, height⟩ := FreenectV1.slotFrame_header _ written
  have sized := (FreenectV1.slotFrame_wellFormed _ written).2.2.1 colour
  generalize FreenectV1.slotFrame _ = frame at width height sized colour ⊢
  rw [width, height, FreenectV1.kWidth, FreenectV1.kHeight] at sized
  have accepted := @fillRejects_of_fits 640 480 frame.rgb.length (by decide) (by decide)
    (by omega) (by decide)
  rw [createSampleBuffer_nextRGB colour (by rw [width]; decide) (by rw [height]; decide), width,
    height]
  intro x column y row
  have pixel := (@fillPixel_exact 640 480 frame.rgb x y column row (by decide) (by decide)
    (by omega) (by decide) (by decide) (by decide)).2
  simp only [kOutputHeight, kOutputWidth, Nat.mul_div_cancel _ (by decide : 0 < 480),
    Nat.mul_div_cancel _ (by decide : 0 < 640)] at pixel
  exact (congrFun (congrFun (fillFromRGB_of_accepted frameCounter accepted) x) y).trans pixel

theorem gen1_colour_copied_unscaled_grey :
    let ops : List FreenectV1.Op := [.start ⟨true, true, ⟨true, true, true⟩, true, true, true⟩,
      .onVideoFrame (some fun _ => 7) 0]
    let frame := FreenectV1.slotFrame (FreenectV1.events ops (FreenectV1.opened false))
    ((FreenectV1.getFrame (FreenectV1.run ops (FreenectV1.opened false))).2 = some frame ∧
      frame.rgb ≠ []) ∧
    ∀ x < kOutputWidth, ∀ y < kOutputHeight,
      createSampleBuffer (nextRGB (some frame)) 0 0 x y =
        some (frame.rgb.getD (3 * (y * 640 + x) + 2) 0, frame.rgb.getD (3 * (y * 640 + x) + 1) 0,
          frame.rgb.getD (3 * (y * 640 + x)) 0, 255) :=
  have returned := (FreenectV1.getFrame_run false _).trans rfl
  have colour :=
    (FreenectV1.slotFrame_rgb_ne_nil _).2 ⟨fun _ => 7, 0, List.mem_singleton_self _⟩
  ⟨⟨returned, colour⟩, gen1_colour_copied_unscaled false _ returned colour 0 0⟩

end MacKinect.CameraDal
