import MacKinect.ControlCenter.PointCloud

/-! The image files of `CaptureFrameBundle` in control_center_v1.cpp: SaveColorPpm writes
`color.ppm`, a binary PPM (P6) of the colour frame, and SaveDepthPgm16 writes `depth_mm.pgm`,
a 16-bit binary PGM (P5) of the depth frame in millimetres. The netpbm reader below is the
format, not code of the repository: a magic number, then width, height and maximum value as
decimal numbers after whitespace, one whitespace byte, and the raster, whose samples take
two bytes, most significant first, when the maximum value is above 255. Header comments,
which the writers never emit, are not read. -/
namespace MacKinect.ControlCenter

/-! ## The writers -/

/-- The bytes an ASCII string is written as. -/
def asciiBytes (text : String) : List UInt8 := text.toList.map fun c => UInt8.ofNat c.toNat

/-- `out << "P6\n" << kFrameWidth << " " << kFrameHeight << "\n255\n"`. -/
def ppmHeader : List UInt8 :=
  asciiBytes ("P6\n" ++ toString kFrameWidth ++ " " ++ toString kFrameHeight ++ "\n255\n")

def pgmHeader : List UInt8 :=
  asciiBytes ("P5\n" ++ toString kFrameWidth ++ " " ++ toString kFrameHeight ++ "\n65535\n")

/-- SaveColorPpm's file, `none` when `out.is_open()` fails; the writes are taken to succeed,
so it returns true exactly when it has a file. -/
def saveColorPpm (opened : Bool) (rgb : List UInt8) : Option (List UInt8) :=
  if opened then some (ppmHeader ++ rgb) else none

/-- The two bytes SaveDepthPgm16 puts for a sample: `(value >> 8) & 0xff`, then
`value & 0xff`. -/
def sampleBytes (value : UInt16) : List UInt8 :=
  [UInt8.ofNat (value.toNat >>> 8 &&& 0xff), UInt8.ofNat (value.toNat &&& 0xff)]

def saveDepthPgm16 (opened : Bool) (depth : List UInt16) : Option (List UInt8) :=
  if opened then some (pgmHeader ++ depth.flatMap sampleBytes) else none

/-- The two image files CaptureFrameBundle writes from the front buffers it copies; `none`
where it has no buffers to capture. `colorOpened` and `depthOpened` say whether each file
opened. -/
def captureImages (colorOpened depthOpened : Bool)
    (fronts : Option ((Nat → UInt8) × (Nat → UInt16))) :
    Option (Option (List UInt8) × Option (List UInt8)) :=
  fronts.map fun (rgbFront, depthMmFront) =>
    (saveColorPpm colorOpened (copyOut kFrameRgbBytes rgbFront),
      saveDepthPgm16 depthOpened (copyOut kFramePixels depthMmFront))

/-! ## The netpbm format -/

/-- A netpbm image as a reader finds it; `magic` is the byte after `P`. -/
structure Netpbm where
  magic : UInt8
  width : Nat
  height : Nat
  maxval : Nat
  raster : List UInt8
  deriving DecidableEq, Repr

def isWhitespace (b : UInt8) : Bool := b = 32 || (9 ≤ b && b ≤ 13)

def isDigit (b : UInt8) : Bool := 48 ≤ b && b ≤ 57

def skipWhitespace : List UInt8 → List UInt8
  | b :: bs => if isWhitespace b then skipWhitespace bs else b :: bs
  | [] => []

/-- The value of the decimal digits at the front, after the `value` already read. -/
def readDigits (value : Nat) : List UInt8 → Nat × List UInt8
  | b :: bs => if isDigit b then readDigits (10 * value + (b.toNat - 48)) bs else (value, b :: bs)
  | [] => (value, [])

/-- A decimal number after whitespace. -/
def readNumber (input : List UInt8) : Option (Nat × List UInt8) :=
  match skipWhitespace input with
  | b :: bs => if isDigit b then some (readDigits (b.toNat - 48) bs) else none
  | [] => none

def Netpbm.parse : List UInt8 → Option Netpbm
  | 80 :: magic :: rest => do
    let (width, rest) ← readNumber rest
    let (height, rest) ← readNumber rest
    let (maxval, rest) ← readNumber rest
    match rest with
    | b :: raster => if isWhitespace b then some ⟨magic, width, height, maxval, raster⟩ else none
    | [] => none
  | _ => none

/-- The samples of a raster whose samples take two bytes. -/
def decodeSamples : List UInt8 → List UInt16
  | hi :: lo :: rest => UInt16.ofNat (256 * hi.toNat + lo.toNat) :: decodeSamples rest
  | _ => []

/-- The raster holds `width * height` pixels of `channels` samples, each of one byte up to a
maximum value of 255 and of two above. -/
def Netpbm.WellFormed (image : Netpbm) (channels : Nat) : Prop :=
  image.raster.length = image.width * image.height * channels * (if image.maxval < 256 then 1 else 2)

/-! ## Round trips -/

theorem ppmHeader_eq : ppmHeader = [80, 54, 10, 54, 52, 48, 32, 52, 56, 48, 10, 50, 53, 53, 10] :=
  rfl

theorem pgmHeader_eq :
    pgmHeader = [80, 53, 10, 54, 52, 48, 32, 52, 56, 48, 10, 54, 53, 53, 51, 53, 10] := rfl

/-- Whatever bytes follow the colour header, a reader finds a 640 × 480 PPM of maximum value
255 whose raster is those bytes. -/
@[simp] theorem parse_ppm (raster : List UInt8) :
    Netpbm.parse (ppmHeader ++ raster) = some ⟨54, kFrameWidth, kFrameHeight, 255, raster⟩ := by
  rw [ppmHeader_eq]
  rfl

@[simp] theorem parse_pgm (raster : List UInt8) :
    Netpbm.parse (pgmHeader ++ raster) = some ⟨53, kFrameWidth, kFrameHeight, 65535, raster⟩ := by
  rw [pgmHeader_eq]
  rfl

theorem sampleBytes_eq (value : UInt16) :
    sampleBytes value = [UInt8.ofNat (value.toNat / 256), UInt8.ofNat (value.toNat % 256)] := by
  have fits : value.toNat < 2 ^ 16 := value.toBitVec.isLt
  have low : (0xff : Nat) = 2 ^ 8 - 1 := rfl
  rw [sampleBytes, low, Nat.and_pow_two_sub_one_eq_mod, Nat.and_pow_two_sub_one_eq_mod,
    Nat.shiftRight_eq_div_pow, Nat.mod_eq_of_lt (by omega : value.toNat / 2 ^ 8 < 2 ^ 8)]
  rfl

@[simp] theorem decodeSamples_flatMap_sampleBytes (depth : List UInt16) :
    decodeSamples (depth.flatMap sampleBytes) = depth := by
  induction depth with
  | nil => rfl
  | cons value depth ih =>
    have fits : value.toNat < 2 ^ 16 := value.toBitVec.isLt
    have hi : (UInt8.ofNat (value.toNat / 256)).toNat = value.toNat / 256 := by
      simp only [UInt8.toNat, UInt8.ofNat, BitVec.toNat_ofNat]
      omega
    have lo : (UInt8.ofNat (value.toNat % 256)).toNat = value.toNat % 256 := by
      simp only [UInt8.toNat, UInt8.ofNat, BitVec.toNat_ofNat]
      omega
    rw [List.flatMap_cons, sampleBytes_eq, List.cons_append, List.cons_append, List.nil_append,
      decodeSamples, ih, hi, lo]
    congr 1
    exact UInt16.toNat.inj (by simp only [UInt16.toNat, UInt16.ofNat, BitVec.toNat_ofNat]; omega)

theorem length_flatMap_sampleBytes (depth : List UInt16) :
    (depth.flatMap sampleBytes).length = 2 * depth.length := by
  induction depth with
  | nil => rfl
  | cons value depth ih => simp [sampleBytes, ih]; omega

/-- Whatever the front buffers hold, each file CaptureFrameBundle manages to open reads back
as a well-formed 640 × 480 image holding exactly the frame it copied: the colour file a PPM
of 8-bit RGB samples, the depth file a PGM of 16-bit samples in millimetres. -/
theorem captured_images_read_back (colorOpened depthOpened : Bool) (rgbFront : Nat → UInt8)
    (depthMmFront : Nat → UInt16) :
    ∃ color depth, captureImages colorOpened depthOpened (some (rgbFront, depthMmFront)) =
        some (color, depth) ∧
      (∀ file ∈ color, ∃ image, Netpbm.parse file = some image ∧ image.magic = 54 ∧
        image.width = kFrameWidth ∧ image.height = kFrameHeight ∧ image.WellFormed 3 ∧
        image.raster = copyOut kFrameRgbBytes rgbFront) ∧
      (∀ file ∈ depth, ∃ image, Netpbm.parse file = some image ∧ image.magic = 53 ∧
        image.width = kFrameWidth ∧ image.height = kFrameHeight ∧ image.WellFormed 1 ∧
        decodeSamples image.raster = copyOut kFramePixels depthMmFront) := by
  refine ⟨_, _, rfl, fun file saved => ?_, fun file saved => ?_⟩
  · simp only [saveColorPpm, Option.mem_def, Option.ite_none_right_eq_some, Option.some.injEq]
      at saved
    obtain ⟨-, rfl⟩ := saved
    refine ⟨_, parse_ppm _, ?_⟩
    dsimp only
    refine ⟨rfl, rfl, rfl, ?_, rfl⟩
    dsimp only [Netpbm.WellFormed]
    rw [length_copyOut, if_pos (by decide)]
    rfl
  · simp only [saveDepthPgm16, Option.mem_def, Option.ite_none_right_eq_some, Option.some.injEq]
      at saved
    obtain ⟨-, rfl⟩ := saved
    refine ⟨_, parse_pgm _, ?_⟩
    dsimp only
    refine ⟨rfl, rfl, rfl, ?_, decodeSamples_flatMap_sampleBytes _⟩
    dsimp only [Netpbm.WellFormed]
    rw [length_flatMap_sampleBytes, length_copyOut, if_neg (by decide)]
    rfl

end MacKinect.ControlCenter
