import Mathlib.Data.List.Basic
import Mathlib.Algebra.Group.Int

/-! The frame record of `backends/backend.h` and the data-model invariant the
adapters keep: a non-empty buffer holds width·height·channels samples, and an
empty one means "not present in this frame". -/
namespace MacKinect

inductive KinectGeneration where
  | kV1
  | kV2
  deriving DecidableEq, Repr

inductive StreamKind where
  | kRgb
  | kIr
  | kDepth
  deriving DecidableEq, Repr

/-- libfreenect's `freenect_video_format`, with the values this repository names. -/
inductive VideoFormat where
  | rgb
  | yuvRgb
  | ir8bit
  deriving DecidableEq, Repr

structure FrameData where
  rgb : List UInt8 := []
  depth : List UInt16 := []
  ir : List UInt8 := []
  width : Int := 0
  height : Int := 0
  timestamp : UInt32 := 0
  deriving DecidableEq, Repr

/-- Each non-empty buffer holds width·height·c samples: c = 3 for rgb, 1 for depth and ir. -/
def FrameData.Sized (f : FrameData) : Prop :=
  (f.rgb ≠ [] → (f.rgb.length : Int) = f.width * f.height * 3) ∧
  (f.depth ≠ [] → (f.depth.length : Int) = f.width * f.height) ∧
  (f.ir ≠ [] → (f.ir.length : Int) = f.width * f.height)

def FrameData.WellFormed (f : FrameData) : Prop :=
  0 < f.width ∧ 0 < f.height ∧ f.Sized

/-- How many of the three buffers a frame carries. -/
def FrameData.buffers (f : FrameData) : Nat :=
  (if f.rgb = [] then 0 else 1) + (if f.depth = [] then 0 else 1) + (if f.ir = [] then 0 else 1)

instance (f : FrameData) : Decidable f.Sized := inferInstanceAs (Decidable (_ ∧ _ ∧ _))
instance (f : FrameData) : Decidable f.WellFormed := inferInstanceAs (Decidable (_ ∧ _ ∧ _))

/-- The buffer a `resize(count)` followed by a `memcpy` of `count` elements leaves,
reading a driver-owned buffer `source`. -/
def copyOut (count : Nat) (source : Nat → α) : List α := (List.range count).map source

@[simp] theorem length_copyOut (count : Nat) (source : Nat → α) :
    (copyOut count source).length = count := by
  simp [copyOut]

@[simp] theorem copyOut_eq_nil (count : Nat) (source : Nat → α) :
    copyOut count source = [] ↔ count = 0 := by
  simp [copyOut]

end MacKinect
