import MacKinect.Frame
import MacKinect.Mailbox

/-! `FreenectV2Device` of `backends/freenect_v2_backend.cpp`. update() takes one frame map
from the listener, converts every frame it holds, and publishes a single buffer: the
selected kind if it can be assigned, else the first of colour, infrared and depth that
can. getFrame takes the published frame, so the device is the mailbox itself. -/
namespace MacKinect.FreenectV2

open Mailbox

/-- The `int` a `size_t` converts to: its low 32 bits in two's complement. -/
def toInt (n : Nat) : Int :=
  let low : Nat := n % 2 ^ 32
  if low < 2 ^ 31 then low else (low : Int) - 2 ^ 32

theorem toInt_of_lt {n : Nat} (small : n < 2 ^ 31) : toInt n = n := by
  unfold toInt
  dsimp only
  rw [Nat.mod_eq_of_lt (by omega : n < 2 ^ 32), if_pos small]

/-- A libfreenect2 frame as update() reads it: `size_t` dimensions, a `uint32` timestamp and
the samples after update()'s per-sample conversion (the float clamps of depth and infrared
are taken as given). update() walks the pixels with an `int` index, so a frame it can
process has fewer than 2³¹ of them. -/
structure RawFrame (α : Type) where
  width : Nat
  height : Nat
  timestamp : UInt32
  data : Nat → α
  walkable : width * height < 2 ^ 31

/-- The frames `waitForNewFrame` hands over; a kind may be missing. -/
structure FrameMap where
  color : Option (RawFrame UInt8)
  depth : Option (RawFrame UInt16)
  ir : Option (RawFrame UInt8)

/-- BGRA to RGB: `rgb_data[i*3 + k] = src[i*4 + 2 - k]` for every pixel `i`. -/
def colorData (color : RawFrame UInt8) : List UInt8 :=
  copyOut (color.width * color.height * 3) fun j => color.data (j / 3 * 4 + (2 - j % 3))

def depthData (depth : RawFrame UInt16) : List UInt16 :=
  copyOut (depth.width * depth.height) depth.data

def irData (ir : RawFrame UInt8) : List UInt8 :=
  copyOut (ir.width * ir.height) ir.data

/-- The locals update() fills from one kind (`rgb_data, rgb_w, rgb_h, rgb_ts` and their
depth and infrared twins), left at zero when the map lacks that kind. -/
structure Converted (α : Type) where
  data : List α := []
  width : Int := 0
  height : Int := 0
  timestamp : UInt32 := 0

def convert (samples : RawFrame α → List α) : Option (RawFrame α) → Converted α
  | none => {}
  | some frame => { data := samples frame, width := toInt frame.width,
                    height := toInt frame.height, timestamp := frame.timestamp }

/-- The body shared by the assign_rgb, assign_depth and assign_ir lambdas. -/
def assign (put : FrameData → List α → FrameData) (c : Converted α) (next : FrameData) :
    Option FrameData :=
  if c.data.isEmpty ∨ c.width ≤ 0 ∨ c.height ≤ 0 then none
  else some { put next c.data with width := c.width, height := c.height, timestamp := c.timestamp }

def assignRgb (rgb : Converted UInt8) : FrameData → Option FrameData :=
  assign (fun f data => { f with rgb := data }) rgb

def assignDepth (depth : Converted UInt16) : FrameData → Option FrameData :=
  assign (fun f data => { f with depth := data }) depth

def assignIr (ir : Converted UInt8) : FrameData → Option FrameData :=
  assign (fun f data => { f with ir := data }) ir

/-- The frame update() publishes from one map, if any: the selected kind first, then the
fallback `assign_rgb() || assign_ir() || assign_depth()`. -/
def assemble (selected : StreamKind) (frames : FrameMap) : Option FrameData :=
  let rgb := convert colorData frames.color
  let depth := convert depthData frames.depth
  let ir := convert irData frames.ir
  let next : FrameData := {}
  let chosen := match selected with
    | .kRgb => assignRgb rgb next
    | .kIr => assignIr ir next
    | .kDepth => assignDepth depth next
  chosen <|> (assignRgb rgb next <|> assignIr ir next <|> assignDepth depth next)

structure Device where
  dev : Bool
  running : Bool := false
  selectedStream : StreamKind := .kRgb
  frame : FrameData := {}
  hasNewFrame : Bool := false
  deriving DecidableEq, Repr

/-- The device `FreenectV2Backend::openDevice` returns once open() succeeded. -/
def opened : Device := { dev := true }

/-- `ok` is the answer of `dev_->start()`. -/
def start (ok : Bool) (d : Device) : Device × Bool :=
  if !d.dev || d.running then (d, d.dev) else
  if !ok then (d, false) else ({ d with running := true }, true)

def stop (d : Device) : Device × Bool :=
  if !d.dev then (d, false) else ({ d with running := false }, true)

/-- `frames` is what `waitForNewFrame(frames, 1)` produced; `none` is its timeout. -/
def update (frames : Option FrameMap) (d : Device) : Device × Bool :=
  if !d.running then (d, false) else
  match frames with
  | none => (d, false)
  | some frames =>
    match assemble d.selectedStream frames with
    | some frame => ({ d with frame, hasNewFrame := true }, true)
    | none => (d, false)

def getFrame (d : Device) : Device × Option FrameData :=
  if d.hasNewFrame then ({ d with hasNewFrame := false }, some d.frame) else (d, none)

def setStreamKind (kind : StreamKind) (d : Device) : Device := { d with selectedStream := kind }

inductive Op where
  | start (ok : Bool)
  | stop
  | update (frames : Option FrameMap)
  | setStreamKind (kind : StreamKind)
  | getFrame

def Op.apply : Op → Device → Device
  | .start ok, d => (FreenectV2.start ok d).1
  | .stop, d => (FreenectV2.stop d).1
  | .update frames, d => (FreenectV2.update frames d).1
  | .setStreamKind kind, d => FreenectV2.setStreamKind kind d
  | .getFrame, d => (FreenectV2.getFrame d).1

def run : List Op → Device → Device
  | [], d => d
  | op :: ops, d => run ops (op.apply d)

/-- The slot events of one operation: an update that returns true wrote its frame. -/
def Op.events (d : Device) : Op → List (Event FrameData)
  | .update frames =>
    if (FreenectV2.update frames d).2 then [.write (FreenectV2.update frames d).1.frame] else []
  | .getFrame => [.take]
  | _ => []

def events : List Op → Device → List (Event FrameData)
  | [], _ => []
  | op :: ops, d => op.events d ++ events ops (op.apply d)

end MacKinect.FreenectV2
