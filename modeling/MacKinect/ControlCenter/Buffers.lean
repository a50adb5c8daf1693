import Mathlib.Data.List.Perm.Basic
import MacKinect.Frame

/-! The frame buffers of control_center_v1.cpp. A pointer is the index of the `malloc` in
`main` that returned it. The driver thread runs `depth_cb`, `rgb_cb` and the video-mode switch
of `freenect_threadfunc`; the GL thread runs `DrawGLScene`, `CaptureFrameBundle` and
`keyPressed`. Every step touching a pointer holds `g_frame_mutex` or is the only writer of it,
so a run is any interleaving of the steps below. -/
namespace MacKinect.ControlCenter

structure Buffers where
  depthMmMid : Nat
  depthMmFront : Nat
  depthRgbMid : Nat
  depthRgbFront : Nat
  rgbBack : Nat
  rgbMid : Nat
  rgbFront : Nat
  /-- The buffer last passed to freenect_set_video_buffer. -/
  registered : Nat
  gotRgb : Bool
  gotDepth : Bool
  requestedVideoFormat : VideoFormat
  currentVideoFormat : VideoFormat
  deriving DecidableEq, Repr

/-- After the seven `malloc`s of `main` and the registration of `g_rgb_back` in
`freenect_threadfunc`, before any callback can run. -/
def started : Buffers where
  depthMmMid := 0
  depthMmFront := 1
  depthRgbMid := 2
  depthRgbFront := 3
  rgbBack := 4
  rgbMid := 5
  rgbFront := 6
  registered := 4
  gotRgb := false
  gotDepth := false
  requestedVideoFormat := .rgb
  currentVideoFormat := .rgb

namespace Buffers

def depthMm (b : Buffers) : List Nat := [b.depthMmMid, b.depthMmFront]
def depthRgb (b : Buffers) : List Nat := [b.depthRgbMid, b.depthRgbFront]
def rgbRing (b : Buffers) : List Nat := [b.rgbBack, b.rgbMid, b.rgbFront]

/-- What `DrawGLScene` uploads after unlocking (rgb and false-colour depth) and what
`CaptureFrameBundle` copies (rgb and depth in mm). -/
def fronts (b : Buffers) : List Nat := [b.rgbFront, b.depthMmFront, b.depthRgbFront]

/-- The formats for which `rgb_cb` swaps pointers instead of copying. -/
def zeroCopy (b : Buffers) : Prop :=
  b.currentVideoFormat = .rgb ∨ b.currentVideoFormat = .yuvRgb

instance (b : Buffers) : Decidable b.zeroCopy := inferInstanceAs (Decidable (_ ∨ _))

end Buffers

def depthCb (b : Buffers) : Buffers := { b with gotDepth := true }

/-- `none` is the failed `assert(g_rgb_back == rgb)`. -/
def rgbCb (rgb : Nat) (b : Buffers) : Option Buffers :=
  if b.zeroCopy then
    if b.rgbBack = rgb then
      some { b with rgbBack := b.rgbMid, registered := b.rgbMid, rgbMid := rgb, gotRgb := true }
    else none
  else some { b with gotRgb := true }

/-- The `g_got_depth` block of `DrawGLScene`. -/
def swapDepthFronts (b : Buffers) : Buffers :=
  if b.gotDepth then
    { b with depthMmFront := b.depthMmMid, depthMmMid := b.depthMmFront,
             depthRgbFront := b.depthRgbMid, depthRgbMid := b.depthRgbFront, gotDepth := false }
  else b

/-- The `g_got_rgb` block of `DrawGLScene`. -/
def swapRgbFront (b : Buffers) : Buffers :=
  if b.gotRgb then { b with rgbFront := b.rgbMid, rgbMid := b.rgbFront, gotRgb := false } else b

/-- The locked part of `DrawGLScene`; with neither flag set it waits, which changes nothing. -/
def drawGLScene (b : Buffers) : Buffers := swapRgbFront (swapDepthFronts b)

/-- The `v` key of `keyPressed`; the other keys touch no state modelled here. -/
def keyPressed (key : Char) (b : Buffers) : Buffers :=
  if key = 'v' ∨ key = 'V' then
    { b with requestedVideoFormat :=
        if b.requestedVideoFormat = .rgb then .yuvRgb else .rgb }
  else b

/-- The video-mode switch of `freenect_threadfunc`'s loop, with the driver's
`freenect_find_video_mode(...).is_valid` answer for the requested format. -/
def switchVideoFormat (valid : Bool) (b : Buffers) : Buffers :=
  if b.requestedVideoFormat ≠ b.currentVideoFormat then
    let b := if valid then { b with currentVideoFormat := b.requestedVideoFormat }
      else { b with requestedVideoFormat := b.currentVideoFormat }
    { b with registered := b.rgbBack }
  else b

inductive Event where
  | depthCb
  /-- The driver fills its registered buffer and hands it to `rgb_cb`. -/
  | videoFrame
  | drawGLScene
  | captureFrameBundle
  | keyPressed (key : Char)
  | switchVideoFormat (valid : Bool)
  deriving DecidableEq, Repr

def Event.apply : Event → Buffers → Option Buffers
  | .depthCb, b => some (ControlCenter.depthCb b)
  | .videoFrame, b => ControlCenter.rgbCb b.registered b
  | .drawGLScene, b => some (ControlCenter.drawGLScene b)
  | .captureFrameBundle, b => some b
  | .keyPressed key, b => some (ControlCenter.keyPressed key b)
  | .switchVideoFormat valid, b => some (ControlCenter.switchVideoFormat valid b)

/-- The buffers an event writes: `depth_cb` fills both depth mids; for a video frame the
driver fills its registered buffer and `rgb_cb` copies into `g_rgb_mid` outside the
zero-copy formats. -/
def Event.writes : Event → Buffers → List Nat
  | .depthCb, b => [b.depthMmMid, b.depthRgbMid]
  | .videoFrame, b => b.registered :: if b.zeroCopy then [] else [b.rgbMid]
  | _, _ => []

def run : List Event → Buffers → Option Buffers
  | [], b => some b
  | e :: es, b => (e.apply b).bind (run es)

/-! ## The rotation invariant -/

structure Invariant (b : Buffers) : Prop where
  depthMm : b.depthMm.Perm started.depthMm
  depthRgb : b.depthRgb.Perm started.depthRgb
  rgbRing : b.rgbRing.Perm started.rgbRing
  registered : b.registered = b.rgbBack
  requested : b.requestedVideoFormat ≠ .ir8bit
  current : b.currentVideoFormat ≠ .ir8bit

section Steps

variable {b : Buffers}

theorem started_invariant : Invariant started :=
  ⟨.refl _, .refl _, .refl _, rfl, by decide, by decide⟩

theorem Invariant.zeroCopy (inv : Invariant b) : b.zeroCopy := by
  unfold Buffers.zeroCopy
  cases format : b.currentVideoFormat
  · exact .inl rfl
  · exact .inr rfl
  · exact absurd format inv.current

theorem Invariant.depthCb (inv : Invariant b) : Invariant (depthCb b) := { inv with }

/-- With the driver handing back its registered buffer, `rgb_cb` passes its assert. -/
theorem Invariant.rgbCb_eq (inv : Invariant b) :
    rgbCb b.registered b =
      some { b with rgbBack := b.rgbMid, registered := b.rgbMid, rgbMid := b.registered,
                    gotRgb := true } := by
  rw [ControlCenter.rgbCb, if_pos inv.zeroCopy, if_pos inv.registered.symm]

theorem Invariant.rgbCb (inv : Invariant b) :
    Invariant { b with rgbBack := b.rgbMid, registered := b.rgbMid, rgbMid := b.registered,
                       gotRgb := true } :=
  { inv with
    rgbRing := (List.Perm.swap _ _ _).trans (inv.registered ▸ inv.rgbRing)
    registered := rfl }

theorem Invariant.swapDepthFronts (inv : Invariant b) : Invariant (swapDepthFronts b) := by
  unfold ControlCenter.swapDepthFronts
  split
  · exact { inv with
      depthMm := (List.Perm.swap _ _ _).trans inv.depthMm
      depthRgb := (List.Perm.swap _ _ _).trans inv.depthRgb }
  · exact inv

theorem Invariant.swapRgbFront (inv : Invariant b) : Invariant (swapRgbFront b) := by
  unfold ControlCenter.swapRgbFront
  split
  · exact { inv with rgbRing := ((List.Perm.swap _ _ _).cons _).trans inv.rgbRing }
  · exact inv

theorem Invariant.drawGLScene (inv : Invariant b) : Invariant (drawGLScene b) :=
  inv.swapDepthFronts.swapRgbFront

theorem Invariant.keyPressed (inv : Invariant b) (key : Char) : Invariant (keyPressed key b) := by
  unfold MacKinect.ControlCenter.keyPressed
  split
  · exact { inv with requested := by split <;> simp }
  · exact inv

theorem Invariant.switchVideoFormat (inv : Invariant b) (valid : Bool) :
    Invariant (switchVideoFormat valid b) := by
  unfold MacKinect.ControlCenter.switchVideoFormat
  split
  · cases valid
    · exact { inv with registered := rfl, requested := inv.current }
    · exact { inv with registered := rfl, current := inv.requested }
  · exact inv

theorem Invariant.apply (inv : Invariant b) (e : Event) :
    ∃ b', e.apply b = some b' ∧ Invariant b' := by
  cases e with
  | depthCb => exact ⟨_, rfl, inv.depthCb⟩
  | videoFrame => exact ⟨_, inv.rgbCb_eq, inv.rgbCb⟩
  | drawGLScene => exact ⟨_, rfl, inv.drawGLScene⟩
  | captureFrameBundle => exact ⟨_, rfl, inv⟩
  | keyPressed key => exact ⟨_, rfl, inv.keyPressed key⟩
  | switchVideoFormat valid => exact ⟨_, rfl, inv.switchVideoFormat valid⟩

theorem Invariant.run (inv : Invariant b) (events : List Event) :
    ∃ b', run events b = some b' ∧ Invariant b' := by
  induction events generalizing b with
  | nil => exact ⟨b, rfl, inv⟩
  | cons e es ih =>
    obtain ⟨b', stepped, inv'⟩ := inv.apply e
    simpa only [MacKinect.ControlCenter.run, stepped, Option.some_bind] using ih inv'

end Steps

/-! ## Separation of the writers from the fronts -/

section Separation

variable {b : Buffers}

/-- The seven pointers name seven different buffers. -/
theorem Invariant.nodup (inv : Invariant b) :
    (b.depthMm ++ b.depthRgb ++ b.rgbRing).Nodup :=
  ((inv.depthMm.append inv.depthRgb).append inv.rgbRing).nodup_iff.2 (by decide)

/-- No callback writes a buffer that another pair uses, nor any front. -/
theorem Invariant.apart (inv : Invariant b) :
    (∀ x ∈ [b.rgbMid, b.rgbFront, b.depthMmFront, b.depthRgbFront],
      x ≠ b.depthMmMid ∧ x ≠ b.depthRgbMid) ∧
    ∀ x ∈ [b.rgbFront, b.depthMmMid, b.depthRgbMid, b.depthMmFront, b.depthRgbFront],
      x ≠ b.registered := by
  have distinct := inv.nodup
  simp only [Buffers.depthMm, Buffers.depthRgb, Buffers.rgbRing, List.cons_append,
    List.nil_append, List.nodup_cons, List.mem_cons, List.not_mem_nil, not_or, or_false] at distinct
  simp only [List.forall_mem_cons, List.not_mem_nil, inv.registered]
  simp_all [eq_comm]

theorem Invariant.fronts_unwritten (inv : Invariant b) (e : Event) :
    ∀ x ∈ b.fronts, x ∉ e.writes b := by
  obtain ⟨depthApart, videoApart⟩ := inv.apart
  simp only [List.forall_mem_cons, List.not_mem_nil, false_imp_iff, implies_true, and_true]
    at depthApart videoApart
  cases e <;> simp_all [Event.writes, Buffers.fronts, inv.zeroCopy]

end Separation

theorem buffers_stay_separated (events : List Event) :
    ∃ b, run events started = some b ∧ Invariant b ∧
      ∀ e : Event, ∀ x ∈ e.writes b, x ∉ b.fronts := by
  obtain ⟨b, reached, inv⟩ := started_invariant.run events
  exact ⟨b, reached, inv, fun e x written front => inv.fronts_unwritten e x front written⟩

end MacKinect.ControlCenter
