import MacKinect.ControlCenter.Buffers
import MacKinect.Mailbox

/-! What the control-center buffers hold. The callbacks number their frames with
`g_rgb_frames` and `g_depth_frames`, and a buffer holds the number of the frame last written
into it. Over every interleaving, the colour buffers and each depth pair are a single-slot
mailbox: the mid buffer holds the pending frame while its flag is set, and the front buffer
the frame the latest `DrawGLScene` took. -/
namespace MacKinect.ControlCenter

structure Viewer where
  buffers : Buffers
  /-- The frame each buffer holds; `none` for a buffer as `main` zeroed it. -/
  holds : Nat → Option Nat
  rgbFrames : Nat
  depthFrames : Nat

def viewerStarted : Viewer := ⟨started, fun _ => none, 0, 0⟩

/-- The number of the frame an event delivers: its callback's count before the increment. -/
def Event.delivers (v : Viewer) : Event → Option Nat
  | .depthCb => some v.depthFrames
  | .videoFrame => some v.rgbFrames
  | _ => none

def Viewer.step (v : Viewer) (e : Event) : Option Viewer :=
  (e.apply v.buffers).map fun b =>
    ⟨b, fun x => if x ∈ e.writes v.buffers then e.delivers v else v.holds x,
      if e = .videoFrame then v.rgbFrames + 1 else v.rgbFrames,
      if e = .depthCb then v.depthFrames + 1 else v.depthFrames⟩

def Viewer.run : List Event → Viewer → Option Viewer
  | [], v => some v
  | e :: es, v => (v.step e).bind (Viewer.run es)

/-- The colour mailbox events of one event: a video frame writes, a redraw takes. -/
def Event.colour (v : Viewer) : Event → List (Mailbox.Event Nat)
  | .videoFrame => [.write v.rgbFrames]
  | .drawGLScene => [.take]
  | _ => []

/-- The depth mailbox events of one event: a depth frame writes, a redraw takes. -/
def Event.depth (v : Viewer) : Event → List (Mailbox.Event Nat)
  | .depthCb => [.write v.depthFrames]
  | .drawGLScene => [.take]
  | _ => []

def colourHistory : List Event → Viewer → List (Mailbox.Event Nat)
  | [], _ => []
  | e :: es, v => e.colour v ++ ((v.step e).map (colourHistory es)).getD []

def depthHistory : List Event → Viewer → List (Mailbox.Event Nat)
  | [], _ => []
  | e :: es, v => e.depth v ++ ((v.step e).map (depthHistory es)).getD []

/-- Both slots agree with their mailbox histories, and each front holds what the latest
redraw took. -/
structure Mailboxes (v : Viewer) (colour depth : List (Mailbox.Event Nat)) : Prop where
  rgbPending : Mailbox.pending colour = if v.buffers.gotRgb then v.holds v.buffers.rgbMid else none
  rgbHeld : v.buffers.gotRgb → (v.holds v.buffers.rgbMid).isSome
  rgbFront : v.holds v.buffers.rgbFront = Mailbox.handedOut colour
  depthPending :
    Mailbox.pending depth = if v.buffers.gotDepth then v.holds v.buffers.depthMmMid else none
  depthHeld : v.buffers.gotDepth → (v.holds v.buffers.depthMmMid).isSome
  depthMids : v.holds v.buffers.depthRgbMid = v.holds v.buffers.depthMmMid
  depthFront : v.holds v.buffers.depthMmFront = Mailbox.handedOut depth
  depthFronts : v.holds v.buffers.depthRgbFront = v.holds v.buffers.depthMmFront

/-- What the mailboxes read of the pointers: the flags, the mids and the fronts. -/
def Buffers.slots (b : Buffers) : Bool × Nat × Nat × Bool × Nat × Nat × Nat × Nat :=
  (b.gotRgb, b.rgbMid, b.rgbFront, b.gotDepth, b.depthMmMid, b.depthRgbMid, b.depthMmFront,
    b.depthRgbFront)

section Steps

variable {v : Viewer} {colour depth : List (Mailbox.Event Nat)}

theorem Mailboxes.congr (boxes : Mailboxes v colour depth) {w : Viewer} (holds : w.holds = v.holds)
    (slots : w.buffers.slots = v.buffers.slots) : Mailboxes w colour depth := by
  simp only [Buffers.slots, Prod.mk.injEq] at slots
  obtain ⟨rgb, rgbMid, rgbFront, dep, mmMid, depthRgbMid, mmFront, depthRgbFront⟩ := slots
  cases boxes
  constructor <;> simp only [holds, rgb, rgbMid, rgbFront, dep, mmMid, depthRgbMid, mmFront,
    depthRgbFront] <;> assumption

/-- The colour half of a redraw takes the pending colour frame into the front. -/
theorem Mailboxes.swapRgbFront (boxes : Mailboxes v colour depth) :
    Mailboxes { v with buffers := swapRgbFront v.buffers } (colour ++ [.take]) depth := by
  obtain ⟨rgbPending, rgbHeld, rgbFront, depthPending, depthHeld, depthMids, depthFront,
    depthFronts⟩ := boxes
  unfold ControlCenter.swapRgbFront
  cases got : v.buffers.gotRgb
  · simp only [got, if_false] at rgbPending
    exact ⟨by simp [got], by simp [got], by simp [rgbFront, rgbPending], depthPending,
      depthHeld, depthMids, depthFront, depthFronts⟩
  · obtain ⟨n, held⟩ := Option.isSome_iff_exists.1 (rgbHeld got)
    simp only [got, if_true, held] at rgbPending
    exact ⟨by simp, by simp, by simp [rgbPending, held], depthPending, depthHeld, depthMids,
      depthFront, depthFronts⟩

/-- The depth half of a redraw takes the pending depth frame into both fronts. -/
theorem Mailboxes.swapDepthFronts (boxes : Mailboxes v colour depth) :
    Mailboxes { v with buffers := swapDepthFronts v.buffers } colour (depth ++ [.take]) := by
  obtain ⟨rgbPending, rgbHeld, rgbFront, depthPending, depthHeld, depthMids, depthFront,
    depthFronts⟩ := boxes
  unfold ControlCenter.swapDepthFronts
  cases got : v.buffers.gotDepth
  · simp only [got, if_false] at depthPending
    exact ⟨rgbPending, rgbHeld, rgbFront, by simp [got], by simp [got], depthMids,
      by simp [depthFront, depthPending], depthFronts⟩
  · obtain ⟨n, held⟩ := Option.isSome_iff_exists.1 (depthHeld got)
    simp only [got, if_true, held] at depthPending
    exact ⟨rgbPending, rgbHeld, rgbFront, by simp, by simp, depthFronts,
      by simp [depthPending, held], by simp [depthMids]⟩

/-- A redraw takes from both mailboxes. -/
theorem Mailboxes.drawGLScene (boxes : Mailboxes v colour depth) :
    Mailboxes { v with buffers := drawGLScene v.buffers } (colour ++ [.take]) (depth ++ [.take]) :=
  boxes.swapDepthFronts.swapRgbFront

theorem Mailboxes.step (boxes : Mailboxes v colour depth) (inv : Invariant v.buffers) (e : Event) :
    ∃ v', v.step e = some v' ∧ Invariant v'.buffers ∧
      Mailboxes v' (colour ++ e.colour v) (depth ++ e.depth v) := by
  obtain ⟨depthApart, videoApart⟩ := inv.apart
  simp only [List.forall_mem_cons, List.not_mem_nil, false_imp_iff, implies_true, and_true]
    at depthApart videoApart
  cases e with
  | depthCb =>
    obtain ⟨rgbPending, rgbHeld, rgbFront, -, -, -, depthFront, depthFronts⟩ := boxes
    refine ⟨_, rfl, inv.depthCb, ?_⟩
    constructor <;> simp [Event.writes, Event.colour, Event.depth, Event.delivers, depthCb,
      depthApart, rgbPending, rgbFront, depthFront, depthFronts]
    exact rgbHeld
  | videoFrame =>
    obtain ⟨-, -, rgbFront, depthPending, depthHeld, depthMids, depthFront, depthFronts⟩ := boxes
    refine ⟨_, by rw [Viewer.step, Event.apply, inv.rgbCb_eq]; rfl, by exact inv.rgbCb, ?_⟩
    constructor <;> simp [Event.writes, Event.colour, Event.depth, Event.delivers, inv.zeroCopy,
      videoApart, rgbFront, depthPending, depthMids, depthFront, depthFronts]
    exact depthHeld
  | drawGLScene => exact ⟨_, rfl, inv.drawGLScene, boxes.drawGLScene⟩
  | captureFrameBundle =>
    refine ⟨_, rfl, inv, ?_⟩
    simp only [Event.colour, Event.depth, List.append_nil]
    exact boxes.congr (funext fun _ => by simp [Event.writes]) rfl
  | keyPressed key =>
    refine ⟨_, rfl, inv.keyPressed key, ?_⟩
    simp only [Event.colour, Event.depth, List.append_nil]
    exact boxes.congr (funext fun _ => by simp [Event.writes])
      (by unfold ControlCenter.keyPressed; split <;> rfl)
  | switchVideoFormat valid =>
    refine ⟨_, rfl, inv.switchVideoFormat valid, ?_⟩
    simp only [Event.colour, Event.depth, List.append_nil]
    exact boxes.congr (funext fun _ => by simp [Event.writes])
      (by unfold ControlCenter.switchVideoFormat; split <;> (try split) <;> rfl)

theorem Mailboxes.run (boxes : Mailboxes v colour depth) (inv : Invariant v.buffers)
    (events : List Event) :
    ∃ v', Viewer.run events v = some v' ∧ Invariant v'.buffers ∧
      Mailboxes v' (colour ++ colourHistory events v) (depth ++ depthHistory events v) := by
  induction events generalizing v colour depth with
  | nil => exact ⟨v, rfl, inv, by simpa [colourHistory, depthHistory] using boxes⟩
  | cons e es ih =>
    obtain ⟨v', stepped, inv', boxes'⟩ := boxes.step inv e
    obtain ⟨w, ran, invw, boxesw⟩ := ih boxes' inv'
    refine ⟨w, by simp [Viewer.run, stepped, ran], invw, ?_⟩
    simpa [colourHistory, depthHistory, stepped] using boxesw

end Steps

/-- The viewer's pointers follow the pointer model step for step. -/
theorem Viewer.run_buffers (events : List Event) (v : Viewer) :
    (Viewer.run events v).map Viewer.buffers = ControlCenter.run events v.buffers := by
  induction events generalizing v with
  | nil => rfl
  | cons e es ih =>
    simp only [Viewer.run, ControlCenter.run, Viewer.step]
    cases e.apply v.buffers with
    | none => rfl
    | some b => simpa using ih _

theorem viewerStarted_mailboxes : Mailboxes viewerStarted [] [] :=
  ⟨rfl, nofun, rfl, rfl, nofun, rfl, rfl, rfl⟩

theorem redraws_show_newest_frames (events : List Event) :
    ∃ v, Viewer.run events viewerStarted = some v ∧ run events started = some v.buffers ∧
      Mailboxes v (colourHistory events viewerStarted) (depthHistory events viewerStarted) := by
  obtain ⟨v, ran, -, boxes⟩ := viewerStarted_mailboxes.run started_invariant events
  refine ⟨v, ran, ?_, by simpa using boxes⟩
  simpa [ran] using (Viewer.run_buffers events viewerStarted).symm

/-- Two frames arrive before a redraw: the first is dropped, the second shown. -/
example : (Viewer.run [.videoFrame, .videoFrame, .drawGLScene] viewerStarted).map
    (fun v => v.holds v.buffers.rgbFront) = some (some 1) := rfl

end MacKinect.ControlCenter
