import MacKinect.Mailbox
import MacKinect.FreenectV1.Streams

/-! The frame slot of `FreenectV1Device` against the mailbox. The callbacks overwrite the
buffer of their kind, getFrame copies the slot out and clears only the flag, and nothing
empties a buffer: a returned frame holds, per kind, the newest write of that kind over the
whole run, however many takes came between. -/
namespace MacKinect.FreenectV1

open Mailbox

/-- What the control operations leave alone: the frame slot and its fresh flag. -/
def SlotKept (d e : Device) : Prop := e.frame = d.frame ∧ e.hasNewFrame = d.hasNewFrame

section SlotKept

variable {d e f : Device} (s : SubStream) (ok : Bool)

theorem SlotKept.refl (d : Device) : SlotKept d d := ⟨rfl, rfl⟩

theorem SlotKept.trans (first : SlotKept d e) (second : SlotKept e f) : SlotKept d f :=
  ⟨second.1.trans first.1, second.2.trans first.2⟩

theorem slotKept_startStream (d : Device) : SlotKept d (d.startStream s ok) := by
  constructor <;> simp [Device.startStream]

theorem slotKept_stopStream (d : Device) : SlotKept d (d.stopStream s) := by
  constructor <;> simp [Device.stopStream]

theorem slotKept_stopIfStarted (d : Device) : SlotKept d (d.stopIfStarted s) := by
  unfold Device.stopIfStarted
  split
  · exact slotKept_stopStream s d
  · exact .refl d

end SlotKept

theorem applyVideoMode_slotKept (r : VideoResults) (d : Device) :
    SlotKept d (applyVideoMode r d).1 := by
  have rest := (applyVideoMode_videoOnly d r).rest
  simp only [Device.nonVideo, Prod.mk.injEq] at rest
  exact ⟨rest.2.2.2.2.2.2.2.1, rest.2.2.2.2.2.2.2.2⟩

theorem setAudioEnabled_slotKept (enabled ok : Bool) (d : Device) :
    SlotKept d (setAudioEnabled enabled ok d).1 := by
  unfold setAudioEnabled
  dsimp only
  repeat' split
  all_goals first
    | exact ⟨rfl, rfl⟩
    | exact slotKept_startStream _ _ _
    | exact slotKept_stopIfStarted _ _

theorem finishStart_slotKept (ok : Bool) (d : Device) : SlotKept d (finishStart ok d).1 := by
  unfold finishStart
  dsimp only
  split
  · exact setAudioEnabled_slotKept true ok { d with running := true }
  · exact .refl d

theorem start_slotKept (r : StartResults) (d : Device) : SlotKept d (start r d).1 := by
  unfold start
  dsimp only
  by_cases guard : (!d.dev || d.running) = true
  · rw [if_pos guard]; exact .refl d
  rw [if_neg guard]
  by_cases invalid : (!r.depthModeValid) = true
  · rw [if_pos invalid]; exact .refl d
  rw [if_neg invalid]
  by_cases rejected : (!r.setDepthMode) = true
  · rw [if_pos rejected]; exact .refl d
  rw [if_neg rejected]
  have video := applyVideoMode_slotKept r.video (d.call (.setDepthMode r.setDepthMode))
  cases applied : applyVideoMode r.video (d.call (.setDepthMode r.setDepthMode)) with
  | mk e ok =>
  rw [applied] at video
  have depth := video.trans (slotKept_startStream .depth r.startDepth e)
  cases ok
  · exact video
  rw [if_neg (by simp)]
  by_cases depthFailed : (!r.startDepth) = true
  · rw [if_pos depthFailed]; exact depth
  rw [if_neg depthFailed]
  split
  · exact depth.trans (finishStart_slotKept _ _)
  have both := depth.trans (slotKept_startStream .video r.startVideo _)
  split
  · exact both.trans (slotKept_stopStream .depth _)
  · exact both.trans (finishStart_slotKept _ _)

theorem stop_slotKept (d : Device) : SlotKept d (stop d).1 := by
  unfold stop
  dsimp only
  split
  · exact .refl d
  split
  · exact .refl d
  exact (((slotKept_stopIfStarted .audio d).trans (slotKept_stopIfStarted .video _)).trans
    (slotKept_stopIfStarted .depth _)).trans ⟨rfl, rfl⟩

theorem update_slotKept (r : UpdateResults) (d : Device) : SlotKept d (update r d).1 := by
  unfold update
  dsimp only
  split
  · exact .refl d
  have switched : SlotKept d (if d.requestedStream ≠ d.activeStream then
      (applyVideoMode r.video d).1 else d) := by
    split
    · exact applyVideoMode_slotKept r.video d
    · exact .refl d
  exact switched.trans ⟨rfl, rfl⟩

/-- What a callback hands to the slot; the constructor is the buffer it fills. -/
inductive Write where
  | depth (source : Nat → UInt16) (timestamp : UInt32)
  | rgb (source : Nat → UInt8) (timestamp : UInt32)
  | ir (source : Nat → UInt8) (timestamp : UInt32)

def Write.timestamp : Write → UInt32
  | .depth _ t | .rgb _ t | .ir _ t => t

def Write.depthSource : Write → Option (Nat → UInt16)
  | .depth source _ => some source
  | _ => none

def Write.rgbSource : Write → Option (Nat → UInt8)
  | .rgb source _ => some source
  | _ => none

def Write.irSource : Write → Option (Nat → UInt8)
  | .ir source _ => some source
  | _ => none

/-- The header of every callback and the buffer of the write's kind. -/
def Write.fill (f : FrameData) : Write → FrameData
  | .depth source timestamp => { f with width := kWidth, height := kHeight, timestamp,
                                        depth := copyOut kPixelCount source }
  | .rgb source timestamp => { f with width := kWidth, height := kHeight, timestamp,
                                      rgb := copyOut (kPixelCount * 3) source }
  | .ir source timestamp => { f with width := kWidth, height := kHeight, timestamp,
                                     ir := copyOut kPixelCount source }

/-- The slot events of one operation in state `d`. The video callback fills the buffer of
the stream active when it runs. -/
def Op.events (d : Device) : Op → List (Event Write)
  | .onDepthFrame (some source) timestamp => [.write (.depth source timestamp)]
  | .onVideoFrame (some source) timestamp =>
    [.write (if d.activeStream = .kIr then .ir source timestamp else .rgb source timestamp)]
  | .getFrame => [.take]
  | _ => []

def events : List Op → Device → List (Event Write)
  | [], _ => []
  | op :: ops, d => op.events d ++ events ops (op.apply d)

/-- A buffer as the slot holds it: empty until written, then the copy of the newest write. -/
def bufferOf (count : Nat) : Option (Nat → α) → List α
  | none => []
  | some source => copyOut count source

/-- The frame the slot holds after `history`. -/
def slotFrame (history : List (Event Write)) : FrameData :=
  let buffers : FrameData :=
    { depth := bufferOf kPixelCount (latest Write.depthSource history)
      rgb := bufferOf (kPixelCount * 3) (latest Write.rgbSource history)
      ir := bufferOf kPixelCount (latest Write.irSource history) }
  match latest (fun w => some w.timestamp) history with
  | none => buffers
  | some timestamp => { buffers with width := kWidth, height := kHeight, timestamp }

theorem slotFrame_write (history : List (Event Write)) (w : Write) :
    slotFrame (history ++ [.write w]) = Write.fill (slotFrame history) w := by
  unfold slotFrame
  cases latest (fun w => some w.timestamp) history <;>
    cases w <;> simp [Write.fill, Write.timestamp, Write.depthSource, Write.rgbSource, Write.irSource, bufferOf]

@[simp] theorem slotFrame_take (history : List (Event Write)) :
    slotFrame (history ++ [.take]) = slotFrame history := by
  simp [slotFrame]

theorem onVideoFrame_fill (source : Nat → UInt8) (timestamp : UInt32) (d : Device) :
    onVideoFrame (some source) timestamp d = d.store (Write.fill d.frame
      (if d.activeStream = .kIr then .ir source timestamp else .rgb source timestamp)) true := by
  by_cases ir : d.activeStream = .kIr <;> simp [onVideoFrame, ir, Write.fill]

/-- The device's slot is the one `history` leaves behind. -/
structure SlotMatches (d : Device) (history : List (Event Write)) : Prop where
  fresh : d.hasNewFrame = (pending history).isSome
  frame : d.frame = slotFrame history

theorem SlotMatches.write {d : Device} {history : List (Event Write)}
    (slot : SlotMatches d history) (w : Write) :
    SlotMatches (d.store (Write.fill d.frame w) true) (history ++ [.write w]) :=
  ⟨by simp, by simp [slotFrame_write, slot.frame]⟩

theorem SlotMatches.kept {d e : Device} {history : List (Event Write)}
    (slot : SlotMatches d history) (kept : SlotKept d e) : SlotMatches e (history ++ []) :=
  ⟨by simpa [kept.2] using slot.fresh, by simpa [kept.1] using slot.frame⟩

theorem Op.apply_slotMatches {d : Device} {history : List (Event Write)}
    (slot : SlotMatches d history) (op : Op) :
    SlotMatches (op.apply d) (history ++ op.events d) := by
  cases op with
  | start r => exact slot.kept (start_slotKept r d)
  | stop => exact slot.kept (stop_slotKept d)
  | update r => exact slot.kept (update_slotKept r d)
  | setStreamKind kind => exact slot.kept ⟨rfl, rfl⟩
  | setAudioEnabled enabled ok => exact slot.kept (setAudioEnabled_slotKept enabled ok d)
  | onDepthFrame depth timestamp =>
    rcases depth with _ | source
    · exact slot.kept (.refl d)
    · exact slot.write (.depth source timestamp)
  | onVideoFrame video timestamp =>
    cases video
    · exact slot.kept (.refl d)
    · simp only [Op.apply, Op.events, onVideoFrame_fill]
      exact slot.write _
  | getFrame =>
    simp only [Op.apply, Op.events, FreenectV1.getFrame]
    split
    · exact ⟨by simp, by simp [slot.frame]⟩
    · next stale => exact ⟨by simpa using stale, by simp [slot.frame]⟩

theorem run_slotMatches {d : Device} {history : List (Event Write)}
    (slot : SlotMatches d history) (ops : List Op) :
    SlotMatches (run ops d) (history ++ events ops d) := by
  induction ops generalizing d history with
  | nil => simpa [run, events] using slot
  | cons op ops ih => simpa [run, events] using ih (Op.apply_slotMatches slot op)

theorem opened_slotMatches (audio : Bool) : SlotMatches (opened audio) [] := ⟨rfl, rfl⟩

/-- Refinement of the mailbox: after any run, getFrame succeeds exactly when the mailbox
holds a write, and then returns the slot frame of the whole history. -/
theorem getFrame_run (audio : Bool) (ops : List Op) :
    (getFrame (run ops (opened audio))).2 =
      (pending (events ops (opened audio))).map fun _ => slotFrame (events ops (opened audio)) := by
  have slot := run_slotMatches (opened_slotMatches audio) ops
  rw [List.nil_append] at slot
  unfold getFrame
  cases pending_events : pending (events ops (opened audio)) <;>
    simp [slot.fresh, slot.frame, pending_events]


/-- The events of a run are those of its operations, each in the state it found. -/
theorem mem_events {e : Event Write} (ops : List Op) (d : Device) :
    e ∈ events ops d ↔ ∃ pre op post, ops = pre ++ op :: post ∧ e ∈ op.events (run pre d) := by
  induction ops generalizing d with
  | nil => simp [events]
  | cons o os ih =>
    simp only [events, List.mem_append, ih]
    constructor
    · rintro (here | ⟨pre, op, post, rfl, mem⟩)
      · exact ⟨[], o, os, rfl, here⟩
      · exact ⟨o :: pre, op, post, rfl, mem⟩
    · rintro ⟨pre, op, post, split, mem⟩
      cases pre with
      | nil => cases split; exact .inl mem
      | cons p pre => cases split; exact .inr ⟨pre, op, post, rfl, mem⟩

theorem rgb_mem_events {source : Nat → UInt8} {t : UInt32} (d : Device) (op : Op) :
    .write (.rgb source t) ∈ op.events d ↔
      op = .onVideoFrame (some source) t ∧ d.activeStream ≠ .kIr := by
  by_cases active : d.activeStream = .kIr <;>
    rcases op with _ | _ | _ | _ | _ | ⟨_ | _, _⟩ | ⟨_ | _, _⟩ | _ <;> simp [Op.events, active, eq_comm]

theorem ir_mem_events {source : Nat → UInt8} {t : UInt32} (d : Device) (op : Op) :
    .write (.ir source t) ∈ op.events d ↔
      op = .onVideoFrame (some source) t ∧ d.activeStream = .kIr := by
  by_cases active : d.activeStream = .kIr <;>
    rcases op with _ | _ | _ | _ | _ | ⟨_ | _, _⟩ | ⟨_ | _, _⟩ | _ <;> simp [Op.events, active, eq_comm]

section SlotFrame

variable (history : List (Event Write))

@[simp] theorem slotFrame_rgb :
    (slotFrame history).rgb = bufferOf (kPixelCount * 3) (latest Write.rgbSource history) := by
  unfold slotFrame; split <;> rfl

@[simp] theorem slotFrame_depth :
    (slotFrame history).depth = bufferOf kPixelCount (latest Write.depthSource history) := by
  unfold slotFrame; split <;> rfl

@[simp] theorem slotFrame_ir :
    (slotFrame history).ir = bufferOf kPixelCount (latest Write.irSource history) := by
  unfold slotFrame; split <;> rfl

theorem bufferOf_ne_nil {count : Nat} (positive : 0 < count) (source : Option (Nat → α)) :
    bufferOf count source ≠ [] ↔ source.isSome := by
  cases source <;> simp [bufferOf]; omega

theorem slotFrame_rgb_ne_nil :
    (slotFrame history).rgb ≠ [] ↔ ∃ source t, .write (.rgb source t) ∈ history := by
  rw [slotFrame_rgb, bufferOf_ne_nil (by decide), latest_isSome_iff]
  constructor
  · rintro ⟨_ | ⟨source, t⟩ | _, mem, picked⟩ <;> first | exact ⟨source, t, mem⟩ | cases picked
  · rintro ⟨source, t, mem⟩; exact ⟨_, mem, rfl⟩

theorem slotFrame_ir_ne_nil :
    (slotFrame history).ir ≠ [] ↔ ∃ source t, .write (.ir source t) ∈ history := by
  rw [slotFrame_ir, bufferOf_ne_nil (by decide), latest_isSome_iff]
  constructor
  · rintro ⟨_ | _ | ⟨source, t⟩, mem, picked⟩ <;> first | exact ⟨source, t, mem⟩ | cases picked
  · rintro ⟨source, t, mem⟩; exact ⟨_, mem, rfl⟩

theorem length_bufferOf {count : Nat} {source : Option (Nat → α)}
    (present : bufferOf count source ≠ []) : (bufferOf count source).length = count := by
  cases source with
  | none => exact absurd rfl present
  | some s => simp [bufferOf]

/-- Once the mailbox holds a write, the slot frame is 640×480. -/
theorem slotFrame_header {w : Write} (written : pending history = some w) :
    (slotFrame history).width = kWidth ∧ (slotFrame history).height = kHeight := by
  unfold slotFrame
  rw [latest_of_pending Write.timestamp written]
  exact ⟨rfl, rfl⟩

/-- Once the mailbox holds a write, the slot frame is 640×480 and every buffer present in it
has its full size. -/
theorem slotFrame_wellFormed {w : Write} (written : pending history = some w) :
    (slotFrame history).WellFormed := by
  have header := slotFrame_header _ written
  refine ⟨header.1 ▸ by decide, header.2 ▸ by decide, fun present => ?_, fun present => ?_,
    fun present => ?_⟩ <;>
  · simp only [slotFrame_rgb, slotFrame_depth, slotFrame_ir, header] at present ⊢
    rw [length_bufferOf present]
    decide

end SlotFrame

/-- Somewhere in `ops` run from `d`, the video callback delivered a frame while the active
stream satisfied `mode`. -/
def VideoDelivered (ops : List Op) (d : Device) (mode : StreamKind → Prop) : Prop :=
  ∃ pre source t post, ops = pre ++ .onVideoFrame (some source) t :: post ∧
    mode (run pre d).activeStream

theorem rgb_written_iff (ops : List Op) (d : Device) :
    (∃ source t, .write (.rgb source t) ∈ events ops d) ↔ VideoDelivered ops d (· ≠ .kIr) := by
  simp only [mem_events, rgb_mem_events, VideoDelivered]
  constructor
  · rintro ⟨source, t, pre, _, post, rfl, rfl, active⟩; exact ⟨pre, source, t, post, rfl, active⟩
  · rintro ⟨pre, source, t, post, rfl, active⟩; exact ⟨source, t, pre, _, post, rfl, rfl, active⟩

theorem ir_written_iff (ops : List Op) (d : Device) :
    (∃ source t, .write (.ir source t) ∈ events ops d) ↔ VideoDelivered ops d (· = .kIr) := by
  simp only [mem_events, ir_mem_events, VideoDelivered]
  constructor
  · rintro ⟨source, t, pre, _, post, rfl, rfl, active⟩; exact ⟨pre, source, t, post, rfl, active⟩
  · rintro ⟨pre, source, t, post, rfl, active⟩; exact ⟨source, t, pre, _, post, rfl, rfl, active⟩

/-- Colour and infrared of a returned frame: colour is present exactly when the run delivered
video at some point while the active stream was not infrared, infrared exactly when it
delivered video while it was. A frame carries both once video came in both modes. -/
theorem returned_color_ir (audio : Bool) (ops : List Op) {f : FrameData}
    (returned : (getFrame (run ops (opened audio))).2 = some f) :
    (f.rgb ≠ [] ↔ VideoDelivered ops (opened audio) (· ≠ .kIr)) ∧
      (f.ir ≠ [] ↔ VideoDelivered ops (opened audio) (· = .kIr)) := by
  rw [getFrame_run] at returned
  obtain ⟨_, -, rfl⟩ := Option.map_eq_some'.mp returned
  rw [slotFrame_rgb_ne_nil, slotFrame_ir_ne_nil, rgb_written_iff, ir_written_iff]
  exact ⟨.rfl, .rfl⟩

theorem returned_color_ir_after_switch :
    let ops : List Op := [.start ⟨true, true, ⟨true, true, true⟩, true, true, true⟩,
      .onVideoFrame (some fun _ => 1) 0, .setStreamKind .kIr, .update ⟨⟨true, true, true⟩, true⟩,
      .onVideoFrame (some fun _ => 2) 1]
    let f := slotFrame (events ops (opened false))
    (getFrame (run ops (opened false))).2 = some f ∧
      (f.rgb ≠ [] ↔ VideoDelivered ops (opened false) (· ≠ .kIr)) ∧
      (f.ir ≠ [] ↔ VideoDelivered ops (opened false) (· = .kIr)) :=
  have returned := (getFrame_run false _).trans rfl
  ⟨returned, returned_color_ir false _ returned⟩

/-- Colour, a switch to infrared, infrared: the next getFrame returns both buffers. -/
theorem switch_returns_rgb_and_ir (first second : Nat → UInt8) :
    let ops : List Op := [.start ⟨true, true, ⟨true, true, true⟩, true, true, true⟩,
      .onVideoFrame (some first) 0, .setStreamKind .kIr, .update ⟨⟨true, true, true⟩, true⟩,
      .onVideoFrame (some second) 1]
    ∃ f, (getFrame (run ops (opened false))).2 = some f ∧ f.rgb ≠ [] ∧ f.ir ≠ [] := by
  intro ops
  have history : events ops (opened false) = [.write (.rgb first 0), .write (.ir second 1)] := rfl
  rw [getFrame_run, history]
  exact ⟨_, rfl, (slotFrame_rgb_ne_nil _).2 ⟨first, 0, by simp⟩,
    (slotFrame_ir_ne_nil _).2 ⟨second, 1, by simp⟩⟩

end MacKinect.FreenectV1
