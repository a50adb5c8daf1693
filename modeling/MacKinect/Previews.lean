import MacKinect.Main
import MacKinect.FreenectV1.Device
import MacKinect.FreenectV2.Frames

/-! `probe()`, `listDevices()` and `preview()` of the two backends, in freenect_v1_backend.cpp
and freenect_v2_backend.cpp, over the driver and device models. preview() loops until a
deadline; the turns its loop makes before the deadline are its input. The device's `stop()`
after the loop changes no count, and is left out. -/
namespace MacKinect

open Cli (ProbeResult PreviewResult)
open FreenectV1 (DeviceInfo)

/-- The counting both preview loops do with a frame getFrame handed over. -/
def Cli.PreviewResult.count (result : PreviewResult) (frame : FrameData) : PreviewResult :=
  { result with colorFrames := result.colorFrames + if frame.rgb.isEmpty then 0 else 1,
                depthFrames := result.depthFrames + if frame.depth.isEmpty then 0 else 1 }

/-- The end of both previews: a success when any frame was counted. -/
def Cli.PreviewResult.finish (result : PreviewResult) : PreviewResult :=
  let success := 0 < result.colorFrames + result.depthFrames
  { result with success := success,
                detail := if success then "Preview captured." else "No frames captured." }

@[simp] theorem count_colorFrames (result : PreviewResult) (frame : FrameData) :
    (result.count frame).colorFrames = result.colorFrames + if frame.rgb.isEmpty then 0 else 1 := rfl

@[simp] theorem count_depthFrames (result : PreviewResult) (frame : FrameData) :
    (result.count frame).depthFrames = result.depthFrames + if frame.depth.isEmpty then 0 else 1 :=
  rfl

@[simp] theorem finish_colorFrames (result : PreviewResult) :
    result.finish.colorFrames = result.colorFrames := rfl

@[simp] theorem finish_depthFrames (result : PreviewResult) :
    result.finish.depthFrames = result.depthFrames := rfl

namespace FreenectV1

/-- `FreenectV1Backend::probe`; `hasAudioFirmware` is `has_audio_firmware_`. -/
def probe (hasAudioFirmware : Bool) (d : Driver) : ProbeResult × Driver :=
  if !d.context then (⟨false, "libfreenect initialization failed."⟩, d) else
  let e := enumerateCountWithRetries 4 80 d
  if e.1 < 0 then (⟨false, "Kinect v1 enumeration failed."⟩, e.2)
  else if e.1 = 0 then
    if hasAudioFirmware then (⟨true, "Backend ready. No Kinect v1 devices are currently attached."⟩, e.2)
    else (⟨true, "Backend ready (camera/depth only). No Kinect v1 devices are currently attached."⟩,
      e.2)
  else if !hasAudioFirmware then
    (⟨true, toString e.1 ++
      " Kinect v1 device(s) detected. Audio disabled because audios.bin firmware was not found."⟩,
      e.2)
  else (⟨true, toString e.1 ++ " Kinect v1 device(s) detected."⟩, e.2)

/-- A callback that `freenect_process_events` runs. -/
inductive Callback where
  | depth (depth : Option (Nat → UInt16)) (timestamp : UInt32)
  | video (video : Option (Nat → UInt8)) (timestamp : UInt32)

def Callback.apply : Callback → Device → Device
  | .depth samples timestamp, d => onDepthFrame samples timestamp d
  | .video samples timestamp, d => onVideoFrame samples timestamp d

/-- One turn of the loop: the driver's answers to update(), and the callbacks its
`freenect_process_events` ran. -/
structure Turn where
  update : UpdateResults
  callbacks : List Callback

/-- `device->update()`, whose result is not read, then getFrame. -/
def previewTurn (t : Turn) (d : Device) (result : PreviewResult) : Device × PreviewResult :=
  let d := t.callbacks.foldl (fun d c => c.apply d) (update t.update d).1
  match getFrame d with
  | (d, some frame) => (d, result.count frame)
  | (d, none) => (d, result)

def previewLoop : List Turn → Device → PreviewResult → PreviewResult
  | [], _, result => result
  | t :: turns, d, result =>
    let (d, result) := previewTurn t d result
    previewLoop turns d result

/-- preview(): the first listed device is opened and started, then the loop runs. -/
def preview (hasAudioFirmware : Bool) (r : StartResults) (turns : List Turn) (d : Driver) :
    PreviewResult × Driver :=
  let (devices, d) := listDevices d
  match devices with
  | [] => ({ detail := "No Kinect v1 device available for preview." }, d)
  | first :: _ =>
    let (session, d) := openDevice first.serial d
    match session with
    | none => ({ detail := "Could not start Kinect v1 preview." }, d)
    | some _ =>
      let (device, started) := start r (opened hasAudioFirmware)
      if !started then ({ detail := "Could not start Kinect v1 preview." }, d)
      else ((previewLoop turns device {}).finish, d)

/-- A device the preview loop turns: running, with colour requested and active. -/
structure Streaming (d : Device) : Prop where
  running : d.running
  active : d.activeStream = .kRgb
  requested : d.requestedStream = .kRgb

theorem Streaming.store {d : Device} (streaming : Streaming d) (frame : FrameData) (fresh : Bool) :
    Streaming (d.store frame fresh) :=
  ⟨streaming.running, streaming.active, streaming.requested⟩

theorem start_opened_streaming (r : StartResults) (audio : Bool) (started : (start r (opened audio)).2) :
    Streaming (start r (opened audio)).1 ∧ (start r (opened audio)).1.hasNewFrame = false ∧
      (start r (opened audio)).1.frame = {} := by
  obtain ⟨valid, setMode, ⟨modeValid, setVideo, startVideo'⟩, startDepth, startVideo, startAudio⟩ := r
  cases valid <;> cases setMode <;> cases modeValid <;> cases setVideo <;> cases startVideo' <;>
    cases startDepth <;> first | (cases started; done) | exact ⟨⟨rfl, rfl, rfl⟩, rfl, rfl⟩

/-- The callback delivered a colour frame: video, with the driver's buffer. -/
def Callback.isVideo : Callback → Bool
  | .video samples _ => samples.isSome
  | .depth _ _ => false

def Callback.isDepth : Callback → Bool
  | .depth samples _ => samples.isSome
  | .video _ _ => false

def Turn.video (t : Turn) : Bool := t.callbacks.any Callback.isVideo

def Turn.depth (t : Turn) : Bool := t.callbacks.any Callback.isDepth

/-- A frame arrived during the turn, so getFrame hands the slot over. -/
def Turn.fresh (t : Turn) : Bool := t.video || t.depth

theorem copyOut_isEmpty {α : Type} {count : Nat} (positive : 0 < count) (source : Nat → α) :
    (copyOut count source).isEmpty = false := by
  rw [← Bool.not_eq_true, List.isEmpty_iff, ← List.length_eq_zero, length_copyOut]
  omega

theorem onDepthFrame_some (source : Nat → UInt16) (timestamp : UInt32) (d : Device) :
    onDepthFrame (some source) timestamp d =
      d.store ⟨d.frame.rgb, copyOut kPixelCount source, d.frame.ir, kWidth, kHeight, timestamp⟩ true :=
  rfl

theorem onVideoFrame_some (source : Nat → UInt8) (timestamp : UInt32) {d : Device}
    (active : d.activeStream ≠ .kIr) :
    onVideoFrame (some source) timestamp d = d.store
      ⟨copyOut (kPixelCount * 3) source, d.frame.depth, d.frame.ir, kWidth, kHeight, timestamp⟩ true := by
  simp only [onVideoFrame, if_neg active]

/-- What a callback does to a streaming device: it leaves it streaming, fills the buffer of
its kind, and marks the slot as new. -/
theorem Callback.apply_spec (c : Callback) {d : Device} (streaming : Streaming d) :
    Streaming (c.apply d) ∧
      (c.apply d).frame.rgb.isEmpty = (d.frame.rgb.isEmpty && !c.isVideo) ∧
      (c.apply d).frame.depth.isEmpty = (d.frame.depth.isEmpty && !c.isDepth) ∧
      (c.apply d).hasNewFrame = (d.hasNewFrame || c.isVideo || c.isDepth) := by
  have pixels : 0 < kPixelCount := by decide
  cases c with
  | depth samples timestamp =>
    cases samples with
    | none => exact ⟨streaming, by simp [Callback.apply, onDepthFrame, Callback.isVideo,
        Callback.isDepth]⟩
    | some source =>
      rw [Callback.apply, onDepthFrame_some, Device.store_frame, Device.store_hasNewFrame]
      dsimp only
      simp only [copyOut_isEmpty pixels, Callback.isVideo, Callback.isDepth, Option.isSome_some,
        Bool.not_true, Bool.not_false, Bool.and_true, Bool.and_false, Bool.or_true, and_true]
      exact streaming.store _ true
  | video samples timestamp =>
    cases samples with
    | none => exact ⟨streaming, by simp [Callback.apply, onVideoFrame, Callback.isVideo,
        Callback.isDepth]⟩
    | some source =>
      rw [Callback.apply, onVideoFrame_some source timestamp (by rw [streaming.active]; decide),
        Device.store_frame, Device.store_hasNewFrame]
      dsimp only
      simp only [copyOut_isEmpty (Nat.mul_pos pixels (by decide : 0 < 3)), Callback.isVideo,
        Callback.isDepth, Option.isSome_some, Bool.not_true, Bool.not_false, Bool.and_true,
        Bool.and_false, Bool.or_false, Bool.or_true, and_true]
      exact streaming.store _ true
theorem callbacks_spec (callbacks : List Callback) {d : Device} (streaming : Streaming d) :
    let e := callbacks.foldl (fun d c => c.apply d) d
    Streaming e ∧ e.frame.rgb.isEmpty = (d.frame.rgb.isEmpty && !callbacks.any Callback.isVideo) ∧
      e.frame.depth.isEmpty = (d.frame.depth.isEmpty && !callbacks.any Callback.isDepth) ∧
      e.hasNewFrame = (d.hasNewFrame || callbacks.any Callback.isVideo ||
        callbacks.any Callback.isDepth) := by
  induction callbacks generalizing d with
  | nil => simp [streaming]
  | cons c callbacks ih =>
    obtain ⟨streaming', rgb, depth, fresh⟩ := c.apply_spec streaming
    obtain ⟨streaming'', rgb', depth', fresh'⟩ := ih streaming'
    refine ⟨streaming'', ?_, ?_, ?_⟩
    · rw [List.foldl_cons, rgb', rgb, List.any_cons]
      cases d.frame.rgb.isEmpty <;> cases c.isVideo <;> rfl
    · rw [List.foldl_cons, depth', depth, List.any_cons]
      cases d.frame.depth.isEmpty <;> cases c.isDepth <;> rfl
    · rw [List.foldl_cons, fresh', fresh, List.any_cons, List.any_cons]
      cases d.hasNewFrame <;> cases c.isVideo <;> cases c.isDepth <;> simp

theorem update_streaming (r : UpdateResults) {d : Device} (streaming : Streaming d) :
    (update r d).1 = d.call (.processEvents r.processEvents) := by
  simp [update, streaming.running, streaming.active, streaming.requested]

/-- One turn of v1's loop: the slot gains the buffers of the frames that arrived, and the
frame getFrame hands over, if one arrived, is the whole slot. -/
theorem previewTurn_spec (t : Turn) {d : Device} (streaming : Streaming d)
    (idle : d.hasNewFrame = false) (result : PreviewResult) :
    let turn := previewTurn t d result
    Streaming turn.1 ∧ turn.1.hasNewFrame = false ∧
      turn.1.frame.rgb.isEmpty = (d.frame.rgb.isEmpty && !t.video) ∧
      turn.1.frame.depth.isEmpty = (d.frame.depth.isEmpty && !t.depth) ∧
      turn.2.colorFrames = result.colorFrames + (if t.fresh && !turn.1.frame.rgb.isEmpty then 1 else 0) ∧
      turn.2.depthFrames =
        result.depthFrames + (if t.fresh && !turn.1.frame.depth.isEmpty then 1 else 0) := by
  have called : Streaming (d.call (.processEvents t.update.processEvents)) :=
    ⟨streaming.running, streaming.active, streaming.requested⟩
  obtain ⟨streaming', rgb, depth, fresh⟩ := callbacks_spec t.callbacks called
  simp only [Device.call_frame, Device.call_hasNewFrame, idle, Bool.false_or] at rgb depth fresh
  simp only [previewTurn, update_streaming t.update streaming]
  generalize t.callbacks.foldl (fun d c => c.apply d) (d.call _) = e at streaming' rgb depth fresh
  have arrivedIff : e.hasNewFrame = t.fresh := fresh
  unfold getFrame
  by_cases arrived : e.hasNewFrame
  · rw [if_pos arrived]
    simp only [Device.store_frame, Device.store_hasNewFrame, count_colorFrames,
      count_depthFrames, rgb, depth, ← arrivedIff, arrived, Bool.true_and]
    refine ⟨⟨streaming'.running, streaming'.active, streaming'.requested⟩, trivial, rfl, rfl, ?_,
      ?_⟩
    · cases d.frame.rgb.isEmpty <;> cases t.callbacks.any Callback.isVideo <;> rfl
    · cases d.frame.depth.isEmpty <;> cases t.callbacks.any Callback.isDepth <;> rfl
  · rw [if_neg arrived]
    simp only [rgb, depth, ← arrivedIff, arrived, Bool.false_and]
    exact ⟨streaming', trivial, rfl, rfl, rfl, rfl⟩

/-- Over the turns of v1's loop, a turn in which a frame arrived counts as a colour frame from
the first colour frame on, and as a depth frame from the first depth frame on: the slot keeps
both buffers, so a turn that brought only depth counts as colour too once colour has come. -/
theorem previewLoop_counts (turns : List Turn) {d : Device} (streaming : Streaming d)
    (idle : d.hasNewFrame = false) (result : PreviewResult) :
    (previewLoop turns d result).colorFrames = result.colorFrames +
        (if d.frame.rgb.isEmpty then turns.dropWhile (!·.video) else turns).countP Turn.fresh ∧
      (previewLoop turns d result).depthFrames = result.depthFrames +
        (if d.frame.depth.isEmpty then turns.dropWhile (!·.depth) else turns).countP Turn.fresh := by
  induction turns generalizing d result with
  | nil => simp [previewLoop]
  | cons t turns ih =>
    obtain ⟨streaming', idle', rgb, depth, color, depthCount⟩ := previewTurn_spec t streaming idle result
    obtain ⟨color', depth'⟩ := ih streaming' idle' (previewTurn t d result).2
    simp only [previewLoop]
    rw [color', depth', color, depthCount, rgb, depth]
    unfold Turn.fresh at *
    constructor
    · cases d.frame.rgb.isEmpty <;> cases video : t.video <;>
        simp [List.dropWhile_cons, List.countP_cons, Turn.fresh, video] <;> omega
    · cases d.frame.depth.isEmpty <;> cases depthy : t.depth <;>
        simp [List.dropWhile_cons, List.countP_cons, Turn.fresh, depthy] <;> omega

/-- Kinect v1's preview counts a turn in which a frame arrived as a colour frame from the first
turn that brought colour on, and as a depth frame from the first turn that brought depth on:
the slot keeps both buffers, so after the first colour frame a turn that brought only depth
counts as a colour frame as well. It counts nothing when no device is listed, the first one
does not open or the stream does not start. -/
theorem preview_counts_since_first_frame (audio : Bool) (r : StartResults) (turns : List Turn)
    (d : Driver) :
    let result := (preview audio r turns d).1
    let listed := listDevices d
    let looped := (listed.1.head?.any fun first => (openDevice first.serial listed.2).1.isSome) &&
      (start r (opened audio)).2
    result.colorFrames = (if looped then (turns.dropWhile (!·.video)).countP Turn.fresh else 0) ∧
      result.depthFrames = (if looped then (turns.dropWhile (!·.depth)).countP Turn.fresh else 0) := by
  unfold preview
  generalize listDevices d = listed
  obtain ⟨devices, d⟩ := listed
  cases devices with
  | nil => exact ⟨rfl, rfl⟩
  | cons first rest =>
    simp only [List.head?_cons, Option.any_some]
    split
    · next missing => simp [missing]
    · next found =>
      by_cases started : (start r (opened audio)).2
      · obtain ⟨streaming, idle, empty⟩ := start_opened_streaming r audio started
        obtain ⟨color, depth⟩ := previewLoop_counts turns streaming idle {}
        rw [empty] at color depth
        simpa [found, started] using And.intro color depth
      · simp [started]

end FreenectV1

namespace FreenectV2

/-- `FreenectV2Backend::probe`, with the count `enumerateDevices()` returns. -/
def probe (count : Int) : ProbeResult :=
  if count ≤ 0 then ⟨false, "No Kinect v2 devices found."⟩
  else ⟨true, toString count ++ " Kinect v2 device(s) detected."⟩

/-- listDevices(), with the serials `getDeviceSerialNumber` gives for the devices
`enumerateDevices()` counts. -/
def listDevices (serials : List String) : List DeviceInfo :=
  serials.map fun serial => ⟨.kV2, serial, "Kinect v2"⟩

/-- `if (device->update())`, then getFrame; `frames` is what the update waited on. -/
def previewTurn (frames : Option FrameMap) (d : Device) (result : PreviewResult) :
    Device × PreviewResult :=
  let (d, updated) := update frames d
  if updated then
    match getFrame d with
    | (d, some frame) => (d, result.count frame)
    | (d, none) => (d, result)
  else (d, result)

def previewLoop : List (Option FrameMap) → Device → PreviewResult → PreviewResult
  | [], _, result => result
  | frames :: waits, d, result =>
    let (d, result) := previewTurn frames d result
    previewLoop waits d result

/-- preview(); `opens` is what the device's open() answers and `startOk` what `dev_->start()`
answers. -/
def preview (serials : List String) (opens startOk : Bool) (waits : List (Option FrameMap)) :
    PreviewResult :=
  match listDevices serials with
  | [] => { detail := "No Kinect v2 device available for preview." }
  | first :: _ =>
    if first.serial.isEmpty || !opens then { detail := "Could not start Kinect v2 preview." } else
    let (device, started) := start startOk opened
    if !started then { detail := "Could not start Kinect v2 preview." }
    else (previewLoop waits device {}).finish

/-- The map holds a frame of the kind with pixels in it, one that update() can assign. -/
def FrameMap.hasColor (m : FrameMap) : Bool := m.color.any fun c => 0 < c.width * c.height

def FrameMap.hasIr (m : FrameMap) : Bool := m.ir.any fun c => 0 < c.width * c.height

def FrameMap.hasDepth (m : FrameMap) : Bool := m.depth.any fun c => 0 < c.width * c.height

/-- The maps update() publishes as a depth frame while colour is selected. -/
def FrameMap.onlyDepth (m : FrameMap) : Bool := !m.hasColor && !m.hasIr && m.hasDepth

section Assign

variable {α : Type} {put : FrameData → List α → FrameData} {samples : RawFrame α → List α}
  {channels : Nat}

theorem assign_convert_some (length : ∀ frame, (samples frame).length = frame.width * frame.height * channels)
    (pos : 0 < channels) {c : RawFrame α} (pixels : 0 < c.width * c.height) :
    assign put (convert samples (some c)) {} =
      some { put {} (samples c) with width := c.width, height := c.height, timestamp := c.timestamp } := by
  have narrow : c.width < 2 ^ 31 := lt_of_le_of_lt (Nat.le_mul_of_pos_right _
    (Nat.pos_of_mul_pos_left pixels)) c.walkable
  have low : c.height < 2 ^ 31 := lt_of_le_of_lt (Nat.le_mul_of_pos_left _
    (Nat.pos_of_mul_pos_right pixels)) c.walkable
  have present : samples c ≠ [] :=
    List.ne_nil_of_length_pos (by rw [length]; exact Nat.mul_pos pixels pos)
  have wide := Nat.pos_of_mul_pos_right pixels
  have high := Nat.pos_of_mul_pos_left pixels
  simp only [assign, convert, toInt_of_lt narrow, toInt_of_lt low]
  rw [if_neg (by simp [present]; omega)]

theorem assign_convert_none (length : ∀ frame, (samples frame).length = frame.width * frame.height * channels)
    {raw : Option (RawFrame α)} (empty : raw.any (fun c => 0 < c.width * c.height) = false)
    (next : FrameData) : assign put (convert samples raw) next = none := by
  cases raw with
  | none => simp [assign, convert]
  | some c =>
    have flat : c.width * c.height = 0 := Nat.eq_zero_of_not_pos (by simpa using empty)
    have none : samples c = [] :=
      List.eq_nil_of_length_eq_zero (by rw [length, flat, Nat.zero_mul])
    simp [assign, convert, none]

end Assign

theorem assemble_kRgb (m : FrameMap) :
    assemble .kRgb m = (assignRgb (convert colorData m.color) {} <|>
      assignIr (convert irData m.ir) {} <|> assignDepth (convert depthData m.depth) {}) := by
  unfold assemble
  dsimp only
  cases assignRgb (convert colorData m.color) {} <;> rfl

theorem some_of_any {α : Type} {o : Option α} {p : α → Prop} [DecidablePred p]
    (any : o.any fun a => decide (p a)) : ∃ a, o = some a ∧ p a := by
  cases o <;> simp_all

theorem colorData_ne_nil {c : RawFrame UInt8} (pixels : 0 < c.width * c.height) : colorData c ≠ [] :=
  List.ne_nil_of_length_pos (by rw [length_colorData]; omega)

theorem depthData_ne_nil {c : RawFrame UInt16} (pixels : 0 < c.width * c.height) : depthData c ≠ [] :=
  List.ne_nil_of_length_pos (by rw [length_depthData]; omega)

/-- With colour selected, what update() publishes from a map: a frame with colour exactly
when the map has a colour frame, and one with depth exactly when the map has a depth frame and
neither colour nor infrared. -/
theorem assemble_kRgb_counted (m : FrameMap) :
    (match assemble .kRgb m with
      | some f => (!f.rgb.isEmpty, !f.depth.isEmpty)
      | none => (false, false)) = (m.hasColor, m.onlyDepth) := by
  rw [assemble_kRgb]
  unfold FrameMap.onlyDepth FrameMap.hasColor FrameMap.hasIr FrameMap.hasDepth
  cases color : m.color.any fun c => 0 < c.width * c.height
  · rw [assignRgb, assign_convert_none length_colorData color, Option.none_orElse]
    cases ir : m.ir.any fun c => 0 < c.width * c.height
    · rw [assignIr, assign_convert_none length_irData ir, Option.none_orElse]
      cases depth : m.depth.any fun c => 0 < c.width * c.height
      · rw [assignDepth, assign_convert_none length_depthData depth]
        rfl
      · obtain ⟨c, present, pixels⟩ := some_of_any depth
        rw [assignDepth, present, assign_convert_some length_depthData (by decide) pixels]
        simp [depthData_ne_nil pixels]
    · obtain ⟨c, present, pixels⟩ := some_of_any ir
      rw [assignIr, present, assign_convert_some length_irData (by decide) pixels]
      simp
  · obtain ⟨c, present, pixels⟩ := some_of_any color
    rw [assignRgb, present, assign_convert_some length_colorData (by decide) pixels]
    simp [colorData_ne_nil pixels]

/-- A device the preview loop turns: started, with colour selected. -/
structure Streaming (d : Device) : Prop where
  running : d.running
  selected : d.selectedStream = .kRgb

/-- One turn counts a colour frame for a map with a colour frame, a depth frame for a map
with only a depth frame, and nothing for a timeout. -/
theorem previewTurn_counts (frames : Option FrameMap) {d : Device} (streaming : Streaming d)
    (result : PreviewResult) :
    Streaming (previewTurn frames d result).1 ∧
      (previewTurn frames d result).2.colorFrames =
        result.colorFrames + (if frames.any FrameMap.hasColor then 1 else 0) ∧
      (previewTurn frames d result).2.depthFrames =
        result.depthFrames + (if frames.any FrameMap.onlyDepth then 1 else 0) := by
  cases frames with
  | none => simp [previewTurn, update, streaming]
  | some m =>
    have counted := assemble_kRgb_counted m
    simp only [previewTurn, update, streaming.running, streaming.selected, Bool.not_true,
      Bool.false_eq_true, if_false, Option.any_some] at counted ⊢
    split at counted
    · next f assembled =>
      simp only [assembled, getFrame, if_true, Prod.mk.injEq] at counted ⊢
      simp only [← counted.1, ← counted.2]
      refine ⟨⟨rfl, rfl⟩, ?_, ?_⟩
      · rw [count_colorFrames]
        cases f.rgb.isEmpty <;> rfl
      · rw [count_depthFrames]
        cases f.depth.isEmpty <;> rfl
    · next assembled =>
      simp only [assembled, Prod.mk.injEq, Bool.false_eq_true, if_false] at counted ⊢
      simp only [← counted.1, ← counted.2]
      exact ⟨streaming, rfl, rfl⟩

theorem previewLoop_counts (waits : List (Option FrameMap)) {d : Device} (streaming : Streaming d)
    (result : PreviewResult) :
    (previewLoop waits d result).colorFrames =
        result.colorFrames + waits.countP (·.any FrameMap.hasColor) ∧
      (previewLoop waits d result).depthFrames =
        result.depthFrames + waits.countP (·.any FrameMap.onlyDepth) := by
  induction waits generalizing d result with
  | nil => simp [previewLoop]
  | cons frames waits ih =>
    obtain ⟨streaming', color, depth⟩ := previewTurn_counts frames streaming result
    obtain ⟨color', depth'⟩ := ih streaming' (previewTurn frames d result).2
    simp only [previewLoop, List.countP_cons] at color' depth' ⊢
    constructor <;> omega

theorem start_opened (startOk : Bool) :
    start startOk opened = if startOk then ({ opened with running := true }, true) else (opened, false) := by
  cases startOk <;> rfl

/-- Kinect v2's preview counts, for each frame map its loop receives, a colour frame when the
map holds a colour frame, and otherwise a depth frame only when it holds a depth frame and no
infrared frame: while colour frames arrive it reports no depth frame, and a map of infrared
alone counts as nothing. It counts nothing when the first device has no serial, does not open
or does not start. -/
theorem preview_counts_one_kind_per_map (serials : List String) (opens startOk : Bool)
    (waits : List (Option FrameMap)) :
    let result := preview serials opens startOk waits
    let looped := (serials.head?.any fun serial => !serial.isEmpty) && opens && startOk
    result.colorFrames = (if looped then waits.countP (·.any FrameMap.hasColor) else 0) ∧
      result.depthFrames = (if looped then waits.countP (·.any FrameMap.onlyDepth) else 0) := by
  cases serials with
  | nil => exact ⟨rfl, rfl⟩
  | cons serial rest =>
    obtain ⟨color, depth⟩ := previewLoop_counts waits (d := { opened with running := true })
      ⟨rfl, rfl⟩ {}
    cases empty : serial.isEmpty <;> cases opens <;> cases startOk <;>
      simp_all [preview, listDevices, start_opened]

end FreenectV2

end MacKinect
