import MacKinect.Frame

/-! `FreenectV1Device` of `backends/freenect_v1_backend.cpp`. The record holds the
adapter's fields; `calls` is every libfreenect call it made on its device, newest
first, with the answer it read back. Driver answers are inputs of each operation,
so a run ranges over every pattern of native success and failure. -/
namespace MacKinect.FreenectV1

def kWidth : Int := 640
def kHeight : Int := 480
def kPixelCount : Nat := (kWidth * kHeight).toNat

inductive SubStream where
  | depth
  | video
  | audio
  deriving DecidableEq, Repr

/-- A libfreenect call on the device; `accepted` is what the adapter read from its answer. -/
inductive Call where
  | setDepthMode (accepted : Bool)
  | setVideoMode (format : VideoFormat) (accepted : Bool)
  | start (stream : SubStream) (accepted : Bool)
  | stop (stream : SubStream)
  | processEvents (accepted : Bool)
  deriving DecidableEq, Repr

/-- What the driver is running, and the video format it last accepted. -/
structure Streams where
  depth : Bool := false
  video : Bool := false
  audio : Bool := false
  videoFormat : Option VideoFormat := none
  deriving DecidableEq, Repr

def Streams.get (n : Streams) : SubStream → Bool
  | .depth => n.depth
  | .video => n.video
  | .audio => n.audio

def Streams.set (n : Streams) (b : Bool) : SubStream → Streams
  | .depth => { n with depth := b }
  | .video => { n with video := b }
  | .audio => { n with audio := b }

def Streams.after (n : Streams) : Call → Streams
  | .start s ok => n.set (n.get s || ok) s
  | .stop s => n.set false s
  | .setVideoMode format ok => if ok then { n with videoFormat := some format } else n
  | .setDepthMode _ | .processEvents _ => n

/-- Starts only stopped sub-streams, stops only running ones, and changes a mode only
while that sub-stream is stopped. -/
def Call.allowed (n : Streams) : Call → Bool
  | .start s _ => !n.get s
  | .stop s => n.get s
  | .setDepthMode _ => !n.depth
  | .setVideoMode _ _ => !n.video
  | .processEvents _ => true

def streams : List Call → Streams
  | [] => {}
  | c :: cs => (streams cs).after c

def legal : List Call → Bool
  | [] => true
  | c :: cs => legal cs && c.allowed (streams cs)

@[simp] theorem streams_cons (c : Call) (cs : List Call) :
    streams (c :: cs) = (streams cs).after c := rfl

@[simp] theorem legal_cons (c : Call) (cs : List Call) :
    legal (c :: cs) = (legal cs && c.allowed (streams cs)) := rfl

@[simp] theorem Streams.get_set_self (n : Streams) (b : Bool) (s : SubStream) :
    (n.set b s).get s = b := by
  cases s <;> rfl

structure Device where
  dev : Bool
  audioSupported : Bool
  running : Bool := false
  depthStarted : Bool := false
  videoStarted : Bool := false
  audioStarted : Bool := false
  audioEnabled : Bool := false
  requestedStream : StreamKind := .kRgb
  activeStream : StreamKind := .kRgb
  frame : FrameData := {}
  hasNewFrame : Bool := false
  calls : List Call := []

/-- The device `FreenectV1Device::open` leaves behind: a handle, nothing started. -/
def opened (audioSupported : Bool) : Device := { dev := true, audioSupported }

def Device.started (d : Device) : SubStream → Bool
  | .depth => d.depthStarted
  | .video => d.videoStarted
  | .audio => d.audioStarted

def Device.setStarted (d : Device) (b : Bool) : SubStream → Device
  | .depth => { d with depthStarted := b }
  | .video => { d with videoStarted := b }
  | .audio => { d with audioStarted := b }

@[simps] def Device.call (d : Device) (c : Call) : Device := { d with calls := c :: d.calls }

/-- `freenect_start_*`, then `*_started_ = true` once the driver accepted it. -/
def Device.startStream (d : Device) (s : SubStream) (ok : Bool) : Device :=
  (d.call (.start s ok)).setStarted (d.started s || ok) s

/-- `freenect_stop_*`, then `*_started_ = false`. -/
def Device.stopStream (d : Device) (s : SubStream) : Device :=
  (d.call (.stop s)).setStarted false s

/-- The `if (*_started_) { freenect_stop_*; *_started_ = false; }` blocks of stop(). -/
def Device.stopIfStarted (d : Device) (s : SubStream) : Device :=
  if d.started s then d.stopStream s else d

/-- The format ApplyVideoMode asks for: IR 8-bit for `kIr`, RGB otherwise. -/
def videoFormatFor : StreamKind → VideoFormat
  | .kIr => .ir8bit
  | _ => .rgb

/-- Driver answers read by ApplyVideoMode. -/
structure VideoResults where
  modeValid : Bool
  setVideoMode : Bool
  startVideo : Bool
  deriving DecidableEq, Repr

/-- Driver answers read by start(); `startVideo` is the explicit start after
ApplyVideoMode, and `startAudio` the one setAudioEnabled(true) makes. -/
structure StartResults where
  depthModeValid : Bool
  setDepthMode : Bool
  video : VideoResults
  startDepth : Bool
  startVideo : Bool
  startAudio : Bool
  deriving DecidableEq, Repr

structure UpdateResults where
  video : VideoResults
  processEvents : Bool
  deriving DecidableEq, Repr

def applyVideoMode (r : VideoResults) (d : Device) : Device × Bool :=
  if !d.dev || !r.modeValid then (d, false) else
  let format := videoFormatFor d.requestedStream
  let d := d.stopIfStarted .video
  let d := d.call (.setVideoMode format r.setVideoMode)
  if !r.setVideoMode then (d, false) else
  let d := d.startStream .video r.startVideo
  if !r.startVideo then (d, false) else
  ({ d with activeStream := d.requestedStream }, true)

def setAudioEnabled (enabled startAudio : Bool) (d : Device) : Device × Bool :=
  if !d.audioSupported then ({ d with audioEnabled := false }, false) else
  let d := { d with audioEnabled := enabled }
  if !d.dev || !d.running then (d, false) else
  if enabled then
    let d := if d.audioStarted then d else d.startStream .audio startAudio
    (d, d.audioStarted)
  else (d.stopIfStarted .audio, false)

/-- The tail of start(): `running_ = true`, then setAudioEnabled(true) if audio is enabled. -/
def finishStart (startAudio : Bool) (d : Device) : Device × Bool :=
  let d := { d with running := true }
  (if d.audioEnabled then (setAudioEnabled true startAudio d).1 else d, true)

def start (r : StartResults) (d : Device) : Device × Bool :=
  if !d.dev || d.running then (d, d.dev) else
  if !r.depthModeValid then (d, false) else
  let d := d.call (.setDepthMode r.setDepthMode)
  if !r.setDepthMode then (d, false) else
  let (d, applied) := applyVideoMode r.video d
  if !applied then (d, false) else
  let d := d.startStream .depth r.startDepth
  if !r.startDepth then (d, false) else
  if d.videoStarted then finishStart r.startAudio d else
  let d := d.startStream .video r.startVideo
  if !r.startVideo then (d.stopStream .depth, false) else finishStart r.startAudio d

def stop (d : Device) : Device × Bool :=
  if !d.dev then (d, false) else
  if !d.running then (d, true) else
  let d := ((d.stopIfStarted .audio).stopIfStarted .video).stopIfStarted .depth
  ({ d with running := false }, true)

def update (r : UpdateResults) (d : Device) : Device × Bool :=
  if !d.running then (d, false) else
  let d := if d.requestedStream ≠ d.activeStream then (applyVideoMode r.video d).1 else d
  let d := d.call (.processEvents r.processEvents)
  (d, r.processEvents && d.hasNewFrame)

def setStreamKind (kind : StreamKind) (d : Device) : Device := { d with requestedStream := kind }

/-- The only write of the callbacks and of getFrame: the frame slot and its fresh flag. -/
@[simps] def Device.store (d : Device) (frame : FrameData) (fresh : Bool) : Device :=
  { d with frame, hasNewFrame := fresh }

/-- The depth callback copies `kPixelCount` samples out of the driver's buffer. -/
def onDepthFrame (depth : Option (Nat → UInt16)) (timestamp : UInt32) (d : Device) : Device :=
  match depth with
  | none => d
  | some source =>
    d.store { d.frame with width := kWidth, height := kHeight, timestamp,
                           depth := copyOut kPixelCount source } true

/-- The video callback fills the buffer of the active stream and leaves the other alone. -/
def onVideoFrame (video : Option (Nat → UInt8)) (timestamp : UInt32) (d : Device) : Device :=
  match video with
  | none => d
  | some source =>
    let f := { d.frame with width := kWidth, height := kHeight, timestamp }
    d.store (if d.activeStream = .kIr then { f with ir := copyOut kPixelCount source }
             else { f with rgb := copyOut (kPixelCount * 3) source }) true

/-- getFrame copies the slot out and clears the flag; `none` is a `false` return. -/
def getFrame (d : Device) : Device × Option FrameData :=
  if d.hasNewFrame then (d.store d.frame false, some d.frame) else (d, none)

inductive Op where
  | start (r : StartResults)
  | stop
  | update (r : UpdateResults)
  | setStreamKind (kind : StreamKind)
  | setAudioEnabled (enabled startAudio : Bool)
  | onDepthFrame (depth : Option (Nat → UInt16)) (timestamp : UInt32)
  | onVideoFrame (video : Option (Nat → UInt8)) (timestamp : UInt32)
  | getFrame

def Op.apply : Op → Device → Device
  | .start r, d => (FreenectV1.start r d).1
  | .stop, d => (FreenectV1.stop d).1
  | .update r, d => (FreenectV1.update r d).1
  | .setStreamKind kind, d => FreenectV1.setStreamKind kind d
  | .setAudioEnabled enabled startAudio, d => (FreenectV1.setAudioEnabled enabled startAudio d).1
  | .onDepthFrame depth timestamp, d => FreenectV1.onDepthFrame depth timestamp d
  | .onVideoFrame video timestamp, d => FreenectV1.onVideoFrame video timestamp d
  | .getFrame, d => (FreenectV1.getFrame d).1

/-- A run: operations oldest first, callbacks interleaved with the calls anywhere. -/
def run : List Op → Device → Device
  | [], d => d
  | op :: ops, d => run ops (op.apply d)

end MacKinect.FreenectV1
