import MacKinect.ControlCenter.Buffers

/-! The video and depth modes of control_center_v1.cpp: the `v` and `d` keys toggle a request on
the GL thread, and `freenect_threadfunc`'s loop switches each stream to it. No lock guards the
format globals, so each block is three steps, cut where it reads the request, and a run is any
interleaving of them with key presses. -/
namespace MacKinect.ControlCenter

/-- libfreenect's `freenect_depth_format`, with the values this repository names. -/
inductive DepthFormat where
  | bit11
  | registered
  | mm
  deriving DecidableEq, Repr

def videoFormatLabel : VideoFormat → String
  | .rgb => "RGB"
  | .yuvRgb => "YUV->RGB"
  | .ir8bit => "IR8"

def depthFormatLabel : DepthFormat → String
  | .registered => "REGISTERED(mm)"
  | .mm => "MM"
  | .bit11 => "RAW11"

inductive ModeCall where
  | stopVideo
  | setVideoMode (format : VideoFormat)
  | setVideoBuffer
  | startVideo
  | stopDepth
  | setDepthMode (format : DepthFormat)
  | startDepth
  deriving DecidableEq, Repr

/-- What a step does besides changing the globals: its libfreenect calls and the texts it
passes to `SetStatus`, in order. -/
structure Effects where
  calls : List ModeCall := []
  statuses : List String := []
  deriving DecidableEq, Repr

instance : Append Effects := ⟨fun a b => ⟨a.calls ++ b.calls, a.statuses ++ b.statuses⟩⟩

@[simp] theorem Effects.calls_append (a b : Effects) : (a ++ b).calls = a.calls ++ b.calls := rfl

@[simp] theorem Effects.statuses_append (a b : Effects) :
    (a ++ b).statuses = a.statuses ++ b.statuses := rfl

inductive Stage where
  | idle
  /-- Found the request different from the current format and stopped the stream. -/
  | stopped
  /-- Looked the request up, and set its mode when it was valid. -/
  | looked (valid : Bool)
  deriving DecidableEq, Repr

structure Mode (α : Type) where
  requested : α
  current : α
  /-- The format of the last `freenect_set_*_mode`, the one libfreenect streams in. -/
  streamed : α
  stage : Stage
  deriving DecidableEq, Repr

/-- What the video and the depth code fill in: the two formats the key toggles between, the
label function, the status texts and the libfreenect calls. -/
structure Switch (α : Type) where
  first : α
  second : α
  label : α → String
  requestedText : String
  changedText : String
  invalidText : String
  stop : ModeCall
  setMode : α → ModeCall
  /-- What the block calls after the switch to run the stream again. -/
  restart : List ModeCall

inductive BlockStep where
  | check
  | lookup (valid : Bool)
  | commit
  deriving DecidableEq, Repr

namespace Switch

variable {α : Type} [DecidableEq α] (sw : Switch α)

/-- The key's branch of `keyPressed`: `second` after `first`, `first` after anything else. -/
def toggle (m : Mode α) : Mode α × Effects :=
  let requested := if m.requested = sw.first then sw.second else sw.first
  ({ m with requested := requested }, { statuses := [sw.requestedText ++ sw.label requested] })

/-- `if (g_requested != g_current)` and the stop call; the block is skipped when they agree. -/
def check (m : Mode α) : Option (Mode α × Effects) :=
  match m.stage with
  | .idle =>
    if m.requested ≠ m.current then some ({ m with stage := .stopped }, { calls := [sw.stop] })
    else some (m, {})
  | _ => none

/-- `freenect_find_*_mode` for the request as it reads now, with libfreenect's `is_valid` for
it, and `freenect_set_*_mode` when valid. -/
def lookup (valid : Bool) (m : Mode α) : Option (Mode α × Effects) :=
  match m.stage with
  | .stopped =>
    if valid then
      some ({ m with streamed := m.requested, stage := .looked true },
        { calls := [sw.setMode m.requested] })
    else some ({ m with stage := .looked false }, {})
  | _ => none

/-- The rest of the block: record the request, read again, or withdraw it; report; restart. -/
def commit (m : Mode α) : Option (Mode α × Effects) :=
  match m.stage with
  | .looked true =>
    some ({ m with current := m.requested, stage := .idle },
      ⟨sw.restart, [sw.changedText ++ sw.label m.requested]⟩)
  | .looked false =>
    some ({ m with requested := m.current, stage := .idle }, ⟨sw.restart, [sw.invalidText]⟩)
  | _ => none

def step : BlockStep → Mode α → Option (Mode α × Effects)
  | .check => sw.check
  | .lookup valid => sw.lookup valid
  | .commit => sw.commit

/-- A whole block with no key press inside it, as the buffer model takes it. -/
def block (valid : Bool) (m : Mode α) : Mode α × Effects :=
  if m.requested ≠ m.current then
    if valid then
      ({ m with current := m.requested, streamed := m.requested },
        ⟨sw.stop :: sw.setMode m.requested :: sw.restart, [sw.changedText ++ sw.label m.requested]⟩)
    else ({ m with requested := m.current }, ⟨sw.stop :: sw.restart, [sw.invalidText]⟩)
  else (m, {})

end Switch

def videoSwitch : Switch VideoFormat where
  first := .rgb
  second := .yuvRgb
  label := videoFormatLabel
  requestedText := "Requested video mode: "
  changedText := "Video mode changed to "
  invalidText := "Requested video mode is not valid."
  stop := .stopVideo
  setMode := .setVideoMode
  restart := [.setVideoBuffer, .startVideo]

def depthSwitch : Switch DepthFormat where
  first := .registered
  second := .mm
  label := depthFormatLabel
  requestedText := "Requested depth mode: "
  changedText := "Depth mode changed to "
  invalidText := "Requested depth mode is not valid."
  stop := .stopDepth
  setMode := .setDepthMode
  restart := [.startDepth]

structure Formats where
  video : Mode VideoFormat
  depth : Mode DepthFormat
  deriving DecidableEq, Repr

/-- After `freenect_threadfunc` set both modes from the globals' initialisers. -/
def Formats.started : Formats :=
  ⟨⟨.rgb, .rgb, .rgb, .idle⟩, ⟨.registered, .registered, .registered, .idle⟩⟩

inductive FormatEvent where
  /-- `keyPressed` on the GL thread; keys other than `v` and `d` leave the formats alone. -/
  | key (pressed : Char)
  | video (step : BlockStep)
  | depth (step : BlockStep)
  deriving DecidableEq, Repr

namespace FormatEvent

def apply : FormatEvent → Formats → Option (Formats × Effects)
  | .key pressed, f =>
    if pressed = 'v' ∨ pressed = 'V' then
      some ({ f with video := (videoSwitch.toggle f.video).1 }, (videoSwitch.toggle f.video).2)
    else if pressed = 'd' ∨ pressed = 'D' then
      some ({ f with depth := (depthSwitch.toggle f.depth).1 }, (depthSwitch.toggle f.depth).2)
    else some (f, {})
  | .video s, f => (videoSwitch.step s f.video).map fun r => ({ f with video := r.1 }, r.2)
  | .depth s, f => (depthSwitch.step s f.depth).map fun r => ({ f with depth := r.1 }, r.2)

def run : List FormatEvent → Formats → Option (Formats × Effects)
  | [], f => some (f, {})
  | e :: es, f => (e.apply f).bind fun r => (run es r.1).map fun s => (s.1, r.2 ++ s.2)

end FormatEvent

/-! ## One step -/

namespace Switch

variable {α : Type} [DecidableEq α] (sw : Switch α) {m m' : Mode α} {e : Effects}

/-- Everything a driver step can do, with its guards. -/
theorem step_cases {s : BlockStep} (h : sw.step s m = some (m', e)) :
    (m.stage = .idle ∧ m.requested ≠ m.current ∧ m' = { m with stage := .stopped } ∧
        e = { calls := [sw.stop] }) ∨
      (m.stage = .idle ∧ m.requested = m.current ∧ m' = m ∧ e = {}) ∨
      (m.stage = .stopped ∧ m' = { m with streamed := m.requested, stage := .looked true } ∧
        e = { calls := [sw.setMode m.requested] }) ∨
      (m.stage = .stopped ∧ m' = { m with stage := .looked false } ∧ e = {}) ∨
      (m.stage = .looked true ∧ m' = { m with current := m.requested, stage := .idle } ∧
        e = ⟨sw.restart, [sw.changedText ++ sw.label m.requested]⟩) ∨
      (m.stage = .looked false ∧ m' = { m with requested := m.current, stage := .idle } ∧
        e = ⟨sw.restart, [sw.invalidText]⟩) := by
  cases s <;> [skip; rename_i valid; skip] <;> cases stage : m.stage <;>
    simp only [step, check, lookup, commit, stage] at h <;> try cases h
  case check.idle =>
    split at h <;> cases h
    · exact .inl ⟨rfl, ‹_›, rfl, rfl⟩
    · exact .inr (.inl ⟨rfl, not_not.mp ‹_›, rfl, rfl⟩)
  case lookup.stopped =>
    cases valid <;> cases h
    · exact .inr (.inr (.inr (.inl ⟨rfl, rfl, rfl⟩)))
    · exact .inr (.inr (.inl ⟨rfl, rfl, rfl⟩))
  case commit.looked valid =>
    cases valid <;> cases h
    · exact .inr (.inr (.inr (.inr (.inr ⟨rfl, rfl, rfl⟩))))
    · exact .inr (.inr (.inr (.inr (.inl ⟨rfl, rfl, rfl⟩))))

def Allowed (x : α) : Prop := x = sw.first ∨ x = sw.second

/-- The texts a stream's code passes to `SetStatus` while its formats are allowed ones. -/
def texts : List String :=
  [sw.requestedText ++ sw.label sw.first, sw.requestedText ++ sw.label sw.second,
    sw.changedText ++ sw.label sw.first, sw.changedText ++ sw.label sw.second, sw.invalidText]

theorem toggle_allowed : sw.Allowed (sw.toggle m).1.requested := by
  unfold toggle Allowed
  split <;> simp

theorem toggle_changes (distinct : sw.first ≠ sw.second) (allowed : sw.Allowed m.requested) :
    (sw.toggle m).1.requested ≠ m.requested := by
  unfold toggle
  rcases allowed with first | second <;> split <;> simp_all [eq_comm]

structure Ranged (m : Mode α) : Prop where
  requested : sw.Allowed m.requested
  current : sw.Allowed m.current
  streamed : sw.Allowed m.streamed

def Sends (c : ModeCall) : Prop := c = sw.stop ∨ c ∈ sw.restart ∨ ∃ x, sw.Allowed x ∧ c = sw.setMode x

omit [DecidableEq α] in
theorem label_mem_texts {x : α} (allowed : sw.Allowed x) :
    sw.requestedText ++ sw.label x ∈ sw.texts ∧ sw.changedText ++ sw.label x ∈ sw.texts := by
  rcases allowed with rfl | rfl <;> simp [texts]

theorem toggle_ranged (ranged : sw.Ranged m) :
    sw.Ranged (sw.toggle m).1 ∧ ∀ t ∈ (sw.toggle m).2.statuses, t ∈ sw.texts :=
  ⟨⟨sw.toggle_allowed, ranged.current, ranged.streamed⟩, by
    simpa [toggle] using (sw.label_mem_texts sw.toggle_allowed).1⟩

theorem step_ranged {s : BlockStep} (ranged : sw.Ranged m) (h : sw.step s m = some (m', e)) :
    sw.Ranged m' ∧ (∀ c ∈ e.calls, sw.Sends c) ∧ ∀ t ∈ e.statuses, t ∈ sw.texts := by
  rcases sw.step_cases h with
    ⟨-, -, rfl, rfl⟩ | ⟨-, -, rfl, rfl⟩ | ⟨-, rfl, rfl⟩ | ⟨-, rfl, rfl⟩ | ⟨-, rfl, rfl⟩ | ⟨-, rfl, rfl⟩
  · exact ⟨⟨ranged.1, ranged.2, ranged.3⟩, by simp [Sends], by simp⟩
  · exact ⟨ranged, by simp, by simp⟩
  · exact ⟨⟨ranged.1, ranged.2, ranged.1⟩, by simpa using .inr (.inr ⟨_, ranged.1, rfl⟩), by simp⟩
  · exact ⟨⟨ranged.1, ranged.2, ranged.3⟩, by simp, by simp⟩
  · exact ⟨⟨ranged.1, ranged.1, ranged.3⟩, fun _ sent => .inr (.inl sent),
      by simpa using (sw.label_mem_texts ranged.1).2⟩
  · exact ⟨⟨ranged.2, ranged.2, ranged.3⟩, fun _ sent => .inr (.inl sent), by simp [texts]⟩

/-- libfreenect streams in the recorded format, except between a block's set-mode and its
commit, where it streams in the requested one. -/
def Synced (m : Mode α) : Prop :=
  match m.stage with
  | .looked true => m.streamed = m.requested
  | _ => m.streamed = m.current

theorem step_synced {s : BlockStep} (synced : Synced m) (h : sw.step s m = some (m', e)) :
    Synced m' := by
  rcases sw.step_cases h with
    ⟨idle, -, rfl, -⟩ | ⟨-, -, rfl, -⟩ | ⟨-, rfl, -⟩ | ⟨stopped, rfl, -⟩ | ⟨looked, rfl, -⟩ |
      ⟨looked, rfl, -⟩
  all_goals simp_all [Synced]

theorem toggle_synced (synced : Synced m) (outside : m.stage ≠ .looked true) :
    Synced (sw.toggle m).1 := by
  unfold Synced at *
  split <;> simp_all [toggle]

/-- A key press inside the window: the commit records the toggled request, while libfreenect
streams the one looked up before it, and the two now agree on the request, so no later pass
switches again. -/
theorem toggle_in_window_desyncs (distinct : sw.first ≠ sw.second)
    (window : m.stage = .looked true) (synced : Synced m) (ranged : sw.Ranged m) :
    ∃ m' e, sw.commit (sw.toggle m).1 = some (m', e) ∧ m'.stage = .idle ∧
      m'.requested = m'.current ∧ m'.streamed ≠ m'.current ∧ sw.check m' = some (m', {}) := by
  have streams : m.streamed = m.requested := by simpa [Synced, window] using synced
  have changed := sw.toggle_changes distinct ranged.requested
  have stage : (sw.toggle m).1.stage = .looked true := window
  refine ⟨_, _, by rw [commit, stage], rfl, rfl, ?_, ?_⟩
  · simpa [streams, toggle] using changed.symm
  · simp [check]

end Switch

/-! ## Runs -/

namespace Formats

structure Ranged (f : Formats) : Prop where
  video : videoSwitch.Ranged f.video
  depth : depthSwitch.Ranged f.depth

def Synced (f : Formats) : Prop := Switch.Synced f.video ∧ Switch.Synced f.depth

def running (f : Formats) : Bool × Bool := (f.video.stage == .idle, f.depth.stage == .idle)

def texts : List String := videoSwitch.texts ++ depthSwitch.texts

theorem started_ranged : started.Ranged := ⟨⟨.inl rfl, .inl rfl, .inl rfl⟩, ⟨.inl rfl, .inl rfl, .inl rfl⟩⟩

end Formats

def ModeCall.Sent (c : ModeCall) : Prop := videoSwitch.Sends c ∨ depthSwitch.Sends c

def ModeCall.streams : ModeCall → Bool × Bool → Bool × Bool
  | .stopVideo, (_, depth) => (false, depth)
  | .startVideo, (_, depth) => (true, depth)
  | .stopDepth, (video, _) => (video, false)
  | .startDepth, (video, _) => (video, true)
  | _, running => running

namespace FormatEvent

variable {f f' : Formats} {e : Effects}

theorem apply_video {s : BlockStep} (h : (video s).apply f = some (f', e)) :
    ∃ m, videoSwitch.step s f.video = some (m, e) ∧ f' = { f with video := m } := by
  obtain ⟨⟨m, e⟩, stepped, eq⟩ := Option.map_eq_some'.mp h
  cases eq
  exact ⟨m, stepped, rfl⟩

theorem apply_depth {s : BlockStep} (h : (depth s).apply f = some (f', e)) :
    ∃ m, depthSwitch.step s f.depth = some (m, e) ∧ f' = { f with depth := m } := by
  obtain ⟨⟨m, e⟩, stepped, eq⟩ := Option.map_eq_some'.mp h
  cases eq
  exact ⟨m, stepped, rfl⟩

theorem apply_key {pressed : Char} (h : (key pressed).apply f = some (f', e)) :
    (pressed = 'v' ∨ pressed = 'V') ∧ f' = { f with video := (videoSwitch.toggle f.video).1 } ∧
        e = (videoSwitch.toggle f.video).2 ∨
      (pressed = 'd' ∨ pressed = 'D') ∧ f' = { f with depth := (depthSwitch.toggle f.depth).1 } ∧
        e = (depthSwitch.toggle f.depth).2 ∨
      f' = f ∧ e = {} := by
  simp only [apply] at h
  split_ifs at h with v d <;> cases h
  exacts [.inl ⟨v, rfl, rfl⟩, .inr (.inl ⟨d, rfl, rfl⟩), .inr (.inr ⟨rfl, rfl⟩)]

theorem run_cons {ev : FormatEvent} {es : List FormatEvent} (h : run (ev :: es) f = some (f', e)) :
    ∃ g e₁ e₂, ev.apply f = some (g, e₁) ∧ run es g = some (f', e₂) ∧ e = e₁ ++ e₂ := by
  obtain ⟨⟨g, e₁⟩, applied, rest⟩ := Option.bind_eq_some.mp h
  obtain ⟨⟨f'', e₂⟩, ran, eq⟩ := Option.map_eq_some'.mp rest
  cases eq
  exact ⟨g, e₁, e₂, applied, ran, rfl⟩

/-! ### The formats stay the two each key toggles between -/

theorem apply_ranged {ev : FormatEvent} (ranged : f.Ranged) (h : ev.apply f = some (f', e)) :
    f'.Ranged ∧ (∀ c ∈ e.calls, c.Sent) ∧ ∀ t ∈ e.statuses, t ∈ Formats.texts := by
  cases ev with
  | key pressed =>
    rcases apply_key h with ⟨-, rfl, rfl⟩ | ⟨-, rfl, rfl⟩ | ⟨rfl, rfl⟩
    · have := videoSwitch.toggle_ranged ranged.video
      exact ⟨⟨this.1, ranged.depth⟩, by simp [Switch.toggle],
        fun t mem => List.mem_append_left _ (this.2 t mem)⟩
    · have := depthSwitch.toggle_ranged ranged.depth
      exact ⟨⟨ranged.video, this.1⟩, by simp [Switch.toggle],
        fun t mem => List.mem_append_right _ (this.2 t mem)⟩
    · exact ⟨ranged, by simp, by simp⟩
  | video s =>
    obtain ⟨m, stepped, rfl⟩ := apply_video h
    have := videoSwitch.step_ranged ranged.video stepped
    exact ⟨⟨this.1, ranged.depth⟩, fun c mem => .inl (this.2.1 c mem),
      fun t mem => List.mem_append_left _ (this.2.2 t mem)⟩
  | depth s =>
    obtain ⟨m, stepped, rfl⟩ := apply_depth h
    have := depthSwitch.step_ranged ranged.depth stepped
    exact ⟨⟨ranged.video, this.1⟩, fun c mem => .inr (this.2.1 c mem),
      fun t mem => List.mem_append_right _ (this.2.2 t mem)⟩

theorem run_ranged (es : List FormatEvent) (ranged : f.Ranged) (h : run es f = some (f', e)) :
    f'.Ranged ∧ (∀ c ∈ e.calls, c.Sent) ∧ ∀ t ∈ e.statuses, t ∈ Formats.texts := by
  induction es generalizing f e with
  | nil => cases h; exact ⟨ranged, by simp, by simp⟩
  | cons ev es ih =>
    obtain ⟨g, e₁, e₂, applied, ran, rfl⟩ := run_cons h
    have first := apply_ranged ranged applied
    have rest := ih first.1 ran
    refine ⟨rest.1, ?_, ?_⟩ <;> simp only [Effects.calls_append, Effects.statuses_append,
      List.mem_append] <;> rintro _ (mem | mem)
    exacts [first.2.1 _ mem, rest.2.1 _ mem, first.2.2 _ mem, rest.2.2 _ mem]

example : "Video mode changed to IR8" ∉ Formats.texts ∧ "Depth mode changed to RAW11" ∉ Formats.texts := by
  decide

/-! ### No block leaves its stream stopped -/

theorem apply_streams {ev : FormatEvent} (h : ev.apply f = some (f', e)) :
    e.calls.foldl (fun r c => c.streams r) f.running = f'.running := by
  cases ev with
  | key pressed =>
    rcases apply_key h with ⟨-, rfl, rfl⟩ | ⟨-, rfl, rfl⟩ | ⟨rfl, rfl⟩ <;> rfl
  | video s =>
    obtain ⟨m, stepped, rfl⟩ := apply_video h
    rcases videoSwitch.step_cases stepped with
      ⟨stage, -, rfl, rfl⟩ | ⟨stage, -, rfl, rfl⟩ | ⟨stage, rfl, rfl⟩ | ⟨stage, rfl, rfl⟩ |
        ⟨stage, rfl, rfl⟩ | ⟨stage, rfl, rfl⟩ <;>
      simp only [Formats.running, stage] <;> rfl
  | depth s =>
    obtain ⟨m, stepped, rfl⟩ := apply_depth h
    rcases depthSwitch.step_cases stepped with
      ⟨stage, -, rfl, rfl⟩ | ⟨stage, -, rfl, rfl⟩ | ⟨stage, rfl, rfl⟩ | ⟨stage, rfl, rfl⟩ |
        ⟨stage, rfl, rfl⟩ | ⟨stage, rfl, rfl⟩ <;>
      simp only [Formats.running, stage] <;> rfl

theorem run_streams (es : List FormatEvent) (h : run es f = some (f', e)) :
    e.calls.foldl (fun r c => c.streams r) f.running = f'.running := by
  induction es generalizing f e with
  | nil => cases h; rfl
  | cons ev es ih =>
    obtain ⟨g, e₁, e₂, applied, ran, rfl⟩ := run_cons h
    rw [Effects.calls_append, List.foldl_append, apply_streams applied, ih ran]

/-! ### What libfreenect streams in -/

/-- Whether a key press toggles a stream whose block has set the requested mode and not yet
recorded it. -/
def intrudes : FormatEvent → Formats → Bool
  | .key pressed, f =>
    (pressed = 'v' ∨ pressed = 'V') && f.video.stage = .looked true ||
      (pressed = 'd' ∨ pressed = 'D') && f.depth.stage = .looked true
  | _, _ => false

def Quiet : List FormatEvent → Formats → Prop
  | [], _ => True
  | e :: es, f => e.intrudes f = false ∧ ∀ r, e.apply f = some r → Quiet es r.1

theorem apply_synced {ev : FormatEvent} (synced : f.Synced) (outside : ev.intrudes f = false)
    (h : ev.apply f = some (f', e)) : f'.Synced := by
  cases ev with
  | key pressed =>
    simp only [intrudes, Bool.or_eq_false_iff, Bool.and_eq_false_iff, decide_eq_false_iff_not]
      at outside
    rcases apply_key h with ⟨v, rfl, rfl⟩ | ⟨d, rfl, rfl⟩ | ⟨rfl, rfl⟩
    · exact ⟨videoSwitch.toggle_synced synced.1 (outside.1.resolve_left (not_not.mpr v)), synced.2⟩
    · exact ⟨synced.1, depthSwitch.toggle_synced synced.2 (outside.2.resolve_left (not_not.mpr d))⟩
    · exact synced
  | video s =>
    obtain ⟨m, stepped, rfl⟩ := apply_video h
    exact ⟨videoSwitch.step_synced synced.1 stepped, synced.2⟩
  | depth s =>
    obtain ⟨m, stepped, rfl⟩ := apply_depth h
    exact ⟨synced.1, depthSwitch.step_synced synced.2 stepped⟩

theorem run_synced (es : List FormatEvent) (quiet : Quiet es f) (synced : f.Synced)
    (h : run es f = some (f', e)) : f'.Synced := by
  induction es generalizing f e with
  | nil => cases h; exact synced
  | cons ev es ih =>
    obtain ⟨g, e₁, e₂, applied, ran, rfl⟩ := run_cons h
    exact ih (quiet.2 _ applied) (apply_synced synced quiet.1 applied) ran

/-- A `v` press inside the video block's window: the block records the toggled request while
libfreenect streams the one looked up before it, and no later pass switches again, since the
request and the recorded format agree. -/
theorem key_in_window_desyncs (f : Formats) (window : f.video.stage = .looked true)
    (synced : f.Synced) (ranged : f.Ranged) :
    ∃ f' e, run [.key 'v', .video .commit] f = some (f', e) ∧ f'.video.stage = .idle ∧
      f'.video.streamed ≠ f'.video.current ∧ (video .check).apply f' = some (f', {}) := by
  obtain ⟨m, e, committed, idle, agree, apart, checked⟩ :=
    videoSwitch.toggle_in_window_desyncs (by decide) window synced.1 ranged.video
  refine ⟨{ f with video := m }, (videoSwitch.toggle f.video).2 ++ (e ++ {}), ?_, idle, apart, ?_⟩
  · simp [run, apply, Switch.step, committed]
  · simp [apply, Switch.step, checked]

end FormatEvent

/-! ## The buffer model's view -/

def Buffers.videoMode (b : Buffers) : Mode VideoFormat :=
  ⟨b.requestedVideoFormat, b.currentVideoFormat, b.currentVideoFormat, .idle⟩

def videoBlock (valid : Bool) (m : Mode VideoFormat) : List FormatEvent :=
  if m.requested ≠ m.current then [.video .check, .video (.lookup valid), .video .commit]
  else [.video .check]

theorem run_videoBlock (valid : Bool) (f : Formats) (idle : f.video.stage = .idle) :
    FormatEvent.run (videoBlock valid f.video) f =
      some ({ f with video := (videoSwitch.block valid f.video).1 },
        (videoSwitch.block valid f.video).2) := by
  unfold videoBlock Switch.block
  split_ifs <;>
    simp [FormatEvent.run, FormatEvent.apply, Switch.step, Switch.check, Switch.lookup,
      Switch.commit, idle, *] <;> rfl

/-- The buffer model's `v` key and video switch are the key's toggle and the uninterrupted video
block on its globals: the block leaves the globals the buffer model's switch leaves, and calls
`freenect_set_video_buffer` exactly when that switch registers `g_rgb_back` again. -/
theorem buffers_refine_formats (b : Buffers) (depth : Mode DepthFormat) (pressed : Char)
    (valid : Bool) :
    ((FormatEvent.key pressed).apply ⟨b.videoMode, depth⟩).map (·.1.video) =
        some (keyPressed pressed b).videoMode ∧
      ∃ e, FormatEvent.run (videoBlock valid b.videoMode) ⟨b.videoMode, depth⟩ =
          some (⟨(switchVideoFormat valid b).videoMode, depth⟩, e) ∧
        (switchVideoFormat valid b).registered =
          if .setVideoBuffer ∈ e.calls then b.rgbBack else b.registered := by
  refine ⟨?_, (videoSwitch.block valid b.videoMode).2,
    (run_videoBlock valid ⟨b.videoMode, depth⟩ rfl).trans ?_, ?_⟩
  · simp only [FormatEvent.apply, keyPressed]
    split_ifs <;> simp_all [Buffers.videoMode, Switch.toggle, videoSwitch]
  · unfold Switch.block switchVideoFormat Buffers.videoMode
    split_ifs <;> rfl
  · unfold Switch.block switchVideoFormat Buffers.videoMode
    split_ifs <;> simp_all [videoSwitch]

/-- The control center's mode switches over any interleaving, from the start, of key presses
and the loop's block steps. -/
theorem mode_switches_over_any_run (es : List FormatEvent) (f : Formats) (e : Effects)
    (ran : FormatEvent.run es Formats.started = some (f, e)) :
    f.Ranged ∧ (∀ c ∈ e.calls, c.Sent) ∧ (∀ t ∈ e.statuses, t ∈ Formats.texts) ∧
    e.calls.foldl (fun r c => c.streams r) (true, true) = f.running ∧
    (FormatEvent.Quiet es Formats.started → f.Synced ∧
      (f.video.stage = .looked true → ∃ f' e', FormatEvent.run [.key 'v', .video .commit] f =
        some (f', e') ∧ f'.video.stage = .idle ∧ f'.video.streamed ≠ f'.video.current ∧
          (FormatEvent.video .check).apply f' = some (f', {}))) ∧
    ∀ (b : Buffers) (depth : Mode DepthFormat) (pressed : Char) (valid : Bool),
      ((FormatEvent.key pressed).apply ⟨b.videoMode, depth⟩).map (·.1.video) =
          some (keyPressed pressed b).videoMode ∧
        ∃ e, FormatEvent.run (videoBlock valid b.videoMode) ⟨b.videoMode, depth⟩ =
            some (⟨(switchVideoFormat valid b).videoMode, depth⟩, e) ∧
          (switchVideoFormat valid b).registered =
            if .setVideoBuffer ∈ e.calls then b.rgbBack else b.registered := by
  have ranged := FormatEvent.run_ranged es Formats.started_ranged ran
  refine ⟨ranged.1, ranged.2.1, ranged.2.2, FormatEvent.run_streams es ran, fun quiet => ?_,
    buffers_refine_formats⟩
  have synced := FormatEvent.run_synced es quiet ⟨rfl, rfl⟩ ran
  exact ⟨synced, fun window => FormatEvent.key_in_window_desyncs f window synced ranged.1⟩

/-- From the start, `v`, and the video block up to its set-mode: the run is quiet and sits in
the window. -/
theorem mode_switches_over_any_run_in_window :
    FormatEvent.run [.key 'v', .video .check, .video (.lookup true)] Formats.started =
      some (⟨⟨.yuvRgb, .rgb, .yuvRgb, .looked true⟩, Formats.started.depth⟩,
        ⟨[.stopVideo, .setVideoMode .yuvRgb], ["Requested video mode: YUV->RGB"]⟩) ∧
    (let es : List FormatEvent := [.key 'v', .video .check, .video (.lookup true)]
    let f : Formats := ⟨⟨.yuvRgb, .rgb, .yuvRgb, .looked true⟩, Formats.started.depth⟩
    let e : Effects := ⟨[.stopVideo, .setVideoMode .yuvRgb], ["Requested video mode: YUV->RGB"]⟩
    f.Ranged ∧ (∀ c ∈ e.calls, c.Sent) ∧ (∀ t ∈ e.statuses, t ∈ Formats.texts) ∧
    e.calls.foldl (fun r c => c.streams r) (true, true) = f.running ∧
    (FormatEvent.Quiet es Formats.started → f.Synced ∧
      (f.video.stage = .looked true → ∃ f' e', FormatEvent.run [.key 'v', .video .commit] f =
        some (f', e') ∧ f'.video.stage = .idle ∧ f'.video.streamed ≠ f'.video.current ∧
          (FormatEvent.video .check).apply f' = some (f', {}))) ∧
    ∀ (b : Buffers) (depth : Mode DepthFormat) (pressed : Char) (valid : Bool),
      ((FormatEvent.key pressed).apply ⟨b.videoMode, depth⟩).map (·.1.video) =
          some (keyPressed pressed b).videoMode ∧
        ∃ e, FormatEvent.run (videoBlock valid b.videoMode) ⟨b.videoMode, depth⟩ =
            some (⟨(switchVideoFormat valid b).videoMode, depth⟩, e) ∧
          (switchVideoFormat valid b).registered =
            if .setVideoBuffer ∈ e.calls then b.rgbBack else b.registered) :=
  ⟨by decide, mode_switches_over_any_run _ _ _ (by decide)⟩

end MacKinect.ControlCenter
