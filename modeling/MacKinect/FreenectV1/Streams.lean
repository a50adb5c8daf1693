import MacKinect.FreenectV1.Device

/-! The sub-stream state machine of `FreenectV1Device` over every run. The flags
always agree with the driver and the call trace is legal; `running_` is
`depth_started_`; audio runs only while running and enabled. Video is not tied
to `running_`: start() can fail after ApplyVideoMode started it. -/
namespace MacKinect.FreenectV1

section Fields

variable (d : Device) (b ok : Bool) (s : SubStream) (c : Call)

@[simp] theorem started_depth : d.started .depth = d.depthStarted := rfl
@[simp] theorem started_video : d.started .video = d.videoStarted := rfl
@[simp] theorem started_audio : d.started .audio = d.audioStarted := rfl

@[simp] theorem setStarted_calls : (d.setStarted b s).calls = d.calls := by cases s <;> rfl
@[simp] theorem setStarted_running : (d.setStarted b s).running = d.running := by cases s <;> rfl
@[simp] theorem setStarted_dev : (d.setStarted b s).dev = d.dev := by cases s <;> rfl
@[simp] theorem setStarted_audioEnabled : (d.setStarted b s).audioEnabled = d.audioEnabled := by
  cases s <;> rfl
@[simp] theorem setStarted_audioSupported :
    (d.setStarted b s).audioSupported = d.audioSupported := by cases s <;> rfl
@[simp] theorem setStarted_requestedStream :
    (d.setStarted b s).requestedStream = d.requestedStream := by cases s <;> rfl
@[simp] theorem setStarted_activeStream :
    (d.setStarted b s).activeStream = d.activeStream := by cases s <;> rfl
@[simp] theorem setStarted_frame : (d.setStarted b s).frame = d.frame := by cases s <;> rfl
@[simp] theorem setStarted_hasNewFrame : (d.setStarted b s).hasNewFrame = d.hasNewFrame := by
  cases s <;> rfl

@[simp] theorem started_setStarted (t : SubStream) :
    (d.setStarted b s).started t = if t = s then b else d.started t := by
  cases s <;> cases t <;> rfl

@[simp] theorem started_call : (d.call c).started s = d.started s := by cases s <;> rfl

@[simp] theorem get_after_start (n : Streams) (t : SubStream) :
    (n.after (.start s ok)).get t = if t = s then n.get s || ok else n.get t := by
  cases s <;> cases t <;> rfl

@[simp] theorem get_after_stop (n : Streams) (t : SubStream) :
    (n.after (.stop s)).get t = if t = s then false else n.get t := by
  cases s <;> cases t <;> rfl

theorem started_stopIfStarted_of (t : SubStream) :
    (d.stopIfStarted s).started t = if t = s then false else d.started t := by
  unfold Device.stopIfStarted
  by_cases same : t = s
  · subst same; split <;> simp_all [Device.stopStream]
  · split <;> simp [Device.stopStream, same]

@[simp] theorem stopIfStarted_depthStarted :
    (d.stopIfStarted s).depthStarted = if s = .depth then false else d.depthStarted := by
  simpa [eq_comm] using started_stopIfStarted_of d s .depth

@[simp] theorem stopIfStarted_videoStarted :
    (d.stopIfStarted s).videoStarted = if s = .video then false else d.videoStarted := by
  simpa [eq_comm] using started_stopIfStarted_of d s .video

@[simp] theorem stopIfStarted_audioStarted :
    (d.stopIfStarted s).audioStarted = if s = .audio then false else d.audioStarted := by
  simpa [eq_comm] using started_stopIfStarted_of d s .audio

@[simp] theorem stopIfStarted_running : (d.stopIfStarted s).running = d.running := by
  unfold Device.stopIfStarted; split <;> simp [Device.stopStream]

@[simp] theorem stopIfStarted_dev : (d.stopIfStarted s).dev = d.dev := by
  unfold Device.stopIfStarted; split <;> simp [Device.stopStream]

@[simp] theorem stopIfStarted_audioEnabled : (d.stopIfStarted s).audioEnabled = d.audioEnabled := by
  unfold Device.stopIfStarted; split <;> simp [Device.stopStream]

@[simp] theorem stopIfStarted_audioSupported :
    (d.stopIfStarted s).audioSupported = d.audioSupported := by
  unfold Device.stopIfStarted; split <;> simp [Device.stopStream]

theorem stopIfStarted_of_started (started : d.started s = true) :
    d.stopIfStarted s = (d.call (.stop s)).setStarted false s := by
  simp [Device.stopIfStarted, Device.stopStream, started]

theorem stopIfStarted_of_stopped (stopped : d.started s = false) : d.stopIfStarted s = d := by
  simp [Device.stopIfStarted, stopped]

end Fields

/-- The adapter's three flags are the driver's, and the call trace is legal. -/
def Device.Synced (d : Device) : Prop :=
  legal d.calls = true ∧ ∀ s, (streams d.calls).get s = d.started s

variable {d : Device} {s : SubStream}

theorem Device.Synced.congr {e : Device} (sync : d.Synced) (calls : e.calls = d.calls)
    (started : ∀ s, e.started s = d.started s) : e.Synced :=
  ⟨calls ▸ sync.1, fun s => by rw [calls, started]; exact sync.2 s⟩

theorem Device.Synced.startStream (sync : d.Synced) (ok : Bool) (stopped : d.started s = false) :
    (d.startStream s ok).Synced := by
  obtain ⟨legal, agree⟩ := sync
  refine ⟨by simp [Device.startStream, legal, Call.allowed, agree, stopped], ?_⟩
  intro t
  by_cases same : t = s
  · subst same; simp [Device.startStream, agree, stopped]
  · simp [Device.startStream, agree, same]

theorem Device.Synced.stopStream (sync : d.Synced) (running : d.started s = true) :
    (d.stopStream s).Synced := by
  obtain ⟨legal, agree⟩ := sync
  refine ⟨by simp [Device.stopStream, legal, Call.allowed, agree, running], ?_⟩
  intro t
  by_cases same : t = s
  · subst same; simp [Device.stopStream]
  · simp [Device.stopStream, agree, same]

theorem Device.Synced.stopIfStarted (sync : d.Synced) : (d.stopIfStarted s).Synced := by
  unfold Device.stopIfStarted
  split
  · exact sync.stopStream ‹_›
  · exact sync

/-- A call that is legal now and leaves the driver's sub-streams as they are. -/
theorem Device.Synced.call {c : Call} (sync : d.Synced) (allowed : c.allowed (streams d.calls) = true)
    (same : ∀ t, ((streams d.calls).after c).get t = (streams d.calls).get t) :
    (d.call c).Synced :=
  ⟨by simp [sync.1, allowed], fun t => by simp [same, sync.2]⟩

/-- Everything but the video flag, the active stream and the call trace. -/
def Device.nonVideo (d : Device) :=
  (d.dev, d.audioSupported, d.running, d.depthStarted, d.audioStarted, d.audioEnabled,
    d.requestedStream, d.frame, d.hasNewFrame)

def Call.isVideo : Call → Bool
  | .setVideoMode _ _ | .start .video _ | .stop .video => true
  | _ => false

/-- `e` is `d` after video calls only: set_video_mode and starts and stops of video. -/
structure VideoOnly (d e : Device) : Prop where
  rest : e.nonVideo = d.nonVideo
  calls : ∃ fresh, e.calls = fresh ++ d.calls ∧ ∀ c ∈ fresh, c.isVideo = true

theorem VideoOnly.refl (d : Device) : VideoOnly d d := ⟨rfl, [], rfl, by simp⟩

theorem VideoOnly.trans {d e f : Device} (first : VideoOnly d e) (second : VideoOnly e f) :
    VideoOnly d f := by
  obtain ⟨rest₁, fresh₁, calls₁, video₁⟩ := first
  obtain ⟨rest₂, fresh₂, calls₂, video₂⟩ := second
  refine ⟨rest₂.trans rest₁, fresh₂ ++ fresh₁, by simp [calls₂, calls₁], ?_⟩
  simp only [List.mem_append]
  rintro c (member | member)
  exacts [video₂ c member, video₁ c member]

theorem videoOnly_call (d : Device) {c : Call} (video : c.isVideo = true) :
    VideoOnly d (d.call c) := ⟨rfl, [c], rfl, by simpa using video⟩

theorem videoOnly_setVideo (d : Device) (b : Bool) : VideoOnly d (d.setStarted b .video) :=
  ⟨rfl, [], rfl, by simp⟩

theorem videoOnly_startVideo (d : Device) (ok : Bool) : VideoOnly d (d.startStream .video ok) :=
  (videoOnly_call d (c := .start .video ok) rfl).trans (videoOnly_setVideo _ _)

theorem videoOnly_stopVideo (d : Device) : VideoOnly d (d.stopIfStarted .video) := by
  unfold Device.stopIfStarted
  split
  · exact (videoOnly_call d (c := .stop .video) rfl).trans (videoOnly_setVideo _ _)
  · exact .refl d

theorem videoOnly_activeStream (d : Device) (kind : StreamKind) :
    VideoOnly d { d with activeStream := kind } := ⟨rfl, [], rfl, by simp⟩

theorem applyVideoMode_videoOnly (d : Device) (r : VideoResults) :
    VideoOnly d (applyVideoMode r d).1 := by
  unfold applyVideoMode
  split
  · exact .refl d
  · have prepared := (videoOnly_stopVideo d).trans (videoOnly_call _ (c := .setVideoMode
      (videoFormatFor d.requestedStream) r.setVideoMode) rfl)
    split
    · exact prepared
    · have started := prepared.trans (videoOnly_startVideo _ r.startVideo)
      split
      · exact started
      · exact started.trans (videoOnly_activeStream _ _)

@[simp] theorem started_stopIfStarted (d : Device) (s : SubStream) :
    (d.stopIfStarted s).started s = false := by
  unfold Device.stopIfStarted
  split <;> simp [Device.stopStream, *]

theorem get_after_setVideoMode (n : Streams) (format : VideoFormat) (ok : Bool) (t : SubStream) :
    (n.after (.setVideoMode format ok)).get t = n.get t := by
  cases ok <;> cases t <;> rfl

theorem applyVideoMode_synced {d : Device} (sync : d.Synced) (r : VideoResults) :
    (applyVideoMode r d).1.Synced := by
  unfold applyVideoMode
  split
  · exact sync
  · have stopped : (d.stopIfStarted .video).Synced := sync.stopIfStarted
    have idle := started_stopIfStarted d .video
    have prepared := stopped.call (c := .setVideoMode (videoFormatFor d.requestedStream)
      r.setVideoMode) (by simpa [Call.allowed, Streams.get] using (stopped.2 .video).trans idle)
      (get_after_setVideoMode _ _ _)
    split
    · exact prepared
    · have started := prepared.startStream (s := .video) r.startVideo (by simp)
      split
      · exact started
      · exact started

/-- What every reachable state satisfies, whatever the driver answered. -/
structure Invariant (d : Device) : Prop where
  synced : d.Synced
  running : d.running = d.depthStarted
  dev : d.running = true → d.dev = true
  audio_running : d.audioStarted = true → d.running = true
  audio_enabled : d.audioStarted = true → d.audioEnabled = true
  audio_supported : d.audioEnabled = true → d.audioSupported = true

theorem opened_invariant (audio : Bool) : Invariant (opened audio) :=
  ⟨⟨rfl, fun s => by cases s <;> rfl⟩, rfl, nofun, nofun, nofun, nofun⟩

theorem Invariant.stopped_audio {d : Device} (inv : Invariant d) (stopped : d.running = false) :
    d.audioStarted = false := by
  cases started : d.audioStarted
  · rfl
  · simp [inv.audio_running started] at stopped

/-- The flags the invariant reads, besides the call trace. -/
def Device.flags (d : Device) :=
  (d.dev, d.audioSupported, d.running, d.depthStarted, d.audioStarted, d.audioEnabled)

/-- The invariant carries over to a synced state with the same flags. -/
theorem Invariant.sameFlags {d e : Device} (inv : Invariant d) (sync : e.Synced)
    (flags : e.flags = d.flags) : Invariant e := by
  simp only [Device.flags, Prod.mk.injEq] at flags
  obtain ⟨dev, supported, running, depth, audio, enabled⟩ := flags
  exact ⟨sync, by rw [running, depth, inv.running], by rw [running, dev]; exact inv.dev,
    by rw [audio, running]; exact inv.audio_running, by rw [audio, enabled]; exact inv.audio_enabled,
    by rw [enabled, supported]; exact inv.audio_supported⟩

theorem Invariant.videoOnly {d e : Device} (inv : Invariant d) (only : VideoOnly d e)
    (sync : e.Synced) : Invariant e := by
  have rest := only.rest
  simp only [Device.nonVideo, Prod.mk.injEq] at rest
  exact inv.sameFlags sync (by simp [Device.flags, rest])

theorem applyVideoMode_invariant {d : Device} (inv : Invariant d) (r : VideoResults) :
    Invariant (applyVideoMode r d).1 :=
  inv.videoOnly (applyVideoMode_videoOnly d r) (applyVideoMode_synced inv.synced r)

section AudioBranches

variable {d : Device} {enabled ok : Bool}

theorem setAudioEnabled_unsupported (unsupported : d.audioSupported = false) :
    (setAudioEnabled enabled ok d).1 = { d with audioEnabled := false } := by
  simp [setAudioEnabled, unsupported]

theorem setAudioEnabled_stopped (supported : d.audioSupported = true) (stopped : d.running = false) :
    (setAudioEnabled enabled ok d).1 = { d with audioEnabled := enabled } := by
  simp [setAudioEnabled, supported, stopped]

theorem setAudioEnabled_disable (supported : d.audioSupported = true) (dev : d.dev = true)
    (running : d.running = true) :
    (setAudioEnabled false ok d).1 = { d with audioEnabled := false }.stopIfStarted .audio := by
  simp [setAudioEnabled, supported, dev, running]

theorem setAudioEnabled_enable (supported : d.audioSupported = true) (dev : d.dev = true)
    (running : d.running = true) :
    (setAudioEnabled true ok d).1 = if d.audioStarted then { d with audioEnabled := true }
      else { d with audioEnabled := true }.startStream .audio ok := by
  simp [setAudioEnabled, supported, dev, running]

end AudioBranches

theorem setAudioEnabled_invariant {d : Device} (inv : Invariant d) (enabled ok : Bool) :
    Invariant (setAudioEnabled enabled ok d).1 := by
  have sync := inv.synced
  cases supported : d.audioSupported
  case false =>
    have idle : d.audioStarted = false := by
      cases started : d.audioStarted
      · rfl
      · simpa [supported] using inv.audio_supported (inv.audio_enabled started)
    rw [setAudioEnabled_unsupported supported]
    exact ⟨sync.congr rfl fun s => by cases s <;> rfl, inv.running, inv.dev, by simp [idle],
      by simp [idle], nofun⟩
  cases running : d.running
  case false =>
    rw [setAudioEnabled_stopped supported running]
    have idle := inv.stopped_audio running
    exact ⟨sync.congr rfl fun s => by cases s <;> rfl, inv.running, inv.dev, by simp [idle],
      by simp [idle], fun _ => supported⟩
  have dev := inv.dev running
  have depth : d.depthStarted = true := by rw [← inv.running, running]
  cases enabled
  case false =>
    rw [setAudioEnabled_disable supported dev running]
    have off := (sync.congr (e := { d with audioEnabled := false }) rfl
      fun s => by cases s <;> rfl).stopIfStarted (s := .audio)
    refine ⟨off, ?_, ?_, ?_, ?_, ?_⟩ <;>
      cases started : d.audioStarted <;>
        simp [stopIfStarted_of_started, stopIfStarted_of_stopped, started, Device.setStarted,
          running, supported, dev, depth]
  case true =>
    rw [setAudioEnabled_enable supported dev running]
    split
    · exact ⟨sync.congr rfl fun s => by cases s <;> rfl, inv.running, inv.dev, fun _ => running,
        fun _ => rfl, fun _ => supported⟩
    · rename_i started
      have starting := (sync.congr (e := { d with audioEnabled := true }) rfl
        fun s => by cases s <;> rfl).startStream (s := .audio) ok (by simpa using started)
      refine ⟨starting, ?_, ?_, ?_, ?_, ?_⟩ <;>
        simp [Device.startStream, Device.setStarted, running, supported, dev, depth]

/-- start() once `depth_started_` is set and before `running_ = true`. -/
structure Ready (d : Device) : Prop where
  synced : d.Synced
  depth : d.depthStarted = true
  dev : d.dev = true
  audio : d.audioStarted = false
  audio_supported : d.audioEnabled = true → d.audioSupported = true

theorem finishStart_invariant {d : Device} (ready : Ready d) (ok : Bool) :
    Invariant (finishStart ok d).1 := by
  have live : Invariant { d with running := true } :=
    ⟨ready.synced.congr rfl fun s => by cases s <;> rfl, ready.depth.symm, fun _ => ready.dev,
      by simp [ready.audio], by simp [ready.audio], ready.audio_supported⟩
  unfold finishStart
  dsimp only
  split
  · exact setAudioEnabled_invariant live true ok
  · exact live

theorem start_invariant {d : Device} (inv : Invariant d) (r : StartResults) :
    Invariant (start r d).1 := by
  unfold start
  dsimp only
  by_cases guard : (!d.dev || d.running) = true
  · rw [if_pos guard]; exact inv
  rw [if_neg guard]
  simp only [Bool.or_eq_true, Bool.not_eq_true', not_or, Bool.not_eq_true, Bool.not_eq_false]
    at guard
  obtain ⟨dev, stopped⟩ := guard
  have idle : d.depthStarted = false := by rw [← inv.running, stopped]
  by_cases invalid : (!r.depthModeValid) = true
  · rw [if_pos invalid]; exact inv
  rw [if_neg invalid]
  have nativeIdle : (streams d.calls).depth = false := by
    simpa [Streams.get, idle] using inv.synced.2 .depth
  have setDepth : Invariant (d.call (.setDepthMode r.setDepthMode)) :=
    inv.sameFlags (inv.synced.call (c := .setDepthMode r.setDepthMode)
      (by simp [Call.allowed, nativeIdle]) fun _ => rfl) rfl
  by_cases rejected : (!r.setDepthMode) = true
  · rw [if_pos rejected]; exact setDepth
  rw [if_neg rejected]
  have video := applyVideoMode_invariant setDepth r.video
  have only := (applyVideoMode_videoOnly (d.call (.setDepthMode r.setDepthMode)) r.video).rest
  cases applied : applyVideoMode r.video (d.call (.setDepthMode r.setDepthMode)) with
  | mk e ok =>
  rw [applied] at video only
  dsimp only at video only
  simp only [Device.nonVideo, Device.call_dev, Device.call_audioSupported, Device.call_running,
    Device.call_depthStarted, Device.call_audioStarted, Device.call_audioEnabled, Prod.mk.injEq]
    at only
  obtain ⟨eDev, -, eRunning, eDepth, eAudio, -, -⟩ := only
  cases ok
  · exact video
  rw [if_neg (by simp)]
  have depthStarting := video.synced.startStream (s := .depth) r.startDepth
    (by simp [eDepth, idle])
  by_cases depthFailed : (!r.startDepth) = true
  · rw [if_pos depthFailed]
    replace depthFailed : r.startDepth = false := by simpa using depthFailed
    exact video.sameFlags depthStarting
      (by simp [Device.flags, Device.startStream, Device.setStarted, depthFailed])
  rw [if_neg depthFailed]
  replace depthFailed : r.startDepth = true := by simpa using depthFailed
  have ready : Ready (e.startStream .depth r.startDepth) :=
    ⟨depthStarting, by simp [Device.startStream, Device.setStarted, depthFailed],
      by simp [Device.startStream, Device.setStarted, eDev, dev],
      by simp [Device.startStream, Device.setStarted, eAudio, inv.stopped_audio stopped],
      by simpa [Device.startStream, Device.setStarted] using video.audio_supported⟩
  split
  · exact finishStart_invariant ready r.startAudio
  rename_i videoIdle
  have videoStarting := ready.synced.startStream (s := .video) r.startVideo
    (by simpa using videoIdle)
  split
  · have undone := videoStarting.stopStream (s := .depth)
      (by simp [Device.startStream, Device.setStarted, depthFailed])
    exact video.sameFlags undone (by simp [Device.flags, Device.stopStream, Device.startStream,
      Device.setStarted, eDepth, idle])
  · refine finishStart_invariant ⟨videoStarting, ?_, ?_, ?_, ?_⟩ r.startAudio
    all_goals simp only [Device.startStream, Device.setStarted, Device.call_depthStarted,
      Device.call_dev, Device.call_audioStarted, Device.call_audioEnabled,
      Device.call_audioSupported, started_depth]
    exacts [by simp [depthFailed], eDev.trans dev, eAudio.trans (inv.stopped_audio stopped),
      video.audio_supported]

theorem stop_invariant {d : Device} (inv : Invariant d) : Invariant (stop d).1 := by
  unfold stop
  dsimp only
  split
  · exact inv
  split
  · exact inv
  have halted := ((inv.synced.stopIfStarted (s := .audio)).stopIfStarted (s := .video)).stopIfStarted
    (s := .depth)
  refine ⟨halted.congr rfl fun s => by cases s <;> rfl, ?_, nofun, ?_, ?_, ?_⟩
  all_goals simp
  exact inv.audio_supported

theorem update_invariant {d : Device} (inv : Invariant d) (r : UpdateResults) :
    Invariant (update r d).1 := by
  unfold update
  dsimp only
  split
  · exact inv
  have switched : Invariant (if d.requestedStream ≠ d.activeStream then
      (applyVideoMode r.video d).1 else d) := by
    split
    · exact applyVideoMode_invariant inv r.video
    · exact inv
  exact switched.sameFlags (switched.synced.call (c := .processEvents r.processEvents) rfl
    fun _ => rfl) rfl

theorem Invariant.store {d : Device} (inv : Invariant d) (frame : FrameData) (fresh : Bool) :
    Invariant (d.store frame fresh) :=
  inv.sameFlags (inv.synced.congr rfl fun s => by cases s <;> rfl) rfl

theorem Op.apply_invariant {d : Device} (inv : Invariant d) (op : Op) : Invariant (op.apply d) := by
  cases op with
  | start r => exact start_invariant inv r
  | stop => exact stop_invariant inv
  | update r => exact update_invariant inv r
  | setAudioEnabled enabled ok => exact setAudioEnabled_invariant inv enabled ok
  | setStreamKind kind => exact inv.sameFlags (inv.synced.congr rfl fun s => by cases s <;> rfl) rfl
  | onDepthFrame depth timestamp =>
    cases depth
    · exact inv
    · exact inv.store _ _
  | onVideoFrame video timestamp =>
    cases video
    · exact inv
    · exact inv.store _ _
  | getFrame =>
    simp only [Op.apply, FreenectV1.getFrame]
    split
    · exact inv.store _ _
    · exact inv

theorem run_invariant {d : Device} (inv : Invariant d) (ops : List Op) : Invariant (run ops d) := by
  induction ops generalizing d with
  | nil => exact inv
  | cons op ops ih => exact ih (Op.apply_invariant inv op)

/-- Over every run of an opened device: the flags are the driver's, no call starts a running
or stops a stopped sub-stream or changes a mode while it runs, `running_` is
`depth_started_`, audio runs only while running and enabled, and a stopped device runs
neither depth nor audio. -/
theorem substreams_follow_driver (audio : Bool) (ops : List Op) :
    let d := run ops (opened audio)
    legal d.calls = true ∧ (streams d.calls).depth = d.depthStarted ∧
      (streams d.calls).video = d.videoStarted ∧ (streams d.calls).audio = d.audioStarted ∧
      d.running = d.depthStarted ∧ (d.audioStarted = true → d.running = true ∧ d.audioEnabled = true) ∧
      (d.running = false → d.depthStarted = false ∧ d.audioStarted = false) := by
  have inv := run_invariant (opened_invariant audio) ops
  refine ⟨inv.synced.1, inv.synced.2 .depth, inv.synced.2 .video, inv.synced.2 .audio, inv.running,
    fun started => ⟨inv.audio_running started, inv.audio_enabled started⟩,
    fun stopped => ⟨inv.running ▸ stopped, inv.stopped_audio stopped⟩⟩

/-- start() when freenect_start_depth is rejected after ApplyVideoMode started video: it
reports failure with `running_` false while video streams, and stop() then returns at once. -/
theorem start_leaves_video_running :
    let r : StartResults := ⟨true, true, ⟨true, true, true⟩, false, true, true⟩
    let d := (start r (opened false)).1
    (start r (opened false)).2 = false ∧ d.running = false ∧ d.videoStarted = true ∧
      (streams d.calls).video = true ∧ (stop d).2 = true ∧ (stop d).1.videoStarted = true ∧
      (streams (stop d).1.calls).video = true := by
  decide

/-- A switch to infrared whose set_video_mode is rejected leaves video stopped. -/
theorem rejected_switch_stops_video :
    let d : Device := run [.start ⟨true, true, ⟨true, true, true⟩, true, true, true⟩, .setStreamKind .kIr]
      (opened false)
    d.running = true ∧ d.requestedStream ≠ d.activeStream ∧ d.videoStarted = true ∧
      (applyVideoMode ⟨true, false, true⟩ d).2 = false ∧
      (applyVideoMode ⟨true, false, true⟩ d).1.videoStarted = false ∧
      (streams (applyVideoMode ⟨true, false, true⟩ d).1.calls).video = false := by
  decide

end MacKinect.FreenectV1
