import Mathlib.Data.Nat.ModEq
import Mathlib.Data.List.Forall2
import Mathlib.Data.List.GetD
import MacKinect.CInt

/-! Microphone recording in control_center_v1.cpp. `StartAudioRecordingLocked` opens one WAV
sink per microphone (32-bit samples) and one for the echo-cancelled stream (16-bit),
`audio_in_cb` appends each callback's samples to every open sink, and
`StopAudioRecordingLocked` closes them, `CloseWavSink` rewriting each header from the sink's
`uint64` sample count. A file is its path, its 44 header bytes and the number of sample bytes
appended after them; every `fwrite` writes in full. -/
namespace MacKinect.ControlCenter

/-! ## The header -/

def putLe16 (value : Nat) : List UInt8 :=
  [UInt8.ofNat (value &&& 0xff), UInt8.ofNat ((value >>> 8) &&& 0xff)]

def putLe32 (value : Nat) : List UInt8 :=
  [UInt8.ofNat (value &&& 0xff), UInt8.ofNat ((value >>> 8) &&& 0xff),
    UInt8.ofNat ((value >>> 16) &&& 0xff), UInt8.ofNat ((value >>> 24) &&& 0xff)]

/-- The characters `memcpy` copies from a four-letter literal. -/
def chunkTag (s : String) : List UInt8 := s.toList.map fun c => UInt8.ofNat c.toNat

/-- `WriteWavHeader`'s 44 bytes for one channel. -/
def writeWavHeader (sampleRate bitsPerSample : Int) (dataBytes : Nat) : List UInt8 :=
  let channels : Nat := 1
  let byteRate := unsignedOf 32 ((int32 (int32 (sampleRate * channels) * bitsPerSample)).tdiv 8)
  let blockAlign := unsignedOf 16 ((int32 (channels * bitsPerSample)).tdiv 8)
  let chunkSize := (36 + dataBytes) % 2 ^ 32
  chunkTag "RIFF" ++ putLe32 chunkSize ++ chunkTag "WAVE" ++ chunkTag "fmt " ++ putLe32 16 ++
    putLe16 1 ++ putLe16 channels ++ putLe32 (unsignedOf 32 sampleRate) ++ putLe32 byteRate ++
    putLe16 blockAlign ++ putLe16 (unsignedOf 16 bitsPerSample) ++ chunkTag "data" ++
    putLe32 dataBytes

/-- The little-endian 32-bit field at `offset`, as a WAV reader decodes it. -/
def le32At (bytes : List UInt8) (offset : Nat) : Nat :=
  (bytes.getD offset 0).toNat + 2 ^ 8 * (bytes.getD (offset + 1) 0).toNat +
    2 ^ 16 * (bytes.getD (offset + 2) 0).toNat + 2 ^ 24 * (bytes.getD (offset + 3) 0).toNat

/-- The RIFF chunk size a header states. -/
def riffChunkSize (header : List UInt8) : Nat := le32At header 4

/-- The data chunk size a header states. -/
def dataChunkSize (header : List UInt8) : Nat := le32At header 40

/-- A byte `PutLe16` and `PutLe32` store is the low eight bits of what they shift out. -/
theorem toNat_lowByte (x : Nat) : (UInt8.ofNat (x &&& 0xff)).toNat = x % 2 ^ 8 := by
  rw [show x &&& 0xff = x % 2 ^ 8 from Nat.and_pow_two_sub_one_eq_mod x 8]
  exact UInt8.toNat_ofNat_of_lt (Nat.mod_lt _ (by decide))

/-- Decoding the bytes `PutLe32` stored gives the value back, modulo `2^32`. -/
theorem le32At_putLe32 (before after : List UInt8) (value : Nat) {offset : Nat}
    (placed : before.length = offset) :
    le32At (before ++ putLe32 value ++ after) offset = value % 2 ^ 32 := by
  subst placed
  have skip : ∀ k, (before ++ putLe32 value ++ after).getD (before.length + k) 0 =
      (putLe32 value ++ after).getD k 0 := fun k => by
    rw [List.append_assoc, List.getD_append_right _ _ _ _ (by omega), Nat.add_sub_cancel_left]
  have first := skip 0
  rw [Nat.add_zero] at first
  rw [le32At, first, skip, skip, skip]
  simp only [putLe32, List.cons_append, List.getD_cons_zero, List.getD_cons_succ, toNat_lowByte,
    Nat.shiftRight_eq_div_pow]
  omega

theorem writeWavHeader_riffChunkSize (sampleRate bitsPerSample : Int) (dataBytes : Nat) :
    riffChunkSize (writeWavHeader sampleRate bitsPerSample dataBytes) = (36 + dataBytes) % 2 ^ 32 := by
  simp only [riffChunkSize, writeWavHeader, List.append_assoc]
  rw [← List.append_assoc]
  exact (le32At_putLe32 _ _ _ (by simp [chunkTag])).trans (Nat.mod_mod _ _)

theorem writeWavHeader_dataChunkSize (sampleRate bitsPerSample : Int) (dataBytes : Nat) :
    dataChunkSize (writeWavHeader sampleRate bitsPerSample dataBytes) = dataBytes % 2 ^ 32 := by
  rw [dataChunkSize, ← List.append_nil (writeWavHeader _ _ _), writeWavHeader]
  exact le32At_putLe32 _ [] dataBytes (by simp [chunkTag, putLe32, putLe16])

/-! ## Sinks -/

structure WavFile where
  path : String
  header : List UInt8
  /-- The sample bytes `fwrite` appended after the header. -/
  appended : Nat
  deriving DecidableEq, Repr

/-- A `WavSink`: the open file (`none` for `nullptr`), `bits_per_sample` and the `uint64`
`sample_count`. -/
structure WavSink where
  file : Option WavFile := none
  bitsPerSample : Int := 0
  sampleCount : Nat := 0
  deriving DecidableEq, Repr

/-- The sinks in `StartAudioRecordingLocked`'s order, `g_mic_wavs[0..3]` then `g_cancelled_wav`:
file name, `bits_per_sample`, and the `sizeof` of the samples `audio_in_cb` writes to it
(`write_i32` for the microphones, `write_i16` for the cancelled stream). -/
def sinkSlots : List (String × Int × Nat) :=
  [("mic1.wav", 32, 4), ("mic2.wav", 32, 4), ("mic3.wav", 32, 4), ("mic4.wav", 32, 4),
    ("cancelled.wav", 16, 2)]

/-- `open_sink`: the sink, and what it returns; `opened` is whether `fopen` succeeded. -/
def openSink (opened : Bool) (path : String) (bitsPerSample : Int) : WavSink × Bool :=
  if opened then (⟨some ⟨path, writeWavHeader 16000 bitsPerSample 0, 0⟩, bitsPerSample, 0⟩, true)
  else (⟨none, bitsPerSample, 0⟩, false)

/-- `write_i32` or `write_i16`, writing samples of `size` bytes; `samples` is whether the
driver passed a non-null buffer for this sink. -/
def writeSamples (size : Nat) (numSamples : Int) (samples : Bool) (sink : WavSink) : WavSink :=
  match sink.file with
  | some f =>
    if samples then
      { sink with file := some { f with appended := f.appended + numSamples.toNat * size },
                  sampleCount := (sink.sampleCount + unsignedOf 64 numSamples) % 2 ^ 64 }
    else sink
  | none => sink

/-- `CloseWavSink`: the sink, and the file it closed with its rewritten header. -/
def closeWavSink (sink : WavSink) : WavSink × Option WavFile :=
  match sink.file with
  | none => (sink, none)
  | some f =>
    let bytesPerSample := unsignedOf 32 (sink.bitsPerSample.tdiv 8)
    let bytes := sink.sampleCount * bytesPerSample % 2 ^ 64
    let dataBytes := if bytes > 2 ^ 32 - 1 then 2 ^ 32 - 1 else bytes
    ({ sink with file := none }, some { f with header := writeWavHeader 16000 sink.bitsPerSample dataBytes })

/-! ## The recorder -/

structure Recorder where
  recording : Bool := false
  /-- `g_mic_wavs[0..3]` and `g_cancelled_wav`, in `sinkSlots` order. -/
  sinks : List WavSink := [{}, {}, {}, {}, {}]
  /-- The files closed so far, oldest first. -/
  saved : List WavFile := []
  status : String := "Ready."

def Recorder.idle : Recorder := {}

/-- The `&&` chain of `open_sink` calls: each runs only while all before it returned true.
`fopens` answers the `fopen` calls in order. -/
def openSinks (baseDir : String) :
    List (String × Int × Nat) → List Bool → List WavSink → List WavSink × Bool
  | (name, bits, _) :: slots, fopens, _ :: sinks =>
    let opened := openSink (fopens.headD false) (baseDir ++ "/" ++ name) bits
    if opened.2 then
      let rest := openSinks baseDir slots fopens.tail sinks
      (opened.1 :: rest.1, rest.2)
    else (opened.1 :: sinks, false)
  | _, _, sinks => (sinks, true)

/-- `StopAudioRecordingLocked`. -/
def stopAudioRecordingLocked (r : Recorder) : Recorder :=
  let closed := r.sinks.map closeWavSink
  { r with recording := false, sinks := closed.map Prod.fst,
           saved := r.saved ++ closed.filterMap Prod.snd }

/-- `StartAudioRecordingLocked`, at time stamp `stamp`. -/
def startAudioRecordingLocked (stamp : String) (fopens : List Bool) (r : Recorder) : Recorder × Bool :=
  let baseDir := "captures/audio/" ++ stamp
  let opened := openSinks baseDir sinkSlots fopens r.sinks
  if opened.2 then ({ r with sinks := opened.1, recording := true,
                             status := "Audio recording started: " ++ baseDir }, true)
  else ({ stopAudioRecordingLocked { r with sinks := opened.1 } with
          status := "Failed to open all WAV files for microphone recording." }, false)

/-- `ToggleAudioRecording`; `available` is `g_audio_stream_available`. -/
def toggleAudioRecording (available : Bool) (stamp : String) (fopens : List Bool) (r : Recorder) :
    Recorder :=
  if !available then { r with status := "Audio stream is unavailable on this device/session." }
  else if !r.recording then (startAudioRecordingLocked stamp fopens r).1
  else { stopAudioRecordingLocked r with status := "Audio recording stopped." }

/-- The sinks' writes of one callback: `samples` says which of `mic1..mic4` and `cancelled`
are non-null, in `sinkSlots` order (a missing entry is a null buffer). -/
def writeAll (numSamples : Int) :
    List (String × Int × Nat) → List Bool → List WavSink → List WavSink
  | (_, _, size) :: slots, samples, sink :: sinks =>
    writeSamples size numSamples (samples.headD false) sink :: writeAll numSamples slots samples.tail sinks
  | _, _, sinks => sinks

/-- `audio_in_cb`'s effect on the recording. -/
def audioInCb (numSamples : Int) (samples : List Bool) (r : Recorder) : Recorder :=
  if !r.recording then r else { r with sinks := writeAll numSamples sinkSlots samples r.sinks }

inductive AudioEvent where
  | toggle (available : Bool) (stamp : String) (fopens : List Bool)
  | audioIn (numSamples : Int) (samples : List Bool)
  deriving DecidableEq, Repr

/-- The driver's callbacks deliver a positive number of samples. -/
def AudioEvent.positive : AudioEvent → Bool
  | .audioIn numSamples _ => 0 < numSamples
  | .toggle .. => true

def AudioEvent.apply : AudioEvent → Recorder → Recorder
  | .toggle available stamp fopens => toggleAudioRecording available stamp fopens
  | .audioIn numSamples samples => audioInCb numSamples samples

def Recorder.run : List AudioEvent → Recorder → Recorder
  | [], r => r
  | e :: es, r => Recorder.run es (e.apply r)

/-! ## Header sizes over every recording -/

/-- What an open sink keeps: the width `CloseWavSink` reads is its writer's sample size, and
the `uint64` count times that size agrees with the bytes appended, modulo `2^64`. -/
def SinkCounts (slot : String × Int × Nat) (sink : WavSink) : Prop :=
  ∀ f, sink.file = some f → unsignedOf 32 (sink.bitsPerSample.tdiv 8) = slot.2.2 ∧
    sink.sampleCount < 2 ^ 64 ∧ sink.sampleCount * slot.2.2 ≡ f.appended [MOD 2 ^ 64]

/-- The sizes a closed file's header states: the bytes appended (modulo `2^64`) clamped to
`2^32 - 1`, and a RIFF size 36 more, modulo `2^32`. -/
def HeaderStates (f : WavFile) : Prop :=
  dataChunkSize f.header = min (f.appended % 2 ^ 64) (2 ^ 32 - 1) ∧
    riffChunkSize f.header = (dataChunkSize f.header + 36) % 2 ^ 32

structure Recorder.Invariant (r : Recorder) : Prop where
  sinks : List.Forall₂ SinkCounts sinkSlots r.sinks
  saved : ∀ f ∈ r.saved, HeaderStates f

theorem sinkSlots_sized : ∀ slot ∈ sinkSlots, unsignedOf 32 (slot.2.1.tdiv 8) = slot.2.2 := by
  decide

theorem closeWavSink_counts {slot : String × Int × Nat} {sink : WavSink}
    (counts : SinkCounts slot sink) :
    SinkCounts slot (closeWavSink sink).1 ∧ ∀ f, (closeWavSink sink).2 = some f → HeaderStates f := by
  unfold closeWavSink
  split
  · exact ⟨counts, nofun⟩
  · rename_i file opened
    obtain ⟨width, -, counted⟩ := counts file opened
    dsimp only
    refine ⟨fun _ => nofun, ?_⟩
    rintro _ ⟨⟩
    have bytes : sink.sampleCount * unsignedOf 32 (sink.bitsPerSample.tdiv 8) % 2 ^ 64 =
        file.appended % 2 ^ 64 := by rw [width]; exact counted
    simp only [HeaderStates, writeWavHeader_dataChunkSize, writeWavHeader_riffChunkSize, bytes]
    split <;> omega

theorem openSink_counts (opened : Bool) (path : String) {slot : String × Int × Nat}
    (sized : unsignedOf 32 (slot.2.1.tdiv 8) = slot.2.2) :
    SinkCounts slot (openSink opened path slot.2.1).1 := by
  unfold openSink
  split
  · rintro _ ⟨⟩
    exact ⟨sized, Nat.two_pow_pos 64, by simp [Nat.ModEq]⟩
  · nofun

theorem openSinks_counts (baseDir : String) {slots : List (String × Int × Nat)}
    (sized : ∀ slot ∈ slots, unsignedOf 32 (slot.2.1.tdiv 8) = slot.2.2) (fopens : List Bool)
    {sinks : List WavSink} (counts : List.Forall₂ SinkCounts slots sinks) :
    List.Forall₂ SinkCounts slots (openSinks baseDir slots fopens sinks).1 := by
  induction counts generalizing fopens with
  | nil => exact .nil
  | cons head rest ih =>
    rename_i slot sink slots sinks
    obtain ⟨name, bits, size⟩ := slot
    have opened := openSink_counts (fopens.headD false) (baseDir ++ "/" ++ name)
      (sized _ (List.mem_cons_self _ _))
    simp only [openSinks]
    split
    · exact .cons opened (ih (fun slot mem => sized slot (List.mem_cons_of_mem _ mem)) _)
    · exact .cons opened rest

theorem writeSamples_counts {slot : String × Int × Nat} {sink : WavSink} {numSamples : Int}
    (positive : 0 < numSamples) (samples : Bool) (counts : SinkCounts slot sink) :
    SinkCounts slot (writeSamples slot.2.2 numSamples samples sink) := by
  unfold writeSamples
  split
  · rename_i file opened
    obtain ⟨width, below, counted⟩ := counts file opened
    split
    · rintro _ ⟨⟩
      refine ⟨width, Nat.mod_lt _ (by decide), ?_⟩
      have added : unsignedOf 64 numSamples ≡ numSamples.toNat [MOD 2 ^ 64] := by
        rw [unsignedOf, Nat.ModEq]
        omega
      calc (sink.sampleCount + unsignedOf 64 numSamples) % 2 ^ 64 * slot.2.2
          ≡ (sink.sampleCount + numSamples.toNat) * slot.2.2 [MOD 2 ^ 64] :=
            ((Nat.mod_modEq _ _).trans ((Nat.ModEq.refl _).add added)).mul_right _
        _ = sink.sampleCount * slot.2.2 + numSamples.toNat * slot.2.2 := Nat.add_mul _ _ _
        _ ≡ file.appended + numSamples.toNat * slot.2.2 [MOD 2 ^ 64] := counted.add_right _
    · exact counts
  · exact counts

theorem writeAll_counts {numSamples : Int} (positive : 0 < numSamples) (samples : List Bool)
    {slots : List (String × Int × Nat)} {sinks : List WavSink}
    (counts : List.Forall₂ SinkCounts slots sinks) :
    List.Forall₂ SinkCounts slots (writeAll numSamples slots samples sinks) := by
  induction counts generalizing samples with
  | nil => exact .nil
  | cons head _ ih => exact .cons (writeSamples_counts positive _ head) (ih _)

theorem closeAll_counts {slots : List (String × Int × Nat)} {sinks : List WavSink}
    (counts : List.Forall₂ SinkCounts slots sinks) :
    List.Forall₂ SinkCounts slots ((sinks.map closeWavSink).map Prod.fst) ∧
      ∀ f ∈ (sinks.map closeWavSink).filterMap Prod.snd, HeaderStates f := by
  induction counts with
  | nil => exact ⟨.nil, by simp⟩
  | cons head _ ih =>
    obtain ⟨closedCounts, closedStates⟩ := closeWavSink_counts head
    refine ⟨.cons closedCounts ih.1, fun f mem => ?_⟩
    rw [List.map_cons, List.filterMap_cons] at mem
    split at mem
    · exact ih.2 f mem
    · rcases List.mem_cons.1 mem with rfl | rest
      · exact closedStates _ ‹_›
      · exact ih.2 f rest

theorem Recorder.Invariant.stopAudioRecordingLocked {r : Recorder} (inv : r.Invariant) :
    (stopAudioRecordingLocked r).Invariant := by
  obtain ⟨closedCounts, closedStates⟩ := closeAll_counts inv.sinks
  refine ⟨closedCounts, fun f mem => ?_⟩
  rcases List.mem_append.1 mem with before | closed
  · exact inv.saved f before
  · exact closedStates f closed

theorem Recorder.Invariant.startAudioRecordingLocked {r : Recorder} (inv : r.Invariant)
    (stamp : String) (fopens : List Bool) :
    (startAudioRecordingLocked stamp fopens r).1.Invariant := by
  have opened := openSinks_counts ("captures/audio/" ++ stamp) sinkSlots_sized fopens inv.sinks
  unfold ControlCenter.startAudioRecordingLocked
  dsimp only
  split
  · exact ⟨opened, inv.saved⟩
  · have stopped := Recorder.Invariant.stopAudioRecordingLocked (r := { r with sinks := _ })
      ⟨opened, inv.saved⟩
    exact ⟨stopped.sinks, stopped.saved⟩

theorem Recorder.Invariant.toggleAudioRecording {r : Recorder} (inv : r.Invariant)
    (available : Bool) (stamp : String) (fopens : List Bool) :
    (toggleAudioRecording available stamp fopens r).Invariant := by
  unfold ControlCenter.toggleAudioRecording
  split
  · exact ⟨inv.sinks, inv.saved⟩
  · split
    · exact inv.startAudioRecordingLocked stamp fopens
    · exact ⟨inv.stopAudioRecordingLocked.sinks, inv.stopAudioRecordingLocked.saved⟩

theorem Recorder.Invariant.audioInCb {r : Recorder} (inv : r.Invariant) {numSamples : Int}
    (positive : 0 < numSamples) (samples : List Bool) :
    (audioInCb numSamples samples r).Invariant := by
  unfold ControlCenter.audioInCb
  split
  · exact inv
  · exact ⟨writeAll_counts positive samples inv.sinks, inv.saved⟩

theorem Recorder.Invariant.apply {r : Recorder} (inv : r.Invariant) {e : AudioEvent}
    (positive : e.positive = true) : (e.apply r).Invariant := by
  cases e with
  | toggle available stamp fopens => exact inv.toggleAudioRecording available stamp fopens
  | audioIn numSamples samples =>
    exact inv.audioInCb (by simpa [AudioEvent.positive] using positive) samples

theorem Recorder.Invariant.run {r : Recorder} (inv : r.Invariant) (events : List AudioEvent)
    (positive : ∀ e ∈ events, e.positive = true) : (Recorder.run events r).Invariant := by
  induction events generalizing r with
  | nil => exact inv
  | cons e es ih =>
    exact ih (inv.apply (positive e (List.mem_cons_self _ _))) fun e mem =>
      positive e (List.mem_cons_of_mem _ mem)

theorem Recorder.idle_invariant : Recorder.idle.Invariant :=
  ⟨by simp [sinkSlots, Recorder.idle, SinkCounts], by simp [Recorder.idle]⟩

theorem wav_headers_state_sizes (events : List AudioEvent)
    (positive : ∀ e ∈ events, e.positive = true) :
    ∀ f ∈ (Recorder.run events Recorder.idle).saved,
      dataChunkSize f.header = min (f.appended % 2 ^ 64) (2 ^ 32 - 1) ∧
        riffChunkSize f.header = (dataChunkSize f.header + 36) % 2 ^ 32 :=
  (Recorder.idle_invariant.run events positive).saved

/-- Recording starts, one callback delivers `2^30` samples on the first microphone only, and
recording stops: `mic1.wav` holds `2^32` sample bytes. -/
def longRecording : List AudioEvent :=
  [.toggle true "t" [true, true, true, true, true], .audioIn (2 ^ 30) [true], .toggle true "t" []]

theorem long_recording_wraps_riff_size :
    (∀ e ∈ longRecording, e.positive = true) ∧
    ∃ f ∈ (Recorder.run longRecording Recorder.idle).saved, f.appended = 2 ^ 32 ∧
      dataChunkSize f.header = 2 ^ 32 - 1 ∧ riffChunkSize f.header = 35 := by
  have positive : ∀ e ∈ longRecording, e.positive = true := by decide
  obtain ⟨f, mem, appended⟩ : ∃ f ∈ (Recorder.run longRecording Recorder.idle).saved,
      f.appended = 2 ^ 32 := ⟨_, List.mem_cons_self _ _, rfl⟩
  obtain ⟨data, riff⟩ := wav_headers_state_sizes longRecording positive f mem
  rw [appended] at data
  exact ⟨positive, f, mem, appended, data, by rw [riff, data]; rfl⟩

end MacKinect.ControlCenter
