import MacKinect.FreenectV2.Device

/-! What update() publishes and how getFrame hands it over: every published frame is one
converted libfreenect2 frame with that frame's dimensions and no other buffer, and the
device's slot is exactly the mailbox of its update and getFrame calls. -/
namespace MacKinect.FreenectV2

open Mailbox

/-- `f` is one frame of `frames` as update() publishes it: the converted buffer, that
frame's dimensions and timestamp, and no other buffer. -/
def Published (frames : FrameMap) (f : FrameData) : Prop :=
  (∃ c, frames.color = some c ∧ 0 < c.width * c.height ∧
    f = { rgb := colorData c, width := c.width, height := c.height, timestamp := c.timestamp }) ∨
  (∃ c, frames.ir = some c ∧ 0 < c.width * c.height ∧
    f = { ir := irData c, width := c.width, height := c.height, timestamp := c.timestamp }) ∨
  (∃ c, frames.depth = some c ∧ 0 < c.width * c.height ∧
    f = { depth := depthData c, width := c.width, height := c.height, timestamp := c.timestamp })

theorem assign_eq_some {put : FrameData → List α → FrameData} {c : Converted α}
    {next f : FrameData} (assigned : assign put c next = some f) :
    c.data ≠ [] ∧ 0 < c.width ∧ 0 < c.height ∧
      f = { put next c.data with width := c.width, height := c.height, timestamp := c.timestamp } := by
  unfold assign at assigned
  split at assigned
  · cases assigned
  · next valid =>
    simp only [List.isEmpty_iff, not_or] at valid
    obtain ⟨present, wide, high⟩ := valid
    exact ⟨present, by omega, by omega, (Option.some.inj assigned).symm⟩

/-- An assignment from a converted frame succeeds only on a frame with pixels, and then
carries that frame's own dimensions: the `int` copies of them are exact. -/
theorem assign_convert {put : FrameData → List α → FrameData} {samples : RawFrame α → List α}
    {channels : Nat} (length : ∀ frame, (samples frame).length = frame.width * frame.height * channels)
    {raw : Option (RawFrame α)} {f : FrameData} (assigned : assign put (convert samples raw) {} = some f) :
    ∃ c, raw = some c ∧ 0 < c.width * c.height ∧
      f = { put {} (samples c) with width := c.width, height := c.height, timestamp := c.timestamp } := by
  obtain ⟨present, wide, high, rfl⟩ := assign_eq_some assigned
  cases raw with
  | none => exact absurd rfl present
  | some c =>
    have pixels : 0 < c.width * c.height := by
      apply Nat.pos_of_ne_zero
      intro none
      exact present (List.eq_nil_of_length_eq_zero (by simp [convert, length, none]))
    have narrow : c.width < 2 ^ 31 := lt_of_le_of_lt (Nat.le_mul_of_pos_right _
      (Nat.pos_of_mul_pos_left pixels)) c.walkable
    have low : c.height < 2 ^ 31 := lt_of_le_of_lt (Nat.le_mul_of_pos_left _
      (Nat.pos_of_mul_pos_right pixels)) c.walkable
    exact ⟨c, rfl, pixels, by simp [convert, toInt_of_lt narrow, toInt_of_lt low]⟩

theorem length_colorData (c : RawFrame UInt8) : (colorData c).length = c.width * c.height * 3 := by
  simp [colorData]

theorem length_depthData (c : RawFrame UInt16) : (depthData c).length = c.width * c.height * 1 := by
  simp [depthData]

theorem length_irData (c : RawFrame UInt8) : (irData c).length = c.width * c.height * 1 := by
  simp [irData]

section Assemble

variable {frames : FrameMap} {f : FrameData}

theorem assignRgb_published (assigned : assignRgb (convert colorData frames.color) {} = some f) :
    Published frames f := by
  obtain ⟨c, present, pixels, rfl⟩ := assign_convert length_colorData assigned
  exact .inl ⟨c, present, pixels, rfl⟩

theorem assignIr_published (assigned : assignIr (convert irData frames.ir) {} = some f) :
    Published frames f := by
  obtain ⟨c, present, pixels, rfl⟩ := assign_convert length_irData assigned
  exact .inr (.inl ⟨c, present, pixels, rfl⟩)

theorem assignDepth_published (assigned : assignDepth (convert depthData frames.depth) {} = some f) :
    Published frames f := by
  obtain ⟨c, present, pixels, rfl⟩ := assign_convert length_depthData assigned
  exact .inr (.inr ⟨c, present, pixels, rfl⟩)

theorem orElse_eq_some {a b : Option FrameData} (chosen : (a <|> b) = some f) :
    a = some f ∨ b = some f := by
  cases a <;> simp_all [HOrElse.hOrElse, OrElse.orElse, Option.orElse]

/-- Whatever the selected kind, what update() publishes is one frame of the map. -/
theorem assemble_published (selected : StreamKind) (assembled : assemble selected frames = some f) :
    Published frames f := by
  unfold assemble at assembled
  rcases orElse_eq_some assembled with chosen | fallback
  · cases selected
    · exact assignRgb_published chosen
    · exact assignIr_published chosen
    · exact assignDepth_published chosen
  · rcases orElse_eq_some fallback with rgb | fallback
    · exact assignRgb_published rgb
    rcases orElse_eq_some fallback with ir | depth
    · exact assignIr_published ir
    · exact assignDepth_published depth

end Assemble

/-- A published frame is well formed and carries exactly one buffer. -/
theorem Published.wellFormed {frames : FrameMap} {f : FrameData} (published : Published frames f) :
    f.WellFormed ∧ f.buffers = 1 := by
  rcases published with ⟨c, -, pixels, rfl⟩ | ⟨c, -, pixels, rfl⟩ | ⟨c, -, pixels, rfl⟩ <;>
  · have wide := Nat.pos_of_mul_pos_right pixels
    have high := Nat.pos_of_mul_pos_left pixels
    refine ⟨⟨by simpa using wide, by simpa using high, ?_, ?_, ?_⟩, ?_⟩ <;>
      simp [FrameData.buffers, colorData, depthData, irData, Nat.pos_iff_ne_zero.mp pixels, wide.ne',
        high.ne', Nat.mul_ne_zero (Nat.pos_iff_ne_zero.mp pixels) (by decide : (3 : Nat) ≠ 0)]

/-- update() either published a frame of the map it got, or changed nothing. -/
theorem update_cases (frames : Option FrameMap) (d : Device) :
    (∃ m f, frames = some m ∧ assemble d.selectedStream m = some f ∧
      update frames d = ({ d with frame := f, hasNewFrame := true }, true)) ∨
    update frames d = (d, false) := by
  unfold update
  split
  · exact .inr rfl
  split
  · exact .inr rfl
  next m =>
  split
  · next f assembled => exact .inl ⟨m, f, rfl, assembled, rfl⟩
  · exact .inr rfl

/-- The device's slot is the mailbox of `history`. -/
def SlotMatches (d : Device) (history : List (Event FrameData)) : Prop :=
  pending history = if d.hasNewFrame then some d.frame else none

theorem SlotMatches.congr {d e : Device} {history : List (Event FrameData)}
    (slot : SlotMatches d history) (frame : e.frame = d.frame) (fresh : e.hasNewFrame = d.hasNewFrame) :
    SlotMatches e (history ++ []) := by
  simpa [SlotMatches, frame, fresh] using slot

theorem Op.apply_slotMatches {d : Device} {history : List (Event FrameData)}
    (slot : SlotMatches d history) (op : Op) :
    SlotMatches (op.apply d) (history ++ op.events d) := by
  cases op with
  | start ok =>
    simp only [Op.apply, FreenectV2.start]
    split_ifs <;> exact slot.congr rfl rfl
  | stop =>
    simp only [Op.apply, FreenectV2.stop]
    split_ifs <;> exact slot.congr rfl rfl
  | setStreamKind kind => exact slot.congr rfl rfl
  | update frames =>
    simp only [Op.apply, Op.events]
    rcases update_cases frames d with ⟨m, f, -, -, published⟩ | unchanged
    · simp [published, SlotMatches]
    · simpa [unchanged] using slot
  | getFrame =>
    simp only [Op.apply, Op.events, FreenectV2.getFrame, SlotMatches, pending_take]
    split <;> simp_all

theorem run_slotMatches {d : Device} {history : List (Event FrameData)}
    (slot : SlotMatches d history) (ops : List Op) :
    SlotMatches (run ops d) (history ++ events ops d) := by
  induction ops generalizing d history with
  | nil => simpa [run, events] using slot
  | cons op ops ih => simpa [run, events] using ih (Op.apply_slotMatches slot op)

/-- getFrame after any run returns the mailbox's pending frame. -/
theorem getFrame_run (ops : List Op) : (getFrame (run ops opened)).2 = pending (events ops opened) := by
  have slot : SlotMatches (run ops opened) (events ops opened) := by
    simpa using run_slotMatches (show SlotMatches opened [] from rfl) ops
  rw [slot]
  unfold getFrame
  split <;> simp_all

/-- Every frame written into the slot is what some update() of the run assembled. -/
theorem assembled_of_mem_events {f : FrameData} (ops : List Op) (d : Device)
    (mem : .write f ∈ events ops d) :
    ∃ pre m post, ops = pre ++ .update (some m) :: post ∧
      assemble (run pre d).selectedStream m = some f := by
  induction ops generalizing d with
  | nil => cases mem
  | cons o os ih =>
    simp only [events, List.mem_append] at mem
    rcases mem with here | later
    · cases o with
      | update frames =>
        rcases update_cases frames d with ⟨m, g, rfl, assembled, published⟩ | unchanged
        · simp only [Op.events, published, if_true, List.mem_singleton, Event.write.injEq] at here
          exact ⟨[], m, os, rfl, here ▸ assembled⟩
        · simp [Op.events, unchanged] at here
      | _ => simp [Op.events] at here
    · obtain ⟨pre, m, post, rfl, assembled⟩ := ih _ later
      exact ⟨o :: pre, m, post, rfl, assembled⟩

/-- A frame getFrame returns is one frame of a map some update() of the run received. -/
theorem getFrame_run_published (ops : List Op) {f : FrameData}
    (returned : (getFrame (run ops opened)).2 = some f) :
    ∃ pre m post, ops = pre ++ .update (some m) :: post ∧ Published m f := by
  rw [getFrame_run] at returned
  obtain ⟨pre, m, post, split, assembled⟩ := assembled_of_mem_events ops opened (mem_of_pending returned)
  exact ⟨pre, m, post, split, assemble_published _ assembled⟩

end MacKinect.FreenectV2
