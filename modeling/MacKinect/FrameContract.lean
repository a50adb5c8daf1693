import MacKinect.FreenectV1.Frames
import MacKinect.FreenectV2.Frames

/-! The frame contract of `backend.h` over both adapters: the mailbox law getFrame keeps
and the data-model invariant of every frame it returns. -/
namespace MacKinect

open Mailbox

/-- The mailbox law of both adapters. Gen-2: getFrame returns exactly the pending write,
the frame of the last successful update() not yet taken. Gen-1: getFrame succeeds exactly
when a write is pending, and each buffer it returns holds the newest write of its kind over
the whole run, whether or not an earlier getFrame already took it. -/
theorem getFrame_mailbox :
    (∀ ops, (FreenectV2.getFrame (FreenectV2.run ops FreenectV2.opened)).2 =
      pending (FreenectV2.events ops FreenectV2.opened)) ∧
    ∀ audio ops, let history := FreenectV1.events ops (FreenectV1.opened audio)
      (FreenectV1.getFrame (FreenectV1.run ops (FreenectV1.opened audio))).2.isSome =
        (pending history).isSome ∧
      ∀ f, (FreenectV1.getFrame (FreenectV1.run ops (FreenectV1.opened audio))).2 = some f →
        f.rgb = FreenectV1.bufferOf (FreenectV1.kPixelCount * 3)
          (latest FreenectV1.Write.rgbSource history) ∧
        f.depth = FreenectV1.bufferOf FreenectV1.kPixelCount
          (latest FreenectV1.Write.depthSource history) ∧
        f.ir = FreenectV1.bufferOf FreenectV1.kPixelCount (latest FreenectV1.Write.irSource history) := by
  refine ⟨FreenectV2.getFrame_run, fun audio ops => ?_⟩
  rw [FreenectV1.getFrame_run]
  refine ⟨by cases pending _ <;> rfl, fun f returned => ?_⟩
  obtain ⟨_, -, rfl⟩ := Option.map_eq_some'.mp returned
  simp

/-- Gen-1: colour, a getFrame that takes it, then depth alone: the next getFrame returns the
colour buffer the previous one already took. -/
theorem stale_rgb_after_take (color : Nat → UInt8) (depth : Nat → UInt16) :
    let started : List FreenectV1.Op :=
      [.start ⟨true, true, ⟨true, true, true⟩, true, true, true⟩, .onVideoFrame (some color) 0]
    let d := FreenectV1.opened false
    (FreenectV1.getFrame (FreenectV1.run started d)).2.isSome = true ∧
      ∃ f, (FreenectV1.getFrame (FreenectV1.run (started ++ [.getFrame,
        .onDepthFrame (some depth) 1]) d)).2 = some f ∧
        f.rgb = copyOut (FreenectV1.kPixelCount * 3) color := by
  intro started d
  have before : FreenectV1.events started d = [.write (.rgb color 0)] := rfl
  have after : FreenectV1.events (started ++ [.getFrame, .onDepthFrame (some depth) 1]) d =
      [.write (.rgb color 0), .take, .write (.depth depth 1)] := rfl
  have newest : latest FreenectV1.Write.rgbSource
      [.write (.rgb color 0), .take, .write (.depth depth 1)] = some color := rfl
  rw [FreenectV1.getFrame_run, FreenectV1.getFrame_run, before, after]
  exact ⟨rfl, _, rfl, by rw [FreenectV1.slotFrame_rgb, newest]; rfl⟩

/-- Every frame either adapter's getFrame returns is well formed. A gen-2 frame carries exactly
one buffer, converted from one frame of a map some update() received, with that frame's
width, height and timestamp. -/
theorem returned_frames_well_formed :
    (∀ audio ops f, (FreenectV1.getFrame (FreenectV1.run ops (FreenectV1.opened audio))).2 = some f →
      f.WellFormed) ∧
    ∀ ops f, (FreenectV2.getFrame (FreenectV2.run ops FreenectV2.opened)).2 = some f →
      f.WellFormed ∧ f.buffers = 1 ∧
        ∃ pre m post, ops = pre ++ .update (some m) :: post ∧ FreenectV2.Published m f := by
  refine ⟨fun audio ops f returned => ?_, fun ops f returned => ?_⟩
  · rw [FreenectV1.getFrame_run] at returned
    obtain ⟨w, written, rfl⟩ := Option.map_eq_some'.mp returned
    exact FreenectV1.slotFrame_wellFormed _ written
  · obtain ⟨pre, m, post, split, published⟩ := FreenectV2.getFrame_run_published ops returned
    exact ⟨published.wellFormed.1, published.wellFormed.2, pre, m, post, split, published⟩

end MacKinect
