import Mathlib.Data.List.Basic
import MacKinect.Frame

/-! `SavePointCloudPly` and `CaptureFrameBundle` of control_center_v1.cpp. The header's
vertex count comes from a first pass over `depth.size()` samples with `d >= 350 && d <= 6000`,
the body from a second pass over the 640×480 grid that skips `d < 350 || d > 6000`. A file is
its list of lines. `freenect_camera_to_world`, as `out << wx` and `out << wy` print its
results, is libfreenect's registration and stays a parameter. -/
namespace MacKinect.ControlCenter

def kFrameWidth : Nat := 640
def kFrameHeight : Nat := 480
def kFramePixels : Nat := kFrameWidth * kFrameHeight
def kFrameRgbBytes : Nat := kFramePixels * 3

def plyHeader (validPoints : Nat) : List String :=
  ["ply", "format ascii 1.0", "element vertex " ++ toString validPoints, "property float x",
    "property float y", "property float z", "property uchar red", "property uchar green",
    "property uchar blue", "end_header"]

/-- One body line: `wx wy d r g b`. -/
def pointLine (world : String × String) (d : UInt16) (r g b : UInt8) : String :=
  world.1 ++ " " ++ world.2 ++ " " ++ toString d.toNat ++ " " ++ toString r.toNat ++ " " ++
    toString g.toNat ++ " " ++ toString b.toNat

/-- The body loop at pixel `(x, y)`: its line, or `none` where it `continue`s. -/
def bodyLine (cameraToWorld : Int → Int → UInt16 → String × String) (depth : List UInt16)
    (rgb : List UInt8) (y x : Nat) : Option String :=
  let index := y * kFrameWidth + x
  let d := depth.getD index 0
  if d < 350 || d > 6000 then none
  else some (pointLine (cameraToWorld x y d) d (rgb.getD (index * 3 + 0) 0)
    (rgb.getD (index * 3 + 1) 0) (rgb.getD (index * 3 + 2) 0))

/-- `SavePointCloudPly`: the lines of the file it writes (`none` when it writes none) and the
count it returns. `dev` is `g_dev != nullptr`, `opened` is `out.is_open()`. -/
def savePointCloudPly (dev opened : Bool) (cameraToWorld : Int → Int → UInt16 → String × String)
    (depth : List UInt16) (rgb : List UInt8) : Option (List String) × Nat :=
  if !dev then (none, 0)
  else
    let validPoints := (List.range depth.length).countP fun i =>
      depth.getD i 0 >= 350 && depth.getD i 0 <= 6000
    if !opened then (none, 0)
    else
      (some (plyHeader validPoints ++ (List.range kFrameHeight).flatMap fun y =>
        (List.range kFrameWidth).filterMap (bodyLine cameraToWorld depth rgb y)), validPoints)

/-- `CaptureFrameBundle` after its directory is made: the point-cloud file and the status
line. `fronts` holds `g_rgb_front` and `g_depth_mm_front` (`none` while one is null);
`colorOk` and `depthOk` are what `SaveColorPpm` and `SaveDepthPgm16` return. -/
def captureFrameBundle (dev opened colorOk depthOk : Bool)
    (cameraToWorld : Int → Int → UInt16 → String × String)
    (fronts : Option ((Nat → UInt8) × (Nat → UInt16))) (dir : String) :
    Option (List String) × String :=
  match fronts with
  | none => (none, "No frame buffers available to capture.")
  | some (rgbFront, depthMmFront) =>
    let rgb := copyOut kFrameRgbBytes rgbFront
    let depth := copyOut kFramePixels depthMmFront
    let saved := savePointCloudPly dev opened cameraToWorld depth rgb
    (saved.1, "Capture saved to " ++ dir ++ " (color=" ++ (if colorOk then "ok" else "fail") ++
      ", depth=" ++ (if depthOk then "ok" else "fail") ++ ", points=" ++ toString saved.2 ++ ")")

/-! ## The two passes agree -/

/-- The body's test is the negation of the header's. -/
theorem bodyTest_eq (d : UInt16) :
    (!(decide (d < 350) || decide (d > 6000))) = (decide (d ≥ 350) && decide (d ≤ 6000)) := by
  simp only [Bool.not_or, ← decide_not, UInt16.not_lt, ge_iff_le]

theorem filterMap_ite_some (p : α → Bool) (f : α → β) (l : List α) :
    l.filterMap (fun a => if p a then some (f a) else none) = (l.filter p).map f := by
  induction l with
  | nil => rfl
  | cons a l ih => cases pass : p a <;> simp [List.filter_cons, pass, ih]

/-- A nested loop over rows and columns visits `0, 1, …, h·w - 1` in order. -/
theorem flatMap_range_filterMap (h w : Nat) (positive : 0 < w) (g : Nat → Nat → Option β) :
    (List.range h).flatMap (fun y => (List.range w).filterMap (g y)) =
      (List.range (h * w)).filterMap fun i => g (i / w) (i % w) := by
  induction h with
  | zero => simp
  | succ h ih =>
    rw [List.range_succ, List.flatMap_append, ih, Nat.succ_mul, List.range_add,
      List.filterMap_append, List.flatMap_singleton, List.filterMap_map]
    congr 1
    refine List.filterMap_congr fun x mem => ?_
    have column : x < w := List.mem_range.1 mem
    simp only [Function.comp, Nat.mul_comm h w, Nat.mul_add_div positive,
      Nat.div_eq_of_lt column, Nat.add_zero, Nat.mul_add_mod, Nat.mod_eq_of_lt column]

/-- The points `SavePointCloudPly` writes for a full-frame depth buffer: one line per valid
sample, in index order, which for `index = y * 640 + x` is row-major order. -/
def pointLines (cameraToWorld : Int → Int → UInt16 → String × String) (depth : List UInt16)
    (rgb : List UInt8) : List String :=
  ((List.range kFramePixels).filter fun i => 350 ≤ depth.getD i 0 ∧ depth.getD i 0 ≤ 6000).map
    fun i => pointLine (cameraToWorld (i % kFrameWidth : Nat) (i / kFrameWidth : Nat)
      (depth.getD i 0)) (depth.getD i 0) (rgb.getD (3 * i) 0) (rgb.getD (3 * i + 1) 0)
      (rgb.getD (3 * i + 2) 0)

/-- On a full-frame depth buffer the header counts, and the function returns, the lines the
body writes. -/
theorem savePointCloudPly_full (cameraToWorld : Int → Int → UInt16 → String × String)
    {depth : List UInt16} (rgb : List UInt8) (depthSized : depth.length = kFramePixels) :
    savePointCloudPly true true cameraToWorld depth rgb =
      (some (plyHeader (pointLines cameraToWorld depth rgb).length ++
        pointLines cameraToWorld depth rgb), (pointLines cameraToWorld depth rgb).length) := by
  have lines : ((List.range kFrameHeight).flatMap fun y =>
      (List.range kFrameWidth).filterMap (bodyLine cameraToWorld depth rgb y)) =
      pointLines cameraToWorld depth rgb := by
    rw [flatMap_range_filterMap _ _ (by decide), Nat.mul_comm, ← kFramePixels, pointLines,
      ← filterMap_ite_some]
    refine List.filterMap_congr fun i _ => ?_
    simp only [bodyLine, Nat.div_add_mod', Nat.mul_comm i 3, Nat.add_zero]
    rw [← Bool.not_not (decide (depth.getD i 0 < 350) || _), bodyTest_eq]
    generalize depth.getD i 0 = d
    by_cases valid : 350 ≤ d ∧ d ≤ 6000 <;> simp [valid]
  have counted : ((List.range depth.length).countP fun i =>
      depth.getD i 0 >= 350 && depth.getD i 0 <= 6000) = (pointLines cameraToWorld depth rgb).length := by
    rw [depthSized, List.countP_eq_length_filter, pointLines, List.length_map]
    simp only [ge_iff_le, Bool.decide_and]
  simp only [savePointCloudPly, Bool.not_true, Bool.false_eq_true, if_false, lines, counted]

theorem point_cloud_agrees_with_header (cameraToWorld : Int → Int → UInt16 → String × String)
    (depth : List UInt16) (rgb : List UInt8) (depthSized : depth.length = kFramePixels)
    (rgbSized : rgb.length = kFrameRgbBytes) :
    let valid := (List.range kFramePixels).filter fun i =>
      350 ≤ depth.getD i 0 ∧ depth.getD i 0 ≤ 6000
    let line := fun i =>
      let world := cameraToWorld (i % kFrameWidth : Nat) (i / kFrameWidth : Nat) (depth.getD i 0)
      world.1 ++ " " ++ world.2 ++ " " ++ toString (depth.getD i 0).toNat ++ " " ++
        toString (rgb.getD (3 * i) 0).toNat ++ " " ++ toString (rgb.getD (3 * i + 1) 0).toNat ++
        " " ++ toString (rgb.getD (3 * i + 2) 0).toNat
    savePointCloudPly true true cameraToWorld depth rgb =
      (some (["ply", "format ascii 1.0", "element vertex " ++ toString valid.length,
        "property float x", "property float y", "property float z", "property uchar red",
        "property uchar green", "property uchar blue", "end_header"] ++ valid.map line),
        valid.length) ∧
      ∀ i < kFramePixels, i < depth.length ∧ 3 * i + 2 < rgb.length :=
  ⟨by simp only [savePointCloudPly_full cameraToWorld rgb depthSized, pointLines, plyHeader,
      pointLine, List.length_map], fun i below =>
    ⟨depthSized ▸ below, by simp only [rgbSized, kFrameRgbBytes]; omega⟩⟩

/-- A flat wall one metre away, seen in black. -/
theorem point_cloud_agrees_with_header_flat_wall :
    (List.replicate kFramePixels (1000 : UInt16)).length = kFramePixels ∧
    (List.replicate kFrameRgbBytes (0 : UInt8)).length = kFrameRgbBytes ∧
    (let depth := List.replicate kFramePixels (1000 : UInt16)
    let rgb := List.replicate kFrameRgbBytes (0 : UInt8)
    let cameraToWorld : Int → Int → UInt16 → String × String := fun _ _ _ => ("0", "0")
    let valid := (List.range kFramePixels).filter fun i =>
      350 ≤ depth.getD i 0 ∧ depth.getD i 0 ≤ 6000
    let line := fun i =>
      let world := cameraToWorld (i % kFrameWidth : Nat) (i / kFrameWidth : Nat) (depth.getD i 0)
      world.1 ++ " " ++ world.2 ++ " " ++ toString (depth.getD i 0).toNat ++ " " ++
        toString (rgb.getD (3 * i) 0).toNat ++ " " ++ toString (rgb.getD (3 * i + 1) 0).toNat ++
        " " ++ toString (rgb.getD (3 * i + 2) 0).toNat
    savePointCloudPly true true cameraToWorld depth rgb =
      (some (["ply", "format ascii 1.0", "element vertex " ++ toString valid.length,
        "property float x", "property float y", "property float z", "property uchar red",
        "property uchar green", "property uchar blue", "end_header"] ++ valid.map line),
        valid.length) ∧
      ∀ i < kFramePixels, i < depth.length ∧ 3 * i + 2 < rgb.length) :=
  ⟨List.length_replicate _ _, List.length_replicate _ _,
    point_cloud_agrees_with_header _ _ _ (List.length_replicate _ _) (List.length_replicate _ _)⟩

end MacKinect.ControlCenter
