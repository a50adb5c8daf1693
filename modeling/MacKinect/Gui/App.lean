import MacKinect.Previews
import MacKinect.FreenectV1.Frames
import MacKinect.FreenectV2.Frames
import MacKinect.CInt

/-! The preview window of `gui/app.cpp`: RunGuiApp picks a device, GLUT calls Idle, which
uploads the colour buffer and a grey view of the depth buffer of the frame getFrame hands over,
and Display draws the textures. Texture names are inputs; each glTexImage2D is recorded with
the buffer it reads. -/
namespace MacKinect.Gui

open Cli (ProbeResult)
open FreenectV1 (DeviceInfo)

/-! ## Idle -/

/-- One `glTexImage2D` of UpdateTexture: a `GL_RGB` image of `width × height` read from
`pixels`. -/
structure Upload where
  texture : Nat
  width : Int
  height : Int
  pixels : List UInt8
  deriving DecidableEq, Repr

structure App where
  rgbTex : Nat := 0
  depthTex : Nat := 0
  depthBufferVisual : List UInt8 := []
  uploads : List Upload := []
  redisplays : Nat := 0
  deriving DecidableEq, Repr

/-- The bytes glTexImage2D reads for a `GL_RGB`, `GL_UNSIGNED_BYTE` image under the default
`GL_UNPACK_ALIGNMENT` of 4, which app.cpp never changes: every row but the last is padded to
a multiple of 4 bytes. -/
def glReadLength (width height : Int) : Int :=
  if width ≤ 0 ∨ height ≤ 0 then 0 else (height - 1) * ((3 * width + 3) / 4 * 4) + 3 * width

/-- UpdateTexture; `none` when OpenGL would read past the end of `data`. -/
def updateTexture (texture : Nat) (width height : Int) (data : List UInt8) (app : App) :
    Option App :=
  if (data.length : Int) < glReadLength width height then none
  else some { app with uploads := app.uploads ++ [⟨texture, width, height, data⟩] }

def resize (buffer : List UInt8) (n : Nat) : List UInt8 :=
  buffer.take n ++ List.replicate (n - buffer.length) 0

/-- `static_cast<uint8_t>(d / 16)`, meant to scale 0–4000 mm to 0–255. -/
def grey (d : UInt16) : UInt8 := UInt8.ofNat (d.toNat / 16)

/-- One pass of the depth loop: `depth[i]` (`none` past the end of the buffer) written as
three bytes from `i*3`. -/
def depthPixel (depth : List UInt16) (buffer : List UInt8) (i : Nat) : Option (List UInt8) :=
  depth[i]?.map fun d => ((buffer.set (i * 3) (grey d)).set (i * 3 + 1) (grey d)).set (i * 3 + 2) (grey d)

def depthVisual (depth : List UInt16) (pixelCount : Nat) (buffer : List UInt8) :
    Option (List UInt8) :=
  let buffer := if buffer.length ≠ pixelCount * 3 then resize buffer (pixelCount * 3) else buffer
  (List.range pixelCount).foldlM (depthPixel depth) buffer

def showRgb (name : Nat) (frame : FrameData) (app : App) : Option App :=
  if frame.rgb.isEmpty then some app else
  let texture := if app.rgbTex = 0 then name else app.rgbTex
  updateTexture texture frame.width frame.height frame.rgb { app with rgbTex := texture }

/-- The depth half of Idle: `pixel_count` is the `int` product of the dimensions as a
`size_t`. -/
def showDepth (name : Nat) (frame : FrameData) (app : App) : Option App :=
  if frame.depth.isEmpty then some app else
  let texture := if app.depthTex = 0 then name else app.depthTex
  let pixelCount := unsignedOf 64 (int32 (frame.width * frame.height))
  (depthVisual frame.depth pixelCount app.depthBufferVisual).bind fun visual =>
    updateTexture texture frame.width frame.height visual
      { app with depthTex := texture, depthBufferVisual := visual }

/-- Idle's use of the frame getFrame handed over, if any; `names` are the texture names
glGenTextures returns for the colour and the depth view. -/
def idle (names : Nat × Nat) : Option FrameData → App → Option App
  | none, app => some app
  | some frame, app => do
    let app ← showRgb names.1 frame app
    let app ← showDepth names.2 frame app
    pure { app with redisplays := app.redisplays + 1 }

def idleV2 (names : Nat × Nat) (frames : Option FreenectV2.FrameMap)
    (s : App × FreenectV2.Device) : Option (App × FreenectV2.Device) :=
  let (d, frame) := FreenectV2.getFrame s.2
  (idle names frame s.1).map fun app => (app, (FreenectV2.update frames d).1)

def idleV1 (names : Nat × Nat) (t : FreenectV1.Turn) (s : App × FreenectV1.Device) :
    Option (App × FreenectV1.Device) :=
  let (d, frame) := FreenectV1.getFrame s.2
  (idle names frame s.1).map fun app =>
    (app, t.callbacks.foldl (fun d c => c.apply d) (FreenectV1.update t.update d).1)

def display (app : App) : List Nat :=
  (if app.rgbTex = 0 then [] else [app.rgbTex]) ++ (if app.depthTex = 0 then [] else [app.depthTex])

/-! ## RunGuiApp -/

/-- What RunGuiApp asks of a backend: its probe, its devices, and whether openDevice of the
first one's serial returns a device. -/
structure Backend where
  probe : ProbeResult
  devices : List DeviceInfo
  opens : Bool

/-- glGenTextures' names for the colour and depth views, and Idle called once per map (or
timeout) a Kinect v2 device's update() waits on. -/
def mainLoopV2 (names : Nat × Nat) (waits : List (Option FreenectV2.FrameMap))
    (s : App × FreenectV2.Device) : Option (App × FreenectV2.Device) :=
  waits.foldlM (fun s frames => idleV2 names frames s) s

def mainLoopV1 (names : Nat × Nat) (turns : List FreenectV1.Turn) (s : App × FreenectV1.Device) :
    Option (App × FreenectV1.Device) :=
  turns.foldlM (fun s t => idleV1 names t s) s

/-! ## The depth view -/

def view (depth : List UInt16) : List UInt8 := depth.flatMap fun d => [grey d, grey d, grey d]

@[simp] theorem view_nil : view [] = [] := rfl

@[simp] theorem view_cons (d : UInt16) (depth : List UInt16) :
    view (d :: depth) = grey d :: grey d :: grey d :: view depth := rfl

@[simp] theorem view_append (left right : List UInt16) : view (left ++ right) = view left ++ view right := by
  simp [view]

@[simp] theorem length_view (depth : List UInt16) : (view depth).length = depth.length * 3 := by
  induction depth with
  | nil => rfl
  | cons d depth ih => simp [ih]; omega

theorem depthPixel_append {depth : List UInt16} {i : Nat} {d : UInt16} (sample : depth[i]? = some d)
    {pre : List UInt8} (length : pre.length = i * 3) (x y z : UInt8) (rest : List UInt8) :
    depthPixel depth (pre ++ x :: y :: z :: rest) i = some (pre ++ [grey d, grey d, grey d] ++ rest) := by
  rw [depthPixel, sample, Option.map_some', List.set_append_right _ _ length.le,
    List.set_append_right _ _ (by omega), List.set_append_right _ _ (by omega)]
  simp [length]

theorem foldlM_depthPixel {depth : List UInt16} {n : Nat} {buffer : List UInt8}
    (sized : buffer.length = n * 3) {i : Nat} (done : i ≤ n) (read : i ≤ depth.length) :
    (List.range i).foldlM (depthPixel depth) buffer = some (view (depth.take i) ++ buffer.drop (i * 3)) := by
  induction i with
  | zero => rfl
  | succ i ih =>
    have inside : i < depth.length := by omega
    rw [List.range_succ, List.foldlM_append, ih (by omega) (by omega),
      List.drop_eq_getElem_cons (by omega : i * 3 < buffer.length),
      List.drop_eq_getElem_cons (by omega : i * 3 + 1 < buffer.length),
      List.drop_eq_getElem_cons (by omega : i * 3 + 1 + 1 < buffer.length)]
    simp only [Option.bind_eq_bind, Option.some_bind, List.foldlM_cons, List.foldlM_nil]
    rw [depthPixel_append (List.getElem?_eq_getElem inside) (by simp; omega), List.take_succ,
      List.getElem?_eq_getElem inside, Option.toList_some, view_append, view_cons, view_nil,
      show (i + 1) * 3 = i * 3 + 1 + 1 + 1 by omega]
    simp

theorem depthVisual_eq (depth : List UInt16) (n : Nat) (buffer : List UInt8) :
    depthVisual depth n buffer = if n ≤ depth.length then some (view (depth.take n)) else none := by
  have sized : (if buffer.length ≠ n * 3 then resize buffer (n * 3) else buffer).length = n * 3 := by
    split
    · simp [resize]; omega
    · omega
  unfold depthVisual
  dsimp only
  generalize (if buffer.length ≠ n * 3 then resize buffer (n * 3) else buffer) = start at sized
  split
  · next read =>
    rw [foldlM_depthPixel sized le_rfl read, List.drop_eq_nil_of_le (by omega), List.append_nil]
  · next short =>
    obtain ⟨k, rfl⟩ : ∃ k, n = depth.length + 1 + k := ⟨n - depth.length - 1, by omega⟩
    rw [List.range_add, List.range_succ, List.foldlM_append, List.foldlM_append,
      foldlM_depthPixel sized (by omega) le_rfl]
    simp [depthPixel]

/-! ## What Idle shows -/

/-- A frame Idle can show: well formed, with fewer than 2^31 pixels (the `int` product of its
dimensions is exact), and, when it has a colour or depth buffer, rows of a multiple of 4
pixels (OpenGL's row padding then adds nothing). -/
structure Displayable (f : FrameData) : Prop where
  wellFormed : f.WellFormed
  walkable : f.width * f.height < 2 ^ 31
  aligned : f.rgb ≠ [] ∨ f.depth ≠ [] → f.width % 4 = 0

/-- An upload shows `f` when it is `f`'s colour buffer, or the grey view of its depth buffer,
at `f`'s size. -/
def Upload.Shows (f : FrameData) (u : Upload) : Prop :=
  u.width = f.width ∧ u.height = f.height ∧
    (f.rgb ≠ [] ∧ u.pixels = f.rgb ∨ f.depth ≠ [] ∧ u.pixels = view f.depth)

theorem glReadLength_aligned {width height : Int} (wide : 0 < width) (high : 0 < height)
    (aligned : width % 4 = 0) : glReadLength width height = width * height * 3 := by
  rw [glReadLength, if_neg (by omega), show (3 * width + 3) / 4 * 4 = 3 * width by omega,
    Int.sub_mul, Int.one_mul, Int.sub_add_cancel]
  ac_rfl

theorem updateTexture_fits (texture : Nat) {width height : Int} {data : List UInt8}
    (fits : glReadLength width height ≤ data.length) (app : App) :
    updateTexture texture width height data app =
      some { app with uploads := app.uploads ++ [⟨texture, width, height, data⟩] } := by
  rw [updateTexture, if_neg (Int.not_lt.mpr fits)]

theorem showRgb_displayable (name : Nat) {f : FrameData} (shown : Displayable f) (app : App) :
    ∃ app', showRgb name f app = some app' ∧ app'.depthTex = app.depthTex ∧
      app'.depthBufferVisual = app.depthBufferVisual ∧
      ∀ u ∈ app'.uploads, u ∈ app.uploads ∨ u.Shows f := by
  obtain ⟨⟨wide, high, rgb, -, -⟩, -, aligned⟩ := shown
  unfold showRgb
  by_cases empty : f.rgb = []
  · exact ⟨app, by simp [empty], rfl, rfl, fun u mem => .inl mem⟩
  rw [if_neg (by simpa using empty), updateTexture_fits _
    (show glReadLength f.width f.height ≤ f.rgb.length from
      Int.le_of_eq (by rw [glReadLength_aligned wide high (aligned (.inl empty)), rgb empty]))]
  refine ⟨_, rfl, rfl, rfl, fun u mem => ?_⟩
  rcases List.mem_append.mp mem with old | new
  · exact .inl old
  · rw [List.mem_singleton.mp new]
    exact .inr ⟨rfl, rfl, .inl ⟨empty, rfl⟩⟩

theorem showDepth_displayable (name : Nat) {f : FrameData} (shown : Displayable f) (app : App) :
    ∃ app', showDepth name f app = some app' ∧
      (f.depth = [] → app'.depthTex = app.depthTex ∧ app'.depthBufferVisual = app.depthBufferVisual) ∧
      ∀ u ∈ app'.uploads, u ∈ app.uploads ∨ u.Shows f := by
  obtain ⟨⟨wide, high, -, depth, -⟩, walkable, aligned⟩ := shown
  unfold showDepth
  by_cases empty : f.depth = []
  · exact ⟨app, by simp [empty], fun _ => ⟨rfl, rfl⟩, fun u mem => .inl mem⟩
  have pixels : unsignedOf 64 (int32 (f.width * f.height)) = f.depth.length := by
    have pos : 0 < f.width * f.height := Int.mul_pos wide high
    rw [int32_of_fits (by omega) walkable, unsignedOf_of_fits (Int.le_of_lt pos) (by omega),
      ← depth empty]
    rfl
  rw [if_neg (by simpa using empty), pixels]
  dsimp only
  rw [depthVisual_eq, if_pos le_rfl, List.take_length,
    Option.some_bind, updateTexture_fits _
      (by rw [glReadLength_aligned wide high (aligned (.inr empty)), length_view, ← depth empty]; omega)]
  refine ⟨_, rfl, fun absent => absurd absent empty, fun u mem => ?_⟩
  rcases List.mem_append.mp mem with old | new
  · exact .inl old
  · rw [List.mem_singleton.mp new]
    exact .inr ⟨rfl, rfl, .inr ⟨empty, rfl⟩⟩

/-- On a frame it can show, Idle reads inside every buffer, and each texture it uploads shows
the frame; a frame without depth leaves the depth view as it was. -/
theorem idle_displayable (names : Nat × Nat) {f : FrameData} (shown : Displayable f) (app : App) :
    ∃ app', idle names (some f) app = some app' ∧
      (f.depth = [] → app'.depthTex = app.depthTex ∧ app'.depthBufferVisual = app.depthBufferVisual) ∧
      ∀ u ∈ app'.uploads, u ∈ app.uploads ∨ u.Shows f := by
  obtain ⟨colour, coloured, keptTex, keptVisual, colourUploads⟩ := showRgb_displayable names.1 shown app
  obtain ⟨both, shownBoth, keptDepth, bothUploads⟩ := showDepth_displayable names.2 shown colour
  refine ⟨{ both with redisplays := both.redisplays + 1 }, by simp [idle, coloured, shownBoth],
    fun absent => ?_, fun u mem => ?_⟩
  · obtain ⟨tex, visual⟩ := keptDepth absent
    exact ⟨tex.trans keptTex, visual.trans keptVisual⟩
  · rcases bothUploads u mem with earlier | showing
    · exact colourUploads u earlier
    · exact .inr showing

/-! ## Over a Kinect v2 device -/

section V2

open FreenectV2 (FrameMap assemble)

/-- A map whose colour and depth frames have rows of a multiple of 4 pixels, as libfreenect2's
colour (1920) and depth (512) frames do. -/
def AlignedMap (m : FrameMap) : Prop :=
  (∀ c ∈ m.color, c.width % 4 = 0) ∧ ∀ c ∈ m.depth, c.width % 4 = 0

theorem displayable_of_published {m : FrameMap} {f : FrameData}
    (published : FreenectV2.Published m f) (aligned : AlignedMap m) : Displayable f := by
  have wellFormed := published.wellFormed.1
  rcases published with ⟨c, present, -, rfl⟩ | ⟨c, -, -, rfl⟩ | ⟨c, present, -, rfl⟩ <;>
    refine ⟨wellFormed, show (c.width : Int) * c.height < 2 ^ 31 by exact_mod_cast c.walkable, ?_⟩
  · intro
    show (c.width : Int) % 4 = 0
    have row := aligned.1 c present
    omega
  · intro absent
    simp at absent
  · intro
    show (c.width : Int) % 4 = 0
    have row := aligned.2 c present
    omega

variable {waits : List (Option FrameMap)}

/-- A Kinect v2 device as the GUI drives it: colour selected, which the GUI never changes, and
a pending frame that update() assembled from one of the maps of the run. -/
structure V2Holds (waits : List (Option FrameMap)) (d : FreenectV2.Device) : Prop where
  selected : d.selectedStream = .kRgb
  pending : d.hasNewFrame → ∃ m, some m ∈ waits ∧ assemble .kRgb m = some d.frame

theorem V2Holds.started (ok : Bool) : V2Holds waits (FreenectV2.start ok FreenectV2.opened).1 := by
  cases ok <;> exact ⟨rfl, nofun⟩

theorem V2Holds.getFrame {d : FreenectV2.Device} (holds : V2Holds waits d) :
    V2Holds waits (FreenectV2.getFrame d).1 ∧ ∀ f, (FreenectV2.getFrame d).2 = some f →
      ∃ m, some m ∈ waits ∧ assemble .kRgb m = some f := by
  unfold FreenectV2.getFrame
  by_cases fresh : d.hasNewFrame
  · rw [if_pos fresh]
    exact ⟨⟨holds.selected, nofun⟩, fun f taken => Option.some.inj taken ▸ holds.pending fresh⟩
  · rw [if_neg fresh]
    exact ⟨holds, nofun⟩

theorem V2Holds.update {d : FreenectV2.Device} (holds : V2Holds waits d) {frames : Option FrameMap}
    (received : frames ∈ waits) : V2Holds waits (FreenectV2.update frames d).1 := by
  rcases FreenectV2.update_cases frames d with ⟨m, f, rfl, assembled, updated⟩ | unchanged
  · rw [updated]
    exact ⟨holds.selected, fun _ => ⟨m, received, holds.selected ▸ assembled⟩⟩
  · rw [unchanged]
    exact holds

def V2Shown (waits : List (Option FrameMap)) (app : App) : Prop :=
  ∀ u ∈ app.uploads, ∃ m f, some m ∈ waits ∧ assemble .kRgb m = some f ∧ u.Shows f

def App.DepthBlank (app : App) : Prop := app.depthTex = 0 ∧ app.depthBufferVisual = []

theorem depth_nil_of_hasColor {m : FrameMap} {f : FrameData} (assembled : assemble .kRgb m = some f)
    (colour : m.hasColor) : f.depth = [] := by
  have counted := FreenectV2.assemble_kRgb_counted m
  rw [assembled] at counted
  have depthless : (!f.depth.isEmpty) = false := by
    rw [(Prod.mk.inj counted).2, FreenectV2.FrameMap.onlyDepth, colour]
    rfl
  simpa using depthless

theorem idleV2_step (names : Nat × Nat) (aligned : ∀ m, some m ∈ waits → AlignedMap m)
    {app : App} {d : FreenectV2.Device} (holds : V2Holds waits d) (shown : V2Shown waits app)
    {frames : Option FrameMap} (received : frames ∈ waits) :
    ∃ app' d', idleV2 names frames (app, d) = some (app', d') ∧ V2Holds waits d' ∧
      V2Shown waits app' ∧ ((∀ m, some m ∈ waits → m.hasColor) → app.DepthBlank → app'.DepthBlank) := by
  obtain ⟨taken, handed⟩ := holds.getFrame
  unfold idleV2
  generalize FreenectV2.getFrame d = got at taken handed
  obtain ⟨d, frame⟩ := got
  cases frame with
  | none => exact ⟨app, _, rfl, taken.update received, shown, fun _ blank => blank⟩
  | some f =>
    obtain ⟨m, mem, assembled⟩ := handed f rfl
    have showable := displayable_of_published (FreenectV2.assemble_published _ assembled) (aligned m mem)
    obtain ⟨app', idled, kept, uploads⟩ := idle_displayable names showable app
    refine ⟨app', _, by show (idle names (some f) app).map _ = _; rw [idled]; rfl,
      taken.update received, fun u fresh => ?_,
      fun colour blank => ?_⟩
    · rcases uploads u fresh with old | showing
      · exact shown u old
      · exact ⟨m, f, mem, assembled, showing⟩
    · obtain ⟨tex, visual⟩ := kept (depth_nil_of_hasColor assembled (colour m mem))
      exact ⟨tex.trans blank.1, visual.trans blank.2⟩

theorem mainLoopV2_spec (names : Nat × Nat) (aligned : ∀ m, some m ∈ waits → AlignedMap m)
    (rest : List (Option FrameMap)) (within : ∀ frames ∈ rest, frames ∈ waits) {app : App}
    {d : FreenectV2.Device} (holds : V2Holds waits d) (shown : V2Shown waits app) :
    ∃ app' d', mainLoopV2 names rest (app, d) = some (app', d') ∧ V2Shown waits app' ∧
      ((∀ m, some m ∈ waits → m.hasColor) → app.DepthBlank → app'.DepthBlank) := by
  induction rest generalizing app d with
  | nil => exact ⟨app, d, rfl, shown, fun _ blank => blank⟩
  | cons frames rest ih =>
    obtain ⟨app₁, d₁, idled, holds₁, shown₁, blank₁⟩ :=
      idleV2_step names aligned holds shown (within frames (List.mem_cons_self _ _))
    obtain ⟨app₂, d₂, looped, shown₂, blank₂⟩ :=
      ih (fun x mem => within x (List.mem_cons_of_mem _ mem)) holds₁ shown₁
    refine ⟨app₂, d₂, ?_, shown₂, fun colour blank => blank₂ colour (blank₁ colour blank)⟩
    rw [mainLoopV2, List.foldlM_cons, idled]
    exact looped

/-- The GUI over a Kinect v2 device, whatever `start()` answered and whatever maps its
update() waits on: Idle never reads past a buffer, and every texture it uploads is a frame
update() assembled from one of the maps, its colour buffer or the grey view of its depth
buffer, at that frame's size. Colour is selected and assembled first, so while every map
has a colour frame the depth view is never drawn. -/
theorem gui_v2_shows_frames (names : Nat × Nat) (ok : Bool) (waits : List (Option FrameMap))
    (aligned : ∀ m, some m ∈ waits → AlignedMap m) :
    ∃ app d, mainLoopV2 names waits ({}, (FreenectV2.start ok FreenectV2.opened).1) = some (app, d) ∧
      V2Shown waits app ∧ ((∀ m, some m ∈ waits → m.hasColor) →
        app.DepthBlank ∧ display app = if app.rgbTex = 0 then [] else [app.rgbTex]) := by
  obtain ⟨app, d, looped, shown, blank⟩ :=
    mainLoopV2_spec names aligned waits (fun _ => id) (V2Holds.started ok)
      (show V2Shown waits {} from nofun)
  refine ⟨app, d, looped, shown, fun colour => ⟨blank colour ⟨rfl, rfl⟩, ?_⟩⟩
  rw [display, if_pos (blank colour ⟨rfl, rfl⟩).1, List.append_nil]

theorem gui_v2_shows_frames_one_colour_map :
    let m : FrameMap := ⟨some ⟨4, 1, 0, fun _ => 0, by decide⟩, none, none⟩
    (∀ x, some x ∈ [some m] → AlignedMap x) ∧
      ∃ app d, mainLoopV2 (1, 2) [some m] ({}, (FreenectV2.start true FreenectV2.opened).1) =
        some (app, d) ∧ V2Shown [some m] app ∧ ((∀ x, some x ∈ [some m] → x.hasColor) →
          app.DepthBlank ∧ display app = if app.rgbTex = 0 then [] else [app.rgbTex]) :=
  have aligned : ∀ x, some x ∈ [some (⟨some ⟨4, 1, 0, fun _ => 0, by decide⟩, none, none⟩ : FrameMap)] →
      AlignedMap x := by
    intro x mem
    simp only [List.mem_singleton, Option.some.injEq] at mem
    subst mem
    exact ⟨fun c present => by cases present; rfl, nofun⟩
  ⟨aligned, gui_v2_shows_frames (1, 2) true _ aligned⟩

end V2

/-! ## Over a Kinect v1 device -/

section V1

open FreenectV1 (Turn Callback)

theorem runV1_append (ops ops' : List FreenectV1.Op) (d : FreenectV1.Device) :
    FreenectV1.run (ops ++ ops') d = FreenectV1.run ops' (FreenectV1.run ops d) := by
  induction ops generalizing d with
  | nil => rfl
  | cons op ops ih => exact ih _

def callbackOp : Callback → FreenectV1.Op
  | .depth samples timestamp => .onDepthFrame samples timestamp
  | .video samples timestamp => .onVideoFrame samples timestamp

theorem foldl_callbacks (callbacks : List Callback) (d : FreenectV1.Device) :
    callbacks.foldl (fun d c => c.apply d) d = FreenectV1.run (callbacks.map callbackOp) d := by
  induction callbacks generalizing d with
  | nil => rfl
  | cons c callbacks ih =>
    rw [List.foldl_cons, ih]
    cases c <;> rfl

theorem displayable_of_v1 {audio : Bool} {ops : List FreenectV1.Op} {f : FrameData}
    (returned : (FreenectV1.getFrame (FreenectV1.run ops (FreenectV1.opened audio))).2 = some f) :
    Displayable f ∧ f.width = FreenectV1.kWidth ∧ f.height = FreenectV1.kHeight := by
  rw [FreenectV1.getFrame_run] at returned
  obtain ⟨_, written, rfl⟩ := Option.map_eq_some'.mp returned
  obtain ⟨wide, high⟩ := FreenectV1.slotFrame_header _ written
  refine ⟨⟨FreenectV1.slotFrame_wellFormed _ written, ?_, fun _ => ?_⟩, wide, high⟩
  · rw [wide, high]
    decide
  · rw [wide]
    decide

def V1Shown (audio : Bool) (app : App) : Prop :=
  ∀ u ∈ app.uploads, ∃ ops f,
    (FreenectV1.getFrame (FreenectV1.run ops (FreenectV1.opened audio))).2 = some f ∧ u.Shows f

theorem idleV1_step (names : Nat × Nat) (t : Turn) {audio : Bool} {app : App}
    (ops : List FreenectV1.Op) (shown : V1Shown audio app) :
    ∃ app' ops', idleV1 names t (app, FreenectV1.run ops (FreenectV1.opened audio)) =
      some (app', FreenectV1.run ops' (FreenectV1.opened audio)) ∧ V1Shown audio app' := by
  have after : ∀ frame : Option FrameData, ∀ app',
      (FreenectV1.getFrame (FreenectV1.run ops (FreenectV1.opened audio))).2 = frame →
      idle names frame app = some app' →
      idleV1 names t (app, FreenectV1.run ops (FreenectV1.opened audio)) =
        some (app', FreenectV1.run (ops ++ [.getFrame, .update t.update] ++
          t.callbacks.map callbackOp) (FreenectV1.opened audio)) := by
    intro frame app' got idled
    rw [runV1_append, runV1_append, ← foldl_callbacks]
    show Option.map _ (idle names (FreenectV1.getFrame _).2 app) = some (app', List.foldl _
      (FreenectV1.update t.update (FreenectV1.getFrame _).1).1 t.callbacks)
    rw [got, idled]
    rfl
  cases returned : (FreenectV1.getFrame (FreenectV1.run ops (FreenectV1.opened audio))).2 with
  | none => exact ⟨app, _, after none app returned rfl, shown⟩
  | some f =>
    obtain ⟨app', idled, -, uploads⟩ := idle_displayable names (displayable_of_v1 returned).1 app
    refine ⟨app', _, after (some f) app' returned idled, fun u fresh => ?_⟩
    rcases uploads u fresh with old | showing
    · exact shown u old
    · exact ⟨ops, f, returned, showing⟩

theorem mainLoopV1_spec (names : Nat × Nat) (audio : Bool) (turns : List Turn) {app : App}
    (ops : List FreenectV1.Op) (shown : V1Shown audio app) :
    ∃ app' d', mainLoopV1 names turns (app, FreenectV1.run ops (FreenectV1.opened audio)) =
      some (app', d') ∧ V1Shown audio app' := by
  induction turns generalizing app ops with
  | nil => exact ⟨app, _, rfl, shown⟩
  | cons t turns ih =>
    obtain ⟨app₁, ops₁, idled, shown₁⟩ := idleV1_step names t ops shown
    obtain ⟨app₂, d₂, looped, shown₂⟩ := ih ops₁ shown₁
    refine ⟨app₂, d₂, ?_, shown₂⟩
    rw [mainLoopV1, List.foldlM_cons, idled]
    exact looped

/-- The GUI over a Kinect v1 device, whatever its start-up and the driver answered and
whatever callbacks ran: Idle never reads past a buffer, and every texture it uploads is
640 × 480, the colour buffer or the grey depth view of a frame the device handed over. -/
theorem gui_v1_shows_frames (names : Nat × Nat) (audio : Bool) (r : FreenectV1.StartResults)
    (turns : List Turn) :
    ∃ app d, mainLoopV1 names turns ({}, (FreenectV1.start r (FreenectV1.opened audio)).1) =
      some (app, d) ∧ ∀ u ∈ app.uploads, u.width = FreenectV1.kWidth ∧
        u.height = FreenectV1.kHeight ∧ ∃ ops f,
          (FreenectV1.getFrame (FreenectV1.run ops (FreenectV1.opened audio))).2 = some f ∧ u.Shows f := by
  obtain ⟨app, d, looped, shown⟩ := mainLoopV1_spec names audio turns [.start r]
    (show V1Shown audio {} from nofun)
  refine ⟨app, d, looped, fun u mem => ?_⟩
  obtain ⟨ops, f, returned, showing⟩ := shown u mem
  obtain ⟨-, wide, high⟩ := displayable_of_v1 returned
  exact ⟨showing.1.trans wide, showing.2.1.trans high, ops, f, returned, showing⟩

end V1

/-! ## Which device the window gets -/

end MacKinect.Gui
