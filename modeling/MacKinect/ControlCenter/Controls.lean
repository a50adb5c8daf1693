import Mathlib.Data.List.Basic
import MacKinect.CInt

/-! The camera and motor settings of control_center_v1.cpp. `freenect_threadfunc` first sends
every setting to the opened device; then each setting key of `keyPressed` changes one global
and calls the `Apply*` function that sends it. The device is what it was last told, and the
HUD of `DrawGLScene` prints the globals. The keys that request a video or depth mode, record
audio or capture are modelled with the state they change, and leave these settings alone;
`freenect_threadfunc`'s start-up calls run before the first key. -/
namespace MacKinect.ControlCenter

/-- The `freenect_led_options` the control center sends. -/
inductive Led where
  | off
  | green
  | red
  | yellow
  | blinkGreen
  | blinkRedYellow
  deriving DecidableEq, Repr

/-- The `freenect_flag`s the control center sets. -/
inductive Flag where
  | mirrorDepth
  | mirrorVideo
  | autoExposure
  | autoFlicker
  | autoWhiteBalance
  | nearMode
  deriving DecidableEq, Repr

/-- A libfreenect call that changes a setting; `enabled` is `FREENECT_ON`. -/
inductive SettingCall where
  | setTiltDegs (angle : Int)
  | setLed (mode : Led)
  | setFlag (flag : Flag) (enabled : Bool)
  | setExposure (us : Int)
  | setIrBrightness (value : Nat)
  deriving DecidableEq, Repr

/-- The settings globals; `dev` is `g_dev != nullptr`, `calls` the setting calls made. -/
structure Controls where
  dev : Bool
  angle : Int := 0
  led : Led := .green
  mirror : Bool := true
  autoExposure : Bool := true
  autoWhiteBalance : Bool := true
  nearMode : Bool := false
  manualExposureUs : Int := 33333
  irBrightness : Int := 20
  calls : List SettingCall := []
  deriving DecidableEq, Repr

namespace Controls

/-- The globals once `main` has opened the device. -/
def opened : Controls := { dev := true }

def send (c : Controls) (call : SettingCall) : Controls := { c with calls := c.calls ++ [call] }

end Controls

open Controls

def applyTilt (c : Controls) : Controls :=
  if !c.dev then c else
  let c := { c with angle := max (-30) (min 30 c.angle) }
  c.send (.setTiltDegs c.angle)

def applyMirror (c : Controls) : Controls :=
  if !c.dev then c else (c.send (.setFlag .mirrorDepth c.mirror)).send (.setFlag .mirrorVideo c.mirror)

def applyAutoExposureBundle (c : Controls) : Controls :=
  if !c.dev then c else
  ((c.send (.setFlag .autoExposure c.autoExposure)).send (.setFlag .autoFlicker c.autoExposure)).send
    (.setFlag .autoWhiteBalance c.autoExposure)

def applyWhiteBalance (c : Controls) : Controls :=
  if !c.dev then c else c.send (.setFlag .autoWhiteBalance c.autoWhiteBalance)

def applyNearMode (c : Controls) : Controls :=
  if !c.dev then c else c.send (.setFlag .nearMode c.nearMode)

def applyManualExposure (c : Controls) : Controls :=
  if !c.dev then c else if !c.autoExposure then c.send (.setExposure c.manualExposureUs) else c

def applyIrBrightness (c : Controls) : Controls :=
  if !c.dev then c else
  let c := { c with irBrightness := max 1 (min 50 c.irBrightness) }
  c.send (.setIrBrightness (unsignedOf 16 c.irBrightness))

@[simp] theorem applyAutoExposureBundle_autoWhiteBalance (c : Controls) :
    (applyAutoExposureBundle c).autoWhiteBalance = c.autoWhiteBalance := by
  unfold applyAutoExposureBundle
  split <;> rfl

@[simp] theorem applyManualExposure_autoWhiteBalance (c : Controls) :
    (applyManualExposure c).autoWhiteBalance = c.autoWhiteBalance := by
  unfold applyManualExposure
  split_ifs <;> rfl

/-- The setting calls at the top of `freenect_threadfunc`. -/
def freenectThreadfuncStart (c : Controls) : Controls :=
  let c := (c.send (.setTiltDegs c.angle)).send (.setLed c.led)
  applyManualExposure (applyIrBrightness (applyNearMode (applyWhiteBalance
    (applyAutoExposureBundle (applyMirror c)))))

/-- The setting keys of `keyPressed`. -/
inductive SettingKey where
  | tiltUp
  | tiltDown
  | tiltCenter
  | mirror
  | autoExposure
  | whiteBalance
  | nearMode
  | exposureDown
  | exposureUp
  | irDown
  | irUp
  | led (mode : Led)
  deriving DecidableEq, Repr

/-- Which branch of `keyPressed` a key takes, if it is a setting key. -/
def settingKey (key : Char) : Option SettingKey :=
  if key = 'w' ∨ key = 'W' then some .tiltUp
  else if key = 'x' ∨ key = 'X' then some .tiltDown
  else if key = 's' ∨ key = 'S' then some .tiltCenter
  else if key = 'm' ∨ key = 'M' then some .mirror
  else if key = 'e' ∨ key = 'E' then some .autoExposure
  else if key = 'b' ∨ key = 'B' then some .whiteBalance
  else if key = 'n' ∨ key = 'N' then some .nearMode
  else if key = '[' then some .exposureDown
  else if key = ']' then some .exposureUp
  else if key = '-' then some .irDown
  else if key = '=' then some .irUp
  else if key = '0' then some (.led .off)
  else if key = '1' then some (.led .green)
  else if key = '2' then some (.led .red)
  else if key = '3' then some (.led .yellow)
  else if key = '4' ∨ key = '5' then some (.led .blinkGreen)
  else if key = '6' then some (.led .blinkRedYellow)
  else none

/-- A setting branch of `keyPressed`. The `'n'` branch only sets a status; the LED branches
call `freenect_set_led` without testing `g_dev`. -/
def SettingKey.apply : SettingKey → Controls → Controls
  | .tiltUp, c => applyTilt { c with angle := int32 (c.angle + 2) }
  | .tiltDown, c => applyTilt { c with angle := int32 (c.angle - 2) }
  | .tiltCenter, c => applyTilt { c with angle := 0 }
  | .mirror, c => applyMirror { c with mirror := !c.mirror }
  | .autoExposure, c =>
    applyManualExposure (applyAutoExposureBundle { c with autoExposure := !c.autoExposure })
  | .whiteBalance, c => applyWhiteBalance { c with autoWhiteBalance := !c.autoWhiteBalance }
  | .nearMode, c => c
  | .exposureDown, c =>
    applyManualExposure { c with manualExposureUs := max 1000 (int32 (c.manualExposureUs - 1000)) }
  | .exposureUp, c =>
    applyManualExposure { c with manualExposureUs := min 200000 (int32 (c.manualExposureUs + 1000)) }
  | .irDown, c => applyIrBrightness { c with irBrightness := int32 (c.irBrightness - 1) }
  | .irUp, c => applyIrBrightness { c with irBrightness := int32 (c.irBrightness + 1) }
  | .led mode, c => { c with led := mode }.send (.setLed mode)

namespace Controls

/-- `keyPressed`'s effect on the settings. -/
def keyPressed (key : Char) (c : Controls) : Controls :=
  match settingKey key with
  | some k => k.apply c
  | none => c

/-- Keys pressed one after another. -/
def run (keys : List Char) (c : Controls) : Controls := keys.foldl (fun c key => keyPressed key c) c

end Controls

/-! ## What the device was told -/

/-- The value each setting was last sent, `none` before its first call. -/
structure Camera where
  tilt : Option Int := none
  led : Option Led := none
  mirrorDepth : Option Bool := none
  mirrorVideo : Option Bool := none
  autoExposure : Option Bool := none
  autoFlicker : Option Bool := none
  autoWhiteBalance : Option Bool := none
  nearMode : Option Bool := none
  exposure : Option Int := none
  irBrightness : Option Nat := none
  deriving DecidableEq, Repr

def Camera.apply (cam : Camera) : SettingCall → Camera
  | .setTiltDegs angle => { cam with tilt := some angle }
  | .setLed mode => { cam with led := some mode }
  | .setFlag .mirrorDepth enabled => { cam with mirrorDepth := some enabled }
  | .setFlag .mirrorVideo enabled => { cam with mirrorVideo := some enabled }
  | .setFlag .autoExposure enabled => { cam with autoExposure := some enabled }
  | .setFlag .autoFlicker enabled => { cam with autoFlicker := some enabled }
  | .setFlag .autoWhiteBalance enabled => { cam with autoWhiteBalance := some enabled }
  | .setFlag .nearMode enabled => { cam with nearMode := some enabled }
  | .setExposure us => { cam with exposure := some us }
  | .setIrBrightness value => { cam with irBrightness := some value }

def Camera.ofCalls (calls : List SettingCall) : Camera := calls.foldl Camera.apply {}

@[simp] theorem Camera.ofCalls_send (c : Controls) (call : SettingCall) :
    Camera.ofCalls (c.send call).calls = (Camera.ofCalls c.calls).apply call := by
  simp [Camera.ofCalls, Controls.send]

/-- The ranges the code clamps to: tilt `[-30, 30]` degrees, exposure `[1000, 200000]` µs and
IR brightness `[1, 50]`. -/
def SettingCall.InRange : SettingCall → Prop
  | .setTiltDegs angle => -30 ≤ angle ∧ angle ≤ 30
  | .setExposure us => 1000 ≤ us ∧ us ≤ 200000
  | .setIrBrightness value => 1 ≤ value ∧ value ≤ 50
  | _ => True

instance : DecidablePred SettingCall.InRange
  | .setTiltDegs _ | .setExposure _ | .setIrBrightness _ => inferInstanceAs (Decidable (_ ∧ _))
  | .setLed _ | .setFlag _ _ => inferInstanceAs (Decidable True)

/-! ## The device agrees with the globals -/

/-- Whether, after this key, the device's automatic white balance is the last value of
`g_auto_exposure` sent by ApplyAutoExposureBundle (an `e` key) rather than
`g_auto_white_balance` sent by ApplyWhiteBalance (a `b` key). -/
def SettingKey.whiteBalanceFollows (follows : Bool) : SettingKey → Bool
  | .autoExposure => true
  | .whiteBalance => false
  | _ => follows

/-- `whiteBalanceFollows` after a key that may not be a setting key. -/
def whiteBalanceFollowsAfter (follows : Bool) (key : Char) : Bool :=
  match settingKey key with
  | some k => k.whiteBalanceFollows follows
  | none => follows

/-- Whether the last `e` or `b` key of `keys` is an `e`. -/
def whiteBalanceFollowsExposure (keys : List Char) : Bool :=
  keys.foldl whiteBalanceFollowsAfter false

/-- The camera that has been told the globals: automatic white balance from
`g_auto_exposure` when `follows`, and the last exposure sent, if any. -/
def Controls.told (c : Controls) (follows : Bool) (exposure : Option Int) : Camera where
  tilt := some c.angle
  led := some c.led
  mirrorDepth := some c.mirror
  mirrorVideo := some c.mirror
  autoExposure := some c.autoExposure
  autoFlicker := some c.autoExposure
  autoWhiteBalance := some (if follows then c.autoExposure else c.autoWhiteBalance)
  nearMode := some c.nearMode
  exposure := exposure
  irBrightness := some c.irBrightness.toNat

/-- The device was last told the globals the HUD prints, each inside its clamp range, and
the exposure is the manual one whenever automatic exposure is off. -/
structure Controls.Agrees (follows : Bool) (c : Controls) : Prop where
  dev : c.dev = true
  sent : ∀ call ∈ c.calls, call.InRange
  angle : -30 ≤ c.angle ∧ c.angle ≤ 30
  manualExposureUs : 1000 ≤ c.manualExposureUs ∧ c.manualExposureUs ≤ 200000
  irBrightness : 1 ≤ c.irBrightness ∧ c.irBrightness ≤ 50
  told : ∃ exposure, Camera.ofCalls c.calls = c.told follows exposure ∧
    (c.autoExposure = false → exposure = some c.manualExposureUs)

@[simp] theorem Controls.send_calls (c : Controls) (call : SettingCall) :
    (c.send call).calls = c.calls ++ [call] := rfl

@[simp] theorem Camera.ofCalls_append (calls : List SettingCall) (call : SettingCall) :
    Camera.ofCalls (calls ++ [call]) = (Camera.ofCalls calls).apply call := by
  simp [Camera.ofCalls]

theorem freenectThreadfuncStart_agrees : (freenectThreadfuncStart Controls.opened).Agrees false :=
  ⟨rfl, by decide, by decide, by decide, by decide, none, by decide, nofun⟩

theorem inRange_append {calls : List SettingCall} (sent : ∀ call ∈ calls, call.InRange)
    {call : SettingCall} (fresh : call.InRange) : ∀ x ∈ calls ++ [call], x.InRange :=
  List.forall_mem_append.2 ⟨sent, List.forall_mem_singleton.2 fresh⟩

section Keys

variable {c : Controls} {follows : Bool}

/-! Each setting key changes one global and calls the `Apply*` function that sends it; the
clamps in `ApplyTilt` and `ApplyIrBrightness` make any new value safe. -/

theorem applyTilt_agrees (inv : c.Agrees follows) (angle : Int) :
    (applyTilt { c with angle }).Agrees follows := by
  obtain ⟨dev, sent, -, manual, ir, exposure, told, manualTold⟩ := inv
  simp only [applyTilt, dev, Bool.not_true, Bool.false_eq_true, if_false, Controls.send]
  refine ⟨rfl, inRange_append sent ?_, by dsimp only; omega, manual, ir, exposure, ?_, manualTold⟩
  · simp only [SettingCall.InRange]
    omega
  · rw [Camera.ofCalls_append, told]
    rfl

theorem applyMirror_agrees (inv : c.Agrees follows) (mirror : Bool) :
    (applyMirror { c with mirror }).Agrees follows := by
  obtain ⟨dev, sent, angle, manual, ir, exposure, told, manualTold⟩ := inv
  simp only [applyMirror, dev, Bool.not_true, Bool.false_eq_true, if_false, Controls.send]
  refine ⟨rfl, inRange_append (inRange_append sent (by trivial)) (by trivial), angle, manual, ir, exposure,
    ?_, manualTold⟩
  rw [Camera.ofCalls_append, Camera.ofCalls_append, told]
  rfl

theorem applyWhiteBalance_agrees (inv : c.Agrees follows) (autoWhiteBalance : Bool) :
    (applyWhiteBalance { c with autoWhiteBalance }).Agrees false := by
  obtain ⟨dev, sent, angle, manual, ir, exposure, told, manualTold⟩ := inv
  simp only [applyWhiteBalance, dev, Bool.not_true, Bool.false_eq_true, if_false, Controls.send]
  refine ⟨rfl, inRange_append sent (by trivial), angle, manual, ir, exposure, ?_, manualTold⟩
  rw [Camera.ofCalls_append, told]
  rfl

theorem applyAutoExposure_agrees (inv : c.Agrees follows) (autoExposure : Bool) :
    (applyManualExposure (applyAutoExposureBundle { c with autoExposure })).Agrees true := by
  obtain ⟨dev, sent, angle, manual, ir, exposure, told, manualTold⟩ := inv
  cases autoExposure
  case false =>
    simp only [applyManualExposure, applyAutoExposureBundle, dev, Bool.not_true, Bool.not_false,
      Bool.false_eq_true, if_false, if_true, Controls.send]
    refine ⟨rfl, inRange_append (inRange_append (inRange_append (inRange_append sent
      (by trivial)) (by trivial)) (by trivial)) manual, angle, manual, ir, some c.manualExposureUs, ?_,
      fun _ => rfl⟩
    simp only [Camera.ofCalls_append, told]
    rfl
  case true =>
    simp only [applyManualExposure, applyAutoExposureBundle, dev, Bool.not_true,
      Bool.false_eq_true, if_false, Controls.send]
    refine ⟨rfl, inRange_append (inRange_append (inRange_append sent (by trivial)) (by trivial))
      (by trivial), angle, manual, ir, exposure, ?_, nofun⟩
    simp only [Camera.ofCalls_append, told]
    rfl

theorem applyManualExposure_agrees (inv : c.Agrees follows) {us : Int}
    (range : 1000 ≤ us ∧ us ≤ 200000) :
    (applyManualExposure { c with manualExposureUs := us }).Agrees follows := by
  obtain ⟨dev, sent, angle, -, ir, exposure, told, manualTold⟩ := inv
  cases auto : c.autoExposure
  case false =>
    simp only [applyManualExposure, dev, auto, Bool.not_true, Bool.not_false,
      Bool.false_eq_true, if_false, if_true, Controls.send]
    refine ⟨rfl, inRange_append sent range, angle, range, ir, some us, ?_, fun _ => rfl⟩
    rw [Camera.ofCalls_append, told]
    simp only [Controls.told, auto, Camera.apply]
  case true =>
    simp only [applyManualExposure, dev, auto, Bool.not_true, Bool.false_eq_true, if_false]
    refine ⟨rfl, sent, angle, range, ir, exposure, ?_, nofun⟩
    rw [told]
    simp only [Controls.told, auto]

theorem applyIrBrightness_agrees (inv : c.Agrees follows) (irBrightness : Int) :
    (applyIrBrightness { c with irBrightness }).Agrees follows := by
  obtain ⟨dev, sent, angle, manual, -, exposure, told, manualTold⟩ := inv
  simp only [applyIrBrightness, dev, Bool.not_true, Bool.false_eq_true, if_false, Controls.send]
  rw [unsignedOf_of_fits (by omega) (by omega)]
  refine ⟨rfl, inRange_append sent ?_, angle, manual, by dsimp only; omega, exposure, ?_,
    manualTold⟩
  · simp only [SettingCall.InRange]
    omega
  · rw [Camera.ofCalls_append, told]
    rfl

theorem setLed_agrees (inv : c.Agrees follows) (mode : Led) :
    ({ c with led := mode }.send (.setLed mode)).Agrees follows := by
  obtain ⟨dev, sent, angle, manual, ir, exposure, told, manualTold⟩ := inv
  refine ⟨dev, inRange_append sent (by trivial), angle, manual, ir, exposure, ?_, manualTold⟩
  rw [Camera.ofCalls_send, told]
  rfl

/-- One setting key keeps the device in agreement with the globals. -/
theorem Controls.Agrees.apply (inv : c.Agrees follows) :
    ∀ k : SettingKey, (k.apply c).Agrees (k.whiteBalanceFollows follows)
  | .tiltUp => applyTilt_agrees inv _
  | .tiltDown => applyTilt_agrees inv _
  | .tiltCenter => applyTilt_agrees inv _
  | .mirror => applyMirror_agrees inv _
  | .autoExposure => applyAutoExposure_agrees inv _
  | .whiteBalance => applyWhiteBalance_agrees inv _
  | .nearMode => inv
  | .exposureDown => applyManualExposure_agrees inv (by
      obtain ⟨low, high⟩ := inv.manualExposureUs
      rw [int32_of_fits (by omega) (by omega)]
      omega)
  | .exposureUp => applyManualExposure_agrees inv (by
      obtain ⟨low, high⟩ := inv.manualExposureUs
      rw [int32_of_fits (by omega) (by omega)]
      omega)
  | .irDown => applyIrBrightness_agrees inv _
  | .irUp => applyIrBrightness_agrees inv _
  | .led mode => setLed_agrees inv mode

theorem Controls.Agrees.keyPressed (inv : c.Agrees follows) (key : Char) :
    (Controls.keyPressed key c).Agrees (whiteBalanceFollowsAfter follows key) := by
  unfold Controls.keyPressed whiteBalanceFollowsAfter
  cases settingKey key
  exacts [inv, inv.apply _]

theorem Controls.Agrees.run (inv : c.Agrees follows) (keys : List Char) :
    (Controls.run keys c).Agrees (keys.foldl whiteBalanceFollowsAfter follows) := by
  induction keys generalizing c follows with
  | nil => exact inv
  | cons key keys ih => exact ih (inv.keyPressed key)

end Keys

/-- Whatever keys are pressed after `freenect_threadfunc` has started, every tilt, exposure
and IR brightness the device was sent is inside its clamp range, and the device was last told
the globals the HUD prints, except that its automatic white balance is `g_auto_exposure`'s
when the last `e` or `b` key was an `e`. -/
theorem controls_agree_with_camera (keys : List Char) :
    (Controls.run keys (freenectThreadfuncStart Controls.opened)).Agrees
      (whiteBalanceFollowsExposure keys) :=
  freenectThreadfuncStart_agrees.run keys

/-- `b` then `e` twice: the HUD says automatic white balance is off, the device has it on. -/
example : let c := Controls.run ['b', 'e', 'e'] (freenectThreadfuncStart Controls.opened)
    c.autoWhiteBalance = false ∧ (Camera.ofCalls c.calls).autoWhiteBalance = some true := by
  decide

end MacKinect.ControlCenter
