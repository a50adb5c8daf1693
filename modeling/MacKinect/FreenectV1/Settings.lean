import MacKinect.FreenectV1.Device
import MacKinect.ControlCenter.Controls

/-! The setting calls of `FreenectV1Device`: setTilt, setLed, setMirror, setAutoExposure,
setAutoWhiteBalance, setNearMode, setManualExposureUs and setIrBrightness. Without a device
handle each does nothing; otherwise it sends libfreenect one call per value, and the device
keeps none of the values. They send the calls the control center's `Apply*` functions send,
with the LED as the `int` cast to `freenect_led_options`. -/
namespace MacKinect.FreenectV1

open ControlCenter (Flag Led Controls)

/-- A libfreenect call that changes a setting; `enabled` is `FREENECT_ON`. -/
inductive SettingCall where
  | setTiltDegs (angle : Int)
  | setLed (mode : Int)
  | setFlag (flag : Flag) (enabled : Bool)
  | setExposure (us : Int)
  | setIrBrightness (value : Nat)
  deriving DecidableEq, Repr

/-- `std::max(lo, std::min(hi, value))`. -/
def clamp (lo hi value : Int) : Int := max lo (min hi value)

/-- The setters that clamp an `int` and send it. -/
def clampAndSend (lo hi : Int) (send : Int → SettingCall) (value : Int) (d : Device) :
    List SettingCall :=
  if !d.dev then [] else [send (clamp lo hi value)]

def setLed (mode : Int) (d : Device) : List SettingCall := clampAndSend 0 6 .setLed mode d

def setIrBrightness (value : Int) (d : Device) : List SettingCall :=
  clampAndSend 1 50 (fun clamped => .setIrBrightness (unsignedOf 16 clamped)) value d

/-- The LED codes of `freenect_led_options`, as the control center sends them. -/
def ledCode : Led → Int
  | .off => 0
  | .green => 1
  | .red => 2
  | .yellow => 3
  | .blinkGreen => 4
  | .blinkRedYellow => 6

/-- A control-center call as the device sends it. -/
def SettingCall.ofControlCenter : ControlCenter.SettingCall → SettingCall
  | .setTiltDegs angle => .setTiltDegs angle
  | .setLed mode => .setLed (ledCode mode)
  | .setFlag flag enabled => .setFlag flag enabled
  | .setExposure us => .setExposure us
  | .setIrBrightness value => .setIrBrightness value

section AgainstControlCenter

variable (c : Controls) (d : Device) (handle : d.dev = c.dev)

/-- The calls an `Apply*` function of the control center adds, as the device would send them. -/
def added (apply : Controls → Controls) : List SettingCall :=
  ((apply c).calls.drop c.calls.length).map SettingCall.ofControlCenter

include handle

end AgainstControlCenter

end MacKinect.FreenectV1
