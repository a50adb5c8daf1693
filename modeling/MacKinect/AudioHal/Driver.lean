import Mathlib.Algebra.Group.Int
import Mathlib.Data.List.Basic

/-! The audio driver of `hal_plugin/KinectAudioHALPlugin.cpp`, an AudioServerPlugIn with one
input device. The host asks about and sets the properties of three fixed objects,
kAudioObjectPlugInObject (1), kObjectIDDevice (2) and kObjectIDStreamInput (3), and brackets
its IO with DriverStartIO and DriverStopIO. Under gStateMutex the driver keeps the nominal
sample rate, the buffer frame size, the number of running IO clients and the zero time stamp
seed; the host times of DriverInitialize and DriverGetZeroTimeStamp are not modelled. -/
namespace MacKinect.AudioHal

/-! ## Values and bytes -/

/-- A `Float64` as the 64 bits the driver copies: it stores and serves sample rates without
computing with them. -/
structure Float64 where
  bits : UInt64
  deriving DecidableEq, Repr

/-- 48000.0, the initial gSampleRate and the top of the advertised rates. -/
def float48000 : Float64 := ⟨0x40E7700000000000⟩

def float16000 : Float64 := ⟨0x40CF400000000000⟩

def float64 : Float64 := ⟨0x4050000000000000⟩

def float4096 : Float64 := ⟨0x40B0000000000000⟩

def sizeofUInt32 : Nat := 4

/-- `sizeof(CFStringRef)`. -/
def sizeofRef : Nat := 8

def sizeofFloat64 : Nat := 8

def sizeofValueRange : Nat := 16

def sizeofStreamBasicDescription : Nat := 40

/-- `sizeof(AudioStreamRangedDescription)`: a description and a value range. -/
def sizeofStreamRangedDescription : Nat := 56

/-- The value of a little-endian byte string. -/
def decodeLE : List UInt8 → Nat
  | [] => 0
  | b :: bs => b.toNat + 256 * decodeLE bs

/-- The `width` low bytes of `value`, least significant first. -/
def encodeLE : Nat → Nat → List UInt8
  | 0, _ => []
  | width + 1, value => UInt8.ofNat value :: encodeLE width (value / 256)

/-- The `Float64` at the start of the host's data, as the driver's `reinterpret_cast` reads
it on a little-endian target. -/
def readFloat64 (data : List UInt8) : Float64 := ⟨UInt64.ofNat (decodeLE (data.take 8))⟩

def readUInt32 (data : List UInt8) : UInt32 := UInt32.ofNat (decodeLE (data.take 4))

def Float64.encode (x : Float64) : List UInt8 := encodeLE 8 x.bits.toNat

def encodeUInt32 (n : UInt32) : List UInt8 := encodeLE 4 n.toNat

@[simp] theorem length_encodeLE (width value : Nat) : (encodeLE width value).length = width := by
  induction width generalizing value with
  | zero => rfl
  | succ width ih => simp [encodeLE, ih]

theorem decodeLE_encodeLE (width value : Nat) :
    decodeLE (encodeLE width value) = value % 256 ^ width := by
  induction width generalizing value with
  | zero => simp [encodeLE, decodeLE, Nat.mod_one]
  | succ width ih =>
    have low : (UInt8.ofNat value).toNat = value % 256 := by simp [UInt8.toNat, UInt8.ofNat]
    rw [encodeLE, decodeLE, ih, low, pow_succ', Nat.mod_mul, Nat.mul_comm]

theorem decodeLE_encodeLE_append (width value : Nat) (rest : List UInt8) :
    decodeLE ((encodeLE width value ++ rest).take width) = value % 256 ^ width := by
  rw [List.take_left' (length_encodeLE width value), decodeLE_encodeLE]

@[simp] theorem readFloat64_encode (x : Float64) (rest : List UInt8) :
    readFloat64 (x.encode ++ rest) = x := by
  have fits : x.bits.toNat < 256 ^ 8 := x.bits.toBitVec.isLt
  rw [readFloat64, Float64.encode, decodeLE_encodeLE_append, Nat.mod_eq_of_lt fits]
  exact congrArg Float64.mk (UInt64.toNat.inj (by simp [UInt64.toNat, UInt64.ofNat]))

/-- An `AudioStreamBasicDescription`. -/
structure StreamFormat where
  sampleRate : Float64
  formatID : UInt32
  formatFlags : UInt32
  bytesPerPacket : UInt32
  framesPerPacket : UInt32
  bytesPerFrame : UInt32
  channelsPerFrame : UInt32
  bitsPerChannel : UInt32
  reserved : UInt32 := 0
  deriving DecidableEq, Repr

/-- The description's 40 bytes: `mSampleRate`, then its eight `UInt32`s. -/
def StreamFormat.encode (f : StreamFormat) : List UInt8 :=
  f.sampleRate.encode ++ ([f.formatID, f.formatFlags, f.bytesPerPacket, f.framesPerPacket,
    f.bytesPerFrame, f.channelsPerFrame, f.bitsPerChannel, f.reserved].map encodeUInt32).flatten

theorem StreamFormat.length_encode (f : StreamFormat) :
    f.encode.length = sizeofStreamBasicDescription := rfl

/-- The driver reads a description's sample rate where it reads a nominal sample rate. -/
@[simp] theorem StreamFormat.readFloat64_encode (f : StreamFormat) (rest : List UInt8) :
    readFloat64 (f.encode ++ rest) = f.sampleRate := by
  rw [StreamFormat.encode, List.append_assoc, AudioHal.readFloat64_encode]

/-- kAudioFormatLinearPCM, `'lpcm'`. -/
def formatLinearPCM : UInt32 := 0x6C70636D

/-- kAudioFormatFlagsNativeFloatPacked on a little-endian target: IsFloat and IsPacked. -/
def formatFlagsNativeFloatPacked : UInt32 := 9

/-- MakeFormat: mono packed 32-bit float at `sampleRate`. -/
def makeFormat (sampleRate : Float64) : StreamFormat where
  sampleRate := sampleRate
  formatID := formatLinearPCM
  formatFlags := formatFlagsNativeFloatPacked
  bytesPerPacket := 4
  framesPerPacket := 1
  bytesPerFrame := 4
  channelsPerFrame := 1
  bitsPerChannel := 32

/-! ## Objects and properties -/

/-- The property selectors the driver names, and `other` for any it does not. -/
inductive Selector where
  | baseClass
  | objectClass
  | owner
  | name
  | manufacturer
  | ownedObjects
  | deviceList
  | translateUIDToDevice
  | resourceBundle
  | deviceUID
  | modelUID
  | transportType
  | streams
  | nominalSampleRate
  | availableNominalSampleRates
  | bufferFrameSize
  | bufferFrameSizeRange
  | deviceIsAlive
  | deviceIsRunning
  | latency
  | direction
  | terminalType
  | startingChannel
  | virtualFormat
  | availableVirtualFormats
  | physicalFormat
  | availablePhysicalFormats
  | other
  deriving DecidableEq, Repr

inductive Scope where
  | global
  | input
  | output
  | playThrough
  | wildcard
  deriving DecidableEq, Repr

/-- An `AudioObjectPropertyAddress`; no switch reads `mElement`. -/
structure Address where
  selector : Selector
  scope : Scope
  deriving DecidableEq, Repr

def isInputScope (address : Address) : Bool :=
  address.scope = .input || address.scope = .global

def objectIDPlugIn : UInt32 := 1

def objectIDDevice : UInt32 := 2

def objectIDStreamInput : UInt32 := 3

inductive Object where
  | plugIn
  | device
  | stream
  deriving DecidableEq, Repr

/-- The case of `switch (in_object_id)` an object ID takes. -/
def Object.ofID (objectId : UInt32) : Option Object :=
  if objectId = objectIDPlugIn then some .plugIn
  else if objectId = objectIDDevice then some .device
  else if objectId = objectIDStreamInput then some .stream
  else none

/-- The `kAudioHardware…Error` statuses the driver returns; `noErr` is `Except.ok`. -/
inductive Status where
  | illegalOperation
  | unknownProperty
  | badPropertySize
  | unsupportedOperation
  deriving DecidableEq, Repr

/-- The state under gStateMutex that the property and IO calls read and write. -/
structure Driver where
  sampleRate : Float64 := float48000
  bufferFrameSize : UInt32 := 480
  runningIOClients : UInt32 := 0
  zeroTimeStampSeed : UInt64 := 1
  deriving DecidableEq, Repr

def hasPropertyForPlugIn : Selector → Bool
  | .baseClass | .objectClass | .manufacturer | .ownedObjects | .deviceList
  | .translateUIDToDevice | .resourceBundle => true
  | _ => false

def hasPropertyForDevice : Selector → Bool
  | .baseClass | .objectClass | .owner | .name | .manufacturer | .ownedObjects | .deviceUID
  | .modelUID | .transportType | .streams | .nominalSampleRate | .availableNominalSampleRates
  | .bufferFrameSize | .bufferFrameSizeRange | .deviceIsAlive | .deviceIsRunning
  | .latency => true
  | _ => false

def hasPropertyForStream : Selector → Bool
  | .baseClass | .objectClass | .owner | .name | .direction | .terminalType | .startingChannel
  | .virtualFormat | .availableVirtualFormats | .physicalFormat | .availablePhysicalFormats => true
  | _ => false

/-- DriverHasProperty; `address` is `none` for a null pointer. -/
def driverHasProperty (objectId : UInt32) : Option Address → Bool
  | none => false
  | some address =>
    match Object.ofID objectId with
    | some .plugIn => hasPropertyForPlugIn address.selector
    | some .device => hasPropertyForDevice address.selector
    | some .stream => hasPropertyForStream address.selector
    | none => false

def getPropertyDataSizeForPlugIn : Selector → Except Status Nat
  | .baseClass | .objectClass => .ok sizeofUInt32
  | .manufacturer | .resourceBundle => .ok sizeofRef
  | .ownedObjects | .deviceList => .ok sizeofUInt32
  | .translateUIDToDevice => .ok sizeofUInt32
  | _ => .error .unknownProperty

def getPropertyDataSizeForDevice : Selector → Except Status Nat
  | .baseClass | .objectClass | .owner | .transportType | .deviceIsAlive | .deviceIsRunning
  | .latency | .bufferFrameSize => .ok sizeofUInt32
  | .name | .manufacturer | .deviceUID | .modelUID => .ok sizeofRef
  | .ownedObjects | .streams => .ok sizeofUInt32
  | .nominalSampleRate => .ok sizeofFloat64
  | .availableNominalSampleRates | .bufferFrameSizeRange => .ok sizeofValueRange
  | _ => .error .unknownProperty

def getPropertyDataSizeForStream : Selector → Except Status Nat
  | .baseClass | .objectClass | .owner | .direction | .terminalType | .startingChannel =>
    .ok sizeofUInt32
  | .name => .ok sizeofRef
  | .virtualFormat | .physicalFormat => .ok sizeofStreamBasicDescription
  | .availableVirtualFormats | .availablePhysicalFormats => .ok sizeofStreamRangedDescription
  | _ => .error .unknownProperty

/-- DriverGetPropertyDataSize; the `out_data_size` pointer is taken to be non-null. -/
def driverGetPropertyDataSize (objectId : UInt32) : Option Address → Except Status Nat
  | none => .error .illegalOperation
  | some address =>
    match Object.ofID objectId with
    | some .plugIn => getPropertyDataSizeForPlugIn address.selector
    | some .device => getPropertyDataSizeForDevice address.selector
    | some .stream => getPropertyDataSizeForStream address.selector
    | none => .error .unknownProperty

/-! ## DriverGetPropertyData -/

/-- The class IDs: kAudioObjectClassID, kAudioPlugInClassID, kAudioDeviceClassID and
kAudioStreamClassID. -/
inductive AudioClass where
  | object
  | plugIn
  | device
  | stream
  deriving DecidableEq, Repr

/-- What DriverGetPropertyData writes to `out_data`; `nullString` is the null `CFStringRef`
of the resource bundle. -/
inductive Value where
  | classId (c : AudioClass)
  | objectId (id : UInt32)
  | string (text : String)
  | nullString
  | uint32 (n : UInt32)
  | float64 (x : Float64)
  | valueRange (minimum maximum : Float64)
  | format (f : StreamFormat)
  | rangedFormat (f : StreamFormat) (minimum maximum : Float64)
  | nothing
  deriving DecidableEq, Repr

def plugInName : String := "macKinect Audio HAL"

def manufacturerName : String := "macKinect"

def deviceUID : String := "com.mackinect.audiohal.device"

def modelUID : String := "com.mackinect.audiohal.model"

/-- kAudioDeviceTransportTypeVirtual, `'virt'`. -/
def transportTypeVirtual : UInt32 := 0x76697274

/-- kAudioStreamTerminalTypeMicrophone, `'micr'`. -/
def terminalTypeMicrophone : UInt32 := 0x6D696372

/-- The pattern of every case: a size error when `size` bytes do not fit, else the value and
`*out_data_size`. -/
def writeChecked (dataSize size : Nat) (value : Value) : Except Status (Value × Nat) :=
  if dataSize < size then .error .badPropertySize else .ok (value, size)

/-- `uid` is the `CFStringRef` the qualifier holds when it is one non-null reference. -/
def getPropertyDataForPlugIn (uid : Option String) (dataSize : Nat) :
    Selector → Except Status (Value × Nat)
  | .baseClass => writeChecked dataSize sizeofUInt32 (.classId .object)
  | .objectClass => writeChecked dataSize sizeofUInt32 (.classId .plugIn)
  | .manufacturer => writeChecked dataSize sizeofRef (.string manufacturerName)
  | .ownedObjects | .deviceList => writeChecked dataSize sizeofUInt32 (.objectId objectIDDevice)
  | .translateUIDToDevice =>
    writeChecked dataSize sizeofUInt32
      (.objectId (if uid = some deviceUID then objectIDDevice else 0))
  | .resourceBundle => writeChecked dataSize sizeofRef .nullString
  | _ => .error .unknownProperty

def getPropertyDataForDevice (d : Driver) (dataSize : Nat) (address : Address) :
    Except Status (Value × Nat) :=
  match address.selector with
  | .baseClass => writeChecked dataSize sizeofUInt32 (.classId .object)
  | .objectClass => writeChecked dataSize sizeofUInt32 (.classId .device)
  | .owner => writeChecked dataSize sizeofUInt32 (.objectId objectIDPlugIn)
  | .name => writeChecked dataSize sizeofRef (.string plugInName)
  | .manufacturer => writeChecked dataSize sizeofRef (.string manufacturerName)
  | .ownedObjects | .streams =>
    if !isInputScope address then .ok (.nothing, 0)
    else writeChecked dataSize sizeofUInt32 (.objectId objectIDStreamInput)
  | .deviceUID => writeChecked dataSize sizeofRef (.string deviceUID)
  | .modelUID => writeChecked dataSize sizeofRef (.string modelUID)
  | .transportType => writeChecked dataSize sizeofUInt32 (.uint32 transportTypeVirtual)
  | .nominalSampleRate => writeChecked dataSize sizeofFloat64 (.float64 d.sampleRate)
  | .availableNominalSampleRates =>
    writeChecked dataSize sizeofValueRange (.valueRange float16000 float48000)
  | .bufferFrameSize => writeChecked dataSize sizeofUInt32 (.uint32 d.bufferFrameSize)
  | .bufferFrameSizeRange => writeChecked dataSize sizeofValueRange (.valueRange float64 float4096)
  | .deviceIsAlive => writeChecked dataSize sizeofUInt32 (.uint32 1)
  | .deviceIsRunning =>
    writeChecked dataSize sizeofUInt32 (.uint32 (if d.runningIOClients > 0 then 1 else 0))
  | .latency => writeChecked dataSize sizeofUInt32 (.uint32 0)
  | _ => .error .unknownProperty

def getPropertyDataForStream (d : Driver) (dataSize : Nat) : Selector → Except Status (Value × Nat)
  | .baseClass => writeChecked dataSize sizeofUInt32 (.classId .object)
  | .objectClass => writeChecked dataSize sizeofUInt32 (.classId .stream)
  | .owner => writeChecked dataSize sizeofUInt32 (.objectId objectIDDevice)
  | .name => writeChecked dataSize sizeofRef (.string "Kinect Mic Stream")
  | .direction | .startingChannel => writeChecked dataSize sizeofUInt32 (.uint32 1)
  | .terminalType => writeChecked dataSize sizeofUInt32 (.uint32 terminalTypeMicrophone)
  | .virtualFormat | .physicalFormat =>
    writeChecked dataSize sizeofStreamBasicDescription (.format (makeFormat d.sampleRate))
  | .availableVirtualFormats | .availablePhysicalFormats =>
    writeChecked dataSize sizeofStreamRangedDescription
      (.rangedFormat (makeFormat float48000) float16000 float48000)
  | _ => .error .unknownProperty

/-- DriverGetPropertyData: the value written and `*out_data_size`. The `out_data_size` and
`out_data` pointers are taken to be non-null. -/
def driverGetPropertyData (d : Driver) (objectId : UInt32) (address : Option Address)
    (uid : Option String) (dataSize : Nat) : Except Status (Value × Nat) :=
  match address with
  | none => .error .illegalOperation
  | some address =>
    match Object.ofID objectId with
    | some .plugIn => getPropertyDataForPlugIn uid dataSize address.selector
    | some .device => getPropertyDataForDevice d dataSize address
    | some .stream => getPropertyDataForStream d dataSize address.selector
    | none => .error .unknownProperty

/-! ## DriverSetPropertyData and the IO calls -/

/-- The tail of each settable case of DriverSetPropertyData: data shorter than the value is
refused, else the state becomes `d'`. -/
def storeChecked (needed : Nat) (data : List UInt8) (d d' : Driver) : Except Status Unit × Driver :=
  if data.length < needed then (.error .badPropertySize, d) else (.ok (), d')

/-- DriverSetPropertyData; `data` is the host's `in_data`, `none` for a null pointer, and
`in_data_size` is its length. -/
def driverSetPropertyData (objectId : UInt32) (address : Option Address)
    (data : Option (List UInt8)) (d : Driver) : Except Status Unit × Driver :=
  match address, data with
  | none, _ | _, none => (.error .illegalOperation, d)
  | some address, some data =>
    if objectId = objectIDDevice ∧ address.selector = .nominalSampleRate then
      storeChecked sizeofFloat64 data d
        { d with sampleRate := readFloat64 data, zeroTimeStampSeed := d.zeroTimeStampSeed + 1 }
    else if objectId = objectIDDevice ∧ address.selector = .bufferFrameSize then
      storeChecked sizeofUInt32 data d { d with bufferFrameSize := readUInt32 data }
    else if objectId = objectIDStreamInput ∧
        (address.selector = .virtualFormat ∨ address.selector = .physicalFormat) then
      storeChecked sizeofStreamBasicDescription data d
        { d with sampleRate := readFloat64 data, zeroTimeStampSeed := d.zeroTimeStampSeed + 1 }
    else (.error .unsupportedOperation, d)

theorem storeChecked_state (needed : Nat) (data : List UInt8) (d d' : Driver) :
    (storeChecked needed data d d').2 = d ∨ (storeChecked needed data d d').2 = d' := by
  unfold storeChecked
  split_ifs
  exacts [.inl rfl, .inr rfl]

/-- DriverInitialize's reset of the seed. -/
def driverInitialize (d : Driver) : Driver := { d with zeroTimeStampSeed := 1 }

/-- DriverStartIO; it reads neither its device nor its client ID. -/
def driverStartIO (d : Driver) : Driver := { d with runningIOClients := d.runningIOClients + 1 }

def driverStopIO (d : Driver) : Driver :=
  if d.runningIOClients > 0 then { d with runningIOClients := d.runningIOClients - 1 } else d

/-- kAudioServerPlugInIOOperationReadInput, `'read'`. -/
def ioOperationReadInput : UInt32 := 0x72656164

/-- DriverWillDoIOOperation's `out_will_do` and `out_will_do_in_place`; `willDo` and `inPlace`
say whether those pointers are non-null. -/
def driverWillDoIOOperation (operationId : UInt32) (willDo inPlace : Bool) :
    Except Status (Bool × Bool) :=
  if !willDo || !inPlace then .error .illegalOperation
  else .ok (operationId = ioOperationReadInput, true)

/-- DriverDoIOOperation on `io_main_buffer`, `none` for a null pointer: a read of input sets
its first `in_io_buffer_frame_size * sizeof(Float32)` bytes to zero. -/
def driverDoIOOperation (operationId frames : UInt32) (buffer : Option (List UInt8)) :
    Option (List UInt8) :=
  if operationId = ioOperationReadInput then
    buffer.map fun bytes => List.replicate (frames.toNat * 4) 0 ++ bytes.drop (frames.toNat * 4)
  else buffer

/-- What DriverGetPropertyData answers given DriverGetPropertyDataSize's answer: the same
error, or a size error exactly when the size reported does not fit in `dataSize` bytes, and
otherwise a value in exactly the size reported. -/
def Honours (dataSize : Nat) : Except Status Nat → Except Status (Value × Nat) → Prop
  | .error e, answer => answer = .error e
  | .ok size, answer =>
    if dataSize < size then answer = .error .badPropertySize else ∃ value, answer = .ok (value, size)

theorem writeChecked_honours (dataSize size : Nat) (value : Value) :
    Honours dataSize (.ok size) (writeChecked dataSize size value) := by
  by_cases fits : dataSize < size <;> simp [Honours, writeChecked, fits]

/-- The device's OwnedObjects or Streams asked at a scope that is neither input nor global. -/
def Address.listOutsideInput (address : Address) : Bool :=
  (address.selector = .ownedObjects || address.selector = .streams) && !isInputScope address

theorem plugIn_honours (uid : Option String) (dataSize : Nat) (selector : Selector) :
    Honours dataSize (getPropertyDataSizeForPlugIn selector)
      (getPropertyDataForPlugIn uid dataSize selector) := by
  cases selector <;> first | exact writeChecked_honours _ _ _ | rfl

theorem stream_honours (d : Driver) (dataSize : Nat) (selector : Selector) :
    Honours dataSize (getPropertyDataSizeForStream selector)
      (getPropertyDataForStream d dataSize selector) := by
  cases selector <;> first | exact writeChecked_honours _ _ _ | rfl

theorem device_honours (d : Driver) (dataSize : Nat) (address : Address) :
    if address.listOutsideInput then
      getPropertyDataSizeForDevice address.selector = .ok sizeofUInt32 ∧
        getPropertyDataForDevice d dataSize address = .ok (.nothing, 0)
    else Honours dataSize (getPropertyDataSizeForDevice address.selector)
      (getPropertyDataForDevice d dataSize address) := by
  obtain ⟨selector, scope⟩ := address
  cases selector
  case ownedObjects | streams =>
    unfold Address.listOutsideInput getPropertyDataForDevice
    cases isInputScope _
    · exact ⟨rfl, rfl⟩
    · exact writeChecked_honours _ _ _
  all_goals first | exact writeChecked_honours _ _ _ | rfl

/-- DriverGetPropertyData keeps to what DriverGetPropertyDataSize said, in every state and for
every object ID, address, qualifier and buffer size, except in one place: the device's
OwnedObjects and Streams at a scope that is neither input nor global, whose size is reported
as one object ID while GetPropertyData writes nothing and reports 0 bytes. -/
theorem getPropertyData_honours_except_output_lists (d : Driver) (objectId : UInt32)
    (address : Option Address) (uid : Option String) (dataSize : Nat) :
    if objectId = objectIDDevice ∧ address.any Address.listOutsideInput then
      driverGetPropertyDataSize objectId address = .ok sizeofUInt32 ∧
        driverGetPropertyData d objectId address uid dataSize = .ok (.nothing, 0)
    else Honours dataSize (driverGetPropertyDataSize objectId address)
      (driverGetPropertyData d objectId address uid dataSize) := by
  cases address with
  | none => simp [driverGetPropertyDataSize, driverGetPropertyData, Honours]
  | some address =>
    have device := device_honours d dataSize address
    simp only [driverGetPropertyDataSize, driverGetPropertyData, Option.any_some]
    by_cases isDevice : objectId = objectIDDevice
    · have found : Object.ofID objectId = some .device := by rw [isDevice]; rfl
      simp only [isDevice, true_and, found]
      exact device
    · have other : Object.ofID objectId ≠ some .device := by
        unfold Object.ofID
        split_ifs <;> simp_all
      simp only [isDevice, false_and, if_false]
      cases found : Object.ofID objectId with
      | none => rfl
      | some object =>
        cases object
        exacts [plugIn_honours uid dataSize _, absurd found other, stream_honours d dataSize _]

/-! ## Setting properties -/

/-- What a property set can do to the state: nothing, store a buffer frame size, or store a
sample rate and move the seed on by one. -/
def Driver.SetBy (d d' : Driver) : Prop :=
  d' = d ∨ (∃ frames, d' = { d with bufferFrameSize := frames }) ∨
    ∃ rate, d' = { d with sampleRate := rate, zeroTimeStampSeed := d.zeroTimeStampSeed + 1 }

theorem driverSetPropertyData_cases (objectId : UInt32) (address : Option Address)
    (data : Option (List UInt8)) (d : Driver) :
    d.SetBy (driverSetPropertyData objectId address data d).2 := by
  rcases address with _ | address <;> rcases data with _ | bytes
  case some.some =>
    simp only [driverSetPropertyData]
    split_ifs
    · exact (storeChecked_state _ _ _ _).imp_right fun set => .inr ⟨_, set⟩
    · exact (storeChecked_state _ _ _ _).imp_right fun set => .inl ⟨_, set⟩
    · exact (storeChecked_state _ _ _ _).imp_right fun set => .inr ⟨_, set⟩
    · exact .inl rfl
  all_goals exact .inl rfl

/-! ## What is set is read back -/

section RoundTrip

variable (d : Driver) (rest : List UInt8) (scope : Scope) (uid : Option String) (dataSize : Nat)

/-- A nominal sample rate set from any bytes that start with the `Float64` `rate`, inside the
advertised 16000–48000 or not, is read back as `rate`, both stream formats then carry it, and
the buffer frame size is untouched. -/
theorem sampleRate_set_then_get (rate : Float64) :
    let d' := (driverSetPropertyData objectIDDevice (some ⟨.nominalSampleRate, scope⟩)
      (some (rate.encode ++ rest)) d).2
    driverGetPropertyData d' objectIDDevice (some ⟨.nominalSampleRate, scope⟩) uid dataSize =
        writeChecked dataSize sizeofFloat64 (.float64 rate) ∧
      driverGetPropertyData d' objectIDStreamInput (some ⟨.virtualFormat, scope⟩) uid dataSize =
        writeChecked dataSize sizeofStreamBasicDescription (.format (makeFormat rate)) ∧
      driverGetPropertyData d' objectIDStreamInput (some ⟨.physicalFormat, scope⟩) uid dataSize =
        writeChecked dataSize sizeofStreamBasicDescription (.format (makeFormat rate)) ∧
      d'.bufferFrameSize = d.bufferFrameSize := by
  have long : ¬(rate.encode ++ rest).length < sizeofFloat64 := by
    rw [List.length_append, Float64.encode, length_encodeLE]
    exact Nat.not_lt.2 (Nat.le_add_right _ _)
  simp only [driverSetPropertyData, and_self, if_true, storeChecked, long, if_false,
    readFloat64_encode]
  exact ⟨rfl, rfl, rfl, trivial⟩

/-- A stream format set on either format property is accepted whatever it describes, but only
its sample rate is kept: both formats then read as MakeFormat of that rate, mono packed
32-bit float, and so does the nominal sample rate. -/
theorem format_set_keeps_only_rate (f : StreamFormat) (selector : Selector)
    (isFormat : selector = .virtualFormat ∨ selector = .physicalFormat) :
    let d' := (driverSetPropertyData objectIDStreamInput (some ⟨selector, scope⟩)
      (some (f.encode ++ rest)) d).2
    (driverSetPropertyData objectIDStreamInput (some ⟨selector, scope⟩)
        (some (f.encode ++ rest)) d).1 = .ok () ∧
      driverGetPropertyData d' objectIDDevice (some ⟨.nominalSampleRate, scope⟩) uid dataSize =
        writeChecked dataSize sizeofFloat64 (.float64 f.sampleRate) ∧
      driverGetPropertyData d' objectIDStreamInput (some ⟨selector, scope⟩) uid dataSize =
        writeChecked dataSize sizeofStreamBasicDescription (.format (makeFormat f.sampleRate)) := by
  have long : ¬(f.encode ++ rest).length < sizeofStreamBasicDescription := by
    rw [List.length_append, StreamFormat.length_encode]
    exact Nat.not_lt.2 (Nat.le_add_right _ _)
  have notDevice : ¬(objectIDStreamInput = objectIDDevice) := by decide
  simp only [driverSetPropertyData, notDevice, false_and, if_false, isFormat, and_self,
    if_true, storeChecked, long, StreamFormat.readFloat64_encode]
  rcases isFormat with rfl | rfl <;> exact ⟨trivial, rfl, rfl⟩

end RoundTrip

theorem format_set_keeps_only_rate_stereo_int16 :
    let f : StreamFormat := { sampleRate := float16000, formatID := formatLinearPCM,
                              formatFlags := 12, bytesPerPacket := 4, framesPerPacket := 1,
                              bytesPerFrame := 4, channelsPerFrame := 2, bitsPerChannel := 16 }
    (Selector.virtualFormat = .virtualFormat ∨ Selector.virtualFormat = .physicalFormat) ∧
      let d' := (driverSetPropertyData objectIDStreamInput (some ⟨.virtualFormat, .global⟩)
        (some (f.encode ++ [])) {}).2
      (driverSetPropertyData objectIDStreamInput (some ⟨.virtualFormat, .global⟩)
          (some (f.encode ++ [])) {}).1 = .ok () ∧
        driverGetPropertyData d' objectIDDevice (some ⟨.nominalSampleRate, .global⟩) none 40 =
          writeChecked 40 sizeofFloat64 (.float64 f.sampleRate) ∧
        driverGetPropertyData d' objectIDStreamInput (some ⟨.virtualFormat, .global⟩) none 40 =
          writeChecked 40 sizeofStreamBasicDescription (.format (makeFormat f.sampleRate)) :=
  ⟨.inl rfl, format_set_keeps_only_rate {} [] .global none 40 _ _ (.inl rfl)⟩

/-! ## Runs of calls -/

/-- The host's calls that change the driver's state: `load` is DriverInitialize, `startIo` and
`stopIo` are DriverStartIO and DriverStopIO. -/
inductive DriverCall where
  | load
  | setPropertyData (objectId : UInt32) (address : Option Address) (data : Option (List UInt8))
  | startIo (deviceId clientId : UInt32)
  | stopIo (deviceId clientId : UInt32)
  deriving DecidableEq, Repr

def DriverCall.apply : DriverCall → Driver → Driver
  | .load, d => driverInitialize d
  | .setPropertyData objectId address data, d => (driverSetPropertyData objectId address data d).2
  | .startIo _ _, d => driverStartIO d
  | .stopIo _ _, d => driverStopIO d

def Driver.run (calls : List DriverCall) (d : Driver) : Driver :=
  calls.foldl (fun d c => c.apply d) d

@[simp] theorem Driver.run_cons (c : DriverCall) (calls : List DriverCall) (d : Driver) :
    d.run (c :: calls) = (c.apply d).run calls := rfl

theorem UInt64.toNat_add_one (x : UInt64) : (x + 1).toNat = (x.toNat + 1) % 2 ^ 64 := by
  simp [UInt64.toNat, UInt64.add_def, BitVec.toNat_add]

/-- One call other than DriverInitialize either leaves the seed and the sample rate alone, or
moves the seed on by one. -/
theorem DriverCall.apply_seed (c : DriverCall) (d : Driver) (noLoad : c ≠ .load) :
    ((c.apply d).zeroTimeStampSeed = d.zeroTimeStampSeed ∧ (c.apply d).sampleRate = d.sampleRate) ∨
      (c.apply d).zeroTimeStampSeed = d.zeroTimeStampSeed + 1 := by
  cases c with
  | load => exact absurd rfl noLoad
  | setPropertyData objectId address data =>
    rcases driverSetPropertyData_cases objectId address data d with set | ⟨_, set⟩ | ⟨_, set⟩
    all_goals simp [DriverCall.apply, set]
  | startIo => exact .inl ⟨rfl, rfl⟩
  | stopIo =>
    simp only [DriverCall.apply, driverStopIO]
    split_ifs <;> exact .inl ⟨rfl, rfl⟩

/-- Along a run without DriverInitialize the seed has moved on by some count no larger than
the run, and by none only if the sample rate is where it was. -/
theorem Driver.run_seed (calls : List DriverCall) (d : Driver) (noLoad : .load ∉ calls) :
    ∃ moves ≤ calls.length,
      (d.run calls).zeroTimeStampSeed.toNat = (d.zeroTimeStampSeed.toNat + moves) % 2 ^ 64 ∧
      (moves = 0 → (d.run calls).sampleRate = d.sampleRate) := by
  induction calls generalizing d with
  | nil =>
    have fits : d.zeroTimeStampSeed.toNat < 2 ^ 64 := d.zeroTimeStampSeed.toBitVec.isLt
    exact ⟨0, le_rfl, by simp only [Driver.run, List.foldl_nil]; omega, fun _ => rfl⟩
  | cons c cs ih =>
    obtain ⟨moves, bound, seed, still⟩ := ih (c.apply d) fun mem => noLoad (.tail c mem)
    rw [Driver.run_cons, seed]
    rcases c.apply_seed d fun first => noLoad (first ▸ .head cs) with ⟨kept, rate⟩ | moved
    · exact ⟨moves, by simp; omega, by rw [kept], fun none => (still none).trans rate⟩
    · refine ⟨moves + 1, by simp; omega, ?_, nofun⟩
      rw [moved, UInt64.toNat_add_one]
      omega

/-- Over every run of property sets and IO calls from any state, with no DriverInitialize and
fewer than 2^64 calls, the zero time stamp seed moves whenever the sample rate does: a host
that finds the seed where it was has the sample rate it had. -/
theorem seed_marks_rate_changes (calls : List DriverCall) (d : Driver) (noLoad : .load ∉ calls)
    (few : calls.length < 2 ^ 64)
    (same : (d.run calls).zeroTimeStampSeed = d.zeroTimeStampSeed) :
    (d.run calls).sampleRate = d.sampleRate := by
  obtain ⟨moves, bound, seed, still⟩ := d.run_seed calls noLoad
  have fits : d.zeroTimeStampSeed.toNat < 2 ^ 64 := d.zeroTimeStampSeed.toBitVec.isLt
  rw [same] at seed
  exact still (by omega)

theorem seed_marks_rate_changes_buffer_size :
    let calls := [DriverCall.setPropertyData objectIDDevice (some ⟨.bufferFrameSize, .global⟩)
      (some (encodeUInt32 512))]
    .load ∉ calls ∧ calls.length < 2 ^ 64 ∧
      (({} : Driver).run calls).zeroTimeStampSeed = ({} : Driver).zeroTimeStampSeed ∧
      (({} : Driver).run calls).sampleRate = ({} : Driver).sampleRate :=
  ⟨by decide, by decide, rfl, seed_marks_rate_changes _ {} (by decide) (by decide) rfl⟩

/-- The IO clients a call leaves running out of `n`: a StartIO adds one and a StopIO takes
one away if any is left, whichever device and client they name. -/
def ioBalance (n : Nat) : DriverCall → Nat
  | .startIo _ _ => n + 1
  | .stopIo _ _ => n - 1
  | .load | .setPropertyData .. => n

theorem DriverCall.apply_runningIOClients (c : DriverCall) (d : Driver)
    (room : d.runningIOClients.toNat + 1 < 2 ^ 32) :
    (c.apply d).runningIOClients.toNat = ioBalance d.runningIOClients.toNat c := by
  cases c with
  | load => rfl
  | setPropertyData objectId address data =>
    rcases driverSetPropertyData_cases objectId address data d with set | ⟨_, set⟩ | ⟨_, set⟩ <;>
      simp only [DriverCall.apply, ioBalance, set]
  | startIo =>
    simp only [DriverCall.apply, driverStartIO, ioBalance]
    simp [UInt32.toNat, UInt32.add_def, BitVec.toNat_add] at room ⊢
    omega
  | stopIo =>
    simp only [DriverCall.apply, driverStopIO, ioBalance]
    split_ifs with running
    · simp only [UInt32.lt_def, BitVec.lt_def] at running
      simp [UInt32.toNat, UInt32.sub_def, BitVec.toNat_sub] at running ⊢
      omega
    · simp only [UInt32.lt_def, BitVec.lt_def, not_lt] at running
      simp [UInt32.toNat] at running ⊢
      omega

/-- While the run holds fewer than 2^32 calls, the count of running IO clients is the balance
of StartIO and StopIO calls, a StopIO with none running doing nothing. -/
theorem Driver.run_runningIOClients (calls : List DriverCall) (d : Driver)
    (few : d.runningIOClients.toNat + calls.length < 2 ^ 32) :
    (d.run calls).runningIOClients.toNat = calls.foldl ioBalance d.runningIOClients.toNat := by
  induction calls generalizing d with
  | nil => rfl
  | cons c cs ih =>
    have grows : ioBalance d.runningIOClients.toNat c ≤ d.runningIOClients.toNat + 1 := by
      cases c <;> simp only [ioBalance] <;> omega
    have step := c.apply_runningIOClients d (by simp at few; omega)
    rw [Driver.run_cons, ih (c.apply d) (by simp at few; omega), step, List.foldl_cons]

/-- From the driver as loaded, over every run of fewer than 2^32 calls, the device reads as
running exactly while more StartIO than StopIO calls have been made, a StopIO with none running
not counting, and whatever device and client IDs the calls carry: a StopIO from a client that
never started IO stops the device for a client that did. -/
theorem deviceIsRunning_counts_io (calls : List DriverCall) (few : calls.length < 2 ^ 32)
    (scope : Scope) (uid : Option String) (dataSize : Nat) :
    driverGetPropertyData (({} : Driver).run calls) objectIDDevice
        (some ⟨.deviceIsRunning, scope⟩) uid dataSize =
      writeChecked dataSize sizeofUInt32 (.uint32 (if 0 < calls.foldl ioBalance 0 then 1 else 0)) := by
  have count := Driver.run_runningIOClients calls {} (by simpa using few)
  have running : (({} : Driver).run calls).runningIOClients > 0 ↔ 0 < calls.foldl ioBalance 0 := by
    rw [gt_iff_lt, UInt32.lt_def, BitVec.lt_def]
    exact Iff.of_eq (congrArg (0 < ·) count)
  simp only [driverGetPropertyData, getPropertyDataForDevice, running]
  rfl

theorem deviceIsRunning_counts_io_start_stop :
    let calls := [DriverCall.startIo objectIDDevice 1, .stopIo objectIDDevice 7]
    calls.length < 2 ^ 32 ∧
      driverGetPropertyData (({} : Driver).run calls) objectIDDevice
          (some ⟨.deviceIsRunning, .global⟩) none 4 =
        writeChecked 4 sizeofUInt32 (.uint32 (if 0 < calls.foldl ioBalance 0 then 1 else 0)) :=
  ⟨by decide, deviceIsRunning_counts_io _ (by decide) .global none 4⟩

example : driverGetPropertyData (({} : Driver).run [.startIo objectIDDevice 1, .stopIo objectIDDevice 7])
    objectIDDevice (some ⟨.deviceIsRunning, .global⟩) none 4 = .ok (.uint32 0, 4) := rfl

end MacKinect.AudioHal
