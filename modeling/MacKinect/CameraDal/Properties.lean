import MacKinect.CameraDal.Lifecycle

/-! The CMIO objects of `dal_plugin/KinectCameraDALPlugin.cpp` and their properties. The
host learns of the plug-in, its device and its stream through object IDs, and asks about
each through PlugInObjectHasProperty, PlugInObjectGetPropertyDataSize and
PlugInObjectGetPropertyData: three switches that test the ID against gPlugInObjectID,
gDeviceObjectID and gStreamObjectID, in that order, and then the selector. Object ID `0` is
kCMIOObjectUnknown, and kCMIODeviceUnknown and kCMIOStreamUnknown are the same `0`. Sizes
are those of the 64-bit targets. -/
namespace MacKinect.CameraDal

/-- The selectors the plug-in names, and `other` for any selector it does not. The device
and stream latency selectors are the same code. -/
inductive Selector where
  | objectClass
  | owner
  | creator
  | name
  | manufacturer
  | ownedObjects
  | bundleID
  | isExtension
  | deviceUID
  | modelUID
  | transportType
  | deviceIsAlive
  | deviceIsRunning
  | deviceIsRunningSomewhere
  | suspendedByUser
  | hogMode
  | latency
  | streams
  | streamConfiguration
  | canProcessAVCCommand
  | canProcessRS422Command
  | excludeNonDALAccess
  | direction
  | terminalType
  | startingChannel
  | formatDescription
  | formatDescriptions
  | frameRate
  | frameRates
  | frameRateRanges
  | noDataEventCount
  | noDataTimeoutInMSec
  | canProcessDeckCommand
  | endOfData
  | listenerAdded
  | listenerRemoved
  | other
  deriving DecidableEq, Repr

inductive Scope where
  | global
  | input
  | output
  | playThrough
  | wildcard
  deriving DecidableEq, Repr

/-- A `CMIOObjectPropertyAddress`; no switch reads `mElement`. -/
structure Address where
  selector : Selector
  scope : Scope
  deriving DecidableEq, Repr

def isInputScope (address : Address) : Bool :=
  address.scope = .input || address.scope = .global

/-- The three objects, which are also the three classes. -/
inductive Object where
  | plugIn
  | device
  | stream
  deriving DecidableEq, Repr

/-- gPlugInObjectID, gDeviceObjectID and gStreamObjectID. -/
structure Objects where
  plugIn : UInt32 := 0
  device : UInt32 := 0
  stream : UInt32 := 0
  deriving DecidableEq, Repr

/-- The block of each switch an object ID enters: the first global it equals. -/
def Objects.find (o : Objects) (objectId : UInt32) : Option Object :=
  if objectId = o.plugIn then some .plugIn
  else if objectId = o.device then some .device
  else if objectId = o.stream then some .stream
  else none

/-- The `kCMIOHardware…Error` statuses the plug-in returns, and any other status a CoreMediaIO
call hands it; `noErr` is `Except.ok`. -/
inductive Status where
  | illegalOperation
  | unknownProperty
  | badObject
  | badPropertySize
  | unspecified
  | unsupportedOperation
  | badDevice
  | badStream
  | other (code : Int)
  deriving DecidableEq, Repr

/-! ## PlugInObjectHasProperty -/

def hasPropertyForPlugIn : Selector → Bool
  | .objectClass | .owner | .creator | .name | .manufacturer | .ownedObjects | .bundleID
  | .isExtension => true
  | _ => false

def hasPropertyForDevice : Selector → Bool
  | .objectClass | .owner | .creator | .name | .manufacturer | .ownedObjects | .deviceUID
  | .modelUID | .transportType | .deviceIsAlive | .deviceIsRunning | .deviceIsRunningSomewhere
  | .suspendedByUser | .hogMode | .latency | .streams | .streamConfiguration
  | .canProcessAVCCommand | .canProcessRS422Command | .excludeNonDALAccess => true
  | _ => false

def hasPropertyForStream : Selector → Bool
  | .objectClass | .owner | .creator | .name | .manufacturer | .ownedObjects | .direction
  | .terminalType | .startingChannel | .latency | .formatDescription | .formatDescriptions
  | .frameRate | .frameRates | .frameRateRanges | .noDataEventCount | .noDataTimeoutInMSec
  | .canProcessDeckCommand | .endOfData => true
  | _ => false

/-- `address` is `none` for a null pointer. -/
def plugInObjectHasProperty (o : Objects) (objectId : UInt32) : Option Address → Bool
  | none => false
  | some address =>
    match o.find objectId with
    | some .plugIn => hasPropertyForPlugIn address.selector
    | some .device => hasPropertyForDevice address.selector
    | some .stream => hasPropertyForStream address.selector
    | none => false

/-- No property can be set; the `is_settable` pointer is taken to be non-null. -/
def plugInObjectIsPropertySettable (o : Objects) (objectId : UInt32) :
    Option Address → Except Status Bool
  | none => .error .illegalOperation
  | some address =>
    if !plugInObjectHasProperty o objectId (some address) then .error .unknownProperty
    else .ok false

/-! ## PlugInObjectGetPropertyDataSize -/

/-- `sizeof` of a `UInt32`, `CMIOObjectID` or `CMIOClassID`. -/
def sizeofUInt32 : Nat := 4

/-- `sizeof` of a CoreFoundation reference: a `CFStringRef`, `CFArrayRef` or
`CMFormatDescriptionRef`. -/
def sizeofRef : Nat := 8

def sizeofFloat64 : Nat := 8

/-- `sizeof(AudioValueRange)`: two `Float64`s. -/
def sizeofValueRange : Nat := 16

/-- `sizeof(CMIODeviceStreamConfiguration)`: `mNumberStreams` and a one-element
`mNumberChannels`. -/
def sizeofStreamConfiguration : Nat := 8

def getPropertyDataSizeForPlugIn (o : Objects) : Selector → Except Status Nat
  | .objectClass | .owner => .ok sizeofUInt32
  | .creator | .name | .manufacturer | .bundleID => .ok sizeofRef
  | .ownedObjects => .ok (if o.device = 0 then 0 else sizeofUInt32)
  | .isExtension => .ok sizeofUInt32
  | _ => .error .unknownProperty

def getPropertyDataSizeForDevice (o : Objects) (address : Address) : Except Status Nat :=
  match address.selector with
  | .objectClass | .owner | .transportType | .deviceIsAlive | .deviceIsRunning
  | .deviceIsRunningSomewhere | .suspendedByUser | .hogMode | .latency | .canProcessAVCCommand
  | .canProcessRS422Command | .excludeNonDALAccess => .ok sizeofUInt32
  | .creator | .name | .manufacturer | .deviceUID | .modelUID => .ok sizeofRef
  | .ownedObjects => .ok (if o.stream = 0 then 0 else sizeofUInt32)
  | .streams => .ok (if isInputScope address && o.stream ≠ 0 then sizeofUInt32 else 0)
  | .streamConfiguration =>
    .ok (if isInputScope address then sizeofStreamConfiguration + sizeofUInt32
      else sizeofStreamConfiguration)
  | _ => .error .unknownProperty

def getPropertyDataSizeForStream : Selector → Except Status Nat
  | .objectClass | .owner | .direction | .terminalType | .startingChannel | .latency
  | .noDataEventCount | .noDataTimeoutInMSec | .canProcessDeckCommand | .endOfData =>
    .ok sizeofUInt32
  | .creator | .name | .manufacturer => .ok sizeofRef
  | .ownedObjects => .ok 0
  | .formatDescription | .formatDescriptions => .ok sizeofRef
  | .frameRate | .frameRates => .ok sizeofFloat64
  | .frameRateRanges => .ok sizeofValueRange
  | _ => .error .unknownProperty

/-- The `data_size` pointer is taken to be non-null. -/
def plugInObjectGetPropertyDataSize (o : Objects) (objectId : UInt32) :
    Option Address → Except Status Nat
  | none => .error .illegalOperation
  | some address =>
    match o.find objectId with
    | some .plugIn => getPropertyDataSizeForPlugIn o address.selector
    | some .device => getPropertyDataSizeForDevice o address
    | some .stream => getPropertyDataSizeForStream address.selector
    | none => .error .badObject

/-! ## PlugInObjectGetPropertyData -/

/-- What GetPropertyData writes to `*data`. A `Float64` the plug-in writes is always the
integer kOutputFPS. -/
inductive Value where
  | classId (c : Object)
  | objectId (id : UInt32)
  | string (text : String)
  | uint32 (n : UInt32)
  | float64 (x : Nat)
  | formatDescription
  | formatDescriptions
  | streamConfiguration (numberStreams : UInt32) (numberChannels : List UInt32)
  | valueRange (minimum maximum : Nat)
  | nothing
  deriving DecidableEq, Repr

def pluginName : String := "macKinect Camera DAL"

def manufacturerName : String := "macKinect"

def pluginBundleID : String := "com.mackinect.cameradal"

def deviceUID : String := "com.mackinect.cameradal.device"

def modelUID : String := "com.mackinect.cameradal.model"

def outputFPS : Nat := 30

/-- kCMIOObjectSystemObject. -/
def systemObject : UInt32 := 1

/-- `'virt'`, the transport type of a virtual device. -/
def transportVirtual : UInt32 := 0x76697274

/-- WriteScalar: the value and `*data_used`, when `size` bytes fit in `dataSize`. The string
cases, written out in the source, make the same test with `sizeof(CFStringRef)`. -/
def writeScalar (dataSize size : Nat) (value : Value) : Except Status (Value × Nat) :=
  if dataSize < size then .error .badPropertySize else .ok (value, size)

/-- A reference to gFormatDescription; `ready` is what EnsureFormatDescriptionLocked
returns. -/
def writeFormat (dataSize : Nat) (ready : Bool) (value : Value) : Except Status (Value × Nat) :=
  if dataSize < sizeofRef then .error .badPropertySize
  else if !ready then .error .unspecified
  else .ok (value, sizeofRef)

def getPropertyDataForPlugIn (o : Objects) (dataSize : Nat) :
    Selector → Except Status (Value × Nat)
  | .objectClass => writeScalar dataSize sizeofUInt32 (.classId .plugIn)
  | .owner => writeScalar dataSize sizeofUInt32 (.objectId systemObject)
  | .creator | .bundleID => writeScalar dataSize sizeofRef (.string pluginBundleID)
  | .name => writeScalar dataSize sizeofRef (.string pluginName)
  | .manufacturer => writeScalar dataSize sizeofRef (.string manufacturerName)
  | .ownedObjects =>
    if o.device = 0 then .ok (.nothing, 0) else writeScalar dataSize sizeofUInt32 (.objectId o.device)
  | .isExtension => writeScalar dataSize sizeofUInt32 (.uint32 0)
  | _ => .error .unknownProperty

/-- `g` holds gRunningClients, which DeviceIsRunning reads. -/
def getPropertyDataForDevice (o : Objects) (g : Globals) (dataSize : Nat) (address : Address) :
    Except Status (Value × Nat) :=
  match address.selector with
  | .objectClass => writeScalar dataSize sizeofUInt32 (.classId .device)
  | .owner => writeScalar dataSize sizeofUInt32 (.objectId o.plugIn)
  | .creator => writeScalar dataSize sizeofRef (.string pluginBundleID)
  | .name => writeScalar dataSize sizeofRef (.string "Kinect Camera")
  | .manufacturer => writeScalar dataSize sizeofRef (.string manufacturerName)
  | .ownedObjects =>
    if o.stream = 0 then .ok (.nothing, 0) else writeScalar dataSize sizeofUInt32 (.objectId o.stream)
  | .deviceUID => writeScalar dataSize sizeofRef (.string deviceUID)
  | .modelUID => writeScalar dataSize sizeofRef (.string modelUID)
  | .transportType => writeScalar dataSize sizeofUInt32 (.uint32 transportVirtual)
  | .deviceIsAlive => writeScalar dataSize sizeofUInt32 (.uint32 1)
  | .deviceIsRunning | .deviceIsRunningSomewhere =>
    writeScalar dataSize sizeofUInt32 (.uint32 (if 0 < g.runningClients then 1 else 0))
  | .suspendedByUser | .hogMode | .latency | .canProcessAVCCommand | .canProcessRS422Command
  | .excludeNonDALAccess => writeScalar dataSize sizeofUInt32 (.uint32 0)
  | .streams =>
    if !isInputScope address || o.stream = 0 then .ok (.nothing, 0)
    else writeScalar dataSize sizeofUInt32 (.objectId o.stream)
  | .streamConfiguration =>
    if !isInputScope address then
      writeScalar dataSize sizeofStreamConfiguration (.streamConfiguration 0 [])
    else writeScalar dataSize (sizeofStreamConfiguration + sizeofUInt32) (.streamConfiguration 1 [1])
  | _ => .error .unknownProperty

def getPropertyDataForStream (o : Objects) (ready : Bool) (dataSize : Nat) :
    Selector → Except Status (Value × Nat)
  | .objectClass => writeScalar dataSize sizeofUInt32 (.classId .stream)
  | .owner => writeScalar dataSize sizeofUInt32 (.objectId o.device)
  | .creator => writeScalar dataSize sizeofRef (.string pluginBundleID)
  | .name => writeScalar dataSize sizeofRef (.string "Kinect RGB Stream")
  | .manufacturer => writeScalar dataSize sizeofRef (.string manufacturerName)
  | .ownedObjects => .ok (.nothing, 0)
  | .direction | .startingChannel => writeScalar dataSize sizeofUInt32 (.uint32 1)
  | .terminalType | .latency | .noDataEventCount | .canProcessDeckCommand | .endOfData =>
    writeScalar dataSize sizeofUInt32 (.uint32 0)
  | .noDataTimeoutInMSec => writeScalar dataSize sizeofUInt32 (.uint32 2000)
  | .formatDescription => writeFormat dataSize ready .formatDescription
  | .formatDescriptions => writeFormat dataSize ready .formatDescriptions
  | .frameRate | .frameRates => writeScalar dataSize sizeofFloat64 (.float64 outputFPS)
  | .frameRateRanges => writeScalar dataSize sizeofValueRange (.valueRange outputFPS outputFPS)
  | _ => .error .unknownProperty

/-- The value written and `*data_used`. The `data` pointer is taken to be non-null, and
`ready` is what EnsureFormatDescriptionLocked returns if the call reaches it. -/
def plugInObjectGetPropertyData (o : Objects) (g : Globals) (ready : Bool) (objectId : UInt32)
    (address : Option Address) (dataSize : Nat) : Except Status (Value × Nat) :=
  match address with
  | none => .error .illegalOperation
  | some address =>
    match o.find objectId with
    | some .plugIn => getPropertyDataForPlugIn o dataSize address.selector
    | some .device => getPropertyDataForDevice o g dataSize address
    | some .stream => getPropertyDataForStream o ready dataSize address.selector
    | none => .error .badObject

/-- EnsureFormatDescriptionLocked: `made` is `gFormatDescription != nullptr` and `creates`
whether CMVideoFormatDescriptionCreate succeeds; the result is whether a description exists
afterwards, which is also gFormatDescription's new state. -/
def ensureFormatDescriptionLocked (made creates : Bool) : Bool := made || creates

/-! ## PlugInObjectSetPropertyData -/

def plugInObjectSetPropertyData (o : Objects) (objectId : UInt32) :
    Option Address → Except Status Unit
  | none => .error .illegalOperation
  | some address =>
    if objectId ≠ o.plugIn ∧ objectId ≠ o.device ∧ objectId ≠ o.stream then .error .badObject
    else if address.selector = .listenerAdded ∨ address.selector = .listenerRemoved then .ok ()
    else .error .unsupportedOperation

/-- A format description is asked for and EnsureFormatDescriptionLocked fails. -/
def Selector.formatMissing (selector : Selector) (ready : Bool) : Bool :=
  (selector = .formatDescription || selector = .formatDescriptions) && !ready

/-- What GetPropertyData answers given GetPropertyDataSize's answer for the same object and
address: the same error; or, into a buffer of `dataSize` bytes, a size error when the size
reported does not fit, the unspecified error when the format description is missing, and
otherwise a value in exactly the size reported. -/
def Honours (dataSize : Nat) (missing : Bool) :
    Except Status Nat → Except Status (Value × Nat) → Prop
  | .error e, answer => answer = .error e
  | .ok size, answer =>
    if dataSize < size then answer = .error .badPropertySize
    else if missing then answer = .error .unspecified
    else ∃ value, answer = .ok (value, size)

theorem writeScalar_honours (dataSize size : Nat) (value : Value) :
    Honours dataSize false (.ok size) (writeScalar dataSize size value) := by
  by_cases fits : dataSize < size <;> simp [Honours, writeScalar, fits]

theorem nothing_honours (dataSize : Nat) : Honours dataSize false (.ok 0) (.ok (.nothing, 0)) :=
  ⟨.nothing, rfl⟩

theorem writeFormat_honours (dataSize : Nat) (ready : Bool) (value : Value) :
    Honours dataSize (!ready) (.ok sizeofRef) (writeFormat dataSize ready value) := by
  by_cases fits : dataSize < sizeofRef <;> cases ready <;> simp [Honours, writeFormat, fits]

/-- An `if` in both switches on the same condition. -/
theorem ite_honours {c : Prop} [Decidable c] {dataSize : Nat} {missing : Bool}
    {size size' : Nat} {answer answer' : Except Status (Value × Nat)}
    (pos : c → Honours dataSize missing (.ok size) answer)
    (neg : ¬c → Honours dataSize missing (.ok size') answer') :
    Honours dataSize missing (.ok (if c then size else size')) (if c then answer else answer') := by
  split_ifs with h
  exacts [pos h, neg h]

theorem plugIn_honours (o : Objects) (dataSize : Nat) (selector : Selector) (ready : Bool) :
    Honours dataSize (selector.formatMissing ready) (getPropertyDataSizeForPlugIn o selector)
      (getPropertyDataForPlugIn o dataSize selector) := by
  cases selector
  case ownedObjects =>
    exact ite_honours (fun _ => nothing_honours dataSize) fun _ => writeScalar_honours _ _ _
  all_goals first | exact writeScalar_honours _ _ _ | rfl

theorem device_honours (o : Objects) (g : Globals) (dataSize : Nat) (address : Address)
    (ready : Bool) :
    Honours dataSize (address.selector.formatMissing ready) (getPropertyDataSizeForDevice o address)
      (getPropertyDataForDevice o g dataSize address) := by
  obtain ⟨selector, scope⟩ := address
  cases selector
  case ownedObjects =>
    exact ite_honours (fun _ => nothing_honours dataSize) fun _ => writeScalar_honours _ _ _
  case streams =>
    simp only [getPropertyDataSizeForDevice, getPropertyDataForDevice]
    split_ifs <;> first | exact nothing_honours dataSize | exact writeScalar_honours _ _ _ |
      simp_all
  case streamConfiguration =>
    simp only [getPropertyDataSizeForDevice, getPropertyDataForDevice]
    split_ifs <;> first | exact writeScalar_honours _ _ _ | simp_all
  all_goals first | exact writeScalar_honours _ _ _ | rfl

theorem stream_honours (o : Objects) (ready : Bool) (dataSize : Nat) (selector : Selector) :
    Honours dataSize (selector.formatMissing ready) (getPropertyDataSizeForStream selector)
      (getPropertyDataForStream o ready dataSize selector) := by
  cases selector
  case ownedObjects => exact nothing_honours dataSize
  case formatDescription => exact writeFormat_honours dataSize ready _
  case formatDescriptions => exact writeFormat_honours dataSize ready _
  all_goals first | exact writeScalar_honours _ _ _ | rfl

/-- Whatever the object IDs and the stream counter, for every object ID, address (a null one
included) and buffer size, GetPropertyData keeps to what GetPropertyDataSize said: it
fails with the same error, or fails with a size error exactly when the size reported does
not fit, or writes a value in exactly the size reported; the one other answer is the
unspecified error for a format description that cannot be made. -/
theorem getPropertyData_honours_dataSize (o : Objects) (g : Globals) (ready : Bool)
    (objectId : UInt32) (address : Option Address) (dataSize : Nat) :
    Honours dataSize (address.any (·.selector.formatMissing ready))
      (plugInObjectGetPropertyDataSize o objectId address)
      (plugInObjectGetPropertyData o g ready objectId address dataSize) := by
  cases address with
  | none => rfl
  | some address =>
    simp only [plugInObjectGetPropertyDataSize, plugInObjectGetPropertyData, Option.any_some]
    cases o.find objectId with
    | none => rfl
    | some object =>
      cases object
      exacts [plugIn_honours o dataSize _ ready, device_honours o g dataSize address ready,
        stream_honours o ready dataSize _]

/-! ## The object IDs and the device calls -/

/-- PlugInInitializeWithObjectID. `createDevice` and `createStream` are what CMIOObjectCreate
hands back, a new object ID or its error; `publishDevice` and `publishStream` are what the two
CMIOObjectsPublishedAndDied calls return. -/
def plugInInitializeWithObjectID (objectId : UInt32) (createDevice createStream : Except Status UInt32)
    (publishDevice publishStream : Except Status Unit) (o : Objects) : Except Status Unit × Objects :=
  let o := { o with plugIn := objectId }
  if o.device ≠ 0 ∧ o.stream ≠ 0 then (.ok (), o) else
  match createDevice with
  | .error rc => (.error rc, { o with device := 0 })
  | .ok device =>
    let o := { o with device }
    match createStream with
    | .error rc => (.error rc, { o with stream := 0 })
    | .ok stream => (publishDevice *> publishStream, { o with stream })

/-- The object IDs after PlugInTeardown; its globals are those of TeardownObjects. -/
def plugInTeardown (o : Objects) : Objects := { o with stream := 0, device := 0 }

/-- The ID checks at the top of the device calls: the device, then the stream when the call
names one. -/
def checkIDs (o : Objects) (deviceId : UInt32) (streamId : Option UInt32) : Except Status Unit :=
  if deviceId ≠ o.device then .error .badDevice
  else if streamId.any (· ≠ o.stream) then .error .badStream
  else .ok ()

/-- A device call: its ID checks, then its body on the globals. -/
def deviceCall (o : Objects) (deviceId : UInt32) (streamId : Option UInt32)
    (body : Globals → Globals) (g : Globals) : Except Status Unit × Globals :=
  match checkIDs o deviceId streamId with
  | .error e => (.error e, g)
  | .ok () => (.ok (), body g)

def plugInDeviceStartStream (o : Objects) (deviceId streamId : UInt32) (deviceFound : Bool) :
    Globals → Except Status Unit × Globals :=
  deviceCall o deviceId (some streamId) (startStream deviceFound)

def plugInDeviceStopStream (o : Objects) (deviceId streamId : UInt32) :
    Globals → Except Status Unit × Globals :=
  deviceCall o deviceId (some streamId) stopStream

def plugInDeviceSuspend (o : Objects) (deviceId : UInt32) : Globals → Except Status Unit × Globals :=
  deviceCall o deviceId none suspend

def plugInDeviceResume (o : Objects) (deviceId : UInt32) : Globals → Except Status Unit × Globals :=
  deviceCall o deviceId none id

/-- The host's calls that change the plug-in's globals. -/
inductive PlugInCall where
  | initializeWithObjectID (objectId : UInt32) (createDevice createStream : Except Status UInt32)
      (publishDevice publishStream : Except Status Unit)
  | teardown
  | deviceStartStream (deviceId streamId : UInt32) (deviceFound : Bool)
  | deviceStopStream (deviceId streamId : UInt32)
  | deviceSuspend (deviceId : UInt32)
  | deviceResume (deviceId : UInt32)

structure PlugIn where
  objects : Objects := {}
  globals : Globals := {}
  deriving DecidableEq, Repr

def PlugIn.withGlobals (p : PlugIn) (answer : Except Status Unit × Globals) :
    Except Status Unit × PlugIn :=
  (answer.1, { p with globals := answer.2 })

def PlugInCall.apply : PlugInCall → PlugIn → Except Status Unit × PlugIn
  | .initializeWithObjectID objectId createDevice createStream publishDevice publishStream, p =>
    let answer :=
      plugInInitializeWithObjectID objectId createDevice createStream publishDevice publishStream
        p.objects
    (answer.1, { p with objects := answer.2 })
  | .teardown, p => (.ok (), { objects := plugInTeardown p.objects, globals := teardownObjects p.globals })
  | .deviceStartStream deviceId streamId deviceFound, p =>
    p.withGlobals (plugInDeviceStartStream p.objects deviceId streamId deviceFound p.globals)
  | .deviceStopStream deviceId streamId, p =>
    p.withGlobals (plugInDeviceStopStream p.objects deviceId streamId p.globals)
  | .deviceSuspend deviceId, p => p.withGlobals (plugInDeviceSuspend p.objects deviceId p.globals)
  | .deviceResume deviceId, p => p.withGlobals (plugInDeviceResume p.objects deviceId p.globals)

/-- Calls made one after another from the plug-in as loaded. -/
def PlugIn.serve : List PlugInCall → PlugIn → PlugIn
  | [], p => p
  | c :: cs, p => PlugIn.serve cs (c.apply p).2

/-! ## The device calls refine the stream lifecycle -/

/-- The stream-lifecycle call a plug-in call makes with these object IDs, if its checks
pass. -/
def PlugInCall.hostCall (o : Objects) : PlugInCall → Option HostCall
  | .teardown => some .teardown
  | .deviceStartStream deviceId streamId deviceFound =>
    if (checkIDs o deviceId (some streamId)).isOk then some (.startStream deviceFound) else none
  | .deviceStopStream deviceId streamId =>
    if (checkIDs o deviceId (some streamId)).isOk then some .stopStream else none
  | .deviceSuspend deviceId => if (checkIDs o deviceId none).isOk then some .suspend else none
  | .initializeWithObjectID .. | .deviceResume _ => none

def PlugInCall.objectsAfter (o : Objects) : PlugInCall → Objects
  | .initializeWithObjectID objectId createDevice createStream publishDevice publishStream =>
    (plugInInitializeWithObjectID objectId createDevice createStream publishDevice publishStream o).2
  | .teardown => plugInTeardown o
  | _ => o

/-- The stream-lifecycle calls of a run, in order. -/
def acceptedCalls : List PlugInCall → Objects → List HostCall
  | [], _ => []
  | c :: cs, o => (c.hostCall o).toList ++ acceptedCalls cs (c.objectsAfter o)

theorem deviceCall_globals (o : Objects) (deviceId : UInt32) (streamId : Option UInt32)
    (body : Globals → Globals) (g : Globals) :
    (deviceCall o deviceId streamId body g).2 =
      if (checkIDs o deviceId streamId).isOk then body g else g := by
  unfold deviceCall
  cases checkIDs o deviceId streamId <;> rfl

/-- One call: the object IDs change as `objectsAfter` says, and the globals as the
stream-lifecycle call it makes, if any. -/
theorem PlugInCall.apply_eq (c : PlugInCall) (p : PlugIn) :
    (c.apply p).2 =
      ⟨c.objectsAfter p.objects, ((c.hostCall p.objects).map (·.apply p.globals)).getD p.globals⟩ := by
  cases c
  case initializeWithObjectID | teardown => rfl
  all_goals
    simp only [PlugInCall.apply, PlugIn.withGlobals, plugInDeviceStartStream,
      plugInDeviceStopStream, plugInDeviceSuspend, plugInDeviceResume, deviceCall_globals,
      PlugInCall.hostCall]
    split_ifs <;> rfl

/-- The plug-in refines the stream lifecycle: over every run, the globals the device calls
share are those of the lifecycle run on the calls whose ID checks passed. -/
theorem PlugIn.serve_globals (calls : List PlugInCall) (p : PlugIn) :
    (PlugIn.serve calls p).globals = CameraDal.serve (acceptedCalls calls p.objects) p.globals := by
  induction calls generalizing p with
  | nil => rfl
  | cons c cs ih =>
    rw [PlugIn.serve, ih, PlugInCall.apply_eq, acceptedCalls]
    cases c.hostCall p.objects <;> rfl

theorem acceptedCalls_length (calls : List PlugInCall) (o : Objects) :
    (acceptedCalls calls o).length ≤ calls.length := by
  induction calls generalizing o with
  | nil => exact le_rfl
  | cons c cs ih =>
    have one : (c.hostCall o).toList.length ≤ 1 := by cases c.hostCall o <;> simp
    simp only [acceptedCalls, List.length_append, List.length_cons]
    have := ih (c.objectsAfter o)
    omega

theorem Tracks.clients_pos {g : Globals} {n : Nat} (tracks : Tracks g n) :
    0 < g.runningClients ↔ 0 < n := by
  rw [BitVec.lt_def, tracks.count]
  rfl

/-- Over every run of the host's calls from the plug-in as loaded (fewer than 2^32 of them),
an object ID that reaches the device reads DeviceIsRunning as 1 exactly while a stream that a
StartStream with the right IDs opened is still open. -/
theorem deviceIsRunning_reports_open_streams (calls : List PlugInCall)
    (few : calls.length < 2 ^ 32) (objectId : UInt32)
    (reaches : (PlugIn.serve calls {}).objects.find objectId = some .device) (ready : Bool)
    (scope : Scope) (dataSize : Nat) :
    let p := PlugIn.serve calls {}
    plugInObjectGetPropertyData p.objects p.globals ready objectId
        (some ⟨.deviceIsRunning, scope⟩) dataSize =
      writeScalar dataSize sizeofUInt32
        (.uint32 (if 0 < openStreams (acceptedCalls calls {}) then 1 else 0)) := by
  intro p
  have accepted := acceptedCalls_length calls {}
  have tracks : Tracks p.globals (openStreams (acceptedCalls calls {})) := by
    rw [show p.globals = serve (acceptedCalls calls {}) {} from PlugIn.serve_globals calls {}]
    exact Tracks.serve (Tracks.halted (h := {}) rfl rfl rfl rfl rfl rfl) _ (by omega)
  simp only [plugInObjectGetPropertyData, reaches, getPropertyDataForDevice, tracks.clients_pos]

theorem deviceIsRunning_after_start :
    let calls := [PlugInCall.initializeWithObjectID 1 (.ok 2) (.ok 3) (.ok ()) (.ok ()),
      .deviceStartStream 2 3 true]
    calls.length < 2 ^ 32 ∧ (PlugIn.serve calls {}).objects.find 2 = some .device ∧
      plugInObjectGetPropertyData (PlugIn.serve calls {}).objects (PlugIn.serve calls {}).globals
          true 2 (some ⟨.deviceIsRunning, .global⟩) 4 =
        writeScalar 4 sizeofUInt32
          (.uint32 (if 0 < openStreams (acceptedCalls calls {}) then 1 else 0)) :=
  ⟨by decide, by decide, deviceIsRunning_reports_open_streams _ (by decide) 2 (by decide) true .global 4⟩

end MacKinect.CameraDal
