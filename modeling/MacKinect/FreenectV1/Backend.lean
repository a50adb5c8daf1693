import Mathlib.Data.List.Basic
import MacKinect.Frame

/-! Device discovery and opening in `FreenectV1Backend` (freenect_v1_backend.cpp):
`EnumerateCountWithRetries`, `listDevices`, `openDevice` and `FreenectV1Device::open`.
libfreenect is a `Driver` that answers the `i`-th call of each kind from its own stream, so
a theorem over every driver is a theorem over every pattern of native answers. -/
namespace MacKinect.FreenectV1

/-- The native calls and sleeps of this path, logged in the order the backend makes them. -/
inductive Native where
  | numDevices
  | listDeviceAttributes
  | openDeviceByCameraSerial (serial : String)
  | openDevice (index : Int)
  | sleep (ms : Nat)
  deriving DecidableEq, Repr

/-- An open answers its `rc` and whether it set `dev`; `freenect_list_device_attributes`
answers its count and the `camera_serial` of each record (an empty list is a null `attrs`).
`context` is whether `ctx_` is non-null. -/
structure Driver where
  context : Bool
  numDevices : Nat → Int
  deviceAttributes : Nat → Int × List (Option String)
  openByCameraSerial : Nat → Int × Bool
  openByIndex : Nat → Int × Bool
  calls : List Native := []

namespace Driver

def sleep (d : Driver) (ms : Nat) : Driver := { d with calls := d.calls ++ [.sleep ms] }

def freenectNumDevices (d : Driver) : Int × Driver :=
  (d.numDevices 0, { d with numDevices := fun i => d.numDevices (i + 1),
                            calls := d.calls ++ [.numDevices] })

def freenectListDeviceAttributes (d : Driver) : (Int × List (Option String)) × Driver :=
  (d.deviceAttributes 0, { d with deviceAttributes := fun i => d.deviceAttributes (i + 1),
                                  calls := d.calls ++ [.listDeviceAttributes] })

def freenectOpenDeviceByCameraSerial (d : Driver) (serial : String) : (Int × Bool) × Driver :=
  (d.openByCameraSerial 0, { d with openByCameraSerial := fun i => d.openByCameraSerial (i + 1),
                                    calls := d.calls ++ [.openDeviceByCameraSerial serial] })

def freenectOpenDevice (d : Driver) (index : Int) : (Int × Bool) × Driver :=
  (d.openByIndex 0, { d with openByIndex := fun i => d.openByIndex (i + 1),
                             calls := d.calls ++ [.openDevice index] })

/-- A driver that answers every call of a kind alike. -/
def steady (count : Int) (attrs : Int × List (Option String)) (bySerial byIndex : Int × Bool)
    (calls : List Native) : Driver :=
  ⟨true, fun _ => count, fun _ => attrs, fun _ => bySerial, fun _ => byIndex, calls⟩

section Steady

variable (count : Int) (attrs : Int × List (Option String)) (bySerial byIndex : Int × Bool)
  (calls : List Native)

@[simp] theorem steady_context : (steady count attrs bySerial byIndex calls).context = true := rfl

@[simp] theorem steady_freenectNumDevices :
    (steady count attrs bySerial byIndex calls).freenectNumDevices =
      (count, steady count attrs bySerial byIndex (calls ++ [.numDevices])) := rfl

@[simp] theorem steady_freenectListDeviceAttributes :
    (steady count attrs bySerial byIndex calls).freenectListDeviceAttributes =
      (attrs, steady count attrs bySerial byIndex (calls ++ [.listDeviceAttributes])) := rfl

@[simp] theorem steady_freenectOpenDeviceByCameraSerial (serial : String) :
    (steady count attrs bySerial byIndex calls).freenectOpenDeviceByCameraSerial serial =
      (bySerial,
        steady count attrs bySerial byIndex (calls ++ [.openDeviceByCameraSerial serial])) :=
  rfl

@[simp] theorem steady_freenectOpenDevice (index : Int) :
    (steady count attrs bySerial byIndex calls).freenectOpenDevice index =
      (byIndex, steady count attrs bySerial byIndex (calls ++ [.openDevice index])) := rfl

@[simp] theorem steady_sleep (ms : Nat) :
    (steady count attrs bySerial byIndex calls).sleep ms =
      steady count attrs bySerial byIndex (calls ++ [.sleep ms]) := rfl

end Steady

end Driver

/-- `serial.rfind("DeviceIndex-", 0) == 0`. -/
def isSyntheticIndexSerial (serial : String) : Bool :=
  "DeviceIndex-".toList.isPrefixOf serial.toList

def syntheticIndexSerial (index : Nat) : String := "DeviceIndex-" ++ toString index

structure DeviceInfo where
  generation : KinectGeneration
  serial : String
  name : String
  deriving DecidableEq, Repr

def kinectV1Info (serial : String) : DeviceInfo := ⟨.kV1, serial, "Kinect v1"⟩

/-! ## The attempt loop -/

/-- The loop of `EnumerateCountWithRetries` and of `listDevices`: call, stop at the first
definitive success, and sleep `delay` ms only when another attempt follows. -/
def retry (call : Driver → α × Driver) (done : α → Bool) (delay : Nat) :
    Nat → Driver → Option α × Driver
  | 0, d => (none, d)
  | left + 1, d =>
    let r := call d
    if done r.1 then (some r.1, r.2)
    else retry call done delay left (if left = 0 then r.2 else r.2.sleep delay)

def enumerateCountWithRetries (attempts delayMs : Int) (d : Driver) : Int × Driver :=
  if d.context then
    let r := retry Driver.freenectNumDevices (· != 0) (max 0 delayMs).toNat (max 1 attempts).toNat
      d
    (r.1.getD 0, r.2)
  else (-1, d)

/-- The success test of `listDevices`' loop: `count > 0 && attrs != nullptr`. -/
def attributesListed (a : Int × List (Option String)) : Bool := 0 < a.1 && !a.2.isEmpty

def attributeInfos (attrs : List (Option String)) : List DeviceInfo :=
  attrs.enum.map fun (index, serial) => kinectV1Info (serial.getD (syntheticIndexSerial index))

def listDevices (d : Driver) : List DeviceInfo × Driver :=
  if d.context then
    let r := retry Driver.freenectListDeviceAttributes attributesListed 80 4 d
    match r.1 with
    | some (_, attrs) => (attributeInfos attrs, r.2)
    | none =>
      let e := enumerateCountWithRetries 4 80 r.2
      ((List.range (max 0 e.1).toNat).map fun i => kinectV1Info (syntheticIndexSerial i), e.2)
  else ([], d)

/-! ## Opening -/

inductive Session where
  | byCameraSerial (serial : String)
  | byIndex (index : Int)
  deriving DecidableEq, Repr

/-- `FreenectV1Device::open` on a device built with `index_` and `serial_`: the session that
`dev_` holds when it returns true. -/
def deviceOpen (index : Int) (serial : String) (d : Driver) : Option Session × Driver :=
  if d.context then
    let exact : Option Session × Driver :=
      if serial ≠ "" ∧ isSyntheticIndexSerial serial = false then
        let r := d.freenectOpenDeviceByCameraSerial serial
        (if r.1.2 then some (.byCameraSerial serial) else none, r.2)
      else (none, d)
    match exact.1 with
    | some session => (some session, exact.2)
    | none =>
      if 0 ≤ index then
        let r := exact.2.freenectOpenDevice index
        (if r.1.1 < 0 ∨ r.1.2 = false then none else some (.byIndex index), r.2)
      else (none, exact.2)
  else (none, d)

def isSpace (c : Char) : Bool :=
  c = ' ' || c = '\t' || c = '\n' || c = '\x0b' || c = '\x0c' || c = '\r'

/-- `std::stoi`: white space, an optional sign, then decimal digits as far as they go; `none`
where it throws (no digit, or a value outside `int`). -/
def stoi (s : String) : Option Int :=
  let rest := s.toList.dropWhile isSpace
  let signed : Bool × List Char := match rest with
    | '-' :: r => (true, r)
    | '+' :: r => (false, r)
    | r => (false, r)
  let digits := signed.2.takeWhile Char.isDigit
  let magnitude : Nat := digits.foldl (fun n c => 10 * n + (c.toNat - '0'.toNat)) 0
  let value : Int := if signed.1 then -magnitude else magnitude
  if digits = [] ∨ value < -2 ^ 31 ∨ 2 ^ 31 ≤ value then none else some value

/-- The candidates of one attempt: the parsed or listed index first, then every index
below `count` not seen yet. -/
def candidateIndices (first : List Int) (count : Int) : List Int :=
  first ++ ((List.range count.toNat).map Int.ofNat).filter (· ∉ first)

/-- The `try_open` calls of one attempt, in order, up to the first that opens. -/
def tryCandidates (serial : String) : List Int → Driver → Option Session × Driver
  | [], d => (none, d)
  | index :: rest, d =>
    let r := deviceOpen index serial d
    match r.1 with
    | some session => (some session, r.2)
    | none => tryCandidates serial rest r.2

def kMaxRetries : Nat := 6

/-- The positions `openDevice` tries first: the parsed `DeviceIndex-` suffix, or the index at
which `listDevices` reports `serial`. -/
def firstCandidate (serial : String) (d : Driver) : List Int × Driver :=
  if isSyntheticIndexSerial serial then ((stoi (String.mk (serial.toList.drop 12))).toList, d)
  else if serial ≠ "" then
    let l := listDevices d
    (((l.1.findIdx? (·.serial == serial)).map Int.ofNat).toList, l.2)
  else ([], d)

/-- The outer attempts of `openDevice`, `left` of them to go. -/
def openAttempts (serial : String) : Nat → Driver → Option Session × Driver
  | 0, d => (none, d)
  | left + 1, d =>
    let exact : Option Session × Driver :=
      if serial ≠ "" ∧ isSyntheticIndexSerial serial = false then deviceOpen (-1) serial d
      else (none, d)
    match exact.1 with
    | some session => (some session, exact.2)
    | none =>
      let e := enumerateCountWithRetries 2 80 exact.2
      let first := firstCandidate serial e.2
      let r := tryCandidates serial (candidateIndices first.1 (max 0 e.1)) first.2
      match r.1 with
      | some session => (some session, r.2)
      | none => openAttempts serial left (r.2.sleep 250)

def openDevice (serial : String) (d : Driver) : Option Session × Driver :=
  if d.context then openAttempts serial kMaxRetries d else (none, d)

/-! ## The retry law -/

/-- A native call that answers from its own stream: it returns the head, drops it, logs
itself, and a sleep leaves the stream as it is. -/
structure Streamed (call : Driver → α × Driver) (answers : Driver → Nat → α) (c : Native) :
    Prop where
  answer : ∀ d, (call d).1 = answers d 0
  shift : ∀ d, answers (call d).2 = fun i => answers d (i + 1)
  logged : ∀ d, (call d).2.calls = d.calls ++ [c]
  quiet : ∀ d ms, answers (d.sleep ms) = answers d

theorem numDevices_streamed :
    Streamed Driver.freenectNumDevices Driver.numDevices .numDevices :=
  ⟨fun _ => rfl, fun _ => rfl, fun _ => rfl, fun _ _ => rfl⟩

theorem deviceAttributes_streamed :
    Streamed Driver.freenectListDeviceAttributes Driver.deviceAttributes .listDeviceAttributes :=
  ⟨fun _ => rfl, fun _ => rfl, fun _ => rfl, fun _ _ => rfl⟩

/-- How many calls a loop over these answers makes: up to and including the first success,
or all of them. -/
def attemptsMade (done : α → Bool) (answers : List α) : Nat :=
  ((answers.findIdx? done).map (· + 1)).getD answers.length

/-- `k` calls of `c`, one sleep of `delay` between consecutive calls and none after the last. -/
def spaced (c : Native) (delay k : Nat) : List Native :=
  (List.replicate k c).intersperse (.sleep delay)

theorem attemptsMade_cons (done : α → Bool) (a : α) (rest : List α) :
    attemptsMade done (a :: rest) = if done a then 1 else attemptsMade done rest + 1 := by
  unfold attemptsMade
  rw [List.findIdx?_cons]
  split
  · rfl
  · rw [List.findIdx?_succ]
    cases rest.findIdx? done <;> simp

theorem spaced_succ_succ (c : Native) (delay k : Nat) :
    spaced c delay (k + 2) = c :: .sleep delay :: spaced c delay (k + 1) := rfl

section Retry

variable {call : Driver → α × Driver} {answers : Driver → Nat → α} {c : Native}

/-- The loop makes one call per answer up to the first success, sleeping only between two
calls, and reports that success. -/
theorem Streamed.retry (streamed : Streamed call answers c) (done : α → Bool) (delay n : Nat)
    (d : Driver) :
    (retry call done delay n d).1 = ((List.range n).map (answers d)).find? done ∧
    (retry call done delay n d).2.calls =
      d.calls ++ spaced c delay (attemptsMade done ((List.range n).map (answers d))) := by
  induction n generalizing d with
  | zero => simp [MacKinect.FreenectV1.retry, attemptsMade, spaced]
  | succ n ih =>
    have tries : (List.range (n + 1)).map (answers d) =
        answers d 0 :: (List.range n).map (answers (call d).2) := by
      simp [List.range_succ_eq_map, streamed.shift, Function.comp_def]
    rw [tries, attemptsMade_cons]
    by_cases hit : done (answers d 0)
    · simp [MacKinect.FreenectV1.retry, streamed.answer, hit, spaced, streamed.logged]
    · have step : FreenectV1.retry call done delay (n + 1) d = FreenectV1.retry call done delay n
          (if n = 0 then (call d).2 else (call d).2.sleep delay) := by
        simp [MacKinect.FreenectV1.retry, streamed.answer, hit]
      have same : answers (if n = 0 then (call d).2 else (call d).2.sleep delay) =
          answers (call d).2 := by
        split <;> simp [streamed.quiet]
      obtain ⟨result, log⟩ := ih (if n = 0 then (call d).2 else (call d).2.sleep delay)
      rw [same] at result log
      rw [step, result, log, if_neg hit]
      refine ⟨by simp [hit], ?_⟩
      cases n with
      | zero => simp [streamed.logged, attemptsMade, spaced]
      | succ k =>
        obtain ⟨m, made⟩ : ∃ m, attemptsMade done
            ((List.range (k + 1)).map (answers (call d).2)) = m + 1 := by
          rw [List.range_succ_eq_map, List.map_cons, attemptsMade_cons]
          split
          · exact ⟨0, rfl⟩
          · exact ⟨_, rfl⟩
        simp [made, spaced_succ_succ, Driver.sleep, streamed.logged]

/-- A retry loop leaves alone what its call and sleeps leave alone. -/
theorem retry_frame (other : Driver → β) (kept : ∀ d, other (call d).2 = other d)
    (quiet : ∀ d ms, other (d.sleep ms) = other d) (done : α → Bool) (delay n : Nat)
    (d : Driver) : other (retry call done delay n d).2 = other d := by
  induction n generalizing d with
  | zero => rfl
  | succ n ih =>
    simp only [FreenectV1.retry]
    split
    · exact kept d
    · rw [ih]
      split <;> simp [kept, quiet]

end Retry

theorem enumerateCountWithRetries_spec (attempts delayMs : Int) {d : Driver}
    (ready : d.context = true) :
    (enumerateCountWithRetries attempts delayMs d).1 =
        (((List.range (max 1 attempts).toNat).map d.numDevices).find? (· != 0)).getD 0 ∧
      (enumerateCountWithRetries attempts delayMs d).2.calls = d.calls ++
        spaced .numDevices (max 0 delayMs).toNat
          (attemptsMade (· != 0) ((List.range (max 1 attempts).toNat).map d.numDevices)) := by
  have law := numDevices_streamed.retry (· != 0) (max 0 delayMs).toNat (max 1 attempts).toNat d
  simp only [enumerateCountWithRetries, ready, if_true]
  exact ⟨by rw [law.1], law.2⟩

/-- `listDevices` returns the records of the first of four listings that names a unit, after
one call per listing tried; when none does, it falls back to the first non-zero of four counts. -/
theorem listDevices_spec {d : Driver} (ready : d.context = true) :
    (listDevices d).1 =
        (match ((List.range 4).map d.deviceAttributes).find? attributesListed with
          | some a => attributeInfos a.2
          | none => (List.range (max 0 ((((List.range 4).map d.numDevices).find? (· != 0)).getD
              0)).toNat).map fun i => kinectV1Info (syntheticIndexSerial i)) ∧
      (listDevices d).2.calls = d.calls ++
        spaced .listDeviceAttributes 80
          (attemptsMade attributesListed ((List.range 4).map d.deviceAttributes)) ++
        (match ((List.range 4).map d.deviceAttributes).find? attributesListed with
          | some _ => []
          | none =>
            spaced .numDevices 80 (attemptsMade (· != 0) ((List.range 4).map d.numDevices))) := by
  obtain ⟨result, log⟩ := deviceAttributes_streamed.retry attributesListed 80 4 d
  have counts : (retry Driver.freenectListDeviceAttributes attributesListed 80 4 d).2.numDevices =
      d.numDevices := retry_frame Driver.numDevices (fun _ => rfl) (fun _ _ => rfl) _ _ _ _
  have context : (retry Driver.freenectListDeviceAttributes attributesListed 80 4 d).2.context =
      d.context := retry_frame Driver.context (fun _ => rfl) (fun _ _ => rfl) _ _ _ _
  simp only [listDevices, ready, if_true]
  rw [result]
  cases ((List.range 4).map d.deviceAttributes).find? attributesListed with
  | some a => simp [log]
  | none =>
    obtain ⟨found, logged⟩ := enumerateCountWithRetries_spec 4 80 (context.trans ready)
    rw [show (max 1 (4 : Int)).toNat = 4 from rfl, counts] at found logged
    simp [found, logged, log, show (max 0 (80 : Int)).toNat = 80 from rfl]

/-- CaptureRetryPolicy as `EnumerateCountWithRetries` and `listDevices` implement it. -/
theorem capture_retry_policy (attempts delayMs : Int) {d : Driver} (ready : d.context = true) :
    ((enumerateCountWithRetries attempts delayMs d).1 =
        (((List.range (max 1 attempts).toNat).map d.numDevices).find? (· != 0)).getD 0 ∧
      (enumerateCountWithRetries attempts delayMs d).2.calls = d.calls ++
        spaced .numDevices (max 0 delayMs).toNat
          (attemptsMade (· != 0) ((List.range (max 1 attempts).toNat).map d.numDevices))) ∧
    ((listDevices d).1 =
        (match ((List.range 4).map d.deviceAttributes).find? attributesListed with
          | some a => attributeInfos a.2
          | none => (List.range (max 0 ((((List.range 4).map d.numDevices).find? (· != 0)).getD
              0)).toNat).map fun i => kinectV1Info (syntheticIndexSerial i)) ∧
      (listDevices d).2.calls = d.calls ++
        spaced .listDeviceAttributes 80
          (attemptsMade attributesListed ((List.range 4).map d.deviceAttributes)) ++
        (match ((List.range 4).map d.deviceAttributes).find? attributesListed with
          | some _ => []
          | none =>
            spaced .numDevices 80 (attemptsMade (· != 0) ((List.range 4).map d.numDevices)))) :=
  ⟨enumerateCountWithRetries_spec attempts delayMs ready, listDevices_spec ready⟩

/-- The enumerator of the policy's scenario: no unit on attempts 1 to 3, two on attempt 4. -/
def lateEnumerator : Driver :=
  ⟨true, fun i => if i < 3 then 0 else 2, fun i => if i < 3 then (0, []) else (2, [none, none]),
    fun _ => (-1, false), fun _ => (-1, false), []⟩

theorem capture_retry_policy_late_enumerator :
    lateEnumerator.context = true ∧
    (((enumerateCountWithRetries 4 80 lateEnumerator).1 =
        (((List.range (max 1 (4 : Int)).toNat).map lateEnumerator.numDevices).find? (· != 0)).getD 0 ∧
      (enumerateCountWithRetries 4 80 lateEnumerator).2.calls = lateEnumerator.calls ++
        spaced .numDevices (max 0 (80 : Int)).toNat
          (attemptsMade (· != 0) ((List.range (max 1 (4 : Int)).toNat).map lateEnumerator.numDevices))) ∧
    ((listDevices lateEnumerator).1 =
        (match ((List.range 4).map lateEnumerator.deviceAttributes).find? attributesListed with
          | some a => attributeInfos a.2
          | none => (List.range (max 0 ((((List.range 4).map lateEnumerator.numDevices).find?
              (· != 0)).getD 0)).toNat).map fun i => kinectV1Info (syntheticIndexSerial i)) ∧
      (listDevices lateEnumerator).2.calls = lateEnumerator.calls ++
        spaced .listDeviceAttributes 80
          (attemptsMade attributesListed ((List.range 4).map lateEnumerator.deviceAttributes)) ++
        (match ((List.range 4).map lateEnumerator.deviceAttributes).find? attributesListed with
          | some _ => []
          | none => spaced .numDevices 80
              (attemptsMade (· != 0) ((List.range 4).map lateEnumerator.numDevices))))) :=
  ⟨rfl, capture_retry_policy 4 80 rfl⟩

example : (listDevices lateEnumerator).1.length = 2 ∧
    (listDevices lateEnumerator).2.calls.count (.sleep 80) = 3 := by decide

theorem driver_error_ends_enumeration (attempts delayMs : Int) (d : Driver)
    (ready : d.context = true) (failed : d.numDevices 0 < 0) :
    (enumerateCountWithRetries attempts delayMs d).1 = d.numDevices 0 ∧
      (enumerateCountWithRetries attempts delayMs d).2.calls = d.calls ++ [.numDevices] := by
  obtain ⟨result, log⟩ := enumerateCountWithRetries_spec attempts delayMs ready
  obtain ⟨k, budget⟩ : ∃ k, (max 1 attempts).toNat = k + 1 :=
    ⟨(max 1 attempts).toNat - 1, by omega⟩
  have stops : (d.numDevices 0 != 0) = true := by simp; omega
  rw [budget, List.range_succ_eq_map, List.map_cons] at result log
  rw [result, log, attemptsMade_cons, if_pos stops]
  simp [stops, spaced]

/-- The driver fails its first count and would report two units on the next. -/
def transientError : Driver :=
  ⟨true, fun i => if i = 0 then -1 else 2, fun _ => (0, []), fun _ => (-1, false),
    fun _ => (-1, false), []⟩

theorem transient_error_ends_enumeration :
    transientError.context = true ∧ transientError.numDevices 0 < 0 ∧
      ((enumerateCountWithRetries 4 80 transientError).1 = transientError.numDevices 0 ∧
        (enumerateCountWithRetries 4 80 transientError).2.calls =
          transientError.calls ++ [.numDevices]) :=
  ⟨rfl, by decide, driver_error_ends_enumeration 4 80 transientError rfl (by decide)⟩

/-! ## Opening an exact serial -/

/-- `open` on an exact serial: the serial open first, then `index_` when that set no `dev`
and `index_ ≥ 0`. -/
theorem deviceOpen_exact {serial : String} (named : serial ≠ "")
    (exact : isSyntheticIndexSerial serial = false) (index : Int) {d : Driver}
    (ready : d.context = true) :
    deviceOpen index serial d =
      if (d.openByCameraSerial 0).2 then
        (some (.byCameraSerial serial), (d.freenectOpenDeviceByCameraSerial serial).2)
      else if 0 ≤ index then
        (if (d.openByIndex 0).1 < 0 ∨ (d.openByIndex 0).2 = false then none
          else some (.byIndex index),
         ((d.freenectOpenDeviceByCameraSerial serial).2.freenectOpenDevice index).2)
      else (none, (d.freenectOpenDeviceByCameraSerial serial).2) := by
  simp only [deviceOpen, ready, named, exact, ne_eq, not_false_eq_true, and_self, if_true]
  by_cases opened : (d.openByCameraSerial 0).2 <;>
    simp [opened, Driver.freenectOpenDeviceByCameraSerial, Driver.freenectOpenDevice]

theorem syntheticIndexSerial_synthetic (index : Nat) :
    isSyntheticIndexSerial (syntheticIndexSerial index) = true := by
  simp [isSyntheticIndexSerial, syntheticIndexSerial]

/-- The unit named by the caller is gone: every serial open fails, while one other unit,
whose attribute record carries `other`, is counted, listed and opened at index 0. -/
def unitSwapped (other : Option String) (calls : List Native) : Driver :=
  .steady 1 (1, [other]) (-1, false) (0, true) calls

theorem exact_serial_opens_other_unit (serial : String) (named : serial ≠ "")
    (exact : isSyntheticIndexSerial serial = false) (other : Option String)
    (different : other ≠ some serial) :
    (openDevice serial (unitSwapped other [])).1 = some (.byIndex 0) := by
  have unlisted : (other.getD (syntheticIndexSerial 0) == serial) = false := by
    cases other with
    | none => simp; rintro rfl; simp [syntheticIndexSerial_synthetic] at exact
    | some o => simpa using fun h => different (congrArg some h)
  have serialFails : ∀ l, deviceOpen (-1) serial (unitSwapped other l) =
      (none, unitSwapped other (l ++ [.openDeviceByCameraSerial serial])) := by
    intro l
    rw [deviceOpen_exact named exact _ rfl]
    rfl
  have counted : ∀ l, enumerateCountWithRetries 2 80 (unitSwapped other l) =
      (1, unitSwapped other (l ++ [.numDevices])) := fun _ => rfl
  have listed : ∀ l, firstCandidate serial (unitSwapped other l) =
      ([], unitSwapped other (l ++ [.listDeviceAttributes])) := by
    intro l
    have infos : listDevices (unitSwapped other l) =
        ([kinectV1Info (other.getD (syntheticIndexSerial 0))],
          unitSwapped other (l ++ [.listDeviceAttributes])) := rfl
    simp [firstCandidate, exact, named, infos, kinectV1Info, unlisted]
  have indexOpens : ∀ l, tryCandidates serial [0] (unitSwapped other l) =
      (some (.byIndex 0),
        unitSwapped other (l ++ [.openDeviceByCameraSerial serial] ++ [.openDevice 0])) := by
    intro l
    rw [tryCandidates, deviceOpen_exact named exact _ rfl]
    rfl
  show (openAttempts serial (5 + 1) _).1 = _
  rw [openAttempts]
  simp only [if_pos (And.intro named exact), serialFails, counted, listed,
    show candidateIndices [] (max 0 1) = [0] from rfl, indexOpens]

theorem exact_serial_opens_other_unit_at_zero :
    "A" ≠ "" ∧ isSyntheticIndexSerial "A" = false ∧ some "B" ≠ some "A" ∧
      (openDevice "A" (unitSwapped (some "B") [])).1 = some (.byIndex 0) :=
  ⟨by decide, by decide, by decide,
    exact_serial_opens_other_unit "A" (by decide) (by decide) (some "B") (by decide)⟩

end MacKinect.FreenectV1
