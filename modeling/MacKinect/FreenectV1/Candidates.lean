import Mathlib.Data.List.Nodup
import MacKinect.FreenectV1.Backend

/-! Positional identifiers and the candidate lists of `openDevice`. `listDevices` names a
unit it has no serial for `"DeviceIndex-" + std::to_string(i)`, in its attribute loop and in
its index-only fallback alike; `openDevice` reads the position back with
`std::stoi(serial.substr(12))` and never opens such an identifier by serial. Each outer
attempt builds its candidates from that position, or the listed position of a real serial,
and the enumeration count, deduplicating through an `unordered_set`. -/
namespace MacKinect.FreenectV1

/-! ## The decimal round trip -/

/-- `d'` is `d` after calls none of which is `freenect_open_device_by_camera_serial`. -/
def SerialUntried (d d' : Driver) : Prop :=
  ∃ made, d'.calls = d.calls ++ made ∧ ∀ serial, Native.openDeviceByCameraSerial serial ∉ made

section SerialUntried

variable {d d' d'' : Driver}

theorem SerialUntried.refl (d : Driver) : SerialUntried d d := ⟨[], by simp, by simp⟩

theorem SerialUntried.trans (first : SerialUntried d d') (second : SerialUntried d' d'') :
    SerialUntried d d'' := by
  obtain ⟨made, calls, clean⟩ := first
  obtain ⟨more, calls', clean'⟩ := second
  exact ⟨made ++ more, by simp [calls, calls'], fun serial => by simp [clean, clean']⟩

section Positional

variable {serial : String} (synthetic : isSyntheticIndexSerial serial = true)
include synthetic

end Positional

end SerialUntried

/-! ## The candidates of one attempt -/

/-- The loop `for (int i = 0; i < count; ++i) if (seen.insert(i).second) candidates.push_back(i);`
over `indices`, with the `unordered_set` as a list. -/
def pushUnseen (seen candidates : List Int) : List Int → List Int
  | [] => candidates
  | i :: rest =>
    if i ∈ seen then pushUnseen seen candidates rest
    else pushUnseen (i :: seen) (candidates ++ [i]) rest

theorem pushUnseen_eq_filter (seen candidates indices : List Int) (distinct : indices.Nodup) :
    pushUnseen seen candidates indices = candidates ++ indices.filter (· ∉ seen) := by
  induction indices generalizing seen candidates with
  | nil => simp [pushUnseen]
  | cons i rest ih =>
    obtain ⟨fresh, distinct⟩ := List.nodup_cons.1 distinct
    by_cases seenBefore : i ∈ seen
    · simp [pushUnseen, seenBefore, ih _ _ distinct]
    · have same : rest.filter (· ∉ i :: seen) = rest.filter (· ∉ seen) :=
        List.filter_congr fun j mem => by
          have : j ≠ i := fun same => fresh (same ▸ mem)
          simp [this]
      rw [pushUnseen, if_neg seenBefore, ih _ _ distinct, same,
        List.filter_cons_of_pos (by simpa using seenBefore)]
      simp

/-- `candidateIndices` is the code's loop, with `seen` and `candidates` seeded alike. -/
theorem candidateIndices_eq_pushUnseen (first : List Int) (count : Int) :
    candidateIndices first count =
      pushUnseen first first ((List.range count.toNat).map Int.ofNat) := by
  rw [pushUnseen_eq_filter _ _ _ ((List.nodup_range _).map fun _ _ => Int.ofNat.inj),
    candidateIndices]

/-- The preferred index goes first and is not pushed again; a negative one stays in front. -/
example : candidateIndices [1] 3 = [1, 0, 2] ∧ candidateIndices [-3] 2 = [-3, 0, 1] := by decide

/-- The preferred index is parsed or listed at most once. -/
theorem firstCandidate_nodup (serial : String) (d : Driver) :
    (firstCandidate serial d).1.Nodup := by
  unfold firstCandidate
  split
  · exact Option.toList_nodup _
  · split
    · exact Option.toList_nodup _
    · exact List.nodup_nil

/-- A driver with a context on which every open fails: no serial open sets `dev`, and every
index open returns an error or sets no `dev`. -/
structure Driver.Refuses (d : Driver) : Prop where
  context : d.context = true
  bySerial : ∀ k, (d.openByCameraSerial k).2 = false
  byIndex : ∀ k, (d.openByIndex k).1 < 0 ∨ (d.openByIndex k).2 = false

theorem Driver.Refuses.freenectOpenDeviceByCameraSerial {d : Driver} (refuses : d.Refuses)
    (serial : String) : (d.freenectOpenDeviceByCameraSerial serial).2.Refuses :=
  ⟨refuses.context, fun k => refuses.bySerial (k + 1), refuses.byIndex⟩

theorem Driver.Refuses.freenectOpenDevice {d : Driver} (refuses : d.Refuses) (index : Int) :
    (d.freenectOpenDevice index).2.Refuses :=
  ⟨refuses.context, refuses.bySerial, fun k => refuses.byIndex (k + 1)⟩

/-- The indices of the `freenect_open_device` calls of a log. -/
def indexOpens (calls : List Native) : List Int :=
  calls.filterMap fun
    | .openDevice index => some index
    | _ => none

@[simp] theorem indexOpens_append (calls more : List Native) :
    indexOpens (calls ++ more) = indexOpens calls ++ indexOpens more :=
  List.filterMap_append _ _ _

/-- On a refusing driver `FreenectV1Device::open` fails, having opened `index_` if it is not
negative. -/
theorem deviceOpen_refused {d : Driver} (refuses : d.Refuses) (index : Int) (serial : String) :
    (deviceOpen index serial d).1 = none ∧ (deviceOpen index serial d).2.Refuses ∧
      indexOpens (deviceOpen index serial d).2.calls =
        indexOpens d.calls ++ if 0 ≤ index then [index] else [] := by
  obtain ⟨tried, triedRefuses, triedCalls, exact⟩ : ∃ tried : Driver, tried.Refuses ∧
      indexOpens tried.calls = indexOpens d.calls ∧
      (if serial ≠ "" ∧ isSyntheticIndexSerial serial = false then
        ((if (d.freenectOpenDeviceByCameraSerial serial).1.2 then
          some (Session.byCameraSerial serial) else none),
          (d.freenectOpenDeviceByCameraSerial serial).2) else (none, d)) = (none, tried) := by
    split
    · refine ⟨_, refuses.freenectOpenDeviceByCameraSerial serial,
        by simp [Driver.freenectOpenDeviceByCameraSerial, indexOpens], ?_⟩
      simp [Driver.freenectOpenDeviceByCameraSerial, refuses.bySerial 0]
    · exact ⟨d, refuses, rfl, rfl⟩
  simp only [deviceOpen, refuses.context, if_true, exact]
  split
  · refine ⟨if_pos (triedRefuses.byIndex 0), triedRefuses.freenectOpenDevice index, ?_⟩
    simp only [Driver.freenectOpenDevice, indexOpens_append, triedCalls, if_pos ‹0 ≤ index›]
    rfl
  · simp [triedRefuses, triedCalls, *]

theorem tryCandidates_refused {d : Driver} (refuses : d.Refuses) (serial : String)
    (candidates : List Int) :
    (tryCandidates serial candidates d).1 = none ∧ (tryCandidates serial candidates d).2.Refuses ∧
      indexOpens (tryCandidates serial candidates d).2.calls =
        indexOpens d.calls ++ candidates.filter (0 ≤ ·) := by
  induction candidates generalizing d with
  | nil => exact ⟨rfl, refuses, by simp [tryCandidates]⟩
  | cons index rest ih =>
    obtain ⟨failed, refuses', opened⟩ := deviceOpen_refused refuses index serial
    obtain ⟨failed'', refuses'', opened''⟩ := ih refuses'
    simp only [tryCandidates, failed]
    refine ⟨failed'', refuses'', ?_⟩
    rw [opened'', opened]
    by_cases nonneg : 0 ≤ index <;> simp [nonneg, List.filter_cons]

/-- `d'` is `d` after calls that open nothing by index and keep a refusing driver refusing. -/
structure OpensNothing (d d' : Driver) : Prop where
  refuses : d.Refuses → d'.Refuses
  indexOpens : indexOpens d'.calls = indexOpens d.calls

section OpensNothing

variable {d d' d'' : Driver}

theorem OpensNothing.refl (d : Driver) : OpensNothing d d := ⟨id, rfl⟩

theorem OpensNothing.trans (first : OpensNothing d d') (second : OpensNothing d' d'') :
    OpensNothing d d'' :=
  ⟨second.refuses ∘ first.refuses, second.indexOpens.trans first.indexOpens⟩

theorem opensNothing_sleep (d : Driver) (ms : Nat) : OpensNothing d (d.sleep ms) :=
  ⟨fun r => ⟨r.1, r.2, r.3⟩, by simp [Driver.sleep, indexOpens]⟩

theorem opensNothing_freenectNumDevices (d : Driver) :
    OpensNothing d d.freenectNumDevices.2 :=
  ⟨fun r => ⟨r.1, r.2, r.3⟩, by simp [Driver.freenectNumDevices, indexOpens]⟩

theorem opensNothing_freenectListDeviceAttributes (d : Driver) :
    OpensNothing d d.freenectListDeviceAttributes.2 :=
  ⟨fun r => ⟨r.1, r.2, r.3⟩, by simp [Driver.freenectListDeviceAttributes, indexOpens]⟩

theorem opensNothing_retry {call : Driver → α × Driver} (step : ∀ d, OpensNothing d (call d).2)
    (done : α → Bool) (delay n : Nat) (d : Driver) :
    OpensNothing d (retry call done delay n d).2 := by
  induction n generalizing d with
  | zero => exact .refl d
  | succ n ih =>
    simp only [retry]
    split
    · exact step d
    · refine (step d).trans (.trans ?_ (ih _))
      split
      · exact .refl _
      · exact opensNothing_sleep _ _

theorem opensNothing_enumerateCountWithRetries (attempts delayMs : Int) (d : Driver) :
    OpensNothing d (enumerateCountWithRetries attempts delayMs d).2 := by
  unfold enumerateCountWithRetries
  split
  · exact opensNothing_retry opensNothing_freenectNumDevices _ _ _ d
  · exact .refl d

theorem opensNothing_listDevices (d : Driver) : OpensNothing d (listDevices d).2 := by
  unfold listDevices
  split
  · have listed :=
      opensNothing_retry opensNothing_freenectListDeviceAttributes attributesListed 80 4 d
    dsimp only
    split
    · exact listed
    · exact listed.trans (opensNothing_enumerateCountWithRetries _ _ _)
  · exact .refl d

theorem opensNothing_firstCandidate (serial : String) (d : Driver) :
    OpensNothing d (firstCandidate serial d).2 := by
  unfold firstCandidate
  split
  · exact .refl d
  · split
    · exact opensNothing_listDevices d
    · exact .refl d

end OpensNothing

/-- One outer attempt of `openDevice` on a refusing driver: it opens, in order, the candidates
of that attempt that are not negative, built from the attempt's own enumeration count, and the
loop goes on with one attempt fewer. -/
theorem openAttempts_refused (serial : String) (left : Nat) {d : Driver} (refuses : d.Refuses) :
    let tried := (if serial ≠ "" ∧ isSyntheticIndexSerial serial = false then
      deviceOpen (-1) serial d else (none, d))
    let e := enumerateCountWithRetries 2 80 tried.2
    let first := firstCandidate serial e.2
    ∃ d', d'.Refuses ∧
      indexOpens d'.calls =
        indexOpens d.calls ++ (candidateIndices first.1 (max 0 e.1)).filter (0 ≤ ·) ∧
      openAttempts serial (left + 1) d = openAttempts serial left d' := by
  intro tried e first
  have exact : tried.1 = none ∧ OpensNothing d tried.2 := by
    simp only [tried]
    split
    · obtain ⟨failed, refuses', opened⟩ := deviceOpen_refused refuses (-1) serial
      exact ⟨failed, ⟨fun _ => refuses', by simpa using opened⟩⟩
    · exact ⟨rfl, .refl d⟩
  have before := (exact.2.trans (opensNothing_enumerateCountWithRetries 2 80 _)).trans
    (opensNothing_firstCandidate serial e.2)
  obtain ⟨failed, refuses', opened⟩ :=
    tryCandidates_refused (before.refuses refuses) serial (candidateIndices first.1 (max 0 e.1))
  refine ⟨_, (opensNothing_sleep _ 250).refuses refuses',
    ((opensNothing_sleep _ 250).indexOpens.trans opened).trans (by rw [before.indexOpens]), ?_⟩
  show (match tried.1 with
    | some session => (some session, tried.2)
    | none => match (tryCandidates serial (candidateIndices first.1 (max 0 e.1)) first.2).1 with
      | some session => (some session, _)
      | none => openAttempts serial left _) = _
  rw [exact.1, failed]

theorem candidates_cover_each_index_once (serial : String) (left : Nat) (d : Driver)
    (refuses : d.Refuses) :
    let tried := (if serial ≠ "" ∧ isSyntheticIndexSerial serial = false then
      deviceOpen (-1) serial d else (none, d))
    let e := enumerateCountWithRetries 2 80 tried.2
    let first := (firstCandidate serial e.2).1
    let candidates := candidateIndices first (max 0 e.1)
    candidates = pushUnseen first first ((List.range (max 0 e.1).toNat).map Int.ofNat) ∧
    candidates.Nodup ∧ (∀ i, i ∈ candidates ↔ i ∈ first ∨ 0 ≤ i ∧ i < e.1) ∧
    (∀ p, (isSyntheticIndexSerial serial = true ∧
          stoi (String.mk (serial.toList.drop 12)) = some p ∨
        isSyntheticIndexSerial serial = false ∧ serial ≠ "" ∧
          ((listDevices e.2).1.findIdx? (·.serial == serial)).map Int.ofNat = some p) →
      candidates.head? = some p) ∧
    ∃ d', d'.Refuses ∧ indexOpens d'.calls = indexOpens d.calls ++ candidates.filter (0 ≤ ·) ∧
      openAttempts serial (left + 1) d = openAttempts serial left d' := by
  intro tried e first candidates
  have enumerated :
      ∀ i, i ∈ (List.range (max 0 e.1).toNat).map Int.ofNat ↔ 0 ≤ i ∧ i < e.1 := by
    simp only [List.mem_map, List.mem_range, Int.ofNat_eq_coe]
    exact fun i => ⟨by rintro ⟨n, below, rfl⟩; omega,
      fun ⟨nonneg, below⟩ => ⟨i.toNat, by omega, by omega⟩⟩
  refine ⟨candidateIndices_eq_pushUnseen first _, ?_, fun i => ?_, fun p positioned => ?_,
    openAttempts_refused serial left refuses⟩
  · refine (firstCandidate_nodup serial e.2).append
      (((List.nodup_range _).map fun _ _ => Int.ofNat.inj).filter _) fun i inFirst inRest => ?_
    simp [List.mem_filter.1 inRest, inFirst] at inRest
  · simp only [candidates, candidateIndices, List.mem_append, List.mem_filter, enumerated,
      decide_eq_true_eq]
    by_cases inFirst : i ∈ first <;> simp [inFirst]
  · have positionFirst : first = [p] := by
      rcases positioned with ⟨synthetic, parsed⟩ | ⟨exact, named, found⟩
      · simp only [first, firstCandidate, if_pos synthetic, parsed]
        rfl
      · simp only [first, firstCandidate, exact, Bool.false_eq_true, if_false, if_pos named, found]
        rfl
    simp [candidates, candidateIndices, positionFirst]

/-- No unit opens: every open answers an error. -/
def refusing : Driver := .steady 2 (0, []) (-1, false) (-1, false) []

theorem candidates_cover_each_index_once_refusing :
    refusing.Refuses ∧
    (let tried := (if "DeviceIndex-1" ≠ "" ∧ isSyntheticIndexSerial "DeviceIndex-1" = false then
      deviceOpen (-1) "DeviceIndex-1" refusing else (none, refusing))
    let e := enumerateCountWithRetries 2 80 tried.2
    let first := (firstCandidate "DeviceIndex-1" e.2).1
    let candidates := candidateIndices first (max 0 e.1)
    candidates = pushUnseen first first ((List.range (max 0 e.1).toNat).map Int.ofNat) ∧
    candidates.Nodup ∧ (∀ i, i ∈ candidates ↔ i ∈ first ∨ 0 ≤ i ∧ i < e.1) ∧
    (∀ p, (isSyntheticIndexSerial "DeviceIndex-1" = true ∧
          stoi (String.mk ("DeviceIndex-1".toList.drop 12)) = some p ∨
        isSyntheticIndexSerial "DeviceIndex-1" = false ∧ "DeviceIndex-1" ≠ "" ∧
          ((listDevices e.2).1.findIdx? (·.serial == "DeviceIndex-1")).map Int.ofNat = some p) →
      candidates.head? = some p) ∧
    ∃ d', d'.Refuses ∧
      indexOpens d'.calls = indexOpens refusing.calls ++ candidates.filter (0 ≤ ·) ∧
      openAttempts "DeviceIndex-1" (0 + 1) refusing = openAttempts "DeviceIndex-1" 0 d') :=
  have refuses : refusing.Refuses := ⟨rfl, fun _ => rfl, fun _ => .inr rfl⟩
  ⟨refuses, candidates_cover_each_index_once "DeviceIndex-1" 0 refusing refuses⟩

end MacKinect.FreenectV1
