import Mathlib.Data.List.Nodup

/-! The sample queue of `dal_plugin/KinectCameraDALPlugin.cpp`. ProducerLoop creates one
sample buffer per tick and, holding gStateMutex, evicts from gSampleQueue while it is full
and enqueues; the host dequeues from the same CMSimpleQueue without that lock, at any
moment; FlushQueueLocked and TeardownObjects release what is left. The state carries the
history of every sample created, delivered and released, and one invariant over every
interleaving of these atomic steps says where each sample is. -/
namespace MacKinect.CameraDal

def kQueueCapacity : Nat := 8

/-- A sample buffer CreateSampleBuffer returned: its serial number, the producer session it
belongs to, and its frame_index. -/
structure Sample where
  id : Nat
  session : Nat
  frameIndex : Nat
  deriving DecidableEq, Repr

/-- Where ProducerLoop stands; `evicted` counts the evictions of the push in progress, and the
last three states hold gStateMutex. -/
inductive Producer where
  | idle
  | created (sample : Sample)
  | checking (sample : Sample) (evicted : Nat)
  | evicting (sample : Sample) (evicted : Nat)
  | enqueuing (sample : Sample) (evicted : Nat)
  deriving DecidableEq, Repr

def Producer.held : Producer → List Sample
  | .idle => []
  | .created sample | .checking sample _ | .evicting sample _ | .enqueuing sample _ => [sample]

@[simp] theorem Producer.held_idle : Producer.idle.held = [] := rfl

def Producer.locked : Producer → Bool
  | .checking .. | .evicting .. | .enqueuing .. => true
  | _ => false

/-- gSampleQueue (oldest first, `none` while it does not exist), the producer, gFrameCounter,
the session that counter belongs to, and what became of every sample. -/
structure Queueing where
  queue : Option (List Sample) := none
  producer : Producer := .idle
  frameCounter : Nat := 0
  session : Nat := 0
  created : List Sample := []
  delivered : List Sample := []
  released : List Sample := []
  deriving DecidableEq, Repr

inductive QueueEvent where
  | create (ok : Bool)
  | lock
  | check
  | evict
  | enqueue (accepted : Bool)
  | consume
  | flushOne
  | createQueue
  | restart
  | teardown
  deriving DecidableEq, Repr

/-- One atomic step; `none` when it cannot be taken now. `create` is the fetch_add of
gFrameCounter and CreateSampleBuffer (`ok` when it returned a buffer); `lock` takes
gStateMutex and tests gSampleQueue, releasing the sample when there is none; `check` is the
test of the eviction loop, `evict` its dequeue and CFRelease, `enqueue` the
CMSimpleQueueEnqueue (`accepted` its result; a full queue refuses), releasing the sample on
refusal. `consume` is the host's dequeue, `flushOne` one pass of FlushQueueLocked,
`createQueue` PlugInStreamCopyBufferQueue, `restart` the reset of gFrameCounter for a new
producer, and `teardown` the flush and release of the queue by TeardownObjects. -/
def Queueing.step (st : Queueing) : QueueEvent → Option Queueing
  | .create ok =>
    match st.producer with
    | .idle =>
      let sample : Sample := ⟨st.created.length, st.session, st.frameCounter⟩
      some (if ok then { st with frameCounter := st.frameCounter + 1, producer := .created sample,
                                 created := st.created ++ [sample] }
            else { st with frameCounter := st.frameCounter + 1 })
    | _ => none
  | .lock =>
    match st.producer, st.queue with
    | .created sample, none => some { st with producer := .idle, released := st.released ++ [sample] }
    | .created sample, some _ => some { st with producer := .checking sample 0 }
    | _, _ => none
  | .check =>
    match st.producer, st.queue with
    | .checking sample k, some q =>
      some { st with producer := if kQueueCapacity ≤ q.length then .evicting sample k
                                 else .enqueuing sample k }
    | _, _ => none
  | .evict =>
    match st.producer, st.queue with
    | .evicting sample k, some (old :: rest) =>
      some { st with producer := .checking sample (k + 1), queue := some rest,
                     released := st.released ++ [old] }
    | .evicting sample k, some [] => some { st with producer := .checking sample k }
    | _, _ => none
  | .enqueue accepted =>
    match st.producer, st.queue with
    | .enqueuing sample _, some q =>
      some (if accepted && decide (q.length < kQueueCapacity) then
              { st with producer := .idle, queue := some (q ++ [sample]) }
            else { st with producer := .idle, released := st.released ++ [sample] })
    | _, _ => none
  | .consume =>
    match st.queue with
    | some (sample :: rest) => some { st with queue := some rest, delivered := st.delivered ++ [sample] }
    | _ => none
  | .flushOne =>
    match st.producer.locked, st.queue with
    | false, some (sample :: rest) =>
      some { st with queue := some rest, released := st.released ++ [sample] }
    | _, _ => none
  | .createQueue =>
    match st.producer.locked, st.queue with
    | false, none => some { st with queue := some [] }
    | _, _ => none
  | .restart =>
    match st.producer with
    | .idle => some { st with frameCounter := 0, session := st.session + 1 }
    | _ => none
  | .teardown =>
    match st.producer, st.queue with
    | .idle, some q => some { st with queue := none, released := st.released ++ q }
    | _, _ => none

/-- A run of atomic steps; a step that cannot be taken leaves the state as it is. -/
def Queueing.run : List QueueEvent → Queueing → Queueing
  | [], st => st
  | e :: es, st => Queueing.run es ((st.step e).getD st)

/-- Within one session, frame indices rise. -/
def InOrder (a b : Sample) : Prop := a.session = b.session → a.frameIndex < b.frameIndex

/-- A push in progress evicts only from a full queue and at most once: after its eviction
the queue has room. -/
def Producer.EvictsOnce (room : Bool) : Producer → Prop
  | .checking _ k => k ≤ 1 ∧ (k = 1 → room = true)
  | .evicting _ k => k = 0
  | .enqueuing _ k => k ≤ 1
  | _ => True

def Queueing.items (st : Queueing) : List Sample := st.queue.getD []

/-- Every sample ever created is in exactly one place (the producer's hands, the queue,
delivered, released); the queue keeps creation order and the capacity; frame indices rise
within a session; and the serial numbers are those of creation. -/
structure Invariant (st : Queueing) : Prop where
  bounded : st.items.length ≤ kQueueCapacity
  evictions : st.producer.EvictsOnce (decide (st.items.length < kQueueCapacity))
  accounted : st.created.Perm (st.producer.held ++ st.items ++ st.delivered ++ st.released)
  ids : st.created.map Sample.id = List.range st.created.length
  fifo : (st.delivered ++ st.items ++ st.producer.held).Sublist st.created
  ordered : st.created.Pairwise InOrder
  fresh : ∀ a ∈ st.created, a.session < st.session ∨
    (a.session = st.session ∧ a.frameIndex < st.frameCounter)

theorem initial_invariant : Invariant {} :=
  ⟨by decide, trivial, .nil, rfl, .slnil, .nil, nofun⟩

theorem Producer.EvictsOnce.more_room {room room' : Bool} {p : Producer} (once : p.EvictsOnce room)
    (wider : room = true → room' = true) : p.EvictsOnce room' := by
  cases p <;> simp_all [Producer.EvictsOnce]

section Steps

variable {st : Queueing} (inv : Invariant st)
include inv

theorem Invariant.create_fails :
    Invariant { st with frameCounter := st.frameCounter + 1 } :=
  ⟨inv.bounded, inv.evictions, inv.accounted, inv.ids, inv.fifo, inv.ordered, fun a mem => by
    rcases inv.fresh a mem with older | ⟨same, below⟩
    exacts [.inl older, .inr ⟨same, by simp; omega⟩]⟩

theorem Invariant.create (idle : st.producer = .idle) :
    let sample : Sample := ⟨st.created.length, st.session, st.frameCounter⟩
    Invariant { st with frameCounter := st.frameCounter + 1, producer := .created sample,
                        created := st.created ++ [sample] } := by
  intro sample
  have accounted := inv.accounted
  have fifo := inv.fifo
  rw [idle] at accounted fifo
  refine ⟨inv.bounded, trivial, ?_, ?_, ?_, ?_, ?_⟩
  · refine (accounted.append_right [sample]).trans (List.perm_iff_count.2 fun a => ?_)
    simp [Producer.held, Queueing.items, List.count_append, List.count_cons]
    omega
  · simp [inv.ids, List.range_succ, sample]
  · simpa [Producer.held] using fifo.append_right [sample]
  · refine List.pairwise_append.2 ⟨inv.ordered, by simp, fun a mem b same => ?_⟩
    simp only [List.mem_singleton] at same
    subst same
    rcases inv.fresh a mem with older | ⟨_, below⟩
    · exact fun equal => absurd equal (by simp [sample]; omega)
    · exact fun _ => below
  · intro a mem
    rcases List.mem_append.1 mem with old | new
    · rcases inv.fresh a old with older | ⟨same, below⟩
      exacts [.inl older, .inr ⟨same, by simp; omega⟩]
    · simp only [List.mem_singleton] at new
      exact .inr ⟨by simp [new, sample], by simp [new, sample]⟩

theorem Invariant.lock_dropped {sample : Sample} (holding : st.producer = .created sample)
    (absent : st.queue = none) :
    Invariant { st with producer := .idle, released := st.released ++ [sample] } := by
  have accounted := inv.accounted
  have fifo := inv.fifo
  rw [holding] at accounted fifo
  simp only [Queueing.items, absent, Option.getD_none, Producer.held] at accounted fifo
  refine ⟨by simp [Queueing.items, absent], trivial, accounted.trans (List.perm_iff_count.2 fun a => ?_),
    inv.ids, by simpa [Queueing.items, absent, Producer.held] using
      (List.sublist_append_left _ _).trans fifo,
    inv.ordered, inv.fresh⟩
  simp [Producer.held, Queueing.items, absent, List.count_append, List.count_cons]
  omega

theorem Invariant.lock_taken {sample : Sample} (holding : st.producer = .created sample) :
    Invariant { st with producer := .checking sample 0 } :=
  ⟨inv.bounded, by simp [Producer.EvictsOnce], by simpa [holding, Producer.held] using inv.accounted,
    inv.ids, by simpa [holding, Producer.held] using inv.fifo, inv.ordered, inv.fresh⟩

theorem Invariant.check {sample : Sample} {k : Nat} {q : List Sample}
    (checking : st.producer = .checking sample k) (present : st.queue = some q) :
    Invariant { st with producer := if kQueueCapacity ≤ q.length then .evicting sample k
                                    else .enqueuing sample k } := by
  have once := inv.evictions
  simp only [checking, Producer.EvictsOnce, Queueing.items, present, Option.getD_some] at once
  refine ⟨inv.bounded, ?_, ?_, inv.ids, ?_, inv.ordered, inv.fresh⟩
  · split
    · next full => simp only [Producer.EvictsOnce]; have := once.2; simp at this; omega
    · exact once.1
  · split <;> simpa [checking, Producer.held] using inv.accounted
  · split <;> simpa [checking, Producer.held] using inv.fifo

theorem Invariant.evict {sample old : Sample} {k : Nat} {rest : List Sample}
    (evicting : st.producer = .evicting sample k) (present : st.queue = some (old :: rest)) :
    Invariant { st with producer := .checking sample (k + 1), queue := some rest,
                        released := st.released ++ [old] } := by
  have once := inv.evictions
  have bounded := inv.bounded
  simp only [evicting, Producer.EvictsOnce] at once
  simp only [Queueing.items, present, Option.getD_some, List.length_cons] at bounded
  refine ⟨by simp [Queueing.items]; omega, by simp [Producer.EvictsOnce, Queueing.items, once]; omega,
    inv.accounted.trans (List.perm_iff_count.2 fun a => ?_), inv.ids, ?_, inv.ordered, inv.fresh⟩
  · simp [evicting, Producer.held, Queueing.items, present, List.count_append, List.count_cons]
    omega
  · have fifo := inv.fifo
    simp only [evicting, Producer.held, Queueing.items, present, Option.getD_some] at fifo
    simpa [Producer.held, Queueing.items] using
      (List.Sublist.append_left (List.Sublist.append_right (List.sublist_cons_self old rest) _) _).trans
        (by simpa using fifo)

theorem Invariant.evict_empty {sample : Sample} {k : Nat} (evicting : st.producer = .evicting sample k) :
    Invariant { st with producer := .checking sample k } := by
  have once := inv.evictions
  simp only [evicting, Producer.EvictsOnce] at once
  exact ⟨inv.bounded, by simp [Producer.EvictsOnce, once], by simpa [evicting, Producer.held] using
    inv.accounted, inv.ids, by simpa [evicting, Producer.held] using inv.fifo, inv.ordered, inv.fresh⟩

theorem Invariant.enqueue {sample : Sample} {k : Nat} {q : List Sample}
    (enqueuing : st.producer = .enqueuing sample k) (present : st.queue = some q)
    (room : q.length < kQueueCapacity) :
    Invariant { st with producer := .idle, queue := some (q ++ [sample]) } := by
  refine ⟨by simp [Queueing.items]; omega, trivial,
    inv.accounted.trans (List.perm_iff_count.2 fun a => ?_), inv.ids, ?_, inv.ordered, inv.fresh⟩
  · simp [enqueuing, Producer.held, Queueing.items, present, List.count_append, List.count_cons]
    omega
  · simpa [enqueuing, Producer.held, Queueing.items, present] using inv.fifo

theorem Invariant.release {sample : Sample} (holding : st.producer.held = [sample]) :
    Invariant { st with producer := .idle, released := st.released ++ [sample] } := by
  refine ⟨inv.bounded, trivial, inv.accounted.trans (List.perm_iff_count.2 fun a => ?_), inv.ids, ?_,
    inv.ordered, inv.fresh⟩
  · simp [holding, Queueing.items, List.count_append, List.count_cons]
    omega
  · have fifo := inv.fifo
    rw [holding] at fifo
    simpa [Queueing.items] using (List.sublist_append_left _ _).trans fifo

theorem Invariant.consume {sample : Sample} {rest : List Sample} (present : st.queue = some (sample :: rest)) :
    Invariant { st with queue := some rest, delivered := st.delivered ++ [sample] } := by
  have bounded := inv.bounded
  simp only [Queueing.items, present, Option.getD_some, List.length_cons] at bounded
  refine ⟨by simp [Queueing.items]; omega, inv.evictions.more_room (by simp [Queueing.items, present]; omega),
    inv.accounted.trans (List.perm_iff_count.2 fun a => ?_), inv.ids, ?_, inv.ordered, inv.fresh⟩
  · simp [Queueing.items, present, List.count_append, List.count_cons]
    omega
  · simpa [Queueing.items, present] using inv.fifo

/-- A pass of FlushQueueLocked, or an eviction: the oldest sample is released. -/
theorem Invariant.discard {sample : Sample} {rest : List Sample} (present : st.queue = some (sample :: rest)) :
    Invariant { st with queue := some rest, released := st.released ++ [sample] } := by
  have bounded := inv.bounded
  simp only [Queueing.items, present, Option.getD_some, List.length_cons] at bounded
  refine ⟨by simp [Queueing.items]; omega, inv.evictions.more_room (by simp [Queueing.items, present]; omega),
    inv.accounted.trans (List.perm_iff_count.2 fun a => ?_), inv.ids, ?_, inv.ordered, inv.fresh⟩
  · simp [Queueing.items, present, List.count_append, List.count_cons]
    omega
  · have fifo := inv.fifo
    simp only [Queueing.items, present, Option.getD_some] at fifo
    simpa [Queueing.items] using
      (List.Sublist.append_right (List.Sublist.append_left (List.sublist_cons_self sample rest) _) _).trans fifo

theorem Invariant.createQueue (absent : st.queue = none) : Invariant { st with queue := some [] } := by
  have same : ({ st with queue := some [] } : Queueing).items = st.items := by
    simp [Queueing.items, absent]
  exact ⟨same ▸ inv.bounded, same ▸ inv.evictions, same ▸ inv.accounted, inv.ids, same ▸ inv.fifo,
    inv.ordered, inv.fresh⟩

theorem Invariant.restart : Invariant { st with frameCounter := 0, session := st.session + 1 } :=
  ⟨inv.bounded, inv.evictions, inv.accounted, inv.ids, inv.fifo, inv.ordered, fun a mem => by
    rcases inv.fresh a mem with older | ⟨same, -⟩
    exacts [.inl (by simp; omega), .inl (by simp; omega)]⟩

theorem Invariant.teardown {q : List Sample} (idle : st.producer = .idle) (present : st.queue = some q) :
    Invariant { st with queue := none, released := st.released ++ q } := by
  refine ⟨by simp [Queueing.items], by simp [idle, Producer.EvictsOnce],
    inv.accounted.trans (List.perm_iff_count.2 fun a => ?_), inv.ids, ?_, inv.ordered, inv.fresh⟩
  · simp [idle, Queueing.items, present, List.count_append]
    omega
  · have fifo := inv.fifo
    simp only [idle, Queueing.items, present, Option.getD_some, Producer.held_idle, List.append_nil] at fifo
    simpa [idle, Queueing.items] using (List.sublist_append_left _ _).trans fifo

end Steps

/-- Every step keeps the invariant. -/
theorem Invariant.step {st st' : Queueing} (inv : Invariant st) {e : QueueEvent}
    (stepped : st.step e = some st') : Invariant st' := by
  cases e with
  | create ok =>
    simp only [Queueing.step] at stepped
    split at stepped
    · next idle =>
      cases stepped
      cases ok
      · exact inv.create_fails
      · exact inv.create idle
    · cases stepped
  | lock =>
    simp only [Queueing.step] at stepped
    split at stepped
    · next holding absent => cases stepped; exact inv.lock_dropped holding absent
    · next holding _ => cases stepped; exact inv.lock_taken holding
    · cases stepped
  | check =>
    simp only [Queueing.step] at stepped
    split at stepped
    · next checking present => cases stepped; exact inv.check checking present
    · cases stepped
  | evict =>
    simp only [Queueing.step] at stepped
    split at stepped
    · next evicting present => cases stepped; exact inv.evict evicting present
    · next evicting _ => cases stepped; exact inv.evict_empty evicting
    · cases stepped
  | enqueue accepted =>
    simp only [Queueing.step] at stepped
    split at stepped
    · next enqueuing present =>
      cases stepped
      split
      · next room => exact inv.enqueue enqueuing present (by simp at room; exact room.2)
      · exact inv.release (by simp [enqueuing, Producer.held])
    · cases stepped
  | consume =>
    simp only [Queueing.step] at stepped
    split at stepped
    · next present => cases stepped; exact inv.consume present
    · cases stepped
  | flushOne =>
    simp only [Queueing.step] at stepped
    split at stepped
    · next present => cases stepped; exact inv.discard present
    · cases stepped
  | createQueue =>
    simp only [Queueing.step] at stepped
    split at stepped
    · next absent => cases stepped; exact inv.createQueue absent
    · cases stepped
  | restart =>
    simp only [Queueing.step] at stepped
    split at stepped
    · cases stepped; exact inv.restart
    · cases stepped
  | teardown =>
    simp only [Queueing.step] at stepped
    split at stepped
    · next idle present => cases stepped; exact inv.teardown idle present
    · cases stepped

theorem Invariant.run {st : Queueing} (inv : Invariant st) (events : List QueueEvent) :
    Invariant (Queueing.run events st) := by
  induction events generalizing st with
  | nil => exact inv
  | cons e es ih =>
    apply ih
    cases stepped : st.step e with
    | none => exact inv
    | some st' => exact inv.step stepped


/-- Over every interleaving of the producer's steps with the host's dequeues, FlushQueueLocked
and TeardownObjects: the queue holds at most 8 samples; a push evicts only from a full queue
and at most once; the host receives the samples of a session in rising frame_index order; and
every sample created is in exactly one place, the producer's hands, the queue, delivered to the
host or released, so none is lost, delivered twice or released twice. -/
theorem sample_queue_laws (events : List QueueEvent) :
    let st := Queueing.run events {}
    st.items.length ≤ kQueueCapacity ∧
      st.producer.EvictsOnce (decide (st.items.length < kQueueCapacity)) ∧
      st.delivered.Pairwise InOrder ∧ st.created.Nodup ∧
      st.created.Perm (st.producer.held ++ st.items ++ st.delivered ++ st.released) := by
  have inv := initial_invariant.run events
  refine ⟨inv.bounded, inv.evictions, inv.ordered.sublist ?_,
    List.Nodup.of_map Sample.id (inv.ids ▸ List.nodup_range _), inv.accounted⟩
  exact (List.sublist_append_left _ _).trans ((List.sublist_append_left _ _).trans inv.fifo)

/-- Eight samples fill the queue; the next push finds it full, the host then dequeues all
eight, and the push goes on to enqueue without having evicted anything. -/
theorem drained_push_evicts_nothing :
    let fill : List QueueEvent := [.create true, .lock, .check, .enqueue true]
    let full := Queueing.run (.createQueue :: fill ++ fill ++ fill ++ fill ++ fill ++ fill ++ fill ++ fill ++
      [.create true, .lock, .check]) {}
    let drained := Queueing.run [.consume, .consume, .consume, .consume, .consume, .consume, .consume,
      .consume, .evict, .check] full
    full.items.length = kQueueCapacity ∧ full.producer = .evicting ⟨8, 0, 8⟩ 0 ∧
      drained.producer = .enqueuing ⟨8, 0, 8⟩ 0 ∧ drained.released = [] ∧
      (Queueing.run [.enqueue true] drained).items.length = 1 := by
  decide

end MacKinect.CameraDal
