import Mathlib.Data.List.Basic
import Mathlib.Algebra.Group.Int

/-! The stream lifecycle of `dal_plugin/KinectCameraDALPlugin.cpp`. The host enters
PlugInDeviceStartStream, PlugInDeviceStopStream, PlugInDeviceSuspend and TeardownObjects
on its own threads, and their bodies share gRunningClients, gProducerRunning,
gProducerThread and gKinectSource with no lock. The functions below are those bodies run
one at a time; `Pc` splits them at their atomic steps so that a run can interleave the
steps of any number of calls with the producer loop. -/
namespace MacKinect.CameraDal

/-- The globals the stream calls touch. `producerThread` is `gProducerThread.joinable()`,
`producerAlive` that ProducerLoop has not returned, `sourceOpen` that gKinectSource holds a
started device, and `terminated` that a joinable `std::thread` was assigned over, which
ends the process in `std::terminate`. -/
structure Globals where
  runningClients : BitVec 32 := 0
  producerRunning : Bool := false
  producerThread : Bool := false
  producerAlive : Bool := false
  sourceOpen : Bool := false
  terminated : Bool := false
  deriving DecidableEq, Repr

/-- StartProducingIfNeeded; `deviceFound` is what gKinectSource.start() achieves, and
nothing reads it. -/
def startProducingIfNeeded (deviceFound : Bool) (g : Globals) : Globals :=
  let previous := g.runningClients
  let g := { g with runningClients := previous + 1 }
  if previous ≠ 0 then g else
  let g := { g with sourceOpen := deviceFound, producerRunning := true }
  { g with terminated := g.terminated || g.producerThread, producerThread := true,
           producerAlive := true }

/-- `if (gProducerThread.joinable()) gProducerThread.join();` once the flag is down: the
producer sees it and returns. -/
def joinProducer (g : Globals) : Globals :=
  if g.producerThread then { g with producerThread := false, producerAlive := false } else g

/-- The tail StopProducingIfNeeded and TeardownObjects share: lower the flag, join the
producer, stop the source. -/
def haltProducer (g : Globals) : Globals :=
  { joinProducer { g with producerRunning := false } with sourceOpen := false }

def stopProducingIfNeeded (g : Globals) : Globals :=
  let previous := g.runningClients
  let g := { g with runningClients := previous - 1 }
  if 1 < previous then g else haltProducer g

def startStream (deviceFound : Bool) (g : Globals) : Globals :=
  startProducingIfNeeded deviceFound g

def stopStream (g : Globals) : Globals :=
  if 0 < g.runningClients then stopProducingIfNeeded g else g

/-- The `while (gRunningClients.load() > 0)` loop of PlugInDeviceSuspend. -/
def suspendLoop : Nat → Globals → Globals
  | 0, g => g
  | fuel + 1, g => if 0 < g.runningClients then suspendLoop fuel (stopProducingIfNeeded g) else g

/-- Each pass of the loop lowers the counter by one, so as many passes as the counter
holds run it to its end. -/
def suspend (g : Globals) : Globals := suspendLoop g.runningClients.toNat g

/-- TeardownObjects; its store of 0 into gRunningClients sits between the join and the
source stop, an order only the atomic steps below keep. -/
def teardownObjects (g : Globals) : Globals := { haltProducer g with runningClients := 0 }

inductive HostCall where
  | startStream (deviceFound : Bool)
  | stopStream
  | suspend
  | teardown
  deriving DecidableEq, Repr

def HostCall.apply : HostCall → Globals → Globals
  | .startStream deviceFound => CameraDal.startStream deviceFound
  | .stopStream => CameraDal.stopStream
  | .suspend => CameraDal.suspend
  | .teardown => teardownObjects

/-- Host calls made one after another, each returning before the next begins. -/
def serve : List HostCall → Globals → Globals
  | [], g => g
  | c :: cs, g => serve cs (c.apply g)

/-- Where a host call stands between two atomic steps; `inSuspend` says that the
StopProducingIfNeeded in progress returns to Suspend's loop. -/
inductive Pc where
  | startAdd (deviceFound : Bool)
  | startSource (deviceFound : Bool)
  | startFlag
  | startThread
  | stopCheck
  | suspendCheck
  | stopSub (inSuspend : Bool)
  | stopFlag (inSuspend : Bool)
  | stopJoin (inSuspend : Bool)
  | stopSource (inSuspend : Bool)
  | teardownFlag
  | teardownJoin
  | teardownClients
  | teardownSource
  | done
  deriving DecidableEq, Repr

def HostCall.entry : HostCall → Pc
  | .startStream deviceFound => .startAdd deviceFound
  | .stopStream => .stopCheck
  | .suspend => .suspendCheck
  | .teardown => .teardownFlag

/-- The join step: blocked while the producer it waits for still runs. -/
def joinStep (next : Pc) (g : Globals) : Option (Pc × Globals) :=
  if g.producerThread then
    if g.producerAlive then none else some (next, { g with producerThread := false })
  else some (next, g)

/-- One atomic step of a host call; `none` while it is blocked or done. -/
def Pc.step (g : Globals) : Pc → Option (Pc × Globals)
  | .startAdd deviceFound =>
    let previous := g.runningClients
    some (if previous ≠ 0 then .done else .startSource deviceFound,
      { g with runningClients := previous + 1 })
  | .startSource deviceFound => some (.startFlag, { g with sourceOpen := deviceFound })
  | .startFlag => some (.startThread, { g with producerRunning := true })
  | .startThread =>
    some (.done, { g with terminated := g.terminated || g.producerThread, producerThread := true,
                          producerAlive := true })
  | .stopCheck => some (if 0 < g.runningClients then .stopSub false else .done, g)
  | .suspendCheck => some (if 0 < g.runningClients then .stopSub true else .done, g)
  | .stopSub inSuspend =>
    let previous := g.runningClients
    some (if 1 < previous then (if inSuspend then .suspendCheck else .done) else .stopFlag inSuspend,
      { g with runningClients := previous - 1 })
  | .stopFlag inSuspend => some (.stopJoin inSuspend, { g with producerRunning := false })
  | .stopJoin inSuspend => joinStep (.stopSource inSuspend) g
  | .stopSource inSuspend =>
    some (if inSuspend then .suspendCheck else .done, { g with sourceOpen := false })
  | .teardownFlag => some (.teardownJoin, { g with producerRunning := false })
  | .teardownJoin => joinStep .teardownClients g
  | .teardownClients => some (.teardownSource, { g with runningClients := 0 })
  | .teardownSource => some (.done, { g with sourceOpen := false })
  | .done => none

/-- ProducerLoop's `while (gProducerRunning.load())`: with the flag down it returns. -/
def producerLoop (g : Globals) : Globals :=
  if g.producerAlive && !g.producerRunning then { g with producerAlive := false } else g

structure System where
  globals : Globals := {}
  threads : List Pc := []
  deriving DecidableEq, Repr

inductive Event where
  | call (c : HostCall)
  | step (thread : Nat)
  | producer
  deriving DecidableEq, Repr

/-- A host thread enters a call, a thread takes its next step (blocked or finished threads
stay put), or the producer tests its flag. -/
def System.advance (s : System) : Event → System
  | .call c => { s with threads := s.threads ++ [c.entry] }
  | .step i =>
    match s.threads[i]? with
    | none => s
    | some pc =>
      match pc.step s.globals with
      | none => s
      | some (pc', g) => { globals := g, threads := s.threads.set i pc' }
  | .producer => { s with globals := producerLoop s.globals }

def interleave : List Event → System → System
  | [], s => s
  | e :: es, s => interleave es (s.advance e)

/-- No call is in flight. -/
def System.idle (s : System) : Bool := s.threads.all (· = .done)

/-- The streams the host has open: a start opens one, a stop closes one if any is open (its
`gRunningClients.load() > 0` guard), Suspend and Teardown close them all. -/
def HostCall.openAfter (n : Nat) : HostCall → Nat
  | .startStream _ => n + 1
  | .stopStream => n - 1
  | .suspend | .teardown => 0

def openStreams (calls : List HostCall) : Nat := calls.foldl HostCall.openAfter 0

/-- The globals hold `n` open streams: the counter is `n`, the producer thread exists and
runs exactly while `n > 0`, the source is open only then, and nothing was terminated. -/
structure Tracks (g : Globals) (n : Nat) : Prop where
  count : g.runningClients.toNat = n
  producer : g.producerRunning = decide (0 < n)
  thread : g.producerThread = g.producerRunning
  alive : g.producerAlive = g.producerRunning
  source : g.sourceOpen = true → 0 < n
  alive_process : g.terminated = false

section Halt

variable (g : Globals)

@[simp] theorem haltProducer_runningClients : (haltProducer g).runningClients = g.runningClients := by
  unfold haltProducer joinProducer; split <;> rfl

@[simp] theorem haltProducer_producerRunning : (haltProducer g).producerRunning = false := by
  unfold haltProducer joinProducer; split <;> rfl

@[simp] theorem haltProducer_producerThread : (haltProducer g).producerThread = false := by
  unfold haltProducer joinProducer; split <;> simp_all

@[simp] theorem haltProducer_sourceOpen : (haltProducer g).sourceOpen = false := rfl

@[simp] theorem haltProducer_terminated : (haltProducer g).terminated = g.terminated := by
  unfold haltProducer joinProducer; split <;> rfl

theorem haltProducer_producerAlive (joined : g.producerAlive = true → g.producerThread = true) :
    (haltProducer g).producerAlive = false := by
  unfold haltProducer joinProducer
  split
  · rfl
  · next idle => cases alive : g.producerAlive <;> simp_all

end Halt

section Tracks

variable {g : Globals} {n : Nat}

theorem Tracks.closed (tracks : Tracks g 0) : g.producerRunning = false ∧ g.producerThread = false ∧
    g.producerAlive = false := by
  have running : g.producerRunning = false := by simpa using tracks.producer
  exact ⟨running, tracks.thread.trans running, tracks.alive.trans running⟩

/-- A state with the counter at zero, the producer halted and the process alive holds no
open stream. -/
theorem Tracks.halted {h : Globals} (count : h.runningClients.toNat = 0)
    (running : h.producerRunning = false) (thread : h.producerThread = false)
    (alive : h.producerAlive = false) (closed : h.sourceOpen = false)
    (alive_process : h.terminated = false) : Tracks h 0 :=
  ⟨count, by simpa using running, thread.trans running.symm, alive.trans running.symm,
    by simp [closed], alive_process⟩

theorem Tracks.joined (tracks : Tracks g n) : g.producerAlive = true → g.producerThread = true := by
  rw [tracks.thread, ← tracks.alive]
  exact id

theorem Tracks.startStream (tracks : Tracks g n) (room : n + 1 < 2 ^ 32) (deviceFound : Bool) :
    Tracks (startStream deviceFound g) (n + 1) := by
  have count := tracks.count
  have next : (g.runningClients + 1).toNat = n + 1 := by bv_omega
  unfold CameraDal.startStream startProducingIfNeeded
  dsimp only
  split
  · next busy =>
    have : 0 < n := by bv_omega
    exact ⟨next, by simp [tracks.producer, this], tracks.thread, tracks.alive, fun _ => by omega,
      tracks.alive_process⟩
  · next idle =>
    have : n = 0 := by bv_omega
    subst this
    exact ⟨next, rfl, rfl, rfl, fun _ => by omega, by simp [tracks.alive_process, tracks.closed.2.1]⟩

theorem Tracks.stopProducing (tracks : Tracks g n) (running : 0 < n) :
    Tracks (stopProducingIfNeeded g) (n - 1) := by
  have count := tracks.count
  have next : (g.runningClients - 1).toNat = n - 1 := by bv_omega
  unfold stopProducingIfNeeded
  dsimp only
  split
  · next more =>
    have : 1 < n := by bv_omega
    exact ⟨next, by rw [tracks.producer, decide_eq_decide]; omega, tracks.thread, tracks.alive,
      fun _ => by omega, tracks.alive_process⟩
  · next last =>
    have : n = 1 := by bv_omega
    subst this
    exact Tracks.halted (by simpa using next) (by simp) (by simp)
      (haltProducer_producerAlive _ tracks.joined) (by simp) (by simp [tracks.alive_process])

theorem Tracks.stopStream (tracks : Tracks g n) : Tracks (stopStream g) (n - 1) := by
  unfold CameraDal.stopStream
  have count := tracks.count
  split
  · exact tracks.stopProducing (by bv_omega)
  · have : n = 0 := by bv_omega
    subst this
    exact tracks

theorem Tracks.suspendLoop (tracks : Tracks g n) {fuel : Nat} (enough : n ≤ fuel) :
    Tracks (suspendLoop fuel g) 0 := by
  induction fuel generalizing g n with
  | zero => simpa [show n = 0 by omega] using tracks
  | succ fuel ih =>
    have count := tracks.count
    unfold CameraDal.suspendLoop
    split
    · exact ih (tracks.stopProducing (by bv_omega)) (by omega)
    · have : n = 0 := by bv_omega
      exact this ▸ tracks

theorem Tracks.suspend (tracks : Tracks g n) : Tracks (suspend g) 0 :=
  tracks.suspendLoop tracks.count.ge

theorem Tracks.teardown (tracks : Tracks g n) : Tracks (teardownObjects g) 0 :=
  Tracks.halted rfl (by simp [teardownObjects]) (by simp [teardownObjects])
    (haltProducer_producerAlive _ tracks.joined) rfl (by simp [teardownObjects, tracks.alive_process])

theorem Tracks.apply (tracks : Tracks g n) (room : n + 1 < 2 ^ 32) (c : HostCall) :
    Tracks (c.apply g) (HostCall.openAfter n c) := by
  cases c with
  | startStream deviceFound => exact tracks.startStream room deviceFound
  | stopStream => exact tracks.stopStream
  | suspend => exact tracks.suspend
  | teardown => exact tracks.teardown

theorem Tracks.serve (tracks : Tracks g n) (calls : List HostCall) (few : n + calls.length < 2 ^ 32) :
    Tracks (serve calls g) (calls.foldl HostCall.openAfter n) := by
  induction calls generalizing g n with
  | nil => exact tracks
  | cons c cs ih =>
    have grows : HostCall.openAfter n c ≤ n + 1 := by cases c <;> simp [HostCall.openAfter]; omega
    exact ih (tracks.apply (by simp at few; omega) c) (by simp at few; omega)

end Tracks

theorem interleave_append (es fs : List Event) (s : System) :
    interleave (es ++ fs) s = interleave fs (interleave es s) := by
  induction es generalizing s with
  | nil => rfl
  | cons e es ih => exact ih _

/-- With no other call in flight, the steps of one call and the producer's tests take it from
`pc` at `g` to `pc'` at `g'`. -/
def Runs (pc : Pc) (g : Globals) (pc' : Pc) (g' : Globals) : Prop :=
  ∃ events : List Event, (∀ e ∈ events, e = .step 0 ∨ e = .producer) ∧
    interleave events ⟨g, [pc]⟩ = ⟨g', [pc']⟩

section Runs

variable {pc pc' pc'' : Pc} {g g' g'' : Globals}

theorem Runs.trans (first : Runs pc g pc' g') (second : Runs pc' g' pc'' g'') : Runs pc g pc'' g'' := by
  obtain ⟨es, own, ran⟩ := first
  obtain ⟨fs, own', ran'⟩ := second
  refine ⟨es ++ fs, fun e mem => ?_, by rw [interleave_append, ran, ran']⟩
  rcases List.mem_append.mp mem with mem | mem
  exacts [own e mem, own' e mem]

theorem Runs.step (stepped : pc.step g = some (pc', g')) : Runs pc g pc' g' :=
  ⟨[.step 0], by simp, by simp [interleave, System.advance, stepped]⟩

theorem Runs.producer (pc : Pc) (g : Globals) : Runs pc g pc (producerLoop g) :=
  ⟨[.producer], by simp, rfl⟩

theorem runs_join {next : Pc} (joinAt : ∀ g, pc.step g = joinStep next g)
    (down : g.producerRunning = false) : Runs pc g next (joinProducer g) := by
  unfold joinProducer
  cases thread : g.producerThread
  · exact .step (by simp [joinAt, joinStep, thread])
  cases alive : g.producerAlive
  · exact .step (by cases g; simp_all [joinAt, joinStep])
  · exact (Runs.producer pc g).trans (.step (by simp [joinAt, joinStep, producerLoop, thread, alive, down]))

theorem runs_halt (inSuspend : Bool) :
    Runs (.stopFlag inSuspend) g (if inSuspend then .suspendCheck else .done) (haltProducer g) :=
  Runs.trans (.step rfl) (Runs.trans (runs_join (fun _ => rfl) rfl) (.step rfl))

@[simp] theorem stopProducingIfNeeded_runningClients :
    (stopProducingIfNeeded g).runningClients = g.runningClients - 1 := by
  unfold stopProducingIfNeeded; dsimp only; split <;> simp

theorem runs_stopProducing (inSuspend : Bool) :
    Runs (.stopSub inSuspend) g (if inSuspend then .suspendCheck else .done) (stopProducingIfNeeded g) := by
  unfold stopProducingIfNeeded
  dsimp only
  by_cases more : 1 < g.runningClients
  · rw [if_pos more]
    exact .step (by simp only [Pc.step, if_pos more])
  · rw [if_neg more]
    exact Runs.trans (.step (by simp only [Pc.step, if_neg more])) (runs_halt inSuspend)

theorem runs_suspendLoop {fuel : Nat} (enough : g.runningClients.toNat ≤ fuel) :
    Runs .suspendCheck g .done (suspendLoop fuel g) := by
  induction fuel generalizing g with
  | zero =>
    have idle : ¬0 < g.runningClients := by bv_omega
    exact .step (by simp only [Pc.step, if_neg idle, suspendLoop])
  | succ fuel ih =>
    unfold suspendLoop
    split
    · next running =>
      exact Runs.trans (.step (by simp only [Pc.step, if_pos running])) (Runs.trans
        (runs_stopProducing true) (ih (by simp only [stopProducingIfNeeded_runningClients]; bv_omega)))
    · next idle => exact .step (by simp only [Pc.step, if_neg idle])

end Runs

/-- A host call run with no other call in flight performs the function of the source. -/
theorem alone_serves (c : HostCall) (g : Globals) : Runs c.entry g .done (c.apply g) := by
  cases c with
  | startStream deviceFound =>
    show Runs (.startAdd deviceFound) g .done (startProducingIfNeeded deviceFound g)
    unfold startProducingIfNeeded
    dsimp only
    by_cases busy : g.runningClients ≠ 0
    · rw [if_pos busy]
      exact .step (by simp only [Pc.step, if_pos busy])
    · rw [if_neg busy]
      have add : Runs (.startAdd deviceFound) g (.startSource deviceFound)
          { g with runningClients := g.runningClients + 1 } := .step (by simp only [Pc.step, if_neg busy])
      exact Runs.trans add (Runs.trans (.step rfl) (Runs.trans (.step rfl) (.step rfl)))
  | stopStream =>
    show Runs .stopCheck g .done (if 0 < g.runningClients then stopProducingIfNeeded g else g)
    split
    · next running =>
      have check : Runs .stopCheck g (.stopSub false) g := .step (by simp only [Pc.step, if_pos running])
      exact Runs.trans check (runs_stopProducing false)
    · next idle => exact .step (by simp only [Pc.step, if_neg idle])
  | suspend => exact runs_suspendLoop le_rfl
  | teardown =>
    exact Runs.trans (.step rfl) (Runs.trans (runs_join (fun _ => rfl) rfl)
      (Runs.trans (.step rfl) (.step rfl)))

/-- Host calls made one at a time from a freshly loaded plug-in: while fewer than 2³² calls
are made, the counter is the number of open streams, the producer thread exists and runs
exactly while one is open, the source is open only then, and no thread is assigned over a
joinable one. Each call's function is what its atomic steps compute with no other call in
flight. -/
theorem serial_calls_track_streams (calls : List HostCall) (few : calls.length < 2 ^ 32) :
    Tracks (serve calls {}) (openStreams calls) ∧
      ∀ c : HostCall, ∀ g, Runs c.entry g .done (c.apply g) :=
  ⟨Tracks.serve (Tracks.halted (h := {}) rfl rfl rfl rfl rfl rfl) calls (by simpa using few),
    alone_serves⟩

theorem serial_calls_track_streams_start_stop :
    [HostCall.startStream true, .startStream false, .stopStream, .suspend].length < 2 ^ 32 ∧
      (Tracks (serve [.startStream true, .startStream false, .stopStream, .suspend] {})
        (openStreams [.startStream true, .startStream false, .stopStream, .suspend]) ∧
      ∀ c : HostCall, ∀ g, Runs c.entry g .done (c.apply g)) :=
  ⟨by decide, serial_calls_track_streams _ (by decide)⟩

/-- Three interleavings that break the counter or the thread handle. A StopStream racing a Suspend after one StartStream wraps
gRunningClients to 2³² − 1. A StopStream that runs between the fetch_add and the thread spawn
of the StartStream it matches leaves, once both have returned, the counter at 0 while the
producer runs on an open device, and the next StartStream assigns gProducerThread over the
joinable thread. A StartStream that finds no device leaves the counter at 1 with the source
closed. -/
theorem stream_call_races :
    (interleave [.call (.startStream true), .step 0, .step 0, .step 0, .step 0, .call .stopStream,
      .call .suspend, .step 1, .step 2, .step 1, .step 2] {}).globals.runningClients = 0xFFFFFFFF ∧
    (let raced := interleave [.call (.startStream true), .step 0, .call .stopStream, .step 1, .step 1,
      .step 1, .step 1, .step 1, .step 0, .step 0, .step 0] {}
    raced.idle = true ∧ raced.globals.runningClients = 0 ∧ raced.globals.producerRunning = true ∧
      raced.globals.sourceOpen = true ∧
      (interleave [.call (.startStream true), .step 2, .step 2, .step 2, .step 2] raced).globals.terminated
        = true) ∧
    (serve [.startStream false] {}).runningClients = 1 ∧ (serve [.startStream false] {}).sourceOpen = false := by
  decide

end MacKinect.CameraDal
