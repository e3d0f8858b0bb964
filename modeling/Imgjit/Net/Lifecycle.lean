import Imgjit.Net.Shutdown

/-!
# Starting and stopping one server

`Server::Impl` over its whole life: `start` and `stop` in any sequence, with every way in which a
start can fail.  The parts of the object have different reset points.  The pool and the backend are
made anew by each worker thread; the queue is made once, with the object, and is only ever closed.
So the object looks reusable, and a second start looks like the first.

**The object.**  `ServerObject` and `LifeStep` are the object and its transitions.  A start may fail
before it launches a worker, and then leaves the object as it was, or in the worker's
initialization, and then leaves it changed.  Between the return of `start` and the end of `stop` the
object moves as `Step` says.

**What a client needs.**  `CanServe`: the queue and the pool are open, the worker is in its loop,
and the backend that owns the pool's memory is alive.

**The result.**  `canServe_iff`: after a `start` that returned normally this holds exactly when no
start before it had got as far as launching a worker.  `retried_start_cannot_serve` is a start
behind one that failed in the factory: it returns as if all were well.
-/

namespace Imgjit

/-! ## The state in which `start` returns -/

/-- A worker that has just reached its loop, over a fresh pool and no connections. -/
def ServerConfig.launched (config : ServerConfig) (queue : BoundedQueue QueuedFrame)
    (pool : SlotPool) : State where
  pool := pool
  queue := queue
  memory := fun _ => List.replicate config.maxPayloadBytes.toNat 0
  connections := fun _ => {}
  nextConnectionId := 1
  acceptorDone := false
  stop := .notCalled
  worker := .top
  inFlight := []
  issued := []
  completed := []
  seen := []
  terminated := none

/-- The pool that the worker makes over the backend's storage. -/
def ServerConfig.MakesPool (config : ServerConfig) (pool : SlotPool) : Prop :=
  SlotPool.make true config.numSlots config.maxPayloadBytes.toNat config.slotsPerConnection
    = .ok pool

lemma ServerConfig.launched_started {config : ServerConfig} {queue : BoundedQueue QueuedFrame}
    {pool : SlotPool} (hpool : config.MakesPool pool) (hqueue : queue.items = []) :
    Started config (config.launched queue pool) :=
  ⟨hpool, hqueue, fun _ => by simp [launched], fun _ => rfl, le_rfl, rfl, rfl, rfl, rfl, rfl, rfl,
    rfl, rfl⟩

/-- A configuration with storage can be started. -/
lemma ServerConfig.exists_pool {config : ServerConfig} (hslots : config.numSlots ≠ 0)
    (hbytes : config.maxPayloadBytes ≠ 0) : ∃ pool, config.MakesPool pool := by
  have hpositive : config.maxPayloadBytes.toNat ≠ 0 := by
    rwa [Ne, ← UInt32.toNat_inj] at hbytes
  simp [MakesPool, SlotPool.make, hslots, hpositive]

/-! ## The object -/

/-- How the `try` block of `worker_main` can end in its handler. -/
inductive StartFailure where
  /-- `backend_factory()` threw. -/
  | factoryThrew
  | factoryReturnedNothing
  /-- `allocate_slots` threw, with the backend already in place. -/
  | allocateThrew
  /-- `slots.emplace` threw, having destroyed the pool that was there. -/
  | emplaceThrew
  deriving DecidableEq, Repr

/-- `Server::Impl`.  Backend objects are told apart by a serial number. -/
structure ServerObject where
  /-- The threads and what they share.  `running` is `threads.stop = .notCalled`; before the first
  start it is as if a server had been stopped. -/
  threads : State
  /-- `slots.has_value()`: without it, `threads.pool` means nothing. -/
  hasSlots : Bool
  /-- The backend object that is alive, if any. -/
  backend : Option ℕ
  /-- The backend object whose storage the pool points at. -/
  slotsBackend : Option ℕ
  /-- Backend objects made so far. -/
  backendsMade : ℕ
  /-- History: calls of `start` that launched a worker thread.  Nothing reads it. -/
  launches : ℕ

/-- The constructor. -/
def ServerConfig.construct (config : ServerConfig) (pool : SlotPool) : ServerObject where
  threads := { config.launched (.make config.queueCapacity) pool with
    acceptorDone := true
    stop := .stopped
    worker := .exited }
  hasSlots := false
  backend := none
  slotsBackend := none
  backendsMade := 0
  launches := 0

namespace ServerObject

variable (config : ServerConfig) (o : ServerObject)

/-- `worker_main` failed: `start` closes the queue, joins the worker and rethrows. -/
def startFailed (failure : StartFailure) : ServerObject :=
  { o with
    threads := { o.threads with queue := o.threads.queue.close }
    hasSlots := if failure = .emplaceThrew then false else o.hasSlots
    backend :=
      match failure with
      | .factoryThrew => o.backend
      | .factoryReturnedNothing => none
      | .allocateThrew => some (o.backendsMade + 1)
      | .emplaceThrew => some (o.backendsMade + 1)
    backendsMade := o.backendsMade + 1
    launches := o.launches + 1 }

/-- `worker_main` reached its loop: `start` returns. -/
def started (pool : SlotPool) : ServerObject where
  threads := config.launched o.threads.queue pool
  hasSlots := true
  backend := some (o.backendsMade + 1)
  slotsBackend := some (o.backendsMade + 1)
  backendsMade := o.backendsMade + 1
  launches := o.launches + 1

/-- The threads have moved.  A worker that leaves its loop destroys the backend. -/
def moved (threads : State) : ServerObject :=
  { o with
    threads := threads
    backend :=
      match threads.worker with
      | .exited => none
      | _ => o.backend }

end ServerObject

/-- The transitions of a server object.  The calls come one after the other: `start` is called when
no `stop` is under way. -/
inductive LifeStep (config : ServerConfig) (contract : Contract) :
    ServerObject → ServerObject → Prop
  /-- `start` threw before it launched a worker: the server was running, it has no storage to make,
  or the listening socket failed. -/
  | startRefused {o : ServerObject} : LifeStep config contract o o
  | startFailed {o : ServerObject} {failure : StartFailure} (idle : o.threads.stop = .stopped) :
      LifeStep config contract o (o.startFailed failure)
  | started {o : ServerObject} {pool : SlotPool} (idle : o.threads.stop = .stopped)
      (made : config.MakesPool pool) : LifeStep config contract o (o.started config pool)
  /-- Any thread of a server that has been started and whose `stop` has not returned, the one in
  `stop` included. -/
  | moved {o : ServerObject} {threads : State} (alive : o.threads.stop ≠ .stopped)
      (step : Step config contract o.threads threads) : LifeStep config contract o (o.moved threads)

/-- The runs of one object, from its constructor on. -/
def ServerConfig.life (config : ServerConfig) (contract : Contract) :
    Transition.System ServerObject where
  init o := ∃ pool, o = config.construct pool
  step := LifeStep config contract

/-- A server that can do its work. -/
structure CanServe (o : ServerObject) : Prop where
  queue : o.threads.queue.closed = false
  worker : o.threads.worker ≠ .exited
  pool : o.hasSlots = true ∧ o.threads.pool.closed = false
  backend : ∃ serial, o.slotsBackend = some serial ∧ o.backend = some serial

/-! ## Only the first launch serves -/

/-- What the number of launches says about the object. -/
structure Lived (config : ServerConfig) (contract : Contract) (o : ServerObject) : Prop where
  unlaunched : o.launches = 0 →
    o.threads.stop = .stopped ∧ o.threads.queue = .make config.queueCapacity
  /-- The first launch is a run as `Net.Shutdown` knows it. -/
  once : o.launches = 1 → o.threads.stop ≠ .stopped →
    (config.startedOnce contract).Reachable o.threads ∧ o.hasSlots = true
      ∧ (o.threads.worker ≠ .exited →
          ∃ serial, o.slotsBackend = some serial ∧ o.backend = some serial)
  stopped : 1 ≤ o.launches → o.threads.stop = .stopped → o.threads.queue.closed = true
  again : 2 ≤ o.launches → o.threads.queue.closed = true

section Life

variable {config : ServerConfig} {contract : Contract} {o o' : ServerObject}

lemma lived_construct (pool : SlotPool) : Lived config contract (config.construct pool) :=
  ⟨fun _ => ⟨rfl, rfl⟩, nofun, nofun, nofun⟩

lemma lived_started {pool : SlotPool} (h : Lived config contract o)
    (idle : o.threads.stop = .stopped) (made : config.MakesPool pool) :
    Lived config contract (o.started config pool) := by
  refine ⟨nofun, fun honce _ => ⟨?_, rfl, fun _ => ⟨_, rfl, rfl⟩⟩, fun _ => nofun, fun hagain => ?_⟩
  · have hzero : o.launches = 0 := by simpa [ServerObject.started] using honce
    have hqueue := (h.unlaunched hzero).2
    refine .init ⟨ServerConfig.launched_started made ?_, ?_, ?_⟩
    · rw [hqueue]
      rfl
    · exact congrArg BoundedQueue.capacity hqueue
    · exact congrArg BoundedQueue.closed hqueue
  · have hlaunched : 1 ≤ o.launches := by simpa [ServerObject.started] using hagain
    exact h.stopped hlaunched idle

lemma backend_moved {threads : State} (h : threads.worker ≠ .exited) :
    (o.moved threads).backend = o.backend := by
  cases hworker : threads.worker <;> simp_all [ServerObject.moved]

lemma lived_moved {threads : State} (h : Lived config contract o)
    (alive : o.threads.stop ≠ .stopped) (hstep : Step config contract o.threads threads) :
    Lived config contract (o.moved threads) := by
  have hfirst : o.launches = 1 → (config.startedOnce contract).Reachable threads := fun honce =>
    (h.once honce alive).1.step hstep
  have hagain : 2 ≤ o.launches → threads.queue.closed = true := fun hagain =>
    (queue_step hstep).2 (h.again hagain)
  refine ⟨fun hzero => absurd (h.unlaunched hzero).1 alive, fun honce _ => ?_,
    fun hlaunched hstopped => ?_, hagain⟩
  · obtain ⟨-, hslots, hbackend⟩ := h.once honce alive
    refine ⟨hfirst honce, hslots, fun hworker => ?_⟩
    -- A worker that is in its loop now was in it before.
    have hbefore : o.threads.worker ≠ .exited := by
      intro hexited
      exact hworker (exited_step hexited hstep)
    obtain ⟨serial, howner, hlive⟩ := hbackend hbefore
    refine ⟨serial, howner, ?_⟩
    have hin : threads.worker ≠ .exited := hworker
    rw [backend_moved hin, hlive]
  · rcases Nat.lt_or_ge o.launches 2 with hlt | hge
    · have honce : o.launches = 1 := by
        have hpositive : 1 ≤ o.launches := hlaunched
        omega
      have horderly := orderly_of_reachable (hfirst honce)
      have hstop : threads.stop = .stopped := hstopped
      exact horderly.queue.trans (by rw [hstop]; rfl)
    · exact hagain hge

/-- In every state of an object its past is known: once the first launch has been stopped, the queue
is closed for good. -/
theorem lived_of_reachable (h : (config.life contract).Reachable o) : Lived config contract o := by
  refine h.invariant ?_ ?_
  · rintro t ⟨pool, rfl⟩
    exact lived_construct pool
  · intro t t' _ hlived hstep
    cases hstep with
    | startRefused => exact hlived
    | startFailed idle =>
        exact ⟨nofun, fun _ hstop => absurd idle hstop, fun _ _ => rfl, fun _ => rfl⟩
    | started idle made => exact lived_started hlived idle made
    | moved alive step => exact lived_moved hlived alive step

/-- **After a `start` that returned normally, the server can serve exactly when it is the first
start that launched a worker.**  A start that failed in its worker, or a stop, leaves the queue
closed for good. -/
theorem canServe_iff (h : (config.life contract).Reachable o)
    (running : o.threads.stop = .notCalled) : CanServe o ↔ o.launches = 1 := by
  have hlived := lived_of_reachable h
  constructor
  · intro hserves
    have hopen := hserves.queue
    rcases Nat.lt_trichotomy o.launches 1 with hlt | heq | hgt
    · have hstopped := (hlived.unlaunched (by omega)).1
      rw [running] at hstopped
      cases hstopped
    · exact heq
    · rw [hlived.again hgt] at hopen
      cases hopen
  · intro honce
    obtain ⟨hreachable, hslots, hbackend⟩ := hlived.once honce (by rw [running]; simp)
    have horderly := orderly_of_reachable hreachable
    have hworker : o.threads.worker ≠ .exited := by
      intro hexited
      have hclosed := horderly.worker hexited
      rw [running] at hclosed
      cases hclosed
    refine ⟨?_, hworker, ⟨hslots, ?_⟩, hbackend hworker⟩
    · rw [horderly.queue, running]
      rfl
    · rw [horderly.pool, running]
      rfl

end Life

/-! ## A start that is retried -/

namespace Retried

open OneRequest (config)

/-- A pool of one slot. -/
def pool : SlotPool := OneRequest.started.pool

/-- The backend factory throws, and the caller tries again. -/
def started : ServerObject :=
  ((config.construct pool).startFailed .factoryThrew).started config pool

/-- The worker finds its queue closed. -/
def workerGone : ServerObject := started.moved { started.threads with worker := .exited }

lemma started_reachable {contract : Contract} : (config.life contract).Reachable started := by
  have hconstructed : (config.life contract).Reachable (config.construct pool) := .init ⟨pool, rfl⟩
  have hfailed : (config.life contract).Reachable
      ((config.construct pool).startFailed .factoryThrew) := hconstructed.step (.startFailed rfl)
  exact hfailed.step (.started rfl rfl)

/-- **A retried start returns normally and leaves a server that accepts connections and cannot serve
them**: its queue is closed, its worker has left, and its pool, which is open, points at the memory
of a backend that has been destroyed. -/
theorem retried_start_cannot_serve :
    (config.life fun _ _ _ => True).Reachable workerGone
      ∧ workerGone.threads.stop = .notCalled ∧ workerGone.threads.acceptorDone = false
      ∧ workerGone.threads.queue.closed = true ∧ workerGone.threads.worker = .exited
      ∧ workerGone.threads.pool.closed = false
      ∧ workerGone.slotsBackend = some 2 ∧ workerGone.backend = none ∧ ¬CanServe workerGone := by
  have hgone : (config.life fun _ _ _ => True).Reachable workerGone :=
    started_reachable.step (.moved (by decide) (.workerExit rfl rfl rfl))
  refine ⟨hgone, rfl, rfl, rfl, rfl, rfl, rfl, rfl, fun hserves => ?_⟩
  exact hserves.worker rfl

/-- The equivalence, in the state in which a retried start returns. -/
theorem canServe_iff_retried : CanServe started ↔ started.launches = 1 := by
  have hreachable : (config.life fun _ _ _ => True).Reachable started := started_reachable
  exact canServe_iff hreachable rfl

end Retried

end Imgjit
