import Imgjit.Net.ServerDelivery

/-!
# Shutting down in order

`stop` takes the server apart in five stages: the acceptor, the sockets and the pool, the connection
threads, the queue, the worker.  Each stage waits for threads to end, and a thread ends only if
those that are taken down later still do their work: a reader in a claim or a push is let go by the
worker, a writer waits for the last job of its connection.  In another order `stop` would hang, or
would drop a frame that it has promised to answer.  This file shows that the order is right, from
any state in which `stop` may be called.

* `ServerConfig.FirstStart` — the queue is as its constructor left it.  A server that has been
  stopped before starts with a closed queue, and nothing here is about it.
* `Orderly` — what each stage of `stop` has achieved, as an invariant.
* `Drained` — no job is left anywhere, and every frame has been answered.
* `shutDown_of_reachable` — when `stop` gets to `queue.close()`, the server is drained; no push is
  ever refused; and the worker's next idle pop ends its loop.
-/

namespace Imgjit

/-! ## The queue of a server that is started for the first time -/

/-- The queue has the capacity its constructor gave it. -/
def ServerConfig.QueueBuilt (config : ServerConfig) (s : State) : Prop :=
  s.queue.capacity = (BoundedQueue.make (α := QueuedFrame) config.queueCapacity).capacity

/-- Nobody has closed the queue yet. -/
def ServerConfig.FirstStart (config : ServerConfig) (s : State) : Prop :=
  config.QueueBuilt s ∧ s.queue.closed = false

/-- The runs of a server that is started once. -/
def ServerConfig.startedOnce (config : ServerConfig) (contract : Contract) :
    Transition.System State :=
  (config.system contract).restrict config.FirstStart

section Queue

variable {config : ServerConfig} {contract : Contract} {s s' : State}

/-- No step changes the capacity, and no step opens a closed queue. -/
lemma queue_step (h : Step config contract s s') :
    s'.queue.capacity = s.queue.capacity ∧ (s.queue.closed = true → s'.queue.closed = true) := by
  have hkept : ∀ queue : BoundedQueue QueuedFrame,
      queue.capacity = s.queue.capacity ∧ queue.closed = s.queue.closed →
      queue.capacity = s.queue.capacity ∧ (s.queue.closed = true → queue.closed = true) := by
    intro queue hqueue
    exact ⟨hqueue.1, fun hclosed => hqueue.2.trans hclosed⟩
  cases h with
  | push accepted place pushed => exact hkept _ (BoundedQueue.push_kept pushed)
  | pushClosed accepted place closed => exact hkept _ (BoundedQueue.push_kept closed)
  | workerPop place popped =>
      exact hkept _ (BoundedQueue.tryPop_kept (BoundedQueue.tryPop_of_either popped))
  | workerNoWork place busy empty => exact hkept _ (BoundedQueue.tryPop_kept empty)
  | workerExit place idle drained =>
      exact hkept _ (BoundedQueue.tryPop_kept (BoundedQueue.pop_eq_tryPop drained))
  | queueClosed place => exact ⟨rfl, fun _ => rfl⟩
  | _ => exact ⟨rfl, id⟩

lemma reachable_built (h : (config.system contract).Reachable s) (hbuilt : config.QueueBuilt s) :
    ((config.system contract).restrict config.QueueBuilt).Reachable s :=
  h.restrict (fun _ _ hstep hbuilt' => (queue_step hstep).1.symm.trans hbuilt') hbuilt

/-- A reachable state whose queue is open belongs to a first start. -/
lemma reachable_startedOnce (h : (config.system contract).Reachable s)
    (hfirst : config.FirstStart s) : (config.startedOnce contract).Reachable s := by
  refine h.restrict (fun t t' hstep hfirst' => ?_) hfirst
  obtain ⟨hcapacity, hclosed⟩ := queue_step hstep
  refine ⟨hcapacity.symm.trans hfirst'.1, ?_⟩
  rw [← Bool.not_eq_true]
  intro hclosed'
  exact absurd (hclosed hclosed') (by simp [hfirst'.2])

end Queue

/-! ## What each stage has achieved -/

namespace StopPc

/-- The acceptor has been joined. -/
def acceptorJoined : StopPc → Bool
  | notCalled => false
  | joinAcceptor => false
  | _ => true

/-- `slots->close()` has been called. -/
def slotsClosed : StopPc → Bool
  | joinConnections => true
  | closeQueue => true
  | joinWorker => true
  | stopped => true
  | _ => false

/-- The connection threads have been joined. -/
def connectionsJoined : StopPc → Bool
  | closeQueue => true
  | joinWorker => true
  | stopped => true
  | _ => false

/-- `queue.close()` has been called. -/
def queueClosed : StopPc → Bool
  | joinWorker => true
  | stopped => true
  | _ => false

end StopPc

/-- The stages of `stop`, as they show in the state. -/
structure Orderly (s : State) : Prop where
  acceptor : s.stop.acceptorJoined = true → s.acceptorDone = true
  pool : s.pool.closed = s.stop.slotsClosed
  connections : s.stop.connectionsJoined = true →
    ∀ c, s.Accepted c → (s.connections c).finished = true
  queue : s.queue.closed = s.stop.queueClosed
  worker : s.worker = .exited → s.stop.queueClosed = true

section Orderly

variable {config : ServerConfig} {contract : Contract} {s s' : State}

/-- A connection thread that has ended stays so. -/
lemma finished_step (h : Step config contract s s') {c : ℕ}
    (hfinished : (s.connections c).finished = true) : (s'.connections c).finished = true := by
  have hupdate : ∀ (c' : ℕ) (k : Connection), (k.finished = (s.connections c').finished ∨
      k.finished = true) → (Function.update s.connections c' k c).finished = true := by
    intro c' k hk
    rcases eq_or_ne c c' with rfl | hne
    · rw [Function.update_self]
      rcases hk with hk | hk
      · exact hk.trans hfinished
      · exact hk
    · rw [Function.update_of_ne hne]
      exact hfinished
  cases h with
  | silent accepted place => exact hupdate _ _ (.inl rfl)
  | recv accepted place fits => exact hupdate _ _ (.inl rfl)
  | respond accepted place => exact hupdate _ _ (.inl rfl)
  | claim accepted place claimed => exact hupdate _ _ (.inl rfl)
  | claimClosed accepted place closed => exact hupdate _ _ (.inl rfl)
  | jobSubmitted accepted place => exact hupdate _ _ (.inl rfl)
  | push accepted place pushed => exact hupdate _ _ (.inl rfl)
  | pushClosed accepted place closed => exact hupdate _ _ (.inl rfl)
  | pushFailed accepted place =>
      exact hupdate _ _ (.inl (by simp [Connection.jobRetired]))
  | giveBack accepted place released => exact hupdate _ _ (.inl rfl)
  | readerFinished accepted place first =>
      exact hupdate _ _ (.inl (by simp [Connection.readerFinished]))
  | connectionEnd accepted done joined => exact hupdate _ _ (.inr rfl)
  | writerPop accepted running popped => exact hupdate _ _ (.inl rfl)
  | writerExit accepted running drained => exact hupdate _ _ (.inl rfl)
  | handBackPush place => exact hupdate _ _ (.inl rfl)
  | handBackRetired place => exact hupdate _ _ (.inl (by simp [Connection.jobRetired]))
  | _ => exact hfinished

/-- Nor does the worker come back into its loop. -/
lemma exited_step (hexited : s.worker = .exited) (h : Step config contract s s') :
    s'.worker = .exited := by
  cases h with
  | workerPop place popped => rw [place] at hexited; cases hexited
  | workerNoWork place busy empty => rw [place] at hexited; cases hexited
  | workerExit place idle drained => rfl
  | submit place storage fresh => rw [place] at hexited; cases hexited
  | submitThrows place storage => rw [place] at hexited; cases hexited
  | poll place allowed => rw [place] at hexited; cases hexited
  | retireUnknown place missing => rw [place] at hexited; cases hexited
  | retire place found => rw [place] at hexited; cases hexited
  | retired place => rw [place] at hexited; cases hexited
  | handBackRelease place released => rw [place] at hexited; cases hexited
  | handBackPush place => rw [place] at hexited; cases hexited
  | handBackRetired place => rw [place] at hexited; cases hexited
  | _ => exact hexited

/-- A step that is none of `stop`'s and none of the acceptor's. -/
lemma Orderly.keep (h : Orderly s) (hstep : Step config contract s s') (hstop : s'.stop = s.stop)
    (hacceptor : s'.acceptorDone = s.acceptorDone)
    (hnext : s'.nextConnectionId = s.nextConnectionId) (hpool : s'.pool.closed = s.pool.closed)
    (hqueue : s'.queue.closed = s.queue.closed)
    (hworker : s'.worker = .exited → s.stop.queueClosed = true) : Orderly s' where
  acceptor hjoined := hacceptor.trans (h.acceptor (hstop ▸ hjoined))
  pool := by rw [hpool, hstop, h.pool]
  connections := by
    intro hjoined c haccepted
    rw [State.Accepted, hnext] at haccepted
    exact finished_step hstep (h.connections (hstop ▸ hjoined) c haccepted)
  queue := by rw [hqueue, hstop, h.queue]
  worker hexited := by rw [hstop]; exact hworker hexited

lemma orderly_of_started (h : Started config s) (hopen : s.queue.closed = false) : Orderly s := by
  have hpool := (SlotPool.make_open h.pool).1
  refine ⟨fun hjoined => ?_, ?_, fun hjoined => ?_, ?_, fun hexited => ?_⟩
  · rw [h.stop] at hjoined
    cases hjoined
  · rw [hpool, h.stop]
    rfl
  · rw [h.stop] at hjoined
    cases hjoined
  · rw [hopen, h.stop]
    rfl
  · rw [h.worker] at hexited
    cases hexited

/-- **No step gets ahead of `stop`.** -/
theorem orderly_step (h : Orderly s) (hstep : Step config contract s s') : Orderly s' := by
  have hcase := hstep
  cases hcase with
  | accept listening =>
      -- While the acceptor runs, no later stage has begun.
      have hearly : s.stop.acceptorJoined = false := by
        rw [← Bool.not_eq_true]
        intro hjoined
        rw [h.acceptor hjoined] at listening
        cases listening
      refine ⟨h.acceptor, h.pool, fun hjoined => ?_, h.queue, h.worker⟩
      dsimp only at hjoined
      cases hstop : s.stop <;> rw [hstop] at hjoined hearly <;> cases hjoined <;> cases hearly
  | acceptorExit stopping => exact ⟨fun _ => rfl, h.pool, h.connections, h.queue, h.worker⟩
  | claim accepted place claimed =>
      exact h.keep hstep rfl rfl rfl (SlotPool.claim_closed claimed) rfl h.worker
  | claimClosed accepted place closed =>
      exact h.keep hstep rfl rfl rfl (SlotPool.claim_closed closed) rfl h.worker
  | push accepted place pushed =>
      exact h.keep hstep rfl rfl rfl rfl (BoundedQueue.push_kept pushed).2 h.worker
  | pushClosed accepted place closed =>
      exact h.keep hstep rfl rfl rfl rfl (BoundedQueue.push_kept closed).2 h.worker
  | giveBack accepted place released =>
      exact h.keep hstep rfl rfl rfl (SlotPool.release_closed released) rfl h.worker
  | workerPop place popped =>
      exact h.keep hstep rfl rfl rfl rfl
        (BoundedQueue.tryPop_kept (BoundedQueue.tryPop_of_either popped)).2 nofun
  | workerNoWork place busy empty =>
      exact h.keep hstep rfl rfl rfl rfl (BoundedQueue.tryPop_kept empty).2 nofun
  | workerExit place idle drained =>
      obtain ⟨hclosed, hkept⟩ := BoundedQueue.pop_none drained
      exact h.keep hstep rfl rfl rfl rfl (by rw [hkept]) fun _ => h.queue.symm.trans hclosed
  | submit place storage fresh => exact h.keep hstep rfl rfl rfl rfl rfl nofun
  | submitThrows place storage => exact h.keep hstep rfl rfl rfl rfl rfl nofun
  | poll place allowed => exact h.keep hstep rfl rfl rfl rfl rfl nofun
  | retireUnknown place missing => exact h.keep hstep rfl rfl rfl rfl rfl nofun
  | retire place found => exact h.keep hstep rfl rfl rfl rfl rfl nofun
  | retired place => exact h.keep hstep rfl rfl rfl rfl rfl nofun
  | handBackRelease place released =>
      exact h.keep hstep rfl rfl rfl (SlotPool.release_closed released) rfl nofun
  | handBackPush place => exact h.keep hstep rfl rfl rfl rfl rfl nofun
  | @handBackRetired job response next place =>
      refine h.keep hstep rfl rfl rfl rfl rfl fun hexited => ?_
      cases next <;> cases hexited
  | stopCalled place =>
      obtain ⟨-, hpool, -, hqueue, hworker⟩ := h
      rw [place] at hpool hqueue hworker
      exact ⟨nofun, hpool, nofun, hqueue, hworker⟩
  | acceptorJoined place done =>
      obtain ⟨-, hpool, -, hqueue, hworker⟩ := h
      rw [place] at hpool hqueue hworker
      exact ⟨fun _ => done, hpool, nofun, hqueue, hworker⟩
  | socketsShutDown place =>
      obtain ⟨hacceptor, hpool, -, hqueue, hworker⟩ := h
      rw [place] at hacceptor hpool hqueue hworker
      exact ⟨hacceptor, hpool, nofun, hqueue, hworker⟩
  | slotsClosed place =>
      obtain ⟨hacceptor, -, -, hqueue, hworker⟩ := h
      rw [place] at hacceptor hqueue hworker
      exact ⟨hacceptor, rfl, nofun, hqueue, hworker⟩
  | connectionsJoined place finished =>
      obtain ⟨hacceptor, hpool, -, hqueue, hworker⟩ := h
      rw [place] at hacceptor hpool hqueue hworker
      exact ⟨hacceptor, hpool, fun _ => finished, hqueue, hworker⟩
  | queueClosed place =>
      obtain ⟨hacceptor, hpool, hconnections, -, -⟩ := h
      rw [place] at hacceptor hpool hconnections
      exact ⟨hacceptor, hpool, hconnections, rfl, fun _ => rfl⟩
  | workerJoined place exited =>
      obtain ⟨hacceptor, hpool, hconnections, hqueue, -⟩ := h
      rw [place] at hacceptor hpool hconnections hqueue
      exact ⟨hacceptor, hpool, hconnections, hqueue, fun _ => rfl⟩
  | _ => exact h.keep hstep rfl rfl rfl rfl rfl h.worker

/-- **The stages of `stop` come in their order**, in every run of a server started once. -/
theorem orderly_of_reachable (h : (config.startedOnce contract).Reachable s) : Orderly s := by
  refine h.invariant ?_ ?_
  · rintro t ⟨hstarted, -, hopen⟩
    exact orderly_of_started hstarted hopen
  · intro t t' _ horderly hstep
    exact orderly_step horderly hstep

end Orderly

/-! ## Nothing is left -/

/-- No job is anywhere, and every frame that was read has been answered. -/
structure Drained (s : State) : Prop where
  /-- Every connection thread has ended, after its reader and its writer. -/
  connections : ∀ c, s.Accepted c → (s.connections c).finished = true
    ∧ (s.connections c).reader = .returned ∧ (s.connections c).writerDone = true
  queue : s.queue.items = []
  worker : (s.worker.held fun _ => true) = []
  inFlight : s.inFlight = []
  /-- The writers have taken one response for each frame answered or pushed. -/
  answered : ∀ c, (s.connections c).answered.Perm ((s.connections c).popped.map Response.seqNum)
    ∧ (s.connections c).outbox.items = []

/-- What a shutdown can rely on. -/
structure ShutDown (config : ServerConfig) (contract : Contract) (s : State) : Prop where
  /-- The state in which `stop` is about to call `queue.close()`, and every later one. -/
  drained : s.stop.connectionsJoined = true → Drained s
  /-- No push is refused. -/
  pushTaken : ∀ c header chain slot queue, (s.connections c).reader = .push header chain slot →
    s.queue.push (queuedFrame c header chain slot) ≠ some (false, queue)
  /-- Once the queue is closed, a worker about to pop is idle, its pop finds the queue closed and
  drained, and leaving the loop is all it can do. -/
  lastPop : s.stop.queueClosed = true → s.worker = .top → s.inFlight = []
    ∧ s.queue.pop = some (none, s.queue)
    ∧ ∀ s', Step config contract s s' → s'.worker ≠ s.worker → s'.worker = .exited
  /-- Wherever the queue's closing finds the worker, it can get there. -/
  exits : s.stop.queueClosed = true →
    ∃ s', Relation.ReflTransGen (Step config contract) s s' ∧ s'.worker = .exited
  /-- The worker leaves its loop only then. -/
  exited : s.worker = .exited → s.stop.queueClosed = true

section ShutDown

variable {config : ServerConfig} {contract : Contract} {s : State}

/-- Connections that have ended leave no job behind. -/
lemma Accounts.no_jobs_of_finished (h : Accounts s)
    (hfinished : ∀ c, s.Accepted c → (s.connections c).finished = true) : s.jobs.unretired = [] := by
  refine List.eq_nil_iff_forall_not_mem.mpr fun job hjob => ?_
  have hledger := h.ledger job.connection
  have hwriter := (hledger.finished (hfinished _ (h.accepted_of_job hjob))).2
  exact h.no_jobs (hledger.writerDone hwriter).1 job hjob rfl

lemma drained_of_finished (haccounts : Accounts s) (hdelivery : ∀ c, Delivery s c)
    (hfinished : ∀ c, s.Accepted c → (s.connections c).finished = true) : Drained s := by
  have hjobs := haccounts.no_jobs_of_finished hfinished
  simp only [State.jobs, State.collect, List.append_eq_nil_iff, List.map_eq_nil_iff] at hjobs
  obtain ⟨hqueue, hworker, hinFlight⟩ := hjobs
  refine ⟨fun c haccepted => ?_, hqueue, hworker, hinFlight, fun c => ?_⟩
  · obtain ⟨hreader, hwriter⟩ := (haccounts.ledger c).finished (hfinished c haccepted)
    exact ⟨hfinished c haccepted, (haccounts.ledger c).readerDone hreader, hwriter⟩
  · by_cases haccepted : s.Accepted c
    · have hwriter := ((haccounts.ledger c).finished (hfinished c haccepted)).2
      exact ⟨(hdelivery c).complete hwriter, ((haccounts.ledger c).writerDone hwriter).2⟩
    · rw [haccounts.unaccepted c haccepted]
      exact ⟨List.Perm.refl _, rfl⟩

/-- What the worker can do at the head of its loop when nothing is left and the queue is closed. -/
lemma step_of_drained (hdrained : Drained s) (hclosed : s.queue.closed = true)
    (place : s.worker = .top) {s' : State} (hstep : Step config contract s s')
    (hmoves : s'.worker ≠ s.worker) : s'.worker = .exited := by
  have hpop : s.queue.pop = some (none, s.queue) := by
    simp [BoundedQueue.pop, BoundedQueue.tryPop, hdrained.queue, hclosed]
  cases hstep with
  | workerPop _ popped =>
      rw [if_pos hdrained.inFlight, hpop] at popped
      cases popped
  | workerNoWork _ busy empty => exact absurd hdrained.inFlight busy
  | workerExit _ idle drained => rfl
  | submit place' storage fresh => rw [place] at place'; cases place'
  | submitThrows place' storage => rw [place] at place'; cases place'
  | poll place' allowed => rw [place] at place'; cases place'
  | retireUnknown place' missing => rw [place] at place'; cases place'
  | retire place' found => rw [place] at place'; cases place'
  | retired place' => rw [place] at place'; cases place'
  | handBackRelease place' released => rw [place] at place'; cases place'
  | handBackPush place' => rw [place] at place'; cases place'
  | handBackRetired place' => rw [place] at place'; cases place'
  | _ => exact absurd rfl hmoves

/-- A drained server stays so while its worker looks for completions. -/
lemma Drained.withWorker (h : Drained s) (worker : WorkerPc)
    (hheld : (worker.held fun _ => true) = []) : Drained { s with worker := worker } :=
  ⟨h.connections, h.queue, hheld, h.inFlight, h.answered⟩

variable (config contract) in
lemma exits_of_top (hdrained : Drained s) (hclosed : s.queue.closed = true)
    (place : s.worker = .top) :
    ∃ s', Relation.ReflTransGen (Step config contract) s s' ∧ s'.worker = .exited := by
  have hpop : s.queue.pop = some (none, s.queue) := by
    simp [BoundedQueue.pop, BoundedQueue.tryPop, hdrained.queue, hclosed]
  exact ⟨_, .single (.workerExit place hdrained.inFlight hpop), rfl⟩

variable (config contract) in
/-- Completions of a drained server's backend answer no job: the worker passes over them. -/
lemma exits_of_retire {completions : List Completion} :
    ∀ {s : State}, Drained s → s.queue.closed = true → s.worker = .retire completions →
      ∃ s', Relation.ReflTransGen (Step config contract) s s' ∧ s'.worker = .exited := by
  induction completions with
  | nil =>
      intro s hdrained hclosed place
      obtain ⟨s', hsteps, hexited⟩ := exits_of_top config contract
        (hdrained.withWorker .top rfl) hclosed rfl
      exact ⟨s', .head (.retired place) hsteps, hexited⟩
  | cons completion rest ih =>
      intro s hdrained hclosed place
      have hmissing : findInFlight s.inFlight completion.handle = none := by
        rw [hdrained.inFlight]
        rfl
      obtain ⟨s', hsteps, hexited⟩ :=
        ih (hdrained.withWorker (.retire rest) rfl) hclosed rfl
      exact ⟨s', .head (.retireUnknown place hmissing) hsteps, hexited⟩

lemma exits_of_drained (hdrained : Drained s) (hclosed : s.queue.closed = true) :
    ∃ s', Relation.ReflTransGen (Step config contract) s s' ∧ s'.worker = .exited := by
  have hheld := hdrained.worker
  cases place : s.worker with
  | top => exact exits_of_top config contract hdrained hclosed place
  | submit frame => simp [place, WorkerPc.held] at hheld
  | poll =>
      have hnone : s.Completes contract [] := ⟨List.nodup_nil, by simp, by simp⟩
      obtain ⟨s', hsteps, hexited⟩ := exits_of_retire config contract
        (hdrained.withWorker (.retire []) rfl) hclosed rfl
      exact ⟨s', .head (.poll place hnone) hsteps, hexited⟩
  | retire completions => exact exits_of_retire config contract hdrained hclosed place
  | handBack stage job response next => simp [place, WorkerPc.held] at hheld
  | exited => exact ⟨s, .refl, place⟩

/-- **A server shuts down in order.**  Whenever `stop` is called, and whatever the clients and the
backend do meanwhile: when it gets to `queue.close()` nothing is left anywhere, no reader has ever
been refused a push, and the worker's next idle pop ends its loop. -/
theorem shutDown_of_reachable (h : (config.startedOnce contract).Reachable s) :
    ShutDown config contract s := by
  have hreachable := h.of_restrict
  have haccounts := accounts_of_reachable hreachable
  have horderly := orderly_of_reachable h
  have hdrained : s.stop.connectionsJoined = true → Drained s := fun hjoined =>
    drained_of_finished haccounts haccounts.delivery (horderly.connections hjoined)
  have hlate : s.stop.queueClosed = true → s.stop.connectionsJoined = true := by
    cases s.stop <;> simp [StopPc.queueClosed, StopPc.connectionsJoined]
  refine ⟨hdrained, fun c header chain slot queue place hpush => ?_, fun hclosed place => ?_,
    fun hclosed => ?_, horderly.worker⟩
  · -- The queue closes after every connection has ended, and this one has not.
    have hjoined := hlate (horderly.queue.symm.trans (BoundedQueue.push_false hpush).1)
    by_cases haccepted : s.Accepted c
    · have hreader := ((hdrained hjoined).connections c haccepted).2.1
      rw [place] at hreader
      cases hreader
    · rw [haccounts.unaccepted c haccepted] at place
      cases place
  · have hleft := hdrained (hlate hclosed)
    have hqueue := horderly.queue.trans hclosed
    refine ⟨hleft.inFlight, ?_, fun s' hstep => step_of_drained hleft hqueue place hstep⟩
    simp [BoundedQueue.pop, BoundedQueue.tryPop, hleft.queue, hqueue]
  · exact exits_of_drained (hdrained (hlate hclosed)) (horderly.queue.trans hclosed)

/-- The server of `OneRequest` is stopped after it has served its one frame. -/
theorem shutDown_of_reachable_served : ∃ s : State, s.stop = .closeQueue
    ∧ (s.connections 1).answered = [7]
    ∧ ShutDown OneRequest.config (fun _ _ _ => True) s := by
  have hserved : (OneRequest.config.startedOnce fun _ _ _ => True).Reachable OneRequest.served :=
    reachable_startedOnce (OneRequest.served_reachable trivial) ⟨rfl, rfl⟩
  have haccepted : OneRequest.served.Accepted 1 := ⟨le_rfl, Nat.lt_add_one 1⟩
  have hidle := (hserved.step (.handBackRetired rfl)).step (.retired rfl)
  have hclosed := ((((hidle.step (.stopCalled rfl)).step (.acceptorExit (by simp))).step
    (.acceptorJoined rfl rfl)).step (.socketsShutDown rfl)).step (.slotsClosed rfl)
  have heof : Recv.eof.Fits 25 := trivial
  have hread := (hclosed.step (.silent haccepted rfl)).step (.recv haccepted rfl heof)
  have hdone := (hread.step (.readerFinished haccepted rfl rfl)).step (.writerExit haccepted rfl rfl)
  have hended := hdone.step (.connectionEnd haccepted rfl rfl)
  have hjoined := hended.step (.connectionsJoined rfl fun c hc => ?_)
  · exact ⟨_, rfl, rfl, shutDown_of_reachable hjoined⟩
  · have hone : c = 1 := le_antisymm (Nat.lt_succ_iff.mp hc.2) hc.1
    rw [hone]
    rfl

end ShutDown

end Imgjit
