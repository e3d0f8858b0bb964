import Imgjit.Net.Shutdown

/-!
# No circular wait

A pipelining client can leave its own reader parked, in a claim or in a push, while its writer is
stuck in `send`.  If the reader waited for something that only comes behind the writer, the client
would have stopped its connection, and if others waited for the reader's slot, all of them.  This
file shows that such a reader never waits for itself: somebody else can move, and that somebody is
never waiting for a writer.

**Who can move.**  `WorkerEnabled` and `ReaderEnabled`: the thread can take a step now.
`worker_enabled_or_idle`: a worker that cannot move has no job anywhere, so whoever holds a slot
then is a reader.

**Counts.**  `SlotPool.Tallied` and the ledgers find the holder of every slot; a claim that has to
wait finds either no free slot or an owner at its cap (`SlotPool.claim_blocked`).

**The result.**  `no_circular_wait` says of a parked reader who can move, and that the answer does
not depend on any writer.

**A reader on its way to the queue.**  `blocked_behind_push`: a reader can also wait for another
reader that has its whole payload and is on its way into the queue.
-/

namespace Imgjit

/-! ## Who can move -/

/-- The worker can take a step.  Every step of the worker changes its place. -/
def WorkerEnabled (config : ServerConfig) (contract : Contract) (s : State) : Prop :=
  ∃ s', Step config contract s s' ∧ s'.worker ≠ s.worker

/-- The reader of connection `c` can take a step. -/
def ReaderEnabled (config : ServerConfig) (contract : Contract) (s : State) (c : ℕ) : Prop :=
  ∃ s', Step config contract s s' ∧ (s'.connections c).reader ≠ (s.connections c).reader

/-- The reader of connection `c` is in `recv`, for bytes of a payload. -/
def State.AwaitsPayload (s : State) (c : ℕ) : Prop :=
  ∃ header chain slot remaining buffer, (s.connections c).reader
    = .reading (.payload header chain slot) (remaining + 1) buffer

section Worker

variable {config : ServerConfig} {contract : Contract} {s s' : State}

/-- **Whether the worker can move does not depend on any connection**: not on an outbox, not on a
writer, not on a reader. -/
theorem workerEnabled_withConnections (connections : ℕ → Connection)
    (h : WorkerEnabled config contract s) :
    WorkerEnabled config contract { s with connections := connections } := by
  obtain ⟨s', hstep, hmoves⟩ := h
  cases hstep with
  | workerPop place popped => exact ⟨_, .workerPop place popped, hmoves⟩
  | workerNoWork place busy empty => exact ⟨_, .workerNoWork place busy empty, hmoves⟩
  | workerExit place idle drained => exact ⟨_, .workerExit place idle drained, hmoves⟩
  | submit place storage fresh => exact ⟨_, .submit place storage fresh, hmoves⟩
  | submitThrows place storage => exact ⟨_, .submitThrows place storage, hmoves⟩
  | poll place allowed =>
      exact ⟨_, .poll place ⟨allowed.nodup, allowed.fresh, allowed.kept⟩, hmoves⟩
  | retireUnknown place missing => exact ⟨_, .retireUnknown place missing, hmoves⟩
  | retire place found => exact ⟨_, .retire place found, hmoves⟩
  | retired place => exact ⟨_, .retired place, hmoves⟩
  | handBackRelease place released => exact ⟨_, .handBackRelease place released, hmoves⟩
  | handBackPush place => exact ⟨_, .handBackPush place, hmoves⟩
  | handBackRetired place => exact ⟨_, .handBackRetired place, hmoves⟩
  | _ => exact absurd rfl hmoves

/-! ## The worker moves unless it has nothing to do -/

/-- A worker that has left its loop has left nothing behind, and nothing can come after it. -/
structure LeftNothing (s : State) : Prop where
  queue : s.queue.items = []
  closed : s.queue.closed = true
  inFlight : s.inFlight = []

lemma leftNothing_step (h : s.worker = .exited → LeftNothing s)
    (hstep : Step config contract s s') : s'.worker = .exited → LeftNothing s' := by
  cases hstep with
  | push accepted place pushed =>
      intro hexited
      have hclosed := (h hexited).closed
      rw [(BoundedQueue.push_true pushed).1] at hclosed
      cases hclosed
  | pushClosed accepted place closed =>
      intro hexited
      obtain ⟨-, rfl⟩ := BoundedQueue.push_false closed
      exact ⟨(h hexited).queue, (h hexited).closed, (h hexited).inFlight⟩
  | workerExit place idle drained =>
      intro _
      obtain ⟨hclosed, rfl⟩ := BoundedQueue.pop_none drained
      exact ⟨(BoundedQueue.tryPop_none (BoundedQueue.pop_eq_tryPop drained)).1, hclosed, idle⟩
  | handBackRetired place =>
      rename_i next
      cases next <;> nofun
  | queueClosed place => exact fun hexited => ⟨(h hexited).queue, rfl, (h hexited).inFlight⟩
  | workerPop place popped => nofun
  | workerNoWork place busy empty => nofun
  | submit place storage fresh => nofun
  | submitThrows place storage => nofun
  | poll place allowed => nofun
  | retireUnknown place missing => nofun
  | retire place found => nofun
  | retired place => nofun
  | handBackRelease place released => nofun
  | handBackPush place => nofun
  | _ => exact fun hexited => ⟨(h hexited).queue, (h hexited).closed, (h hexited).inFlight⟩

/-- The worker at the head of its loop moves if there is anything to take or to poll for. -/
lemma workerEnabled_top (place : s.worker = .top)
    (hwork : s.queue.items ≠ [] ∨ s.inFlight ≠ []) : WorkerEnabled config contract s := by
  rcases hitems : s.queue.items with _ | ⟨frame, rest⟩
  · have hbusy : s.inFlight ≠ [] := hwork.resolve_left (not_not_intro hitems)
    have hempty : s.queue.tryPop = (none, s.queue) := by
      simp only [BoundedQueue.tryPop, hitems]
    exact ⟨_, .workerNoWork place hbusy hempty, by simp [place]⟩
  · have htry : s.queue.tryPop = (some frame, { s.queue with items := rest }) := by
      simp only [BoundedQueue.tryPop, hitems]
    have hpopped : if s.inFlight = [] then
          s.queue.pop = some (some frame, { s.queue with items := rest })
        else s.queue.tryPop = (some frame, { s.queue with items := rest }) := by
      split_ifs
      · simp [BoundedQueue.pop, hitems, htry]
      · exact htry
    exact ⟨_, .workerPop place hpopped, by simp [place]⟩

/-- **A worker that cannot move has no job**: the queue and the in-flight table are empty, and its
hands are too. -/
theorem worker_enabled_or_idle (haccounts : Accounts s)
    (hexited : s.worker = .exited → LeftNothing s) :
    WorkerEnabled config contract s
      ∨ s.queue.items = [] ∧ s.inFlight = [] ∧ s.jobs.unretired = [] := by
  cases place : s.worker with
  | top =>
      by_cases hwork : s.queue.items ≠ [] ∨ s.inFlight ≠ []
      · exact .inl (workerEnabled_top place hwork)
      · obtain ⟨hqueue, hinFlight⟩ := not_or.mp hwork
        rw [not_not] at hqueue hinFlight
        refine .inr ⟨hqueue, hinFlight, ?_⟩
        simp [State.jobs, State.collect, hqueue, hinFlight, place, WorkerPc.held]
  | submit frame =>
      have hjob : frame.entry ∈ s.jobs.holding := by
        simp [State.jobs, State.collect, place, WorkerPc.held]
      have hlt := haccounts.pool.owned_lt _ _ (haccounts.owner_of_holding hjob)
      have hslot : s.pool.slot frame.slot = .ok frame.slot := by
        rw [SlotPool.slot, if_neg (by exact not_le.mpr hlt)]
      exact .inl ⟨_, .submitThrows place hslot, by simp [place]⟩
  | poll =>
      have hnone : s.Completes contract [] := ⟨List.nodup_nil, by simp, by simp⟩
      exact .inl ⟨_, .poll place hnone, by simp [place]⟩
  | retire completions =>
      cases completions with
      | nil => exact .inl ⟨_, .retired place, by simp [place]⟩
      | cons completion rest =>
          cases hfind : findInFlight s.inFlight completion.handle with
          | none => exact .inl ⟨_, .retireUnknown place hfind, by simp [place]⟩
          | some entry => exact .inl ⟨_, .retire place hfind, by simp [place]⟩
  | handBack stage job response next =>
      cases stage with
      | release =>
          have hjob : job ∈ s.jobs.holding := by
            simp [State.jobs, State.collect, place, WorkerPc.held, Stage.holdsSlot]
          obtain ⟨pool, hpool, -⟩ :=
            SlotPool.release_spec haccounts.pool (haccounts.owner_of_holding hjob)
          exact .inl ⟨_, .handBackRelease place hpool, by simp [place]⟩
      | push => exact .inl ⟨_, .handBackPush place, by simp [place]⟩
      | retired =>
          refine .inl ⟨_, .handBackRetired place, ?_⟩
          cases next <;> simp [place, Resume.pc]
  | exited =>
      obtain ⟨hqueue, -, hinFlight⟩ := hexited place
      refine .inr ⟨hqueue, hinFlight, ?_⟩
      simp [State.jobs, State.collect, hqueue, hinFlight, place, WorkerPc.held]

/-- A worker that waits for work cannot move. -/
lemma not_workerEnabled_of_idle (place : s.worker = .top) (hinFlight : s.inFlight = [])
    (hqueue : s.queue.items = []) (hopen : s.queue.closed = false) :
    ¬WorkerEnabled config contract s := by
  rintro ⟨s', hstep, hmoves⟩
  have hpop : s.queue.pop = none := by simp [BoundedQueue.pop, hqueue, hopen]
  cases hstep with
  | workerPop _ popped =>
      rw [if_pos hinFlight, hpop] at popped
      cases popped
  | workerNoWork _ busy empty => exact busy hinFlight
  | workerExit _ idle drained =>
      rw [hpop] at drained
      cases drained
  | submit place' storage fresh => rw [place] at place'; cases place'
  | submitThrows place' storage => rw [place] at place'; cases place'
  | poll place' allowed => rw [place] at place'; cases place'
  | retireUnknown place' missing => rw [place] at place'; cases place'
  | retire place' found => rw [place] at place'; cases place'
  | retired place' => rw [place] at place'; cases place'
  | handBackRelease place' released => rw [place] at place'; cases place'
  | handBackPush place' => rw [place] at place'; cases place'
  | handBackRetired place' => rw [place] at place'; cases place'
  | _ => exact hmoves rfl

end Worker

/-! ## The pool's counts, over a run -/

section Tallied

variable {config : ServerConfig} {contract : Contract} {s s' : State}

lemma tallied_step (haccounts : Accounts s) (h : s.pool.Tallied)
    (hstep : Step config contract s s') : s'.pool.Tallied := by
  cases hstep with
  | claim accepted place claimed => exact SlotPool.claim_tallied haccounts.pool h claimed
  | claimClosed accepted place closed =>
      obtain ⟨-, rfl⟩ := SlotPool.claim_none closed
      exact h
  | @giveBack c slot pool accepted place released =>
      have howner := ((haccounts.ledger c).giveBack place).1
      exact SlotPool.release_tallied haccounts.pool h howner released
  | @handBackRelease job response next pool place released =>
      have hjob : job ∈ s.jobs.holding := by
        simp [State.jobs, State.collect, place, WorkerPc.held, Stage.holdsSlot]
      exact SlotPool.release_tallied haccounts.pool h (haccounts.owner_of_holding hjob) released
  | slotsClosed place => exact ⟨h.count_pos, h.cap_pos, h.held⟩
  | _ => exact h

/-- What the progress argument needs of a state, beyond the books. -/
structure Settled (config : ServerConfig) (s : State) : Prop where
  accounts : Accounts s
  tallied : s.pool.Tallied
  exited : s.worker = .exited → LeftNothing s
  capacity : 1 ≤ s.queue.capacity

/-- In every run the books balance and the counts of the pool agree with them. -/
theorem settled_of_reachable
    (h : ((config.system contract).restrict config.QueueBuilt).Reachable s) :
    Settled config s := by
  refine h.invariant ?_ ?_
  · rintro t ⟨hstarted, hbuilt⟩
    refine ⟨accounts_of_started hstarted, SlotPool.make_tallied hstarted.pool, ?_, ?_⟩
    · rw [hstarted.worker]
      nofun
    · rw [hbuilt]
      simp only [BoundedQueue.make]
      split_ifs <;> omega
  · intro t t' _ hsettled hstep
    exact ⟨accounts_step hsettled.accounts hstep,
      tallied_step hsettled.accounts hsettled.tallied hstep,
      leftNothing_step hsettled.exited hstep, (queue_step hstep).1 ▸ hsettled.capacity⟩

end Tallied

/-! ## Whoever holds a slot can move -/

/-- What rules out a circular wait in a state. -/
structure NoCircularWait (config : ServerConfig) (contract : Contract) (s : State) : Prop where
  /-- A reader parked in `claim` waits for the worker, for another client's payload, or for another
  reader on its way to the queue. -/
  claim : ∀ c header chain, (s.connections c).reader = .claim header chain →
    s.pool.claim c = none → WorkerEnabled config contract s
      ∨ ∃ c' ≠ c, (∃ slot, (s.connections c').reader.heldSlot = some slot)
        ∧ (s.AwaitsPayload c' ∨ ¬s.AwaitsPayload c' ∧ ReaderEnabled config contract s c')
  /-- A reader parked in `push` waits for the worker. -/
  push : ∀ c header chain slot, (s.connections c).reader = .push header chain slot →
    s.queue.push (queuedFrame c header chain slot) = none → WorkerEnabled config contract s
  /-- The worker waits for nobody's writer. -/
  independent : ∀ connections, WorkerEnabled config contract { s with connections := connections }
    ↔ WorkerEnabled config contract s

section Readers

variable {config : ServerConfig} {contract : Contract} {s : State}

/-- Leaving a place is a step when the place is another one afterwards. -/
lemma readerEnabled_of_step {c : ℕ} {k : Connection} {s' : State}
    (hstep : Step config contract s s') (hconnections : s'.connections
      = Function.update s.connections c k) (hmoves : k.reader ≠ (s.connections c).reader) :
    ReaderEnabled config contract s c := by
  refine ⟨s', hstep, ?_⟩
  rw [hconnections, Function.update_self]
  exact hmoves

/-- A reader anywhere else is not receiving a payload. -/
lemma not_awaitsPayload {c : ℕ} {pc : ReaderPc} (place : (s.connections c).reader = pc)
    (hpc : ∀ header chain slot remaining buffer,
      pc ≠ .reading (.payload header chain slot) (remaining + 1) buffer) : ¬s.AwaitsPayload c := by
  rintro ⟨header, chain, slot, remaining, buffer, hreading⟩
  exact hpc header chain slot remaining buffer (place.symm.trans hreading)

/-- A reader with a slot in its hands either waits for its client or can move, when there is room
in the queue. -/
theorem holder_moves (hsettled : Settled config s) {c slot : ℕ}
    (hheld : (s.connections c).reader.heldSlot = some slot) (hroom : s.queue.items = []) :
    s.AwaitsPayload c ∨ ¬s.AwaitsPayload c ∧ ReaderEnabled config contract s c := by
  have haccepted : s.Accepted c := by
    by_contra hnot
    rw [hsettled.accounts.unaccepted c hnot] at hheld
    cases hheld
  cases place : (s.connections c).reader with
  | reading into remaining buffer =>
      cases into with
      | payload header chain slot' =>
          cases remaining with
          | zero =>
              refine .inr ⟨not_awaitsPayload place (by simp), ?_⟩
              refine readerEnabled_of_step (.silent haccepted (by rw [place]; rfl)) rfl ?_
              rw [place]
              simp [ReaderPc.readDone]
          | succ remaining => exact .inl ⟨header, chain, slot', remaining, buffer, place⟩
      | header => rw [place] at hheld; cases hheld
      | chain header => rw [place] at hheld; cases hheld
      | scratch left => rw [place] at hheld; cases hheld
  | submit header chain slot' =>
      refine .inr ⟨not_awaitsPayload place (by simp), ?_⟩
      refine readerEnabled_of_step (.jobSubmitted haccepted place) rfl ?_
      rw [place]
      simp
  | push header chain slot' =>
      refine .inr ⟨not_awaitsPayload place (by simp), ?_⟩
      cases hclosed : s.queue.closed with
      | true =>
          have hrefused : s.queue.push (queuedFrame c header chain slot')
              = some (false, s.queue) := by
            simp [BoundedQueue.push, hclosed]
          refine readerEnabled_of_step (.pushClosed haccepted place hrefused) rfl ?_
          rw [place]
          simp
      | false =>
          have hcapacity : 0 < s.queue.capacity := hsettled.capacity
          obtain ⟨queue, htaken⟩ : ∃ queue,
              s.queue.push (queuedFrame c header chain slot') = some (true, queue) := by
            simp [BoundedQueue.push, hclosed, hroom, hcapacity]
          refine readerEnabled_of_step (.push haccepted place htaken) rfl ?_
          rw [place]
          simp
  | pushFailed slot' =>
      refine .inr ⟨not_awaitsPayload place (by simp), ?_⟩
      refine readerEnabled_of_step (.pushFailed haccepted place) rfl ?_
      rw [place]
      simp
  | giveBack slot' =>
      have howner := ((hsettled.accounts.ledger c).giveBack place).1
      obtain ⟨pool, hpool, -⟩ := SlotPool.release_spec hsettled.accounts.pool howner
      refine .inr ⟨not_awaitsPayload place (by simp), ?_⟩
      refine readerEnabled_of_step (.giveBack haccepted place hpool) rfl ?_
      rw [place]
      simp
  | loopHead => rw [place] at hheld; cases hheld
  | respond header status unread => rw [place] at hheld; cases hheld
  | drain left => rw [place] at hheld; cases hheld
  | claim header chain => rw [place] at hheld; cases hheld
  | returned => rw [place] at hheld; cases hheld

/-- The slot of an owner is in its reader's hands or with one of its jobs. -/
lemma Accounts.holder_of_owner (h : Accounts s) {c i : ℕ} (howner : s.pool.ownerOf i = some c) :
    (s.connections c).reader.heldSlot = some i ∨ ∃ job ∈ s.jobs.holding, job.connection = c := by
  have hslots := (h.ledger c).slots i
  have howner' : s.jobs.ownerOf i = some c := howner
  simp only [howner', if_true] at hslots
  split_ifs at hslots with hheld
  · exact .inl hheld
  · obtain ⟨job, hjob, hat⟩ := List.countP_pos_iff.mp
      (show 0 < s.jobs.holding.countP (InFlight.at c i) by omega)
    simp only [InFlight.at, Bool.and_eq_true, beq_iff_eq] at hat
    exact .inr ⟨job, hjob, hat.1⟩

/-- **There is no circular wait.**  Whatever the sizes of the pool, of the caps and of the queue, a
reader parked in a claim or in a push waits for somebody who can move or for another client's
bytes; and the worker, which everybody may be waiting for, never waits for a writer. -/
theorem no_circular_wait
    (h : ((config.system contract).restrict config.QueueBuilt).Reachable s) :
    NoCircularWait config contract s := by
  have hsettled := settled_of_reachable h
  have haccounts := hsettled.accounts
  refine ⟨fun c header chain place hparked => ?_, fun c header chain slot place hparked => ?_,
    fun connections => ⟨fun henabled => ?_, workerEnabled_withConnections connections⟩⟩
  · rcases worker_enabled_or_idle haccounts hsettled.exited with henabled | ⟨hqueue, -, hjobs⟩
    · exact .inl henabled
    · -- No job holds a slot, so all slots that are not free are in readers' hands.
      have hholder : ∀ c' i, s.pool.ownerOf i = some c' →
          (s.connections c').reader.heldSlot = some i := by
        intro c' i howner
        rcases haccounts.holder_of_owner howner with hheld | ⟨job, hjob, -⟩
        · exact hheld
        · have hleft := mem_unretired hjob
          rw [hjobs] at hleft
          cases hleft
      obtain ⟨-, hempty | ⟨i, -, howner⟩⟩ := SlotPool.claim_blocked hsettled.tallied hparked
      · have hfirst : 0 < s.pool.count := hsettled.tallied.count_pos
        have hmem := haccounts.pool.mem_freeList 0
        simp only [hempty, List.not_mem_nil, hfirst, true_and, false_iff] at hmem
        obtain ⟨c', howner⟩ := Option.ne_none_iff_exists'.mp hmem
        have hheld := hholder c' 0 howner
        refine .inr ⟨c', ?_, ⟨0, hheld⟩, holder_moves hsettled hheld hqueue⟩
        rintro rfl
        rw [place] at hheld
        cases hheld
      · have hheld := hholder c i howner
        rw [place] at hheld
        cases hheld
  · refine (worker_enabled_or_idle haccounts hsettled.exited).resolve_right ?_
    rintro ⟨hqueue, -, -⟩
    have hcapacity : 0 < s.queue.capacity := hsettled.capacity
    cases hclosed : s.queue.closed <;>
      simp [BoundedQueue.push, hclosed, hqueue, hcapacity] at hparked
  · have hback := workerEnabled_withConnections s.connections henabled
    exact hback

end Readers

/-! ## A reader on its way to the queue

Connection 1 has its whole payload in the only slot and is about to push it, when connection 2 comes
to claim a slot. -/

namespace TwoRequests

open OneRequest

/-- Connection 2 has been accepted. -/
def arrived : State := { submitted with nextConnectionId := submitted.nextConnectionId + 1 }

/-- Its reader has received the header and the chain, and finds no slot. -/
def blocked : State := claiming 2 arrived

variable {contract : Contract}

/-- The server gets there. -/
lemma blocked_reachable : (config.system contract).Reachable blocked :=
  claiming_reachable (submitted_reachable.step (.accept rfl)) (by simp [State.Accepted, arrived,
    show submitted.nextConnectionId = 2 from rfl]) rfl

/-- **A reader parked in a claim may wait for another reader**, which has its whole payload and has
not pushed it yet, while the worker waits for that push. -/
theorem blocked_behind_push : ∃ s : State,
    ((OneRequest.config.system (fun _ _ _ => True)).restrict
      OneRequest.config.QueueBuilt).Reachable s
    ∧ (s.connections 2).reader = .claim header chain ∧ s.pool.claim 2 = none
    ∧ ¬WorkerEnabled OneRequest.config (fun _ _ _ => True) s ∧ ∀ c, ¬s.AwaitsPayload c := by
  refine ⟨blocked, reachable_built blocked_reachable rfl, rfl, rfl, ?_, fun c => ?_⟩
  · exact not_workerEnabled_of_idle rfl rfl rfl rfl
  · have htwoPc : (blocked.connections 2).reader = .claim header chain := rfl
    have honePc : (blocked.connections 1).reader = .push header chain 0 := rfl
    rcases eq_or_ne c 2 with rfl | htwo
    · exact not_awaitsPayload htwoPc (by simp)
    rcases eq_or_ne c 1 with rfl | hone
    · exact not_awaitsPayload honePc (by simp)
    · have hunaccepted : ¬blocked.Accepted c := by
        rintro ⟨hlow, hhigh⟩
        have hhigh' : c < 3 := hhigh
        omega
      have hreachable : (config.system fun _ _ _ => True).Reachable blocked := blocked_reachable
      have hinitial := (accounts_of_reachable hreachable).unaccepted c hunaccepted
      exact not_awaitsPayload (congrArg Connection.reader hinitial) (by simp)

/-- The server in which both readers wait is not in a circular wait. -/
theorem no_circular_wait_blocked :
    NoCircularWait OneRequest.config (fun _ _ _ => True) blocked :=
  no_circular_wait (reachable_built blocked_reachable rfl)

end TwoRequests

end Imgjit
