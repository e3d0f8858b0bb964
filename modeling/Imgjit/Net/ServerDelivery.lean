import Imgjit.Net.ServerAccounts

/-!
# What the books guarantee

The consequences of `Accounts` for clients and for the slot pool, in every reachable state of a
started server and for any backend.  The books are an invariant for the sake of the induction, with
the counts in the form in which a step moves them; what an outsider wants to know is said here, in
terms of what a client receives and of what the pool is asked to do.

* `Delivery` — the frames the reader has answered or queued are exactly the responses the writer has
  taken or will take, with multiplicity; the outbox closes only when nothing more can come, and
  nobody pushes to it afterwards (`delivery_of_reachable`).
* `Place`, `State.Holds` — where a slot can be, and what it means to be there.
* `Custody` — every slot of the pool is in exactly one place, no `release` ever throws, and when the
  connections are gone all slots are free (`custody_of_reachable`).

Each is followed by a state of the run of `Server.lean` in which it has something to say.
-/

namespace Imgjit

/-! ## Every frame is answered once -/

/-- The sequence numbers of the jobs of connection `c` in a list. -/
def seqNums (c : ℕ) (jobs : List InFlight) : List UInt32 :=
  (jobs.filter (InFlight.of c)).map InFlight.seqNum

/-- What connection `c` can rely on. -/
structure Delivery (s : State) (c : ℕ) : Prop where
  /-- Answered or queued by the reader; taken by the writer, in the outbox, in the queue, in the
  worker's hands or in flight. -/
  conserved : (s.connections c).answered.Perm
    ((s.connections c).popped.map Response.seqNum
      ++ (s.connections c).outbox.items.map Response.seqNum
      ++ seqNums c (s.queue.items.map QueuedFrame.entry)
      ++ seqNums c (s.worker.held Stage.unanswered)
      ++ seqNums c (s.inFlight.map Prod.snd))
  /-- The reader never pushes on a closed outbox. -/
  readerPush : ∀ header status unread, (s.connections c).reader = .respond header status unread →
    (s.connections c).outbox.closed = false
  /-- Nor does the worker. -/
  workerPush : ∀ job response next, s.worker = .handBack .push job response next →
    job.connection = c → (s.connections c).outbox.closed = false
  /-- `outstanding` is positive whenever it is about to be decremented. -/
  readerRetires : ∀ slot, (s.connections c).reader = .pushFailed slot →
    0 < (s.connections c).outstanding
  workerRetires : ∀ job response next, s.worker = .handBack .retired job response next →
    job.connection = c → 0 < (s.connections c).outstanding
  /-- The outbox closes only when nothing of the connection is left anywhere. -/
  closed : (s.connections c).outbox.closed = true → (s.connections c).readerDone = true
    ∧ (∀ frame ∈ s.queue.items, frame.connection ≠ c)
    ∧ (∀ job ∈ s.worker.held fun _ => true, job.connection ≠ c)
    ∧ ∀ entry ∈ s.inFlight, entry.2.connection ≠ c
  /-- When the writer leaves, it has taken one response per frame. -/
  complete : (s.connections c).writerDone = true →
    (s.connections c).answered.Perm ((s.connections c).popped.map Response.seqNum)

lemma count_seqNums (c : ℕ) (jobs : List InFlight) (q : UInt32) :
    (seqNums c jobs).count q = jobs.countP (InFlight.numbered c q) := by
  rw [seqNums, List.count, List.countP_map, List.countP_filter]
  refine List.countP_congr fun job _ => ?_
  simp [InFlight.of, InFlight.numbered, and_comm]

/-- Whatever a job still needs, it has yet to be retired. -/
lemma mem_unretired {s : State} {stages : Stage → Bool} {job : InFlight}
    (h : job ∈ s.collect stages) : job ∈ s.jobs.unretired := by
  simp only [State.jobs, State.collect, List.mem_append] at h ⊢
  rcases h with h | h | h
  · exact .inl h
  · refine .inr (.inl ?_)
    cases hworker : s.worker with
    | handBack stage job' response next =>
        simp only [hworker, WorkerPc.held] at h ⊢
        split_ifs at h with hstage
        · simpa using h
        · cases h
    | submit frame => simpa [hworker, WorkerPc.held] using h
    | _ => simp [hworker, WorkerPc.held] at h
  · exact .inr (.inr h)

section Delivery

variable {config : ServerConfig} {contract : Contract} {s : State}

/-- A closed outbox means no job of the connection is left to be retired. -/
lemma Accounts.no_jobs (h : Accounts s) {c : ℕ} (hclosed : (s.connections c).outbox.closed = true) :
    ∀ job ∈ s.jobs.unretired, job.connection ≠ c := by
  rintro job hjob rfl
  have hopen := ((h.ledger job.connection).open_of_job hjob).2
  rw [hclosed] at hopen
  cases hopen

/-- What the books say of the frames of one connection. -/
theorem Accounts.delivery (haccounts : Accounts s) (c : ℕ) : Delivery s c := by
  have hledger := haccounts.ledger c
  have hconserved : (s.connections c).answered.Perm
      ((s.connections c).popped.map Response.seqNum
        ++ (s.connections c).outbox.items.map Response.seqNum
        ++ seqNums c (s.queue.items.map QueuedFrame.entry)
        ++ seqNums c (s.worker.held Stage.unanswered)
        ++ seqNums c (s.inFlight.map Prod.snd)) := by
    rw [List.perm_iff_count]
    intro q
    have := hledger.answered q
    simp only [State.jobs, State.collect, List.countP_append] at this
    simp only [List.count_append, count_seqNums]
    omega
  refine ⟨hconserved, fun header status unread place => ?_, ?_, fun slot place => ?_, ?_,
    fun hclosed => ?_, fun hdone => ?_⟩
  · exact hledger.open_of_reading (by simp [place])
  · rintro job response next place rfl
    have hjob : job ∈ s.jobs.unretired := by
      simp [State.jobs, State.collect, place, WorkerPc.held]
    exact (hledger.open_of_job hjob).2
  · have := hledger.outstanding
    simp only [place, ReaderPc.submitted] at this
    omega
  · rintro job response next place rfl
    have hjob : job ∈ s.jobs.unretired := by
      simp [State.jobs, State.collect, place, WorkerPc.held]
    exact (hledger.open_of_job hjob).1
  · have hnone := haccounts.no_jobs hclosed
    simp only [State.jobs, State.collect, List.mem_append, List.mem_map] at hnone
    exact ⟨(hledger.closed.mp hclosed).1, fun frame hframe => hnone _ (.inl ⟨frame, hframe, rfl⟩),
      fun job hjob => hnone _ (.inr (.inl hjob)),
      fun entry hentry => hnone _ (.inr (.inr ⟨entry, hentry, rfl⟩))⟩
  · -- A closed, drained outbox leaves the responses taken as the only summand.
    obtain ⟨hclosed, hitems⟩ := hledger.writerDone hdone
    have hnone := haccounts.no_jobs hclosed
    rw [List.perm_iff_count]
    intro q
    have hzero : s.jobs.unanswered.countP (InFlight.numbered c q) = 0 := by
      rw [List.countP_eq_zero]
      intro job hjob hnumbered
      refine hnone job (mem_unretired hjob) ?_
      simp only [InFlight.numbered, Bool.and_eq_true, beq_iff_eq] at hnumbered
      exact hnumbered.1
    have := hledger.answered q
    rw [hzero, hitems] at this
    simpa using this

/-- **No frame is lost and none is answered twice.** -/
theorem delivery_of_reachable (h : (config.system contract).Reachable s) (c : ℕ) :
    Delivery s c :=
  (accounts_of_reachable h).delivery c

/-- At the end of the run the one frame has its one response. -/
theorem delivery_of_reachable_served :
    (OneRequest.served.connections 1).answered = [7] ∧ Delivery OneRequest.served 1 := by
  have hserved : (OneRequest.config.system fun _ _ _ => True).Reachable OneRequest.served :=
    OneRequest.served_reachable trivial
  exact ⟨rfl, delivery_of_reachable hserved 1⟩

end Delivery

/-! ## Every slot is in one place -/

/-- Where a slot can be: at a position of the free list, with a reader between its claim and its
push, at a position of the queue, in the worker's hands, or at a position of the in-flight table. -/
inductive Place where
  | free (position : ℕ)
  | reader (connection : ℕ)
  | queued (position : ℕ)
  | worker
  | inFlight (position : ℕ)
  deriving DecidableEq

/-- Slot `i` is at `place`. -/
def State.Holds (s : State) (i : ℕ) : Place → Prop
  | .free position => s.pool.freeList[position]? = some i
  | .reader c => (s.connections c).reader.heldSlot = some i
  | .queued position => ∃ frame, s.queue.items[position]? = some frame ∧ frame.slot = i
  | .worker => ∃ job ∈ s.worker.held Stage.holdsSlot, job.slot = i
  | .inFlight position => ∃ entry, s.inFlight[position]? = some entry ∧ entry.2.slot = i

/-- What the slot pool can rely on. -/
structure Custody (s : State) : Prop where
  /-- Every slot is in exactly one place. -/
  once : ∀ i < s.pool.count, ∃! place, s.Holds i place
  /-- Nothing else is ever handed around. -/
  inRange : ∀ i place, s.Holds i place → i < s.pool.count
  /-- Two readers never receive into the same slot. -/
  readers : ∀ c c' i, (s.connections c).reader.heldSlot = some i →
    (s.connections c').reader.heldSlot = some i → c = c'
  /-- No reader writes a slot that a queued or in-flight frame still names. -/
  exclusive : ∀ c i, (s.connections c).reader.heldSlot = some i →
    (∀ frame ∈ s.queue.items, frame.slot ≠ i) ∧ (∀ job ∈ s.worker.held Stage.holdsSlot, job.slot ≠ i)
      ∧ ∀ entry ∈ s.inFlight, entry.2.slot ≠ i
  /-- No release throws, by a reader or by the worker. -/
  readerRelease : ∀ c slot, (s.connections c).reader = .giveBack slot →
    ∃ pool, s.pool.release slot = .ok pool
  workerRelease : ∀ job response next, s.worker = .handBack .release job response next →
    ∃ pool, s.pool.release job.slot = .ok pool
  /-- No exception leaves a thread. -/
  alive : s.terminated = none
  /-- Without connections, all slots are free. -/
  drained : (∀ c, s.Accepted c → (s.connections c).finished = true) →
    s.pool.freeList.Perm (List.range s.pool.count)

/-- A list with one element satisfying `p` has it at one position. -/
lemma exists_position {α : Type} {p : α → Bool} : ∀ {l : List α}, l.countP p = 1 →
    ∃ (n : ℕ) (a : α), l[n]? = some a ∧ p a = true
      ∧ ∀ (m : ℕ) (b : α), l[m]? = some b → p b = true → m = n
  | [], h => by simp at h
  | x :: l, h => by
      rw [List.countP_cons] at h
      by_cases hx : p x = true
      · simp only [hx, if_true] at h
        have hnone : l.countP p = 0 := by omega
        rw [List.countP_eq_zero] at hnone
        refine ⟨0, x, rfl, hx, fun m b hm hb => ?_⟩
        cases m with
        | zero => rfl
        | succ m => exact absurd hb (hnone b (List.mem_of_getElem? hm))
      · simp only [hx, Bool.false_eq_true, if_false, Nat.add_zero] at h
        obtain ⟨n, a, hn, ha, hunique⟩ := exists_position h
        refine ⟨n + 1, a, hn, ha, fun m b hm hb => ?_⟩
        cases m with
        | zero =>
            cases hm
            exact absurd hb hx
        | succ m => rw [hunique m b hm hb]

section Custody

variable {config : ServerConfig} {contract : Contract} {s : State}

/-- Whoever holds a slot makes its connection the owner. -/
lemma Accounts.owner_of_reader (h : Accounts s) {c i : ℕ}
    (hheld : (s.connections c).reader.heldSlot = some i) :
    s.pool.ownerOf i = some c ∧ s.jobs.holding.countP (InFlight.at c i) = 0 := by
  have hslots := (h.ledger c).slots i
  simp only [hheld, if_true] at hslots
  split_ifs at hslots with howner
  · exact ⟨howner, by omega⟩
  · omega

lemma Accounts.owner_of_holding (h : Accounts s) {job : InFlight}
    (hjob : job ∈ s.jobs.holding) : s.pool.ownerOf job.slot = some job.connection :=
  (h.ledger job.connection).owner_of_job hjob

/-- Every place but the free list belongs to the owner. -/
lemma Accounts.owner_of_holds (h : Accounts s) {i : ℕ} {place : Place} (hholds : s.Holds i place) :
    (∃ position, place = .free position ∧ s.pool.ownerOf i = none)
      ∨ (∃ c, place = .reader c ∧ s.pool.ownerOf i = some c)
      ∨ ∃ job ∈ s.jobs.holding, job.slot = i ∧ s.pool.ownerOf i = some job.connection := by
  cases place with
  | free position =>
      exact .inl ⟨position, rfl, ((h.pool.mem_freeList i).mp (List.mem_of_getElem? hholds)).2⟩
  | reader c => exact .inr (.inl ⟨c, rfl, (h.owner_of_reader hholds).1⟩)
  | queued position =>
      obtain ⟨frame, hframe, rfl⟩ := hholds
      have hjob : frame.entry ∈ s.jobs.holding :=
        List.mem_append_left _ (List.mem_map_of_mem (List.mem_of_getElem? hframe))
      exact .inr (.inr ⟨frame.entry, hjob, rfl, h.owner_of_holding hjob⟩)
  | worker =>
      obtain ⟨job, hheld, rfl⟩ := hholds
      have hjob : job ∈ s.jobs.holding :=
        List.mem_append_right _ (List.mem_append_left _ hheld)
      exact .inr (.inr ⟨job, hjob, rfl, h.owner_of_holding hjob⟩)
  | inFlight position =>
      obtain ⟨entry, hentry, rfl⟩ := hholds
      have hjob : entry.2 ∈ s.jobs.holding :=
        List.mem_append_right _ (List.mem_append_right _
          (List.mem_map_of_mem (List.mem_of_getElem? hentry)))
      exact .inr (.inr ⟨entry.2, hjob, rfl, h.owner_of_holding hjob⟩)

/-- A job that names slot `i` is counted under the slot's owner. -/
lemma Accounts.at_of_slot (h : Accounts s) {c i : ℕ} (howner : s.pool.ownerOf i = some c)
    {job : InFlight} (hjob : job ∈ s.jobs.holding) (hslot : job.slot = i) :
    InFlight.at c i job = true := by
  have := h.owner_of_holding hjob
  rw [hslot, howner] at this
  simp [InFlight.at, hslot, Option.some.inj this]

/-- A slot that a reader holds is nowhere else. -/
lemma Accounts.once_of_reader (h : Accounts s) {c i : ℕ}
    (hheld : (s.connections c).reader.heldSlot = some i) : ∃! place, s.Holds i place := by
  obtain ⟨howner, hzero⟩ := h.owner_of_reader hheld
  refine ⟨.reader c, hheld, fun place hholds => ?_⟩
  rcases h.owner_of_holds hholds with ⟨n, -, hnone⟩ | ⟨c', rfl, howner'⟩ | ⟨job, hjob, hslot, -⟩
  · rw [howner] at hnone
    cases hnone
  · rw [howner] at howner'
    cases howner'
    rfl
  · exact absurd (h.at_of_slot howner hjob hslot) (List.countP_eq_zero.mp hzero job hjob)

section Owned

variable {c i n : ℕ} (h : Accounts s) (howner : s.pool.ownerOf i = some c)

include h howner

/-- A queued job that names an owned slot is its owner's. -/
lemma Accounts.at_queued {frame : QueuedFrame} (hframe : s.queue.items[n]? = some frame)
    (hslot : frame.slot = i) : InFlight.at c i frame.entry = true :=
  h.at_of_slot howner (List.mem_append_left _
    (List.mem_map_of_mem (f := QueuedFrame.entry) (List.mem_of_getElem? hframe))) hslot

lemma Accounts.at_inFlight {entry : JobHandle × InFlight} (hentry : s.inFlight[n]? = some entry)
    (hslot : entry.2.slot = i) : InFlight.at c i entry.2 = true :=
  h.at_of_slot howner (List.mem_append_right _ (List.mem_append_right _
    (List.mem_map_of_mem (List.mem_of_getElem? hentry)))) hslot

lemma Accounts.not_free : ¬s.Holds i (.free n) := by
  intro hholds
  have hnone := ((h.pool.mem_freeList i).mp (List.mem_of_getElem? hholds)).2
  rw [howner] at hnone
  cases hnone

lemma Accounts.not_reader (hcount : s.jobs.holding.countP (InFlight.at c i) = 1) {c' : ℕ} :
    ¬s.Holds i (.reader c') := by
  intro hholds
  obtain ⟨howner', hzero⟩ := h.owner_of_reader hholds
  rw [howner] at howner'
  cases howner'
  omega

/-- A list that holds the slot has a job of its owner on it. -/
lemma Accounts.queued_pos (hholds : s.Holds i (.queued n)) :
    0 < s.queue.items.countP (InFlight.at c i ∘ QueuedFrame.entry) := by
  obtain ⟨frame, hframe, hslot⟩ := hholds
  exact List.countP_pos_iff.mpr
    ⟨frame, List.mem_of_getElem? hframe, h.at_queued howner hframe hslot⟩

lemma Accounts.worker_pos (hholds : s.Holds i .worker) :
    0 < (s.worker.held Stage.holdsSlot).countP (InFlight.at c i) := by
  obtain ⟨job, hjob, hslot⟩ := hholds
  exact List.countP_pos_iff.mpr ⟨job, hjob,
    h.at_of_slot howner (List.mem_append_right _ (List.mem_append_left _ hjob)) hslot⟩

lemma Accounts.inFlight_pos (hholds : s.Holds i (.inFlight n)) :
    0 < s.inFlight.countP (InFlight.at c i ∘ Prod.snd) := by
  obtain ⟨entry, hentry, hslot⟩ := hholds
  exact List.countP_pos_iff.mpr
    ⟨entry, List.mem_of_getElem? hentry, h.at_inFlight howner hentry hslot⟩

end Owned

/-- A slot that a job names and no reader holds is with that job alone. -/
lemma Accounts.once_of_job (h : Accounts s) {c i : ℕ} (howner : s.pool.ownerOf i = some c)
    (hcount : s.jobs.holding.countP (InFlight.at c i) = 1) : ∃! place, s.Holds i place := by
  have hslot : ∀ job, InFlight.at c i job = true → job.slot = i := by
    intro job hat
    simp only [InFlight.at, Bool.and_eq_true, beq_iff_eq] at hat
    exact hat.2
  have hsum := hcount
  simp only [State.jobs, State.collect, List.countP_append, List.countP_map] at hsum
  -- One of the three lists has the one job that names the slot, the other two have none.
  rcases Nat.eq_zero_or_pos
      (s.queue.items.countP (InFlight.at c i ∘ QueuedFrame.entry)) with hq | hq
  · rcases Nat.eq_zero_or_pos
        ((s.worker.held Stage.holdsSlot).countP (InFlight.at c i)) with hw | hw
    · obtain ⟨n, entry, hn, hat, hunique⟩ := exists_position
        (show s.inFlight.countP (InFlight.at c i ∘ Prod.snd) = 1 by omega)
      refine ⟨.inFlight n, ⟨entry, hn, hslot _ hat⟩, fun place hholds => ?_⟩
      cases place with
      | free m => exact absurd hholds (h.not_free howner)
      | reader c' => exact absurd hholds (h.not_reader howner hcount)
      | queued m => exact absurd (h.queued_pos howner hholds) hq.not_gt
      | worker => exact absurd (h.worker_pos howner hholds) hw.not_gt
      | inFlight m =>
          obtain ⟨entry', hm, heq⟩ := hholds
          rw [hunique m entry' hm (h.at_inFlight howner hm heq)]
    · have hf : s.inFlight.countP (InFlight.at c i ∘ Prod.snd) = 0 := by omega
      obtain ⟨job, hjob, hat⟩ := List.countP_pos_iff.mp hw
      refine ⟨.worker, ⟨job, hjob, hslot _ hat⟩, fun place hholds => ?_⟩
      cases place with
      | free m => exact absurd hholds (h.not_free howner)
      | reader c' => exact absurd hholds (h.not_reader howner hcount)
      | queued m => exact absurd (h.queued_pos howner hholds) hq.not_gt
      | worker => rfl
      | inFlight m => exact absurd (h.inFlight_pos howner hholds) hf.not_gt
  · obtain ⟨n, frame, hn, hat, hunique⟩ := exists_position
      (show s.queue.items.countP (InFlight.at c i ∘ QueuedFrame.entry) = 1 by omega)
    have hw : (s.worker.held Stage.holdsSlot).countP (InFlight.at c i) = 0 := by omega
    have hf : s.inFlight.countP (InFlight.at c i ∘ Prod.snd) = 0 := by omega
    refine ⟨.queued n, ⟨frame, hn, hslot _ hat⟩, fun place hholds => ?_⟩
    cases place with
    | free m => exact absurd hholds (h.not_free howner)
    | reader c' => exact absurd hholds (h.not_reader howner hcount)
    | queued m =>
        obtain ⟨frame', hm, heq⟩ := hholds
        rw [hunique m frame' hm (h.at_queued howner hm heq)]
    | worker => exact absurd (h.worker_pos howner hholds) hw.not_gt
    | inFlight m => exact absurd (h.inFlight_pos howner hholds) hf.not_gt

/-- A free slot is in the free list once and nowhere else. -/
lemma Accounts.once_of_free (h : Accounts s) {i : ℕ} (hi : i < s.pool.count)
    (howner : s.pool.ownerOf i = none) : ∃! place, s.Holds i place := by
  have hmem : i ∈ s.pool.freeList := (h.pool.mem_freeList i).mpr ⟨hi, howner⟩
  obtain ⟨n, hn⟩ := List.mem_iff_getElem?.mp hmem
  refine ⟨.free n, hn, fun place hholds => ?_⟩
  rcases h.owner_of_holds hholds with ⟨m, rfl, -⟩ | ⟨c', -, howner'⟩ | ⟨job, -, -, howner'⟩
  · have hlt : m < s.pool.freeList.length := by
      by_contra hge
      rw [State.Holds, List.getElem?_eq_none (by omega)] at hholds
      cases hholds
    rw [(List.getElem?_inj hlt h.pool.nodup).mp (hholds.trans hn.symm)]
  · rw [howner] at howner'
    cases howner'
  · rw [howner] at howner'
    cases howner'

/-- What the books say of the slots. -/
theorem Accounts.custody (haccounts : Accounts s) : Custody s := by
  refine ⟨fun i hi => ?_, fun i place hholds => ?_, fun c c' i hc hc' => ?_, fun c i hheld => ?_,
    fun c slot place => ?_, fun job response next place => ?_, haccounts.terminated, fun hall => ?_⟩
  · cases howner : s.pool.ownerOf i with
    | none => exact haccounts.once_of_free hi howner
    | some c =>
        have hslots := (haccounts.ledger c).slots i
        have howner' : s.jobs.ownerOf i = some c := howner
        simp only [howner', if_true] at hslots
        split_ifs at hslots with hheld
        · exact haccounts.once_of_reader hheld
        · exact haccounts.once_of_job howner (by omega)
  · rcases haccounts.owner_of_holds hholds with ⟨n, rfl, -⟩ | ⟨c, -, howner⟩ | ⟨job, -, -, howner⟩
    · exact ((haccounts.pool.mem_freeList i).mp (List.mem_of_getElem? hholds)).1
    · exact haccounts.pool.owned_lt i c howner
    · exact haccounts.pool.owned_lt i _ howner
  · have howner := (haccounts.owner_of_reader hc).1
    have howner' := (haccounts.owner_of_reader hc').1
    rw [howner] at howner'
    exact Option.some.inj howner'
  · obtain ⟨howner, hzero⟩ := haccounts.owner_of_reader hheld
    have hnone : ∀ job ∈ s.jobs.holding, job.slot ≠ i := fun job hjob hslot =>
      List.countP_eq_zero.mp hzero job hjob (haccounts.at_of_slot howner hjob hslot)
    simp only [State.jobs, State.collect, List.mem_append, List.mem_map] at hnone
    exact ⟨fun frame hframe => hnone _ (.inl ⟨frame, hframe, rfl⟩),
      fun job hjob => hnone job (.inr (.inl hjob)),
      fun entry hentry => hnone _ (.inr (.inr ⟨entry, hentry, rfl⟩))⟩
  · have howner := ((haccounts.ledger c).giveBack place).1
    obtain ⟨pool, hpool, -⟩ := SlotPool.release_spec haccounts.pool howner
    exact ⟨pool, hpool⟩
  · have hjob : job ∈ s.jobs.holding := by
      simp [State.jobs, State.collect, place, WorkerPc.held, Stage.holdsSlot]
    obtain ⟨pool, hpool, -⟩ :=
      SlotPool.release_spec haccounts.pool (haccounts.owner_of_holding hjob)
    exact ⟨pool, hpool⟩
  · -- A connection with nothing outstanding and no reader at work owns no slot.
    have hidle : ∀ c, (s.connections c).outstanding = 0
        ∧ (s.connections c).reader.heldSlot = none := by
      intro c
      by_cases haccepted : s.Accepted c
      · obtain ⟨hreader, hwriter⟩ := (haccounts.ledger c).finished (hall c haccepted)
        have hclosed := ((haccounts.ledger c).writerDone hwriter).1
        refine ⟨((haccounts.ledger c).closed.mp hclosed).2, ?_⟩
        rw [(haccounts.ledger c).readerDone hreader]
        rfl
      · rw [haccounts.unaccepted c haccepted]
        exact ⟨rfl, rfl⟩
    have hfree : ∀ i, s.pool.ownerOf i = none := by
      intro i
      by_contra howned
      obtain ⟨c, howner⟩ := Option.ne_none_iff_exists'.mp howned
      obtain ⟨hzero, hheld⟩ := hidle c
      have hslots := (haccounts.ledger c).slots i
      have howner' : s.jobs.ownerOf i = some c := howner
      simp only [hheld, howner', reduceCtorEq, if_false, if_true, Nat.zero_add] at hslots
      obtain ⟨job, hjob, hat⟩ := List.countP_pos_iff.mp
        (show 0 < s.jobs.holding.countP (InFlight.at c i) by omega)
      simp only [InFlight.at, Bool.and_eq_true, beq_iff_eq] at hat
      have hpos := ((hat.1 ▸ haccounts.ledger c :
        Ledger s.jobs job.connection (s.connections c))).open_of_job (mem_unretired hjob)
      omega
    refine (List.perm_ext_iff_of_nodup haccounts.pool.nodup List.nodup_range).mpr fun i => ?_
    rw [haccounts.pool.mem_freeList, List.mem_range, hfree i]
    simp

/-- **Every slot of the pool is in exactly one place**, and what follows from that. -/
theorem custody_of_reachable (h : (config.system contract).Reachable s) : Custody s :=
  (accounts_of_reachable h).custody

/-- While the frame is in the queue, its slot is there with it. -/
theorem custody_of_reachable_queued :
    OneRequest.queued.Holds 0 (.queued 0) ∧ Custody OneRequest.queued := by
  have hqueued : (OneRequest.config.system fun _ _ _ => True).Reachable OneRequest.queued :=
    OneRequest.queued_reachable
  exact ⟨⟨OneRequest.frame, rfl, rfl⟩, custody_of_reachable hqueued⟩

end Custody

end Imgjit
