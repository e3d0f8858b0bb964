import Imgjit.Net.Server
import Mathlib.Data.List.Count
import Mathlib.Data.List.Perm.Basic

/-!
# The server's books

Every frame the server has accepted is in one place at a time: the reader's hands, the queue, the
worker's hands, the in-flight table.  Three things have to be done for it, by different threads and
not at the same time: its slot is released, its answer is pushed, and its retirement is counted.
Each must be done once.  This file keeps the books and shows that every step balances them.

**The books.**  `Jobs` are the jobs of a state, by what they still need: a slot to be released, an
answer to be pushed, a retirement to be counted.  `Ledger` is what one connection's record must
agree with.  Counting is per connection and slot, so no sum over all connections is ever needed.

**The invariant.**  `Accounts`: the pool is consistent, every connection's ledger balances, and no
exception has left a thread.

**Steps.**  A step moves a job from one place to the next, or settles one of its needs.  Most of the
books are left alone by most steps; `Jobs.SameFor` says so for one connection, and there is a lemma
for each kind of move.

**Runs.**  `accounts_of_reachable`: the invariant holds in every reachable state, whatever the
backend's contract.
-/

namespace Imgjit

/-! ## Who holds what -/

/-- The slot a reader holds between its claim and its push, or until it has given it back. -/
def ReaderPc.heldSlot : ReaderPc → Option ℕ
  | reading (.payload _ _ slot) _ _ => some slot
  | submit _ _ slot => some slot
  | push _ _ slot => some slot
  | pushFailed slot => some slot
  | giveBack slot => some slot
  | _ => none

/-- Jobs the reader has counted as submitted and that are not in the queue. -/
def ReaderPc.submitted : ReaderPc → ℕ
  | push _ _ _ => 1
  | pushFailed _ => 1
  | _ => 0

/-- The job the worker holds, if it still has to go through the given stages. -/
def WorkerPc.held (stages : Stage → Bool) : WorkerPc → List InFlight
  | submit frame => [frame.entry]
  | handBack stage job _ _ => if stages stage then [job] else []
  | _ => []

/-- Before the slot has been released. -/
def Stage.holdsSlot : Stage → Bool
  | release => true
  | _ => false

/-- Before the response has been pushed. -/
def Stage.unanswered : Stage → Bool
  | retired => false
  | _ => true

/-- The accepted frames of a state, by what they still need. -/
structure Jobs where
  holding : List InFlight
  unanswered : List InFlight
  unretired : List InFlight
  ownerOf : ℕ → Option ℕ

/-- Queued frames, the worker's own job, and the in-flight table. -/
def State.collect (s : State) (stages : Stage → Bool) : List InFlight :=
  s.queue.items.map QueuedFrame.entry ++ (s.worker.held stages ++ s.inFlight.map Prod.snd)

/-- The jobs of a state, by what they still need. -/
def State.jobs (s : State) : Jobs where
  holding := s.collect Stage.holdsSlot
  unanswered := s.collect Stage.unanswered
  unretired := s.collect fun _ => true
  ownerOf := s.pool.ownerOf

/-! ## One connection's ledger -/

/-- The job belongs to connection `c` and names slot `i`. -/
def InFlight.at (c i : ℕ) (job : InFlight) : Bool := job.connection == c && job.slot == i

/-- Whether a job belongs to a connection. -/
def InFlight.of (c : ℕ) (job : InFlight) : Bool := job.connection == c

/-- The job belongs to connection `c` and carries sequence number `q`. -/
def InFlight.numbered (c : ℕ) (q : UInt32) (job : InFlight) : Bool :=
  job.connection == c && job.seqNum == q

/-- What connection `c`'s record agrees with. -/
structure Ledger (jobs : Jobs) (c : ℕ) (k : Connection) : Prop where
  /-- A slot is owned by `c` exactly when one holder of it can be found. -/
  slots : ∀ i, (if k.reader.heldSlot = some i then 1 else 0) + jobs.holding.countP (InFlight.at c i)
    = if jobs.ownerOf i = some c then 1 else 0
  outstanding : k.outstanding = k.reader.submitted + jobs.unretired.countP (InFlight.of c)
  answered : ∀ q, k.answered.count q = (k.popped.map Response.seqNum).count q
    + (k.outbox.items.map Response.seqNum).count q
    + jobs.unanswered.countP (InFlight.numbered c q)
  closed : k.outbox.closed = true ↔ k.readerDone = true ∧ k.outstanding = 0
  readerDone : k.readerDone = true → k.reader = .returned
  writerDone : k.writerDone = true → k.outbox.closed = true ∧ k.outbox.items = []
  finished : k.finished = true → k.readerDone = true ∧ k.writerDone = true

/-- The response the worker is handing back answers the job it belongs to. -/
def WorkerPc.Routed : WorkerPc → Prop
  | handBack _ job response _ => response.seqNum = job.seqNum
  | _ => True

/-- **The invariant of the server's bookkeeping.** -/
structure Accounts (s : State) : Prop where
  pool : s.pool.Consistent
  ledger : ∀ c, Ledger s.jobs c (s.connections c)
  unaccepted : ∀ c, ¬s.Accepted c → s.connections c = {}
  handles : ∀ entry ∈ s.inFlight, entry.1 ∈ s.issued.map Prod.fst
  routed : s.worker.Routed
  terminated : s.terminated = none

/-! ## What a connection sees of the jobs -/

/-- Nothing that concerns connection `c` has changed. -/
structure Jobs.SameFor (c : ℕ) (jobs jobs' : Jobs) : Prop where
  holding : ∀ i, jobs'.holding.countP (InFlight.at c i) = jobs.holding.countP (InFlight.at c i)
  unanswered : ∀ q, jobs'.unanswered.countP (InFlight.numbered c q)
    = jobs.unanswered.countP (InFlight.numbered c q)
  unretired : jobs'.unretired.countP (InFlight.of c) = jobs.unretired.countP (InFlight.of c)
  ownerOf : ∀ i, jobs'.ownerOf i = some c ↔ jobs.ownerOf i = some c

lemma Jobs.SameFor.refl (c : ℕ) (jobs : Jobs) : jobs.SameFor c jobs :=
  ⟨fun _ => rfl, fun _ => rfl, rfl, fun _ => Iff.rfl⟩

lemma Ledger.same {jobs jobs' : Jobs} {c : ℕ} {k : Connection} (h : Ledger jobs c k)
    (hsame : jobs.SameFor c jobs') : Ledger jobs' c k where
  slots i := by
    rw [hsame.holding, h.slots]
    simp only [hsame.ownerOf]
  outstanding := by rw [hsame.unretired, h.outstanding]
  answered q := by rw [hsame.unanswered, h.answered]
  closed := h.closed
  readerDone := h.readerDone
  writerDone := h.writerDone
  finished := h.finished

/-- Jobs that have only changed place look the same to every connection. -/
lemma jobs_sameFor {s s' : State}
    (h : ∀ stages : Stage → Bool, stages .release = true → ∀ p,
      (s'.collect stages).countP p = (s.collect stages).countP p)
    (hpool : s'.pool.ownerOf = s.pool.ownerOf) (c : ℕ) : s.jobs.SameFor c s'.jobs :=
  ⟨fun _ => h _ rfl _, fun _ => h _ rfl _, h _ rfl _, fun i => by simp only [State.jobs, hpool]⟩

/-- A step that changes one connection's record. -/
lemma Accounts.update {s s' : State} (h : Accounts s) {c : ℕ} {k : Connection}
    (accepted : s.Accepted c) (hconnections : s'.connections = Function.update s.connections c k)
    (hnext : s'.nextConnectionId = s.nextConnectionId) (hpool : s'.pool.Consistent)
    (hledger : Ledger s'.jobs c k) (hothers : ∀ c' ≠ c, s.jobs.SameFor c' s'.jobs)
    (hinFlight : s'.inFlight = s.inFlight) (hissued : s'.issued = s.issued)
    (hrouted : s'.worker.Routed) (hterminated : s'.terminated = s.terminated) :
    Accounts s' where
  pool := hpool
  ledger := by
    rw [hconnections, Function.forall_update_iff _ (fun c' k' => Ledger s'.jobs c' k')]
    exact ⟨hledger, fun c' hne => (h.ledger c').same (hothers c' hne)⟩
  unaccepted := by
    intro c' hc'
    rw [State.Accepted, hnext] at hc'
    rw [hconnections, Function.update_of_ne]
    · exact h.unaccepted c' hc'
    · rintro rfl
      exact hc' accepted
  handles := by
    rw [hinFlight, hissued]
    exact h.handles
  routed := hrouted
  terminated := hterminated.trans h.terminated

/-- A step that only moves jobs from one place to another. -/
lemma Accounts.move {s s' : State} (h : Accounts s) (hconnections : s'.connections = s.connections)
    (hnext : s.nextConnectionId ≤ s'.nextConnectionId) (hpool : s'.pool.Consistent)
    (hjobs : ∀ c, s.jobs.SameFor c s'.jobs)
    (hhandles : ∀ entry ∈ s'.inFlight, entry.1 ∈ s'.issued.map Prod.fst)
    (hrouted : s'.worker.Routed) (hterminated : s'.terminated = s.terminated) :
    Accounts s' where
  pool := hpool
  ledger c := by
    rw [hconnections]
    exact (h.ledger c).same (hjobs c)
  unaccepted c hc := by
    rw [hconnections]
    refine h.unaccepted c fun haccepted => hc ⟨haccepted.1, ?_⟩
    exact lt_of_lt_of_le haccepted.2 hnext
  handles := hhandles
  routed := hrouted
  terminated := hterminated.trans h.terminated

/-! ## The in-flight table -/

lemma emplaceInFlight_fresh {table : List (JobHandle × InFlight)} {handle : JobHandle}
    {job : InFlight} (h : ∀ entry ∈ table, entry.1 ≠ handle) :
    emplaceInFlight table handle job = (handle, job) :: table := by
  have hany : table.any (·.1 == handle) = false := by
    rw [List.any_eq_false]
    intro entry hentry
    simpa using h entry hentry
  simp only [emplaceInFlight, hany, Bool.false_eq_true, if_false]

/-- Looking an entry up and erasing it takes exactly that entry out of the table. -/
lemma perm_eraseInFlight {table : List (JobHandle × InFlight)} {handle : JobHandle}
    {entry : JobHandle × InFlight} (h : findInFlight table handle = some entry) :
    table.Perm (entry :: eraseInFlight table handle) := by
  induction table with
  | nil => cases h
  | cons head tail ih =>
      simp only [findInFlight, eraseInFlight, List.find?_cons, List.eraseP_cons] at h ih ⊢
      cases hhead : head.1 == handle with
      | true =>
          simp only [hhead] at h
          cases h
          exact List.Perm.refl _
      | false =>
          simp only [hhead] at h
          exact (List.Perm.cons head (ih h)).trans (List.Perm.swap entry head _)

/-! ## Steps of a reader -/

section Reader

variable {config : ServerConfig} {s : State} {c : ℕ}

/-- A reader that moves without taking or giving anything. -/
lemma Ledger.moveReader {jobs : Jobs} {k k' : Connection} (h : Ledger jobs c k)
    (hactive : k.reader ≠ .returned) (hslot : k'.reader.heldSlot = k.reader.heldSlot)
    (hsubmitted : k'.reader.submitted = k.reader.submitted) (houtbox : k'.outbox = k.outbox)
    (houtstanding : k'.outstanding = k.outstanding) (hanswered : k'.answered = k.answered)
    (hpopped : k'.popped = k.popped) (hreaderDone : k'.readerDone = k.readerDone)
    (hwriterDone : k'.writerDone = k.writerDone) (hfinished : k'.finished = k.finished) :
    Ledger jobs c k' where
  slots i := by rw [hslot, h.slots]
  outstanding := by rw [houtstanding, hsubmitted, h.outstanding]
  answered q := by rw [hanswered, hpopped, houtbox, h.answered]
  closed := by rw [houtbox, hreaderDone, houtstanding, h.closed]
  readerDone hdone := absurd (h.readerDone (hreaderDone ▸ hdone)) hactive
  writerDone := by rw [houtbox, hwriterDone]; exact h.writerDone
  finished := by rw [hfinished, hreaderDone, hwriterDone]; exact h.finished

/-- A silent move neither takes nor gives. -/
lemma silent_spec {pc pc' : ReaderPc} (h : pc.silent config.reader = some pc') :
    pc ≠ .returned ∧ pc'.heldSlot = pc.heldSlot ∧ pc'.submitted = pc.submitted := by
  unfold ReaderPc.silent at h
  split at h
  · cases h
    exact ⟨by simp, rfl, rfl⟩
  · rename_i into buffer
    cases h
    refine ⟨by simp, ?_⟩
    cases into with
    | header =>
        simp only [ReaderPc.readDone, ReaderPc.headerRead]
        split
        · exact ⟨rfl, rfl⟩
        · split <;> exact ⟨rfl, rfl⟩
    | chain header =>
        simp only [ReaderPc.readDone, ReaderPc.chainRead]
        split <;> exact ⟨rfl, rfl⟩
    | payload header chain slot => exact ⟨rfl, rfl⟩
    | scratch left => exact ⟨rfl, rfl⟩
  · rename_i left
    cases h
    refine ⟨by simp, ?_⟩
    simp only [ReaderPc.drained]
    split_ifs <;> exact ⟨rfl, rfl⟩
  · cases h

/-- A `recv` neither takes nor gives a slot, whatever it returns. -/
lemma received_spec (into : ReadInto) (remaining : ℕ) (buffer : List UInt8) (outcome : Recv) :
    (ReaderPc.received into remaining buffer outcome).heldSlot
        = (ReaderPc.reading into remaining buffer).heldSlot
      ∧ (ReaderPc.received into remaining buffer outcome).submitted = 0 := by
  cases outcome <;> cases into <;> exact ⟨rfl, rfl⟩

/-- An outbox whose reader is not done is open. -/
lemma Ledger.open_of_reading {jobs : Jobs} {k : Connection} (h : Ledger jobs c k)
    (hactive : k.reader ≠ .returned) : k.outbox.closed = false := by
  rw [← Bool.not_eq_true, h.closed]
  exact fun hclosed => hactive (h.readerDone hclosed.1)

lemma Ledger.respond {jobs : Jobs} {k : Connection} {response : Response} {status : Status}
    {unread : ℕ} {header : RequestHeader} (h : Ledger jobs c k)
    (place : k.reader = .respond header status unread) (hseq : response.seqNum = header.seqNum) :
    Ledger jobs c { k with
      outbox := k.outbox.push response
      reader := .responded status unread
      answered := k.answered ++ [header.seqNum] } := by
  have hopen := h.open_of_reading (by simp [place])
  have hheld : (ReaderPc.responded status unread).heldSlot = none
      ∧ (ReaderPc.responded status unread).submitted = 0 := by
    simp only [ReaderPc.responded]
    split_ifs <;> exact ⟨rfl, rfl⟩
  have hplace : k.reader.heldSlot = none ∧ k.reader.submitted = 0 := by
    rw [place]
    exact ⟨rfl, rfl⟩
  rw [Outbox.push_open hopen]
  refine ⟨fun i => ?_, ?_, fun q => ?_, ?_, fun hdone => ?_, fun hdone => ?_, h.finished⟩
  · rw [hheld.1, ← hplace.1, h.slots]
  · rw [hheld.2, ← hplace.2, h.outstanding]
  · have := h.answered q
    simp only [List.count_append, List.map_append, List.map_cons, List.map_nil, hseq]
    omega
  · exact h.closed
  · have := h.readerDone hdone
    rw [place] at this
    cases this
  · have := (h.writerDone hdone).1
    rw [hopen] at this
    cases this

lemma Ledger.claim {jobs : Jobs} {k : Connection} {header : RequestHeader} {chain : OpChain}
    {slot : ℕ} (h : Ledger jobs c k) (place : k.reader = .claim header chain)
    (hfree : jobs.ownerOf slot = none) :
    Ledger { jobs with ownerOf := Function.update jobs.ownerOf slot (some c) } c
      { k with reader := .claimed header chain slot } := by
  refine ⟨fun i => ?_, ?_, h.answered, h.closed, fun hdone => ?_, h.writerDone, h.finished⟩
  · have hslots := h.slots i
    simp only [place, ReaderPc.heldSlot, reduceCtorEq, if_false, Nat.zero_add] at hslots
    simp only [ReaderPc.claimed, ReaderPc.heldSlot, hslots, Option.some.injEq]
    rcases eq_or_ne slot i with rfl | hne
    · simp [hfree]
    · simp [Function.update_of_ne hne.symm, hne]
  · have := h.outstanding
    simp only [place, ReaderPc.submitted, ReaderPc.claimed] at this ⊢
    exact this
  · have := h.readerDone hdone
    rw [place] at this
    cases this

lemma Ledger.jobSubmitted {jobs : Jobs} {k : Connection} {header : RequestHeader} {chain : OpChain}
    {slot : ℕ} (h : Ledger jobs c k) (place : k.reader = .submit header chain slot) :
    Ledger jobs c { k.jobSubmitted with reader := .push header chain slot } := by
  have hnotDone : k.readerDone = false := by
    rw [← Bool.not_eq_true]
    intro hdone
    have := h.readerDone hdone
    rw [place] at this
    cases this
  refine ⟨fun i => ?_, ?_, h.answered, ?_, ?_, h.writerDone, h.finished⟩
  · rw [← h.slots i, place]
    rfl
  · have := h.outstanding
    simp only [place, ReaderPc.submitted, Connection.jobSubmitted] at this ⊢
    omega
  · have := h.closed
    simp only [Connection.jobSubmitted, hnotDone, Bool.false_eq_true, false_and, iff_false]
      at this ⊢
    exact this
  · simp [Connection.jobSubmitted, hnotDone]

/-- A push that is taken: the job is in the queue instead of in the reader's hands. -/
lemma Ledger.push {jobs : Jobs} {k : Connection} {header : RequestHeader} {chain : OpChain}
    {slot : ℕ} {jobs' : Jobs} (h : Ledger jobs c k) (place : k.reader = .push header chain slot)
    (job : InFlight) (hconnection : job.connection = c)
    (hslot : job.slot = slot) (hseq : job.seqNum = header.seqNum)
    (hholding : ∀ p, jobs'.holding.countP p = jobs.holding.countP p + if p job then 1 else 0)
    (hunanswered : ∀ p, jobs'.unanswered.countP p
      = jobs.unanswered.countP p + if p job then 1 else 0)
    (hunretired : ∀ p, jobs'.unretired.countP p
      = jobs.unretired.countP p + if p job then 1 else 0)
    (howner : jobs'.ownerOf = jobs.ownerOf) :
    Ledger jobs' c { k with
      reader := .loopHead
      answered := k.answered ++ [header.seqNum] } := by
  refine ⟨fun i => ?_, ?_, fun q => ?_, h.closed, fun hdone => ?_, h.writerDone, h.finished⟩
  · have := h.slots i
    simp only [place, ReaderPc.heldSlot, Option.some.injEq] at this
    rw [howner, ← this, hholding]
    simp only [ReaderPc.heldSlot, InFlight.at, hconnection, hslot, reduceCtorEq, if_false,
      beq_self_eq_true, Bool.true_and, beq_iff_eq]
    omega
  · have := h.outstanding
    simp only [place, ReaderPc.submitted] at this
    rw [hunretired]
    simp only [ReaderPc.submitted, InFlight.of, hconnection, beq_self_eq_true, if_true]
    omega
  · have := h.answered q
    rw [hunanswered]
    simp only [List.count_append, InFlight.numbered, hconnection, hseq, beq_self_eq_true,
      Bool.true_and, List.count_singleton]
    simp only [beq_iff_eq] at this ⊢
    omega
  · have := h.readerDone hdone
    rw [place] at this
    cases this

lemma Ledger.pushFailed {jobs : Jobs} {k : Connection} {slot : ℕ} (h : Ledger jobs c k)
    (place : k.reader = .pushFailed slot) :
    Ledger jobs c { k.jobRetired with reader := .giveBack slot } := by
  have hnotDone : k.readerDone = false := by
    rw [← Bool.not_eq_true]
    intro hdone
    have := h.readerDone hdone
    rw [place] at this
    cases this
  have houtstanding := h.outstanding
  simp only [place, ReaderPc.submitted] at houtstanding
  have hopen := h.open_of_reading (by simp [place])
  refine ⟨fun i => ?_, ?_, fun q => ?_, ?_, ?_, ?_, ?_⟩
  · rw [← h.slots i, place]
    rfl
  · simp only [Connection.jobRetired, Connection.closeOutboxIfDone_outstanding,
      ReaderPc.submitted]
    rw [Connection.decrement_of_pos (by omega)]
    omega
  · simpa [Connection.jobRetired] using h.answered q
  · simp only [Connection.jobRetired, Connection.closeOutboxIfDone_closed,
      Connection.closeOutboxIfDone_readerDone, Connection.closeOutboxIfDone_outstanding, hopen,
      hnotDone, Bool.false_eq_true, false_and, or_self]
  · simp [Connection.jobRetired, hnotDone]
  · intro hdone
    simp only [Connection.jobRetired, Connection.closeOutboxIfDone_writerDone] at hdone
    have := (h.writerDone hdone).1
    rw [hopen] at this
    cases this
  · simpa [Connection.jobRetired] using h.finished

lemma Ledger.giveBack {jobs : Jobs} {k : Connection} {slot : ℕ} (h : Ledger jobs c k)
    (place : k.reader = .giveBack slot) :
    jobs.ownerOf slot = some c
      ∧ Ledger { jobs with ownerOf := Function.update jobs.ownerOf slot none } c
        { k with reader := .returned } := by
  have hslots := fun i => h.slots i
  simp only [place, ReaderPc.heldSlot, Option.some.injEq] at hslots
  have howner : jobs.ownerOf slot = some c := by
    have := hslots slot
    by_contra hne
    simp [hne] at this
  refine ⟨howner, fun i => ?_, ?_, h.answered, h.closed, fun _ => rfl, h.writerDone, h.finished⟩
  · have := hslots i
    rcases eq_or_ne i slot with rfl | hne
    · simp only [howner, if_true] at this
      simp only [ReaderPc.heldSlot, Function.update_self, reduceCtorEq, if_false]
      omega
    · simp only [hne.symm, if_false] at this
      simpa [ReaderPc.heldSlot, Function.update_of_ne hne] using this
  · have := h.outstanding
    simp only [place, ReaderPc.submitted] at this ⊢
    exact this

lemma Ledger.readerFinished {jobs : Jobs} {k : Connection} (h : Ledger jobs c k)
    (place : k.reader = .returned) (first : k.readerDone = false) :
    Ledger jobs c k.readerFinished := by
  have hopen : k.outbox.closed = false := by
    rw [← Bool.not_eq_true, h.closed]
    simp [first]
  refine ⟨fun i => ?_, ?_, fun q => ?_, ?_, ?_, ?_, ?_⟩
  · simpa [Connection.readerFinished] using h.slots i
  · simpa [Connection.readerFinished] using h.outstanding
  · simpa [Connection.readerFinished] using h.answered q
  · simp only [Connection.readerFinished, Connection.closeOutboxIfDone_closed, hopen,
      Connection.closeOutboxIfDone_readerDone, Connection.closeOutboxIfDone_outstanding,
      Bool.false_eq_true, false_or]
  · intro _
    simpa [Connection.readerFinished] using place
  · intro hdone
    simp only [Connection.readerFinished, Connection.closeOutboxIfDone_writerDone] at hdone
    have := (h.writerDone hdone).1
    rw [hopen] at this
    cases this
  · intro hfinished
    simp only [Connection.readerFinished, Connection.closeOutboxIfDone_finished] at hfinished
    have := (h.finished hfinished).1
    rw [first] at this
    cases this

end Reader

/-! ## Steps of the writer and the worker -/

section Worker

variable {jobs jobs' : Jobs} {c : ℕ} {k : Connection}

lemma Ledger.writerPop {response : Response} {outbox : Outbox} (h : Ledger jobs c k)
    (running : k.writerDone = false) (popped : k.outbox.pop = some (some response, outbox)) :
    Ledger jobs c { k with outbox := outbox, popped := k.popped ++ [response] } := by
  obtain ⟨hitems, hclosed⟩ := Outbox.pop_some popped
  refine ⟨h.slots, h.outstanding, fun q => ?_, ?_, h.readerDone, fun hdone => ?_, h.finished⟩
  · have := h.answered q
    simp only [hitems, List.map_cons, List.count_cons] at this
    simp only [List.map_append, List.map_cons, List.map_nil, List.count_append,
      List.count_singleton]
    omega
  · rw [hclosed]
    exact h.closed
  · rw [running] at hdone
    cases hdone

lemma Ledger.writerExit {outbox : Outbox} (h : Ledger jobs c k)
    (drained : k.outbox.pop = some (none, outbox)) :
    Ledger jobs c { k with outbox := outbox, writerDone := true } := by
  obtain ⟨hitems, hclosed, rfl⟩ := Outbox.pop_none drained
  exact ⟨h.slots, h.outstanding, h.answered, h.closed, h.readerDone, fun _ => ⟨hclosed, hitems⟩,
    fun hfinished => ⟨(h.finished hfinished).1, rfl⟩⟩

lemma Ledger.connectionEnd (h : Ledger jobs c k) (done : k.readerDone = true)
    (joined : k.writerDone = true) : Ledger jobs c { k with finished := true } :=
  ⟨h.slots, h.outstanding, h.answered, h.closed, h.readerDone, h.writerDone,
    fun _ => ⟨done, joined⟩⟩

/-- A job that has yet to be retired keeps its connection's outbox open. -/
lemma Ledger.open_of_job {job : InFlight} (h : Ledger jobs job.connection k)
    (hjob : job ∈ jobs.unretired) : 0 < k.outstanding ∧ k.outbox.closed = false := by
  have hpos : 0 < jobs.unretired.countP (InFlight.of job.connection) :=
    List.countP_pos_iff.mpr ⟨job, hjob, by simp [InFlight.of]⟩
  have houtstanding := h.outstanding
  refine ⟨by omega, ?_⟩
  rw [← Bool.not_eq_true, h.closed]
  omega

/-- The slot of a job that still holds one is owned by the job's connection. -/
lemma Ledger.owner_of_job {job : InFlight} (h : Ledger jobs job.connection k)
    (hjob : job ∈ jobs.holding) : jobs.ownerOf job.slot = some job.connection := by
  have hpos : 0 < jobs.holding.countP (InFlight.at job.connection job.slot) :=
    List.countP_pos_iff.mpr ⟨job, hjob, by simp [InFlight.at]⟩
  have hslots := h.slots job.slot
  by_contra hne
  rw [if_neg hne] at hslots
  omega

/-- The release of a job's slot, as its own connection and every other one see it. -/
lemma Ledger.release {job : InFlight} (h : Ledger jobs c k)
    (howned : jobs.ownerOf job.slot = some job.connection)
    (hholding : ∀ p, jobs.holding.countP p = jobs'.holding.countP p + if p job then 1 else 0)
    (hunanswered : ∀ p, jobs'.unanswered.countP p = jobs.unanswered.countP p)
    (hunretired : ∀ p, jobs'.unretired.countP p = jobs.unretired.countP p)
    (howner : jobs'.ownerOf = Function.update jobs.ownerOf job.slot none) : Ledger jobs' c k := by
  refine ⟨fun i => ?_, ?_, fun q => ?_, h.closed, h.readerDone, h.writerDone, h.finished⟩
  · have hslots := h.slots i
    rw [hholding] at hslots
    rw [howner]
    rcases eq_or_ne i job.slot with rfl | hne
    · simp only [Function.update_self, reduceCtorEq, if_false]
      simp only [howned, Option.some.injEq, InFlight.at, beq_self_eq_true, Bool.and_true,
        beq_iff_eq] at hslots
      by_cases hconnection : job.connection = c
      · simp only [hconnection, if_true] at hslots
        omega
      · simp only [hconnection, if_false] at hslots
        omega
    · simp only [Function.update_of_ne hne]
      have hat : InFlight.at c i job = false := by
        simp [InFlight.at, hne.symm]
      simpa [hat] using hslots
  · rw [hunretired, h.outstanding]
  · rw [hunanswered, h.answered]

/-- The push of a job's response into its connection's outbox. -/
lemma Ledger.handBackPush {job : InFlight} {response : Response}
    (h : Ledger jobs job.connection k) (hjob : job ∈ jobs.unretired)
    (hseq : response.seqNum = job.seqNum)
    (hholding : ∀ p, jobs'.holding.countP p = jobs.holding.countP p)
    (hunanswered : ∀ p, jobs.unanswered.countP p
      = jobs'.unanswered.countP p + if p job then 1 else 0)
    (hunretired : ∀ p, jobs'.unretired.countP p = jobs.unretired.countP p)
    (howner : jobs'.ownerOf = jobs.ownerOf) :
    Ledger jobs' job.connection { k with outbox := k.outbox.push response } := by
  obtain ⟨-, hopen⟩ := h.open_of_job hjob
  rw [Outbox.push_open hopen]
  refine ⟨fun i => ?_, ?_, fun q => ?_, h.closed, h.readerDone, fun hdone => ?_, h.finished⟩
  · rw [hholding, howner, h.slots]
  · rw [hunretired, h.outstanding]
  · have := h.answered q
    rw [hunanswered] at this
    simp only [InFlight.numbered, beq_self_eq_true, Bool.true_and] at this
    simp only [List.map_append, List.map_cons, List.map_nil, List.count_append,
      List.count_singleton, hseq]
    omega
  · have := (h.writerDone hdone).1
    rw [hopen] at this
    cases this

/-- `job_retired`. -/
lemma Ledger.handBackRetired {job : InFlight} (h : Ledger jobs job.connection k)
    (hjob : job ∈ jobs.unretired)
    (hholding : ∀ p, jobs'.holding.countP p = jobs.holding.countP p)
    (hunanswered : ∀ p, jobs'.unanswered.countP p = jobs.unanswered.countP p)
    (hunretired : ∀ p, jobs.unretired.countP p
      = jobs'.unretired.countP p + if p job then 1 else 0)
    (howner : jobs'.ownerOf = jobs.ownerOf) : Ledger jobs' job.connection k.jobRetired := by
  obtain ⟨hpos, hopen⟩ := h.open_of_job hjob
  refine ⟨fun i => ?_, ?_, fun q => ?_, ?_, ?_, ?_, ?_⟩
  · rw [hholding, howner]
    simpa [Connection.jobRetired] using h.slots i
  · have := h.outstanding
    rw [hunretired] at this
    simp only [InFlight.of, beq_self_eq_true, if_true] at this
    simp only [Connection.jobRetired, Connection.closeOutboxIfDone_outstanding,
      Connection.closeOutboxIfDone_reader]
    rw [Connection.decrement_of_pos hpos]
    omega
  · rw [hunanswered]
    simpa [Connection.jobRetired] using h.answered q
  · simp only [Connection.jobRetired, Connection.closeOutboxIfDone_closed, hopen,
      Connection.closeOutboxIfDone_readerDone, Connection.closeOutboxIfDone_outstanding,
      Bool.false_eq_true, false_or]
  · simpa [Connection.jobRetired] using h.readerDone
  · intro hdone
    simp only [Connection.jobRetired, Connection.closeOutboxIfDone_writerDone] at hdone
    have := (h.writerDone hdone).1
    rw [hopen] at this
    cases this
  · simpa [Connection.jobRetired] using h.finished

end Worker

/-! ## Every step balances the books -/

section Steps

variable {config : ServerConfig} {contract : Contract} {s s' : State}

lemma accounts_of_started (h : Started config s) : Accounts s := by
  obtain ⟨hpool, -, -, howner⟩ := SlotPool.make_spec h.pool
  have hcollect : ∀ stages, s.collect stages = [] := by
    intro stages
    simp [State.collect, h.queue, h.worker, h.inFlight, WorkerPc.held]
  refine ⟨hpool, fun c => ?_, fun c _ => h.connections c, by simp [h.inFlight],
    by rw [h.worker]; trivial, h.terminated⟩
  rw [h.connections]
  refine ⟨fun i => ?_, ?_, fun q => ?_, ?_, ?_, ?_, ?_⟩
  · simp [State.jobs, hcollect, howner, ReaderPc.heldSlot]
  · simp [State.jobs, hcollect, ReaderPc.submitted]
  · simp [State.jobs, hcollect]
  · simp
  · simp
  · simp
  · simp

/-- Jobs the worker moves between the queue, its own hands and the table. -/
lemma Accounts.moveJobs (h : Accounts s) (hconnections : s'.connections = s.connections)
    (hnext : s'.nextConnectionId = s.nextConnectionId) (hpool : s'.pool = s.pool)
    (hcollect : ∀ stages : Stage → Bool, stages .release = true → ∀ p,
      (s'.collect stages).countP p = (s.collect stages).countP p)
    (hhandles : ∀ entry ∈ s'.inFlight, entry.1 ∈ s'.issued.map Prod.fst)
    (hrouted : s'.worker.Routed) (hterminated : s'.terminated = s.terminated) : Accounts s' :=
  h.move hconnections hnext.ge (hpool ▸ h.pool) (jobs_sameFor hcollect (by rw [hpool])) hhandles
    hrouted hterminated

/-- The reader of `c` moves without taking or giving anything. -/
lemma Accounts.moveReader (h : Accounts s) {c : ℕ} {k : Connection} (accepted : s.Accepted c)
    (hconnections : s'.connections = Function.update s.connections c k)
    (hnext : s'.nextConnectionId = s.nextConnectionId) (hpool : s'.pool = s.pool)
    (hqueue : s'.queue.items = s.queue.items) (hworker : s'.worker = s.worker)
    (hinFlight : s'.inFlight = s.inFlight) (hissued : s'.issued = s.issued)
    (hterminated : s'.terminated = s.terminated) (hledger : Ledger s.jobs c k) : Accounts s' := by
  have hcollect : ∀ stages, s'.collect stages = s.collect stages := by
    intro stages
    simp only [State.collect, hqueue, hworker, hinFlight]
  have hjobs : s'.jobs = s.jobs := by simp only [State.jobs, hcollect, hpool]
  exact h.update accepted hconnections hnext (hpool ▸ h.pool) (hjobs ▸ hledger)
    (fun c' _ => hjobs ▸ Jobs.SameFor.refl c' s.jobs) hinFlight hissued (hworker ▸ h.routed)
    hterminated

/-- A connection with a job has been accepted. -/
lemma Accounts.accepted_of_job (h : Accounts s) {job : InFlight}
    (hjob : job ∈ s.jobs.unretired) : s.Accepted job.connection := by
  by_contra hnot
  have hpos := ((h.ledger job.connection).open_of_job hjob).1
  rw [h.unaccepted _ hnot] at hpos
  exact absurd hpos (by decide)

lemma Jobs.SameFor.of_owner {c c' slot : ℕ} {jobs : Jobs} {owner : Option ℕ} (hne : c' ≠ c)
    (hslot : jobs.ownerOf slot = none ∨ jobs.ownerOf slot = some c)
    (howner : owner = none ∨ owner = some c) :
    jobs.SameFor c' { jobs with ownerOf := Function.update jobs.ownerOf slot owner } := by
  refine ⟨fun _ => rfl, fun _ => rfl, rfl, fun i => ?_⟩
  rcases eq_or_ne i slot with rfl | hi
  · have hupdated : Function.update jobs.ownerOf i owner i ≠ some c' := by
      rw [Function.update_self]
      rcases howner with rfl | rfl <;> simp [hne.symm]
    have hbefore : jobs.ownerOf i ≠ some c' := by
      rcases hslot with h | h <;> simp [h, hne.symm]
    simp only [hupdated, hbefore]
  · simp only [Function.update_of_ne hi]

/-- A job that comes into the books or leaves them does not concern another connection. -/
lemma Jobs.SameFor.of_job {jobs jobs' : Jobs} {job : InFlight} {c : ℕ} (hne : c ≠ job.connection)
    (hholding : ∀ p : InFlight → Bool, p job = false →
      jobs'.holding.countP p = jobs.holding.countP p)
    (hunanswered : ∀ p : InFlight → Bool, p job = false →
      jobs'.unanswered.countP p = jobs.unanswered.countP p)
    (hunretired : ∀ p : InFlight → Bool, p job = false →
      jobs'.unretired.countP p = jobs.unretired.countP p)
    (howner : jobs'.ownerOf = jobs.ownerOf) : jobs.SameFor c jobs' := by
  have hother : (job.connection == c) = false := beq_eq_false_iff_ne.mpr hne.symm
  refine ⟨fun i => hholding _ ?_, fun q => hunanswered _ ?_, hunretired _ hother, fun i => ?_⟩
  · rw [InFlight.at, hother, Bool.false_and]
  · rw [InFlight.numbered, hother, Bool.false_and]
  · rw [howner]

/-- A pool step on behalf of connection `c`. -/
lemma Accounts.updateOwner (h : Accounts s) {c slot : ℕ} {owner : Option ℕ} {k : Connection}
    (accepted : s.Accepted c) (hpool : s'.pool.Consistent)
    (howner : s'.pool.ownerOf = Function.update s.pool.ownerOf slot owner)
    (hconnections : s'.connections = Function.update s.connections c k)
    (hslot : s.pool.ownerOf slot = none ∨ s.pool.ownerOf slot = some c)
    (howners : owner = none ∨ owner = some c)
    (hnext : s'.nextConnectionId = s.nextConnectionId) (hqueue : s'.queue = s.queue)
    (hworker : s'.worker = s.worker) (hinFlight : s'.inFlight = s.inFlight)
    (hissued : s'.issued = s.issued) (hterminated : s'.terminated = s.terminated)
    (hledger : Ledger { s.jobs with ownerOf := Function.update s.pool.ownerOf slot owner } c k) :
    Accounts s' := by
  have hcollect : ∀ stages, s'.collect stages = s.collect stages := by
    intro stages
    simp only [State.collect, hqueue, hworker, hinFlight]
  have hjobs : s'.jobs = { s.jobs with ownerOf := Function.update s.pool.ownerOf slot owner } := by
    simp only [State.jobs, hcollect, howner]
  exact h.update accepted hconnections hnext hpool (hjobs ▸ hledger)
    (fun c' hne => hjobs ▸ Jobs.SameFor.of_owner hne hslot howners) hinFlight hissued
    (hworker ▸ h.routed) hterminated

/-- The release of a slot that is owned succeeds. -/
lemma release_ok {pool pool' : SlotPool} {slot owner : ℕ} (hpool : pool.Consistent)
    (howner : pool.ownerOf slot = some owner) (h : pool.release slot = .ok pool') :
    pool'.Consistent ∧ pool'.ownerOf = Function.update pool.ownerOf slot none := by
  obtain ⟨_, hrelease, hconsistent, hupdated, -, -⟩ := SlotPool.release_spec hpool howner
  rw [h] at hrelease
  cases hrelease
  exact ⟨hconsistent, hupdated⟩

lemma release_not_error {pool : SlotPool} {slot owner : ℕ} {error : Exn} (hpool : pool.Consistent)
    (howner : pool.ownerOf slot = some owner) : pool.release slot ≠ .error error := by
  obtain ⟨_, hrelease, -⟩ := SlotPool.release_spec hpool howner
  rw [hrelease]
  simp

/-- **Every step balances the books.** -/
theorem accounts_step (h : Accounts s) (hstep : Step config contract s s') : Accounts s' := by
  cases hstep with
  | accept listening =>
      exact h.move rfl (Nat.le_succ _) h.pool (fun c => Jobs.SameFor.refl c _) h.handles h.routed rfl
  | acceptorExit stopping => exact h.moveJobs rfl rfl rfl (fun _ _ _ => rfl) h.handles h.routed rfl
  | @silent c pc accepted place =>
      obtain ⟨hactive, hslot, hsubmitted⟩ := silent_spec place
      exact h.moveReader accepted rfl rfl rfl rfl rfl rfl rfl rfl
        ((h.ledger c).moveReader hactive hslot hsubmitted rfl rfl rfl rfl rfl rfl rfl)
  | @recv c into remaining buffer outcome accepted place fits =>
      obtain ⟨hslot, hsubmitted⟩ := received_spec into (remaining + 1) buffer outcome
      exact h.moveReader accepted rfl rfl rfl rfl rfl rfl rfl rfl
        ((h.ledger c).moveReader (by simp [place]) (by rw [place, hslot])
          (by rw [place, hsubmitted]; rfl) rfl rfl rfl rfl rfl rfl rfl)
  | @respond c header status unread accepted place =>
      exact h.moveReader accepted rfl rfl rfl rfl rfl rfl rfl rfl ((h.ledger c).respond place rfl)
  | @claim c header chain slot pool accepted place claimed =>
      obtain ⟨hpool, hfree, -, howner, -, -⟩ := SlotPool.claim_spec h.pool claimed
      exact h.updateOwner accepted hpool howner rfl (.inl hfree) (.inr rfl) rfl rfl rfl rfl rfl rfl
        ((h.ledger c).claim place hfree)
  | @claimClosed c header chain pool accepted place closed =>
      obtain ⟨-, rfl⟩ := SlotPool.claim_none closed
      exact h.moveReader accepted rfl rfl rfl rfl rfl rfl rfl rfl
        ((h.ledger c).moveReader (by simp [place]) (by rw [place]; rfl) (by rw [place]; rfl)
          rfl rfl rfl rfl rfl rfl rfl)
  | @jobSubmitted c header chain slot accepted place =>
      exact h.moveReader accepted rfl rfl rfl rfl rfl rfl rfl rfl ((h.ledger c).jobSubmitted place)
  | @push c header chain slot queue accepted place pushed =>
      obtain ⟨-, hitems⟩ := BoundedQueue.push_true pushed
      let job := (queuedFrame c header chain slot).entry
      let s' : State := { s.withConnection c { s.connections c with
          reader := .loopHead
          answered := (s.connections c).answered ++ [header.seqNum] } with
        queue := queue }
      have hcollect : ∀ stages p, (s'.collect stages).countP p
          = (s.collect stages).countP p + if p job then 1 else 0 := by
        intro stages p
        simp only [s', State.collect, State.withConnection, hitems, List.map_append, List.map_cons,
          List.map_nil, List.countP_append, List.countP_cons, List.countP_nil, job]
        omega
      refine h.update accepted rfl rfl h.pool ((h.ledger c).push place job rfl rfl rfl
        (hcollect _) (hcollect _) (hcollect _) rfl) (fun c' hne => ?_) rfl rfl h.routed rfl
      have hsame : ∀ stages (p : InFlight → Bool), p job = false →
          (s'.collect stages).countP p = (s.collect stages).countP p := by
        intro stages p hp
        rw [hcollect, if_neg (by rw [hp]; exact Bool.false_ne_true), Nat.add_zero]
      exact .of_job hne (hsame _) (hsame _) (hsame _) rfl
  | @pushClosed c header chain slot queue accepted place closed =>
      obtain ⟨-, rfl⟩ := BoundedQueue.push_false closed
      exact h.moveReader accepted rfl rfl rfl rfl rfl rfl rfl rfl
        ((h.ledger c).moveReader (by simp [place]) (by rw [place]; rfl) (by rw [place]; rfl)
          rfl rfl rfl rfl rfl rfl rfl)
  | @pushFailed c slot accepted place =>
      exact h.moveReader accepted rfl rfl rfl rfl rfl rfl rfl rfl ((h.ledger c).pushFailed place)
  | @giveBack c slot pool accepted place released =>
      obtain ⟨howned, hledger⟩ := (h.ledger c).giveBack place
      obtain ⟨hpool, howner⟩ := release_ok h.pool howned released
      exact h.updateOwner accepted hpool howner rfl (.inr howned) (.inl rfl) rfl rfl rfl rfl rfl
        rfl hledger
  | @giveBackThrows c slot error accepted place threw =>
      exact absurd threw (release_not_error h.pool ((h.ledger c).giveBack place).1)
  | @readerFinished c accepted place first =>
      exact h.moveReader accepted rfl rfl rfl rfl rfl rfl rfl rfl
        ((h.ledger c).readerFinished place first)
  | @connectionEnd c accepted done joined =>
      exact h.moveReader accepted rfl rfl rfl rfl rfl rfl rfl rfl
        ((h.ledger c).connectionEnd done joined)
  | @writerPop c response outbox accepted running popped =>
      exact h.moveReader accepted rfl rfl rfl rfl rfl rfl rfl rfl
        ((h.ledger c).writerPop running popped)
  | @writerExit c outbox accepted running drained =>
      exact h.moveReader accepted rfl rfl rfl rfl rfl rfl rfl rfl
        ((h.ledger c).writerExit drained)
  | @workerPop frame queue place popped =>
      have hitems := BoundedQueue.tryPop_some (BoundedQueue.tryPop_of_either popped)
      refine h.moveJobs rfl rfl rfl (fun stages hstages p => ?_) h.handles trivial rfl
      simp only [State.collect, place, hitems, WorkerPc.held, List.map_cons, List.countP_append,
        List.countP_cons, List.countP_nil]
      omega
  | @workerNoWork queue place busy empty =>
      obtain ⟨-, rfl⟩ := BoundedQueue.tryPop_none empty
      refine h.moveJobs rfl rfl rfl (fun stages hstages p => ?_) h.handles trivial rfl
      simp only [State.collect, place, WorkerPc.held]
  | @workerExit queue place idle drained =>
      obtain ⟨-, rfl⟩ := BoundedQueue.tryPop_none (BoundedQueue.pop_eq_tryPop drained)
      refine h.moveJobs rfl rfl rfl (fun stages hstages p => ?_) h.handles trivial rfl
      simp only [State.collect, place, WorkerPc.held]
  | @submit frame input handle place storage fresh =>
      have hnew : emplaceInFlight s.inFlight handle frame.entry
          = (handle, frame.entry) :: s.inFlight := by
        refine emplaceInFlight_fresh fun entry hentry heq => fresh ?_
        exact heq ▸ h.handles entry hentry
      refine h.moveJobs rfl rfl rfl (fun stages hstages p => ?_) ?_ trivial rfl
      · simp only [State.collect, place, hnew, WorkerPc.held, List.map_cons, List.countP_append,
          List.countP_cons, List.countP_nil]
        omega
      · intro entry hentry
        rw [hnew] at hentry
        rcases List.mem_cons.mp hentry with rfl | hentry
        · exact List.mem_cons_self
        · exact List.mem_cons_of_mem _ (h.handles entry hentry)
  | @submitThrows frame input place storage =>
      refine h.moveJobs rfl rfl rfl (fun stages hstages p => ?_) h.handles rfl rfl
      simp only [State.collect, place, WorkerPc.held, hstages, if_true]
  | @slotThrows frame error place threw =>
      have hjob : frame.entry ∈ s.jobs.holding := by
        simp [State.jobs, State.collect, place, WorkerPc.held]
      have howned := (h.ledger frame.entry.connection).owner_of_job hjob
      have hlt := h.pool.owned_lt _ _ howned
      simp only [SlotPool.slot] at threw
      rw [if_neg (by exact not_le.mpr hlt)] at threw
      cases threw
  | @backendReads handle job input submitted pending pointer =>
      exact h.moveJobs rfl rfl rfl (fun _ _ _ => rfl) h.handles h.routed rfl
  | @poll completions place allowed =>
      refine h.moveJobs rfl rfl rfl (fun stages hstages p => ?_) h.handles trivial rfl
      simp only [State.collect, place, WorkerPc.held]
  | @retireUnknown completion rest place missing =>
      refine h.moveJobs rfl rfl rfl (fun stages hstages p => ?_) h.handles trivial rfl
      simp only [State.collect, place, WorkerPc.held]
  | @retire completion rest job handle place found =>
      have hperm := perm_eraseInFlight found
      have hrouted : (job.response completion).seqNum = job.seqNum := by
        simp only [InFlight.response]
        split <;> rfl
      refine h.moveJobs rfl rfl rfl (fun stages hstages p => ?_) ?_ hrouted rfl
      · have hcount := (hperm.map Prod.snd).countP_eq p
        simp only [List.map_cons, List.countP_cons] at hcount
        simp only [State.collect, place, WorkerPc.held, hstages, if_true, List.countP_append,
          List.countP_cons, List.countP_nil]
        omega
      · intro entry hentry
        exact h.handles entry (hperm.mem_iff.mpr (List.mem_cons_of_mem _ hentry))
  | retired place =>
      refine h.moveJobs rfl rfl rfl (fun stages hstages p => ?_) h.handles trivial rfl
      simp only [State.collect, place, WorkerPc.held]
  | @handBackRelease job response next pool place released =>
      have hjob : job ∈ s.jobs.holding := by
        simp [State.jobs, State.collect, place, WorkerPc.held, Stage.holdsSlot]
      have howned := (h.ledger job.connection).owner_of_job hjob
      obtain ⟨hpool, howner⟩ := release_ok h.pool howned released
      have hrouted : response.seqNum = job.seqNum := by
        have := h.routed
        rwa [place] at this
      refine ⟨hpool, fun c => (h.ledger c).release howned (fun p => ?_) (fun p => ?_)
        (fun p => ?_) howner, h.unaccepted, h.handles, hrouted, h.terminated⟩
      · simp only [State.jobs, State.collect, place, WorkerPc.held, Stage.holdsSlot, if_true,
          Bool.false_eq_true, if_false, List.countP_append, List.countP_cons, List.countP_nil]
        omega
      · simp only [State.jobs, State.collect, place, WorkerPc.held, Stage.unanswered]
      · simp only [State.jobs, State.collect, place, WorkerPc.held]
  | @handBackThrows job response next error place threw =>
      have hjob : job ∈ s.jobs.holding := by
        simp [State.jobs, State.collect, place, WorkerPc.held, Stage.holdsSlot]
      have howned := (h.ledger job.connection).owner_of_job hjob
      exact absurd threw (release_not_error h.pool howned)
  | @handBackPush job response next place =>
      have hjob : job ∈ s.jobs.unretired := by
        simp [State.jobs, State.collect, place, WorkerPc.held]
      have hrouted : response.seqNum = job.seqNum := by
        have := h.routed
        rwa [place] at this
      let s' : State := { s.withConnection job.connection { s.connections job.connection with
          outbox := (s.connections job.connection).outbox.push response } with
        worker := .handBack .retired job response next }
      have hholding : ∀ p : InFlight → Bool,
          s'.jobs.holding.countP p = s.jobs.holding.countP p := by
        intro p
        simp only [s', State.jobs, State.collect, place, WorkerPc.held, Stage.holdsSlot,
          State.withConnection, Bool.false_eq_true, if_false]
      have hunanswered : ∀ p : InFlight → Bool, s.jobs.unanswered.countP p
          = s'.jobs.unanswered.countP p + if p job then 1 else 0 := by
        intro p
        simp only [s', State.jobs, State.collect, place, WorkerPc.held, Stage.unanswered,
          State.withConnection, if_true, Bool.false_eq_true, if_false, List.countP_append,
          List.countP_cons, List.countP_nil]
        omega
      have hunretired : ∀ p : InFlight → Bool,
          s'.jobs.unretired.countP p = s.jobs.unretired.countP p := by
        intro p
        simp only [s', State.jobs, State.collect, place, WorkerPc.held, State.withConnection]
      exact h.update (h.accepted_of_job hjob) rfl rfl h.pool ((h.ledger _).handBackPush hjob
        hrouted hholding hunanswered hunretired rfl) (fun c' hne => .of_job hne
        (fun p _ => hholding p) (fun p hp => by rw [hunanswered, hp]; rfl)
        (fun p _ => hunretired p) rfl) rfl rfl hrouted rfl
  | @handBackRetired job response next place =>
      have hjob : job ∈ s.jobs.unretired := by
        simp [State.jobs, State.collect, place, WorkerPc.held]
      have hnext : ∀ stages, next.pc.held stages = [] := by
        intro stages
        cases next <;> rfl
      have hrouted : next.pc.Routed := by cases next <;> trivial
      let s' : State := { s.withConnection job.connection
          (s.connections job.connection).jobRetired with worker := next.pc }
      have hholding : ∀ p : InFlight → Bool,
          s'.jobs.holding.countP p = s.jobs.holding.countP p := by
        intro p
        simp only [s', State.jobs, State.collect, hnext, State.withConnection, place]
        simp only [WorkerPc.held, Stage.holdsSlot, Bool.false_eq_true, if_false]
      have hunanswered : ∀ p : InFlight → Bool,
          s'.jobs.unanswered.countP p = s.jobs.unanswered.countP p := by
        intro p
        simp only [s', State.jobs, State.collect, hnext, State.withConnection, place]
        simp only [WorkerPc.held, Stage.unanswered, Bool.false_eq_true, if_false]
      have hunretired : ∀ p : InFlight → Bool, s.jobs.unretired.countP p
          = s'.jobs.unretired.countP p + if p job then 1 else 0 := by
        intro p
        simp only [s', State.jobs, State.collect, hnext, State.withConnection, place]
        simp only [WorkerPc.held, if_true, List.countP_append, List.countP_cons, List.countP_nil]
        omega
      exact h.update (h.accepted_of_job hjob) rfl rfl h.pool ((h.ledger _).handBackRetired hjob
        hholding hunanswered hunretired rfl) (fun c' hne => .of_job hne (fun p _ => hholding p)
        (fun p _ => hunanswered p) (fun p hp => by rw [hunretired, hp]; rfl) rfl) rfl rfl hrouted
        rfl
  | stopCalled place => exact h.moveJobs rfl rfl rfl (fun _ _ _ => rfl) h.handles h.routed rfl
  | acceptorJoined place done =>
      exact h.moveJobs rfl rfl rfl (fun _ _ _ => rfl) h.handles h.routed rfl
  | socketsShutDown place => exact h.moveJobs rfl rfl rfl (fun _ _ _ => rfl) h.handles h.routed rfl
  | slotsClosed place =>
      exact h.move rfl le_rfl h.pool.close (fun c => Jobs.SameFor.refl c _) h.handles h.routed rfl
  | connectionsJoined place finished =>
      exact h.moveJobs rfl rfl rfl (fun _ _ _ => rfl) h.handles h.routed rfl
  | queueClosed place => exact h.moveJobs rfl rfl rfl (fun _ _ _ => rfl) h.handles h.routed rfl
  | workerJoined place exited =>
      exact h.moveJobs rfl rfl rfl (fun _ _ _ => rfl) h.handles h.routed rfl

/-- **The books balance in every reachable state**, for any backend. -/
theorem accounts_of_reachable (h : (config.system contract).Reachable s) : Accounts s := by
  refine h.invariant (fun _ => accounts_of_started) fun t t' _ haccounts hstep => ?_
  exact accounts_step haccounts hstep

end Steps

end Imgjit
