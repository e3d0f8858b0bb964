import Imgjit.Net.ReaderStream
import Imgjit.Net.ServerDelivery

/-!
# Whose pixels a response carries

A payload lies in a shared slot from its first `recv` to the completion of its job, and completions
are routed out of order.  Nothing in a completion says whose picture it carries; the worker finds
the connection in its table, by the handle.  This file shows that the picture in a response is
nevertheless the one its own request asked for.

**The backend's promise.**  `pictureContract`: a successful completion carries `apply_chain` of
bytes found in the job's slot at some moment between the submit and the completion.  What
`apply_chain` computes is a parameter, so float rounding is no concern of the server's;
`oracleContract` takes the oracle over exact arithmetic for it.

**What a state owes.**  `State.owed` are the successful responses still to come, computed from the
slots as they are now.  A step that writes to a slot changes what is owed, unless no job is in the
slot; the books of `ServerAccounts.lean` say that none is.

**The invariant.**  `Pixels`: what a connection's writer has taken, what waits in its outbox and
what it is owed are, with multiplicity, responses that the frames it sent deserve.

**The result.**  `responses_deserved`: every successful response answers a frame of its own
connection, with that frame's picture, and no frame is answered so twice.
-/

namespace Imgjit

/-! ## The backend's promise -/

/-- The picture of a job, when its input reads as `bytes`. -/
def FrameJob.picture (applyChain : ApplyChain) (job : FrameJob) (bytes : List UInt8) :
    Option Image :=
  match Image.fromBytes job.width job.height job.channels bytes job.stride with
  | .ok image => some (applyChain image job.chain)
  | .error _ => none

/-- A `kOk` completion carries `apply_chain` of some bytes the slot was seen to hold. -/
def pictureContract (applyChain : ApplyChain) : Contract := fun job snapshots completion =>
  completion.status = .kOk →
    ∃ bytes ∈ snapshots, ∃ picture, job.picture applyChain bytes = some picture
      ∧ completion.output = some picture

/-- The promise over exact arithmetic: the picture is that of the CPU oracle, on exact rationals. -/
abbrev oracleContract (cmath : CMath) : Contract := pictureContract (Cpu.applyChain cmath)

/-! ## What a state owes its connections -/

/-- The successful response to a job, if the slot keeps its bytes. -/
def InFlight.owed (applyChain : ApplyChain) (memory : ℕ → List UInt8) (entry : InFlight)
    (job : FrameJob) : Option (ℕ × Response) :=
  (job.picture applyChain (memory entry.slot)).map fun picture =>
    (entry.connection, okAnswer entry.seqNum entry.flags picture)

/-- What is owed for a frame in the queue. -/
def QueuedFrame.owed (applyChain : ApplyChain) (memory : ℕ → List UInt8) (frame : QueuedFrame) :
    Option (ℕ × Response) :=
  frame.entry.owed applyChain memory (frame.job frame.slot)

/-- What is owed for the job in the worker's hands. -/
def WorkerPc.owed (applyChain : ApplyChain) (memory : ℕ → List UInt8) :
    WorkerPc → List (ℕ × Response)
  | submit frame => (frame.owed applyChain memory).toList
  | handBack .release job response _ => [(job.connection, response)]
  | handBack .push job response _ => [(job.connection, response)]
  | _ => []

/-- The job behind an entry of the in-flight table. -/
def issuedJob (issued : List (JobHandle × FrameJob)) (handle : JobHandle) : Option FrameJob :=
  issued.lookup handle

/-- What is owed for all frames in the queue. -/
def owedByQueue (applyChain : ApplyChain) (memory : ℕ → List UInt8) (frames : List QueuedFrame) :
    List (ℕ × Response) :=
  frames.filterMap (QueuedFrame.owed applyChain memory)

/-- What is owed to an entry of the in-flight table. -/
def owedToEntry (applyChain : ApplyChain) (memory : ℕ → List UInt8)
    (issued : List (JobHandle × FrameJob)) (entry : JobHandle × InFlight) : Option (ℕ × Response) :=
  (issuedJob issued entry.1).bind (entry.2.owed applyChain memory)

/-- What is owed for all jobs in the table. -/
def owedByTable (applyChain : ApplyChain) (memory : ℕ → List UInt8)
    (issued : List (JobHandle × FrameJob)) (table : List (JobHandle × InFlight)) : List (ℕ × Response) :=
  table.filterMap (owedToEntry applyChain memory issued)

/-- The successful responses still to come, by connection, if nothing is written to the slots. -/
def State.owed (applyChain : ApplyChain) (s : State) : List (ℕ × Response) :=
  owedByQueue applyChain s.memory s.queue.items
    ++ (s.worker.owed applyChain s.memory ++ owedByTable applyChain s.memory s.issued s.inFlight)

/-- The completions the worker has yet to route. -/
def WorkerPc.completions : WorkerPc → List Completion
  | retire completions => completions
  | handBack _ _ _ (.retire completions) => completions
  | _ => []

/-! ## The invariant -/

/-- What connection `c`'s writer has taken, what waits for it and what it is owed are responses that
its frames deserve, with multiplicity. -/
def Stream (config : ReaderConfig) (applyChain : ApplyChain) (memory : ℕ → List UInt8)
    (owed : List (ℕ × Response)) (c : ℕ) (k : Connection) : Prop :=
  ∃ frames received, k.consumed = requestFormat.encodeAll frames ++ received
    ∧ k.reader.At config memory received
    ∧ ∀ response : Response, response.status = .kOk →
      k.popped.count response + k.outbox.items.count response + owed.count (c, response)
        ≤ (frames.filterMap (okResponse config applyChain)).count response

/-- **The invariant of the pixels.** -/
structure Pixels (config : ServerConfig) (applyChain : ApplyChain) (s : State) : Prop where
  stream : ∀ c, Stream config.reader applyChain s.memory (s.owed applyChain) c (s.connections c)
  issued : (s.issued.map Prod.fst).Nodup
  table : (s.inFlight.map Prod.fst).Nodup
  jobs : ∀ entry ∈ s.inFlight, ∃ job, issuedJob s.issued entry.1 = some job
    ∧ job.input = some entry.2.slot
  seenIssued : ∀ snapshot ∈ s.seen, snapshot.1 ∈ s.issued.map Prod.fst
  /-- What the backend has seen of a job in flight is what its slot still holds. -/
  seen : ∀ snapshot ∈ s.seen, ∀ entry ∈ s.inFlight, entry.1 = snapshot.1 →
    snapshot.2 = s.memory entry.2.slot
  answers : ∀ completion ∈ s.worker.completions, completion.status = .kOk →
    ∀ entry ∈ s.inFlight, entry.1 = completion.handle → ∃ job picture,
      issuedJob s.issued entry.1 = some job
        ∧ job.picture applyChain (s.memory entry.2.slot) = some picture
        ∧ completion.output = some picture

section Stream

variable {config : ReaderConfig} {applyChain : ApplyChain} {memory memory' : ℕ → List UInt8}
  {owed owed' : List (ℕ × Response)} {c : ℕ} {k k' : Connection}

/-- A step that neither receives bytes nor adds to what the connection has or is owed. -/
lemma Stream.step (h : Stream config applyChain memory owed c k)
    (hconsumed : k'.consumed = k.consumed)
    (hat : ∀ received, k.reader.At config memory received → k'.reader.At config memory' received)
    (hcount : ∀ response : Response, response.status = .kOk →
      k'.popped.count response + k'.outbox.items.count response + owed'.count (c, response)
        ≤ k.popped.count response + k.outbox.items.count response + owed.count (c, response)) :
    Stream config applyChain memory' owed' c k' := by
  obtain ⟨frames, received, hbytes, hplace, hdeserved⟩ := h
  exact ⟨frames, received, hconsumed.trans hbytes, hat received hplace, fun response hok =>
    (hcount response hok).trans (hdeserved response hok)⟩

/-- A whole frame more can only deserve more. -/
lemma Stream.frame (h : Stream config applyChain memory owed c k)
    (hconsumed : k'.consumed = k.consumed)
    (hat : ∀ received, k.reader.At config memory received →
      k'.reader.At config memory' received
        ∨ ∃ frame : RequestFrame, frame.bytes = received ∧ k'.reader.At config memory' [])
    (hcount : ∀ response : Response, response.status = .kOk →
      k'.popped.count response + k'.outbox.items.count response + owed'.count (c, response)
        ≤ k.popped.count response + k.outbox.items.count response + owed.count (c, response)) :
    Stream config applyChain memory' owed' c k' := by
  obtain ⟨frames, received, hbytes, hplace, hdeserved⟩ := h
  rcases hat received hplace with hplace' | ⟨frame, rfl, hplace'⟩
  · exact ⟨frames, received, hconsumed.trans hbytes, hplace', fun response hok =>
      (hcount response hok).trans (hdeserved response hok)⟩
  · refine ⟨frames ++ [frame], [], ?_, hplace', fun response hok => ?_⟩
    · rw [hconsumed, hbytes]
      simp [requestFormat]
    · rw [List.filterMap_append, List.count_append]
      have := (hcount response hok).trans (hdeserved response hok)
      omega

/-- The frame in the reader's hands goes into the queue: what it deserves is now owed. -/
lemma Stream.push {header : RequestHeader} {chain : OpChain} {slot : ℕ}
    (h : Stream config applyChain memory owed c k) (place : k.reader = .push header chain slot)
    (hconsumed : k'.consumed = k.consumed) (hplace' : k'.reader = .loopHead)
    (hpopped : k'.popped = k.popped) (houtbox : k'.outbox = k.outbox)
    (howed : ∀ response, owed'.count (c, response) = owed.count (c, response)
      + ((queuedFrame c header chain slot).owed applyChain memory).toList.count (c, response)) :
    Stream config applyChain memory owed' c k' := by
  obtain ⟨frames, received, hbytes, hplace, hdeserved⟩ := h
  rw [place] at hplace
  obtain ⟨frame, rfl, rfl, hverdict, hmemory⟩ := hplace
  refine ⟨frames ++ [frame], [], ?_, ?_, fun response hok => ?_⟩
  · rw [hconsumed, hbytes]
    simp [requestFormat]
  · rw [hplace']
    rfl
  · -- The job reads the frame's own payload, so it is owed what the frame deserves.
    have hpicture :
        ((queuedFrame c frame.header chain slot).job slot).picture applyChain (memory slot) = requestedPicture applyChain frame.header chain frame.payload := by
      obtain ⟨hvalid, -⟩ := verdict_accepted hverdict
      exact congrArg
        (fun read : Except Exn Image => match read with
          | .ok image => some (applyChain image chain)
          | .error _ => none)
        (fromBytes_slot hvalid frame.payload_length hmemory)
    have hdeserves : ((queuedFrame c frame.header chain slot).owed applyChain memory).toList.count
        (c, response) = ([frame].filterMap (okResponse config applyChain)).count response := by
      have hslot : (queuedFrame c frame.header chain slot).slot = slot := rfl
      simp only [QueuedFrame.owed, InFlight.owed, QueuedFrame.entry, okResponse, hverdict, hslot,
        hpicture, List.filterMap_cons, List.filterMap_nil]
      cases requestedPicture applyChain frame.header chain frame.payload with
      | none => simp
      | some picture => simp [List.count_singleton, queuedFrame]
    rw [hpopped, houtbox, howed, hdeserves, List.filterMap_append, List.count_append]
    have := hdeserved response hok
    omega

/-- Received bytes extend the stream. -/
lemma Stream.recv {into : ReadInto} {remaining : ℕ} {buffer : List UInt8} {outcome : Recv}
    (h : Stream config applyChain memory owed c k)
    (place : k.reader = .reading into remaining buffer)
    (hfits : outcome.Fits remaining)
    (howed : ∀ response, owed'.count (c, response) = owed.count (c, response)) :
    Stream config applyChain (into.store buffer.length memory outcome) owed' c { k with
      reader := .received into remaining buffer outcome
      consumed := k.consumed ++ outcome.bytes } := by
  obtain ⟨frames, received, hbytes, hplace, hdeserved⟩ := h
  rw [place] at hplace
  refine ⟨frames, received ++ outcome.bytes, by simp only [hbytes, List.append_assoc], ?_,
    fun response hok => by rw [howed]; exact hdeserved response hok⟩
  refine received_at hplace fun bytes heq => ?_
  rw [heq] at hfits
  exact hfits.2

/-- What a writer has taken, its client has asked for. -/
lemma Stream.deserved (h : Stream config applyChain memory owed c k) :
    (k.popped.filter fun response => response.status = .kOk).Subperm
      ((requestFrames k.consumed).filterMap (okResponse config applyChain)) := by
  obtain ⟨frames, received, hbytes, -, hdeserved⟩ := h
  rw [hbytes, requestFrames, requestFormat.split_append, List.filterMap_append]
  refine (List.subperm_ext_iff.mpr fun response hmem => ?_).trans
    (List.sublist_append_left _ _).subperm
  have hok : response.status = .kOk := by simpa using (List.mem_filter.mp hmem).2
  rw [List.count_filter (by simpa using hok)]
  have htaken := hdeserved response hok
  omega

end Stream

/-! ## Handles -/

lemma mem_of_issuedJob {issued : List (JobHandle × FrameJob)} {handle : JobHandle} {job : FrameJob}
    (h : issuedJob issued handle = some job) : (handle, job) ∈ issued := by
  induction issued with
  | nil => cases h
  | cons head tail ih =>
      obtain ⟨handle', job'⟩ := head
      simp only [issuedJob, List.lookup_cons] at h
      split at h
      · rename_i heq
        cases h
        rw [beq_iff_eq.mp heq]
        exact List.mem_cons_self
      · exact List.mem_cons_of_mem _ (ih h)

/-- With handles issued once, an issued job is the one its handle finds. -/
lemma issuedJob_of_mem {issued : List (JobHandle × FrameJob)} {handle : JobHandle} {job : FrameJob}
    (hnodup : (issued.map Prod.fst).Nodup) (h : (handle, job) ∈ issued) :
    issuedJob issued handle = some job := by
  induction issued with
  | nil => cases h
  | cons head tail ih =>
      obtain ⟨handle', job'⟩ := head
      rw [List.map_cons, List.nodup_cons] at hnodup
      rcases List.mem_cons.mp h with heq | h
      · cases heq
        simp [issuedJob]
      · have hne : (handle == handle') = false := by
          rw [beq_eq_false_iff_ne]
          intro heq
          have hmem : handle ∈ tail.map Prod.fst := List.mem_map_of_mem (f := Prod.fst) h
          exact hnodup.1 (heq ▸ hmem)
        simp only [issuedJob, List.lookup_cons, hne]
        exact ih hnodup.2 h

lemma mem_seenBy {seen : List (JobHandle × List UInt8)} {handle : JobHandle} {bytes : List UInt8}
    (h : bytes ∈ seenBy seen handle) :
    ∃ snapshot ∈ seen, snapshot.1 = handle ∧ snapshot.2 = bytes := by
  simp only [seenBy, List.mem_map, List.mem_filter, beq_iff_eq] at h
  obtain ⟨snapshot, ⟨hmem, hhandle⟩, hbytes⟩ := h
  exact ⟨snapshot, hmem, hhandle, hbytes⟩

/-! ## What is owed only depends on the slots of jobs -/

section Owed

variable {applyChain : ApplyChain} {s s' : State}

/-- Two memories that agree on the slots of all jobs owe the same. -/
lemma owed_of_memory (hqueue : s'.queue.items = s.queue.items) (hworker : s'.worker = s.worker)
    (htable : s'.inFlight = s.inFlight) (hissued : s'.issued = s.issued)
    (hframes : ∀ frame ∈ s.queue.items, s'.memory frame.slot = s.memory frame.slot)
    (hheld : ∀ job ∈ s.worker.held Stage.holdsSlot, s'.memory job.slot = s.memory job.slot)
    (hentries : ∀ entry ∈ s.inFlight, s'.memory entry.2.slot = s.memory entry.2.slot) :
    s'.owed applyChain = s.owed applyChain := by
  have hparts : owedByQueue applyChain s'.memory s.queue.items
        = owedByQueue applyChain s.memory s.queue.items
      ∧ s.worker.owed applyChain s'.memory = s.worker.owed applyChain s.memory
      ∧ owedByTable applyChain s'.memory s.issued s.inFlight
        = owedByTable applyChain s.memory s.issued s.inFlight := by
    refine ⟨List.filterMap_congr fun frame hframe => ?_, ?_,
      List.filterMap_congr fun entry hentry => ?_⟩
    · have := hframes frame hframe
      simp only [QueuedFrame.owed, InFlight.owed, QueuedFrame.entry, this]
    · cases hpc : s.worker with
      | submit frame =>
          have : s'.memory frame.slot = s.memory frame.slot :=
            hheld frame.entry (by simp [hpc, WorkerPc.held])
          simp only [WorkerPc.owed, QueuedFrame.owed, InFlight.owed, QueuedFrame.entry, this]
      | handBack stage job response next => cases stage <;> rfl
      | _ => rfl
    · have hslot := hentries entry hentry
      refine congrArg _ (funext fun job => ?_)
      simp only [InFlight.owed, hslot]
  simp only [State.owed, hqueue, hworker, htable, hissued, hparts.1, hparts.2.1, hparts.2.2]

lemma count_owedByQueue_cons (applyChain : ApplyChain) (memory : ℕ → List UInt8)
    (frame : QueuedFrame) (frames : List QueuedFrame) (answer : ℕ × Response) :
    (owedByQueue applyChain memory (frame :: frames)).count answer
      = (frame.owed applyChain memory).toList.count answer
        + (owedByQueue applyChain memory frames).count answer := by
  rw [owedByQueue, List.filterMap_cons]
  cases frame.owed applyChain memory with
  | none => simp [owedByQueue]
  | some answer' => simp [owedByQueue, List.count_cons, Nat.add_comm]

lemma count_owedByQueue_append (applyChain : ApplyChain) (memory : ℕ → List UInt8)
    (frame : QueuedFrame) (frames : List QueuedFrame) (answer : ℕ × Response) :
    (owedByQueue applyChain memory (frames ++ [frame])).count answer
      = (owedByQueue applyChain memory frames).count answer
        + (frame.owed applyChain memory).toList.count answer := by
  have hlast := count_owedByQueue_cons applyChain memory frame [] answer
  rw [owedByQueue, List.filterMap_append, List.count_append]
  simp only [owedByQueue, List.filterMap_nil, List.count_nil] at hlast ⊢
  rw [hlast, Nat.add_zero]

lemma count_owedByTable_cons (applyChain : ApplyChain) (memory : ℕ → List UInt8)
    (issued : List (JobHandle × FrameJob)) (entry : JobHandle × InFlight)
    (table : List (JobHandle × InFlight)) (answer : ℕ × Response) :
    (owedByTable applyChain memory issued (entry :: table)).count answer
      = (owedToEntry applyChain memory issued entry).toList.count answer
        + (owedByTable applyChain memory issued table).count answer := by
  rw [owedByTable, List.filterMap_cons]
  cases owedToEntry applyChain memory issued entry with
  | none => simp [owedByTable]
  | some answer' => simp [owedByTable, List.count_cons, Nat.add_comm]

/-- Erasing an entry takes exactly what it was owed. -/
lemma count_owedByTable_erase (applyChain : ApplyChain) (memory : ℕ → List UInt8)
    (issued : List (JobHandle × FrameJob))
    {table : List (JobHandle × InFlight)} {handle : JobHandle} {entry : JobHandle × InFlight}
    (found : findInFlight table handle = some entry) (answer : ℕ × Response) :
    (owedByTable applyChain memory issued table).count answer
      = (owedToEntry applyChain memory issued entry).toList.count answer
        + (owedByTable applyChain memory issued (eraseInFlight table handle)).count answer := by
  rw [← count_owedByTable_cons]
  exact ((perm_eraseInFlight found).filterMap _).count_eq answer

/-- A failure is no successful response. -/
lemma count_failure (connection c : ℕ) (job : InFlight) {response : Response}
    (hok : response.status = .kOk) :
    [(connection, job.failure)].count (c, response) = 0 := by
  rw [List.count_singleton, if_neg]
  simp only [beq_iff_eq, Prod.mk.injEq, not_and]
  rintro - rfl
  cases hok

end Owed

/-- Another response in the outbox does not count. -/
lemma count_push {outbox : Outbox} {response response' : Response} (hne : response' ≠ response) :
    (outbox.push response').items.count response = outbox.items.count response := by
  simp only [Outbox.push]
  split_ifs
  · rfl
  · rw [List.count_append, List.count_singleton, if_neg (by simpa using hne), Nat.add_zero]

/-! ## Every step keeps the pixels apart -/

section Steps

variable {config : ServerConfig} {applyChain : ApplyChain} {s s' : State}

lemma pixels_of_started (h : Started config s) : Pixels config applyChain s := by
  refine ⟨fun c => ?_, by simp [h.issued], by simp [h.inFlight], by simp [h.inFlight],
    by simp [h.seen], by simp [h.seen], by simp [h.worker, WorkerPc.completions]⟩
  rw [h.connections]
  refine ⟨[], [], rfl, rfl, fun response hok => ?_⟩
  simp [State.owed, h.queue, h.worker, h.inFlight, WorkerPc.owed, owedByQueue, owedByTable]

/-- A step that leaves the backend's side alone. -/
lemma Pixels.of_stream (h : Pixels config applyChain s)
    (hstream : ∀ c,
      Stream config.reader applyChain s'.memory (s'.owed applyChain) c (s'.connections c))
    (hissued : s'.issued = s.issued) (htable : s'.inFlight = s.inFlight)
    (hseen : s'.seen = s.seen) (hcompletions : s'.worker.completions = s.worker.completions)
    (hmemory : ∀ entry ∈ s.inFlight, s'.memory entry.2.slot = s.memory entry.2.slot) :
    Pixels config applyChain s' := by
  refine ⟨hstream, hissued ▸ h.issued, htable ▸ h.table, ?_, ?_, ?_, ?_⟩
  · rw [htable, hissued]
    exact h.jobs
  · rw [hseen, hissued]
    exact h.seenIssued
  · rw [hseen, htable]
    intro snapshot hsnapshot entry hentry heq
    rw [hmemory entry hentry]
    exact h.seen snapshot hsnapshot entry hentry heq
  · rw [hcompletions, htable, hissued]
    intro completion hcompletion hok entry hentry heq
    rw [hmemory entry hentry]
    exact h.answers completion hcompletion hok entry hentry heq

/-- The reader of `c` moves; if it received anything, into the slot it holds. -/
lemma Pixels.reader (h : Pixels config applyChain s) (hcustody : Custody s) {c : ℕ} {k : Connection}
    (hconnections : s'.connections = Function.update s.connections c k)
    (hstream : Stream config.reader applyChain s'.memory (s'.owed applyChain) c k)
    (hmemory : ∀ slot, (s.connections c).reader.heldSlot ≠ some slot →
      s'.memory slot = s.memory slot)
    (howed : ∀ c' ≠ c, ∀ response,
      (s'.owed applyChain).count (c', response) = (s.owed applyChain).count (c', response))
    (hissued : s'.issued = s.issued) (htable : s'.inFlight = s.inFlight)
    (hseen : s'.seen = s.seen) (hworker : s'.worker = s.worker) : Pixels config applyChain s' := by
  refine h.of_stream ?_ hissued htable hseen (by rw [hworker]) fun entry hentry => ?_
  · rw [hconnections, Function.forall_update_iff _ (fun c' k' =>
      Stream config.reader applyChain s'.memory (s'.owed applyChain) c' k')]
    refine ⟨hstream, fun c' hne => (h.stream c').step rfl (fun received hplace => ?_)
      fun response _ => by rw [howed c' hne]⟩
    refine at_of_memory hplace fun slot hslot => hmemory slot fun hheld => hne ?_
    exact hcustody.readers c' c slot hslot hheld
  · exact hmemory _ fun hheld => (hcustody.exclusive c _ hheld).2.2 entry hentry rfl

/-- What a reader receives into its own slot changes nothing that is owed. -/
lemma owed_of_held (applyChain : ApplyChain) (hcustody : Custody s) {c : ℕ}
    (hqueue : s'.queue = s.queue)
    (hworker : s'.worker = s.worker) (htable : s'.inFlight = s.inFlight)
    (hissued : s'.issued = s.issued)
    (hmemory : ∀ slot, (s.connections c).reader.heldSlot ≠ some slot →
      s'.memory slot = s.memory slot) : s'.owed applyChain = s.owed applyChain :=
  owed_of_memory (by rw [hqueue]) hworker htable hissued
    (fun frame hframe => hmemory _ fun hheld =>
      (hcustody.exclusive c _ hheld).1 frame hframe rfl)
    (fun job hjob => hmemory _ fun hheld =>
      (hcustody.exclusive c _ hheld).2.1 job hjob rfl)
    (fun entry hentry => hmemory _ fun hheld =>
      (hcustody.exclusive c _ hheld).2.2 entry hentry rfl)

/-- The reader of `c` moves without receiving and without touching the outbox or the queue. -/
lemma Pixels.moveReader (h : Pixels config applyChain s) (hcustody : Custody s) {c : ℕ}
    {k : Connection} (hconnections : s'.connections = Function.update s.connections c k)
    (hmemory : s'.memory = s.memory) (hqueue : s'.queue = s.queue) (hworker : s'.worker = s.worker)
    (htable : s'.inFlight = s.inFlight) (hissued : s'.issued = s.issued)
    (hseen : s'.seen = s.seen) (hconsumed : k.consumed = (s.connections c).consumed)
    (hcount : ∀ response : Response, response.status = .kOk →
      k.popped.count response + k.outbox.items.count response
        ≤ (s.connections c).popped.count response + (s.connections c).outbox.items.count response)
    (hat : ∀ received, (s.connections c).reader.At config.reader s.memory received →
      k.reader.At config.reader s.memory received
        ∨ ∃ frame : RequestFrame, frame.bytes = received
          ∧ k.reader.At config.reader s.memory []) : Pixels config applyChain s' := by
  have howed : s'.owed applyChain = s.owed applyChain :=
    owed_of_held applyChain hcustody (c := c) hqueue hworker htable hissued fun slot _ => by
      rw [hmemory]
  refine h.reader hcustody hconnections ?_ (fun slot _ => by rw [hmemory])
    (fun _ _ _ => by rw [howed]) hissued htable hseen hworker
  rw [howed, hmemory]
  exact (h.stream c).frame hconsumed hat fun response hok =>
    Nat.add_le_add_right (hcount response hok) _

/-- A step of the worker, the backend or `stop` that owes no more than before. -/
lemma Pixels.stream_of_le (h : Pixels config applyChain s)
    (hconnections : s'.connections = s.connections)
    (hmemory : s'.memory = s.memory)
    (howed : ∀ c (response : Response), response.status = .kOk →
      (s'.owed applyChain).count (c, response) ≤ (s.owed applyChain).count (c, response)) (c : ℕ) :
    Stream config.reader applyChain s'.memory (s'.owed applyChain) c (s'.connections c) := by
  rw [hconnections, hmemory]
  exact (h.stream c).step rfl (fun _ hplace => hplace) fun response hok =>
    Nat.add_le_add_left (howed c response hok) _

/-- A step that does not touch what the pixels depend on. -/
lemma Pixels.idle (h : Pixels config applyChain s) (hconnections : s'.connections = s.connections)
    (hmemory : s'.memory = s.memory) (hqueue : s'.queue.items = s.queue.items)
    (hworker : s'.worker = s.worker) (htable : s'.inFlight = s.inFlight)
    (hissued : s'.issued = s.issued) (hseen : s'.seen = s.seen) : Pixels config applyChain s' := by
  have howed : s'.owed applyChain = s.owed applyChain := by
    simp only [State.owed, hqueue, hworker, htable, hissued, hmemory]
  exact h.of_stream (h.stream_of_le hconnections hmemory fun _ _ _ => by rw [howed]) hissued htable
    hseen (by rw [hworker]) (fun _ _ => by rw [hmemory])

/-- A step of the worker that owes no more than before and leaves the completions alone. -/
lemma Pixels.worker (h : Pixels config applyChain s) (hconnections : s'.connections = s.connections)
    (hmemory : s'.memory = s.memory) (hissued : s'.issued = s.issued)
    (htable : s'.inFlight = s.inFlight) (hseen : s'.seen = s.seen)
    (hcompletions : s'.worker.completions = s.worker.completions)
    (howed : ∀ c (response : Response), response.status = .kOk →
      (s'.owed applyChain).count (c, response) ≤ (s.owed applyChain).count (c, response)) :
    Pixels config applyChain s' :=
  h.of_stream (h.stream_of_le hconnections hmemory howed) hissued htable hseen hcompletions
    fun _ _ => by rw [hmemory]

/-- The worker hands something to connection `c`, whose reader does not notice. -/
lemma Pixels.handOver (h : Pixels config applyChain s) {c : ℕ} {k : Connection}
    (hconnections : s'.connections = Function.update s.connections c k)
    (hconsumed : k.consumed = (s.connections c).consumed)
    (hreader : k.reader = (s.connections c).reader)
    (hcount : ∀ response : Response,
      k.popped.count response + k.outbox.items.count response
          + (s'.owed applyChain).count (c, response)
        ≤ (s.connections c).popped.count response + (s.connections c).outbox.items.count response
          + (s.owed applyChain).count (c, response))
    (hothers : ∀ c' ≠ c, ∀ response,
      (s'.owed applyChain).count (c', response) = (s.owed applyChain).count (c', response))
    (hmemory : s'.memory = s.memory) (hissued : s'.issued = s.issued)
    (htable : s'.inFlight = s.inFlight) (hseen : s'.seen = s.seen)
    (hcompletions : s'.worker.completions = s.worker.completions) :
    Pixels config applyChain s' := by
  refine h.of_stream ?_ hissued htable hseen hcompletions fun _ _ => by rw [hmemory]
  rw [hconnections, hmemory, Function.forall_update_iff _ (fun c' k' =>
    Stream config.reader applyChain s.memory (s'.owed applyChain) c' k')]
  refine ⟨(h.stream c).step hconsumed (fun _ hplace => ?_) fun response _ => hcount response,
    fun c' hne => (h.stream c').step rfl (fun _ hplace => hplace) fun response _ => ?_⟩
  · rw [hreader]
    exact hplace
  · rw [hothers c' hne]

/-! ## The backend -/

/-- A new handle finds its own job; the other handles find theirs. -/
lemma issuedJob_cons {issued : List (JobHandle × FrameJob)} {handle handle' : JobHandle}
    (job : FrameJob) (hne : handle' ≠ handle) :
    issuedJob ((handle, job) :: issued) handle' = issuedJob issued handle' := by
  rw [issuedJob, List.lookup_cons, beq_eq_false_iff_ne.mpr hne, issuedJob]

lemma issuedJob_self (issued : List (JobHandle × FrameJob)) (handle : JobHandle) (job : FrameJob) :
    issuedJob ((handle, job) :: issued) handle = some job := by
  rw [issuedJob, List.lookup_cons, beq_self_eq_true]

/-- **The submit of a frame.**  What the worker owed for the frame it owes for the new entry. -/
lemma Pixels.submit (h : Pixels config applyChain s) {frame : QueuedFrame} {handle : JobHandle}
    (place : s.worker = .submit frame) (fresh : handle ∉ s.issued.map Prod.fst)
    (hnew : ∀ entry ∈ s.inFlight, entry.1 ≠ handle) :
    Pixels config applyChain { s with
      worker := .poll
      inFlight := emplaceInFlight s.inFlight handle frame.entry
      issued := (handle, frame.job frame.slot) :: s.issued } := by
  refine ⟨h.stream_of_le rfl rfl fun c response hok => ?_, ?_, ?_, ?_, ?_, ?_, ?_⟩
  · have hrest :
        owedByTable applyChain s.memory ((handle, frame.job frame.slot) :: s.issued) s.inFlight = owedByTable applyChain s.memory s.issued s.inFlight := by
      refine List.filterMap_congr fun entry hentry => ?_
      rw [owedToEntry, issuedJob_cons _ (hnew entry hentry), ← owedToEntry]
    simp only [State.owed, place, WorkerPc.owed, emplaceInFlight_fresh hnew, List.count_append,
      count_owedByTable_cons, hrest, owedToEntry, issuedJob_self, Option.bind_some,
      QueuedFrame.owed, List.count_nil]
    omega
  · exact List.nodup_cons.mpr ⟨fresh, h.issued⟩
  · rw [emplaceInFlight_fresh hnew, List.map_cons, List.nodup_cons]
    refine ⟨fun hmem => ?_, h.table⟩
    obtain ⟨entry, hentry, heq⟩ := List.mem_map.mp hmem
    exact hnew entry hentry heq
  · rw [emplaceInFlight_fresh hnew]
    intro entry hentry
    rcases List.mem_cons.mp hentry with rfl | hentry
    · exact ⟨_, issuedJob_self .., rfl⟩
    · rw [issuedJob_cons _ (hnew entry hentry)]
      exact h.jobs entry hentry
  · exact fun snapshot hsnapshot => List.mem_cons_of_mem _ (h.seenIssued snapshot hsnapshot)
  · rw [emplaceInFlight_fresh hnew]
    intro snapshot hsnapshot entry hentry heq
    rcases List.mem_cons.mp hentry with rfl | hentry
    · have hold := h.seenIssued snapshot hsnapshot
      rw [← heq] at hold
      exact absurd hold fresh
    · exact h.seen snapshot hsnapshot entry hentry heq
  · intro completion hcompletion
    cases hcompletion

/-- **A read of the backend.**  Handles are issued once, so the job it reads is the one behind the
entry. -/
lemma Pixels.backendReads (h : Pixels config applyChain s) {handle : JobHandle} {job : FrameJob}
    {input : ℕ} (submitted : (handle, job) ∈ s.issued) (pointer : job.input = some input) :
    Pixels config applyChain { s with seen := (handle, s.memory input) :: s.seen } := by
  refine ⟨h.stream_of_le rfl rfl fun _ _ _ => le_rfl, h.issued, h.table, h.jobs, ?_, ?_, h.answers⟩
  · intro snapshot hsnapshot
    rcases List.mem_cons.mp hsnapshot with rfl | hsnapshot
    · exact List.mem_map_of_mem submitted
    · exact h.seenIssued snapshot hsnapshot
  · intro snapshot hsnapshot entry hentry heq
    rcases List.mem_cons.mp hsnapshot with rfl | hsnapshot
    · obtain ⟨job', hjob', hinput⟩ := h.jobs entry hentry
      rw [heq, issuedJob_of_mem h.issued submitted] at hjob'
      cases hjob'
      rw [pointer] at hinput
      cases hinput
      rfl
    · exact h.seen snapshot hsnapshot entry hentry heq

/-- **A poll.**  The pictures it brings are those of what the slots still hold. -/
lemma Pixels.poll (h : Pixels config applyChain s) {completions : List Completion}
    (place : s.worker = .poll) (allowed : s.Completes (pictureContract applyChain) completions) :
    Pixels config applyChain { s with
      worker := .retire completions
      completed := completions.map Completion.handle ++ s.completed } := by
  refine ⟨h.stream_of_le rfl rfl fun c response hok => ?_, h.issued, h.table, h.jobs,
    h.seenIssued, h.seen, ?_⟩
  · simp only [State.owed, place, WorkerPc.owed, le_refl]
  · intro completion hcompletion hok entry hentry heq
    obtain ⟨job, hjob, -⟩ := h.jobs entry hentry
    have hissued : (completion.handle, job) ∈ s.issued := heq ▸ mem_of_issuedJob hjob
    obtain ⟨bytes, hbytes, picture, hpicture, houtput⟩ :=
      allowed.kept completion hcompletion job hissued hok
    obtain ⟨snapshot, hsnapshot, hhandle, rfl⟩ := mem_seenBy hbytes
    rw [h.seen snapshot hsnapshot entry hentry (heq.trans hhandle.symm)] at hpicture
    exact ⟨job, picture, hjob, hpicture, houtput⟩

/-- The response to a completion is what its entry was owed, or a failure. -/
lemma Pixels.count_response (h : Pixels config applyChain s) {completion : Completion}
    (hcompletion : completion ∈ s.worker.completions) {job : InFlight}
    (hentry : (completion.handle, job) ∈ s.inFlight) (c : ℕ) {response : Response}
    (hok : response.status = .kOk) :
    [(job.connection, job.response completion)].count (c, response)
      ≤ (owedToEntry applyChain s.memory s.issued (completion.handle, job)).toList.count
        (c, response) := by
  cases hstatus : completion.status with
  | kOk =>
      obtain ⟨frameJob, picture, hjob, hpicture, houtput⟩ :=
        h.answers completion hcompletion hstatus _ hentry rfl
      simp only at hjob hpicture
      simp only [owedToEntry, hjob, Option.bind_some, InFlight.owed, hpicture, Option.map_some,
        Option.toList_some, InFlight.response, hstatus, houtput, okAnswer, le_refl]
  | kError =>
      simp only [InFlight.response, hstatus, count_failure _ c job hok, Nat.zero_le]

/-- **A completion taken off the table** with its entry. -/
lemma Pixels.retire (h : Pixels config applyChain s) {completion : Completion}
    {rest : List Completion} {job : InFlight} (place : s.worker = .retire (completion :: rest))
    (found : findInFlight s.inFlight completion.handle = some (completion.handle, job)) :
    Pixels config applyChain { s with
      worker := .handBack .release job (job.response completion) (.retire rest)
      inFlight := eraseInFlight s.inFlight completion.handle } := by
  have hperm := perm_eraseInFlight found
  have hentry : (completion.handle, job) ∈ s.inFlight := hperm.mem_iff.mpr List.mem_cons_self
  have hsub : ∀ entry ∈ eraseInFlight s.inFlight completion.handle, entry ∈ s.inFlight :=
    fun entry hmem => hperm.mem_iff.mpr (List.mem_cons_of_mem _ hmem)
  have hcompletions : ∀ completion' ∈ completion :: rest, completion' ∈ s.worker.completions := by
    rw [place]
    exact fun _ hmem => hmem
  refine ⟨h.stream_of_le rfl rfl fun c response hok => ?_, h.issued, ?_,
    fun entry hmem => h.jobs entry (hsub entry hmem), h.seenIssued,
    fun snapshot hsnapshot entry hmem => h.seen snapshot hsnapshot entry (hsub entry hmem),
    fun completion' hcompletion hok entry hmem => h.answers completion'
      (hcompletions _ (List.mem_cons_of_mem _ hcompletion)) hok entry (hsub entry hmem)⟩
  · have hresponse :=
      h.count_response (hcompletions completion List.mem_cons_self) hentry c hok
    simp only [State.owed, place, WorkerPc.owed, List.count_append, List.count_nil,
      count_owedByTable_erase applyChain s.memory s.issued found]
    omega
  · have hhandles := (hperm.map Prod.fst).nodup_iff.mp h.table
    exact (List.nodup_cons.mp hhandles).2

/-! ## The run -/

/-- **Every step keeps the pixels apart.** -/
theorem pixels_step (haccounts : Accounts s) (hcustody : Custody s) (h : Pixels config applyChain s)
    (hstep : Step config (pictureContract applyChain) s s') : Pixels config applyChain s' := by
  cases hstep with
  | accept listening => exact h.idle rfl rfl rfl rfl rfl rfl rfl
  | acceptorExit stopping => exact h.idle rfl rfl rfl rfl rfl rfl rfl
  | @silent c pc accepted place =>
      exact h.moveReader hcustody rfl rfl rfl rfl rfl rfl rfl rfl (fun _ _ => le_rfl)
        fun received hplace => silent_at hplace place
  | @recv c into remaining buffer outcome accepted place fits =>
      have hmemory : ∀ slot, (s.connections c).reader.heldSlot ≠ some slot →
          into.store buffer.length s.memory outcome slot = s.memory slot := by
        intro slot hheld
        rw [place] at hheld
        cases outcome with
        | data bytes =>
            cases into with
            | payload header chain slot' =>
                have hne : slot ≠ slot' := fun heq => hheld (by rw [heq]; rfl)
                simp only [ReadInto.store, Function.update_of_ne hne]
            | _ => rfl
        | _ => rfl
      let s' : State := { s.withConnection c { s.connections c with
          reader := .received into (remaining + 1) buffer outcome
          consumed := (s.connections c).consumed ++ outcome.bytes } with
        memory := into.store buffer.length s.memory outcome }
      have howed : s'.owed applyChain = s.owed applyChain :=
        owed_of_held applyChain hcustody (c := c) rfl rfl rfl rfl hmemory
      refine h.reader hcustody rfl ?_ hmemory (fun _ _ _ => by rw [howed]) rfl rfl rfl rfl
      exact (h.stream c).recv place fits fun _ => by rw [howed]
  | @respond c header status unread accepted place =>
      have hstatus : status ≠ .kOk := by
        obtain ⟨frames, received, -, hplace, -⟩ := h.stream c
        rw [place] at hplace
        exact hplace.1
      refine h.moveReader hcustody rfl rfl rfl rfl rfl rfl rfl rfl (fun response hok => ?_)
        fun received hplace => .inl ?_
      · rw [count_push]
        rintro rfl
        exact hstatus hok
      · rw [place] at hplace
        exact responded_at hplace
  | @claim c header chain slot pool accepted place claimed =>
      refine h.moveReader hcustody rfl rfl rfl rfl rfl rfl rfl rfl (fun _ _ => le_rfl)
        fun received hplace => .inl ?_
      rw [place] at hplace
      exact claimed_at slot hplace
  | @claimClosed c header chain pool accepted place closed =>
      exact h.moveReader hcustody rfl rfl rfl rfl rfl rfl rfl rfl (fun _ _ => le_rfl)
        fun _ _ => .inl trivial
  | @jobSubmitted c header chain slot accepted place =>
      refine h.moveReader hcustody rfl rfl rfl rfl rfl rfl rfl rfl (fun _ _ => le_rfl)
        fun received hplace => .inl ?_
      rw [place] at hplace
      exact hplace
  | @push c header chain slot queue accepted place pushed =>
      obtain ⟨-, hitems⟩ := BoundedQueue.push_true pushed
      let frame := queuedFrame c header chain slot
      let s' : State := { s.withConnection c { s.connections c with
          reader := .loopHead
          answered := (s.connections c).answered ++ [header.seqNum] } with
        queue := queue }
      have howed : ∀ c' response, (s'.owed applyChain).count (c', response)
          = (s.owed applyChain).count (c', response)
            + (frame.owed applyChain s.memory).toList.count (c', response) := by
        intro c' response
        simp only [s', State.owed, State.withConnection, hitems, List.count_append,
          count_owedByQueue_append, frame]
        omega
      have hother : ∀ c' ≠ c, ∀ response,
          (frame.owed applyChain s.memory).toList.count (c', response) = 0 := by
        intro c' hne response
        simp only [frame, QueuedFrame.owed, InFlight.owed, QueuedFrame.entry, queuedFrame]
        cases FrameJob.picture applyChain _ (s.memory slot) with
        | none => rfl
        | some picture => simp [hne.symm]
      exact h.reader hcustody rfl ((h.stream c).push place rfl rfl rfl rfl (howed c))
        (fun _ _ => rfl) (fun c' hne response => by rw [howed, hother c' hne, Nat.add_zero])
        rfl rfl rfl rfl
  | @pushClosed c header chain slot queue accepted place closed =>
      obtain ⟨-, rfl⟩ := BoundedQueue.push_false closed
      exact h.moveReader hcustody rfl rfl rfl rfl rfl rfl rfl rfl (fun _ _ => le_rfl)
        fun _ _ => .inl trivial
  | @pushFailed c slot accepted place =>
      refine h.moveReader hcustody rfl rfl rfl rfl rfl rfl rfl ?_ (fun response _ => ?_)
        fun _ _ => .inl trivial
      · simp [Connection.jobRetired]
      · simp [Connection.jobRetired]
  | @giveBack c slot pool accepted place released =>
      exact h.moveReader hcustody rfl rfl rfl rfl rfl rfl rfl rfl (fun _ _ => le_rfl)
        fun _ _ => .inl trivial
  | @giveBackThrows c slot error accepted place threw => exact h.idle rfl rfl rfl rfl rfl rfl rfl
  | @readerFinished c accepted place first =>
      refine h.moveReader hcustody rfl rfl rfl rfl rfl rfl rfl ?_ (fun response _ => ?_)
        fun received hplace => .inl ?_
      · simp [Connection.readerFinished]
      · simp [Connection.readerFinished]
      · simpa [Connection.readerFinished] using hplace
  | @connectionEnd c accepted done joined =>
      exact h.moveReader hcustody rfl rfl rfl rfl rfl rfl rfl rfl (fun _ _ => le_rfl)
        fun _ hplace => .inl hplace
  | @writerPop c response outbox accepted running popped =>
      obtain ⟨hitems, -⟩ := Outbox.pop_some popped
      refine h.moveReader hcustody rfl rfl rfl rfl rfl rfl rfl rfl (fun response' _ => ?_)
        fun _ hplace => .inl hplace
      simp only [hitems, List.count_append, List.count_cons, List.count_nil]
      omega
  | @writerExit c outbox accepted running drained =>
      obtain ⟨-, -, rfl⟩ := Outbox.pop_none drained
      exact h.moveReader hcustody rfl rfl rfl rfl rfl rfl rfl rfl (fun _ _ => le_rfl)
        fun _ hplace => .inl hplace
  | @workerPop frame queue place popped =>
      have hitems := BoundedQueue.tryPop_some (BoundedQueue.tryPop_of_either popped)
      refine h.worker rfl rfl rfl rfl rfl (by rw [place]; rfl) fun c response _ => ?_
      simp only [State.owed, place, hitems, WorkerPc.owed, List.count_append,
        count_owedByQueue_cons, List.count_nil]
      omega
  | @workerNoWork queue place busy empty =>
      obtain ⟨-, rfl⟩ := BoundedQueue.tryPop_none empty
      refine h.worker rfl rfl rfl rfl rfl (by rw [place]; rfl) fun c response _ => ?_
      simp only [State.owed, place, WorkerPc.owed, le_refl]
  | @workerExit queue place idle drained =>
      obtain ⟨-, rfl⟩ := BoundedQueue.tryPop_none (BoundedQueue.pop_eq_tryPop drained)
      refine h.worker rfl rfl rfl rfl rfl (by rw [place]; rfl) fun c response _ => ?_
      simp only [State.owed, place, WorkerPc.owed, le_refl]
  | @submit frame input handle place storage fresh =>
      have hinput : input = frame.slot := by
        simp only [SlotPool.slot] at storage
        split_ifs at storage
        exact (Except.ok.inj storage).symm
      subst hinput
      exact h.submit place fresh fun entry hentry heq =>
        fresh (heq ▸ haccounts.handles entry hentry)
  | @submitThrows frame input place storage =>
      refine h.worker rfl rfl rfl rfl rfl (by rw [place]; rfl) fun c response hok => ?_
      simp only [State.owed, place, WorkerPc.owed, List.count_append,
        count_failure frame.entry.connection c frame.entry hok]
      omega
  | @slotThrows frame error place threw => exact h.idle rfl rfl rfl rfl rfl rfl rfl
  | @backendReads handle job input submitted pending pointer =>
      exact h.backendReads submitted pointer
  | @poll completions place allowed => exact h.poll place allowed
  | @retireUnknown completion rest place missing =>
      refine ⟨h.stream_of_le rfl rfl fun c response hok => ?_, h.issued, h.table, h.jobs,
        h.seenIssued, h.seen, fun completion' hcompletion => h.answers completion' ?_⟩
      · simp only [State.owed, place, WorkerPc.owed, le_refl]
      · rw [place]
        exact List.mem_cons_of_mem _ hcompletion
  | @retire completion rest job handle place found =>
      obtain rfl : handle = completion.handle := by simpa using List.find?_some found
      exact h.retire place found
  | retired place =>
      refine h.worker rfl rfl rfl rfl rfl (by rw [place]; rfl) fun c response _ => ?_
      simp only [State.owed, place, WorkerPc.owed, le_refl]
  | @handBackRelease job response next pool place released =>
      refine h.worker rfl rfl rfl rfl rfl (by rw [place]; cases next <;> rfl)
        fun c response' _ => ?_
      simp only [State.owed, place, WorkerPc.owed, le_refl]
  | @handBackThrows job response next error place threw => exact h.idle rfl rfl rfl rfl rfl rfl rfl
  | @handBackPush job response next place =>
      have hjob : job ∈ s.jobs.unretired := by
        simp [State.jobs, State.collect, place, WorkerPc.held]
      have hopen := ((haccounts.ledger job.connection).open_of_job hjob).2
      -- The response leaves the worker's hands for the outbox of its own connection.
      refine h.handOver rfl rfl rfl (fun response' => ?_) (fun c hne response' => ?_) rfl rfl rfl
        rfl (by rw [place]; cases next <;> rfl)
      · simp only [State.withConnection, Outbox.push_open hopen, State.owed, place, WorkerPc.owed,
          List.count_append, List.count_nil, List.count_singleton, beq_iff_eq, Prod.mk.injEq,
          true_and]
        omega
      · simp [State.withConnection, State.owed, place, WorkerPc.owed, hne.symm]
  | @handBackRetired job response next place =>
      have howed : ∀ (connections : ℕ → Connection) answer,
          (({ s with connections := connections, worker := next.pc } : State).owed applyChain).count
            answer = (s.owed applyChain).count answer := by
        intro connections answer
        cases next <;> simp [State.owed, place, WorkerPc.owed, Resume.pc]
      refine h.handOver rfl ?_ ?_ (fun response' => ?_) (fun c _ response' => howed _ _) rfl rfl
        rfl rfl (by rw [place]; cases next <;> rfl)
      · simp [Connection.jobRetired]
      · simp [Connection.jobRetired]
      · exact (congrArg₂ _ (by simp [Connection.jobRetired]) (howed _ _)).le
  | stopCalled place => exact h.idle rfl rfl rfl rfl rfl rfl rfl
  | acceptorJoined place done => exact h.idle rfl rfl rfl rfl rfl rfl rfl
  | socketsShutDown place => exact h.idle rfl rfl rfl rfl rfl rfl rfl
  | slotsClosed place => exact h.idle rfl rfl rfl rfl rfl rfl rfl
  | connectionsJoined place finished => exact h.idle rfl rfl rfl rfl rfl rfl rfl
  | queueClosed place => exact h.idle rfl rfl rfl rfl rfl rfl rfl
  | workerJoined place exited => exact h.idle rfl rfl rfl rfl rfl rfl rfl

/-- The pixels are kept apart in every reachable state. -/
theorem pixels_of_reachable (h : (config.system (pictureContract applyChain)).Reachable s) :
    Pixels config applyChain s :=
  h.invariant (fun _ => pixels_of_started) fun _ _ hreach hpixels hstep =>
    pixels_step (accounts_of_reachable hreach) (accounts_of_reachable hreach).custody hpixels hstep

/-- **A response carries the pixels of a request of its own connection.**  The successful responses
the writer of `c` has taken are, with multiplicity, among those that the frames sent on `c` deserve:
each answers one frame, with that frame's sequence number and flags and `apply_chain` of that
frame's payload under its chain, and no two answer the same frame.  `apply_chain` may be any
function, exact or in float. -/
theorem responses_deserved (h : (config.system (pictureContract applyChain)).Reachable s) (c : ℕ) :
    ((s.connections c).popped.filter fun response => response.status = .kOk).Subperm
      ((requestFrames (s.connections c).consumed).filterMap
        (okResponse config.reader applyChain)) :=
  ((pixels_of_reachable h).stream c).deserved

/-- The one request of the run is answered with the picture that it deserves. -/
theorem responses_deserved_served :
    let cmath : CMath := ⟨id, id⟩
    (OneRequest.served.connections 1).popped = [okAnswer 7 kFlagEcho OneRequest.picture]
      ∧ ((OneRequest.served.connections 1).popped.filter
          fun response => response.status = .kOk).Subperm
        ((requestFrames (OneRequest.served.connections 1).consumed).filterMap
          (okResponse OneRequest.config.reader (Cpu.applyChain cmath))) := by
  intro cmath
  have hserved : (OneRequest.config.system (oracleContract cmath)).Reachable OneRequest.served :=
    OneRequest.served_reachable fun _ =>
      ⟨[10, 20, 30, 0], List.mem_singleton.mpr rfl, OneRequest.picture, by decide, rfl⟩
  exact ⟨rfl, responses_deserved hserved 1⟩

end Steps

end Imgjit
