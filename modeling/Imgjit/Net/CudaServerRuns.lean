import Imgjit.Net.CudaServer

/-!
# Every run of the server on its CUDA backend

What was proved of the server, for any backend that keeps the oracle's promise, holds on the CUDA
backend, with every interleaving of the threads, the driver and the streams.

The two sides have been looked at separately: the server against a contract, and the backend against
a device on which readers write to the slots of others.  Together they depend on each other.  The
backend's promise is about the bytes it finds in a slot, so it is worth something only if the
readers leave the slot of a job alone; and the readers do so only because the books of the server
say that the slot is taken, which they would not if the backend broke its promise.  One invariant
carries both.

* `Sound` — the invariant: the run of the backend up to the call in which the worker is, what has
  become of the device since, and on behalf of which jobs work is pending.
* `sound_step` — every step keeps it, and is a step of the books or none at all.
* `cudaServer_refines` — so every run is a run of the server on a backend that keeps its promise,
  and all that is known of such a server is known of this one.

The example serves one request with a kernel on the device.
-/

namespace Imgjit

open Interaction RelyGuarantee Cuda CudaBackend CudaServer

/-! ## The invariant -/

section Invariant

variable {config : ServerConfig} {cmath : CMath} {frames : JobHandle → FrameJob}

/-- What is pending belongs to a job on the books that is not completed, and is copied from its
slot. -/
def Attributed (frames : JobHandle → FrameJob) (issued : List (JobHandle × FrameJob))
    (completed : List JobHandle) (queues : ℕ → List QueuedOp) : Prop :=
  ∀ stream, ∀ item ∈ queues stream, item.frame ∉ completed
    ∧ (item.frame, frames item.frame) ∈ issued ∧ ∀ destination input bytes,
      item.op = .cuMemcpyHtoDAsync destination input bytes →
        (frames item.frame).input = some input

/-- The run of the backend, at the last moment at which the worker was on its own, and the books of
the server. -/
structure Booked (run : CudaRun cmath (gpu cmath frames)) (s : State) : Prop where
  reachable : (servedSystem cmath frames).Reachable run
  issued : run.submitted = s.issued
  completed : ∀ handle, handle ∈ s.completed ↔ handle ∈ run.deliveredHandles

/-- The worker is in `submit`. -/
structure Submitting (run : CudaRun cmath (gpu cmath frames)) (s : State)
    (before : CudaBackend cmath) (frame : QueuedFrame) (input : ℕ) : Prop where
  backend : run.backend = before
  place : s.worker = .submit frame
  slot : frame.slot = input
  job : frames before.nextHandle = frame.job input
  admitted : AdmittedChain (frame.job input).chain
  held : Held (fun slot => (run.driver.memory.slots slot).length) (frame.job input)

/-- Where the backend is between its last state on its own and the next one. -/
def Engine.At (run : CudaRun cmath (gpu cmath frames)) (s : State) (gpu : Gpu) :
    Engine cmath → Prop
  | idle backend => run.backend = backend ∧ Behind cmath frames run.driver gpu
  | submitting before frame input rest => Submitting run s before frame input
      ∧ ∃ turns, Underway run (CudaBackend.submit (frame.job input) turns)
        (OnBehalf before.nextHandle (frame.job input)) rest gpu
  | polling before rest => run.backend = before ∧ s.worker = .poll
      ∧ Underway run pollCompletions Aside rest gpu

/-- **The invariant.** -/
structure Sound (frames : JobHandle → FrameJob) (c : CudaServer cmath) : Prop where
  memory : c.server.memory = c.gpu.memory.slots
  seen : c.server.seen = c.gpu.memory.copied
  engine : ∃ run : CudaRun cmath (gpu cmath frames), Booked run c.server
    ∧ c.engine.At run c.server c.gpu
  attributed : Attributed frames c.account.issued c.server.completed c.gpu.device.queues

variable {run : CudaRun cmath (gpu cmath frames)} {c c' : CudaServer cmath} {s s' : State}

lemma Booked.inOrder (h : Booked run s) : InOrder run := reachable_inOrder (reachable_cuda h.reachable)

lemma Booked.safe (h : Booked run s) : Safe cmath frames run.driver := by
  rcases (reachable_inPixels h.reachable).working with ⟨sizes, owned, hworking⟩
  exact hworking.safe

/-- The next handle is a new one. -/
lemma Booked.fresh (h : Booked run s) :
    run.backend.nextHandle ∉ s.issued.map Prod.fst ∧ run.backend.nextHandle ∉ s.completed := by
  have hissued : run.backend.nextHandle ∉ run.issued :=
    fun hmem => absurd (h.inOrder.below _ hmem) (lt_irrefl _)
  constructor
  · rw [← h.issued]
    exact hissued
  · rw [h.completed]
    intro hmem
    exact hissued (h.inOrder.placed.subset (List.mem_append_right _ hmem))

/-- What is pending while the worker is on its own. -/
lemma Booked.attributed (h : Booked run s) :
    Attributed frames s.issued s.completed run.driver.device.queues := by
  have hpixels := reachable_inPixels h.reachable
  rcases hpixels.working with ⟨sizes, owned, hworking⟩
  intro stream item hitem
  rcases pending_submitted h.reachable hitem with ⟨hbusy, hsubmitted⟩
  refine ⟨?_, h.issued ▸ hsubmitted, ?_⟩
  · rw [h.completed]
    intro hdelivered
    have hnodup := h.inOrder.placed.nodup_iff.mpr h.inOrder.fresh
    exact (List.nodup_append.mp hnodup).2.2 _ (List.mem_append_left _ hbusy) _ hdelivered rfl
  · intro destination input bytes hop
    rcases hworking.ordered.queued stream item hitem with ⟨answer, hentry⟩
    have hnamed := hworking.ordered.log.named _ hentry
    rw [hop] at hnamed
    obtain ⟨job, hjob, hinput⟩ : ∃ job, (item.frame, job) ∈ run.submitted ∧ job.input = some input :=
      hnamed
    rwa [hpixels.submitted (item.frame, job) hjob]

lemma Attributed.suffix {issued : List (JobHandle × FrameJob)} {completed : List JobHandle}
    {queues queues' : ℕ → List QueuedOp} (h : Attributed frames issued completed queues)
    (hqueues : ∀ stream, queues' stream <:+ queues stream) :
    Attributed frames issued completed queues' :=
  fun stream item hitem => h stream item ((hqueues stream).subset hitem)

lemma Attributed.issue {issued issued' : List (JobHandle × FrameJob)} {completed : List JobHandle}
    {queues : ℕ → List QueuedOp} (h : Attributed frames issued completed queues)
    (hissued : ∀ entry ∈ issued, entry ∈ issued') : Attributed frames issued' completed queues := by
  intro stream item hitem
  rcases h stream item hitem with ⟨hpending, hjob, hinput⟩
  exact ⟨hpending, hissued _ hjob, hinput⟩

/-- **Nothing is ever performed that may not be.** -/
lemma Sound.safe (h : Sound frames c) : Safe cmath frames c.gpu := by
  rcases h.engine with ⟨run, hbooked, hat⟩
  cases hengine : c.engine with
  | idle backend =>
      rw [hengine] at hat
      exact hat.2.safe hbooked.safe
  | submitting before frame input rest =>
      rw [hengine] at hat
      rcases hat.2 with ⟨turns, hunderway⟩
      exact hunderway.safe
  | polling before rest =>
      rw [hengine] at hat
      exact hat.2.2.safe

/-- The rest of the server is none of its business. -/
lemma Engine.At.same {engine : Engine cmath} {gpu : Gpu} (h : engine.At run s gpu)
    (hworker : s'.worker = s.worker) : engine.At run s' gpu := by
  cases engine with
  | idle backend => exact h
  | submitting before frame input rest =>
      exact ⟨{ h.1 with place := hworker.trans h.1.place }, h.2⟩
  | polling before rest => exact ⟨h.1, hworker.trans h.2.1, h.2.2⟩

/-- The device gets on. -/
lemma Engine.At.later {engine : Engine cmath} {gpu gpu' : Gpu} (h : engine.At run s gpu)
    (hlater : ∀ g₀, Behind cmath frames g₀ gpu → Behind cmath frames g₀ gpu')
    (hworker : engine.At run s gpu → engine.At run s' gpu) : engine.At run s' gpu' := by
  have hat := hworker h
  cases engine with
  | idle backend => exact ⟨hat.1, hlater _ hat.2⟩
  | submitting before frame input rest =>
      rcases hat with ⟨hsubmitting, turns, hunderway⟩
      exact ⟨hsubmitting, turns, hunderway.later hlater⟩
  | polling before rest => exact ⟨hat.1, hat.2.1, hat.2.2.later hlater⟩

end Invariant

/-! ## The steps -/

section Steps

variable {config : ServerConfig} {cmath : CMath} {frames : JobHandle → FrameJob}
  {c c' : CudaServer cmath}

/-- What a step of the whole is to the books, and that it keeps the invariant. -/
structure Refined (config : ServerConfig) (frames : JobHandle → FrameJob)
    (c c' : CudaServer cmath) : Prop where
  steps : Relation.ReflTransGen (Imgjit.Step config (oracleContract cmath)) c.account c'.account
  sound : Sound frames c'

lemma exists_emplaceInFlight (table : List (JobHandle × InFlight)) (handle : JobHandle)
    (job : InFlight) : ∃ entry ∈ emplaceInFlight table handle job, entry.1 = handle := by
  unfold emplaceInFlight
  split
  · rename_i hany
    rcases List.any_eq_true.mp hany with ⟨entry, hentry, hhandle⟩
    exact ⟨entry, hentry, beq_iff_eq.mp hhandle⟩
  · exact ⟨(handle, job), List.mem_cons_self, rfl⟩

/-- The slot of the frame in hand is one of the pool. -/
lemma slot_of_booked {s : State} {handle : JobHandle} {frame : QueuedFrame} {input : ℕ}
    (h : (config.system (oracleContract cmath)).Reachable (booked s handle frame input))
    (hslot : frame.slot = input) (error : Exn) : s.pool.slot frame.slot ≠ .error error := by
  rcases exists_emplaceInFlight s.inFlight handle frame.entry with ⟨entry, hentry, rfl⟩
  rcases (pixels_of_reachable h).jobs entry hentry with ⟨job, hjob, hinput⟩
  rw [show (booked s entry.1 frame input).issued = (entry.1, frame.job input) :: s.issued from rfl,
    issuedJob_self] at hjob
  obtain rfl := Option.some.inj hjob
  obtain rfl : input = entry.2.slot := Option.some.inj hinput
  rcases List.getElem?_of_mem hentry with ⟨position, hposition⟩
  have hrange : entry.2.slot < s.pool.count := (accounts_of_reachable h).custody.inRange _
    (.inFlight position) ⟨entry, hposition, rfl⟩
  rw [hslot, SlotPool.slot, if_neg (not_le.mpr hrange)]
  intro herror
  cases herror

lemma refined_thread {s' : State}
    (hreach : (config.system (oracleContract cmath)).Reachable c.account) (h : Sound frames c)
    (hstep : Imgjit.Step config (oracleContract cmath) c.server s')
    (helse : Elsewhere c.server s') :
    Refined config frames c { c with
      server := s', gpu := { c.gpu with memory := { c.gpu.memory with slots := s'.memory } } } := by
  set c' : CudaServer cmath := { c with
    server := s', gpu := { c.gpu with memory := { c.gpu.memory with slots := s'.memory } } } with hc'
  rcases h.engine with ⟨run, hbooked, hat⟩
  rcases helse.books hstep with ⟨hissued, hcompleted⟩
  -- The books move with the server.
  have hbooks : Imgjit.Step config (oracleContract cmath) c.account c'.account
      ∧ (c'.account.issued = c.account.issued)
      ∧ (c.engine.At run c.server c.gpu → c.engine.At run s' c.gpu) := by
    cases hengine : c.engine with
    | idle backend =>
        simp only [account, hc', hengine, Engine.books]
        exact ⟨hstep, hissued, id⟩
    | submitting before frame input rest =>
        rw [hengine] at hat
        simp only [account, hengine, Engine.books] at hreach
        rcases helse.booked hat.1.place (slot_of_booked hreach hat.1.slot) hstep before.nextHandle
          input with ⟨hworker, hbookedStep⟩
        simp only [account, hc', hengine, Engine.books]
        refine ⟨hbookedStep, congrArg (List.cons (before.nextHandle, frame.job input)) hissued, ?_⟩
        rintro ⟨hsubmitting, hunderway⟩
        exact ⟨{ hsubmitting with place := hworker }, hunderway⟩
    | polling before rest =>
        simp only [account, hc', hengine, Engine.books]
        refine ⟨hstep, hissued, ?_⟩
        rintro ⟨hbackend, hworker, hunderway⟩
        refine ⟨hbackend, ?_, hunderway⟩
        rcases helse.worker with hsame | ⟨-, hpoll⟩
        · rw [hsame, hworker]
        · exact absurd hworker hpoll
  have hlengths : ∀ slot, (s'.memory slot).length = (c.gpu.memory.slots slot).length := by
    intro slot
    have hbefore := (vetted_of_reachable hreach).memory slot
    have hafter := (vetted_of_reachable (hreach.step hbooks.1)).memory slot
    rw [account, Engine.books_memory] at hbefore hafter
    rw [← h.memory, hbefore]
    exact hafter
  refine ⟨.single hbooks.1, ⟨rfl, ?_, ⟨run, ?_, ?_⟩, ?_⟩⟩
  · exact helse.seen.trans h.seen
  · exact ⟨hbooked.reachable, hbooked.issued.trans hissued.symm,
      fun handle => by rw [show c'.server.completed = s'.completed from rfl, hcompleted,
        hbooked.completed]⟩
  · exact hat.later (fun g₀ hbehind => hbehind.outside hlengths) hbooks.2.2
  · rw [hbooks.2.1, show c'.server.completed = s'.completed from rfl, hcompleted]
    exact h.attributed

lemma refined_submit {backend : CudaBackend cmath} {frame : QueuedFrame} {input : ℕ}
    (hreach : (config.system (oracleContract cmath)).Reachable c.account) (h : Sound frames c)
    (turns : ℕ) (hidle : c.engine = .idle backend) (hplace : c.server.worker = .submit frame)
    (hstorage : c.server.pool.slot frame.slot = .ok input)
    (hjob : frames backend.nextHandle = frame.job input) :
    Refined config frames c { c with
      engine := .submitting backend frame input
        (CudaBackend.submit (frame.job input) turns backend) } := by
  have haccount : c.account = c.server := by simp only [account, hidle, Engine.books]
  rcases h.engine with ⟨run, hbooked, hat⟩
  rw [hidle] at hat
  rcases hat with ⟨rfl, hbehind⟩
  have hattributed := h.attributed
  rw [haccount] at hreach hattributed
  have hvetted := (vetted_of_reachable hreach).worker frame hplace
  have hslot : frame.slot = input := by
    simp only [SlotPool.slot] at hstorage
    split_ifs at hstorage
    exact Except.ok.inj hstorage
  have hadmitted : AdmittedChain (frame.job input).chain := hvetted.admitted
  have hheld : Held (fun slot => (run.driver.memory.slots slot).length) (frame.job input) := by
    intro other _ hshaped
    show _ ≤ (run.driver.memory.slots other).length
    rw [← hbehind.sizes hbooked.safe other, ← h.memory,
      (vetted_of_reachable hreach).memory other]
    exact hvetted.fits hshaped
  rcases (reachable_inPixels hbooked.reachable).working with ⟨sizes, owned, hworking⟩
  have hthroughout : Routine.throughout (gpu cmath frames) (Safe cmath frames)
      (CudaBackend.submit (frame.job input) turns) run.backend run.driver := by
    have hheld' : Held sizes (frame.job input) := fun other hinput hshaped =>
      (hheld other hinput hshaped).trans (hworking.painted.sizes other).le
    rw [← hjob] at hadmitted hheld' ⊢
    exact submit_throughout hbooked.inOrder.wellFormed hworking hadmitted hheld' turns
  refine ⟨?_, ⟨h.memory, h.seen, ⟨run, hbooked, ?_⟩, ?_⟩⟩
  · rw [haccount]
    exact .single (.submit hplace hstorage hbooked.fresh.1)
  · exact ⟨⟨rfl, hplace, hslot, hjob, hadmitted, hheld⟩, turns,
      .start hbehind hthroughout (submit_onBehalf run.backend turns)⟩
  · exact hattributed.issue fun _ => List.mem_cons_of_mem _

lemma refined_poll {backend : CudaBackend cmath} (h : Sound frames c)
    (hidle : c.engine = .idle backend) (hplace : c.server.worker = .poll) :
    Refined config frames c { c with engine := .polling backend (pollCompletions backend) } := by
  have haccount : c.account = c.server := by simp only [account, hidle, Engine.books]
  rcases h.engine with ⟨run, hbooked, hat⟩
  rw [hidle] at hat
  rcases hat with ⟨rfl, hbehind⟩
  have hattributed := h.attributed
  rw [haccount] at hattributed
  refine ⟨?_, ⟨h.memory, h.seen, ⟨run, hbooked, rfl, hplace, ?_⟩, hattributed⟩⟩
  · rw [haccount]
    exact .refl
  · exact .start hbehind (pollCompletions_throughout hbooked.safe) (pollCompletions_aside _)

/-- The driver and the device move on, and may look at an input. -/
lemma refined_share {engine : Engine cmath} {gpu' : Gpu} (h : Sound frames c)
    (hbooks : ∀ s, engine.books s = c.engine.books s)
    (hslots : gpu'.memory.slots = c.gpu.memory.slots)
    (hcopied : gpu'.memory.copied = c.gpu.memory.copied ∨ ∃ handle slot job,
      (handle, job) ∈ c.account.issued ∧ handle ∉ c.server.completed ∧ job.input = some slot
        ∧ gpu'.memory.copied = (handle, c.gpu.memory.slots slot) :: c.gpu.memory.copied)
    (hat : ∀ run : CudaRun cmath (gpu cmath frames), c.engine.At run c.server c.gpu →
      engine.At run c.server gpu')
    (hattributed : Attributed frames c.account.issued c.server.completed gpu'.device.queues) :
    Refined config frames c (c.share engine gpu') := by
  have haccount : (c.share engine gpu').account
      = { c.account with memory := c.gpu.memory.slots, seen := gpu'.memory.copied } := by
    rw [account, account, ← hslots]
    refine (hbooks _).trans ?_
    exact c.engine.books_share c.server _ _
  have hmemory : c.account.memory = c.gpu.memory.slots := by
    rw [account, Engine.books_memory, h.memory]
  have hseen : c.account.seen = c.gpu.memory.copied := by
    rw [account, Engine.books_seen, h.seen]
  rcases h.engine with ⟨run, hbooked, hengine⟩
  refine ⟨?_, ⟨rfl, rfl, ⟨run, ⟨hbooked.reachable, hbooked.issued, hbooked.completed⟩, ?_⟩, ?_⟩⟩
  · rw [haccount]
    rcases hcopied with hcopied | ⟨handle, slot, job, hissued, hcompleted, hinput, hcopied⟩
    · rw [hcopied, ← hmemory, ← hseen]
    · rw [hcopied, ← hmemory, ← hseen]
      refine .single (.backendReads hissued ?_ hinput)
      rw [account, Engine.books_completed]
      exact hcompleted
  · exact (hat run hengine).same rfl
  · rw [haccount]
    exact hattributed

lemma refined_device {stream : ℕ} {item : QueuedOp} {rest : List QueuedOp} {memory : Memory}
    (h : Sound frames c) (hfront : c.gpu.device.queues stream = item :: rest)
    (hstep : (machine cmath frames).step item c.gpu.memory memory)
    (hhistory : c.gpu.memory.copied <:+ memory.copied) :
    Refined config frames c (c.share c.engine
      { device := { c.gpu.device with queues := Function.update c.gpu.device.queues stream rest }
        memory := memory }) := by
  have hitem : item ∈ c.gpu.device.queues stream := by
    rw [hfront]
    exact List.mem_cons_self
  rcases effect_slots (hstep (h.safe.front hfront)) with ⟨hslots, hcopied⟩
  refine refined_share h (fun _ => rfl) hslots ?_ ?_ ?_
  · rcases hcopied with hcopied | ⟨destination, slot, bytes, hop, hcopied⟩
    · exact .inl hcopied
    · rcases h.attributed stream item hitem with ⟨hpending, hissued, hinput⟩
      exact .inr ⟨item.frame, slot, frames item.frame, hissued, hpending,
        hinput destination slot bytes hop, hcopied⟩
  · exact fun run hat =>
      hat.later (fun g₀ hbehind => hbehind.performed hfront hstep hhistory) id
  · refine h.attributed.suffix fun other => ?_
    show Function.update c.gpu.device.queues stream rest other <:+ _
    by_cases hother : other = stream
    · subst hother
      rw [Function.update_self, hfront]
      exact List.suffix_cons item rest
    · rw [Function.update_of_ne hother]

/-- What is queued on behalf of a frame that is on the books. -/
lemma Attributed.answered {issued : List (JobHandle × FrameJob)} {completed : List JobHandle}
    {gpu gpu' : Gpu} {call : DriverCall} {answer : DriverAnswer call} {frame : JobHandle}
    {job : FrameJob} (h : Attributed frames issued completed gpu.device.queues)
    (hanswers : gpu.Answers call answer gpu') (hcall : OnBehalf frame job call)
    (hjob : frames frame = job) (hissued : (frame, job) ∈ issued) (hpending : frame ∉ completed) :
    Attributed frames issued completed gpu'.device.queues := by
  rcases hanswers.device.queues with hsuffix | ⟨stream, other, op, rfl, hqueues⟩
  · exact h.suffix hsuffix
  · rcases hcall with ⟨rfl, hinput⟩
    intro stream' item hitem
    rw [hqueues, Device.push] at hitem
    by_cases hother : stream' = stream
    · subst hother
      rw [Function.update_self] at hitem
      rcases List.mem_append.mp hitem with hitem | hitem
      · exact h stream' item hitem
      · rw [List.mem_singleton.mp hitem]
        subst hjob
        exact ⟨hpending, hissued, hinput⟩
    · rw [Function.update_of_ne hother] at hitem
      exact h stream' item hitem

lemma refined_submitAnswered {before : CudaBackend cmath} {frame : QueuedFrame} {input : ℕ}
    {call : DriverCall} {next : DriverAnswer call → Prog DriverCall DriverAnswer _}
    {answer : DriverAnswer call} {gpu' : Gpu} (h : Sound frames c)
    (hengine : c.engine = .submitting before frame input (.ask call next))
    (hanswers : c.gpu.Answers call answer gpu') :
    Refined config frames c (c.share (.submitting before frame input (next answer)) gpu') := by
  rcases h.engine with ⟨run, hbooked, hat⟩
  rw [hengine] at hat
  rcases hat with ⟨hsubmitting, turns, hunderway⟩
  have hissued : (before.nextHandle, frame.job input) ∈ c.account.issued := by
    rw [account, hengine]
    exact List.mem_cons_self
  have hpending : before.nextHandle ∉ c.server.completed := by
    rw [← hsubmitting.backend]
    exact hbooked.fresh.2
  have hcall := (hunderway.answered hanswers).1
  rcases hanswers.memory.slots with ⟨hslots, hcopied⟩
  refine refined_share h (fun s => by rw [hengine]; rfl) hslots ?_ ?_ ?_
  · rcases hcopied with hcopied | ⟨other, slot, bytes, rfl, hcopied⟩
    · exact .inl hcopied
    · rcases hcall with ⟨rfl, hinput⟩
      exact .inr ⟨before.nextHandle, slot, frame.job input, hissued, hpending, hinput, hcopied⟩
  · rintro run' hat'
    rw [hengine] at hat'
    rcases hat' with ⟨hsubmitting', turns', hunderway'⟩
    exact ⟨hsubmitting', turns', (hunderway'.answered hanswers).2⟩
  · exact h.attributed.answered hanswers hcall hsubmitting.job hissued hpending

lemma refined_pollAnswered {before : CudaBackend cmath} {call : DriverCall}
    {next : DriverAnswer call → Prog DriverCall DriverAnswer _} {answer : DriverAnswer call}
    {gpu' : Gpu} (h : Sound frames c) (hengine : c.engine = .polling before (.ask call next))
    (hanswers : c.gpu.Answers call answer gpu') :
    Refined config frames c (c.share (.polling before (next answer)) gpu') := by
  rcases h.engine with ⟨run, hbooked, hat⟩
  rw [hengine] at hat
  have hcall : Aside call := (hat.2.2.answered hanswers).1
  rcases hanswers.memory.slots with ⟨hslots, hcopied⟩
  refine refined_share h (fun s => by rw [hengine]; rfl) hslots (.inl ?_) ?_ ?_
  · rcases hcopied with hcopied | ⟨other, slot, bytes, rfl, -⟩
    · exact hcopied
    · exact hcall.elim
  · rintro run' hat'
    rw [hengine] at hat'
    exact ⟨hat'.1, hat'.2.1, (hat'.2.2.answered hanswers).2⟩
  · rcases hanswers.device.queues with hsuffix | ⟨stream, other, op, rfl, -⟩
    · exact h.attributed.suffix hsuffix
    · exact hcall.elim

/-! ## The calls of the worker return -/

lemma refined_submitted {before after : CudaBackend cmath} {frame : QueuedFrame} {input : ℕ}
    {result : Except Exn JobHandle} (h : Sound frames c)
    (hengine : c.engine = .submitting before frame input (.done (result, after))) :
    result = .ok before.nextHandle ∧ Refined config frames c { c with
      server := booked c.server before.nextHandle frame input, engine := .idle after } := by
  rcases h.engine with ⟨run, hbooked, hat⟩
  rw [hengine] at hat
  rcases hat with ⟨hsubmitting, turns, hunderway⟩
  obtain rfl := hsubmitting.backend
  rcases hunderway.returned with ⟨g₀, hreturns, hbehind⟩
  have hsubmitted : Submitted run.backend result after :=
    Prog.wp_iff_returns.mp (submit_submitted hbooked.inOrder.wellFormed _ turns) _ _ hreturns
  obtain rfl := hsubmitted.result
  have hadmitted := hsubmitting.admitted
  have hheld := hsubmitting.held
  rw [← hsubmitting.job] at hreturns hadmitted hheld
  have hreach := hbooked.reachable.step (.submit turns hadmitted hheld hreturns)
  set run' : CudaRun cmath (gpu cmath frames) := { run with
    backend := after, driver := g₀
    submitted := (run.backend.nextHandle, frames run.backend.nextHandle) :: run.submitted }
  have hbooked' : Booked run' (booked c.server run.backend.nextHandle frame input) := by
    refine ⟨hreach, ?_, hbooked.completed⟩
    show _ :: run.submitted = _ :: c.server.issued
    rw [hsubmitting.job, hbooked.issued]
  refine ⟨rfl, ⟨?_, ⟨h.memory, h.seen, ⟨run', hbooked', rfl, hbehind⟩, ?_⟩⟩⟩
  · rw [account, hengine]
    exact .refl
  · exact hbooked'.attributed.suffix hbehind.queues

lemma refined_polled {before after : CudaBackend cmath}
    {result : Except Exn (List Completion)} (h : Sound frames c)
    (hengine : c.engine = .polling before (.done (result, after))) :
    ∃ completions, result = .ok completions ∧ Refined config frames c { c with
      server := { c.server with
        worker := .retire completions
        completed := completions.map Completion.handle ++ c.server.completed }
      engine := .idle after } := by
  rcases h.engine with ⟨run, hbooked, hat⟩
  rw [hengine] at hat
  rcases hat with ⟨rfl, hworker, hunderway⟩
  rcases hunderway.returned with ⟨g₀, hreturns, hbehind⟩
  have hpolled : Polled run.backend result after :=
    Prog.wp_iff_returns.mp (pollCompletions_polled hbooked.inOrder.wellFormed) _ _ hreturns
  rcases hpolled.delivered with ⟨completions, rfl, hperm⟩
  have hreach := hbooked.reachable.step (.poll hreturns)
  set run' : CudaRun cmath (gpu cmath frames) := { run with
    backend := after, driver := g₀, delivered := run.delivered ++ completions } with hrun'
  have hbooked' : Booked run' { c.server with
      worker := .retire completions
      completed := completions.map Completion.handle ++ c.server.completed } := by
    refine ⟨hreach, hbooked.issued, ?_⟩
    intro handle
    simp only [hrun', CudaRun.deliveredHandles, List.map_append, List.mem_append]
    rw [hbooked.completed, CudaRun.deliveredHandles]
    exact or_comm
  have hallowed : c.server.Completes (oracleContract cmath) completions := by
    have hplaced := (hbooked'.inOrder.placed.nodup_iff.mpr hbooked'.inOrder.fresh)
    simp only [hrun', CudaRun.deliveredHandles, List.map_append, List.nodup_append] at hplaced
    refine ⟨hplaced.2.1.2.1, ?_, ?_⟩
    · intro completion hmem hcompleted
      exact hplaced.2.1.2.2 _ ((hbooked.completed _).mp hcompleted) _
        (List.mem_map_of_mem hmem) rfl
    · intro completion hmem job hjob
      have hpixels := reachable_inPixels hreach
      have hdeserved := (hpixels.delivered completion (List.mem_append_right _ hmem)).grow
        hbehind.copied
      rw [Deserved, hpixels.submitted (completion.handle, job) (hbooked.issued ▸ hjob)] at hdeserved
      rw [h.seen]
      exact hdeserved
  refine ⟨completions, rfl, ⟨?_, ⟨h.memory, h.seen, ⟨run', hbooked', rfl, hbehind⟩, ?_⟩⟩⟩
  · rw [account, hengine]
    exact .single (.poll hworker hallowed)
  · exact hbooked'.attributed.suffix hbehind.queues

/-- **Every step keeps the invariant**, and is nothing else than a step of the books. -/
theorem sound_step (hreach : (config.system (oracleContract cmath)).Reachable c.account)
    (h : Sound frames c) (hstep : CudaServer.Step config cmath frames c c') :
    Refined config frames c c' := by
  cases hstep with
  | thread step elsewhere => exact refined_thread hreach h step elsewhere
  | submit turns idle place storage job => exact refined_submit hreach h turns idle place storage job
  | poll idle place => exact refined_poll h idle place
  | submitAnswered engine answers => exact refined_submitAnswered h engine answers
  | pollAnswered engine answers => exact refined_pollAnswered h engine answers
  | device front step history => exact refined_device h front step history
  | submitted engine =>
      rcases refined_submitted h engine with ⟨hresult, hrefined⟩
      obtain rfl := Except.ok.inj hresult
      exact hrefined
  | submitThrew engine =>
      have hreturned : _ ∧ Refined config frames c _ := refined_submitted h engine
      cases hreturned.1
  | polled engine =>
      rcases refined_polled h engine with ⟨completions, hresult, hrefined⟩
      obtain rfl := Except.ok.inj hresult
      exact hrefined
  | pollThrew engine =>
      have hreturned : ∃ _, _ ∧ Refined config frames c _ := refined_polled h engine
      rcases hreturned with ⟨completions, hresult, -⟩
      cases hresult

lemma sound_of_started (h : CudaServer.Started config frames c) :
    Imgjit.Started config c.account ∧ Sound frames c := by
  rcases h.backend with ⟨run, hreach, hsubmitted, hdelivered, hengine, hgpu⟩
  have haccount : c.account = c.server := by simp only [account, hengine, Engine.books]
  have hbooked : Booked run c.server := by
    refine ⟨hreach, by rw [hsubmitted, h.server.issued], ?_⟩
    intro handle
    rw [h.server.completed, CudaRun.deliveredHandles, hdelivered]
    rfl
  rw [haccount]
  refine ⟨h.server, ⟨h.memory, h.seen, ⟨run, hbooked, ?_⟩, ?_⟩⟩
  · rw [hengine, hgpu]
    exact ⟨rfl, .refl _⟩
  · rw [haccount, hgpu]
    exact hbooked.attributed

/-- The books of a run, and the invariant. -/
theorem sound_of_reachable (h : (CudaServer.system config cmath frames).Reachable c) :
    (config.system (oracleContract cmath)).Reachable c.account ∧ Sound frames c := by
  have hinit : ∀ c : CudaServer cmath, CudaServer.Started config frames c →
      Imgjit.Started config c.account ∧ Sound frames c := fun _ => sound_of_started
  have hstep : ∀ c c' : CudaServer cmath,
      (config.system (oracleContract cmath)).Reachable c.account → Sound frames c →
      CudaServer.Step config cmath frames c c' →
      Relation.ReflTransGen (Imgjit.Step config (oracleContract cmath)) c.account c'.account
        ∧ Sound frames c' := by
    intro c c' hreach hsound hstep
    have hrefined := sound_step hreach hsound hstep
    exact ⟨hrefined.steps, hrefined.sound⟩
  exact h.simulates hinit hstep

/-- No kernel of a frame within the limit overflows, if the limit is below `2 ^ 31 - 42` bytes. -/
lemma addressable_of_limit {job : FrameJob} (hlimit : config.maxPayloadBytes.toNat ≤ 2 ^ 31 - 43)
    (h : WithinLimit config job.width job.height job.channels) : AddressableJob job := by
  intro image hframe
  have hbytes : image.byteCount ≤ 2 ^ 31 - 43 := by
    rw [byteCount_of_frame hframe]
    exact (h hframe.shaped).trans hlimit
  rw [Image.byteCount_eq, Image.stride] at hbytes
  have hwidth := image.width_pos
  have hheight := image.height_pos
  have hchannels : 0 < image.channels := by
    rcases image.supported with h | h | h <;> omega
  have hcolumns : image.width ≤ image.width * image.channels * image.height := by
    rw [Nat.mul_assoc]
    exact Nat.le_mul_of_pos_right _ (Nat.mul_pos hchannels hheight)
  have hrows : image.height ≤ image.width * image.channels * image.height :=
    Nat.le_mul_of_pos_left _ (Nat.mul_pos hwidth hchannels)
  have hsamples : image.width * image.height * image.channels
      = image.width * image.channels * image.height := Nat.mul_right_comm _ _ _
  exact ⟨by omega, by omega, by omega⟩

/-- The next operation on each stream may be performed, and does not overflow. -/
lemma Sound.front (h : Sound frames c)
    (hreach : (config.system (oracleContract cmath)).Reachable c.account)
    (hlimit : config.maxPayloadBytes.toNat ≤ 2 ^ 31 - 43) {stream : ℕ} {item : QueuedOp}
    {rest : List QueuedOp} (hfront : c.gpu.device.queues stream = item :: rest) :
    Cuda.Ready cmath frames item c.gpu.memory ∧ NoOverflow cmath frames item c.gpu.memory := by
  have hready := h.safe.front hfront
  have hissued := (h.attributed stream item (hfront ▸ List.mem_cons_self)).2.1
  have hwithin := (vetted_of_reachable hreach).issued _ hissued
  exact ⟨hready, hready.noOverflow (addressable_of_limit hlimit hwithin)⟩

/-- **The server is right on its CUDA backend**, with exact floats and a payload limit below
`2 ^ 31 - 42` bytes (the default is 8 MiB), whatever the threads, the driver and the streams do in
between.  A run of the whole is a run of the server on a backend that keeps the oracle's promise; no
thread is ended by an exception, no stream comes to an operation that may not be performed, and no
integer of a kernel overflows.  The successful responses that the writer of a connection has taken
are, with multiplicity, those that the bytes its client has sent deserve. -/
theorem cudaServer_refines (hlimit : config.maxPayloadBytes.toNat ≤ 2 ^ 31 - 43)
    (h : (CudaServer.system config cmath frames).Reachable c) :
    (config.system (oracleContract cmath)).Reachable c.account
      ∧ c.server.terminated = none
      ∧ (∀ stream item rest, c.gpu.device.queues stream = item :: rest →
        Cuda.Ready cmath frames item c.gpu.memory ∧ NoOverflow cmath frames item c.gpu.memory)
      ∧ ∀ k, ((c.server.connections k).popped.filter fun response => response.status = .kOk).Subperm
        ((requestFrames (c.server.connections k).consumed).filterMap
          (okResponse config.reader (Cpu.applyChain cmath))) := by
  rcases sound_of_reachable h with ⟨haccount, hsound⟩
  refine ⟨haccount, ?_, fun _ _ _ => hsound.front haccount hlimit, ?_⟩
  · rw [← c.engine.books_terminated]
    exact (accounts_of_reachable haccount).custody.alive
  · intro k
    rw [← c.engine.books_connections]
    exact ((pixels_of_reachable haccount).stream k).deserved

end Steps

/-! ## One request, served by the device -/

namespace PaintedRequest

open FilteredFrame

/-- Every job is the one of the request. -/
def frames : JobHandle → FrameJob := fun _ => OneRequest.frame.job 0

/-- The server, with memory on the bench. -/
def world (s : State) (engine : Engine plainMath) (b : Bench) : CudaServer plainMath where
  server := { s with memory := b.memory.slots, seen := b.memory.copied }
  engine := engine
  gpu := b.gpu

/-- A state that the server can reach on its CUDA backend. -/
def Reaches (c : CudaServer plainMath) : Prop :=
  (CudaServer.system OneRequest.config plainMath frames).Reachable c

variable {s s' : State} {engine : Engine plainMath} {b b' : Bench}

lemma frames_size (frame : JobHandle) : (frames frame).width = 1 ∧ (frames frame).height = 1 :=
  ⟨rfl, rfl⟩

lemma thread_run (h : Reaches (world s engine b))
    (hstep : Imgjit.Step OneRequest.config (oracleContract plainMath) (world s engine b).server
      (world s' engine b).server)
    (hworker : s'.worker = s.worker ∨ (∀ frame, s.worker ≠ .submit frame) ∧ s.worker ≠ .poll) :
    Reaches (world s' engine b) := h.step (.thread hstep ⟨hworker, rfl⟩)

/-- The stream gets its work done. -/
lemma drain_run (queue : List QueuedOp) (m : Memory)
    (h : Reaches (world s engine { b with queue := queue, memory := m })) :
    Reaches (world s engine { b with queue := [], memory := drain queue m }) := by
  induction queue generalizing m with
  | nil => exact h
  | cons item rest ih =>
      refine ih (perform item m) ?_
      have hdone : Reaches ((world s engine { b with queue := item :: rest, memory := m }).share engine
          { device := { b.gpu.device with
              queues := Function.update (fun stream => if stream = 0 then item :: rest else []) 0 rest }
            memory := perform item m }) :=
        h.step (.device rfl (perform_step frames_size item m) (copied_perform item m))
      rw [update_front] at hdone
      exact hdone

/-- A call of the worker, with the answers of the bench. -/
lemma call_run {α : Type} {resume : Prog DriverCall DriverAnswer α → Engine plainMath}
    (hresume : ∀ (c : CudaServer plainMath) call next answer gpu', c.engine = resume (.ask call next) →
      c.gpu.Answers call answer gpu' →
      CudaServer.Step OneRequest.config plainMath frames c (c.share (resume (next answer)) gpu'))
    {prog : Prog DriverCall DriverAnswer α} {value : α}
    (heval : prog.eval Bench.answer b = some (value, b'))
    (h : Reaches (world s (resume prog) b)) : Reaches (world s (resume (.done value)) b') := by
  induction prog generalizing b with
  | done value =>
      cases heval
      exact h
  | ask call next ih =>
      have hready : Reaches (world s (resume (.ask call next)) (b.ready call)) := by
        cases call with
        | cuEventQuery event => exact drain_run b.queue b.memory h
        | cuEventSynchronize event => exact drain_run b.queue b.memory h
        | _ => exact h
      have hstep := hresume (world s (resume (.ask call next)) (b.ready call)) call next
        (b.answer call).1 (b.answer call).2.gpu rfl (answer_answers b call)
      exact ih _ heval (hready.step hstep)
  | spin => cases heval

/-- A bench with frame slots of four bytes. -/
def bench : Bench := { memory := { slots := fun _ => [0, 0, 0, 0] } }

/-- The payload has been received. -/
def receive (b : Bench) : Bench :=
  let into := ReadInto.payload OneRequest.header OneRequest.chain 0
  { b with memory.slots := into.store 0 b.memory.slots (.data OneRequest.payload) }

/-- A slot is built, the frame is received and submitted, and its completion is polled. -/
def painted : Option (Bench × Except Exn JobHandle × Except Exn (List Completion)) :=
  (onBench (allocateSlots 1 4) backend bench).bind fun managed =>
    (onBench (submit (OneRequest.frame.job 0) 1) managed.1.2 (receive managed.2)).bind
      fun submitted => (onBench pollCompletions submitted.1.2 submitted.2).map
        fun polled => (managed.2, submitted.1.1, polled.1.1)

lemma painted_shown :
    painted.map (fun run => (run.1.memory.copied, run.2.1.toOption, run.2.2.toOption))
      = some ([], some 1, some [OneRequest.completion]) := by
  decide +kernel

/-- One `recv` of connection 1 that yields everything. -/
lemma received_run {into : ReadInto} {bytes : List UInt8} {b' : Bench} {backend : CudaBackend plainMath}
    (h : Reaches (world s (.idle backend) b)) (haccepted : s.Accepted 1)
    (place : (s.connections 1).reader = .reading into bytes.length []) (hne : bytes ≠ [])
    (hslots : b' = { b with memory.slots := into.store 0 b.memory.slots (.data bytes) }) :
    Reaches (world (OneRequest.received 1 s into bytes) (.idle backend) b') := by
  subst hslots
  exact h.step (.thread (OneRequest.received_step haccepted place hne) ⟨.inl rfl, rfl⟩)

/-- The worker has the frame in its hands. -/
lemma popped_run {backend : CudaBackend plainMath}
    (h : Reaches (world OneRequest.started (.idle backend) b)) :
    Reaches (world OneRequest.popped (.idle backend) (receive b)) := by
  have haccepted : OneRequest.accepted.Accepted 1 := ⟨le_rfl, Nat.lt_add_one 1⟩
  have haccept : Reaches (world OneRequest.accepted (.idle backend) b) :=
    thread_run h (.accept rfl) (.inl rfl)
  have hheader : Reaches (world (OneRequest.headerRead 1 OneRequest.accepted) (.idle backend) b) :=
    received_run (thread_run haccept (.silent haccepted rfl) (.inl rfl)) haccepted rfl (by decide) rfl
  have hchain : Reaches (world (OneRequest.chainRead 1 OneRequest.accepted) (.idle backend) b) :=
    received_run (thread_run hheader (.silent haccepted rfl) (.inl rfl)) haccepted rfl (by decide) rfl
  have hclaiming : Reaches (world (OneRequest.claiming 1 OneRequest.accepted) (.idle backend) b) :=
    thread_run hchain (.silent haccepted rfl) (.inl rfl)
  have hclaimed : Reaches (world OneRequest.claimed (.idle backend) b) :=
    thread_run hclaiming (.claim haccepted rfl rfl) (.inl rfl)
  have hpayload : Reaches (world OneRequest.payloadRead (.idle backend) (receive b)) :=
    received_run hclaimed haccepted rfl (by decide) rfl
  have hsubmit : Reaches (world (OneRequest.payloadRead.setReader 1
      (.submit OneRequest.header OneRequest.chain 0)) (.idle backend) (receive b)) :=
    thread_run hpayload (.silent haccepted rfl) (.inl rfl)
  have hworker : OneRequest.submitted.worker = OneRequest.payloadRead.worker := rfl
  have hsubmitted : Reaches (world OneRequest.submitted (.idle backend) (receive b)) :=
    thread_run hsubmit (.jobSubmitted haccepted rfl) (.inl hworker)
  have hqueued : Reaches (world OneRequest.queued (.idle backend) (receive b)) :=
    thread_run hsubmitted (.push (s := (world OneRequest.submitted (.idle backend) (receive b)).server)
      ⟨le_rfl, Nat.lt_add_one 1⟩ rfl rfl) (.inl rfl)
  exact thread_run hqueued (.workerPop rfl rfl) (.inr ⟨nofun, nofun⟩)

/-- It calls `submit`, which returns. -/
lemma submitted_run {before after : CudaBackend plainMath}
    (heval : onBench (submit (OneRequest.frame.job 0) 1) before b = some ((.ok 1, after), b'))
    (h : Reaches (world OneRequest.popped (.idle before) b)) :
    Reaches (world OneRequest.inFlight (.idle after) b') := by
  have hcall : Reaches (world OneRequest.popped (.submitting before OneRequest.frame 0
      (submit (OneRequest.frame.job 0) 1 before)) b) := h.step (.submit 1 rfl rfl rfl rfl)
  have hdone := call_run (fun _ _ _ _ _ => CudaServer.Step.submitAnswered) heval hcall
  exact hdone.step (.submitted rfl)

/-- What the backend has seen is on the bench. -/
lemma world_seen (s : State) (seen : List (JobHandle × List UInt8)) (engine : Engine plainMath)
    (b : Bench) : world { s with seen := seen } engine b = world s engine b := rfl

/-- It polls. -/
lemma polled_run {before after : CudaBackend plainMath}
    (heval : onBench pollCompletions before b
      = some ((.ok [OneRequest.completion], after), b'))
    (h : Reaches (world OneRequest.inFlight (.idle before) b)) :
    Reaches (world OneRequest.polled (.idle after) b') := by
  rw [← world_seen OneRequest.inFlight [(1, OneRequest.inFlight.memory 0)]] at h
  have hcall : Reaches (world OneRequest.seen (.polling before (pollCompletions before)) b) :=
    h.step (.poll rfl rfl)
  have hdone := call_run (fun _ _ _ _ _ => CudaServer.Step.pollAnswered) heval hcall
  exact hdone.step (.polled rfl)

/-- The answer goes out. -/
lemma served_run {backend : CudaBackend plainMath}
    (h : Reaches (world OneRequest.polled (.idle backend) b)) :
    Reaches (world OneRequest.served (.idle backend) b) := by
  have hretired : Reaches (world OneRequest.retired (.idle backend) b) :=
    thread_run h (.retire rfl rfl) (.inr ⟨nofun, nofun⟩)
  have hreleased : Reaches (world OneRequest.released (.idle backend) b) :=
    thread_run hretired (.handBackRelease rfl rfl) (.inr ⟨nofun, nofun⟩)
  have hanswered : Reaches (world OneRequest.answered (.idle backend) b) :=
    thread_run hreleased (.handBackPush (s := (world OneRequest.released (.idle backend) b).server)
      rfl) (.inr ⟨nofun, nofun⟩)
  exact thread_run hanswered (.writerPop (s := (world OneRequest.answered (.idle backend) b).server)
    ⟨le_rfl, Nat.lt_add_one 1⟩ rfl rfl) (.inl rfl)

/-- Right after `start`, with one slot of the backend built. -/
lemma started_run {result : Except Exn Unit} {after : CudaBackend plainMath}
    (heval : onBench (allocateSlots 1 4) backend bench = some ((result, after), b))
    (hcopied : b.memory.copied = []) : Reaches (world OneRequest.started (.idle after) b) := by
  have hfresh : freshGpu 0 bench.gpu := ⟨rfl, fun _ => ite_self _⟩
  have hreturns := returns_of_onBench frames_size heval
  have hinit : (servedSystem plainMath frames).Reachable
      { backend := backend, driver := bench.gpu } := .init ⟨0, 0, 1, {}, rfl, hfresh, rfl, rfl⟩
  have hworking : Working [] 1 frames (fun _ => 4) (fun _ _ => False) backend bench.gpu :=
    construct_working (show construct 0 0 1 {} = .ok backend from rfl) hfresh
  have hsizes : ∃ owned, Working [] 1 frames (fun _ => 4) owned after b.gpu :=
    Prog.wp_iff_returns.mp (allocateSlots_painted (reachable_inOrder (reachable_cuda hinit)).wellFormed
      hworking 1 4) _ _ hreturns
  refine .init ⟨?_, ⟨_, hinit.step (.manage (.allocateSlots 1 4) trivial hreturns), rfl, rfl, rfl,
    rfl⟩, rfl, rfl⟩
  rcases hsizes with ⟨owned, hafter⟩
  exact ⟨rfl, rfl, hafter.painted.sizes, fun _ => rfl, le_rfl, rfl, rfl, rfl, rfl, rfl, rfl, hcopied,
    rfl⟩

/-- The device paints the picture, and the answer goes out. -/
lemma served_reaches :
    ∃ backend b, Reaches (world OneRequest.served (.idle backend) b) := by
  rcases Option.map_eq_some_iff.mp painted_shown with ⟨run, hrun, hseen⟩
  rcases Option.bind_eq_some_iff.mp hrun with ⟨⟨⟨managed, after₁⟩, b₁⟩, h₁, hrun⟩
  rcases Option.bind_eq_some_iff.mp hrun with ⟨⟨⟨submitted, after₂⟩, b₂⟩, h₂, hrun⟩
  rcases Option.map_eq_some_iff.mp hrun with ⟨⟨⟨polled, after₃⟩, b₃⟩, h₃, rfl⟩
  have hcopied : b₁.memory.copied = [] := congrArg Prod.fst hseen
  have hresults := congrArg Prod.snd hseen
  cases submitted with
  | error error => cases congrArg Prod.fst hresults
  | ok handle =>
      cases polled with
      | error error => cases congrArg Prod.snd hresults
      | ok completions =>
          obtain rfl : handle = 1 := Option.some.inj (congrArg Prod.fst hresults)
          obtain rfl : completions = [OneRequest.completion] :=
            Option.some.inj (congrArg Prod.snd hresults)
          exact ⟨after₃, b₃, served_run (polled_run h₃
            (submitted_run h₂ (popped_run (started_run h₁ hcopied))))⟩

/-- One request, served by a kernel on the device: the writer takes the inverted pixel. -/
theorem cudaServer_refines_painted : ∃ c : CudaServer plainMath,
    (CudaServer.system OneRequest.config plainMath frames).Reachable c
      ∧ (c.server.connections 1).popped = [okAnswer 7 kFlagEcho OneRequest.picture]
      ∧ ((c.server.connections 1).popped.filter fun response => response.status = .kOk).Subperm
        ((requestFrames (c.server.connections 1).consumed).filterMap
          (okResponse OneRequest.config.reader (Cpu.applyChain plainMath))) := by
  rcases served_reaches with ⟨backend, b, hserved⟩
  exact ⟨_, hserved, rfl, (cudaServer_refines (by decide) hserved).2.2.2 1⟩

end PaintedRequest

end Imgjit
