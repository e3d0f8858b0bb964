import Imgjit.Cuda.QueueingOrder
import Imgjit.Cuda.RecreationOrder

/-!
# Streams are reused only behind their events

A `CudaBackend` against the device: what is queued, observed and read in the course of any run.  A
stream has one set of buffers, so a second frame on it would overwrite the first if it were queued
while the first is still at work, and a result that is read too early is somebody else's.  Nothing
in the types prevents either; it is the order of the calls that does, through every failure.

The invariant is that of `StreamInvariant`; a recreation, a sweep and the queueing of a frame each
have a module of their own.

**The calls of the worker.**  `launch_ended` ends a launch in order, or with a driver error and the
looser invariant; `submit_ordered` adds the recreation that follows such an error, so that a submit
always ends in order.  `pollCompletions_ordered`, `allocateSlots_ordered` and `prewarm_ordered` are
the other entry points.

**Runs.**  `reachable_inStreamOrder` carries the invariant over every run of `cudaSystem` on the
device, and `stream_order` says what follows for an observer: in every run no frame is disturbed,
every successful completion was read behind its own event, and what has been handed out is not
pending any more.  The device is nondeterministic: any of the calls may fail, and each stream gets
on with its work at its own pace.
-/

namespace Imgjit

open Interaction Cuda

namespace CudaBackend

variable {cmath : CMath} {submitted : List (JobHandle × FrameJob)} {bound : JobHandle}
  {active : Option (ℕ × JobHandle)} {backend : CudaBackend cmath} {d d' : Device}

/-! ## The calls of the worker -/

/-- A change of what the invariant does not speak of. -/
lemma Ordered.modify (h : Ordered submitted bound active backend d) {after : CudaBackend cmath}
    (hstreams : after.streams = backend.streams) (hcompleted : after.completed = backend.completed)
    (hcontext : after.context = backend.context) :
    Ordered submitted bound active after d where
  log := h.log
  worked := h.worked
  queued := h.queued
  context := by
    rw [hcontext, hstreams]
    exact h.context
  numbers := hstreams ▸ h.numbers
  apart := hstreams ▸ h.apart
  pending := by
    rw [hstreams]
    exact h.pending
  busy := hstreams ▸ h.busy
  seen := by
    rw [hstreams]
    exact h.seen
  pictured := hcompleted ▸ h.pictured

/-- A completion is added. -/
lemma Ordered.complete (h : Ordered submitted bound active backend d) {completion : Completion}
    (hpictured : Pictured d.log completion) :
    Ordered submitted bound active
      { backend with completed := backend.completed ++ [completion] } d where
  log := h.log
  worked := h.worked
  queued := h.queued
  context := h.context
  numbers := h.numbers
  apart := h.apart
  pending := h.pending
  busy := h.busy
  seen := h.seen
  pictured := by
    intro other hother
    rcases List.mem_append.mp hother with hother | hother
    · exact h.pictured other hother
    · rw [List.mem_singleton.mp hother]
      exact hpictured

lemma cacheGet_ordered (h : Ordered submitted bound none backend d) (key : KernelKey) :
    Routine.wp device (cacheGet key)
      (fun _ after d' => Ordered submitted bound none after d') backend d := by
  have hrest : ∀ (failure : Option Exn) (d' : Device), Ordered submitted bound none backend d' →
      Routine.wp device (do
        modify fun backend => { backend with cache := (backend.cache.get key failure).2 }
        ofExcept (backend.cache.get key failure).1 : Method cmath CompiledChain)
        (fun _ after d' => Ordered submitted bound none after d') backend d' := by
    intro failure d' h'
    refine Routine.wp_modify_bind.mpr ?_
    cases (backend.cache.get key failure).1 with
    | ok compiled => exact h'.modify rfl rfl rfl
    | error error => exact h'.modify rfl rfl rfl
  refine Routine.wp_get_bind.mpr ?_
  split
  · rename_i program _ _
    have hload : Silent (.load program) := trivial
    exact fun answer d₁ hanswer => hrest _ d₁ (h.silent hload hanswer)
  · exact hrest none d h

/-- A launch with frame slots to read from ends in order, or with a driver error. -/
theorem launchChain_ended (hwell : backend.WellFormed)
    (h : Ordered submitted bound none backend d) {job : FrameJob} {input : ℕ}
    (hjob : (bound, job) ∈ submitted) (hinput : job.input = some input) (bytes : UInt64)
    (turns : ℕ) (hcontext : backend.context ≠ none) :
    Routine.wp device (launchChain job bound input bytes turns)
      (fun result after d' => Ended submitted bound result after d') backend d := by
  refine Routine.wp_get_bind.mpr
    (((cacheGet_keeps hwell _).and (cacheGet_ordered h _)).bind ?_ ?_)
  · rintro compiled cached d₁ ⟨⟨hcached, hcontext₁⟩, h₁⟩
    split
    · exact h₁.ended _
    · refine ((claimStream_claimed hcached.wellFormed turns).and
        (claimStream_ordered h₁ turns)).bind ?_ ?_
      · rintro index claimed d₂ ⟨hclaimed, h₂⟩
        refine Routine.wp_get_bind.mpr ?_
        rcases hclaimed.free index rfl with ⟨slot, hslot, hfree⟩
        rw [hslot]
        refine queueFrame_ended h₂ hjob hinput bytes compiled hslot hfree ?_
        rw [hclaimed.context, hcontext₁]
        exact hcontext
      · rintro error after d₂ ⟨-, h₂⟩
        exact h₂.ended error
  · rintro error after d₁ ⟨-, h₁⟩
    exact h₁.ended error

/-- The read of an input, on the host. -/
lemma Ordered.readInput (h : Ordered submitted bound active backend d) {frame : JobHandle}
    {job : FrameJob} (hjob : (frame, job) ∈ submitted) {input bytes : ℕ}
    (hinput : job.input = some input) (hempty : job.chain.ops = [])
    {source : DriverAnswer (.read frame (.input input) bytes)}
    (hrespond : device.respond d (.read frame (.input input) bytes) source d') :
    Ordered submitted bound active backend d' := by
  refine h.asked (asked_of_read hrespond) (h.log.cons ?_ ?_ ⟨job, hjob, hinput, hempty⟩)
  · intro stream frame' hwork
    cases hwork
  · intro frame' hreads
    cases hreads

/-- **A launch** ends with the invariant, or half way with a driver error. -/
theorem launch_ended (hwell : backend.WellFormed) (h : Ordered submitted bound none backend d)
    {job : FrameJob} (hjob : (bound, job) ∈ submitted) (turns : ℕ) :
    Routine.wp device (launch job bound turns)
      (fun result after d' => Ended submitted bound result after d') backend d := by
  refine Routine.wp_get_bind.mpr ?_
  split
  · exact h.ended _
  rename_i hcontext
  split
  · exact h.ended _
  · rename_i input hinput
    dsimp only
    split
    · exact h.ended _
    split
    · exact h.ended _
    split
    · rename_i hempty
      refine Routine.wp_ask_bind.mpr fun source d₁ hsource => ?_
      have h₁ := h.readInput hjob hinput hempty hsource
      cases himage : Image.fromBytes job.width job.height job.channels source.1 job.stride with
      | error error => exact h₁.ended error
      | ok image =>
          have hpictured : Pictured d₁.log
              { handle := bound, status := .kOk, output := some image } := by
            intro _
            refine ⟨.input input, _, source, ?_, job.width, job.height, job.channels, _, image,
              rfl, himage⟩
            rw [(asked_of_read hsource).log]
            exact List.mem_cons_self
          exact (h₁.complete hpictured).later (Nat.le_succ bound)
    · refine launchChain_ended hwell h hjob hinput _ turns ?_
      intro hnone
      rw [hnone] at hcontext
      exact hcontext rfl

lemma recover_ordered (h : Loose submitted bound backend d) (reason : String) :
    Routine.wp device (recover reason)
      (fun result after d' => result = .ok () ∧ Ordered submitted bound none after d')
      backend d :=
  (recreateContext_ordered h reason).handled (fun _ _ _ h' => ⟨rfl, h'⟩) fun _ _ _ h' => ⟨rfl, h'⟩

/-- One more submission. -/
lemma Ordered.submit (h : Ordered submitted bound active backend d)
    (submission : JobHandle × FrameJob) :
    Ordered (submission :: submitted) bound active backend d :=
  ⟨h.log.submit submission, h.worked, h.queued, h.context, h.numbers, h.apart, h.pending, h.busy,
    h.seen, h.pictured⟩

/-- **`submit`** keeps the invariant, whatever happens inside. -/
theorem submit_ordered (hwell : backend.WellFormed)
    (h : Ordered submitted backend.nextHandle none backend d) (job : FrameJob) (turns : ℕ) :
    Routine.wp device (submit job turns)
      (fun _ after d' => Ordered ((backend.nextHandle, job) :: submitted)
        (backend.nextHandle + 1) none after d') backend d := by
  refine Routine.wp_get_bind.mpr (Routine.wp_modify_bind.mpr ?_)
  have hbumped : WellFormed { backend with nextHandle := backend.nextHandle + 1 } :=
    ⟨hwell.few, hwell.shaped, hwell.host⟩
  have hstart : Ordered ((backend.nextHandle, job) :: submitted) backend.nextHandle none
      { backend with nextHandle := backend.nextHandle + 1 } d :=
    (h.submit (backend.nextHandle, job)).modify rfl rfl rfl
  refine Routine.wp.bind (P := fun _ after d' => Ordered ((backend.nextHandle, job) :: submitted)
    (backend.nextHandle + 1) none after d')
    ((launch_ended hbumped hstart List.mem_cons_self turns).handled ?_ ?_) (fun _ _ _ h' => h')
    fun _ _ _ h' => h'
  · rintro _ after d₁ h₁
    exact h₁
  · intro error middle d₁ hended
    have hfail : ∀ reason, Ordered ((backend.nextHandle, job) :: submitted)
        (backend.nextHandle + 1) none middle d₁ → Ordered ((backend.nextHandle, job) :: submitted)
          (backend.nextHandle + 1) none { middle with
            completed := middle.completed ++ [failure backend.nextHandle reason] } d₁ :=
      fun reason h₁ => h₁.complete (pictured_failure d₁.log backend.nextHandle reason)
    rcases hended with h₁ | ⟨⟨what, rfl⟩, h₁⟩
    · cases error with
      | cudaError what =>
          exact (recover_ordered (hfail what h₁).loose _).mono fun _ _ _ h' => h'.2
      | nvrtcError what => exact hfail what h₁
      | invalidArgument what => exact hfail what h₁
      | logicError what => exact hfail what h₁
      | outOfRange what => exact hfail what h₁
      | lengthError what => exact hfail what h₁
      | runtimeError what => exact hfail what h₁
      | outOfBounds => exact hfail "" h₁
    · have hfailed : Loose ((backend.nextHandle, job) :: submitted) (backend.nextHandle + 1)
          { middle with
            completed := middle.completed ++ [failure backend.nextHandle what] } d₁ := by
        refine h₁.complete ?_ rfl rfl
        intro completion hmem
        rw [List.mem_singleton.mp hmem]
        exact pictured_failure d₁.log backend.nextHandle what
      exact (recover_ordered hfailed _).mono fun _ _ _ h' => h'.2

/-- **`pollCompletions`** as well. -/
theorem pollCompletions_ordered (hwell : backend.WellFormed)
    (h : Ordered submitted bound none backend d) :
    Routine.wp device pollCompletions
      (fun result after d' => Ordered submitted bound none after d'
        ∧ ∀ completions, result = .ok completions →
          ∀ completion ∈ completions, Pictured d'.log completion) backend d := by
  refine Routine.wp.bind (P := fun result after d' => result = .ok ()
    ∧ Ordered submitted bound none after d')
    (((retireReadyStreams_retired hwell).and (retireReadyStreams_ordered h)).handled ?_ ?_) ?_ ?_
  · rintro _ after d₁ ⟨-, h₁⟩
    exact ⟨rfl, h₁⟩
  · rintro error middle d₁ ⟨hretired, h₁⟩
    rcases hretired.onlyCuda error rfl with ⟨what, rfl⟩
    exact recover_ordered h₁.loose _
  · rintro _ middle d₁ ⟨-, h₁⟩
    refine ⟨⟨h₁.log, h₁.worked, h₁.queued, h₁.context, h₁.numbers, h₁.apart, h₁.pending, h₁.busy,
      h₁.seen, fun completion hmem => absurd hmem List.not_mem_nil⟩, ?_⟩
    rintro completions ⟨⟩
    exact h₁.pictured
  · rintro error after d₁ ⟨herror, -⟩
    cases herror

lemma Ordered.bare (h : Ordered submitted bound none backend d) (hstreams : backend.streams = []) :
    Bare submitted bound backend d := by
  refine ⟨h.loose, hstreams, ?_⟩
  intro stream
  refine List.eq_nil_iff_forall_not_mem.mpr ?_
  intro item hitem
  rcases h.pending stream item hitem with hactive | ⟨slot, hslot, -⟩
  · cases hactive
  · rw [hstreams] at hslot
    cases hslot

lemma allocateSlots_ordered (hwell : backend.WellFormed)
    (h : Ordered submitted bound none backend d) (count bytes : UInt64) :
    Routine.wp device (allocateSlots count bytes)
      (fun _ after d' => Ordered submitted bound none after d') backend d := by
  have hregister : Silent .cuMemHostRegister := trivial
  refine Routine.wp_get_bind.mpr ?_
  split
  · exact h
  split
  · exact h
  · rename_i hslots _
    have hnone : backend.hostSlots = none := by
      rwa [Option.not_isSome_iff_eq_none] at hslots
    have hempty := (hwell.host hnone).2
    refine Routine.wp_ask_bind.mpr fun answer d₁ hanswer => ?_
    have h₁ := h.silent hregister hanswer
    refine wp_cuCheck_bind (fun _ => ?_) fun _ => h₁
    exact buildStreamSlots_ordered ((h₁.bare hempty).modify rfl hempty)

lemma prewarm_ordered (h : Ordered submitted bound none backend d) (chain : OpChain)
    (channels : Int32) :
    Routine.wp device (prewarm chain channels)
      (fun _ after d' => Ordered submitted bound none after d') backend d := by
  rw [prewarm]
  split
  · exact h
  · exact Routine.wp_get_bind.mpr
      ((cacheGet_ordered h _).bind (fun _ _ _ h' => h') fun _ _ _ h' => h')

end CudaBackend

open CudaBackend

variable {cmath : CMath}

/-! ## Runs -/

/-- The device when a backend has just made its context. -/
def freshDevice (_context : ℕ) (d : Device) : Prop :=
  d.log = [] ∧ ∀ stream, d.queues stream = []

/-- What carries the order from call to call. -/
structure InStreamOrder (s : CudaRun cmath device) : Prop where
  ordered : Ordered s.submitted s.backend.nextHandle none s.backend s.driver
  delivered : ∀ completion ∈ s.delivered, Pictured s.driver.log completion

/-- The log only grows. -/
lemma log_grows {α : Type} {prog : Prog DriverCall DriverAnswer α} {d d' : Device} {value : α}
    (h : prog.Returns device d value d') : d.log <:+ d'.log := by
  have hstep : ∀ d₁ call answer d₂, d.log <:+ d₁.log → device.respond d₁ call answer d₂ →
      d.log <:+ d₂.log := by
    rintro d₁ call answer d₂ hsuffix ⟨_, -, -, hlog⟩
    rw [hlog]
    exact hsuffix.trans (List.suffix_cons _ _)
  have hgrows : prog.wp device (fun _ (d' : Device) => d.log <:+ d'.log) d :=
    @Prog.wp_of_preserved _ _ _ device (fun (d' : Device) => d.log <:+ d'.log) hstep prog d
      (List.suffix_refl d.log)
  exact Prog.wp_iff_returns.mp hgrows value d' h

lemma pictured_grow {log log' : List DriverEvent} (hgrows : log <:+ log') {completion : Completion}
    (h : Pictured log completion) : Pictured log' completion := by
  intro hok
  rcases h hok with ⟨buffer, bytes, source, hmem, hpicture⟩
  exact ⟨buffer, bytes, source, hgrows.subset hmem, hpicture⟩

lemma manage_ordered {s : CudaRun cmath device} (hwell : s.backend.WellFormed)
    (h : Ordered s.submitted s.backend.nextHandle none s.backend s.driver) (call : BackendCall) :
    Routine.wp device call.method (fun _ after d' =>
      Ordered s.submitted s.backend.nextHandle none after d') s.backend s.driver := by
  cases call with
  | allocateSlots count bytes => exact allocateSlots_ordered hwell h count bytes
  | prewarm chain channels => exact prewarm_ordered h chain channels
  | recreateContext reason => exact recreateContext_ordered h.loose reason

lemma InStreamOrder.step {s s' : CudaRun cmath device} (hin : InOrder s) (h : InStreamOrder s)
    (hstep : CudaStep s s') : InStreamOrder s' := by
  cases hstep with
  | @manage result after driver call hreturns =>
      have hordered : Ordered s.submitted s.backend.nextHandle none after driver :=
        Prog.wp_iff_returns.mp (manage_ordered hin.wellFormed h.ordered call) _ _ hreturns
      have hkeeps : Keeps [] s.backend after :=
        Prog.wp_iff_returns.mp (manage_keeps hin.wellFormed call) _ _ hreturns
      refine ⟨?_, fun completion hmem =>
        pictured_grow (log_grows hreturns) (h.delivered completion hmem)⟩
      rw [hkeeps.nextHandle]
      exact hordered
  | @submit handle after driver job turns hreturns =>
      have hordered : Ordered ((s.backend.nextHandle, job) :: s.submitted)
          (s.backend.nextHandle + 1) none after driver :=
        Prog.wp_iff_returns.mp (submit_ordered hin.wellFormed h.ordered job turns) _ _ hreturns
      have hsubmitted : Submitted s.backend (.ok handle) after :=
        Prog.wp_iff_returns.mp (submit_submitted hin.wellFormed job turns) _ _ hreturns
      obtain rfl := Except.ok.inj hsubmitted.result
      refine ⟨?_, fun completion hmem =>
        pictured_grow (log_grows hreturns) (h.delivered completion hmem)⟩
      rw [hsubmitted.nextHandle]
      exact hordered
  | @poll completions after driver hreturns =>
      have hpolled : Polled s.backend (.ok completions) after :=
        Prog.wp_iff_returns.mp (pollCompletions_polled hin.wellFormed) _ _ hreturns
      have hordered : Ordered s.submitted s.backend.nextHandle none after driver
          ∧ ∀ others, (.ok completions : Except Exn (List Completion)) = .ok others →
            ∀ completion ∈ others, Pictured driver.log completion :=
        Prog.wp_iff_returns.mp (pollCompletions_ordered hin.wellFormed h.ordered) _ _ hreturns
      refine ⟨?_, ?_⟩
      · rw [hpolled.nextHandle]
        exact hordered.1
      · intro completion hmem
        rcases List.mem_append.mp hmem with hmem | hmem
        · exact pictured_grow (log_grows hreturns) (h.delivered completion hmem)
        · exact hordered.2 completions rfl completion hmem

lemma construct_ordered {context streamCount : ℕ} {ordinal : Int32} {config : BackendConfig}
    {backend : CudaBackend cmath}
    (h : construct context ordinal streamCount config = .ok backend) {d : Device}
    (hd : freshDevice context d) : Ordered [] backend.nextHandle none backend d := by
  have hbackend : backend.streams = [] ∧ backend.completed = [] := by
    unfold construct at h
    split at h
    · cases h
    split at h
    · cases h
    · cases h
      exact ⟨rfl, rfl⟩
  refine Loose.ordered ⟨?_, ?_, ?_, fun _ => hd.2, ?_⟩ hbackend.1 hd.2
  · rw [hd.1]
    exact logOrdered_nil
  · rw [hd.1]
    exact fun _ hentry => absurd hentry List.not_mem_nil
  · intro stream item hitem
    rw [hd.2 stream] at hitem
    cases hitem
  · rw [hbackend.2]
    exact List.forall_mem_nil _

/-- In every run the streams are in order: the step lemma, over all calls. -/
theorem reachable_inStreamOrder {s : CudaRun cmath device}
    (h : (cudaSystem cmath device freshDevice).Reachable s) : InStreamOrder s := by
  refine h.invariant ?_ fun s s' hreach hs hstep => hs.step (reachable_inOrder hreach) hstep
  rintro s ⟨context, ordinal, streamCount, config, hconstruct, hfresh, hsubmitted, hdelivered⟩
  refine ⟨?_, ?_⟩
  · rw [hsubmitted]
    exact construct_ordered hconstruct hfresh
  · rw [hdelivered]
    exact List.forall_mem_nil _

/-- What a run has kept to so far. -/
structure StreamsKept (s : CudaRun cmath device) : Prop where
  /-- Whenever a copy or a kernel was queued on a stream, the frames before it there had been
  observed; whenever a result was read, its frame had been. -/
  log : LogOrdered s.submitted s.driver.log
  /-- The pixels of a successful completion were read on behalf of its frame. -/
  pictured : ∀ completion ∈ s.backend.completed ++ s.delivered,
    Pictured s.driver.log completion
  /-- What is pending belongs to a frame that has not been handed out. -/
  pending : ∀ stream, ∀ item ∈ s.driver.queues stream,
    item.frame ∈ s.backend.busyHandles ∧ item.frame ∉ s.deliveredHandles
  /-- What is pending on an input slot belongs to a frame submitted with that slot. -/
  readers : ∀ stream, ∀ item ∈ s.driver.queues stream, ∀ destination input bytes,
    item.op = .cuMemcpyHtoDAsync destination input bytes →
      ∃ job, (item.frame, job) ∈ s.submitted ∧ job.input = some input

/-- **Nothing a frame uses is touched before its event.**  In every run of a backend on the device,
with any of the calls failing: no copy or kernel of a new frame is queued on a stream before the
event behind the work of the frames before it has been seen complete; the result of a frame is read
behind its own event; and what a poll has handed out is pending nowhere. -/
theorem stream_order {s : CudaRun cmath device}
    (h : (cudaSystem cmath device freshDevice).Reachable s) : StreamsKept s := by
  have hin := reachable_inOrder h
  rcases reachable_inStreamOrder h with ⟨hordered, hdelivered⟩
  refine ⟨hordered.log, ?_, ?_, ?_⟩
  · intro completion hmem
    rcases List.mem_append.mp hmem with hmem | hmem
    · exact hordered.pictured completion hmem
    · exact hdelivered completion hmem
  · intro stream item hitem
    rcases hordered.pending stream item hitem with hactive | ⟨slot, hslot, -, hbusy, hframe⟩
    · cases hactive
    · have hmem : item.frame ∈ s.backend.busyHandles := by
        rw [hframe]
        exact List.mem_map_of_mem (List.mem_filter.mpr ⟨hslot, hbusy⟩)
      refine ⟨hmem, ?_⟩
      have hnodup := hin.placed.nodup_iff.mpr hin.fresh
      exact fun hout => (List.nodup_append.mp hnodup).2.2 _
        (List.mem_append_left _ hmem) _ hout rfl
  · intro stream item hitem destination input bytes hop
    rcases hordered.queued stream item hitem with ⟨answer, hentry⟩
    have hnamed := hordered.log.named _ hentry
    rw [hop] at hnamed
    exact hnamed

/-! ## A frame with one op -/

namespace FilteredFrame

/-- The call is entered in the log. -/
def enter (d : Device) (call : DriverCall) (answer : DriverAnswer call)
    (queues : ℕ → List QueuedOp) (next : ℕ) : DriverAnswer call × Device :=
  (answer, { log := ⟨call, answer⟩ :: d.log, queues := queues, next := next })

/-- A device on which nothing fails, and which is done with everything by the time it is asked. -/
def prompt (d : Device) : (call : DriverCall) → DriverAnswer call × Device
  | .cuCtxCreate => enter d .cuCtxCreate (.ok d.next) d.queues (d.next + 1)
  | .create resource => enter d (.create resource) (.ok d.next) d.queues (d.next + 1)
  | .cuCtxDestroy context =>
      enter d (.cuCtxDestroy context) CUresult.CUDA_SUCCESS (fun _ => []) d.next
  | .enqueue stream frame op =>
      enter d (.enqueue stream frame op) CUresult.CUDA_SUCCESS (d.push stream ⟨frame, op⟩) d.next
  | .cuEventQuery event =>
      enter d (.cuEventQuery event) CUresult.CUDA_SUCCESS (fun _ => []) d.next
  | .cuEventSynchronize event =>
      enter d (.cuEventSynchronize event) CUresult.CUDA_SUCCESS (fun _ => []) d.next
  | call => enter d call (InlineFrame.agreeable call) d.queues d.next

lemma progress_refl (d : Device) : d.Progress d :=
  ⟨rfl, fun _ => List.suffix_refl _, rfl⟩

lemma prompt_responds (d : Device) (call : DriverCall) :
    device.respond d call (prompt d call).1 (prompt d call).2 := by
  cases call with
  | enqueue stream frame op => exact ⟨d, progress_refl d, ⟨rfl, .inl rfl⟩, rfl⟩
  | cuCtxDestroy context => exact ⟨d, progress_refl d, ⟨rfl, rfl⟩, rfl⟩
  | cuCtxCreate => exact ⟨d, progress_refl d, ⟨rfl, rfl, rfl⟩, rfl⟩
  | create resource => exact ⟨d, progress_refl d, ⟨rfl, rfl, rfl⟩, rfl⟩
  | cuEventQuery event =>
      refine ⟨{ d with queues := fun _ => [] }, ⟨rfl, fun _ => List.nil_suffix, rfl⟩,
        ⟨rfl, rfl, fun _ _ _ hitem => absurd hitem List.not_mem_nil, ?_⟩, rfl⟩
      intro what hwhat
      cases hwhat
  | cuEventSynchronize event =>
      exact ⟨{ d with queues := fun _ => [] }, ⟨rfl, fun _ => List.nil_suffix, rfl⟩,
        ⟨rfl, rfl, fun _ _ _ hitem => absurd hitem List.not_mem_nil⟩, rfl⟩
  | _ => exact ⟨d, progress_refl d, ⟨rfl, rfl⟩, rfl⟩

/-- A backend with one stream to build. -/
def backend : CudaBackend plainMath where
  context := some 0
  streamCount := 1
  config := {}

/-- A gray pixel to invert. -/
def job : FrameJob :=
  { input := some 0, width := 1, height := 1, channels := 1, stride := 1
    chain := { ops := [{ kind := .kInvert }] } }

/-- A slot is built, the frame is submitted, and the completion is polled. -/
def filtered : Option (CudaRun plainMath device) :=
  ({ backend := backend, driver := ({} : Device) } : CudaRun plainMath device).performAll prompt
    [.manage (.allocateSlots 1 1), .submit job 1, .poll]

/-- The frame is handed out, after eighteen calls of the driver. -/
lemma filtered_seen : filtered.map (fun s => (s.seen, s.driver.log.length))
    = some (⟨[1], [], [], [(1, .kOk)], 0⟩, 18) := by
  decide +kernel

/-- The run of the one frame keeps its streams in order. -/
theorem stream_order_filtered :
    ∃ s : CudaRun plainMath device, (cudaSystem plainMath device freshDevice).Reachable s
      ∧ s.seen = ⟨[1], [], [], [(1, .kOk)], 0⟩ ∧ s.driver.log.length = 18 ∧ StreamsKept s := by
  rcases Option.map_eq_some_iff.mp filtered_seen with ⟨s, hrun, hseen⟩
  have hreach : (cudaSystem plainMath device freshDevice).Reachable s :=
    reachable_performAll prompt_responds
      (.init ⟨0, 0, 1, {}, rfl, ⟨rfl, fun _ => rfl⟩, rfl, rfl⟩) hrun
  exact ⟨s, hreach, congrArg Prod.fst hseen, congrArg Prod.snd hseen, stream_order hreach⟩

end FilteredFrame

end Imgjit
