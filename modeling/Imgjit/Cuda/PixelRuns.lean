import Imgjit.Cuda.RecreationPixels

/-!
# Every run of a CUDA backend computes what it was asked for

The calls of the worker, one after the other, with every answer the device may give and everything
it may do meanwhile.  `BackendPixels.lean` and `RecreationPixels.lean` have the methods; here they
become calls, and calls become runs.

**The calls of the worker.**  `submit_painted` and `pollCompletions_painted`: the calls keep the
invariant, whatever happens inside.  A launch that fails leaves the invariant broken, and the
recovery in the same call puts it right again.

**Runs.**  `ServedStep` and `servedSystem` are the runs in which all chains come from the parser, as
they do in the server.  `reachable_inPixels` carries the invariant through them.

**The result.**  `cuda_fulfils`: every successful completion is one that the server may rely on, and
no operation is ever performed that may not be.  Pixel values are those of exact arithmetic, and the
frames whose kernels do not overflow are those that `Addressable` names.

**A frame whose kernel runs.**  The example performs a whole frame on a device with one stream: its
slot is read, its kernel is run by all its threads, and its picture is polled.
-/

namespace Imgjit

open Interaction RelyGuarantee Cuda

namespace CudaBackend

variable {cmath : CMath} {frames : JobHandle → FrameJob} {sizes : ℕ → ℕ}
  {owned : ℕ → ℕ → Prop}
  {submitted : List (JobHandle × FrameJob)} {bound : JobHandle} {backend : CudaBackend cmath}
  {g g' : Gpu}

/-! ## The calls of the worker -/

lemma recover_painted (h : GivenUp submitted bound frames sizes owned backend g) (reason : String) :
    Routine.wp (gpu cmath frames) (recover reason)
      (fun result after g' => result = .ok ()
        ∧ ∃ owned, Working submitted bound frames sizes owned after g') backend g :=
  (recreateContext_painted h reason).handled (fun _ _ _ h' => ⟨rfl, h'⟩) fun _ _ _ h' => ⟨rfl, h'⟩

/-- An error entry is added. -/
lemma Working.fail (h : Working submitted bound frames sizes owned backend g) (handle : JobHandle)
    (reason : String) :
    Working submitted bound frames sizes owned
      { backend with completed := backend.completed ++ [failure handle reason] } g :=
  ⟨h.ordered.complete (pictured_failure g.device.log handle reason),
    h.painted.complete (deserved_failure g.memory rfl)⟩

lemma GivenUp.fail (h : GivenUp submitted bound frames sizes owned backend g) (handle : JobHandle)
    (reason : String) :
    GivenUp submitted bound frames sizes owned
      { backend with completed := backend.completed ++ [failure handle reason] } g := by
  refine h.modify (fun _ => .inl) rfl rfl ?_ rfl fun _ => id
  intro completion hmem
  rw [List.mem_singleton.mp hmem]
  rfl

/-- **`submit`** keeps both invariants, whatever happens inside. -/
theorem submit_painted (hwell : backend.WellFormed)
    (h : Working submitted backend.nextHandle frames sizes owned backend g)
    (hadmitted : AdmittedChain (frames backend.nextHandle).chain)
    (hheld : Held sizes (frames backend.nextHandle)) (turns : ℕ) :
    Routine.wp (gpu cmath frames) (submit (frames backend.nextHandle) turns)
      (fun _ after g' => ∃ owned, Working
        ((backend.nextHandle, frames backend.nextHandle) :: submitted) (backend.nextHandle + 1)
        frames sizes owned after g') backend g := by
  refine Routine.wp_get_bind.mpr (Routine.wp_modify_bind.mpr ?_)
  set job := frames backend.nextHandle with hjob
  have hbumped : WellFormed { backend with nextHandle := backend.nextHandle + 1 } :=
    ⟨hwell.few, hwell.shaped, hwell.host⟩
  have hstart := h.begin job
  have hlaunched :=
    launch_painted hbumped hstart (hjob ▸ List.mem_cons_self) hadmitted hheld turns
  refine Routine.wp.bind (P := fun _ after g' => ∃ owned, Working
    ((backend.nextHandle, job) :: submitted) (backend.nextHandle + 1) frames sizes owned after g')
    (hlaunched.handled ?_ ?_) (fun _ _ _ h' => h') fun _ _ _ h' => h'
  · rintro _ after g₁ h₁
    exact ⟨owned, h₁⟩
  · rintro error middle g₁ (h₁ | ⟨⟨what, rfl⟩, h₁⟩)
    · cases error with
      | cudaError what =>
          exact (recover_painted (h₁.fail backend.nextHandle what).givenUp _).mono
            fun _ _ _ h' => h'.2
      | nvrtcError what => exact ⟨owned, h₁.fail backend.nextHandle what⟩
      | invalidArgument what => exact ⟨owned, h₁.fail backend.nextHandle what⟩
      | logicError what => exact ⟨owned, h₁.fail backend.nextHandle what⟩
      | outOfRange what => exact ⟨owned, h₁.fail backend.nextHandle what⟩
      | lengthError what => exact ⟨owned, h₁.fail backend.nextHandle what⟩
      | runtimeError what => exact ⟨owned, h₁.fail backend.nextHandle what⟩
      | outOfBounds => exact ⟨owned, h₁.fail backend.nextHandle ""⟩
    · exact (recover_painted (h₁.fail backend.nextHandle what) _).mono fun _ _ _ h' => h'.2

/-- **`pollCompletions`** as well, and what it hands out is deserved. -/
theorem pollCompletions_painted (hwell : backend.WellFormed)
    (h : Working submitted bound frames sizes owned backend g) :
    Routine.wp (gpu cmath frames) pollCompletions
      (fun result after g' => (∃ owned, Working submitted bound frames sizes owned after g')
        ∧ ∀ completions, result = .ok completions →
          ∀ completion ∈ completions, Deserved cmath frames g'.memory completion) backend g := by
  refine Routine.wp.bind (P := fun result after g' => result = .ok ()
    ∧ ∃ owned, Working submitted bound frames sizes owned after g')
    (((retireReadyStreams_retired hwell).and (retireReadyStreams_painted h)).handled ?_ ?_) ?_ ?_
  · rintro _ after g₁ ⟨-, h₁, -⟩
    exact ⟨rfl, owned, h₁⟩
  · rintro error middle g₁ ⟨hretired, h₁, -⟩
    rcases hretired.onlyCuda error rfl with ⟨what, rfl⟩
    exact recover_painted h₁.givenUp _
  · rintro _ middle g₁ ⟨-, owned', h₁⟩
    refine ⟨⟨owned', ?_, ?_⟩, ?_⟩
    · have h₀ := h₁.ordered
      exact ⟨h₀.log, h₀.worked, h₀.queued, h₀.context, h₀.numbers, h₀.apart, h₀.pending, h₀.busy,
        h₀.seen, fun completion hmem => absurd hmem List.not_mem_nil⟩
    · exact h₁.painted.modify (fun _ _ hdue => hdue) (fun _ => .inl) rfl
        (fun _ hmem => absurd hmem List.not_mem_nil) h₁.painted.admitted
    · rintro completions ⟨⟩
      exact h₁.painted.deserved
  · rintro error after g₁ ⟨herror, -⟩
    cases herror

lemma allocateSlots_painted (hwell : backend.WellFormed)
    (h : Working submitted bound frames sizes owned backend g) (count bytes : UInt64) :
    Routine.wp (gpu cmath frames) (allocateSlots count bytes)
      (fun _ after g' => ∃ owned, Working submitted bound frames sizes owned after g') backend g := by
  have hregister : Silent .cuMemHostRegister := trivial
  refine Routine.wp_get_bind.mpr ?_
  split
  · exact ⟨owned, h⟩
  split
  · exact ⟨owned, h⟩
  · rename_i hslots _
    have hnone : backend.hostSlots = none := by
      rwa [Option.not_isSome_iff_eq_none] at hslots
    have hempty := (hwell.host hnone).2
    refine Routine.wp_ask_bind.mpr fun answer g₁ hanswer => ?_
    have h₁ := h.silent hregister hanswer
    refine wp_cuCheck_bind (fun _ => ?_) fun _ => ⟨owned, h₁⟩
    have hbare := h₁.ordered.bare hempty
    have hemptied : Emptied submitted bound frames sizes backend g₁ :=
      ⟨hbare, h₁.painted.emptied hempty hbare.queues rfl⟩
    exact buildStreamSlots_painted ⟨hbare.modify rfl hempty, hemptied.painted.promises,
      hemptied.painted.owns, by rw [hempty]; exact fun _ hslot => absurd hslot List.not_mem_nil,
      by rw [hempty]; exact fun _ hslot => absurd hslot List.not_mem_nil,
      by rw [hempty]; exact fun _ hslot => absurd hslot List.not_mem_nil,
      hemptied.painted.deserved, hemptied.painted.admitted, hemptied.painted.sizes⟩

lemma prewarm_painted (h : Working submitted bound frames sizes owned backend g) {chain : OpChain}
    (hchain : AdmittedChain chain) (channels : Int32) :
    Routine.wp (gpu cmath frames) (prewarm chain channels)
      (fun _ after g' => Working submitted bound frames sizes owned after g') backend g := by
  rw [prewarm]
  split
  · exact h
  · exact Routine.wp_get_bind.mpr
      ((cacheGet_painted h backend.config hchain channels).bind (fun _ _ _ h' => h'.1)
        fun _ _ _ h' => h'.1)

end CudaBackend

open CudaBackend

/-! ## Runs -/

section Runs

variable {cmath : CMath} {frames : JobHandle → FrameJob}

/-- A chain to be compiled ahead comes from the parser. -/
def BackendCall.Parsed : BackendCall → Prop
  | prewarm chain _ => AdmittedChain chain
  | _ => True

/-- The calls on one backend.  `frames` says which job is submitted under which handle; its chain
comes from the parser, and its pixels are in its slot. -/
inductive ServedStep : CudaRun cmath (gpu cmath frames) → CudaRun cmath (gpu cmath frames) → Prop
  | manage {s : CudaRun cmath (gpu cmath frames)} {result : Except Exn Unit}
      {after : CudaBackend cmath} {driver : Gpu} (call : BackendCall) : call.Parsed →
      (call.method s.backend).Returns (gpu cmath frames) s.driver (result, after) driver →
      ServedStep s { s with backend := after, driver := driver }
  | submit {s : CudaRun cmath (gpu cmath frames)} {handle : JobHandle} {after : CudaBackend cmath}
      {driver : Gpu} (turns : ℕ) : AdmittedChain (frames s.backend.nextHandle).chain →
      Held (fun slot => (s.driver.memory.slots slot).length) (frames s.backend.nextHandle) →
      (CudaBackend.submit (frames s.backend.nextHandle) turns s.backend).Returns (gpu cmath frames)
        s.driver (.ok handle, after) driver →
      ServedStep s { s with
        backend := after, driver := driver
        submitted := (handle, frames s.backend.nextHandle) :: s.submitted }
  | poll {s : CudaRun cmath (gpu cmath frames)} {completions : List Completion}
      {after : CudaBackend cmath} {driver : Gpu} :
      (pollCompletions s.backend).Returns (gpu cmath frames) s.driver (.ok completions, after)
        driver →
      ServedStep s
        { s with backend := after, driver := driver, delivered := s.delivered ++ completions }

/-- A device on which nothing is pending. -/
def freshGpu (context : ℕ) (g : Gpu) : Prop := freshDevice context g.device

/-- The runs of a backend on the device, from a fresh one on. -/
def servedSystem (cmath : CMath) (frames : JobHandle → FrameJob) :
    Transition.System (CudaRun cmath (gpu cmath frames)) where
  init := (cudaSystem cmath (gpu cmath frames) freshGpu).init
  step := ServedStep

variable {s s' : CudaRun cmath (gpu cmath frames)}

lemma ServedStep.cudaStep (h : ServedStep s s') : CudaStep s s' := by
  cases h with
  | manage call _ hreturns => exact .manage call hreturns
  | submit turns _ _ hreturns => exact .submit _ turns hreturns
  | poll hreturns => exact .poll hreturns

lemma reachable_cuda (h : (servedSystem cmath frames).Reachable s) :
    (cudaSystem cmath (gpu cmath frames) freshGpu).Reachable s := by
  induction h with
  | init h => exact .init h
  | step _ hstep ih => exact .step ih hstep.cudaStep

/-- What carries the pixels from call to call. -/
structure InPixels (s : CudaRun cmath (gpu cmath frames)) : Prop where
  working : ∃ sizes owned,
    Working s.submitted s.backend.nextHandle frames sizes owned s.backend s.driver
  delivered : ∀ completion ∈ s.delivered, Deserved cmath frames s.driver.memory completion
  submitted : ∀ entry ∈ s.submitted, frames entry.1 = entry.2

/-- What has been copied is history. -/
lemma copied_grows {α : Type} {prog : Prog DriverCall DriverAnswer α} {g g' : Gpu} {value : α}
    (h : prog.Returns (gpu cmath frames) g value g') : g.memory.copied <:+ g'.memory.copied := by
  have hstep : ∀ g₁ call answer g₂, g.memory.copied <:+ g₁.memory.copied →
      (gpu cmath frames).respond g₁ call answer g₂ → g.memory.copied <:+ g₂.memory.copied := by
    rintro g₁ call answer g₂ hsuffix ⟨_, -, -, -, -, -, -, hgrows⟩
    exact hsuffix.trans hgrows
  have hgrows : prog.wp (gpu cmath frames)
      (fun _ (g' : Gpu) => g.memory.copied <:+ g'.memory.copied) g :=
    @Prog.wp_of_preserved _ _ _ (gpu cmath frames)
      (fun (g' : Gpu) => g.memory.copied <:+ g'.memory.copied) hstep prog g
      (List.suffix_refl g.memory.copied)
  exact Prog.wp_iff_returns.mp hgrows value g' h

lemma CudaBackend.Deserved.grow {m m' : Memory} {completion : Completion}
    (h : Deserved cmath frames m completion) (hgrows : m.copied <:+ m'.copied) :
    Deserved cmath frames m' completion := by
  intro hok
  rcases h hok with ⟨bytes, hbytes, hpicture⟩
  exact ⟨bytes, Memory.mem_seenBy.mpr (hgrows.subset (Memory.mem_seenBy.mp hbytes)), hpicture⟩

lemma manage_painted {sizes : ℕ → ℕ} {owned : ℕ → ℕ → Prop} (hwell : s.backend.WellFormed)
    (h : Working s.submitted s.backend.nextHandle frames sizes owned s.backend s.driver)
    {call : BackendCall} (hcall : call.Parsed) :
    Routine.wp (gpu cmath frames) call.method (fun _ after g' => ∃ owned, Working s.submitted
      s.backend.nextHandle frames sizes owned after g') s.backend s.driver := by
  cases call with
  | allocateSlots count bytes => exact allocateSlots_painted hwell h count bytes
  | prewarm chain channels =>
      exact (prewarm_painted h hcall channels).mono fun _ _ _ h' => ⟨owned, h'⟩
  | recreateContext reason => exact recreateContext_painted h.givenUp reason

lemma InPixels.step (hin : InOrder s) (h : InPixels s) (hstep : ServedStep s s') : InPixels s' := by
  rcases h.working with ⟨sizes, owned, hworking⟩
  cases hstep with
  | @manage result after driver call hcall hreturns =>
      have hpainted : ∃ owned, Working s.submitted s.backend.nextHandle frames sizes owned after driver :=
        Prog.wp_iff_returns.mp (manage_painted hin.wellFormed hworking hcall) _ _ hreturns
      have hkeeps : Keeps [] s.backend after :=
        Prog.wp_iff_returns.mp (manage_keeps hin.wellFormed call) _ _ hreturns
      refine ⟨?_, fun completion hmem =>
        (h.delivered completion hmem).grow (copied_grows hreturns), h.submitted⟩
      rw [hkeeps.nextHandle]
      exact ⟨sizes, hpainted⟩
  | @submit handle after driver turns hadmitted hheld hreturns =>
      have hheld' : Held sizes (frames s.backend.nextHandle) := fun input hinput hshaped =>
        (hheld input hinput hshaped).trans (hworking.painted.sizes input).le
      have hpainted : ∃ owned, Working
          ((s.backend.nextHandle, frames s.backend.nextHandle) :: s.submitted)
          (s.backend.nextHandle + 1) frames sizes owned after driver :=
        Prog.wp_iff_returns.mp (submit_painted hin.wellFormed hworking hadmitted hheld' turns) _ _
          hreturns
      have hsubmitted : Submitted s.backend (.ok handle) after :=
        Prog.wp_iff_returns.mp (submit_submitted hin.wellFormed _ turns) _ _ hreturns
      obtain rfl := Except.ok.inj hsubmitted.result
      refine ⟨?_, fun completion hmem =>
        (h.delivered completion hmem).grow (copied_grows hreturns), ?_⟩
      · rw [hsubmitted.nextHandle]
        exact ⟨sizes, hpainted⟩
      · intro entry hentry
        rcases List.mem_cons.mp hentry with rfl | hentry
        · rfl
        · exact h.submitted entry hentry
  | @poll completions after driver hreturns =>
      have hpolled : Polled s.backend (.ok completions) after :=
        Prog.wp_iff_returns.mp (pollCompletions_polled hin.wellFormed) _ _ hreturns
      have hpainted : (∃ owned, Working s.submitted s.backend.nextHandle frames sizes owned after driver)
          ∧ ∀ completions', Except.ok completions = Except.ok completions' →
            ∀ completion ∈ completions', Deserved cmath frames driver.memory completion :=
        Prog.wp_iff_returns.mp (pollCompletions_painted hin.wellFormed hworking) _ _ hreturns
      refine ⟨?_, ?_, h.submitted⟩
      · rw [hpolled.nextHandle]
        exact ⟨sizes, hpainted.1⟩
      · intro completion hmem
        rcases List.mem_append.mp hmem with hmem | hmem
        · exact (h.delivered completion hmem).grow (copied_grows hreturns)
        · exact hpainted.2 completions rfl completion hmem

lemma construct_working {context streamCount : ℕ} {ordinal : Int32} {config : BackendConfig}
    {backend : CudaBackend cmath} {g : Gpu}
    (h : construct context ordinal streamCount config = .ok backend)
    (hfresh : freshDevice context g.device) :
    Working [] backend.nextHandle frames (fun slot => (g.memory.slots slot).length)
      (fun _ _ => False) backend g := by
  have hbackend : backend.streams = [] ∧ backend.completed = [] ∧ backend.cache = {} := by
    unfold construct at h
    split at h
    · cases h
    split at h
    · cases h
    · cases h
      exact ⟨rfl, rfl, rfl⟩
  rcases hbackend with ⟨hstreams, hcompleted, hcache⟩
  refine ⟨construct_ordered h hfresh, ?_, owns_nothing _, ?_, ?_, ?_, ?_, ?_, fun _ => rfl⟩
  · refine (promises_nothing hfresh.2).mono fun stream m _ slot hslot => ?_
    rw [hstreams] at hslot
    cases hslot
  · simp [hstreams]
  · simp [hstreams]
  · simp [hstreams]
  · simp [hcompleted]
  · simp [hcache]

/-- In every run the invariant holds: the step lemma, over all calls. -/
theorem reachable_inPixels (h : (servedSystem cmath frames).Reachable s) : InPixels s := by
  refine h.invariant ?_ fun s s' hreach hs hstep =>
    hs.step (reachable_inOrder (reachable_cuda hreach)) hstep
  rintro s ⟨context, ordinal, streamCount, config, hconstruct, hfresh, hsubmitted, hdelivered⟩
  refine ⟨⟨fun slot => (s.driver.memory.slots slot).length, fun _ _ => False, ?_⟩, ?_, ?_⟩
  · rw [hsubmitted]
    exact construct_working hconstruct hfresh
  · rw [hdelivered]
    exact List.forall_mem_nil _
  · rw [hsubmitted]
    exact List.forall_mem_nil _

/-- What is pending has been submitted. -/
lemma pending_submitted (h : (servedSystem cmath frames).Reachable s) {stream : ℕ} {item : QueuedOp}
    (hitem : item ∈ s.driver.device.queues stream) :
    item.frame ∈ s.backend.busyHandles ∧ (item.frame, frames item.frame) ∈ s.submitted := by
  have hpixels := reachable_inPixels h
  rcases hpixels.working with ⟨sizes, owned, hworking⟩
  rcases hworking.ordered.pending stream item hitem with hactive | ⟨slot, hslot, -, hbusy, hframe⟩
  · cases hactive
  · have hmem : item.frame ∈ s.backend.busyHandles := by
      rw [hframe]
      exact List.mem_map_of_mem (List.mem_filter.mpr ⟨hslot, hbusy⟩)
    have hissued : item.frame ∈ s.issued :=
      (reachable_inOrder (reachable_cuda h)).placed.subset
        (List.mem_append_left _ (List.mem_append_left _ hmem))
    rcases List.mem_map.mp hissued with ⟨entry, hentry, hhandle⟩
    refine ⟨hmem, ?_⟩
    rw [← hhandle, hpixels.submitted entry hentry]
    exact hentry

end Runs

/-! ## A frame whose kernel runs -/

namespace FilteredFrame

/-- One queue, on the first object that is handed out, and what has happened so far. -/
structure Bench where
  log : List DriverEvent := []
  queue : List QueuedOp := []
  next : ℕ := 0
  memory : Memory := { slots := fun _ => [10] }

/-- The bench as a device with one stream. -/
def Bench.gpu (b : Bench) : Gpu where
  device := {
    log := b.log
    queues := fun stream => if stream = 0 then b.queue else []
    next := b.next }
  memory := b.memory

/-- Every job is the same. -/
def frames : JobHandle → FrameJob := fun _ => job

/-- Threads run one after the other; a launch that comes to nothing fails. -/
def performLaunch (launch : KernelLaunch) (source destination : ℕ) (m : Memory) : Memory :=
  match (launch.over plainMath job (m.buffers source) (m.buffers destination)).bind
      fun call => launch.function.run call Schedule.inOrder with
  | some run => m.write destination run.dst
  | none => { m.write destination (m.buffers destination) with lost := true }

/-- What an operation does to the memory, if nothing fails. -/
def perform (item : QueuedOp) (m : Memory) : Memory :=
  match item.op with
  | .cuMemcpyHtoDAsync destination input bytes =>
      { m.write destination
          (overwrite ((m.slots input).take bytes.toNat) (m.buffers destination)) with
        copied := (item.frame, m.slots input) :: m.copied }
  | .cuLaunchKernel launch source destination => performLaunch launch source destination m
  | .cuMemcpyDtoHAsync staging source bytes =>
      m.write staging (overwrite ((m.buffers source).take bytes.toNat) (m.buffers staging))
  | .cuEventRecord _ => m

/-- All that is queued is done. -/
def drain (queue : List QueuedOp) (m : Memory) : Memory :=
  queue.foldl (fun m item => perform item m) m

/-- Everything that is pending is done when somebody asks. -/
def Bench.drained (b : Bench) : Bench := { b with queue := [], memory := drain b.queue b.memory }

/-- What an event says, depending on whether the context is still of use. -/
def verdict (m : Memory) : CUresult :=
  if m.lost then .failure "CUDA_ERROR_LAUNCH_FAILED" else .CUDA_SUCCESS

/-- The front of a buffer, which is long enough or is filled up. -/
def front (bytes : ℕ) (buffer : List UInt8) : { source : List UInt8 // source.length = bytes } :=
  ⟨buffer.take bytes ++ List.replicate (bytes - buffer.length) 0, by
    rw [List.length_append, List.length_take, List.length_replicate]
    omega⟩

/-- The call is entered in the log. -/
def Bench.enter (b : Bench) (call : DriverCall) (answer : DriverAnswer call) :
    DriverAnswer call × Bench :=
  (answer, { b with log := ⟨call, answer⟩ :: b.log })

/-- The bench with one more operation in its queue. -/
def Bench.push (b : Bench) (item : QueuedOp) : Bench := { b with queue := b.queue ++ [item] }

/-- New memory is empty, and new objects have new numbers. -/
def Bench.create (b : Bench) : Resource → Bench
  | .device bytes | .pinned bytes => { b with
      next := b.next + 1, memory := b.memory.write b.next (List.replicate bytes.toNat 0) }
  | _ => { b with next := b.next + 1 }

/-- A device on which nothing fails, except work for a stream that is not there. -/
def Bench.answer (b : Bench) : (call : DriverCall) → DriverAnswer call × Bench
  | .cuCtxCreate => { b with next := b.next + 1 }.enter .cuCtxCreate (.ok b.next)
  | .create resource => (b.create resource).enter (.create resource) (.ok b.next)
  | .cuCtxDestroy context => { b with queue := [], memory.lost := false }.enter
      (.cuCtxDestroy context) CUresult.CUDA_SUCCESS
  | .enqueue stream frame op =>
      if stream = 0 then (b.push ⟨frame, op⟩).enter
        (.enqueue stream frame op) CUresult.CUDA_SUCCESS
      else b.enter (.enqueue stream frame op) (CUresult.failure "CUDA_ERROR_INVALID_HANDLE")
  | .cuEventQuery event => b.drained.enter (.cuEventQuery event) (verdict b.drained.memory)
  | .cuEventSynchronize event =>
      b.drained.enter (.cuEventSynchronize event) (verdict b.drained.memory)
  | .read frame (.input slot) bytes => { b with
      memory.copied := (frame, b.memory.slots slot) :: b.memory.copied }.enter
        (.read frame (.input slot) bytes) (front bytes (b.memory.slots slot))
  | .read frame (.staging buffer) bytes =>
      b.enter (.read frame (.staging buffer) bytes) (front bytes (b.memory.buffers buffer))
  | call => b.enter call (InlineFrame.agreeable call)

/-- A run of one method. -/
def onBench {α : Type} (routine : Method plainMath α) (backend : CudaBackend plainMath)
    (b : Bench) : Option ((Except Exn α × CudaBackend plainMath) × Bench) :=
  (routine backend).eval Bench.answer b

/-- What is pending when the call is answered. -/
def Bench.ready (b : Bench) : DriverCall → Bench
  | .cuEventQuery _ | .cuEventSynchronize _ => b.drained
  | _ => b

section Work

variable {frames : JobHandle → FrameJob}
  (hsize : ∀ frame, (frames frame).width = 1 ∧ (frames frame).height = 1)

include hsize

lemma performLaunch_effect (frame : JobHandle) (launch : KernelLaunch) (source destination : ℕ)
    (m : Memory) : (machine plainMath frames).effect
      ⟨frame, .cuLaunchKernel launch source destination⟩ m
      (performLaunch launch source destination m) := by
  have hover : launch.over plainMath (frames frame) = launch.over plainMath job := by
    unfold KernelLaunch.over
    rw [(hsize frame).1, (hsize frame).2]
    rfl
  rw [performLaunch]
  split
  · rename_i run hrun
    rcases Option.bind_eq_some_iff.mp hrun with ⟨call, hcall, hrun⟩
    refine .inl ⟨call, Schedule.inOrder, run, ?_, hrun, rfl⟩
    rw [hover]
    exact hcall
  · exact .inr ⟨_, rfl, rfl⟩

lemma perform_step (item : QueuedOp) (m : Memory) :
    (machine plainMath frames).step item m (perform item m) := by
  intro _
  rcases item with ⟨frame, op⟩
  cases op with
  | cuMemcpyHtoDAsync destination input bytes => exact .inl rfl
  | cuLaunchKernel launch source destination =>
      exact performLaunch_effect hsize frame launch source destination m
  | cuMemcpyDtoHAsync staging source bytes => exact .inl rfl
  | cuEventRecord event => exact .inl rfl

omit hsize in
lemma update_front (item : QueuedOp) (rest : List QueuedOp) :
    Function.update (fun stream => if stream = 0 then item :: rest else []) 0 rest
      = fun stream => if stream = 0 then rest else [] := by
  funext stream
  by_cases hstream : stream = 0
  · rw [hstream, Function.update_self, if_pos rfl]
  · rw [Function.update_of_ne hstream, if_neg hstream, if_neg hstream]

lemma works_drain (queue : List QueuedOp) (m : Memory) :
    (machine plainMath frames).Works Outside (fun stream => if stream = 0 then queue else []) m
      (fun stream => if stream = 0 then [] else []) (drain queue m) := by
  induction queue generalizing m with
  | nil => exact .rest
  | cons item rest ih =>
      refine .perform (i := 0) rfl (perform_step hsize item m) ?_
      rw [update_front]
      exact ih (perform item m)

end Work

lemma copied_performLaunch (launch : KernelLaunch) (source destination : ℕ) (m : Memory) :
    (performLaunch launch source destination m).copied = m.copied := by
  rw [performLaunch]
  split <;> rfl

lemma copied_perform (item : QueuedOp) (m : Memory) : m.copied <:+ (perform item m).copied := by
  rcases item with ⟨frame, op⟩
  cases op with
  | cuMemcpyHtoDAsync destination input bytes => exact List.suffix_cons _ _
  | cuLaunchKernel launch source destination =>
      rw [perform, copied_performLaunch]
  | cuMemcpyDtoHAsync staging source bytes => exact List.suffix_refl _
  | cuEventRecord event => exact List.suffix_refl _

lemma copied_drain (queue : List QueuedOp) (m : Memory) : m.copied <:+ (drain queue m).copied := by
  induction queue generalizing m with
  | nil => exact List.suffix_refl _
  | cons item rest ih => exact (copied_perform item m).trans (ih (perform item m))

lemma push_gpu (b : Bench) (item : QueuedOp) :
    (b.push item).gpu.device.queues = b.gpu.device.push 0 item := by
  funext stream
  by_cases hstream : stream = 0
  · subst hstream
    rw [Device.push, Function.update_self]
    rfl
  · rw [Device.push, Function.update_of_ne hstream]
    exact (if_neg hstream).trans (if_neg hstream).symm

lemma success_of_verdict {m : Memory} (h : verdict m = CUresult.CUDA_SUCCESS) : m.lost = false := by
  rw [verdict] at h
  split at h
  · cases h
  · rename_i hlost
    exact Bool.eq_false_iff.mpr hlost

lemma front_of_le {bytes : ℕ} {buffer : List UInt8} (h : bytes ≤ buffer.length) :
    (front bytes buffer).1 = buffer.take bytes := by
  simp [front, Nat.sub_eq_zero_of_le h]

lemma drained_complete (b : Bench) (event : ℕ) : b.drained.gpu.device.Complete event := by
  intro stream item hitem
  have hnone : b.drained.gpu.device.queues stream = [] := ite_self _
  rw [hnone] at hitem
  cases hitem

/-- The bench answers as the device may. -/
lemma answer_answers (b : Bench) (call : DriverCall) :
    (b.ready call).gpu.Answers call (b.answer call).1 (b.answer call).2.gpu := by
  cases call with
  | create resource =>
      cases resource with
      | device bytes => exact ⟨⟨rfl, rfl, rfl⟩, rfl, ⟨_, List.length_replicate, rfl⟩⟩
      | pinned bytes => exact ⟨⟨rfl, rfl, rfl⟩, rfl, ⟨_, List.length_replicate, rfl⟩⟩
      | _ => exact ⟨⟨rfl, rfl, rfl⟩, rfl, rfl⟩
  | cuCtxCreate => exact ⟨⟨rfl, rfl, rfl⟩, rfl, rfl⟩
  | cuCtxDestroy context => exact ⟨⟨funext fun _ => ite_self _, rfl⟩, rfl, rfl⟩
  | enqueue stream frame op =>
      by_cases hstream : stream = 0
      · subst hstream
        exact ⟨⟨rfl, .inl (push_gpu b ⟨frame, op⟩)⟩, rfl, rfl⟩
      · rw [Bench.answer, if_neg hstream]
        exact ⟨⟨rfl, .inr ⟨CUresult.noConfusion, rfl⟩⟩, rfl, rfl⟩
  | cuEventQuery event =>
      refine ⟨⟨rfl, rfl, fun _ => drained_complete b event, ?_⟩, rfl, ⟨rfl, success_of_verdict⟩⟩
      intro what hwhat
      change verdict b.drained.memory = _ at hwhat
      rw [verdict] at hwhat
      split at hwhat <;> cases hwhat
  | cuEventSynchronize event =>
      exact ⟨⟨rfl, rfl, fun _ => drained_complete b event⟩, rfl, ⟨rfl, success_of_verdict⟩⟩
  | read frame buffer bytes =>
      cases buffer with
      | input slot => exact ⟨⟨rfl, rfl⟩, rfl, ⟨rfl, front_of_le⟩⟩
      | staging buffer => exact ⟨⟨rfl, rfl⟩, rfl, ⟨rfl, front_of_le⟩⟩
  | _ => exact ⟨⟨rfl, rfl⟩, rfl, rfl⟩

section Respond

variable {frames : JobHandle → FrameJob}
  (hsize : ∀ frame, (frames frame).width = 1 ∧ (frames frame).height = 1)

include hsize

lemma works_ready (b : Bench) (call : DriverCall) :
    (machine plainMath frames).Works Outside b.gpu.device.queues b.gpu.memory
      (b.ready call).gpu.device.queues (b.ready call).gpu.memory := by
  cases call with
  | cuEventQuery event => exact works_drain hsize b.queue b.memory
  | cuEventSynchronize event => exact works_drain hsize b.queue b.memory
  | _ => exact .rest

lemma answer_responds (b : Bench) (call : DriverCall) :
    (gpu plainMath frames).respond b.gpu call (b.answer call).1 (b.answer call).2.gpu := by
  have hanswers := answer_answers b call
  have hsame : (b.ready call).gpu.device.log = b.gpu.device.log
      ∧ (b.ready call).gpu.device.next = b.gpu.device.next := by
    cases call <;> exact ⟨rfl, rfl⟩
  have hcopied : b.memory.copied <:+ (b.answer call).2.gpu.memory.copied := by
    cases call with
    | create resource => cases resource <;> exact List.suffix_refl _
    | enqueue stream frame op =>
        rw [Bench.answer]
        split <;> exact List.suffix_refl _
    | cuEventQuery event => exact copied_drain b.queue b.memory
    | cuEventSynchronize event => exact copied_drain b.queue b.memory
    | read frame buffer bytes =>
        cases buffer with
        | input slot => exact List.suffix_cons _ _
        | staging buffer => exact List.suffix_refl _
    | _ => exact List.suffix_refl _
  exact ⟨(b.ready call).gpu, hsame.1, hsame.2, works_ready hsize b call, hanswers.device,
    by rw [hanswers.log, hsame.1], hanswers.memory, hcopied⟩

lemma returns_of_onBench {α : Type} {routine : Method plainMath α} {backend : CudaBackend plainMath}
    {b b' : Bench} {value : Except Exn α × CudaBackend plainMath}
    (h : onBench routine backend b = some (value, b')) :
    (routine backend).Returns (gpu plainMath frames) b.gpu value b'.gpu :=
  @Prog.returns_of_eval_state _ _ _ (gpu plainMath frames) _ _ Bench.gpu (answer_responds hsize)
    _ _ _ _ h

end Respond

/-- A slot is built, the frame is submitted, and the completion is polled. -/
def painted : Option (Except Exn JobHandle × Except Exn (List Completion) × Bench) :=
  (onBench (allocateSlots 1 1) backend {}).bind fun managed =>
    (onBench (submit job 1) managed.1.2 managed.2).bind fun submitted =>
      (onBench pollCompletions submitted.1.2 submitted.2).map fun polled =>
        (submitted.1.1, polled.1.1, polled.2)

/-- What a completion says, and the bytes of its picture. -/
def picture (completion : Completion) : JobStatus × List UInt8 :=
  (completion.status, (completion.output.map Image.pixels).getD [])

/-- What the run returns. -/
def shown (run : Except Exn JobHandle × Except Exn (List Completion) × Bench) :
    Option JobHandle × Option (List (JobStatus × List UInt8)) :=
  (run.1.toOption, run.2.1.toOption.map (List.map picture))

/-- One handle, and then the inverted pixel. -/
theorem painted_shown : painted.map shown = some (some 1, some [(JobStatus.kOk, [245])]) := by
  decide +kernel

end FilteredFrame

end Imgjit
