import Imgjit.Cuda.CallsEnd
import Imgjit.Cuda.OwnershipRuns
import Imgjit.Cuda.Refusals
import Imgjit.Cuda.LaunchShape

/-!
# A driver that does what it is asked

What a `CudaBackend` makes of answers without a failure: it throws nothing but refusals of frames
that cannot be served, and rebuilds no context.  Here are the single calls; the runs are in
`FaultlessRuns.lean`.

**Answers without a failure.**  `Obliging` are the answers without a failure.  A driver that gives
only these may still call an event unready, and it may refuse a launch whose shape is not one that
every device accepts; a driver that could not would not exist.  `Environment.only` restricts a
driver to such answers.

**Frames that can be served.**  `FrameJob.Launchable` are the frames whose kernels have such a
shape, and `FrameJob.Serviceable` those that a backend has room for.

**Methods that go well.**  `CudaBackend.Steady` is the effect of a method that keeps the context and
the slots, and adds nothing to the completed list but successes and what is excused.
`CudaBackend.Flawless` is the effect of one that excuses nothing.

**Frames.**  `CudaBackend.submit_judged` is the call of the worker: a frame that can be served is on
its way, or is a success already if its chain is empty, and another one is an error entry that names
what is wrong with it.  `CudaBackend.allocateSlots_fit` says that the slots that are made have the
room they are made for.
-/

namespace Imgjit

open Interaction

namespace Cuda

/-! ## Answers without a failure -/

/-- A call that does what it is asked.  What is given back is of no consequence. -/
def Obliging : (call : DriverCall) → DriverAnswer call → Prop
  | .cuCtxCreate, answer => ∃ id, answer = Except.ok id
  | .create _, answer => ∃ id, answer = Except.ok id
  | .load _, answer => answer = LoadResult.loaded
  | .enqueue _ _ (.cuLaunchKernel launch _ _), answer =>
      launch.Accepted → answer = CUresult.CUDA_SUCCESS
  | .enqueue _ _ _, answer => answer = CUresult.CUDA_SUCCESS
  | .cuMemHostRegister, answer => answer = CUresult.CUDA_SUCCESS
  | .cuEventQuery _, answer => ∀ what, answer ≠ CUresult.failure what
  | .cuEventSynchronize _, answer => answer = CUresult.CUDA_SUCCESS
  | .cuEventElapsedTime _ _, answer => answer = CUresult.CUDA_SUCCESS
  | _, _ => True

/-- A driver that never fails. -/
def ObligingDriver (env : Environment DriverCall DriverAnswer) : Prop :=
  ∀ e call answer e', env.respond e call answer e' → Obliging call answer

lemma obliging_only (env : Environment DriverCall DriverAnswer) :
    ObligingDriver (env.only Obliging) :=
  fun _ _ _ _ h => h.2

/-- A driver that gives only some of its answers promises no less. -/
def EventOrder.only {env : Environment DriverCall DriverAnswer} (order : EventOrder env)
    (P : (call : DriverCall) → DriverAnswer call → Prop) : EventOrder (env.only P) where
  Complete := order.Complete
  waited e event e' h := order.waited e event e' h.1
  kept e call answer e' event hcall h := order.kept e call answer e' event hcall h.1
  ready e event what e' h := order.ready e event what e' h.1

end Cuda

open Cuda

/-! ## Frames that can be served -/

/-- The chain comes from the parser, and a frame that passes the checks has kernels of a shape that
every device accepts. -/
def FrameJob.Launchable (config : BackendConfig) (job : FrameJob) : Prop :=
  Parsed job.chain ∧ (Image.Shaped job.width job.height job.channels →
    job.height.toInt.toNat ≤ 65535 * blockEdge (config.keyFor job.chain job.channels))

/-- The frame passes the checks, and a slot has room for it. -/
structure FrameJob.Serviceable (slotBytes : UInt64) (job : FrameJob) : Prop where
  input : job.input ≠ none
  shaped : Image.Shaped job.width job.height job.channels
  packed : job.stride = sizeT job.width * sizeT job.channels
  /-- An identity pass needs no buffer. -/
  room : job.chain.ops ≠ [] →
    sizeT job.width * sizeT job.channels * sizeT job.height ≤ slotBytes

namespace CudaBackend

variable {cmath : CMath} {env : Environment DriverCall DriverAnswer}
  {backend before middle after : CudaBackend cmath} {e : env.State}

/-! ## Methods that go well -/

/-- No context is rebuilt, no slot is lost, and every new completion is a success or excused. -/
structure Steady (excused : Completion → Prop) (before after : CudaBackend cmath) : Prop where
  context : after.context = before.context
  config : after.config = before.config
  slotBytes : after.slotBytes = before.slotBytes
  streamCount : after.streamCount = before.streamCount
  recreations : after.contextRecreations = before.contextRecreations
  slots : after.streams.length = before.streams.length
  completed : ∃ more, after.completed = before.completed ++ more
    ∧ ∀ completion ∈ more, completion.status = .kOk ∨ excused completion

/-- None is excused. -/
abbrev Flawless (before after : CudaBackend cmath) : Prop := Steady (fun _ => False) before after

variable {excused : Completion → Prop}

lemma Steady.refl (backend : CudaBackend cmath) : Steady excused backend backend :=
  ⟨rfl, rfl, rfl, rfl, rfl, rfl, [], (List.append_nil _).symm, fun _ h => by cases h⟩

lemma Steady.trans (h : Steady excused before middle) (h' : Steady excused middle after) :
    Steady excused before after where
  context := h'.context.trans h.context
  config := h'.config.trans h.config
  slotBytes := h'.slotBytes.trans h.slotBytes
  streamCount := h'.streamCount.trans h.streamCount
  recreations := h'.recreations.trans h.recreations
  slots := h'.slots.trans h.slots
  completed := by
    rcases h.completed with ⟨first, hfirst, hfirst'⟩
    rcases h'.completed with ⟨second, hsecond, hsecond'⟩
    refine ⟨first ++ second, ?_, ?_⟩
    · rw [hsecond, hfirst, List.append_assoc]
    · intro completion hmem
      rcases List.mem_append.mp hmem with hmem | hmem
      · exact hfirst' completion hmem
      · exact hsecond' completion hmem

lemma Steady.excuse (h : Flawless before after) : Steady excused before after where
  context := h.context
  config := h.config
  slotBytes := h.slotBytes
  streamCount := h.streamCount
  recreations := h.recreations
  slots := h.slots
  completed := by
    rcases h.completed with ⟨more, hmore, hok⟩
    exact ⟨more, hmore, fun completion hmem => .inl ((hok completion hmem).resolve_right id)⟩

/-- One completion more. -/
lemma steady_complete (completion : Completion)
    (h : completion.status = .kOk ∨ excused completion) :
    Steady excused backend { backend with completed := backend.completed ++ [completion] } where
  context := rfl
  config := rfl
  slotBytes := rfl
  streamCount := rfl
  recreations := rfl
  slots := rfl
  completed := by
    refine ⟨[completion], rfl, ?_⟩
    intro other hother
    rw [List.mem_singleton.mp hother]
    exact h

/-- Of the exceptions, none is a driver's. -/
def NoFault {α : Type} (result : Except Exn α) : Prop :=
  ∀ what, result ≠ .error (.cudaError what)

lemma noFault_ok {α : Type} (value : α) : NoFault (.ok value) := by
  intro what herror
  cases herror

lemma noFault_error {α : Type} {error : Exn} (h : ∀ what, error ≠ .cudaError what) :
    NoFault (.error error : Except Exn α) := by
  rintro what ⟨⟩
  exact h what rfl

/-- `CU_CHECK` of a call that went well. -/
lemma wp_obliged {α : Type} {result : CUresult} (hresult : result = .CUDA_SUCCESS)
    {rest : Unit → Method cmath α} {Q : Except Exn α → CudaBackend cmath → env.State → Prop}
    (hrest : Routine.wp env (rest ()) Q backend e) :
    Routine.wp env (cuCheck result >>= rest) Q backend e := by
  subst hresult
  exact hrest

/-- A key that has a source is compiled, or has been; the compiler's own failures apart. -/
structure Fetched (cmath : CMath) (key : KernelKey) (result : Except Exn CompiledChain) : Prop where
  noFault : NoFault result
  entry : ∀ compiled, result = .ok compiled →
    ∃ entry : CacheEntry cmath, entry.compiled = compiled ∧ entry.key.beq key = true
  compiled : ∀ program, emitCudaSource cmath key = .ok program →
    ∃ compiled, result = .ok compiled

lemma fetched_get (cache : KernelCache cmath) (key : KernelKey) :
    Fetched cmath key (cache.get key none).1 := by
  cases hget : (cache.get key none).1 with
  | ok compiled =>
      refine ⟨noFault_ok compiled, ?_, fun _ _ => ⟨compiled, rfl⟩⟩
      rintro _ ⟨⟩
      exact KernelCache.get_entry hget
  | error error =>
      have hmissed := KernelCache.get_error (Prod.ext hget rfl)
      have hsource := hmissed.2.2.resolve_right fun hnone => by cases hnone
      refine ⟨noFault_error ?_, ?_, ?_⟩
      · rintro what rfl
        rcases emitCudaSource_invalidArgument key _ hsource with ⟨_, hinvalid⟩
        cases hinvalid
      · intro compiled hok
        cases hok
      · intro program hprogram
        rw [hsource] at hprogram
        cases hprogram

section Obliging

variable (hdriver : ObligingDriver env)

include hdriver

lemma retireSlot_flawless (hwell : backend.WellFormed) {index : ℕ} {slot : StreamSlot}
    (hslot : backend.streams[index]? = some slot) :
    Routine.wp env (retireSlot index slot)
      (fun result after _ => result = .ok () ∧ Flawless backend after) backend e := by
  rw [retireSlot]
  split
  · exact ⟨rfl, .refl backend⟩
  · rename_i hbusy
    rw [Bool.not_eq_true', Bool.not_eq_false] at hbusy
    refine Routine.wp_ask_bind.mpr fun status e₁ hstatus => ?_
    cases status with
    | CUDA_ERROR_NOT_READY what => exact ⟨rfl, .refl backend⟩
    | failure what => exact absurd rfl (hdriver _ _ _ _ hstatus what)
    | CUDA_SUCCESS =>
        refine Routine.wp_ask_bind.mpr fun elapsed e₂ helapsed => ?_
        refine wp_obliged (hdriver _ _ _ _ helapsed) ?_
        refine Routine.wp_ask_bind.mpr fun source e₃ _ => ?_
        rcases fromBytes_staging (hwell.shaped slot (List.mem_of_getElem? hslot) hbusy) source.2
          with ⟨image, himage⟩
        rw [himage]
        refine ⟨rfl, rfl, rfl, rfl, rfl, rfl, List.length_set, _, rfl, ?_⟩
        intro completion hmem
        rw [List.mem_singleton.mp hmem]
        exact .inl rfl

lemma retireFrom_flawless (hwell : backend.WellFormed) (index rest : ℕ) :
    Routine.wp env (retireFrom index rest)
      (fun result after _ => result = .ok () ∧ Flawless backend after) backend e := by
  induction rest generalizing backend index e with
  | zero => exact ⟨rfl, .refl backend⟩
  | succ rest ih =>
      refine Routine.wp_get_bind.mpr ?_
      cases hslot : backend.streams[index]? with
      | none => exact ⟨rfl, .refl backend⟩
      | some slot =>
          refine ((retireSlot_flawless hdriver hwell hslot).and
            (retireSlot_retired hwell hslot)).bind ?_ ?_
          · rintro _ middle e₁ ⟨⟨-, hmiddle⟩, hretired⟩
            refine (ih hretired.keeps.wellFormed (index + 1)).mono ?_
            rintro result after _ ⟨hresult, hafter⟩
            exact ⟨hresult, hmiddle.trans hafter⟩
          · rintro error after e₁ ⟨⟨herror, -⟩, -⟩
            cases herror

lemma retireReadyStreams_flawless (hwell : backend.WellFormed) :
    Routine.wp env retireReadyStreams
      (fun result after _ => result = .ok () ∧ Flawless backend after) backend e :=
  Routine.wp_get_bind.mpr (retireFrom_flawless hdriver hwell 0 _)

omit hdriver in
lemma exists_oldest {slots : List StreamSlot} (h : slots ≠ []) : ∃ slot, oldest slots = some slot := by
  cases slots with
  | nil => exact absurd rfl h
  | cons first rest =>
      rw [oldest]
      cases oldest rest with
      | none => exact ⟨first, rfl⟩
      | some other =>
          dsimp only
          split
          · exact ⟨other, rfl⟩
          · exact ⟨first, rfl⟩

lemma claimStream_flawless (hwell : backend.WellFormed) (hstreams : backend.streams ≠ [])
    (turns : ℕ) :
    Routine.wp env (claimStream turns)
      (fun result after _ => (∃ index, result = .ok index) ∧ Flawless backend after)
      backend e := by
  induction turns generalizing backend e with
  | zero => trivial
  | succ turns ih =>
      refine Routine.wp_get_bind.mpr ?_
      split
      · rename_i index _
        exact ⟨⟨index, rfl⟩, .refl backend⟩
      · rcases exists_oldest hstreams with ⟨slot, hslot⟩
        rw [hslot]
        refine Routine.wp_ask_bind.mpr fun answer e₁ hanswer => ?_
        refine wp_obliged (hdriver _ _ _ _ hanswer) ?_
        refine ((retireReadyStreams_flawless hdriver hwell).and
          (retireReadyStreams_retired hwell)).bind ?_ ?_
        · rintro _ swept e₂ ⟨⟨-, hswept⟩, hretired⟩
          have hleft : swept.streams ≠ [] := by
            rw [← List.length_pos_iff_ne_nil, hswept.slots, List.length_pos_iff_ne_nil]
            exact hstreams
          refine (ih hretired.keeps.wellFormed hleft).mono ?_
          rintro result after _ ⟨hresult, hafter⟩
          exact ⟨hresult, hswept.trans hafter⟩
        · rintro error after e₂ ⟨⟨herror, -⟩, -⟩
          cases herror

lemma cacheGet_flawless (key : KernelKey) :
    Routine.wp env (cacheGet key)
      (fun result after _ => Flawless backend after ∧ Fetched cmath key result) backend e := by
  have hrest : ∀ e', Routine.wp env (do
      modify fun backend => { backend with cache := (backend.cache.get key none).2 }
      ofExcept (backend.cache.get key none).1 : Method cmath CompiledChain)
      (fun result after _ => Flawless backend after ∧ Fetched cmath key result) backend e' := by
    intro e'
    have hflawless : Flawless backend
        { backend with cache := (backend.cache.get key none).2 } :=
      ⟨rfl, rfl, rfl, rfl, rfl, rfl, [], (List.append_nil _).symm, fun _ h => by cases h⟩
    have hfetched := fetched_get backend.cache key
    refine Routine.wp_modify_bind.mpr ?_
    cases hget : (backend.cache.get key none).1 with
    | ok compiled => exact ⟨hflawless, hget ▸ hfetched⟩
    | error error => exact ⟨hflawless, hget ▸ hfetched⟩
  refine Routine.wp_get_bind.mpr ?_
  split
  · refine Routine.wp_ask_bind.mpr fun answer e₁ hanswer => ?_
    obtain rfl : answer = LoadResult.loaded := hdriver _ _ _ _ hanswer
    exact hrest e₁
  · exact hrest e

/-- Work that every device takes. -/
lemma enqueue_flawless {stream : ℕ} {frame : JobHandle} {op : StreamOp}
    (hop : ∀ launch source destination, op = .cuLaunchKernel launch source destination →
      launch.Accepted) :
    Routine.wp env (enqueue stream frame op)
      (fun result after _ => result = .ok () ∧ after = backend) backend e := by
  refine Routine.wp_ask_bind.mpr fun answer e₁ hanswer => ?_
  have hobliged := hdriver _ _ _ _ hanswer
  have hsuccess : answer = CUresult.CUDA_SUCCESS := by
    cases op with
    | cuLaunchKernel launch source destination => exact hobliged (hop launch source destination rfl)
    | cuMemcpyHtoDAsync destination input bytes => exact hobliged
    | cuMemcpyDtoHAsync staging source bytes => exact hobliged
    | cuEventRecord event => exact hobliged
  rw [hsuccess]
  exact ⟨rfl, rfl⟩

lemma launchKernels_flawless {stream : ℕ} {frame : JobHandle} {launches : List KernelLaunch}
    (h : ∀ launch ∈ launches, launch.Accepted) (source destination : ℕ) :
    Routine.wp env (launchKernels stream frame launches source destination)
      (fun result after _ => (∃ buffer, result = .ok buffer) ∧ after = backend) backend e := by
  induction launches generalizing source destination e with
  | nil => exact ⟨⟨source, rfl⟩, rfl⟩
  | cons launch rest ih =>
      refine (enqueue_flawless hdriver ?_).bind ?_ ?_
      · rintro _ _ _ ⟨⟩
        exact h launch List.mem_cons_self
      · rintro _ _ e₁ ⟨-, rfl⟩
        exact ih (fun launch hlaunch => h launch (List.mem_cons_of_mem _ hlaunch)) _ _
      · rintro error _ e₁ ⟨herror, -⟩
        cases herror

/-- **The work of one frame is queued.** -/
lemma queueFrame_flawless {job : FrameJob} {handle : JobHandle} {input index : ℕ}
    {bytes : UInt64} {compiled : CompiledChain} {slot : StreamSlot}
    (h : ∀ launch ∈ framePlan cmath job compiled, launch.Accepted) :
    Routine.wp env (queueFrame job handle input bytes compiled index slot)
      (fun result after _ => result = .ok () ∧ Flawless backend after) backend e := by
  have hthrow : ∀ (error : Exn) (after : CudaBackend cmath) (e' : env.State),
      (Except.error error : Except Exn Unit) = .ok () ∧ after = backend →
        (Except.error error : Except Exn Unit) = .ok () ∧ Flawless backend after := by
    rintro error after e' ⟨herror, -⟩
    cases herror
  refine (enqueue_flawless hdriver fun _ _ _ hop => by cases hop).bind ?_ hthrow
  rintro _ _ e₁ ⟨-, rfl⟩
  refine (enqueue_flawless hdriver fun _ _ _ hop => by cases hop).bind ?_ hthrow
  rintro _ _ e₂ ⟨-, rfl⟩
  refine (launchKernels_flawless hdriver h _ _).bind ?_ ?_
  · rintro source _ e₃ ⟨-, rfl⟩
    refine (enqueue_flawless hdriver fun _ _ _ hop => by cases hop).bind ?_ hthrow
    rintro _ _ e₄ ⟨-, rfl⟩
    refine (enqueue_flawless hdriver fun _ _ _ hop => by cases hop).bind ?_ hthrow
    rintro _ _ e₅ ⟨-, rfl⟩
    refine (enqueue_flawless hdriver fun _ _ _ hop => by cases hop).bind ?_ hthrow
    rintro _ _ e₆ ⟨-, rfl⟩
    exact ⟨rfl, rfl, rfl, rfl, rfl, rfl, List.length_set, [], (List.append_nil _).symm,
      fun _ hmem => by cases hmem⟩
  · rintro error _ e₃ ⟨⟨buffer, hbuffer⟩, -⟩
    cases hbuffer

end Obliging

/-! ## Frames -/

/-- What a backend must be to serve. -/
structure Fit (backend : CudaBackend cmath) : Prop where
  context : backend.context ≠ none
  tile : isSupportedTile backend.config.tile backend.config.tileSize = true
  constants : isSupportedConstants backend.config.constants backend.config.tile = true
  count : backend.streamCount ≠ 0
  slots : backend.slotBytes ≠ 0 → backend.streams ≠ []

lemma Fit.steady (h : Fit before) (hsteady : Steady excused before after) : Fit after where
  context := by
    rw [hsteady.context]
    exact h.context
  tile := by
    rw [hsteady.config]
    exact h.tile
  constants := by
    rw [hsteady.config]
    exact h.constants
  count := by
    rw [hsteady.streamCount]
    exact h.count
  slots := by
    rw [hsteady.slotBytes, ← List.length_pos_iff_ne_nil, hsteady.slots,
      List.length_pos_iff_ne_nil]
    exact h.slots

/-- The code generator takes what such a backend asks of it. -/
lemma Fit.source (h : Fit backend) {job : FrameJob} (hjob : job.Launchable backend.config)
    (hshaped : Image.Shaped job.width job.height job.channels) :
    ∃ program, emitCudaSource cmath (backend.config.keyFor job.chain job.channels)
      = .ok program := by
  refine emitCudaSource_supported cmath hjob.1 ?_
  exact not_unsupported_iff.mpr ⟨hshaped.2.2, h.tile, h.constants⟩

/-- The kernels of such a frame have a shape that every device accepts. -/
lemma framePlan_accepted {job : FrameJob} (hjob : job.Launchable backend.config)
    (hshaped : Image.Shaped job.width job.height job.channels) {entry : CacheEntry cmath}
    (hentry : entry.key.beq (backend.config.keyFor job.chain job.channels) = true) :
    ∀ launch ∈ framePlan cmath job entry.compiled, launch.Accepted := by
  intro launch hlaunch
  have hspans := framePlan_spans job entry hentry launch hlaunch
  exact (hspans.accepted_iff hshaped).2.2.mpr (hjob.2 hshaped)

/-- A frame is not empty. -/
lemma frameBytes_ne_zero {width height channels : Int32}
    (h : Image.Shaped width height channels) :
    sizeT width * sizeT channels * sizeT height ≠ 0 := by
  intro hzero
  have hbytes := Image.byteCount_no_wrap h.1 h.2.1 h.2.2
  have hchannels := (isSupportedChannelCount_iff channels).mp h.2.2
  have hpositive : 0 < width.toInt.toNat * channels.toInt.toNat * height.toInt.toNat :=
    Nat.mul_pos (Nat.mul_pos (by have := h.1; omega) (by omega)) (by have := h.2.1; omega)
  rw [hzero] at hbytes
  exact absurd hbytes (Nat.ne_of_lt hpositive)

section Obliging

variable (hdriver : ObligingDriver env)

include hdriver

lemma launchChain_flawless (hwell : backend.WellFormed) (hfit : Fit backend) {job : FrameJob}
    (hjob : job.Launchable backend.config)
    (hshaped : Image.Shaped job.width job.height job.channels) {bytes : UInt64}
    (hbytes : bytes = sizeT job.width * sizeT job.channels * sizeT job.height)
    (handle : JobHandle) (input turns : ℕ) :
    Routine.wp env (launchChain job handle input bytes turns)
      (fun result after _ => Flawless backend after ∧ NoFault result
        ∧ (result = .ok () ↔ bytes ≤ backend.slotBytes)) backend e := by
  rcases hfit.source hjob hshaped with ⟨program, hprogram⟩
  refine Routine.wp_get_bind.mpr (((cacheGet_flawless hdriver _).and
    (cacheGet_keeps hwell _)).bind ?_ ?_)
  · rintro compiled cached e₁ ⟨⟨hcached, hfetched⟩, hkeeps, -⟩
    rcases hfetched.entry compiled rfl with ⟨entry, rfl, hbeq⟩
    split
    · rename_i hfull
      refine ⟨hcached, noFault_error (fun _ herror => nomatch herror), ?_, ?_⟩
      · intro hok
        cases hok
      intro hroom
      have hallocated : backend.slotBytes ≠ 0 := by
        intro hzero
        rw [hzero, UInt64.le_zero_iff, hbytes] at hroom
        exact frameBytes_ne_zero hshaped hroom
      rcases hfull with hempty | hsmall
      · exact absurd (List.isEmpty_iff.mp hempty) (hfit.slots hallocated)
      · exact absurd hroom (UInt64.not_le.mpr hsmall)
    · rename_i hfull
      have hstreams : cached.streams ≠ [] := by
        rw [← List.length_pos_iff_ne_nil, hcached.slots, List.length_pos_iff_ne_nil]
        exact fun hempty => hfull (.inl (List.isEmpty_iff.mpr hempty))
      refine ((claimStream_flawless hdriver hkeeps.wellFormed hstreams turns).and
        (claimStream_claimed hkeeps.wellFormed turns)).bind ?_ ?_
      · rintro index claimed e₂ ⟨⟨-, hclaimed⟩, hfree⟩
        refine Routine.wp_get_bind.mpr ?_
        rcases hfree.free index rfl with ⟨slot, hslot, -⟩
        rw [hslot]
        refine (queueFrame_flawless hdriver (framePlan_accepted hjob hshaped hbeq)).mono ?_
        rintro result after e₃ ⟨rfl, hafter⟩
        refine ⟨(hcached.trans hclaimed).trans hafter, noFault_ok (), fun _ => ?_, fun _ => rfl⟩
        exact UInt64.not_lt.mp fun hsmall => hfull (.inr hsmall)
      · rintro error after e₂ ⟨⟨⟨index, hindex⟩, -⟩, -⟩
        cases hindex
  · rintro error after e₁ ⟨⟨hcached, hfetched⟩, -⟩
    rcases hfetched.compiled program hprogram with ⟨compiled, hcompiled⟩
    cases hcompiled

/-- **A frame is taken if it can be served**, and no frame makes the driver fail. -/
lemma launch_flawless (hwell : backend.WellFormed) (hfit : Fit backend) {job : FrameJob}
    (hjob : job.Launchable backend.config) (handle : JobHandle) (turns : ℕ) :
    Routine.wp env (launch job handle turns)
      (fun result after _ => Flawless backend after ∧ NoFault result
        ∧ (result = .ok () ↔ job.Serviceable backend.slotBytes)) backend e := by
  have hrefused : ∀ error : Exn, (∀ what, error ≠ .cudaError what) →
      ¬job.Serviceable backend.slotBytes → Flawless backend backend
        ∧ NoFault (.error error : Except Exn Unit)
        ∧ ((.error error : Except Exn Unit) = .ok () ↔ job.Serviceable backend.slotBytes) :=
    fun error herror hjob => ⟨.refl backend, noFault_error herror, fun hok => (nomatch hok),
      fun h => absurd h hjob⟩
  refine Routine.wp_get_bind.mpr ?_
  split
  · rename_i hcontext
    exact absurd (Option.isNone_iff_eq_none.mp hcontext) hfit.context
  split
  · rename_i hinput
    exact hrefused _ (fun what herror => by cases herror) fun h => h.input hinput
  · rename_i input hinput
    have hinput' : job.input ≠ none := by
      rw [hinput]
      exact Option.some_ne_none input
    dsimp only
    split
    · rename_i hshaped
      exact hrefused _ (fun what herror => by cases herror) fun h => hshaped h.shaped
    rename_i hshaped
    split
    · rename_i hpacked
      exact hrefused _ (fun what herror => by cases herror) fun h => hpacked h.packed
    rename_i hpacked
    rw [not_not] at hshaped hpacked
    split
    · rename_i hidentity
      refine Routine.wp_ask_bind.mpr fun source e₁ _ => ?_
      rcases fromBytes_staging hshaped source.2 with ⟨image, himage⟩
      rw [hpacked, himage]
      exact ⟨steady_complete _ (.inl rfl), noFault_ok (),
        fun _ => ⟨hinput', hshaped, hpacked, fun hops => absurd hidentity hops⟩, fun _ => rfl⟩
    · rename_i hops
      refine (launchChain_flawless hdriver hwell hfit hjob hshaped rfl handle input turns).mono ?_
      rintro result after e₁ ⟨hafter, hfault, hok⟩
      exact ⟨hafter, hfault, fun h => ⟨hinput', hshaped, hpacked, fun _ => hok.mp h⟩,
        fun h => hok.mpr (h.room hops)⟩

/-- The frame that is refused, if it is. -/
def RefusedAs (handle : JobHandle) (slotBytes : UInt64) (job : FrameJob) (completion : Completion) :
    Prop :=
  completion.handle = handle ∧ ¬job.Serviceable slotBytes

/-- What a submission leaves: a frame that cannot be served has its answer. -/
structure Judged (job : FrameJob) (before after : CudaBackend cmath) : Prop where
  steady : Steady (RefusedAs before.nextHandle before.slotBytes job) before after
  refused : ¬job.Serviceable before.slotBytes → ∃ completion ∈ after.completed,
    completion.handle = before.nextHandle ∧ completion.status = .kError

/-- **`submit`** refuses what cannot be served, and nothing else. -/
theorem submit_judged (hwell : backend.WellFormed) (hfit : Fit backend) {job : FrameJob}
    (hjob : job.Launchable backend.config) (turns : ℕ) :
    Routine.wp env (submit job turns) (fun _ after _ => Judged job backend after) backend e := by
  refine Routine.wp_get_bind.mpr (Routine.wp_modify_bind.mpr ?_)
  have hbumped : Steady (RefusedAs backend.nextHandle backend.slotBytes job) backend
      { backend with nextHandle := backend.nextHandle + 1 } :=
    ⟨rfl, rfl, rfl, rfl, rfl, rfl, [], (List.append_nil _).symm, fun _ h => by cases h⟩
  have hwell' : WellFormed { backend with nextHandle := backend.nextHandle + 1 } :=
    ⟨hwell.few, hwell.shaped, hwell.host⟩
  have hfit' : Fit { backend with nextHandle := backend.nextHandle + 1 } := hfit.steady hbumped
  refine Routine.wp.bind (P := fun _ after _ => Judged job backend after)
    ((launch_flawless hdriver hwell' hfit' hjob backend.nextHandle turns).handled ?_ ?_)
    (fun _ _ _ h => h) fun _ _ _ h => h
  · rintro _ after e₁ ⟨hafter, -, hok⟩
    exact ⟨hbumped.trans hafter.excuse, fun hrefused => absurd (hok.mp rfl) hrefused⟩
  · rintro error middle e₁ ⟨hmiddle, hfault, hok⟩
    have hrefused : ¬job.Serviceable backend.slotBytes := by
      intro hserviceable
      cases hok.mpr hserviceable
    have hfail : ∀ reason, Routine.wp env (failJob backend.nextHandle reason)
        (fun _ after _ => Judged job backend after) middle e₁ := fun reason =>
      ⟨(hbumped.trans hmiddle.excuse).trans (steady_complete _ (.inr ⟨rfl, hrefused⟩)),
        fun _ => ⟨failure backend.nextHandle reason, List.mem_append_right _ List.mem_cons_self,
          rfl, rfl⟩⟩
    cases error with
    | cudaError what => exact absurd rfl (hfault what)
    | nvrtcError what => exact hfail what
    | invalidArgument what => exact hfail what
    | logicError what => exact hfail what
    | outOfRange what => exact hfail what
    | lengthError what => exact hfail what
    | runtimeError what => exact hfail what
    | outOfBounds => exact hfail ""

/-- **`pollCompletions`** hands out what went well. -/
lemma pollCompletions_flawless (hwell : backend.WellFormed) :
    Routine.wp env pollCompletions (fun result after _ => ∃ middle, Flawless backend middle
      ∧ result = .ok middle.completed ∧ after = { middle with completed := [] }) backend e := by
  refine Routine.wp.bind (P := fun result after _ => result = .ok () ∧ Flawless backend after)
    ((retireReadyStreams_flawless hdriver hwell).handled (fun _ _ _ h => h) ?_) ?_ ?_
  · rintro error middle e₁ ⟨herror, -⟩
    cases herror
  · rintro _ middle e₁ ⟨-, hmiddle⟩
    exact ⟨middle, hmiddle, rfl, rfl⟩
  · rintro error middle e₁ ⟨herror, -⟩
    cases herror

/-- A poll that finds every frame done leaves none behind. -/
lemma pollCompletions_empties (order : EventOrder env) (hwell : backend.WellFormed)
    (hdone : ∀ slot ∈ backend.streams, slot.busy = true → order.Complete e slot.done) :
    Routine.wp env pollCompletions (fun _ after _ => after.busyHandles = []) backend e := by
  have hswept : Routine.wp env retireReadyStreams (fun result after _ => result = .ok ()
      ∧ ∀ slot ∈ after.streams, slot.busy = false) backend e := by
    refine Prog.wp_iff_returns.mpr ?_
    rintro ⟨result, after⟩ e' hreturns
    have hflawless : result = .ok () ∧ Flawless backend after :=
      Prog.wp_iff_returns.mp (retireReadyStreams_flawless hdriver hwell) _ _ hreturns
    refine ⟨hflawless.1, fun slot hslot => ?_⟩
    rcases List.getElem?_of_mem hslot with ⟨i, hi⟩
    have hlt : i < backend.streams.length := by
      rw [← hflawless.2.slots]
      exact (List.getElem?_eq_some_iff.mp hi).1
    have hbefore := List.getElem?_eq_getElem hlt
    have hfreed : Freed order i 0 backend.streams[i] backend e := by
      cases hbusy : backend.streams[i].busy with
      | false => exact .inl ⟨_, hbefore, hbusy⟩
      | true => exact .inr ⟨Nat.zero_le i, hbefore, hdone _ (List.getElem_mem hlt) hbusy⟩
    have hafter : result = .ok () → ∃ other, after.streams[i]? = some other ∧ other.busy = false :=
      Prog.wp_iff_returns.mp
        (Routine.wp_get_bind.mpr (retireFrom_freed hwell hfreed (Nat.zero_add _))) _ _ hreturns
    rcases hafter hflawless.1 with ⟨other, hother, hidle⟩
    obtain rfl : slot = other := Option.some.inj (hi.symm.trans hother)
    exact hidle
  refine Routine.wp.bind (P := fun result after _ => result = .ok ()
    ∧ ∀ slot ∈ after.streams, slot.busy = false) (hswept.handled (fun _ _ _ h => h) ?_) ?_ ?_
  · rintro error middle e₁ ⟨herror, -⟩
    cases herror
  · rintro _ middle e₁ ⟨-, hidle⟩
    refine List.map_eq_nil_iff.mpr (List.filter_eq_nil_iff.mpr fun slot hslot => ?_)
    rw [hidle slot hslot]
    exact Bool.false_ne_true
  · rintro error middle e₁ ⟨herror, -⟩
    cases herror

lemma prewarm_flawless (chain : OpChain) (channels : Int32) :
    Routine.wp env (prewarm chain channels) (fun _ after _ => Flawless backend after) backend e := by
  rw [prewarm]
  split
  · exact .refl backend
  · refine Routine.wp_get_bind.mpr ((cacheGet_flawless hdriver _).bind ?_ ?_)
    · rintro _ after e₁ ⟨hafter, -⟩
      exact hafter
    · rintro _ after e₁ ⟨hafter, -⟩
      exact hafter

/-! ## Slots -/

lemma holding_obliged {α : Type} {resource : Resource} {rest : ℕ → Method cmath α}
    (h : ∀ id e', Routine.wp env (rest id)
      (fun result after _ => (∃ value, result = .ok value) ∧ after = backend) backend e') :
    Routine.wp env (holding resource rest)
      (fun result after _ => (∃ value, result = .ok value) ∧ after = backend) backend e := by
  refine Routine.wp_ask_bind.mpr fun created e₁ hcreated => ?_
  rcases hdriver _ _ _ _ hcreated with ⟨id, rfl⟩
  refine (h id e₁).handled (fun _ _ _ h' => h') ?_
  rintro error after e₂ ⟨⟨value, hvalue⟩, -⟩
  cases hvalue

lemma makeStreamSlot_obliged (bytes : UInt64) :
    Routine.wp env (makeStreamSlot bytes)
      (fun result after _ => (∃ slot, result = .ok slot) ∧ after = backend) backend e := by
  refine holding_obliged hdriver fun stream _ => holding_obliged hdriver fun done _ => ?_
  refine holding_obliged hdriver fun kernelsBegin _ => ?_
  refine holding_obliged hdriver fun kernelsEnd _ => holding_obliged hdriver fun front _ => ?_
  refine holding_obliged hdriver fun back _ => holding_obliged hdriver fun staging _ => ?_
  exact ⟨⟨_, rfl⟩, rfl⟩

lemma emplaceSlots_obliged (count : ℕ) :
    Routine.wp env (emplaceSlots count) (fun _ after _ => ∃ slots, slots.length = count
      ∧ after = { backend with streams := backend.streams ++ slots }) backend e := by
  induction count generalizing backend e with
  | zero => exact ⟨[], rfl, by rw [List.append_nil]⟩
  | succ count ih =>
      refine Routine.wp_get_bind.mpr ((makeStreamSlot_obliged hdriver _).bind ?_ ?_)
      · rintro slot _ e₁ ⟨-, rfl⟩
        refine Routine.wp_modify_bind.mpr (ih.mono ?_)
        rintro _ after e₂ ⟨slots, rfl, rfl⟩
        exact ⟨slot :: slots, rfl, by simp only [List.append_assoc, List.singleton_append]⟩
      · rintro error _ e₁ ⟨⟨slot, hslot⟩, -⟩
        cases hslot

omit hdriver in
/-- Where there are no slots, none is destroyed. -/
lemma clearStreams_empty (h : backend.streams = []) :
    Routine.wp env clearStreams (fun result after _ => result = .ok () ∧ after = backend)
      backend e := by
  rcases backend with ⟨⟩
  subst h
  exact ⟨rfl, rfl⟩

lemma buildStreamSlots_obliged (hstreams : backend.streams = []) (hbytes : backend.slotBytes ≠ 0) :
    Routine.wp env buildStreamSlots (fun _ after _ => ∃ slots, slots.length = backend.streamCount
      ∧ after = { backend with streams := slots }) backend e := by
  refine (clearStreams_empty hstreams).bind ?_ ?_
  · rintro _ _ e₁ ⟨-, rfl⟩
    refine Routine.wp_get_bind.mpr ?_
    rw [if_neg hbytes]
    refine (emplaceSlots_obliged hdriver _).mono ?_
    rintro result after e₂ ⟨slots, hlength, rfl⟩
    exact ⟨slots, hlength, by rw [hstreams, List.nil_append]⟩
  · rintro error _ e₁ ⟨herror, -⟩
    cases herror

/-- **Startup.**  A backend without slots gets all of them. -/
theorem allocateSlots_fit (hwell : backend.WellFormed) (hfit : Fit backend)
    (count bytes : UInt64) :
    Routine.wp env (allocateSlots count bytes) (fun _ after _ => Fit after
      ∧ after.contextRecreations = backend.contextRecreations
      ∧ after.config = backend.config ∧ after.completed = backend.completed) backend e := by
  refine Routine.wp_get_bind.mpr ?_
  split
  · exact ⟨hfit, rfl, rfl, rfl⟩
  split
  · exact ⟨hfit, rfl, rfl, rfl⟩
  · rename_i hslots hempty
    have hnone : backend.hostSlots = none := by
      rwa [Option.not_isSome_iff_eq_none] at hslots
    have hstreams := (hwell.host hnone).2
    refine Routine.wp_ask_bind.mpr fun answer e₁ hanswer => ?_
    refine wp_obliged (hdriver _ _ _ _ hanswer) (Routine.wp_modify_bind.mpr ?_)
    refine Routine.wp.mono (buildStreamSlots_obliged hdriver ?_ ?_) ?_
    · exact hstreams
    · exact fun hzero => hempty (.inr hzero)
    rintro result after e₂ ⟨slots, hlength, rfl⟩
    refine ⟨⟨hfit.context, hfit.tile, hfit.constants, hfit.count, fun _ => ?_⟩, rfl, rfl, rfl⟩
    rw [← List.length_pos_iff_ne_nil, hlength]
    exact Nat.pos_of_ne_zero hfit.count

end Obliging

end CudaBackend

end Imgjit
