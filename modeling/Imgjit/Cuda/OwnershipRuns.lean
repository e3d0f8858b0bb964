import Imgjit.Cuda.Ownership
import Imgjit.Cuda.StreamOrder

/-!
# Nothing leaks

What a `CudaBackend` holds of its driver while frames come and go, and over its runs.
`Ownership.lean` has the methods that make and destroy; the methods here use what is held, and must
not use anything else.

* `CudaBackend.Room` — a slot whose buffers are held and have room for a frame.  The launch proves
  it once, for the slot it has claimed, and each of its calls needs a part of it.
* `CudaBackend.submit_guarded`, `CudaBackend.pollCompletions_guarded` — the calls of the worker make
  only permitted calls, on the way through a failure and a recreation as well.
* `CudaBackend.Orderly` — a method that makes only permitted calls, and believes what is so.
* `reachable_inCustody` — every call of a run is orderly, so the belief of the backend is true in
  every state.
* `cuda_owns` — so in every run, wherever the driver fails, the rules are kept; and the end gives
  everything back, as often as it was handed out.

The example is a launch that fails while another frame is on the device, so that the context is
destroyed and made anew with both slots.
-/

namespace Imgjit

open Interaction Cuda

namespace CudaBackend

variable {cmath : CMath} {env : Environment DriverCall DriverAnswer} {recorder : Recorder env}
  {backend before middle after : CudaBackend cmath} {e e' : env.State}

/-! ## Frames come and go -/

/-- A frame on the device has a context. -/
lemma Owned.is_current (h : Owned recorder backend e) {slot : StreamSlot}
    (hslot : slot ∈ backend.streams) (hbusy : slot.busy = true) : Current (heldIn recorder e) := by
  cases hcontext : backend.context with
  | none =>
      rw [h.current hcontext slot hslot] at hbusy
      cases hbusy
  | some id =>
      refine ⟨id, ?_⟩
      rw [h.held, context_mem_holdings]
      exact hcontext

lemma Owned.object_mem (h : Owned recorder backend e) {slot : StreamSlot}
    (hslot : slot ∈ backend.streams) {resource : Resource} {id : ℕ}
    (hitem : (resource, id) ∈ resources backend.slotBytes slot) :
    .object resource id ∈ heldIn recorder e := by
  rw [h.held]
  exact object_mem_holdings hslot hitem

/-- A slot with the same objects. -/
lemma flatMap_resources_set {streams : List StreamSlot} {index : ℕ} {slot claimed : StreamSlot}
    {bytes : UInt64} (hslot : streams[index]? = some slot)
    (hsame : resources bytes claimed = resources bytes slot) :
    (streams.set index claimed).flatMap (resources bytes) = streams.flatMap (resources bytes) := by
  rcases List.getElem?_eq_some_iff.mp hslot with ⟨hindex, rfl⟩
  have hmap : (streams.set index claimed).map (resources bytes)
      = streams.map (resources bytes) := by
    rw [List.map_set, hsame]
    exact (List.map_set ..).symm.trans (by rw [List.set_getElem_self])
  rw [List.flatMap_def, List.flatMap_def, hmap]

/-- A frame comes to a slot or leaves it. -/
lemma Owned.set (h : Owned recorder backend e) {index : ℕ} {slot claimed : StreamSlot}
    (hslot : backend.streams[index]? = some slot)
    (hsame : resources backend.slotBytes claimed = resources backend.slotBytes slot)
    (hfits : claimed.busy = true → backend.context ≠ none
      ∧ sizeT claimed.width * sizeT claimed.channels * sizeT claimed.height ≤ backend.slotBytes)
    (completed : List Completion) (order : ℕ) :
    Tended recorder backend { backend with
      streams := backend.streams.set index claimed
      completed := completed
      nextSubmitOrder := order } e := by
  refine ⟨⟨?_, ?_, ?_⟩, rfl, rfl⟩
  · rw [h.held, holdings_eq, holdings_eq]
    exact congrArg (fun items => objects items + backend.roots)
      (flatMap_resources_set hslot hsame).symm
  · intro other hother hbusy
    rcases List.mem_or_eq_of_mem_set hother with hother | rfl
    · exact h.fits other hother hbusy
    · exact (hfits hbusy).2
  · intro hnone other hother
    rcases List.mem_or_eq_of_mem_set hother with hother | rfl
    · exact h.current hnone other hother
    · refine Bool.eq_false_iff.mpr ?_
      intro hbusy
      exact (hfits hbusy).1 hnone

/-- **A frame that is retired** was asked for and read through objects that are held. -/
lemma retireSlot_guarded (h : Owned recorder backend e) {index : ℕ} {slot : StreamSlot}
    (hslot : backend.streams[index]? = some slot) :
    Routine.Guarded env (Permitted recorder) (retireSlot index slot)
      (fun _ after e' => Tended recorder backend after e') backend e := by
  have hmem := List.mem_of_getElem? hslot
  rw [retireSlot]
  split
  · exact h.tended
  · rename_i hidle
    have hbusy : slot.busy = true := by
      rwa [Bool.not_eq_true', Bool.not_eq_false] at hidle
    have hquery : Permitted recorder e (.cuEventQuery slot.done) :=
      permitted_of_needs rfl ⟨h.is_current hmem hbusy, h.object_mem hmem (by simp [resources])⟩
    refine Routine.guarded_ask_bind.mpr ⟨hquery, fun status e₁ hstatus => ?_⟩
    have h₁ := h.neutral ⟨rfl, fun _ => rfl⟩ hstatus
    cases status with
    | CUDA_ERROR_NOT_READY what => exact h₁.tended
    | failure what => exact h₁.tended
    | CUDA_SUCCESS =>
        have helapsed :
            Permitted recorder e₁ (.cuEventElapsedTime slot.kernelsBegin slot.kernelsEnd) :=
          permitted_of_needs rfl ⟨h₁.is_current hmem hbusy,
            h₁.object_mem hmem (by simp [resources]), h₁.object_mem hmem (by simp [resources])⟩
        refine Routine.guarded_ask_bind.mpr ⟨helapsed, fun elapsed e₂ hanswer => ?_⟩
        have h₂ := h₁.neutral ⟨rfl, fun _ => rfl⟩ hanswer
        refine guarded_cuCheck_bind (fun _ => ?_) fun _ _ => h₂.tended
        have hread : Permitted recorder e₂ (.read slot.handle (.staging slot.staging)
            (sizeT slot.width * sizeT slot.channels * sizeT slot.height).toNat) :=
          permitted_of_needs rfl ⟨backend.slotBytes, h₂.object_mem hmem (by simp [resources]),
            UInt64.le_iff_toNat_le.mp (h₂.fits slot hmem hbusy)⟩
        refine Routine.guarded_ask_bind.mpr ⟨hread, fun source e₃ hsource => ?_⟩
        have h₃ := h₂.neutral ⟨rfl, fun _ => rfl⟩ hsource
        cases Image.fromBytes slot.width slot.height slot.channels source.1
            (sizeT slot.width * sizeT slot.channels) with
        | error error => exact h₃.tended
        | ok image =>
            have hsame : resources backend.slotBytes { slot with busy := false }
                = resources backend.slotBytes slot := rfl
            exact h₃.set hslot hsame (fun hclaimed => by cases hclaimed) _ _

lemma retireFrom_guarded (h : Owned recorder backend e) (index rest : ℕ) :
    Routine.Guarded env (Permitted recorder) (retireFrom index rest)
      (fun _ after e' => Tended recorder backend after e') backend e := by
  induction rest generalizing backend index e with
  | zero => exact h.tended
  | succ rest ih =>
      refine Routine.guarded_get_bind.mpr ?_
      cases hslot : backend.streams[index]? with
      | none => exact h.tended
      | some slot =>
          refine (retireSlot_guarded h hslot).bind ?_ fun _ _ _ h' => h'
          intro _ middle e₁ hmiddle
          exact (ih hmiddle.owned (index + 1)).mono fun _ _ _ => hmiddle.trans

lemma retireReadyStreams_guarded (h : Owned recorder backend e) :
    Routine.Guarded env (Permitted recorder) retireReadyStreams
      (fun _ after e' => Tended recorder backend after e') backend e :=
  Routine.guarded_get_bind.mpr (retireFrom_guarded h 0 _)

/-- A claim waits for events of frames that are on the device. -/
lemma claimStream_guarded (h : Owned recorder backend e) (turns : ℕ) :
    Routine.Guarded env (Permitted recorder) (claimStream turns)
      (fun _ after e' => Tended recorder backend after e') backend e := by
  induction turns generalizing backend e with
  | zero => trivial
  | succ turns ih =>
      refine Routine.guarded_get_bind.mpr ?_
      split
      · exact h.tended
      · rename_i hfull
        split
        · exact h.tended
        · rename_i slot holdest
          have hmem := oldest_mem holdest
          have hbusy : slot.busy = true := by
            simpa using List.findIdx?_eq_none_iff.mp hfull slot hmem
          have hwait : Permitted recorder e (.cuEventSynchronize slot.done) :=
            permitted_of_needs rfl
              ⟨h.is_current hmem hbusy, h.object_mem hmem (by simp [resources])⟩
          refine Routine.guarded_ask_bind.mpr ⟨hwait, fun answer e₁ hanswer => ?_⟩
          have h₁ := h.neutral ⟨rfl, fun _ => rfl⟩ hanswer
          refine guarded_cuCheck_bind (fun _ => ?_) fun _ _ => h₁.tended
          refine (retireReadyStreams_guarded h₁).bind ?_ fun _ _ _ h' => h'
          intro _ middle e₂ hmiddle
          exact (ih hmiddle.owned).mono fun _ _ _ => hmiddle.trans

/-! ## Launching a frame -/

/-- What the checks of a launch have found: a slot whose buffers have room for the frame. -/
structure Room (recorder : Recorder env) (backend : CudaBackend cmath) (slot : StreamSlot)
    (bytes : UInt64) (e : env.State) : Prop where
  owned : Owned recorder backend e
  mem : slot ∈ backend.streams
  context : backend.context ≠ none
  bytes : bytes ≤ backend.slotBytes

variable {slot : StreamSlot} {bytes : UInt64} {frame : JobHandle}

lemma Room.current (h : Room recorder backend slot bytes e) : Current (heldIn recorder e) := by
  rcases Option.ne_none_iff_exists'.mp h.context with ⟨id, hid⟩
  refine ⟨id, ?_⟩
  rw [h.owned.held, context_mem_holdings]
  exact hid

lemma Room.object_mem (h : Room recorder backend slot bytes e) {resource : Resource} {id : ℕ}
    (hitem : (resource, id) ∈ resources backend.slotBytes slot) :
    .object resource id ∈ heldIn recorder e :=
  h.owned.object_mem h.mem hitem

/-- Work on the slot's stream. -/
lemma Room.enqueue_guarded (h : Room recorder backend slot bytes e) (op : StreamOp)
    (hop : op.Needs (heldIn recorder e)) :
    Routine.Guarded env (Permitted recorder) (enqueue slot.stream frame op)
      (fun _ after e' => after = backend ∧ Room recorder backend slot bytes e') backend e := by
  have hpermitted : Permitted recorder e (.enqueue slot.stream frame op) :=
    permitted_of_needs rfl ⟨h.current, h.object_mem (by simp [resources]), hop⟩
  refine Routine.guarded_ask_bind.mpr ⟨hpermitted, fun answer e₁ hanswer => ?_⟩
  have h₁ : Room recorder backend slot bytes e₁ :=
    ⟨h.owned.neutral ⟨rfl, fun _ => rfl⟩ hanswer, h.mem, h.context, h.bytes⟩
  cases answer with
  | CUDA_SUCCESS => exact ⟨rfl, h₁⟩
  | CUDA_ERROR_NOT_READY what => exact ⟨rfl, h₁⟩
  | failure what => exact ⟨rfl, h₁⟩

/-- One of the pair of device buffers. -/
def OfPair (slot : StreamSlot) (buffer : ℕ) : Prop := buffer = slot.front ∨ buffer = slot.back

lemma Room.buffer_mem (h : Room recorder backend slot bytes e) {buffer : ℕ}
    (hbuffer : OfPair slot buffer) :
    .object (.device backend.slotBytes) buffer ∈ heldIn recorder e := by
  rcases hbuffer with rfl | rfl
  · exact h.object_mem (by simp [resources])
  · exact h.object_mem (by simp [resources])

/-- **The stages go to and fro between the two buffers.** -/
lemma launchKernels_guarded (h : Room recorder backend slot bytes e) (launches : List KernelLaunch)
    {source destination : ℕ} (hsource : OfPair slot source)
    (hdestination : OfPair slot destination) :
    Routine.Guarded env (Permitted recorder)
      (launchKernels slot.stream frame launches source destination)
      (fun result after e' => after = backend ∧ Room recorder backend slot bytes e'
        ∧ ∀ buffer, result = .ok buffer → OfPair slot buffer) backend e := by
  induction launches generalizing source destination e with
  | nil =>
      refine ⟨rfl, h, ?_⟩
      rintro _ ⟨⟩
      exact hsource
  | cons launch rest ih =>
      refine (h.enqueue_guarded (.cuLaunchKernel launch source destination)
        ⟨_, h.buffer_mem hsource, h.buffer_mem hdestination⟩).bind ?_ ?_
      · rintro _ _ e₁ ⟨rfl, h₁⟩
        exact ih h₁ hdestination hsource
      · rintro error _ e₁ ⟨rfl, h₁⟩
        refine ⟨rfl, h₁, ?_⟩
        intro buffer hbuffer
        cases hbuffer

/-- **The work of one frame** fits the buffers of its slot. -/
lemma queueFrame_guarded {job : FrameJob} {handle : JobHandle} {input index : ℕ}
    {compiled : CompiledChain} (h : Room recorder backend slot bytes e)
    (hslot : backend.streams[index]? = some slot)
    (hbytes : bytes = sizeT job.width * sizeT job.channels * sizeT job.height) :
    Routine.Guarded env (Permitted recorder)
      (queueFrame job handle input bytes compiled index slot)
      (fun _ after e' => Owned recorder after e') backend e := by
  have hthrow : ∀ (error : Exn) (after : CudaBackend cmath) (e' : env.State),
      after = backend ∧ Room recorder backend slot bytes e' → Owned recorder after e' := by
    rintro error _ e' ⟨rfl, h'⟩
    exact h'.owned
  refine (h.enqueue_guarded (.cuMemcpyHtoDAsync slot.front input bytes)
    ⟨_, h.buffer_mem (.inl rfl), h.bytes⟩).bind ?_ hthrow
  rintro _ _ e₁ ⟨rfl, h₁⟩
  refine (h₁.enqueue_guarded (.cuEventRecord slot.kernelsBegin)
    ⟨true, h₁.object_mem (by simp [resources])⟩).bind ?_ hthrow
  rintro _ _ e₂ ⟨rfl, h₂⟩
  refine (launchKernels_guarded h₂ _ (.inl rfl) (.inr rfl)).bind ?_
    fun error after e' h' => hthrow error after e' ⟨h'.1, h'.2.1⟩
  rintro source _ e₃ ⟨rfl, h₃, hsource⟩
  refine (h₃.enqueue_guarded (.cuEventRecord slot.kernelsEnd)
    ⟨true, h₃.object_mem (by simp [resources])⟩).bind ?_ hthrow
  rintro _ _ e₄ ⟨rfl, h₄⟩
  refine (h₄.enqueue_guarded (.cuMemcpyDtoHAsync slot.staging source bytes)
    ⟨_, h₄.object_mem (by simp [resources]), h₄.buffer_mem (hsource source rfl),
      h₄.bytes⟩).bind ?_ hthrow
  rintro _ _ e₅ ⟨rfl, h₅⟩
  refine (h₅.enqueue_guarded (.cuEventRecord slot.done)
    ⟨false, h₅.object_mem (by simp [resources])⟩).bind ?_ hthrow
  rintro _ claimed e₆ ⟨rfl, h₆⟩
  have hsame : resources claimed.slotBytes { slot with
      busy := true, handle := handle, submitOrder := claimed.nextSubmitOrder
      width := job.width, height := job.height, channels := job.channels }
        = resources claimed.slotBytes slot := rfl
  exact (h₆.owned.set hslot hsame (fun _ => ⟨h₆.context, hbytes ▸ h₆.bytes⟩) _ _).owned

lemma launchChain_guarded (h : Owned recorder backend e) (hwell : backend.WellFormed)
    (hcontext : backend.context ≠ none) {job : FrameJob} (handle : JobHandle) (input turns : ℕ)
    (hbytes : bytes = sizeT job.width * sizeT job.channels * sizeT job.height) :
    Routine.Guarded env (Permitted recorder) (launchChain job handle input bytes turns)
      (fun _ after e' => Owned recorder after e') backend e := by
  refine Routine.guarded_get_bind.mpr (((cacheGet_guarded h _).and_wp
    (cacheGet_keeps hwell _)).bind ?_ fun _ _ _ hcached => hcached.1.owned)
  rintro compiled cached e₁ ⟨hcached, hkeeps, -⟩
  split
  · exact hcached.owned
  · rename_i hroom
    refine ((claimStream_guarded hcached.owned turns).and_wp
      (claimStream_claimed hkeeps.wellFormed turns)).bind ?_
      fun _ _ _ hclaimed => hclaimed.1.owned
    rintro index claimed e₂ ⟨hclaimed, hfree⟩
    refine Routine.guarded_get_bind.mpr ?_
    rcases hfree.free index rfl with ⟨slot, hslot, -⟩
    rw [hslot]
    refine queueFrame_guarded ⟨hclaimed.owned, List.mem_of_getElem? hslot, ?_, ?_⟩ hslot hbytes
    · rw [hclaimed.context, hcached.context]
      exact hcontext
    · rw [hclaimed.slotBytes, hcached.slotBytes]
      exact UInt64.not_lt.mp (not_or.mp hroom).2

lemma launch_guarded (h : Owned recorder backend e) (hwell : backend.WellFormed) (job : FrameJob)
    (handle : JobHandle) (turns : ℕ) :
    Routine.Guarded env (Permitted recorder) (launch job handle turns)
      (fun _ after e' => Owned recorder after e') backend e := by
  refine Routine.guarded_get_bind.mpr ?_
  split
  · exact h
  rename_i hcontext
  split
  · exact h
  · rename_i input hinput
    dsimp only
    split
    · exact h
    split
    · exact h
    split
    · refine Routine.guarded_ask_bind.mpr
        ⟨permitted_of_needs rfl trivial, fun source e₁ hsource => ?_⟩
      have h₁ := h.neutral ⟨rfl, fun _ => rfl⟩ hsource
      cases Image.fromBytes job.width job.height job.channels source.1 job.stride with
      | error error => exact h₁
      | ok image => exact ⟨h₁.held, h₁.fits, h₁.current⟩
    · refine launchChain_guarded h hwell ?_ handle input turns rfl
      exact fun hnone => hcontext (Option.isNone_iff_eq_none.mpr hnone)

/-! ## The calls of the worker -/

lemma failJob_guarded (h : Owned recorder backend e) (handle : JobHandle) (reason : String) :
    Routine.Guarded env (Permitted recorder) (failJob handle reason)
      (fun _ after e' => Owned recorder after e') backend e :=
  ⟨h.held, h.fits, h.current⟩

/-- What a method that ends in `Owned` passes on to what follows it. -/
lemma owned_bind {α β : Type} {first : Method cmath β} {rest : β → Method cmath α}
    (hfirst : Routine.Guarded env (Permitted recorder) first
      (fun _ after e' => Owned recorder after e') backend e)
    (hrest : ∀ value after e', Owned recorder after e' →
      Routine.Guarded env (Permitted recorder) (rest value)
        (fun _ after e'' => Owned recorder after e'') after e') :
    Routine.Guarded env (Permitted recorder) (first >>= rest)
      (fun _ after e' => Owned recorder after e') backend e :=
  hfirst.bind hrest fun _ _ _ h => h

/-- A handler as well. -/
lemma owned_handled {α : Type} {body : Method cmath α} {handler : Exn → Method cmath α}
    (hbody : Routine.Guarded env (Permitted recorder) body
      (fun _ after e' => Owned recorder after e') backend e)
    (hhandler : ∀ error after e', Owned recorder after e' →
      Routine.Guarded env (Permitted recorder) (handler error)
        (fun _ after e'' => Owned recorder after e'') after e') :
    Routine.Guarded env (Permitted recorder) (tryCatch body handler)
      (fun _ after e' => Owned recorder after e') backend e :=
  hbody.handled (fun _ _ _ h => h) hhandler

/-- A submit makes only permitted calls, whatever fails, and the belief is true behind it. -/
theorem submit_guarded (h : Owned recorder backend e) (hwell : backend.WellFormed) (job : FrameJob)
    (turns : ℕ) :
    Routine.Guarded env (Permitted recorder) (submit job turns)
      (fun _ after e' => Owned recorder after e') backend e := by
  refine Routine.guarded_get_bind.mpr (Routine.guarded_modify_bind.mpr ?_)
  have hbumped : Owned recorder { backend with nextHandle := backend.nextHandle + 1 } e :=
    ⟨h.held, h.fits, h.current⟩
  refine owned_bind (owned_handled (launch_guarded hbumped ⟨hwell.few, hwell.shaped, hwell.host⟩
    job backend.nextHandle turns) ?_) fun _ _ _ h' => h'
  intro error failed e₁ h₁
  cases error with
  | cudaError what =>
      exact owned_bind (failJob_guarded h₁ _ what) fun _ reported e₂ h₂ => recover_guarded h₂ _
  | nvrtcError what => exact failJob_guarded h₁ _ what
  | invalidArgument what => exact failJob_guarded h₁ _ what
  | logicError what => exact failJob_guarded h₁ _ what
  | outOfRange what => exact failJob_guarded h₁ _ what
  | lengthError what => exact failJob_guarded h₁ _ what
  | runtimeError what => exact failJob_guarded h₁ _ what
  | outOfBounds => exact failJob_guarded h₁ _ _

/-- So does a poll. -/
theorem pollCompletions_guarded (h : Owned recorder backend e) :
    Routine.Guarded env (Permitted recorder) pollCompletions
      (fun _ after e' => Owned recorder after e') backend e := by
  have hretired := (retireReadyStreams_guarded h).mono fun _ _ _ hafter => hafter.owned
  refine owned_bind (owned_handled hretired ?_) ?_
  · intro error failed e₁ h₁
    cases error with
    | nvrtcError what => exact recover_guarded h₁ _
    | cudaError what => exact recover_guarded h₁ _
    | invalidArgument what => exact h₁
    | logicError what => exact h₁
    | outOfRange what => exact h₁
    | lengthError what => exact h₁
    | runtimeError what => exact h₁
    | outOfBounds => exact h₁
  · intro _ swept e₁ h₁
    exact ⟨h₁.held, h₁.fits, h₁.current⟩

/-- Every call is permitted when it is made, and what is held afterwards is what the backend
believes. -/
def Orderly {α : Type} (recorder : Recorder env) (method : Method cmath α)
    (backend : CudaBackend cmath) (e : env.State) : Prop :=
  Routine.Guarded env (Permitted recorder) method
    (fun _ after e' => heldIn recorder e' = after.holdings) backend e

lemma orderly_of_guarded {α : Type} {method : Method cmath α}
    (h : Routine.Guarded env (Permitted recorder) method
      (fun _ after e' => Owned recorder after e') backend e) :
    Orderly recorder method backend e :=
  h.mono fun _ _ _ hafter => hafter.held

end CudaBackend

/-! ## Runs -/

section Runs

open CudaBackend

variable {cmath : CMath} {env : Environment DriverCall DriverAnswer} {recorder : Recorder env}
  {s s' : CudaRun cmath env}

lemma manage_guarded {backend : CudaBackend cmath} {e : env.State}
    (h : Owned recorder backend e) (hwell : backend.WellFormed) (call : BackendCall) :
    Routine.Guarded env (Permitted recorder) call.method
      (fun _ after e' => Owned recorder after e') backend e := by
  cases call with
  | allocateSlots count bytes => exact allocateSlots_guarded h hwell count bytes
  | prewarm chain channels => exact prewarm_guarded h chain channels
  | recreateContext reason => exact recreateContext_guarded h reason

/-- With what carries it from call to call. -/
structure InCustody (recorder : Recorder env) (s : CudaRun cmath env) : Prop where
  lawful : driverDiscipline.Lawful (recorder.log s.driver)
  owned : Owned recorder s.backend s.driver

/-- **One call more.** -/
lemma InCustody.answered (h : InCustody recorder s) {α : Type} {method : Method cmath α}
    {result : Except Exn α} {after : CudaBackend cmath} {driver : env.State}
    (hguarded : Routine.Guarded env (Permitted recorder) method
      (fun _ after e' => Owned recorder after e') s.backend s.driver)
    (hreturns : (method s.backend).Returns env s.driver (result, after) driver) :
    driverDiscipline.Lawful (recorder.log driver) ∧ Owned recorder after driver := by
  have hlawful := Prog.throughout.wp (Prog.guarded.lawful recorder hguarded h.lawful)
  exact ⟨Prog.wp_iff_returns.mp hlawful _ _ hreturns,
    Prog.wp_iff_returns.mp hguarded.wp _ _ hreturns⟩

lemma InCustody.step (hin : InOrder s) (h : InCustody recorder s) (hstep : CudaStep s s') :
    InCustody recorder s' := by
  cases hstep with
  | manage call hreturns =>
      have hafter := h.answered (manage_guarded h.owned hin.wellFormed call) hreturns
      exact ⟨hafter.1, hafter.2⟩
  | submit job turns hreturns =>
      have hafter := h.answered (submit_guarded h.owned hin.wellFormed job turns) hreturns
      exact ⟨hafter.1, hafter.2⟩
  | poll hreturns =>
      have hafter := h.answered (pollCompletions_guarded h.owned) hreturns
      exact ⟨hafter.1, hafter.2⟩

/-- The driver has made this context, and nothing else is held. -/
def Opened (recorder : Recorder env) (context : ℕ) (e : env.State) : Prop :=
  driverDiscipline.Lawful (recorder.log e) ∧ heldIn recorder e = {.context context}

lemma construct_owned {context streamCount : ℕ} {ordinal : Int32} {config : BackendConfig}
    {backend : CudaBackend cmath} {e : env.State}
    (h : construct context ordinal streamCount config = .ok backend)
    (hheld : heldIn recorder e = {.context context}) : Owned recorder backend e := by
  unfold construct at h
  split at h
  · cases h
  split at h
  · cases h
  · cases h
    exact owned_of_roots hheld rfl

/-- In every run the belief of the backend agrees with the log: the step lemma, over all calls. -/
theorem reachable_inCustody
    (h : (cudaSystem cmath env (Opened recorder)).Reachable s) : InCustody recorder s := by
  refine h.invariant ?_ fun _ _ hreach hs hstep => hs.step (reachable_inOrder hreach) hstep
  rintro s ⟨context, ordinal, streamCount, config, hconstruct, hopened, -, -⟩
  exact ⟨hopened.1, construct_owned hconstruct hopened.2⟩

/-- What a backend owes its driver. -/
structure ResourcesKept (recorder : Recorder env) (s : CudaRun cmath env) : Prop where
  /-- Every call so far was permitted when it was made. -/
  lawful : driverDiscipline.Lawful (recorder.log s.driver)
  held : heldIn recorder s.driver = s.backend.holdings
  manage : ∀ call : BackendCall, Orderly recorder call.method s.backend s.driver
  submit : ∀ job turns, Orderly recorder (submit job turns) s.backend s.driver
  poll : Orderly recorder pollCompletions s.backend s.driver
  /-- The end throws nothing, and gives back whatever was ever handed out. -/
  destruct : Routine.Guarded env (Permitted recorder) destruct
    (fun result _ e' => result = .ok () ∧ heldIn recorder e' = 0
      ∧ ∀ holding, driverDiscipline.returned holding (recorder.log e')
        = driverDiscipline.handed holding (recorder.log e')) s.backend s.driver

/-- **Nothing leaks, and nothing is used that is gone.**  Take any sequence of calls on a backend
and any answers of the driver inside them, with contexts recreated and rebuilds that fail half-way.
Every object is destroyed while it is held and never again; work is queued, events are asked for
and staging memory is read only on objects that are held and have room; a context goes when nothing
is left in it, and a second one is never made beside it.  What the backend believes to hold is what
it holds, and its destructor gives all of it back. -/
theorem cuda_owns (h : (cudaSystem cmath env (Opened recorder)).Reachable s) :
    ResourcesKept recorder s := by
  have hin := reachable_inOrder h
  have hs := reachable_inCustody h
  refine ⟨hs.lawful, hs.owned.held, ?_, ?_, ?_, ?_⟩
  · exact fun call => orderly_of_guarded (manage_guarded hs.owned hin.wellFormed call)
  · exact fun job turns => orderly_of_guarded (submit_guarded hs.owned hin.wellFormed job turns)
  · exact orderly_of_guarded (pollCompletions_guarded hs.owned)
  · have hguarded := destruct_guarded hs.owned
    have hlawful : Routine.wp env destruct
        (fun _ _ e' => driverDiscipline.Lawful (recorder.log e')) s.backend s.driver :=
      Prog.throughout.wp (Prog.guarded.lawful recorder hguarded hs.lawful)
    refine (hguarded.and_wp hlawful).mono ?_
    rintro result after e' ⟨⟨hresult, hnothing⟩, hlog⟩
    exact ⟨hresult, hnothing, hlog.settled hnothing⟩

end Runs

/-! ## A launch that fails -/

namespace FailedLaunch

open CudaBackend

/-- A driver that gives any answer, and writes it down. -/
def written : Environment DriverCall DriverAnswer where
  State := List (Event DriverCall DriverAnswer)
  respond log call answer log' := log' = ⟨call, answer⟩ :: log

/-- The log is the state of the driver. -/
def writer : Recorder written where
  log (e : List (Event DriverCall DriverAnswer)) := e
  records _ _ _ _ h := h

/-- New objects have new numbers, and kernels cannot be launched. -/
def answer (log : List (Event DriverCall DriverAnswer)) (call : DriverCall) : DriverAnswer call :=
  match call with
  | .cuCtxCreate => .ok log.length
  | .create _ => .ok log.length
  | .enqueue _ _ (.cuLaunchKernel _ _ _) => CUresult.failure "CUDA_ERROR_LAUNCH_FAILED"
  | call => InlineFrame.agreeable call

/-- The answer to a call, which is entered in the log. -/
def respond (log : List (Event DriverCall DriverAnswer)) (call : DriverCall) :
    DriverAnswer call × List (Event DriverCall DriverAnswer) :=
  (answer log call, ⟨call, answer log call⟩ :: log)

/-- What has been called before the backend is constructed. -/
def opened : List (Event DriverCall DriverAnswer) := [⟨.cuCtxCreate, (.ok 0 : Except String ℕ)⟩]

/-- A backend with two streams to build. -/
def backend : CudaBackend plainMath where
  context := some 0
  streamCount := 2
  config := {}

/-- Two slots are built, and the frame that is submitted costs the context. -/
def recreated : Option (CudaRun plainMath written) :=
  ({ backend := backend, driver := opened } : CudaRun plainMath written).performAll respond
    [.manage (.allocateSlots 1 1), .submit FilteredFrame.job 1]

/-- Building everything twice takes fifty-four calls. -/
lemma recreated_seen : recreated.map (fun s => (s.seen, s.backend.streams.length, s.driver.length))
    = some (⟨[1], [], [(1, .kError)], [], 1⟩, 2, 54) := by
  decide +kernel

lemma opened_backend : Opened writer 0 opened :=
  ⟨⟨⟨fun ⟨_, hid⟩ => absurd hid (Multiset.notMem_zero _), fun _ hitem => by cases hitem⟩, trivial⟩,
    add_zero _⟩

/-- The frame that is refused costs the context, and everything in it is given back first. -/
theorem cuda_owns_recreated :
    ∃ s : CudaRun plainMath written, (cudaSystem plainMath written (Opened writer)).Reachable s
      ∧ s.seen = ⟨[1], [], [(1, .kError)], [], 1⟩ ∧ ResourcesKept writer s := by
  rcases Option.map_eq_some_iff.mp recreated_seen with ⟨s, hrun, hseen⟩
  have hrespond : ∀ log call, written.respond log call (respond log call).1 (respond log call).2 :=
    fun _ _ => rfl
  have hreach : (cudaSystem plainMath written (Opened writer)).Reachable s :=
    reachable_performAll hrespond
      (.init ⟨0, 0, 2, {}, rfl, opened_backend, rfl, rfl⟩) hrun
  exact ⟨s, hreach, congrArg Prod.fst hseen, cuda_owns hreach⟩

end FailedLaunch

end Imgjit
