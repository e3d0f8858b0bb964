import Imgjit.Cuda.StreamOrder
import Imgjit.Library.Termination

/-!
# Every call comes to an end

The loop of `claim_stream` has no bound: it waits for the oldest frame, sweeps the slots for events
that are complete, and looks for an idle slot again.  If the sweep did not find the very frame that
was waited for, the loop would wait for it once more, and nothing in the source says that this
happens only finitely often.  In the model the loop counts its turns, and a caller with none left
has not returned; so "every call returns" is a statement about turns.

What makes the loop end is a promise of the driver: an event that was waited for is complete, and
stays complete until something is queued.

* `EventOrder` — the promise, about any driver.
* `deviceEvents` — the device keeps it.
* `CudaBackend.claimStream_halts` — one wait is enough: the second turn finds an idle slot, whatever
  else fails.
* `CudaBackend.submit_halts`, `CudaBackend.pollCompletions_ends` — so every call of the worker ends.
* `cuda_returns` — every call in every run ends, and with more than two turns a submit does nothing
  that it does not do with two.

The example has one stream and two frames, so that the second submit really waits.
-/

namespace Imgjit

open Interaction Cuda

namespace Cuda

/-! ## What a wait is worth -/

/-- Nothing is queued. -/
def Unqueued : DriverCall → Prop
  | .enqueue _ _ _ => False
  | _ => True

/-- What a driver promises of its events: one that was waited for is complete, stays so until
something is queued, and is not called unready then. -/
structure EventOrder (env : Environment DriverCall DriverAnswer) where
  Complete : env.State → ℕ → Prop
  waited : ∀ e event e', env.respond e (.cuEventSynchronize event) CUresult.CUDA_SUCCESS e' →
    Complete e' event
  kept : ∀ e call answer e' event, Unqueued call → env.respond e call answer e' →
    Complete e event → Complete e' event
  ready : ∀ e event what e',
    env.respond e (.cuEventQuery event) (CUresult.CUDA_ERROR_NOT_READY what) e' → ¬Complete e event

lemma Device.Progress.complete {d d' : Device} (h : d.Progress d') {event : ℕ}
    (hcomplete : d.Complete event) : d'.Complete event :=
  fun stream item hitem => hcomplete stream item ((h.queues stream).subset hitem)

/-- Work that has been done does not come back. -/
lemma Device.Effect.complete {d : Device} {call : DriverCall} {answer : DriverAnswer call}
    {queues : ℕ → List QueuedOp} {next event : ℕ} {d' : Device}
    (h : d.Effect call answer queues next) (hqueues : d'.queues = queues)
    (hcall : Unqueued call) (hcomplete : d.Complete event) : d'.Complete event := by
  have hsame : queues = d.queues → d'.Complete event := by
    intro heq stream item hitem
    rw [hqueues, heq] at hitem
    exact hcomplete stream item hitem
  cases call with
  | enqueue stream frame op => exact hcall.elim
  | cuCtxDestroy context =>
      intro stream item hitem
      rw [hqueues, h.1] at hitem
      cases hitem
  | _ => exact hsame h.1

/-- The device keeps the promise: an event is complete when no pending work would record it. -/
def deviceEvents : EventOrder device where
  Complete := Device.Complete
  waited := by
    rintro d event d' ⟨middle, -, heffect, -⟩
    intro stream item hitem
    rw [heffect.1] at hitem
    exact heffect.2.2 rfl stream item hitem
  kept := by
    rintro d call answer d' event hcall ⟨middle, hprogress, heffect, -⟩ hcomplete
    exact heffect.complete rfl hcall (hprogress.complete hcomplete)
  ready := by
    rintro d event what d' ⟨middle, hprogress, heffect, -⟩ hcomplete
    exact heffect.2.2.2 what rfl (hprogress.complete hcomplete)

end Cuda

namespace CudaBackend

variable {cmath : CMath} {env : Environment DriverCall DriverAnswer}
  {backend : CudaBackend cmath} {e : env.State}

/-! ## Methods without a loop of their own -/

lemma cuCheck_ends (result : CUresult) : Routine.Ends (cuCheck result : Method cmath Unit) := by
  cases result with
  | CUDA_SUCCESS => exact Routine.Ends.pure ()
  | CUDA_ERROR_NOT_READY what => exact Routine.Ends.throw _
  | failure what => exact Routine.Ends.throw _

lemma checkCreated_ends (result : Except String ℕ) :
    Routine.Ends (checkCreated result : Method cmath ℕ) := by
  cases result with
  | ok id => exact Routine.Ends.pure id
  | error what => exact Routine.Ends.throw _

lemma ofExcept_ends {α : Type} (result : Except Exn α) :
    Routine.Ends (ofExcept result : Method cmath α) := by
  cases result with
  | ok value => exact Routine.Ends.pure value
  | error error => exact Routine.Ends.throw error

lemma createContext_ends (ordinal : Int32) :
    Routine.Ends (createContext ordinal : Method cmath ℕ) := by
  refine (Routine.Ends.ask _).bind fun init => (cuCheck_ends init).bind fun _ => ?_
  refine (Routine.Ends.ask _).bind fun device => (cuCheck_ends device).bind fun _ => ?_
  exact (Routine.Ends.ask _).bind fun context => checkCreated_ends context

lemma holding_ends {α : Type} {resource : Resource} {rest : ℕ → Method cmath α}
    (h : ∀ id, Routine.Ends (rest id)) : Routine.Ends (holding resource rest) := by
  refine (Routine.Ends.ask _).bind fun created => (checkCreated_ends created).bind fun id => ?_
  refine (h id).handled fun error => ?_
  exact (Routine.Ends.ask _).bind fun _ => Routine.Ends.throw error

lemma makeStreamSlot_ends (bytes : UInt64) :
    Routine.Ends (makeStreamSlot bytes : Method cmath StreamSlot) := by
  refine holding_ends fun stream => holding_ends fun done => ?_
  refine holding_ends fun kernelsBegin => holding_ends fun kernelsEnd => ?_
  refine holding_ends fun front => holding_ends fun back => holding_ends fun staging => ?_
  exact Routine.Ends.pure _

lemma destroyAll_ends (objects : List (Resource × ℕ)) :
    Routine.Ends (destroyAll objects : Method cmath Unit) := by
  induction objects with
  | nil => exact Routine.Ends.pure ()
  | cons object rest ih => exact (Routine.Ends.ask _).bind fun _ => ih

lemma clearStreams_ends : Routine.Ends (clearStreams : Method cmath Unit) :=
  Routine.Ends.get.bind fun _ => (destroyAll_ends _).bind fun _ => Routine.Ends.modify _

lemma emplaceSlots_ends (count : ℕ) : Routine.Ends (emplaceSlots count : Method cmath Unit) := by
  induction count with
  | zero => exact Routine.Ends.pure ()
  | succ count ih =>
      refine Routine.Ends.get.bind fun backend => (makeStreamSlot_ends _).bind fun slot => ?_
      exact (Routine.Ends.modify _).bind fun _ => ih

lemma buildStreamSlots_ends : Routine.Ends (buildStreamSlots : Method cmath Unit) := by
  refine clearStreams_ends.bind fun _ => Routine.Ends.get.bind fun backend => ?_
  split
  · exact Routine.Ends.pure ()
  · exact emplaceSlots_ends _

lemma attach_ends : Routine.Ends (attach : Method cmath Unit) := by
  refine Routine.Ends.get.bind fun backend => ?_
  split
  · refine (Routine.Ends.ask _).bind fun answer => (cuCheck_ends answer).bind fun _ => ?_
    exact Routine.Ends.modify _
  · exact Routine.Ends.pure ()

lemma detach_ends : Routine.Ends (detach : Method cmath Unit) := by
  refine Routine.Ends.get.bind fun backend => ?_
  split
  · exact (Routine.Ends.ask _).bind fun _ => Routine.Ends.modify _
  · exact Routine.Ends.pure ()

lemma resetContext_ends : Routine.Ends (resetContext : Method cmath Unit) := by
  refine Routine.Ends.get.bind fun backend => ?_
  split
  · exact (Routine.Ends.ask _).bind fun _ => Routine.Ends.modify _
  · exact Routine.Ends.pure ()

lemma recreateContext_ends (reason : String) :
    Routine.Ends (recreateContext reason : Method cmath Unit) := by
  refine (Routine.Ends.modify _).bind fun _ => clearStreams_ends.bind fun _ => ?_
  refine (Routine.Ends.modify _).bind fun _ => detach_ends.bind fun _ => ?_
  refine resetContext_ends.bind fun _ => (Routine.Ends.modify _).bind fun _ => ?_
  refine Routine.Ends.get.bind fun _ => (createContext_ends _).bind fun _ => ?_
  refine (Routine.Ends.modify _).bind fun _ => attach_ends.bind fun _ => ?_
  exact buildStreamSlots_ends

lemma recover_ends (reason : String) : Routine.Ends (recover reason : Method cmath Unit) :=
  (recreateContext_ends reason).handled fun _ => Routine.Ends.pure ()

lemma allocateSlots_ends (count bytes : UInt64) :
    Routine.Ends (allocateSlots count bytes : Method cmath Unit) := by
  refine Routine.Ends.get.bind fun backend => ?_
  split
  · exact Routine.Ends.throw _
  split
  · exact Routine.Ends.throw _
  · refine (Routine.Ends.ask _).bind fun answer => (cuCheck_ends answer).bind fun _ => ?_
    exact (Routine.Ends.modify _).bind fun _ => buildStreamSlots_ends

lemma cacheGet_ends (key : KernelKey) :
    Routine.Ends (cacheGet key : Method cmath CompiledChain) := by
  have hrest : ∀ failure : Option Exn, ∀ backend : CudaBackend cmath, Routine.Ends (do
      modify fun backend => { backend with cache := (backend.cache.get key failure).2 }
      ofExcept (backend.cache.get key failure).1 : Method cmath CompiledChain) :=
    fun _ _ => (Routine.Ends.modify _).bind fun _ => ofExcept_ends _
  refine Routine.Ends.get.bind fun backend => ?_
  split
  · exact (Routine.Ends.ask _).bind fun result => hrest _ backend
  · exact hrest _ backend

lemma prewarm_ends (chain : OpChain) (channels : Int32) :
    Routine.Ends (prewarm chain channels : Method cmath Unit) := by
  rw [prewarm]
  split
  · exact Routine.Ends.pure ()
  · exact Routine.Ends.get.bind fun _ => (cacheGet_ends _).bind fun _ => Routine.Ends.pure ()

lemma failJob_ends (handle : JobHandle) (reason : String) :
    Routine.Ends (failJob handle reason : Method cmath Unit) :=
  Routine.Ends.modify _

lemma retireSlot_ends (index : ℕ) (slot : StreamSlot) :
    Routine.Ends (retireSlot index slot : Method cmath Unit) := by
  rw [retireSlot]
  split
  · exact Routine.Ends.pure ()
  · refine (Routine.Ends.ask _).bind fun status => ?_
    cases status with
    | CUDA_ERROR_NOT_READY what => exact Routine.Ends.pure ()
    | failure what => exact Routine.Ends.throw _
    | CUDA_SUCCESS =>
        refine (Routine.Ends.ask _).bind fun elapsed => (cuCheck_ends elapsed).bind fun _ => ?_
        refine (Routine.Ends.ask _).bind fun source => (ofExcept_ends _).bind fun _ => ?_
        exact (Routine.Ends.modify _).bind fun _ => Routine.Ends.modify _

lemma retireFrom_ends (index rest : ℕ) :
    Routine.Ends (retireFrom index rest : Method cmath Unit) := by
  induction rest generalizing index with
  | zero => exact Routine.Ends.pure ()
  | succ rest ih =>
      refine Routine.Ends.get.bind fun backend => ?_
      split
      · exact Routine.Ends.pure ()
      · exact (retireSlot_ends _ _).bind fun _ => ih _

lemma retireReadyStreams_ends : Routine.Ends (retireReadyStreams : Method cmath Unit) :=
  Routine.Ends.get.bind fun _ => retireFrom_ends _ _

lemma enqueue_ends (stream : ℕ) (frame : JobHandle) (op : StreamOp) :
    Routine.Ends (enqueue stream frame op : Method cmath Unit) :=
  (Routine.Ends.ask _).bind fun result => cuCheck_ends result

lemma launchKernels_ends (stream : ℕ) (frame : JobHandle) (launches : List KernelLaunch)
    (source destination : ℕ) :
    Routine.Ends (launchKernels stream frame launches source destination : Method cmath ℕ) := by
  induction launches generalizing source destination with
  | nil => exact Routine.Ends.pure source
  | cons launch rest ih => exact (enqueue_ends _ _ _).bind fun _ => ih destination source

lemma queueFrame_ends (job : FrameJob) (handle : JobHandle) (input : ℕ) (bytes : UInt64)
    (compiled : CompiledChain) (index : ℕ) (slot : StreamSlot) :
    Routine.Ends (queueFrame job handle input bytes compiled index slot : Method cmath Unit) := by
  refine (enqueue_ends _ _ _).bind fun _ => (enqueue_ends _ _ _).bind fun _ => ?_
  refine (launchKernels_ends _ _ _ _ _).bind fun source => (enqueue_ends _ _ _).bind fun _ => ?_
  refine (enqueue_ends _ _ _).bind fun _ => (enqueue_ends _ _ _).bind fun _ => ?_
  exact Routine.Ends.modify _

/-! ## One wait is enough -/

/-- The slot has been swept and is free, or its turn is still to come and its frame is done. -/
def Freed (order : EventOrder env) (i index : ℕ) (slot : StreamSlot)
    (backend : CudaBackend cmath) (e : env.State) : Prop :=
  (∃ other, backend.streams[i]? = some other ∧ other.busy = false)
    ∨ index ≤ i ∧ backend.streams[i]? = some slot ∧ order.Complete e slot.done

variable {order : EventOrder env} {i index : ℕ} {slot : StreamSlot}

lemma Freed.kept (h : Freed order i index slot backend e) (call : DriverCall)
    (hcall : Unqueued call) {answer : DriverAnswer call} {e' : env.State}
    (hanswer : env.respond e call answer e') : Freed order i index slot backend e' := by
  rcases h with hfree | ⟨hindex, hslot, hcomplete⟩
  · exact .inl hfree
  · exact .inr ⟨hindex, hslot, order.kept e call answer e' slot.done hcall hanswer hcomplete⟩

/-- A slot that stays as it is carries no frame, or one that is not done. -/
lemma Freed.pass (h : Freed order i index slot backend e) {current : StreamSlot}
    (hcurrent : backend.streams[index]? = some current)
    (hstays : current.busy = false ∨ ¬order.Complete e current.done) :
    Freed order i (index + 1) slot backend e := by
  rcases h with hfree | ⟨hindex, hslot, hcomplete⟩
  · exact .inl hfree
  · rcases Nat.lt_or_eq_of_le hindex with hlt | rfl
    · exact .inr ⟨hlt, hslot, hcomplete⟩
    · obtain rfl : current = slot := Option.some.inj (hcurrent.symm.trans hslot)
      rcases hstays with hidle | hpending
      · exact .inl ⟨current, hcurrent, hidle⟩
      · exact absurd hcomplete hpending

lemma Freed.retire (h : Freed order i index slot backend e) {current : StreamSlot}
    (hcurrent : backend.streams[index]? = some current) (completed : List Completion) :
    Freed order i (index + 1) slot { backend with
      completed := completed
      streams := backend.streams.set index { current with busy := false } } e := by
  have hlt := (List.getElem?_eq_some_iff.mp hcurrent).1
  by_cases hindex : index = i
  · subst hindex
    exact .inl ⟨{ current with busy := false }, List.getElem?_set_self hlt, rfl⟩
  · rcases h with ⟨other, hother, hidle⟩ | ⟨hle, hslot, hcomplete⟩
    · exact .inl ⟨other, (List.getElem?_set_ne hindex).trans hother, hidle⟩
    · exact .inr ⟨by omega, (List.getElem?_set_ne hindex).trans hslot, hcomplete⟩

/-- **One turn of the sweep.** -/
lemma retireSlot_freed (hwell : backend.WellFormed) (h : Freed order i index slot backend e)
    {current : StreamSlot} (hcurrent : backend.streams[index]? = some current) :
    Routine.wp env (retireSlot index current)
      (fun result after e' => result = .ok () → Freed order i (index + 1) slot after e'
        ∧ after.streams.length = backend.streams.length) backend e := by
  rw [retireSlot]
  split
  · rename_i hidle
    rw [Bool.not_eq_true'] at hidle
    exact fun _ => ⟨h.pass hcurrent (.inl hidle), rfl⟩
  · rename_i hbusy
    rw [Bool.not_eq_true', Bool.not_eq_false] at hbusy
    refine Routine.wp_ask_bind.mpr fun status e₁ hstatus => ?_
    cases status with
    | CUDA_ERROR_NOT_READY what =>
        intro _
        by_cases hcomplete : order.Complete e current.done
        · exact absurd hcomplete (order.ready e current.done what e₁ hstatus)
        · exact ⟨(h.pass hcurrent (.inr hcomplete)).kept (.cuEventQuery _) trivial hstatus, rfl⟩
    | failure what =>
        intro herror
        cases herror
    | CUDA_SUCCESS =>
        refine Routine.wp_ask_bind.mpr fun elapsed e₂ helapsed => ?_
        refine wp_cuCheck_bind (fun _ => ?_) fun _ herror => by cases herror
        refine Routine.wp_ask_bind.mpr fun source e₃ hsource => ?_
        rcases fromBytes_staging (hwell.shaped current (List.mem_of_getElem? hcurrent) hbusy)
          source.2 with ⟨image, himage⟩
        rw [himage]
        intro _
        have hread := ((h.kept (.cuEventQuery _) trivial hstatus).kept
          (.cuEventElapsedTime _ _) trivial helapsed).kept (.read _ (.staging _) _) trivial hsource
        exact ⟨hread.retire hcurrent _, List.length_set⟩

/-- **A sweep frees every slot whose frame is done**, unless it throws. -/
lemma retireFrom_freed (hwell : backend.WellFormed) {rest : ℕ}
    (h : Freed order i index slot backend e) (hlength : index + rest = backend.streams.length) :
    Routine.wp env (retireFrom index rest) (fun result after _ => result = .ok () →
      ∃ other, after.streams[i]? = some other ∧ other.busy = false) backend e := by
  induction rest generalizing backend index e with
  | zero =>
      intro _
      rcases h with hfree | ⟨hindex, hslot, -⟩
      · exact hfree
      · have hlt := (List.getElem?_eq_some_iff.mp hslot).1
        omega
  | succ rest ih =>
      have hlt : index < backend.streams.length := by omega
      refine Routine.wp_get_bind.mpr ?_
      rw [List.getElem?_eq_getElem hlt]
      have hcurrent := List.getElem?_eq_getElem hlt
      refine ((retireSlot_freed hwell h hcurrent).and (retireSlot_retired hwell hcurrent)).bind ?_ ?_
      · rintro ⟨⟩ middle e₁ ⟨hturn, hretired⟩
        rcases hturn rfl with ⟨hfreed, hsame⟩
        exact ih hretired.keeps.wellFormed hfreed (by omega)
      · rintro error after e₁ - herror
        cases herror

/-- With a free slot there is no second wait. -/
lemma claimStream_free {other : StreamSlot} (hother : backend.streams[i]? = some other)
    (hidle : other.busy = false) (turns : ℕ) :
    Routine.Halts env (claimStream (turns + 1)) backend e := by
  refine Routine.total_get_bind.mpr ?_
  split
  · trivial
  · rename_i hfull
    have hbusy := List.findIdx?_eq_none_iff.mp hfull other (List.mem_of_getElem? hother)
    rw [hidle] at hbusy
    cases hbusy

/-- **One wait is enough**, whatever else the driver answers. -/
theorem claimStream_halts (order : EventOrder env) (hwell : backend.WellFormed) (turns : ℕ) :
    Routine.Halts env (claimStream (turns + 2)) backend e := by
  refine Routine.total_get_bind.mpr ?_
  split
  · trivial
  split
  · trivial
  · rename_i slot holdest
    refine Routine.total_ask_bind.mpr fun answer e₁ hanswer => ?_
    cases answer with
    | CUDA_ERROR_NOT_READY what => trivial
    | failure what => trivial
    | CUDA_SUCCESS =>
        rcases List.getElem?_of_mem (oldest_mem holdest) with ⟨i, hslot⟩
        have hwaited : Freed order i 0 slot backend e₁ :=
          .inr ⟨Nat.zero_le i, hslot, order.waited e slot.done e₁ hanswer⟩
        have hswept : Routine.wp env retireReadyStreams (fun result after _ => result = .ok () →
            ∃ other, after.streams[i]? = some other ∧ other.busy = false) backend e₁ :=
          Routine.wp_get_bind.mpr (retireFrom_freed hwell hwaited (Nat.zero_add _))
        refine (retireReadyStreams_ends.total hswept).bind ?_ fun _ _ _ _ => trivial
        rintro ⟨⟩ swept e₂ hfree
        rcases hfree rfl with ⟨other, hother, hidle⟩
        exact claimStream_free hother hidle turns

/-! ## More turns -/

lemma claimStream_below (turns : ℕ) :
    Routine.Below (claimStream turns : Method cmath ℕ) (claimStream (turns + 1)) := by
  induction turns with
  | zero => exact Routine.Below.spin _
  | succ turns ih =>
      refine (Routine.Below.refl _).bind fun backend => ?_
      split
      · exact Routine.Below.refl _
      split
      · exact Routine.Below.refl _
      · refine (Routine.Below.refl _).bind fun answer => (Routine.Below.refl _).bind fun _ => ?_
        exact (Routine.Below.refl _).bind fun _ => ih

lemma submit_below (job : FrameJob) (turns : ℕ) :
    Routine.Below (submit job turns : Method cmath JobHandle) (submit job (turns + 1)) := by
  have hlaunch : ∀ handle, Routine.Below (launch job handle turns : Method cmath Unit)
      (launch job handle (turns + 1)) := by
    intro handle
    refine (Routine.Below.refl _).bind fun backend => ?_
    split
    · exact Routine.Below.refl _
    split
    · exact Routine.Below.refl _
    · dsimp only
      split
      · exact Routine.Below.refl _
      split
      · exact Routine.Below.refl _
      split
      · exact Routine.Below.refl _
      · refine (Routine.Below.refl _).bind fun _ => (Routine.Below.refl _).bind fun _ => ?_
        split
        · exact Routine.Below.refl _
        · exact (claimStream_below turns).bind fun _ => Routine.Below.refl _
  refine (Routine.Below.refl _).bind fun backend => (Routine.Below.refl _).bind fun _ => ?_
  exact (hlaunch _).handled.bind fun _ => Routine.Below.refl _

/-! ## The calls of the worker -/

lemma launchChain_halts (order : EventOrder env) (hwell : backend.WellFormed) (job : FrameJob)
    (handle : JobHandle) (input : ℕ) (bytes : UInt64) (turns : ℕ) :
    Routine.Halts env (launchChain job handle input bytes (turns + 2)) backend e := by
  refine Routine.total_get_bind.mpr (((cacheGet_ends _).total (cacheGet_keeps hwell _)).bind ?_
    fun _ _ _ _ => trivial)
  rintro compiled cached e₁ ⟨hcached, -⟩
  split
  · trivial
  · refine (claimStream_halts order hcached.wellFormed turns).bind fun index claimed e₂ => ?_
    refine Routine.total_get_bind.mpr ?_
    split
    · trivial
    · exact (queueFrame_ends _ _ _ _ _ _ _).halts _ _

lemma launch_halts (order : EventOrder env) (hwell : backend.WellFormed) (job : FrameJob)
    (handle : JobHandle) (turns : ℕ) :
    Routine.Halts env (launch job handle (turns + 2)) backend e := by
  refine Routine.total_get_bind.mpr ?_
  split
  · trivial
  split
  · trivial
  · dsimp only
    split
    · trivial
    split
    · trivial
    split
    · refine Routine.Ends.halts ((Routine.Ends.ask _).bind fun source => ?_) _ _
      exact (ofExcept_ends _).bind fun output => Routine.Ends.modify _
    · exact launchChain_halts order hwell job handle _ _ turns

/-- A submit needs no more than two turns of the loop, whatever else fails. -/
theorem submit_halts (order : EventOrder env) (hwell : backend.WellFormed) (job : FrameJob)
    (turns : ℕ) : Routine.Halts env (submit job (turns + 2)) backend e := by
  refine Routine.total_get_bind.mpr (Routine.total_modify_bind.mpr ?_)
  have hbumped : WellFormed { backend with nextHandle := backend.nextHandle + 1 } :=
    ⟨hwell.few, hwell.shaped, hwell.host⟩
  refine Routine.Halts.bind ((launch_halts order hbumped job _ turns).handled fun error => ?_)
    fun _ _ _ => trivial
  cases error with
  | cudaError what => exact (failJob_ends _ _).bind fun _ => recover_ends _
  | nvrtcError what => exact failJob_ends _ _
  | invalidArgument what => exact failJob_ends _ _
  | logicError what => exact failJob_ends _ _
  | outOfRange what => exact failJob_ends _ _
  | lengthError what => exact failJob_ends _ _
  | runtimeError what => exact failJob_ends _ _
  | outOfBounds => exact failJob_ends _ _

/-- A poll has no loop of its own. -/
theorem pollCompletions_ends :
    Routine.Ends (pollCompletions : Method cmath (List Completion)) := by
  refine (retireReadyStreams_ends.handled fun error => ?_).bind fun _ => ?_
  · cases error with
    | nvrtcError what => exact recover_ends _
    | cudaError what => exact recover_ends _
    | invalidArgument what => exact Routine.Ends.throw _
    | logicError what => exact Routine.Ends.throw _
    | outOfRange what => exact Routine.Ends.throw _
    | lengthError what => exact Routine.Ends.throw _
    | runtimeError what => exact Routine.Ends.throw _
    | outOfBounds => exact Routine.Ends.throw _
  · exact Routine.Ends.get.bind fun backend =>
      (Routine.Ends.modify _).bind fun _ => Routine.Ends.pure _

/-- Two turns or more. -/
theorem submit_returns (order : EventOrder env) (hwell : backend.WellFormed) (job : FrameJob)
    (turns : ℕ) {value : Except Exn JobHandle × CudaBackend cmath} {e' : env.State} :
    (submit job (turns + 2) backend).Returns env e value e'
      ↔ (submit job 2 backend).Returns env e value e' := by
  induction turns with
  | zero => rfl
  | succ turns ih =>
      exact ((submit_below job (turns + 2) backend).returns_iff
        (submit_halts order hwell job turns)).trans ih

end CudaBackend

/-! ## Runs -/

section Runs

open CudaBackend

variable {cmath : CMath} {env : Environment DriverCall DriverAnswer}
  {start : ℕ → env.State → Prop} {s : CudaRun cmath env}

/-- What a caller may wait for. -/
structure CallsEnd (s : CudaRun cmath env) : Prop where
  /-- `submit` comes to an end and returns a new handle. -/
  submit : ∀ job turns, Routine.total env (submit job (turns + 2))
    (fun result after _ => Submitted s.backend result after
      ∧ ∃ handle, result = .ok handle ∧ handle ∉ s.issued) s.backend s.driver
  /-- More turns give its loop nothing to do. -/
  turns : ∀ job turns value e', (CudaBackend.submit job (turns + 2) s.backend).Returns env s.driver
    value e' ↔ (CudaBackend.submit job 2 s.backend).Returns env s.driver value e'
  poll : Routine.total env pollCompletions (fun result after _ => Polled s.backend result after)
    s.backend s.driver
  manage : ∀ call : BackendCall, Routine.total env call.method
    (fun _ after _ => Keeps [] s.backend after) s.backend s.driver

lemma manage_ends (call : BackendCall) : Routine.Ends (call.method : Method cmath Unit) := by
  cases call with
  | allocateSlots count bytes => exact allocateSlots_ends count bytes
  | prewarm chain channels => exact prewarm_ends chain channels
  | recreateContext reason => exact recreateContext_ends reason

/-- **No call hangs.**  In every run of a backend whose driver calls an event complete once it has
waited for it, whatever else the driver answers and whatever fails: every call comes to an end, a
submit waits for one event at most, and what it then does is not cut short by the number of turns
that its loop is given. -/
theorem cuda_returns (order : EventOrder env) (h : (cudaSystem cmath env start).Reachable s) :
    CallsEnd s := by
  have hin := reachable_inOrder h
  refine ⟨?_, ?_, ?_, ?_⟩
  · intro job turns
    refine (submit_halts order hin.wellFormed job turns).total
      ((submit_submitted hin.wellFormed job _).mono ?_)
    intro result after e' hafter
    refine ⟨hafter, s.backend.nextHandle, hafter.result, ?_⟩
    intro hmem
    exact absurd (hin.below _ hmem) (lt_irrefl _)
  · intro job turns value e'
    exact submit_returns order hin.wellFormed job turns
  · exact pollCompletions_ends.total (pollCompletions_polled hin.wellFormed)
  · intro call
    exact (manage_ends call).total (manage_keeps hin.wellFormed call)

end Runs

/-! ## A frame that waits for another -/

namespace FilteredFrame

open CudaBackend

/-- One slot is built, and two frames are submitted. -/
def crowded : Option (CudaRun plainMath device) :=
  ({ backend := backend, driver := ({} : Device) } : CudaRun plainMath device).performAll prompt
    [.manage (.allocateSlots 1 1), .submit job 2, .submit job 2]

/-- How often the event of the one slot was waited for. -/
def waits (s : CudaRun plainMath device) : ℕ :=
  s.driver.log.countP fun entry => entry.1 = .cuEventSynchronize 1

/-- The second frame waits for the first. -/
lemma crowded_seen : crowded.map (fun s => (s.seen, waits s))
    = some (⟨[2, 1], [2], [(1, .kOk)], [], 0⟩, 1) := by
  decide +kernel

/-- With both frames submitted, and the second on the slot it waited for, every call comes to its
end. -/
theorem cuda_returns_crowded :
    ∃ s : CudaRun plainMath device, (cudaSystem plainMath device freshDevice).Reachable s
      ∧ s.seen = ⟨[2, 1], [2], [(1, .kOk)], [], 0⟩ ∧ waits s = 1 ∧ CallsEnd s := by
  rcases Option.map_eq_some_iff.mp crowded_seen with ⟨s, hrun, hseen⟩
  have hreach : (cudaSystem plainMath device freshDevice).Reachable s :=
    reachable_performAll prompt_responds
      (.init ⟨0, 0, 1, {}, rfl, ⟨rfl, fun _ => rfl⟩, rfl, rfl⟩) hrun
  exact ⟨s, hreach, congrArg Prod.fst hseen, congrArg Prod.snd hseen,
    cuda_returns deviceEvents hreach⟩

end FilteredFrame

end Imgjit
