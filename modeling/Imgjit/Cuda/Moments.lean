import Imgjit.Cuda.RecreationPixels

/-!
# Every moment of a call

A call on a backend takes many calls of the driver, and the device gets on between any two of them.
The results of `PixelRuns.lean` are about the state behind a whole call; a server whose readers run
beside the worker has other moments too.  What is said here holds at each of these, of calls as well
that never return, and of those that are in the middle of a recreation.

**On behalf of which frame.**  `Aside` and `OnBehalf` say which calls of the driver a method makes
on behalf of which frame.  A submit works for its own frame only, and reads no slot but its job's; a
poll queues nothing and reads no input.  So the readers may go on writing to the slots of other
frames.

**A safe device.**  `Safe` says that nothing that is pending will ever miss what it needs: the
buffers are long enough, the two of a kernel are not the same, and the kernel runs to its end under
every schedule.

**The calls of the worker.**  `submit_throughout` and `pollCompletions_throughout`: the device is
safe at every moment of a call.  While a frame is being queued this is `queueFrame_throughout`,
which is the induction over the operations of the frame; in all other methods nothing is queued, and
what is pending only gets less.
-/

namespace Imgjit

open Interaction RelyGuarantee Cuda

namespace CudaBackend

variable {cmath : CMath}

/-! ## On behalf of which frame -/

/-- No work is queued, and no input is read. -/
def Aside : DriverCall → Prop
  | .enqueue _ _ _ => False
  | .read _ (.input _) _ => False
  | _ => True

/-- Work is queued for this frame only, and its slot is the only one that is read. -/
def OnBehalf (frame : JobHandle) (job : FrameJob) : DriverCall → Prop
  | .enqueue _ other op => other = frame ∧ ∀ destination input bytes,
      op = .cuMemcpyHtoDAsync destination input bytes → job.input = some input
  | .read other (.input slot) _ => other = frame ∧ job.input = some slot
  | _ => True

lemma onBehalf_of_aside {frame : JobHandle} {job : FrameJob} (call : DriverCall)
    (h : Aside call) : OnBehalf frame job call := by
  cases call with
  | enqueue stream other op => exact h.elim
  | read other buffer bytes =>
      cases buffer with
      | input slot => exact h.elim
      | staging buffer => trivial
  | _ => trivial

section Confined

variable {P : DriverCall → Prop}

lemma confined_result {α : Type} (result : Except Exn α) :
    Routine.Confined P (fun _ => True) (ofExcept result : Method cmath α) := by
  cases result with
  | ok value => exact Routine.Confined.pure trivial
  | error error => exact Routine.Confined.throw error

lemma confined_checked (result : CUresult) :
    Routine.Confined P (fun _ => True) (cuCheck result : Method cmath Unit) :=
  Routine.Confined.of_quiet (quiet_cuCheck result)

/-- A checked call that queues work. -/
lemma enqueue_confined {stream : ℕ} {frame : JobHandle} {op : StreamOp}
    (h : P (.enqueue stream frame op)) :
    Routine.Confined P (fun _ => True) (enqueue stream frame op : Method cmath Unit) :=
  Routine.Confined.of_quiet (quiet_enqueue h)

end Confined

section Aside

lemma createContext_aside (ordinal : Int32) :
    Routine.Confined Aside (fun _ => True) (createContext ordinal : Method cmath ℕ) := by
  refine (Routine.Confined.ask trivial).bind fun init _ => (confined_checked init).bind fun _ _ => ?_
  refine (Routine.Confined.ask trivial).bind fun device _ => ?_
  refine (confined_checked device).bind fun _ _ => ?_
  refine (Routine.Confined.ask trivial).bind fun context _ => ?_
  exact Routine.Confined.of_quiet (quiet_checkCreated context)

lemma holding_aside {α : Type} {resource : Resource} {rest : ℕ → Method cmath α}
    (h : ∀ id, Routine.Confined Aside (fun _ => True) (rest id)) :
    Routine.Confined Aside (fun _ => True) (holding resource rest) := by
  refine (Routine.Confined.ask trivial).bind fun created _ => ?_
  refine (Routine.Confined.of_quiet (quiet_checkCreated created)).bind fun id _ => ?_
  refine (h id).handled fun error => ?_
  exact (Routine.Confined.ask trivial).bind fun _ _ => Routine.Confined.throw error

lemma makeStreamSlot_aside (bytes : UInt64) :
    Routine.Confined Aside (fun _ => True) (makeStreamSlot bytes : Method cmath StreamSlot) := by
  refine holding_aside fun stream => holding_aside fun done => ?_
  refine holding_aside fun kernelsBegin => holding_aside fun kernelsEnd => ?_
  refine holding_aside fun front => holding_aside fun back => holding_aside fun staging => ?_
  exact Routine.Confined.pure trivial

lemma destroyAll_aside (objects : List (Resource × ℕ)) :
    Routine.Confined Aside (fun _ => True) (destroyAll objects : Method cmath Unit) := by
  induction objects with
  | nil => exact Routine.Confined.pure trivial
  | cons object rest ih => exact (Routine.Confined.ask trivial).bind fun _ _ => ih

lemma clearStreams_aside :
    Routine.Confined Aside (fun _ => True) (clearStreams : Method cmath Unit) := by
  refine Routine.Confined.get.bind fun backend _ => ?_
  exact (destroyAll_aside _).bind fun _ _ => Routine.Confined.modify _

lemma emplaceSlots_aside (count : ℕ) :
    Routine.Confined Aside (fun _ => True) (emplaceSlots count : Method cmath Unit) := by
  induction count with
  | zero => exact Routine.Confined.pure trivial
  | succ count ih =>
      refine Routine.Confined.get.bind fun backend _ => ?_
      refine (makeStreamSlot_aside _).bind fun slot _ => ?_
      exact (Routine.Confined.modify _).bind fun _ _ => ih

lemma buildStreamSlots_aside :
    Routine.Confined Aside (fun _ => True) (buildStreamSlots : Method cmath Unit) := by
  refine clearStreams_aside.bind fun _ _ => Routine.Confined.get.bind fun backend _ => ?_
  split
  · exact Routine.Confined.pure trivial
  · exact emplaceSlots_aside _

lemma attach_aside : Routine.Confined Aside (fun _ => True) (attach : Method cmath Unit) := by
  refine Routine.Confined.get.bind fun backend _ => ?_
  split
  · refine (Routine.Confined.ask trivial).bind fun result _ => ?_
    exact (confined_checked result).bind fun _ _ => Routine.Confined.modify _
  · exact Routine.Confined.pure trivial

lemma detach_aside : Routine.Confined Aside (fun _ => True) (detach : Method cmath Unit) := by
  refine Routine.Confined.get.bind fun backend _ => ?_
  split
  · exact (Routine.Confined.ask trivial).bind fun _ _ => Routine.Confined.modify _
  · exact Routine.Confined.pure trivial

lemma resetContext_aside :
    Routine.Confined Aside (fun _ => True) (resetContext : Method cmath Unit) := by
  refine Routine.Confined.get.bind fun backend _ => ?_
  split
  · exact (Routine.Confined.ask trivial).bind fun _ _ => Routine.Confined.modify _
  · exact Routine.Confined.pure trivial

lemma recreateContext_aside (reason : String) :
    Routine.Confined Aside (fun _ => True) (recreateContext reason : Method cmath Unit) := by
  refine (Routine.Confined.modify _).bind fun _ _ => clearStreams_aside.bind fun _ _ => ?_
  refine (Routine.Confined.modify _).bind fun _ _ => detach_aside.bind fun _ _ => ?_
  refine resetContext_aside.bind fun _ _ => (Routine.Confined.modify _).bind fun _ _ => ?_
  refine Routine.Confined.get.bind fun backend _ => (createContext_aside _).bind fun context _ => ?_
  refine (Routine.Confined.modify _).bind fun _ _ => attach_aside.bind fun _ _ => ?_
  exact buildStreamSlots_aside

lemma recover_aside (reason : String) :
    Routine.Confined Aside (fun _ => True) (recover reason : Method cmath Unit) :=
  (recreateContext_aside reason).handled fun _ => Routine.Confined.pure trivial

lemma failJob_aside (handle : JobHandle) (reason : String) :
    Routine.Confined Aside (fun _ => True) (failJob handle reason : Method cmath Unit) :=
  Routine.Confined.modify _

lemma retireSlot_aside (index : ℕ) (slot : StreamSlot) :
    Routine.Confined Aside (fun _ => True) (retireSlot index slot : Method cmath Unit) := by
  rw [retireSlot]
  split
  · exact Routine.Confined.pure trivial
  refine (Routine.Confined.ask trivial).bind fun status _ => ?_
  cases status with
  | CUDA_ERROR_NOT_READY what => exact Routine.Confined.pure trivial
  | failure what => exact Routine.Confined.throw _
  | CUDA_SUCCESS =>
      refine (Routine.Confined.ask trivial).bind fun elapsed _ => ?_
      refine (confined_checked elapsed).bind fun _ _ => ?_
      refine (Routine.Confined.ask trivial).bind fun source _ => ?_
      refine (confined_result _).bind fun output _ => ?_
      exact (Routine.Confined.modify _).bind fun _ _ => Routine.Confined.modify _

lemma retireReadyStreams_aside :
    Routine.Confined Aside (fun _ => True) (retireReadyStreams : Method cmath Unit) := by
  have hfrom : ∀ rest index,
      Routine.Confined Aside (fun _ => True) (retireFrom index rest : Method cmath Unit) := by
    intro rest
    induction rest with
    | zero => exact fun _ => Routine.Confined.pure trivial
    | succ rest ih =>
        intro index
        refine Routine.Confined.get.bind fun backend _ => ?_
        cases backend.streams[index]? with
        | none => exact Routine.Confined.pure trivial
        | some slot => exact (retireSlot_aside index slot).bind fun _ _ => ih (index + 1)
  exact Routine.Confined.get.bind fun _ _ => hfrom _ 0

lemma claimStream_aside (turns : ℕ) :
    Routine.Confined Aside (fun _ => True) (claimStream turns : Method cmath ℕ) := by
  induction turns with
  | zero => exact fun _ => trivial
  | succ turns ih =>
      refine Routine.Confined.get.bind fun backend _ => ?_
      cases backend.streams.findIdx? fun slot => !slot.busy with
      | some index => exact Routine.Confined.pure trivial
      | none =>
          cases oldest backend.streams with
          | none => exact Routine.Confined.throw _
          | some slot =>
              refine (Routine.Confined.ask trivial).bind fun result _ => ?_
              refine (confined_checked result).bind fun _ _ => ?_
              exact retireReadyStreams_aside.bind fun _ _ => ih

lemma cacheGet_aside (key : KernelKey) :
    Routine.Confined Aside (fun _ => True) (cacheGet key : Method cmath CompiledChain) := by
  refine Routine.Confined.get.bind fun backend _ => ?_
  split
  · refine (Routine.Confined.ask trivial).bind fun result _ => ?_
    exact (Routine.Confined.modify _).bind fun _ _ => confined_result _
  · exact (Routine.Confined.modify _).bind fun _ _ => confined_result _

/-- **A poll** queues nothing. -/
theorem pollCompletions_aside :
    Routine.Confined Aside (fun _ => True) (pollCompletions : Method cmath (List Completion)) := by
  refine (retireReadyStreams_aside.handled fun error => ?_).bind fun _ _ => ?_
  · cases error with
    | nvrtcError what => exact recover_aside _
    | cudaError what => exact recover_aside _
    | _ => exact Routine.Confined.throw _
  · refine Routine.Confined.get.bind fun backend _ => ?_
    exact (Routine.Confined.modify _).bind fun _ _ => Routine.Confined.pure trivial

end Aside

/-- What is aside is on behalf of nobody, and so of any frame. -/
lemma onBehalf_of_confined {α : Type} {routine : Method cmath α} {frame : JobHandle}
    {job : FrameJob} (h : Routine.Confined Aside (fun _ => True) routine) :
    Routine.Confined (OnBehalf frame job) (fun _ => True) routine :=
  fun backend => (h backend).allow onBehalf_of_aside

section OnBehalf

variable {job : FrameJob} {handle : JobHandle}

lemma queueFrame_onBehalf {input : ℕ} (hinput : job.input = some input) (bytes : UInt64)
    (compiled : CompiledChain) (index : ℕ) (slot : StreamSlot) :
    Routine.Confined (OnBehalf handle job) (fun _ => True)
      (queueFrame job handle input bytes compiled index slot : Method cmath Unit) := by
  have hplain : ∀ op : StreamOp,
      (∀ destination input bytes, op ≠ .cuMemcpyHtoDAsync destination input bytes) →
        OnBehalf handle job (.enqueue slot.stream handle op) :=
    fun op hop => ⟨rfl, fun destination input bytes h => absurd h (hop destination input bytes)⟩
  have hcopy : OnBehalf handle job
      (.enqueue slot.stream handle (.cuMemcpyHtoDAsync slot.front input bytes)) := by
    refine ⟨rfl, ?_⟩
    rintro _ _ _ ⟨⟩
    exact hinput
  refine (enqueue_confined hcopy).bind fun _ _ => ?_
  refine (enqueue_confined (hplain _ (by simp))).bind fun _ _ => ?_
  refine (Routine.Confined.of_quiet (quiet_launchKernels (fun launch _ source destination =>
    hplain (.cuLaunchKernel launch source destination) (by simp)) _ _)).bind fun source _ => ?_
  refine (enqueue_confined (hplain _ (by simp))).bind fun _ _ => ?_
  refine (enqueue_confined (hplain _ (by simp))).bind fun _ _ => ?_
  exact (enqueue_confined (hplain _ (by simp))).bind fun _ _ => Routine.Confined.modify _

lemma launchChain_onBehalf {input : ℕ} (hinput : job.input = some input) (bytes : UInt64)
    (turns : ℕ) :
    Routine.Confined (OnBehalf handle job) (fun _ => True)
      (launchChain job handle input bytes turns : Method cmath Unit) := by
  refine Routine.Confined.get.bind fun backend _ => ?_
  refine (onBehalf_of_confined (cacheGet_aside _)).bind fun compiled _ => ?_
  split
  · exact Routine.Confined.throw _
  refine (onBehalf_of_confined (claimStream_aside turns)).bind fun index _ => ?_
  refine Routine.Confined.get.bind fun after _ => ?_
  cases after.streams[index]? with
  | none => exact Routine.Confined.throw _
  | some slot => exact queueFrame_onBehalf hinput bytes compiled index slot

lemma launch_onBehalf (turns : ℕ) :
    Routine.Confined (OnBehalf handle job) (fun _ => True)
      (launch job handle turns : Method cmath Unit) := by
  refine Routine.Confined.get.bind fun backend _ => ?_
  split
  · exact Routine.Confined.throw _
  split
  · exact Routine.Confined.throw _
  rename_i input hinput
  dsimp only
  split
  · exact Routine.Confined.throw _
  split
  · exact Routine.Confined.throw _
  split
  · refine (Routine.Confined.ask ?_).bind fun source _ => ?_
    · exact ⟨rfl, hinput⟩
    · exact (confined_result _).bind fun output _ => Routine.Confined.modify _
  · exact launchChain_onBehalf hinput _ turns

/-- What `submit` does about an exception. -/
lemma handler_aside (handle : JobHandle) (error : Exn) :
    Routine.Confined Aside (fun _ => True) (match error with
      | .nvrtcError what => failJob handle what
      | .cudaError what => do
          failJob handle what
          recover ("driver error: " ++ what)
      | error => failJob handle error.what : Method cmath Unit) := by
  cases error with
  | cudaError what => exact (failJob_aside _ _).bind fun _ _ => recover_aside _
  | _ => exact failJob_aside _ _

/-- **A submit** works for the frame of its job. -/
theorem submit_onBehalf (backend : CudaBackend cmath) (turns : ℕ) :
    Routine.ConfinedAt (OnBehalf backend.nextHandle job) (fun _ => True) (submit job turns)
      backend := by
  refine Routine.confinedAt_get_bind.mpr ?_
  refine (Routine.Confined.modify _).bind (fun _ _ => ?_) backend
  refine ((launch_onBehalf turns).handled fun error => ?_).bind fun _ _ =>
    Routine.Confined.pure trivial
  exact onBehalf_of_confined (handler_aside _ error)

end OnBehalf

/-! ## A safe device -/

section Safe

variable {frames : JobHandle → FrameJob} {sizes : ℕ → ℕ} {owned : ℕ → ℕ → Prop}
  {submitted : List (JobHandle × FrameJob)} {bound : JobHandle} {backend : CudaBackend cmath}
  {g g' : Gpu}

variable (cmath frames) in
/-- What is pending may be done, in any order the streams allow. -/
def Safe (g : Gpu) : Prop :=
  ∃ owned, Owns owned g.device.next ∧ Promises cmath frames owned (fun _ _ => True) (fun _ => []) g

lemma Safe.front (h : Safe cmath frames g) {stream : ℕ} {item : QueuedOp} {rest : List QueuedOp}
    (hqueue : g.device.queues stream = item :: rest) : Cuda.Ready cmath frames item g.memory := by
  rcases h with ⟨owned, -, hpromises⟩
  have hleads := hpromises stream
  rw [hqueue, List.cons_append] at hleads
  exact hleads.defined

/-- Some of the work gets done. -/
lemma Safe.works (h : Safe cmath frames g) (hnext : g'.device.next = g.device.next)
    (hworks : (machine cmath frames).Works Outside g.device.queues g.memory g'.device.queues
      g'.memory) : Safe cmath frames g' := by
  rcases h with ⟨owned, howns, hpromises⟩
  exact ⟨owned, hnext ▸ howns, (moved_of_works howns hnext hworks).promises _ _ hpromises⟩

/-- **A call that queues nothing** keeps the device safe. -/
lemma Safe.respond (h : Safe cmath frames g) {call : DriverCall} {answer : DriverAnswer call}
    (hquiet : ∀ stream frame op, call ≠ .enqueue stream frame op)
    (hrespond : (gpu cmath frames).respond g call answer g') : Safe cmath frames g' := by
  rcases h with ⟨owned, howns, hpromises⟩
  have hcalm : Calm call → Safe cmath frames g' := by
    intro hcalm
    have hmoved := moved_of_calm hcalm howns hrespond
    exact ⟨owned, howns.mono hmoved.next, hmoved.promises _ _ hpromises⟩
  cases call with
  | enqueue stream frame op => exact absurd rfl (hquiet stream frame op)
  | cuCtxDestroy context =>
      exact ⟨fun _ _ => False, owns_nothing _, promises_nothing (destroyed_of_respond hrespond).1⟩
  | _ => exact hcalm trivial

lemma Working.safe (h : Working submitted bound frames sizes owned backend g) :
    Safe cmath frames g :=
  ⟨owned, h.painted.owns, h.painted.promises.safe⟩

lemma GivenUp.safe (h : GivenUp submitted bound frames sizes owned backend g) :
    Safe cmath frames g :=
  ⟨owned, h.painted.owns, h.painted.promises⟩

lemma Settled.safe {result : Except Exn Unit}
    (h : Settled submitted bound frames sizes owned result backend g) : Safe cmath frames g := by
  cases result with
  | ok value => exact Working.safe h
  | error error =>
      rcases h with h | ⟨-, h⟩
      · exact h.safe
      · exact h.safe

/-- A method that queues nothing. -/
lemma throughout_of_aside {α : Type} {routine : Method cmath α}
    (h : Routine.Confined Aside (fun _ => True) routine) (hsafe : Safe cmath frames g) :
    Routine.throughout (gpu cmath frames) (Safe cmath frames) routine backend g := by
  refine (h backend).throughout ?_ hsafe
  rintro g call answer g' haside hg hrespond
  refine hg.respond ?_ hrespond
  rintro stream frame op rfl
  exact haside

/-! ## While a frame is being queued -/

section Queue

variable {slot : StreamSlot} {op : StreamOp} {ops : List StreamOp}

lemma Filling.safe (h : Filling submitted bound frames sizes owned slot ops backend g) :
    Safe cmath frames g :=
  ⟨owned, h.painted.owns, h.painted.promises.safe⟩

lemma throughout_fill_bind {α : Type} {rest : Unit → Method cmath α}
    (h : Filling submitted bound frames sizes owned slot (op :: ops) backend g)
    (hslot : slot ∈ backend.streams) (hfree : slot.busy = false)
    (hnamed : ∀ answer, DriverEvent.Named submitted ⟨.enqueue slot.stream bound op, answer⟩)
    (hevent : ∀ event, op = .cuEventRecord event → event ∈ slot.ids)
    (hok : ∀ g', Filling submitted bound frames sizes owned slot ops backend g' →
      Routine.throughout (gpu cmath frames) (Safe cmath frames) (rest ()) backend g') :
    Routine.throughout (gpu cmath frames) (Safe cmath frames)
      (enqueue slot.stream bound op >>= rest) backend g := by
  refine ⟨h.safe, ?_⟩
  intro answer g' hrespond
  rcases h.enqueued hslot hfree (hnamed answer) hevent hrespond with ⟨hgiven, hfilled⟩
  cases answer with
  | CUDA_SUCCESS => exact hok g' (hfilled rfl).1
  | CUDA_ERROR_NOT_READY what => exact hgiven.safe
  | failure what => exact hgiven.safe

lemma launchKernels_throughout (hslot : slot ∈ backend.streams) (hfree : slot.busy = false)
    (launches : List KernelLaunch) (source destination : ℕ)
    (h : Filling submitted bound frames sizes owned slot
      (kernelOps launches source destination ++ ops) backend g) :
    Routine.throughout (gpu cmath frames) (Safe cmath frames)
      (launchKernels slot.stream bound launches source destination) backend g := by
  induction launches generalizing source destination g with
  | nil => exact h.safe
  | cons launch rest ih =>
      refine throughout_fill_bind h hslot hfree (fun _ => trivial) (fun event hop => by cases hop) ?_
      intro g₁ h₁
      exact ih destination source h₁

/-- Wherever the queueing of a frame stands or stops, the device is safe. -/
theorem queueFrame_throughout (h : Working submitted bound frames sizes owned backend g)
    {input : ℕ} {bytes : UInt64} {compiled : CompiledChain}
    (hlaunch : Launchable cmath frames bound bytes
      (compiled.stageFunctions.zip compiled.program.stages))
    (hjob : (bound, frames bound) ∈ submitted) (hinput : (frames bound).input = some input)
    {index : ℕ} (hslot : slot ∈ backend.streams) (hfree : slot.busy = false)
    (hcontext : backend.context ≠ none) (hfits : bytes ≤ backend.slotBytes)
    (hheld : bytes.toNat ≤ (g.memory.slots input).length) :
    Routine.throughout (gpu cmath frames) (Safe cmath frames)
      (queueFrame (frames bound) bound input bytes compiled index slot) backend g := by
  have hbegin : slot.kernelsBegin ∈ slot.ids := by simp [StreamSlot.ids]
  have hend : slot.kernelsEnd ∈ slot.ids := by simp [StreamSlot.ids]
  refine throughout_fill_bind (h.fill hlaunch hslot hfree hcontext hfits hheld) hslot hfree
    (fun _ => ⟨frames bound, hjob, hinput⟩) (fun _ hop => by cases hop) ?_
  intro g₁ h₁
  refine throughout_fill_bind h₁ hslot hfree (fun _ => trivial) ?_ ?_
  · rintro _ ⟨⟩
    exact hbegin
  intro g₂ h₂
  refine (launchKernels_throughout hslot hfree _ slot.front slot.back h₂).bind
    (launchKernels_painted hslot hfree _ slot.front slot.back h₂) ?_
  rintro source backend g₃ ⟨rfl, -, rfl, h₃⟩
  refine throughout_fill_bind h₃ hslot hfree (fun _ => trivial) ?_ ?_
  · rintro _ ⟨⟩
    exact hend
  intro g₄ h₄
  refine throughout_fill_bind h₄ hslot hfree (fun _ => trivial) (fun _ hop => by cases hop) ?_
  intro g₅ h₅
  refine throughout_fill_bind h₅ hslot hfree (fun _ => trivial) ?_ ?_
  · rintro _ ⟨⟩
    exact done_mem_ids slot
  intro g₆ h₆
  exact h₆.safe

end Queue

/-! ## The calls of the worker -/

lemma launchChain_throughout (hwell : backend.WellFormed)
    (h : Working submitted bound frames sizes owned backend g)
    (hjob : (bound, frames bound) ∈ submitted) (hadmitted : AdmittedChain (frames bound).chain)
    (hheld : Held sizes (frames bound)) {input : ℕ} (hinput : (frames bound).input = some input)
    (hshaped : Image.Shaped (frames bound).width (frames bound).height (frames bound).channels)
    (hstride : (frames bound).stride = sizeT (frames bound).width * sizeT (frames bound).channels)
    (turns : ℕ) (hcontext : backend.context ≠ none) :
    Routine.throughout (gpu cmath frames) (Safe cmath frames)
      (launchChain (frames bound) bound input
        (sizeT (frames bound).width * sizeT (frames bound).channels * sizeT (frames bound).height)
        turns) backend g := by
  refine Routine.throughout_get_bind.mpr
    ((throughout_of_aside (cacheGet_aside _) h.safe).bind ((cacheGet_keeps hwell _).and
      (cacheGet_painted h backend.config hadmitted (frames bound).channels)) ?_)
  rintro compiled cached g₁ ⟨⟨hcached, hcontext₁⟩, h₁, hbytes₁, hserves⟩
  split
  · exact h₁.safe
  rename_i hroom
  rw [not_or] at hroom
  refine (throughout_of_aside (claimStream_aside turns) h₁.safe).bind
    ((claimStream_claimed hcached.wellFormed turns).and (claimStream_painted h₁ turns)) ?_
  rintro index claimed g₂ ⟨hclaimed, h₂, hbytes₂⟩
  refine Routine.throughout_get_bind.mpr ?_
  rcases hclaimed.free index rfl with ⟨slot, hslot, hfree⟩
  rw [hslot]
  refine queueFrame_throughout h₂ ⟨hshaped, hstride, rfl, hserves compiled rfl⟩ hjob hinput
    (List.mem_of_getElem? hslot) hfree ?_ ?_
    ((hheld input hinput hshaped).trans (h₂.painted.sizes input).ge)
  · rw [hclaimed.context, hcontext₁]
    exact hcontext
  · rw [hbytes₂, hbytes₁]
    exact UInt64.not_lt.mp hroom.2

lemma launch_throughout (hwell : backend.WellFormed)
    (h : Working submitted bound frames sizes owned backend g)
    (hjob : (bound, frames bound) ∈ submitted) (hadmitted : AdmittedChain (frames bound).chain)
    (hheld : Held sizes (frames bound)) (turns : ℕ) :
    Routine.throughout (gpu cmath frames) (Safe cmath frames) (launch (frames bound) bound turns)
      backend g := by
  refine Routine.throughout_get_bind.mpr ?_
  split
  · exact h.safe
  rename_i hcontext
  split
  · exact h.safe
  rename_i input hinput
  dsimp only
  split
  · exact h.safe
  rename_i hshaped
  split
  · exact h.safe
  rename_i hstride
  split
  · refine ⟨h.safe, ?_⟩
    intro source g₁ hsource
    refine throughout_of_aside ((confined_result _).bind fun _ _ => Routine.Confined.modify _)
      (h.safe.respond ?_ hsource)
    rintro stream frame op ⟨⟩
  · refine launchChain_throughout hwell h hjob hadmitted hheld hinput (not_not.mp hshaped)
      (not_not.mp hstride) turns ?_
    intro hnone
    rw [hnone] at hcontext
    exact hcontext rfl

/-- **At every moment of a submit** the device is safe. -/
theorem submit_throughout (hwell : backend.WellFormed)
    (h : Working submitted backend.nextHandle frames sizes owned backend g)
    (hadmitted : AdmittedChain (frames backend.nextHandle).chain)
    (hheld : Held sizes (frames backend.nextHandle)) (turns : ℕ) :
    Routine.throughout (gpu cmath frames) (Safe cmath frames)
      (submit (frames backend.nextHandle) turns) backend g := by
  refine Routine.throughout_get_bind.mpr (Routine.throughout_modify_bind.mpr ?_)
  have hbumped : WellFormed { backend with nextHandle := backend.nextHandle + 1 } :=
    ⟨hwell.few, hwell.shaped, hwell.host⟩
  have hstart := h.begin (frames backend.nextHandle)
  have hhandled := (launch_throughout hbumped hstart List.mem_cons_self hadmitted hheld
    turns).handled (launch_painted hbumped hstart List.mem_cons_self hadmitted hheld turns)
    fun error after g' hsettled => throughout_of_aside
      (handler_aside backend.nextHandle error) hsettled.safe
  refine Routine.throughout.bind (P := fun _ _ g' => Safe cmath frames g') hhandled
    (Prog.throughout.wp hhandled) ?_
  rintro _ after g' hsafe
  exact hsafe

/-- **At every moment of a poll** as well. -/
theorem pollCompletions_throughout (h : Safe cmath frames g) :
    Routine.throughout (gpu cmath frames) (Safe cmath frames) pollCompletions backend g :=
  throughout_of_aside pollCompletions_aside h

end Safe

end CudaBackend

end Imgjit
