import Imgjit.Cuda.RetirementOrder

/-!
# A frame is queued on a free slot

`launch` queues the copy of the input, the kernels, the copy of the result and three records of
events, all on the stream of one free slot.  Any of these calls may fail, and one that fails may
have queued its work all the same.  In between the frame is the `active` one: it works on a slot
that is not marked as its own yet, since the source marks a slot busy only behind the last call.

**One call.**  `Enqueued` is what queueing one item leaves on the streams.  `Ordered.enqueue` is the
step lemma: the slot is free, so each frame that has worked on it before has been observed, and the
new work disturbs none of them.

**The whole frame.**  `Ordered.activate` starts it and `Ordered.claim` ends it: behind the record of
its event the slot is the frame's own.  `queueFrame_ended` puts the calls together, one after the
other.  If one of them fails, only a driver error can come up (`Ended`), and that leads into a
recreation.
-/

namespace Imgjit

open Interaction Cuda

namespace CudaBackend

variable {cmath : CMath} {submitted : List (JobHandle × FrameJob)} {bound : JobHandle}
  {active : Option (ℕ × JobHandle)} {backend : CudaBackend cmath} {d d' : Device}

/-! ## Queueing a frame -/

lemma work_enqueue {stream stream' : ℕ} {frame frame' : JobHandle} {op : StreamOp}
    {answer : DriverAnswer (.enqueue stream frame op)}
    (h : DriverEvent.work ⟨.enqueue stream frame op, answer⟩ = some (stream', frame')) :
    stream' = stream ∧ frame' = frame := by
  cases op with
  | cuEventRecord event => cases h
  | _ =>
      cases h
      exact ⟨rfl, rfl⟩

lemma records_enqueue {stream event : ℕ} {frame : JobHandle} {op : StreamOp}
    {answer : DriverAnswer (.enqueue stream frame op)}
    (h : DriverEvent.records ⟨.enqueue stream frame op, answer⟩ = some event) :
    op = .cuEventRecord event := by
  cases op with
  | cuEventRecord other =>
      cases h
      rfl
  | _ => cases h

/-- What queueing work leaves on the streams. -/
structure Enqueued (d : Device) (stream : ℕ) (item : QueuedOp) (answer : CUresult) (d' : Device) :
    Prop where
  log : d'.log = ⟨.enqueue stream item.frame item.op, answer⟩ :: d.log
  next : d'.next = d.next
  others : ∀ other, other ≠ stream → d'.queues other <:+ d.queues other
  items : ∀ other ∈ d'.queues stream, other ∈ d.queues stream ∨ other = item
  last : answer = .CUDA_SUCCESS → (d'.queues stream).getLast? = some item

/-- What is queued was so before, or is the new item. -/
lemma Enqueued.mem {stream : ℕ} {item : QueuedOp} {answer : CUresult}
    (h : Enqueued d stream item answer d') {stream' : ℕ} {item' : QueuedOp}
    (hmem : item' ∈ d'.queues stream') :
    item' ∈ d.queues stream' ∨ stream' = stream ∧ item' = item := by
  by_cases hstream : stream' = stream
  · subst hstream
    rcases h.items item' hmem with hmem | rfl
    · exact .inl hmem
    · exact .inr ⟨rfl, rfl⟩
  · exact .inl ((h.others stream' hstream).subset hmem)

lemma enqueued_of_respond {stream : ℕ} {frame : JobHandle} {op : StreamOp} {answer : CUresult}
    (h : device.respond d (.enqueue stream frame op) answer d') :
    Enqueued d stream ⟨frame, op⟩ answer d' := by
  rcases h with ⟨middle, hprogress, ⟨hnext, hqueues⟩, hlog⟩
  refine ⟨hlog, hnext.trans hprogress.next, ?_, ?_, ?_⟩
  · intro other hother
    rcases hqueues with hpushed | ⟨-, hsame⟩
    · rw [hpushed, Device.push, Function.update_of_ne hother]
      exact hprogress.queues other
    · rw [hsame]
      exact hprogress.queues other
  · intro other hother
    rcases hqueues with hpushed | ⟨-, hsame⟩
    · rw [hpushed, Device.push, Function.update_self] at hother
      rcases List.mem_append.mp hother with hother | hother
      · exact .inl ((hprogress.queues stream).subset hother)
      · exact .inr (List.mem_singleton.mp hother)
    · rw [hsame] at hother
      exact .inl ((hprogress.queues stream).subset hother)
  · intro hsuccess
    rcases hqueues with hpushed | ⟨hfailed, -⟩
    · rw [hpushed, Device.push, Function.update_self, List.getLast?_concat]
    · exact absurd hsuccess hfailed

/-- **Work of the active frame**, on the stream of a free slot. -/
theorem Ordered.enqueue {slot : StreamSlot}
    (h : Ordered submitted bound (some (slot.stream, bound)) backend d)
    (hslot : slot ∈ backend.streams) (hfree : slot.busy = false) {op : StreamOp}
    {answer : CUresult} (hnamed : DriverEvent.Named submitted
      ⟨.enqueue slot.stream bound op, answer⟩)
    (hevent : ∀ event, op = .cuEventRecord event → event ∈ slot.ids)
    (henqueued : Enqueued d slot.stream ⟨bound, op⟩ answer d') :
    Ordered submitted bound (some (slot.stream, bound)) backend d' where
  log := by
    rw [henqueued.log]
    refine h.log.cons ?_ ?_ hnamed
    · intro stream frame hwork entry hentry frame' hwork' hne
      rcases work_enqueue hwork with ⟨rfl, rfl⟩
      rcases h.seen slot hslot entry hentry frame' hwork' with hactive | ⟨hbusy, -⟩ | hobserved
      · cases hactive
        exact absurd rfl hne
      · rw [hfree] at hbusy
        cases hbusy
      · exact hobserved
    · intro frame hreads
      cases hreads
  worked := by
    rw [henqueued.log, henqueued.next]
    intro entry hentry stream frame hwork
    rcases List.mem_cons.mp hentry with rfl | hentry
    · rcases work_enqueue hwork with ⟨rfl, rfl⟩
      exact ⟨h.numbers slot hslot slot.stream (stream_mem_ids slot), .inr rfl⟩
    · exact h.worked entry hentry stream frame hwork
  queued := by
    rw [henqueued.log]
    intro stream item hitem
    rcases henqueued.mem hitem with hitem | ⟨rfl, rfl⟩
    · rcases h.queued stream item hitem with ⟨answer', hanswer⟩
      exact ⟨answer', List.mem_cons_of_mem _ hanswer⟩
    · exact ⟨answer, List.mem_cons_self⟩
  context := h.context
  numbers := by
    rw [henqueued.next]
    exact h.numbers
  apart := h.apart
  pending := by
    intro stream item hitem
    rcases henqueued.mem hitem with hitem | ⟨rfl, rfl⟩
    · exact h.pending stream item hitem
    · exact .inl rfl
  busy := by
    intro other hmem hbusy
    rcases h.busy other hmem hbusy with ⟨hslotBusy, hbelow⟩
    -- The slot is free, so it shares neither its stream nor its event with a busy one.
    have hshares : ∀ id ∈ other.ids, id ∉ slot.ids := by
      intro id hid hid'
      rw [eq_of_shared h.apart hmem hslot hid hid', hfree] at hbusy
      cases hbusy
    have hstream : other.stream ≠ slot.stream := fun heq =>
      hshares other.stream (stream_mem_ids other) (heq ▸ stream_mem_ids slot)
    refine ⟨hslotBusy.cons henqueued.log (fun stream hwork => ?_) (fun hrecords => ?_)
      (henqueued.others other.stream hstream), hbelow⟩
    · exact absurd (work_enqueue hwork).2 hbelow.ne
    · exact hshares other.done (done_mem_ids other) (hevent other.done (records_enqueue hrecords))
  seen := by
    rw [henqueued.log]
    intro other hmem entry hentry frame hwork
    rcases List.mem_cons.mp hentry with rfl | hentry
    · rcases work_enqueue hwork with ⟨hstream, rfl⟩
      rw [hstream]
      exact .inl rfl
    · rcases h.seen other hmem entry hentry frame hwork with hactive | hbusy | hobserved
      · exact .inl hactive
      · exact .inr (.inl hbusy)
      · rcases (h.worked entry hentry other.stream frame hwork).2 with hbelow | hactive
        · refine .inr (.inr (hobserved.cons ?_))
          intro stream hentryWork
          exact absurd (work_enqueue hentryWork).2 hbelow.ne
        · exact .inl hactive
  pictured := by
    intro completion hcompletion
    rw [henqueued.log]
    exact (h.pictured completion hcompletion).cons _

/-- A frame that is being queued has a free slot to itself. -/
lemma Ordered.activate (h : Ordered submitted bound none backend d)
    (hcontext : backend.context ≠ none) (slot : StreamSlot) :
    Ordered submitted bound (some (slot.stream, bound)) backend d where
  log := h.log
  worked entry hentry stream frame hwork := by
    rcases h.worked entry hentry stream frame hwork with ⟨hstream, hbelow | hactive⟩
    · exact ⟨hstream, .inl hbelow⟩
    · cases hactive
  queued := h.queued
  context hnone := absurd hnone hcontext
  numbers := h.numbers
  apart := h.apart
  pending stream item hitem := by
    rcases h.pending stream item hitem with hactive | hbusy
    · cases hactive
    · exact .inr hbusy
  busy := h.busy
  seen slot hslot entry hentry frame hwork := by
    rcases h.seen slot hslot entry hentry frame hwork with hactive | hrest
    · cases hactive
    · exact .inr hrest
  pictured := h.pictured

/-- **The record of the event is queued**, and the slot is the frame's. -/
theorem Ordered.claim {index : ℕ} {slot : StreamSlot} (claimed : StreamSlot)
    (h : Ordered submitted bound (some (slot.stream, bound)) backend d)
    (hslot : backend.streams[index]? = some slot) (hfree : slot.busy = false)
    (hids : claimed.ids = slot.ids) (hstream : claimed.stream = slot.stream)
    (hdone : claimed.done = slot.done) (hhandle : claimed.handle = bound)
    (hbusy : claimed.busy = true) {earlier : List DriverEvent}
    (hlog : d.log = ⟨.enqueue slot.stream bound (.cuEventRecord slot.done),
      CUresult.CUDA_SUCCESS⟩ :: earlier)
    (hlast : (d.queues slot.stream).getLast? = some ⟨bound, .cuEventRecord slot.done⟩)
    (order : ℕ) :
    Ordered submitted (bound + 1) none
      { backend with
        streams := backend.streams.set index claimed
        nextSubmitOrder := order } d where
  log := h.log
  worked entry hentry stream frame hwork := by
    rcases h.worked entry hentry stream frame hwork with ⟨hlt, hbelow | hactive⟩
    · exact ⟨hlt, .inl (Nat.lt_succ_of_lt hbelow)⟩
    · cases hactive
      exact ⟨hlt, .inl (Nat.lt_succ_self _)⟩
  queued := h.queued
  context hnone := by cases (h.context hnone).1
  numbers := by
    intro other hother
    rcases List.mem_or_eq_of_mem_set hother with hother | rfl
    · exact h.numbers other hother
    · rw [hids]
      exact h.numbers slot (List.mem_of_getElem? hslot)
  apart := by
    rw [map_ids_set hslot hids]
    exact h.apart
  pending := by
    intro stream item hitem
    right
    rcases h.pending stream item hitem with
      hactive | ⟨other, hother, hotherStream, hotherBusy, hown⟩
    · cases hactive
      exact ⟨claimed, updated_mem_set hslot, hstream, hbusy, hhandle.symm⟩
    · refine ⟨other, mem_set_of_stream_ne hslot hother ?_, hotherStream, hotherBusy, hown⟩
      intro hsame
      have heq := eq_of_shared h.apart hother (List.mem_of_getElem? hslot) (stream_mem_ids other)
        (hsame ▸ stream_mem_ids slot)
      rw [heq, hfree] at hotherBusy
      cases hotherBusy
  busy := by
    intro other hother hotherBusy
    rcases of_mem_set h.apart hslot hother with rfl | ⟨hother, -⟩
    · refine ⟨⟨⟨[], earlier, ?_, ?_, ?_, ?_⟩, ?_⟩, ?_⟩
      · rw [hlog, hstream, hhandle, hdone]
        rfl
      · exact fun entry hentry => absurd hentry List.not_mem_nil
      · -- The handle is new, so whatever was done for it was done while the frame was active.
        rw [hhandle, hstream]
        intro entry hentry stream hwork
        have hmem : entry ∈ d.log := by
          rw [hlog]
          exact List.mem_cons_of_mem _ hentry
        rcases (h.worked entry hmem stream bound hwork).2 with hbelow | hactive
        · exact absurd hbelow (Nat.lt_irrefl bound)
        · exact congrArg Prod.fst (Option.some.inj hactive)
      · exact fun entry hentry => absurd hentry List.not_mem_nil
      · intro item hitem
        rw [hstream, hlast] at hitem
        rw [← Option.some.inj hitem, hdone]
      · rw [hhandle]
        exact Nat.lt_succ_self _
    · rcases h.busy other hother hotherBusy with ⟨hrecorded, hbelow⟩
      exact ⟨hrecorded, Nat.lt_succ_of_lt hbelow⟩
  seen := by
    intro other hother entry hentry frame hwork
    right
    rcases of_mem_set h.apart hslot hother with rfl | ⟨hother, hne⟩
    · rw [hstream] at hwork
      rcases h.seen slot (List.mem_of_getElem? hslot) entry hentry frame hwork with
        hactive | ⟨hslotBusy, -⟩ | hobserved
      · cases hactive
        exact .inl ⟨hbusy, hhandle.symm⟩
      · rw [hfree] at hslotBusy
        cases hslotBusy
      · exact .inr hobserved
    · rcases h.seen other hother entry hentry frame hwork with hactive | hrest
      · exact absurd (congrArg Prod.fst (Option.some.inj hactive)) hne
      · exact hrest
  pictured := h.pictured

/-- How a launch of the frame `bound` may end.  An error half way through is a driver error. -/
def Ended (submitted : List (JobHandle × FrameJob)) (bound : JobHandle) (result : Except Exn Unit)
    (after : CudaBackend cmath) (d' : Device) : Prop :=
  match result with
  | .ok _ => Ordered submitted (bound + 1) none after d'
  | .error error => Ordered submitted (bound + 1) none after d'
      ∨ (∃ what, error = .cudaError what) ∧ Loose submitted (bound + 1) after d'

lemma Ordered.ended (h : Ordered submitted bound none backend d) (error : Exn) :
    Ended submitted bound (.error error) backend d :=
  .inl (h.later (Nat.le_succ bound))

section Queue

variable {slot : StreamSlot}

lemma wp_enqueue_bind {α : Type} {rest : Unit → Method cmath α} {op : StreamOp}
    {Q : Except Exn α → CudaBackend cmath → Device → Prop}
    (h : Ordered submitted bound (some (slot.stream, bound)) backend d)
    (hslot : slot ∈ backend.streams) (hfree : slot.busy = false)
    (hnamed : ∀ answer, DriverEvent.Named submitted ⟨.enqueue slot.stream bound op, answer⟩)
    (hevent : ∀ event, op = .cuEventRecord event → event ∈ slot.ids)
    (hok : ∀ d', Ordered submitted bound (some (slot.stream, bound)) backend d' →
      Enqueued d slot.stream ⟨bound, op⟩ .CUDA_SUCCESS d' →
        Routine.wp device (rest ()) Q backend d')
    (herror : ∀ what d', Ordered submitted bound (some (slot.stream, bound)) backend d' →
      Q (.error (.cudaError what)) backend d') :
    Routine.wp device (enqueue slot.stream bound op >>= rest) Q backend d := by
  have hcall : Routine.wp device (enqueue slot.stream bound op) (fun result after d' =>
      after = backend ∧ Ordered submitted bound (some (slot.stream, bound)) backend d'
        ∧ OnlyCuda result
        ∧ (result = .ok () → Enqueued d slot.stream ⟨bound, op⟩ .CUDA_SUCCESS d')) backend d := by
    refine Routine.wp_ask_bind.mpr fun answer d' hrespond => ?_
    have henqueued := enqueued_of_respond hrespond
    have h' := h.enqueue hslot hfree (hnamed answer) hevent henqueued
    refine wp_cuCheck ?_ ?_
    · rintro rfl
      exact ⟨rfl, h', onlyCuda_ok (), fun _ => henqueued⟩
    · intro what
      exact ⟨rfl, h', onlyCuda_cudaError what, fun hok => by cases hok⟩
  refine hcall.bind ?_ ?_
  · rintro _ _ d' ⟨rfl, h', -, henqueued⟩
    exact hok d' h' (henqueued rfl)
  · rintro error _ d' ⟨rfl, h', honly, -⟩
    rcases honly error rfl with ⟨what, rfl⟩
    exact herror what d' h'

lemma launchKernels_ordered (hslot : slot ∈ backend.streams) (hfree : slot.busy = false)
    (launches : List KernelLaunch) (source destination : ℕ)
    (h : Ordered submitted bound (some (slot.stream, bound)) backend d) :
    Routine.wp device (launchKernels slot.stream bound launches source destination)
      (fun result after d' => after = backend
        ∧ Ordered submitted bound (some (slot.stream, bound)) backend d' ∧ OnlyCuda result)
      backend d := by
  induction launches generalizing source destination d with
  | nil => exact ⟨rfl, h, onlyCuda_ok source⟩
  | cons launch rest ih =>
      refine wp_enqueue_bind h hslot hfree (fun _ => trivial) (fun event hop => by cases hop) ?_ ?_
      · intro d₁ h₁ _
        exact ih destination source h₁
      · intro what d₁ h₁
        exact ⟨rfl, h₁, onlyCuda_cudaError what⟩

/-- **The queueing of a frame**: behind the last call the slot is its own, and before that only a
driver error can come up. -/
theorem queueFrame_ended (h : Ordered submitted bound none backend d) {job : FrameJob} {input : ℕ}
    (hjob : (bound, job) ∈ submitted) (hinput : job.input = some input) (bytes : UInt64)
    (compiled : CompiledChain) {index : ℕ} (hslot : backend.streams[index]? = some slot)
    (hfree : slot.busy = false) (hcontext : backend.context ≠ none) :
    Routine.wp device (queueFrame job bound input bytes compiled index slot)
      (fun result after d' => Ended submitted bound result after d') backend d := by
  have hmem := List.mem_of_getElem? hslot
  have hcopy : ∀ answer, DriverEvent.Named submitted
      ⟨.enqueue slot.stream bound (.cuMemcpyHtoDAsync slot.front input bytes), answer⟩ :=
    fun _ => ⟨job, hjob, hinput⟩
  have hbegin : slot.kernelsBegin ∈ slot.ids := by simp [StreamSlot.ids]
  have hend : slot.kernelsEnd ∈ slot.ids := by simp [StreamSlot.ids]
  have hthrow : ∀ what d',
      Ordered submitted bound (some (slot.stream, bound)) backend d' →
      Ended submitted bound (.error (.cudaError what)) backend d' :=
    fun what _ h' => .inr ⟨⟨what, rfl⟩, h'.loose_active⟩
  refine wp_enqueue_bind (h.activate hcontext slot) hmem hfree hcopy (fun _ hop => by cases hop)
    ?_ hthrow
  intro d₁ h₁ _
  refine wp_enqueue_bind h₁ hmem hfree (fun _ => trivial) ?_ ?_ hthrow
  · rintro _ ⟨⟩
    exact hbegin
  intro d₂ h₂ _
  refine (launchKernels_ordered hmem hfree (framePlan cmath job compiled) slot.front slot.back
    h₂).bind ?_ ?_
  · rintro source backend d₃ ⟨rfl, h₃, -⟩
    refine wp_enqueue_bind h₃ hmem hfree (fun _ => trivial) ?_ ?_ hthrow
    · rintro _ ⟨⟩
      exact hend
    intro d₄ h₄ _
    refine wp_enqueue_bind h₄ hmem hfree (fun _ => trivial) (fun _ hop => by cases hop) ?_ hthrow
    intro d₅ h₅ _
    refine wp_enqueue_bind h₅ hmem hfree (fun _ => trivial) ?_ ?_ hthrow
    · rintro _ ⟨⟩
      exact done_mem_ids slot
    intro d₆ h₆ henqueued
    exact h₆.claim { slot with
      busy := true, handle := bound, submitOrder := backend.nextSubmitOrder
      width := job.width, height := job.height, channels := job.channels }
      hslot hfree rfl rfl rfl rfl rfl henqueued.log (henqueued.last rfl) _
  · rintro error _ d₃ ⟨rfl, h₃, honly⟩
    rcases honly error rfl with ⟨what, rfl⟩
    exact hthrow what d₃ h₃

end Queue

end CudaBackend

end Imgjit
