import Imgjit.Cuda.BackendRuns
import Imgjit.Cuda.Device
import Mathlib.Data.List.Pairwise

/-!
# The order of the streams as an invariant

What is true of a `CudaBackend` and of the device it works on between any two calls of a run.  The
backend knows of its slots and the device of its queues; what is to be shown is about the log of
calls.  The invariant ties the three together, and it says of the queues only where they end, so
that the device may take work off their fronts at any moment.

**In order.**  `Ordered` says it while everything goes well: the queue of each busy slot ends with
the record of its event (`BusySlot`), every frame that has worked on a free slot has been observed,
and nothing else is pending anywhere.  While a frame is being queued it is `active`: its work is
pending on a slot that is not busy yet.

**Out of order.**  A launch that fails half way leaves work behind that belongs to no slot.  `Loose`
is what is still true then, and it is all that a recreation starts from.

**One more call.**  A call that queues nothing keeps both (`Ordered.asked`, `Loose.asked`), in
particular each call that neither works for a frame nor records nor reads for one (`Ordered.silent`,
`Loose.silent`).  `Ordered.loose`, `Ordered.loose_active` and `Loose.ordered` lead from one
invariant to the other.
-/

namespace Imgjit

open Interaction Cuda

namespace CudaBackend

variable {cmath : CMath} {submitted : List (JobHandle × FrameJob)} {bound : JobHandle}
  {active : Option (ℕ × JobHandle)} {backend : CudaBackend cmath} {d d' : Device}

/-! ## The invariant -/

/-- The record of the slot's event stands behind all the work of its frame, in the log as in the
queue of the one stream that work was done on. -/
structure BusySlot (d : Device) (slot : StreamSlot) : Prop where
  recorded : ∃ middle earlier,
    d.log = middle ++ ⟨.enqueue slot.stream slot.handle (.cuEventRecord slot.done),
        CUresult.CUDA_SUCCESS⟩ :: earlier
      ∧ (∀ entry ∈ middle, ∀ other, DriverEvent.work entry ≠ some (other, slot.handle))
      ∧ (∀ entry ∈ earlier, ∀ other,
        DriverEvent.work entry = some (other, slot.handle) → other = slot.stream)
      ∧ ∀ entry ∈ middle, DriverEvent.records entry ≠ some slot.done
  last : ∀ item, (d.queues slot.stream).getLast? = some item →
    item.op = .cuEventRecord slot.done

/-- The pixels of a successful completion were read on behalf of its frame. -/
def Pictured (log : List DriverEvent) (completion : Completion) : Prop :=
  completion.status = .kOk → ∃ buffer bytes source,
    (⟨.read completion.handle buffer bytes, source⟩ : DriverEvent) ∈ log
      ∧ ∃ width height channels stride image, completion.output = some image
        ∧ Image.fromBytes width height channels source.1 stride = .ok image

/-- **The invariant.**  `active` is a frame that is being queued, with its stream; the handles of
all the others are below `bound`. -/
structure Ordered (submitted : List (JobHandle × FrameJob)) (bound : JobHandle)
    (active : Option (ℕ × JobHandle)) (backend : CudaBackend cmath) (d : Device) : Prop where
  log : LogOrdered submitted d.log
  worked : ∀ entry ∈ d.log, ∀ stream frame, DriverEvent.work entry = some (stream, frame) →
    stream < d.next ∧ (frame < bound ∨ some (stream, frame) = active)
  queued : ∀ stream, ∀ item ∈ d.queues stream, ∃ answer,
    (⟨.enqueue stream item.frame item.op, answer⟩ : DriverEvent) ∈ d.log
  context : backend.context = none →
    active = none ∧ ∀ slot ∈ backend.streams, slot.busy = false
  numbers : ∀ slot ∈ backend.streams, ∀ id ∈ slot.ids, id < d.next
  apart : (backend.streams.map StreamSlot.ids).Pairwise List.Disjoint
  /-- What is pending belongs to the frame of a busy slot. -/
  pending : ∀ stream, ∀ item ∈ d.queues stream, some (stream, item.frame) = active
    ∨ ∃ slot ∈ backend.streams, slot.stream = stream ∧ slot.busy = true
      ∧ item.frame = slot.handle
  busy : ∀ slot ∈ backend.streams, slot.busy = true → BusySlot d slot ∧ slot.handle < bound
  /-- The keystone: whoever has worked on a slot before its present frame has been observed. -/
  seen : ∀ slot ∈ backend.streams, ∀ entry ∈ d.log, ∀ frame,
    DriverEvent.work entry = some (slot.stream, frame) →
      some (slot.stream, frame) = active ∨ slot.busy = true ∧ frame = slot.handle
        ∨ Observed d.log frame
  pictured : ∀ completion ∈ backend.completed, Pictured d.log completion

/-- What is left of it when frames have been given up. -/
structure Loose (submitted : List (JobHandle × FrameJob)) (bound : JobHandle)
    (backend : CudaBackend cmath) (d : Device) : Prop where
  log : LogOrdered submitted d.log
  worked : ∀ entry ∈ d.log, ∀ stream frame, DriverEvent.work entry = some (stream, frame) →
    stream < d.next ∧ frame < bound
  queued : ∀ stream, ∀ item ∈ d.queues stream, ∃ answer,
    (⟨.enqueue stream item.frame item.op, answer⟩ : DriverEvent) ∈ d.log
  drained : backend.context = none → ∀ stream, d.queues stream = []
  pictured : ∀ completion ∈ backend.completed, Pictured d.log completion

/-! ## One more call -/

lemma Pictured.cons {log : List DriverEvent} {completion : Completion}
    (h : Pictured log completion) (entry : DriverEvent) : Pictured (entry :: log) completion := by
  intro hok
  rcases h hok with ⟨buffer, bytes, source, hmem, hpicture⟩
  exact ⟨buffer, bytes, source, List.mem_cons_of_mem _ hmem, hpicture⟩

lemma getLast?_of_suffix {α : Type} {l l' : List α} (h : l' <:+ l) {a : α}
    (ha : l'.getLast? = some a) : l.getLast? = some a := by
  rcases h with ⟨front, rfl⟩
  rw [List.getLast?_append, ha]
  rfl

/-- A device that has got on, and has been asked something that queues nothing. -/
structure Asked (d : Device) (entry : DriverEvent) (d' : Device) : Prop where
  log : d'.log = entry :: d.log
  queues : ∀ stream, d'.queues stream <:+ d.queues stream
  next : d.next ≤ d'.next
  work : DriverEvent.work entry = none
  records : DriverEvent.records entry = none

/-- A busy slot stays as it is when neither its frame nor its event is in the next call. -/
lemma BusySlot.cons {slot : StreamSlot} (h : BusySlot d slot) {entry : DriverEvent}
    (hlog : d'.log = entry :: d.log)
    (hwork : ∀ stream, DriverEvent.work entry ≠ some (stream, slot.handle))
    (hrecords : DriverEvent.records entry ≠ some slot.done)
    (hqueue : d'.queues slot.stream <:+ d.queues slot.stream) : BusySlot d' slot where
  recorded := by
    rcases h.recorded with ⟨middle, earlier, hsplit, hmiddle, hstream, hevents⟩
    refine ⟨entry :: middle, earlier, by rw [hlog, hsplit, List.cons_append], ?_, hstream, ?_⟩
    · intro other hother
      rcases List.mem_cons.mp hother with rfl | hother
      · exact hwork
      · exact hmiddle other hother
    · intro other hother
      rcases List.mem_cons.mp hother with rfl | hother
      · exact hrecords
      · exact hevents other hother
  last item hitem := h.last item (getLast?_of_suffix hqueue hitem)

lemma BusySlot.asked {slot : StreamSlot} (h : BusySlot d slot) {entry : DriverEvent}
    (hasked : Asked d entry d') : BusySlot d' slot := by
  refine h.cons hasked.log (fun stream => ?_) ?_ (hasked.queues slot.stream)
  · rw [hasked.work]
    exact Option.some_ne_none _ ∘ Eq.symm
  · rw [hasked.records]
    exact Option.some_ne_none _ ∘ Eq.symm

/-- **A call that queues nothing** keeps the invariant, if the log stays in order. -/
theorem Ordered.asked (h : Ordered submitted bound active backend d) {entry : DriverEvent}
    (hasked : Asked d entry d') (hlog : LogOrdered submitted (entry :: d.log)) :
    Ordered submitted bound active backend d' where
  log := by
    rw [hasked.log]
    exact hlog
  worked := by
    rw [hasked.log]
    intro other hother stream frame hwork
    rcases List.mem_cons.mp hother with rfl | hother
    · rw [hasked.work] at hwork
      cases hwork
    · rcases h.worked other hother stream frame hwork with ⟨hstream, hframe⟩
      exact ⟨hstream.trans_le hasked.next, hframe⟩
  queued := by
    intro stream item hitem
    rcases h.queued stream item ((hasked.queues stream).subset hitem) with ⟨answer, hanswer⟩
    rw [hasked.log]
    exact ⟨answer, List.mem_cons_of_mem _ hanswer⟩
  context := h.context
  numbers slot hslot id hid := (h.numbers slot hslot id hid).trans_le hasked.next
  apart := h.apart
  pending stream item hitem := h.pending stream item ((hasked.queues stream).subset hitem)
  busy slot hslot hbusy := ⟨(h.busy slot hslot hbusy).1.asked hasked, (h.busy slot hslot hbusy).2⟩
  seen := by
    rw [hasked.log]
    intro slot hslot other hother frame hwork
    rcases List.mem_cons.mp hother with rfl | hother
    · rw [hasked.work] at hwork
      cases hwork
    · rcases h.seen slot hslot other hother frame hwork with hactive | hbusy | hobserved
      · exact .inl hactive
      · exact .inr (.inl hbusy)
      · refine .inr (.inr (hobserved.cons ?_))
        intro stream
        rw [hasked.work]
        exact Option.some_ne_none _ ∘ Eq.symm
  pictured completion hcompletion := by
    rw [hasked.log]
    exact (h.pictured completion hcompletion).cons entry

/-- The same for what is left of it. -/
theorem Loose.asked (h : Loose submitted bound backend d) {entry : DriverEvent}
    (hasked : Asked d entry d') (hlog : LogOrdered submitted (entry :: d.log)) :
    Loose submitted bound backend d' where
  log := by
    rw [hasked.log]
    exact hlog
  worked := by
    rw [hasked.log]
    intro other hother stream frame hwork
    rcases List.mem_cons.mp hother with rfl | hother
    · rw [hasked.work] at hwork
      cases hwork
    · rcases h.worked other hother stream frame hwork with ⟨hstream, hframe⟩
      exact ⟨hstream.trans_le hasked.next, hframe⟩
  queued := by
    intro stream item hitem
    rcases h.queued stream item ((hasked.queues stream).subset hitem) with ⟨answer, hanswer⟩
    rw [hasked.log]
    exact ⟨answer, List.mem_cons_of_mem _ hanswer⟩
  drained hnone stream := by
    have hsuffix := hasked.queues stream
    rw [h.drained hnone stream] at hsuffix
    exact List.suffix_nil.mp hsuffix
  pictured completion hcompletion := by
    rw [hasked.log]
    exact (h.pictured completion hcompletion).cons entry

/-- A handed-out object raises the numbers. -/
lemma le_of_handsOut {d : Device} {answer : Except String ℕ} {next : ℕ}
    (h : d.handsOut answer next) : d.next ≤ next := by
  cases answer with
  | ok id =>
      rw [h.2]
      exact Nat.le_succ _
  | error what => exact h.ge

lemma asked_of_silent {call : DriverCall} (hsilent : Silent call) {answer : DriverAnswer call}
    (h : device.respond d call answer d') : Asked d ⟨call, answer⟩ d' := by
  rcases h with ⟨middle, hprogress, heffect, hlog⟩
  have hplain := plain_of_silent hsilent answer
  have hkeeps : d'.queues = middle.queues ∧ middle.next ≤ d'.next := by
    cases call with
    | enqueue stream frame op => exact hsilent.elim
    | read frame buffer bytes => exact hsilent.elim
    | cuCtxDestroy context => exact hsilent.elim
    | cuCtxCreate => exact ⟨heffect.1, le_of_handsOut heffect.2⟩
    | create resource => exact ⟨heffect.1, le_of_handsOut heffect.2⟩
    | cuEventQuery event => exact ⟨heffect.1, heffect.2.1.ge⟩
    | cuEventSynchronize event => exact ⟨heffect.1, heffect.2.1.ge⟩
    | _ => exact ⟨heffect.1, heffect.2.ge⟩
  refine ⟨hlog, ?_, ?_, hplain.work, hplain.records⟩
  · intro stream
    rw [hkeeps.1]
    exact hprogress.queues stream
  · rw [← hprogress.next]
    exact hkeeps.2

lemma asked_of_read {frame : JobHandle} {buffer : HostBuffer} {bytes : ℕ}
    {source : DriverAnswer (.read frame buffer bytes)}
    (h : device.respond d (.read frame buffer bytes) source d') :
    Asked d ⟨.read frame buffer bytes, source⟩ d' := by
  rcases h with ⟨middle, hprogress, heffect, hlog⟩
  refine ⟨hlog, ?_, ?_, rfl, rfl⟩
  · intro stream
    rw [heffect.1]
    exact hprogress.queues stream
  · rw [← hprogress.next]
    exact heffect.2.ge

/-- **Silent calls** keep the invariant. -/
theorem Ordered.silent (h : Ordered submitted bound active backend d) {call : DriverCall}
    (hsilent : Silent call) {answer : DriverAnswer call}
    (hrespond : device.respond d call answer d') : Ordered submitted bound active backend d' :=
  h.asked (asked_of_silent hsilent hrespond) (h.log.plain (plain_of_silent hsilent answer))

/-- **Nor is the looser one.** -/
theorem Loose.silent (h : Loose submitted bound backend d) {call : DriverCall}
    (hsilent : Silent call) {answer : DriverAnswer call}
    (hrespond : device.respond d call answer d') : Loose submitted bound backend d' :=
  h.asked (asked_of_silent hsilent hrespond) (h.log.plain (plain_of_silent hsilent answer))

/-! ## From one invariant to the other -/

/-- Between two frames. -/
lemma Ordered.loose (h : Ordered submitted bound none backend d) :
    Loose submitted bound backend d where
  log := h.log
  worked entry hentry stream frame hwork := by
    rcases h.worked entry hentry stream frame hwork with ⟨hstream, hframe | hactive⟩
    · exact ⟨hstream, hframe⟩
    · cases hactive
  queued := h.queued
  drained := by
    intro hnone stream
    refine List.eq_nil_iff_forall_not_mem.mpr ?_
    intro item hitem
    rcases h.pending stream item hitem with hactive | ⟨slot, hslot, -, hbusy, -⟩
    · cases hactive
    · rw [(h.context hnone).2 slot hslot] at hbusy
      cases hbusy
  pictured := h.pictured

/-- In the middle of a launch. -/
lemma Ordered.loose_active {stream : ℕ}
    (h : Ordered submitted bound (some (stream, bound)) backend d) :
    Loose submitted (bound + 1) backend d where
  log := h.log
  worked entry hentry other frame hwork := by
    rcases h.worked entry hentry other frame hwork with ⟨hstream, hframe | hactive⟩
    · exact ⟨hstream, Nat.lt_succ_of_lt hframe⟩
    · cases hactive
      exact ⟨hstream, Nat.lt_succ_self _⟩
  queued := h.queued
  drained hnone := by cases (h.context hnone).1
  pictured := h.pictured

/-- Handles only grow. -/
lemma Ordered.later (h : Ordered submitted bound none backend d) {bound' : JobHandle}
    (hle : bound ≤ bound') : Ordered submitted bound' none backend d where
  log := h.log
  worked entry hentry stream frame hwork := by
    rcases h.worked entry hentry stream frame hwork with ⟨hstream, hframe | hactive⟩
    · exact ⟨hstream, .inl (hframe.trans_le hle)⟩
    · cases hactive
  queued := h.queued
  context := h.context
  numbers := h.numbers
  apart := h.apart
  pending := h.pending
  busy slot hslot hbusy := ⟨(h.busy slot hslot hbusy).1, (h.busy slot hslot hbusy).2.trans_le hle⟩
  seen := h.seen
  pictured := h.pictured

/-- Nothing on the device and no slots: the invariant holds again. -/
lemma Loose.ordered (h : Loose submitted bound backend d) (hstreams : backend.streams = [])
    (hqueues : ∀ stream, d.queues stream = []) : Ordered submitted bound none backend d where
  log := h.log
  worked entry hentry stream frame hwork :=
    ⟨(h.worked entry hentry stream frame hwork).1,
      .inl (h.worked entry hentry stream frame hwork).2⟩
  queued := h.queued
  context _ := by
    rw [hstreams]
    exact ⟨rfl, fun _ hslot => absurd hslot List.not_mem_nil⟩
  numbers := by
    rw [hstreams]
    exact fun _ hslot => absurd hslot List.not_mem_nil
  apart := by
    rw [hstreams]
    exact List.Pairwise.nil
  pending stream item hitem := by
    rw [hqueues stream] at hitem
    cases hitem
  busy := by
    rw [hstreams]
    exact fun _ hslot => absurd hslot List.not_mem_nil
  seen := by
    rw [hstreams]
    exact fun _ hslot => absurd hslot List.not_mem_nil
  pictured := h.pictured

end CudaBackend

end Imgjit
