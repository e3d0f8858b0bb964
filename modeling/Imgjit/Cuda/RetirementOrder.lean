import Imgjit.Cuda.StreamInvariant

/-!
# A slot is freed behind its event

`retire_ready_streams` asks for the event of each busy slot, and frees those whose event is
complete.  The query that says so is the observation that the next frame on that slot relies on, and
it is the only thing in a run from which anything about the past of a stream is learned.

**Slots among slots.**  No two slots share a stream or an event (`eq_of_shared`), so an update of
one slot leaves the others what they are: `of_mem_set`, `mem_set_of_stream_ne`, `map_ids_set`.

**Retiring.**  `Ordered.observe` turns a successful query into an observation of the slot's frame
and finds the stream empty, since the event is recorded behind all the work of the frame.
`Ordered.retire` then frees the slot, behind the read of its result.

**Sweeps.**  `retireReadyStreams_ordered` is the sweep over all the slots, wherever it stops, and
`claimStream_ordered` the loop that waits for a free one.
-/

namespace Imgjit

open Interaction Cuda

namespace CudaBackend

variable {cmath : CMath} {submitted : List (JobHandle × FrameJob)} {bound : JobHandle}
  {active : Option (ℕ × JobHandle)} {backend : CudaBackend cmath} {d d' : Device}

/-! ## Slots among slots -/

/-- Slots that share an object are the same slot. -/
lemma eq_of_shared {streams : List StreamSlot}
    (h : (streams.map StreamSlot.ids).Pairwise List.Disjoint) {slot other : StreamSlot}
    (hslot : slot ∈ streams) (hother : other ∈ streams) {id : ℕ} (hid : id ∈ slot.ids)
    (hid' : id ∈ other.ids) : slot = other := by
  by_contra hne
  rw [List.pairwise_map] at h
  have : Std.Symm fun a b : StreamSlot => a.ids.Disjoint b.ids := ⟨fun _ _ h _ ha hb => h hb ha⟩
  exact h.forall hslot hother hne hid hid'

lemma stream_mem_ids (slot : StreamSlot) : slot.stream ∈ slot.ids := by simp [StreamSlot.ids]

lemma done_mem_ids (slot : StreamSlot) : slot.done ∈ slot.ids := by simp [StreamSlot.ids]

section Update

variable {streams : List StreamSlot} {index : ℕ} {slot updated : StreamSlot}

/-- The slots of an updated list: the updated one, and those on other streams. -/
lemma of_mem_set (h : (streams.map StreamSlot.ids).Pairwise List.Disjoint)
    (hslot : streams[index]? = some slot) {other : StreamSlot}
    (hother : other ∈ streams.set index updated) :
    other = updated ∨ other ∈ streams ∧ other.stream ≠ slot.stream := by
  rcases List.mem_iff_getElem?.mp hother with ⟨j, hj⟩
  rw [List.getElem?_set] at hj
  split_ifs at hj with hindex
  · exact .inl (Option.some.inj hj).symm
  · right
    refine ⟨List.mem_of_getElem? hj, fun hstream => ?_⟩
    rcases List.getElem?_eq_some_iff.mp hslot with ⟨hlt, hvalue⟩
    rcases List.getElem?_eq_some_iff.mp hj with ⟨hlt', hvalue'⟩
    rw [List.pairwise_map, List.pairwise_iff_getElem] at h
    have hids := stream_mem_ids other
    have hids' := stream_mem_ids slot
    rw [← hstream] at hids'
    rcases Nat.lt_or_gt_of_ne hindex with hlt'' | hlt''
    · have hdisjoint := h index j hlt hlt' hlt''
      rw [hvalue, hvalue'] at hdisjoint
      exact hdisjoint hids' hids
    · have hdisjoint := h j index hlt' hlt hlt''
      rw [hvalue, hvalue'] at hdisjoint
      exact hdisjoint hids hids'

/-- A slot on another stream is still there. -/
lemma mem_set_of_stream_ne (hslot : streams[index]? = some slot) {other : StreamSlot}
    (hother : other ∈ streams) (hne : other.stream ≠ slot.stream) :
    other ∈ streams.set index updated := by
  rcases List.mem_iff_getElem?.mp hother with ⟨j, hj⟩
  refine List.mem_iff_getElem?.mpr ⟨j, ?_⟩
  rw [List.getElem?_set_ne]
  · exact hj
  · rintro rfl
    rw [hslot] at hj
    exact hne (congrArg StreamSlot.stream (Option.some.inj hj)).symm

lemma updated_mem_set (hslot : streams[index]? = some slot) :
    updated ∈ streams.set index updated := by
  rcases List.getElem?_eq_some_iff.mp hslot with ⟨hlt, -⟩
  exact List.mem_set hlt updated

/-- An update that keeps the objects. -/
lemma map_ids_set (hslot : streams[index]? = some slot) (hids : updated.ids = slot.ids) :
    (streams.set index updated).map StreamSlot.ids = streams.map StreamSlot.ids := by
  rw [List.map_set, hids]
  refine List.ext_getElem? fun j => ?_
  rw [List.getElem?_set]
  split_ifs with hindex hlt
  · subst hindex
    rw [List.getElem?_map, hslot]
    rfl
  · subst hindex
    rw [List.getElem?_eq_none (Nat.not_lt.mp hlt)]
  · rfl

end Update

/-! ## Retiring -/

/-- A busy slot whose event is complete has nothing pending. -/
lemma BusySlot.drained {slot : StreamSlot} (h : BusySlot d slot)
    (hcomplete : d.Complete slot.done) : d.queues slot.stream = [] := by
  cases hlast : (d.queues slot.stream).getLast? with
  | none => exact List.getLast?_eq_none_iff.mp hlast
  | some item =>
      have hop := h.last item hlast
      exact absurd hop (hcomplete slot.stream item (List.mem_of_getLast? hlast))

/-- **The query that says complete** is the observation of the frame, and finds its stream empty. -/
lemma Ordered.observe (h : Ordered submitted bound active backend d) {slot : StreamSlot}
    (hslot : slot ∈ backend.streams) (hbusy : slot.busy = true)
    (hrespond : device.respond d (.cuEventQuery slot.done) CUresult.CUDA_SUCCESS d') :
    Observed d'.log slot.handle ∧ d'.queues slot.stream = [] := by
  rcases h.busy slot hslot hbusy with ⟨hbusySlot, -⟩
  rcases hrespond with ⟨middle, hprogress, ⟨hqueues, -, hcomplete, -⟩, hlog⟩
  constructor
  · rcases hbusySlot.recorded with ⟨between, earlier, hrecorded, hwork, hstream, hrecords⟩
    refine ⟨slot.done, slot.stream, [], between, earlier, ?_, hwork, hstream, hrecords⟩
    rw [hlog, hrecorded]
    rfl
  · have hmiddle : BusySlot middle slot := by
      refine ⟨?_, ?_⟩
      · rw [hprogress.log]
        exact hbusySlot.recorded
      · intro item hitem
        exact hbusySlot.last item (getLast?_of_suffix (hprogress.queues slot.stream) hitem)
    rw [hqueues]
    exact hmiddle.drained (hcomplete rfl)

/-- The slot of an observed frame is free again. -/
lemma Ordered.retire (h : Ordered submitted bound none backend d) {index : ℕ} {slot : StreamSlot}
    (hslot : backend.streams[index]? = some slot) (hbusy : slot.busy = true)
    (hobserved : Observed d.log slot.handle)
    (hqueue : d.queues slot.stream = []) {completion : Completion}
    (hpictured : Pictured d.log completion) :
    Ordered submitted bound none
      { backend with
        completed := backend.completed ++ [completion]
        streams := backend.streams.set index { slot with busy := false } } d where
  log := h.log
  worked := h.worked
  queued := h.queued
  context hnone := by
    rw [(h.context hnone).2 slot (List.mem_of_getElem? hslot)] at hbusy
    cases hbusy
  numbers := by
    intro other hother
    rcases List.mem_or_eq_of_mem_set hother with hother | rfl
    · exact h.numbers other hother
    · exact h.numbers slot (List.mem_of_getElem? hslot)
  apart := by
    have hids : ({ slot with busy := false } : StreamSlot).ids = slot.ids := rfl
    rw [map_ids_set hslot hids]
    exact h.apart
  pending := by
    intro stream item hitem
    rcases h.pending stream item hitem with hactive | ⟨other, hother, hstream, hrest⟩
    · exact .inl hactive
    · refine .inr ⟨other, mem_set_of_stream_ne hslot hother ?_, hstream, hrest⟩
      rintro hsame
      rw [← hstream, hsame, hqueue] at hitem
      cases hitem
  busy := by
    intro other hother hbusy
    rcases of_mem_set h.apart hslot hother with rfl | ⟨hother, -⟩
    · cases hbusy
    · exact h.busy other hother hbusy
  seen := by
    intro other hother entry hentry frame hwork
    rcases of_mem_set h.apart hslot hother with rfl | ⟨hother, -⟩
    · rcases h.seen slot (List.mem_of_getElem? hslot) entry hentry frame hwork with
        hactive | ⟨-, rfl⟩ | hseen
      · exact .inl hactive
      · exact .inr (.inr hobserved)
      · exact .inr (.inr hseen)
    · exact h.seen other hother entry hentry frame hwork
  pictured := by
    intro other hother
    rcases List.mem_append.mp hother with hother | hother
    · exact h.pictured other hother
    · rw [List.mem_singleton.mp hother]
      exact hpictured

lemma Asked.observed {entry : DriverEvent} (h : Asked d entry d') {frame : JobHandle}
    (hobserved : Observed d.log frame) : Observed d'.log frame := by
  rw [h.log]
  refine hobserved.cons ?_
  intro stream
  rw [h.work]
  exact Option.some_ne_none _ ∘ Eq.symm

lemma Asked.empty {entry : DriverEvent} (h : Asked d entry d') {stream : ℕ}
    (hempty : d.queues stream = []) : d'.queues stream = [] := by
  have hsuffix := h.queues stream
  rw [hempty] at hsuffix
  exact List.suffix_nil.mp hsuffix

/-- The read of the result of an observed frame. -/
lemma Ordered.readStaging (h : Ordered submitted bound active backend d) {frame : JobHandle}
    (hobserved : Observed d.log frame) {buffer bytes : ℕ}
    {source : DriverAnswer (.read frame (.staging buffer) bytes)}
    (hrespond : device.respond d (.read frame (.staging buffer) bytes) source d') :
    Ordered submitted bound active backend d' := by
  refine h.asked (asked_of_read hrespond) (h.log.cons ?_ ?_ trivial)
  · intro stream frame' hwork
    cases hwork
  · intro frame' hreads
    cases hreads
    exact hobserved

lemma retireSlot_ordered (h : Ordered submitted bound none backend d) {index : ℕ}
    {slot : StreamSlot} (hslot : backend.streams[index]? = some slot) :
    Routine.wp device (retireSlot index slot)
      (fun _ after d' => Ordered submitted bound none after d') backend d := by
  have hquery : Silent (.cuEventQuery slot.done) := trivial
  have helapsed : Silent (.cuEventElapsedTime slot.kernelsBegin slot.kernelsEnd) := trivial
  rw [retireSlot]
  split
  · exact h
  rename_i hbusy
  rw [Bool.not_eq_true', Bool.not_eq_false] at hbusy
  refine Routine.wp_ask_bind.mpr fun status d₁ hstatus => ?_
  have h₁ := h.silent hquery hstatus
  cases status with
  | CUDA_ERROR_NOT_READY what => exact h₁
  | failure what => exact h₁
  | CUDA_SUCCESS =>
      rcases h.observe (List.mem_of_getElem? hslot) hbusy hstatus with ⟨hobserved₁, hqueue₁⟩
      refine Routine.wp_ask_bind.mpr fun elapsed d₂ helapsedAnswer => ?_
      have hasked₂ := asked_of_silent helapsed helapsedAnswer
      have h₂ := h₁.silent helapsed helapsedAnswer
      refine wp_cuCheck_bind (fun _ => ?_) fun _ => h₂
      refine Routine.wp_ask_bind.mpr fun source d₃ hsource => ?_
      have hasked₃ := asked_of_read hsource
      have h₃ := h₂.readStaging (hasked₂.observed hobserved₁) hsource
      cases himage : Image.fromBytes slot.width slot.height slot.channels source.1
          (sizeT slot.width * sizeT slot.channels) with
      | error error => exact h₃
      | ok image =>
          refine h₃.retire hslot hbusy (hasked₃.observed (hasked₂.observed hobserved₁))
            (hasked₃.empty (hasked₂.empty hqueue₁)) ?_
          intro _
          refine ⟨.staging slot.staging, _, source, ?_, slot.width, slot.height, slot.channels,
            _, image, rfl, himage⟩
          rw [hasked₃.log]
          exact List.mem_cons_self

lemma retireFrom_ordered (h : Ordered submitted bound none backend d) (index rest : ℕ) :
    Routine.wp device (retireFrom index rest)
      (fun _ after d' => Ordered submitted bound none after d') backend d := by
  induction rest generalizing backend index d with
  | zero => exact h
  | succ rest ih =>
      refine Routine.wp_get_bind.mpr ?_
      cases hslot : backend.streams[index]? with
      | none => exact h
      | some slot =>
          refine (retireSlot_ordered h hslot).bind_of_mono ?_ fun _ _ _ h' => h'
          intro _ middle d₁ h₁
          exact ih h₁ (index + 1)

/-- **A sweep** keeps the invariant, wherever it stops. -/
theorem retireReadyStreams_ordered (h : Ordered submitted bound none backend d) :
    Routine.wp device retireReadyStreams
      (fun _ after d' => Ordered submitted bound none after d') backend d :=
  Routine.wp_get_bind.mpr (retireFrom_ordered h 0 _)

lemma claimStream_ordered (h : Ordered submitted bound none backend d) (turns : ℕ) :
    Routine.wp device (claimStream turns)
      (fun _ after d' => Ordered submitted bound none after d') backend d := by
  induction turns generalizing backend d with
  | zero => trivial
  | succ turns ih =>
      refine Routine.wp_get_bind.mpr ?_
      split
      · exact h
      split
      · exact h
      · rename_i slot _
        have hsynchronize : Silent (.cuEventSynchronize slot.done) := trivial
        refine Routine.wp_ask_bind.mpr fun answer d₁ hanswer => ?_
        have h₁ := h.silent hsynchronize hanswer
        refine wp_cuCheck_bind (fun _ => ?_) fun _ => h₁
        refine (retireReadyStreams_ordered h₁).bind_of_mono ?_ fun _ _ _ h' => h'
        intro _ middle d₂ h₂
        exact ih h₂

end CudaBackend

end Imgjit
