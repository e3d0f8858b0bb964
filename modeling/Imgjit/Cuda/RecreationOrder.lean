import Imgjit.Cuda.StreamInvariant

/-!
# A recreation puts the streams in order again

`recreate_context` runs after a driver error, and whatever the launch was doing when the error came
up is still on the device: a stream may hold work for a frame that has no slot, and no event behind
it.  Nothing of this can be observed any more.  The backend gives the frames of its busy slots up,
and the old context takes all of their work with it.

* `Bare` — the state in between: nothing on the device, and no slots.
* `resetContext_bare` — destroying the context is what empties the queues.
* `emplaceSlots_ordered`, `buildStreamSlots_ordered` — the new slots have objects that were never
  worked on, because the numbers of all older ones are smaller (`stable_created`).
* `recreateContext_ordered` — from `Loose` to `Ordered`, however far the rebuild gets: each of its
  steps may throw, and the backend it leaves behind is in order all the same.

Startup builds its slots in the same way, so the lemmas about new slots serve `allocate_slots` too.
-/

namespace Imgjit

open Interaction Cuda

namespace CudaBackend

variable {cmath : CMath} {submitted : List (JobHandle × FrameJob)} {bound : JobHandle}
  {active : Option (ℕ × JobHandle)} {backend : CudaBackend cmath} {d d' : Device}

/-! ## Recreation -/

/-- Nothing on the device, and no slots. -/
structure Bare (submitted : List (JobHandle × FrameJob)) (bound : JobHandle)
    (backend : CudaBackend cmath) (d : Device) : Prop where
  loose : Loose submitted bound backend d
  streams : backend.streams = []
  queues : ∀ stream, d.queues stream = []

lemma Bare.ordered (h : Bare submitted bound backend d) :
    Ordered submitted bound none backend d :=
  h.loose.ordered h.streams h.queues

lemma Bare.silent (h : Bare submitted bound backend d) {call : DriverCall}
    (hsilent : Silent call) {answer : DriverAnswer call}
    (hrespond : device.respond d call answer d') : Bare submitted bound backend d' := by
  refine ⟨h.loose.silent hsilent hrespond, h.streams, ?_⟩
  intro stream
  have hsuffix := (asked_of_silent hsilent hrespond).queues stream
  rw [h.queues stream] at hsuffix
  exact List.suffix_nil.mp hsuffix

lemma Bare.modify (h : Bare submitted bound backend d) {after : CudaBackend cmath}
    (hcompleted : after.completed = backend.completed) (hstreams : after.streams = []) :
    Bare submitted bound after d where
  loose := ⟨h.loose.log, h.loose.worked, h.loose.queued, fun _ => h.queues, by
    rw [hcompleted]
    exact h.loose.pictured⟩
  streams := hstreams
  queues := h.queues

lemma Loose.modify (h : Loose submitted bound backend d) {after : CudaBackend cmath}
    (hcompleted : after.completed = backend.completed)
    (hcontext : after.context = none → backend.context = none) :
    Loose submitted bound after d :=
  ⟨h.log, h.worked, h.queued, fun hnone => h.drained (hcontext hnone), by
    rw [hcompleted]
    exact h.pictured⟩

/-- A completion is added. -/
lemma Loose.complete (h : Loose submitted bound backend d) {completions : List Completion}
    (hpictured : ∀ completion ∈ completions, Pictured d.log completion)
    {after : CudaBackend cmath} (hcompleted : after.completed = backend.completed ++ completions)
    (hcontext : after.context = backend.context) : Loose submitted bound after d where
  log := h.log
  worked := h.worked
  queued := h.queued
  drained hnone := h.drained (hcontext ▸ hnone)
  pictured := by
    rw [hcompleted]
    intro completion hmem
    rcases List.mem_append.mp hmem with hmem | hmem
    · exact h.pictured completion hmem
    · exact hpictured completion hmem

lemma pictured_failure (log : List DriverEvent) (handle : JobHandle) (reason : String) :
    Pictured log (failure handle reason) := by
  intro hok
  cases hok

/-- What the silent calls preserve, with nothing to say of the objects. -/
lemma stable_of_silent {I : Device → Prop}
    (hI : ∀ (d : Device) (call : DriverCall) (answer : DriverAnswer call) (d' : Device),
      Silent call → I d → device.respond d call answer d' → I d') :
    Stable device I (fun _ _ => True) where
  keep d call answer d' hsilent hd hrespond :=
    ⟨hI d call answer d' hsilent hd hrespond, fun _ _ => trivial⟩
  created _ _ _ _ _ _ := trivial

lemma clearStreams_loose (h : Loose submitted bound backend d) :
    Routine.wp device clearStreams
      (fun result after d' => result = .ok () ∧ Loose submitted bound after d'
        ∧ after.streams = []) backend d := by
  refine Routine.wp_get_bind.mpr (wp_destroyAll_bind (stable_of_silent
    (I := Loose submitted bound backend) fun _ _ _ _ hsilent hd => hd.silent hsilent) h ?_)
  intro d' h'
  exact ⟨rfl, h'.modify rfl fun hnone => hnone, rfl⟩

lemma detach_loose (h : Loose submitted bound backend d) (hstreams : backend.streams = []) :
    Routine.wp device detach
      (fun result after d' => result = .ok () ∧ Loose submitted bound after d'
        ∧ after.streams = []) backend d := by
  have hsilent : Silent .cuMemHostUnregister := trivial
  refine Routine.wp_get_bind.mpr ?_
  split
  · refine Routine.wp_ask_bind.mpr fun answer d' hrespond => ?_
    exact ⟨rfl, (h.silent hsilent hrespond).modify rfl fun hnone => hnone, hstreams⟩
  · exact ⟨rfl, h, hstreams⟩

/-- **A context takes its work with it.** -/
lemma resetContext_bare (h : Loose submitted bound backend d) (hstreams : backend.streams = []) :
    Routine.wp device resetContext
      (fun result after d' => result = .ok () ∧ Bare submitted bound after d') backend d := by
  refine Routine.wp_get_bind.mpr ?_
  split
  · rename_i context _
    refine Routine.wp_ask_bind.mpr fun answer d' hrespond => ?_
    rcases hrespond with ⟨middle, hprogress, ⟨hqueues, hnext⟩, hlog⟩
    have hasked : Asked d ⟨.cuCtxDestroy context, answer⟩ d' := by
      refine ⟨hlog, ?_, ?_, rfl, rfl⟩
      · intro stream
        rw [hqueues]
        exact List.nil_suffix
      · rw [hnext, hprogress.next]
    have hplain : DriverEvent.Plain ⟨.cuCtxDestroy context, answer⟩ :=
      ⟨rfl, rfl, rfl, fun _ => trivial⟩
    have hempty : ∀ stream, d'.queues stream = [] := by
      intro stream
      rw [hqueues]
    have hbare : Bare submitted bound backend d' :=
      ⟨h.asked hasked (h.log.plain hplain), hstreams, hempty⟩
    exact ⟨rfl, hbare.modify rfl hstreams⟩
  · rename_i hnone
    exact ⟨rfl, h, hstreams, h.drained hnone⟩

lemma attach_bare (h : Bare submitted bound backend d) :
    Routine.wp device attach (fun _ after d' => Bare submitted bound after d') backend d := by
  have hsilent : Silent .cuMemHostRegister := trivial
  refine Routine.wp_get_bind.mpr ?_
  split
  · refine Routine.wp_ask_bind.mpr fun answer d' hrespond => ?_
    have h' : Bare submitted bound backend d' := h.silent hsilent hrespond
    refine wp_cuCheck_bind (fun _ => ?_) fun _ => h'
    exact h'.modify rfl h.streams
  · exact h

/-- New objects: not seen before, and handed out by now. -/
lemma stable_created :
    Stable device
      (fun d' => Ordered submitted bound none backend d' ∧ d.next ≤ d'.next
        ∧ ∀ entry ∈ d'.log, ∀ stream frame, DriverEvent.work entry = some (stream, frame) →
          stream < d.next)
      (fun d' id => d.next ≤ id ∧ id < d'.next) where
  keep := by
    rintro d₁ call answer d₂ hsilent ⟨hordered, hnext, hwork⟩ hrespond
    have hasked := asked_of_silent hsilent hrespond
    refine ⟨⟨hordered.silent hsilent hrespond, hnext.trans hasked.next, ?_⟩, ?_⟩
    · rw [hasked.log]
      intro entry hentry stream frame hentryWork
      rcases List.mem_cons.mp hentry with rfl | hentry
      · rw [hasked.work] at hentryWork
        cases hentryWork
      · exact hwork entry hentry stream frame hentryWork
    · rintro id ⟨hlow, hhigh⟩
      exact ⟨hlow, hhigh.trans_le hasked.next⟩
  created := by
    rintro d₁ resource id d₂ ⟨-, hnext, -⟩ ⟨middle, hprogress, ⟨-, hid, hnext'⟩, -⟩
    rw [hid, hnext', hprogress.next]
    exact ⟨hnext, Nat.lt_succ_self _⟩

/-- A new slot joins the others. -/
lemma Ordered.emplace (h : Ordered submitted bound none backend d)
    (h' : Ordered submitted bound none backend d') {slot : StreamSlot} (hfree : slot.busy = false)
    (hids : ∀ id ∈ slot.ids, d.next ≤ id ∧ id < d'.next)
    (hwork : ∀ entry ∈ d'.log, ∀ stream frame, DriverEvent.work entry = some (stream, frame) →
      stream < d.next) :
    Ordered submitted bound none { backend with streams := backend.streams ++ [slot] } d' where
  log := h'.log
  worked := h'.worked
  queued := h'.queued
  context hnone := by
    refine ⟨rfl, ?_⟩
    intro other hother
    rcases List.mem_append.mp hother with hother | hother
    · exact (h'.context hnone).2 other hother
    · rw [List.mem_singleton.mp hother]
      exact hfree
  numbers := by
    intro other hother id hid
    rcases List.mem_append.mp hother with hother | hother
    · exact h'.numbers other hother id hid
    · rw [List.mem_singleton.mp hother] at hid
      exact (hids id hid).2
  apart := by
    rw [List.map_append, List.pairwise_append]
    refine ⟨h.apart, List.pairwise_singleton _ _, ?_⟩
    intro ids hmem ids' hmem' id hid hid'
    rcases List.mem_map.mp hmem with ⟨other, hother, rfl⟩
    rw [List.map_singleton, List.mem_singleton] at hmem'
    rw [hmem'] at hid'
    exact absurd (h.numbers other hother id hid) (Nat.not_lt.mpr (hids id hid').1)
  pending stream item hitem := by
    rcases h'.pending stream item hitem with hactive | ⟨other, hother, hrest⟩
    · exact .inl hactive
    · exact .inr ⟨other, List.mem_append_left _ hother, hrest⟩
  busy := by
    intro other hother hbusy
    rcases List.mem_append.mp hother with hother | hother
    · exact h'.busy other hother hbusy
    · rw [List.mem_singleton.mp hother, hfree] at hbusy
      cases hbusy
  seen := by
    intro other hother entry hentry frame hframe
    rcases List.mem_append.mp hother with hother | hother
    · exact h'.seen other hother entry hentry frame hframe
    · rw [List.mem_singleton.mp hother] at hframe
      have hstream : slot.stream ∈ slot.ids := by simp [StreamSlot.ids]
      exact absurd (hwork entry hentry slot.stream frame hframe)
        (Nat.not_lt.mpr (hids slot.stream hstream).1)
  pictured := h'.pictured

lemma emplaceSlots_ordered {count : ℕ} (h : Ordered submitted bound none backend d) :
    Routine.wp device (emplaceSlots count)
      (fun _ after d' => Ordered submitted bound none after d') backend d := by
  induction count generalizing backend d with
  | zero => exact h
  | succ count ih =>
      have hstart : ∀ entry ∈ d.log, ∀ stream frame,
          DriverEvent.work entry = some (stream, frame) → stream < d.next :=
        fun entry hentry stream frame hwork => (h.worked entry hentry stream frame hwork).1
      refine Routine.wp_get_bind.mpr ((makeStreamSlot_made stable_created
        ⟨h, le_rfl, hstart⟩ backend.slotBytes).bind ?_ ?_)
      · rintro slot backend d' ⟨rfl, ⟨h', -, hwork⟩, hslot⟩
        rcases hslot slot rfl with ⟨hfree, hids⟩
        exact ih (h.emplace h' hfree hids hwork)
      · rintro _ _ d' ⟨rfl, ⟨h', -, -⟩, -⟩
        exact h'

lemma buildStreamSlots_ordered (h : Bare submitted bound backend d) :
    Routine.wp device buildStreamSlots
      (fun _ after d' => Ordered submitted bound none after d') backend d := by
  have hclear : Routine.wp device clearStreams (fun _ after d' => Bare submitted bound after d')
      backend d := by
    refine Routine.wp_get_bind.mpr (wp_destroyAll_bind (stable_of_silent
      (I := Bare submitted bound backend) fun _ _ _ _ hsilent hd => hd.silent hsilent) h ?_)
    intro d' h'
    exact h'.modify rfl rfl
  refine hclear.bind ?_ fun _ _ _ hbare => hbare.ordered
  intro _ cleared d₁ hbare
  refine Routine.wp_get_bind.mpr ?_
  split
  · exact hbare.ordered
  · exact emplaceSlots_ordered hbare.ordered

/-- **A recreation puts everything in order again**, from wherever it starts and however far the
rebuild gets. -/
theorem recreateContext_ordered (h : Loose submitted bound backend d) (reason : String) :
    Routine.wp device (recreateContext reason)
      (fun _ after d' => Ordered submitted bound none after d') backend d := by
  have hfailed : Loose submitted bound (failBusy reason backend) d := by
    refine h.complete ?_ rfl rfl
    intro completion hmem
    rcases List.mem_map.mp hmem with ⟨slot, -, rfl⟩
    exact pictured_failure d.log slot.handle reason
  refine Routine.wp_modify_bind.mpr ((clearStreams_loose hfailed).bind ?_ ?_)
  · rintro _ cleared d₁ ⟨-, hcleared, hempty⟩
    refine Routine.wp_modify_bind.mpr ?_
    have hflushed : Loose submitted bound { cleared with cache := cleared.cache.clear } d₁ :=
      hcleared.modify rfl fun hnone => hnone
    refine (detach_loose hflushed hempty).bind ?_ ?_
    · rintro _ detached d₂ ⟨-, hdetached, hempty₂⟩
      refine (resetContext_bare hdetached hempty₂).bind ?_ ?_
      · rintro _ reset d₃ ⟨-, hreset⟩
        refine Routine.wp_modify_bind.mpr (Routine.wp_get_bind.mpr ?_)
        have hcounted : Bare submitted bound
            { reset with contextRecreations := reset.contextRecreations + 1 } d₃ :=
          hreset.modify rfl hreset.streams
        refine ((quiet_createContext _).wp (fun _ _ _ _ hsilent hd => Bare.silent hd hsilent)
          hcounted).bind ?_ ?_
        · rintro context _ d₄ ⟨rfl, h₄⟩
          refine Routine.wp_modify_bind.mpr ?_
          have hcreated : Bare submitted bound { reset with
              contextRecreations := reset.contextRecreations + 1, context := some context } d₄ :=
            h₄.modify rfl hreset.streams
          refine (attach_bare hcreated).bind ?_ fun _ _ _ hattached => hattached.ordered
          intro _ attached d₅ hattached
          exact buildStreamSlots_ordered hattached
        · rintro _ _ d₄ ⟨rfl, h₄⟩
          exact h₄.ordered
      · rintro _ _ _ ⟨herror, -⟩
        cases herror
    · rintro _ _ _ ⟨herror, -⟩
      cases herror
  · rintro _ _ _ ⟨herror, -⟩
    cases herror

end CudaBackend

end Imgjit
