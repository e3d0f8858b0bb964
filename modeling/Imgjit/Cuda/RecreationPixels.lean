import Imgjit.Cuda.BackendPixels
import Imgjit.Cuda.SlotResources

/-!
# What a new context starts from

A recreation drops everything that is on the device, and builds the slots anew.  After a launch that
has failed half way this is what puts the invariant of `BackendPixels.lean` right: the work that
belongs to no frame goes with its context, and the frames whose work went with it become errors, for
which nothing is promised.

* `Emptied` — nothing on the device, and no slots.
* `Building` — a slot under construction, beside those there are.  A slot is built from seven
  objects, and between two of them the device has a stream without a slot; `building_keeper` follows
  the objects one by one, with what each of them adds to the buffers that a stream owns.
* `Fresh` — what has been handed out since is new, so no pending operation can name it.
* `recreateContext_painted` — however far the rebuild gets, the invariant holds again.

The slots that readers write to outlive a context, and nothing is said of what they hold.
-/

namespace Imgjit

open Interaction RelyGuarantee Cuda

namespace CudaBackend

variable {cmath : CMath} {frames : JobHandle → FrameJob} {sizes : ℕ → ℕ}
  {owned : ℕ → ℕ → Prop}
  {submitted : List (JobHandle × FrameJob)} {bound : JobHandle} {backend : CudaBackend cmath}
  {g g' : Gpu}

/-! ## Recreation -/

lemma GivenUp.silent (h : GivenUp submitted bound frames sizes owned backend g) {call : DriverCall}
    (hsilent : Silent call) {answer : DriverAnswer call}
    (hrespond : (gpu cmath frames).respond g call answer g') :
    GivenUp submitted bound frames sizes owned backend g' :=
  ⟨h.loose.silent hsilent (device_of_gpu hrespond),
    h.painted.moved (moved_of_calm (calm_of_silent hsilent) h.painted.owns hrespond)⟩

/-- No slots any more, or the frames on them have failed. -/
lemma GivenUp.modify (h : GivenUp submitted bound frames sizes owned backend g)
    {after : CudaBackend cmath}
    (hstreams : ∀ slot ∈ after.streams, slot ∈ backend.streams
      ∨ ∃ old ∈ backend.streams, slot = { old with busy := false })
    (hbytes : after.slotBytes = backend.slotBytes) {completions : List Completion}
    (hcompleted : after.completed = backend.completed ++ completions)
    (hfailed : ∀ completion ∈ completions, completion.status = .kError)
    (hcontext : after.context = backend.context)
    (hentries : ∀ entry ∈ after.cache.entries, entry ∈ backend.cache.entries) :
    GivenUp submitted bound frames sizes owned after g where
  loose := by
    refine h.loose.complete (fun completion hmem hok => ?_) hcompleted hcontext
    rw [hfailed completion hmem] at hok
    cases hok
  painted := by
    refine h.painted.modify (fun _ _ h => h) hstreams hbytes ?_ fun entry hmem =>
      h.painted.admitted entry (hentries entry hmem)
    rw [hcompleted]
    intro completion hmem
    rcases List.mem_append.mp hmem with hmem | hmem
    · exact .inl hmem
    · exact .inr (deserved_failure g.memory (hfailed completion hmem))

/-- Nothing on the device, and no slots. -/
structure Emptied (submitted : List (JobHandle × FrameJob)) (bound : JobHandle)
    (frames : JobHandle → FrameJob) (sizes : ℕ → ℕ) (backend : CudaBackend cmath) (g : Gpu) :
    Prop where
  bare : Bare submitted bound backend g.device
  painted : Painted frames sizes (fun _ _ => False) (fun _ _ => True) (fun _ => []) backend g

lemma owns_nothing (next : ℕ) : Owns (fun _ _ => False) next :=
  ⟨fun _ _ _ h => h.elim, fun _ _ h => h.elim, fun _ _ h => h.elim⟩

lemma promises_nothing (hqueues : ∀ stream, g.device.queues stream = []) :
    Promises cmath frames owned (fun _ _ => True) (fun _ => []) g := by
  intro stream
  rw [hqueues stream]
  exact fun _ _ => trivial

/-- A device on which nothing is pending. -/
lemma Painted.emptied {goal : ℕ → Memory → Prop} {tail : ℕ → List QueuedOp}
    (h : Painted frames sizes owned goal tail backend g) (hstreams : backend.streams = [])
    (hqueues : ∀ stream, g'.device.queues stream = [])
    (hmemory : g'.memory = { g.memory with lost := g'.memory.lost }) :
    Painted frames sizes (fun _ _ => False) (fun _ _ => True) (fun _ => []) backend g' where
  promises := promises_nothing hqueues
  owns := owns_nothing _
  buffers := by
    rw [hstreams]
    exact fun _ hslot => absurd hslot List.not_mem_nil
  room := by
    rw [hstreams]
    exact fun _ hslot => absurd hslot List.not_mem_nil
  busy := by
    rw [hstreams]
    exact fun _ hslot => absurd hslot List.not_mem_nil
  deserved := by
    rw [hmemory]
    exact h.deserved
  admitted := h.admitted
  sizes := by
    rw [hmemory]
    exact h.sizes

lemma Emptied.silent (h : Emptied submitted bound frames sizes backend g) {call : DriverCall}
    (hsilent : Silent call) {answer : DriverAnswer call}
    (hrespond : (gpu cmath frames).respond g call answer g') :
    Emptied submitted bound frames sizes backend g' :=
  ⟨h.bare.silent hsilent (device_of_gpu hrespond),
    h.painted.moved (moved_of_calm (calm_of_silent hsilent) h.painted.owns hrespond)⟩

lemma Emptied.modify (h : Emptied submitted bound frames sizes backend g) {after : CudaBackend cmath}
    (hcompleted : after.completed = backend.completed) (hstreams : after.streams = [])
    (hentries : ∀ entry ∈ after.cache.entries, entry ∈ backend.cache.entries) :
    Emptied submitted bound frames sizes after g where
  bare := h.bare.modify hcompleted hstreams
  painted := by
    refine ⟨h.painted.promises, h.painted.owns, ?_, ?_, ?_, hcompleted ▸ h.painted.deserved,
      fun entry hmem => h.painted.admitted entry (hentries entry hmem), h.painted.sizes⟩
    all_goals
      rw [hstreams]
      exact fun _ hslot => absurd hslot List.not_mem_nil

/-- Without slots nothing is due. -/
lemma Emptied.working (h : Emptied submitted bound frames sizes backend g) :
    Working submitted bound frames sizes (fun _ _ => False) backend g := by
  refine ⟨h.bare.ordered, h.painted.modify ?_ (fun _ => .inl) rfl (fun _ => .inl)
    h.painted.admitted⟩
  intro stream m _ slot hslot
  rw [h.bare.streams] at hslot
  cases hslot

/-- What the silent calls preserve, with nothing to say of the objects. -/
lemma stable_of_silent_gpu {I : Gpu → Prop}
    (hI : ∀ (g : Gpu) (call : DriverCall) (answer : DriverAnswer call) (g' : Gpu),
      Silent call → I g → (gpu cmath frames).respond g call answer g' → I g') :
    Stable (gpu cmath frames) I (fun _ _ => True) where
  keep g call answer g' hsilent hg hrespond :=
    ⟨hI g call answer g' hsilent hg hrespond, fun _ _ => trivial⟩
  created _ _ _ _ _ _ := trivial

lemma clearStreams_givenUp (h : GivenUp submitted bound frames sizes owned backend g) :
    Routine.wp (gpu cmath frames) clearStreams
      (fun result after g' => result = .ok () ∧ GivenUp submitted bound frames sizes owned after g'
        ∧ after.streams = []) backend g := by
  refine Routine.wp_get_bind.mpr (wp_destroyAll_bind (stable_of_silent_gpu
    (I := GivenUp submitted bound frames sizes owned backend) fun _ _ _ _ hsilent hg => hg.silent hsilent)
    h ?_)
  intro g' h'
  exact ⟨rfl, h'.modify (fun _ hslot => absurd hslot List.not_mem_nil) rfl (List.append_nil _).symm
    (fun _ hmem => absurd hmem List.not_mem_nil) rfl fun _ => id, rfl⟩

lemma detach_givenUp (h : GivenUp submitted bound frames sizes owned backend g)
    (hstreams : backend.streams = []) :
    Routine.wp (gpu cmath frames) detach
      (fun result after g' => result = .ok () ∧ GivenUp submitted bound frames sizes owned after g'
        ∧ after.streams = []) backend g := by
  have hsilent : Silent .cuMemHostUnregister := trivial
  refine Routine.wp_get_bind.mpr ?_
  split
  · refine Routine.wp_ask_bind.mpr fun answer g' hrespond => ?_
    exact ⟨rfl, (h.silent hsilent hrespond).modify (fun _ => .inl) rfl (List.append_nil _).symm
      (fun _ hmem => absurd hmem List.not_mem_nil) rfl fun _ => id, hstreams⟩
  · exact ⟨rfl, h, hstreams⟩

/-- **A context takes its work with it.** -/
lemma resetContext_emptied (h : GivenUp submitted bound frames sizes owned backend g)
    (hstreams : backend.streams = []) :
    Routine.wp (gpu cmath frames) resetContext
      (fun result after g' => result = .ok () ∧ Emptied submitted bound frames sizes after g')
      backend g := by
  refine Routine.wp_get_bind.mpr ?_
  split
  · rename_i context hcontext
    refine Routine.wp_ask_bind.mpr fun answer g' hrespond => ?_
    rcases destroyed_of_respond hrespond with ⟨hqueues, middle, hmoved, hmemory⟩
    have hpainted : Painted frames sizes (fun _ _ => False) (fun _ _ => True) (fun _ => []) backend g' :=
      (h.painted.moved (hmoved h.painted.owns)).emptied hstreams hqueues (by rw [hmemory])
    have hplain : DriverEvent.Plain ⟨.cuCtxDestroy context, answer⟩ :=
      ⟨rfl, rfl, rfl, fun _ => trivial⟩
    have hasked : Asked g.device ⟨.cuCtxDestroy context, answer⟩ g'.device := by
      rcases device_of_gpu hrespond with ⟨driver, hprogress, ⟨-, hnext⟩, hlog⟩
      refine ⟨hlog, fun stream => ?_, by rw [hnext, hprogress.next], rfl, rfl⟩
      rw [hqueues stream]
      exact List.nil_suffix
    have hemptied : Emptied submitted bound frames sizes backend g' :=
      ⟨⟨h.loose.asked hasked (h.loose.log.plain hplain), hstreams, hqueues⟩, hpainted⟩
    exact ⟨rfl, hemptied.modify rfl hstreams fun _ => id⟩
  · rename_i hnone
    have hqueues := h.loose.drained hnone
    exact ⟨rfl, ⟨h.loose, hstreams, hqueues⟩, h.painted.emptied hstreams hqueues rfl⟩

lemma attach_emptied (h : Emptied submitted bound frames sizes backend g) :
    Routine.wp (gpu cmath frames) attach
      (fun _ after g' => Emptied submitted bound frames sizes after g') backend g := by
  have hsilent : Silent .cuMemHostRegister := trivial
  refine Routine.wp_get_bind.mpr ?_
  split
  · refine Routine.wp_ask_bind.mpr fun answer g' hrespond => ?_
    have h' := h.silent hsilent hrespond
    refine wp_cuCheck_bind (fun _ => ?_) fun _ => h'
    exact h'.modify rfl h.bare.streams fun _ => id
  · exact h

/-! ## New slots -/

/-- The objects of a slot that is being built, newest first: handed out since `base`, one after the
other, and each buffer has the room that was asked for. -/
structure Objects (base : ℕ) (held : List (Resource × ℕ)) (g : Gpu) : Prop where
  newest : (held.map Prod.snd).Pairwise (· > ·)
  range : ∀ object ∈ held, base ≤ object.2 ∧ object.2 < g.device.next
  room : ∀ object ∈ held, ∀ bytes, object.1 = .device bytes ∨ object.1 = .pinned bytes →
    (g.memory.buffers object.2).length = bytes.toNat

/-- The building of a slot beside the others. -/
structure Building (submitted : List (JobHandle × FrameJob)) (bound : JobHandle)
    (frames : JobHandle → FrameJob) (sizes : ℕ → ℕ) (owned : ℕ → ℕ → Prop) (base : ℕ) (backend : CudaBackend cmath)
    (held : List (Resource × ℕ)) (g : Gpu) : Prop where
  working : Working submitted bound frames sizes owned backend g
  owns : Owns owned base
  later : base ≤ g.device.next
  worked : ∀ entry ∈ g.device.log, ∀ stream frame,
    DriverEvent.work entry = some (stream, frame) → stream < base
  objects : Objects base held g

/-- A silent call, and one object more or less. -/
lemma Building.silent {base : ℕ} {held held' : List (Resource × ℕ)}
    (h : Building submitted bound frames sizes owned base backend held g) {call : DriverCall}
    (hsilent : Silent call) {answer : DriverAnswer call}
    (hrespond : (gpu cmath frames).respond g call answer g')
    (hobjects : (g.device.next ≤ g'.device.next → (∀ object ∈ held,
      g'.memory.buffers object.2 = g.memory.buffers object.2) → Objects base held' g')) :
    Building submitted bound frames sizes owned base backend held' g' where
  working := h.working.silent hsilent hrespond
  owns := h.owns
  later := h.later.trans (asked_of_silent hsilent (device_of_gpu hrespond)).next
  worked := by
    have hasked := asked_of_silent hsilent (device_of_gpu hrespond)
    rw [hasked.log]
    intro entry hentry stream frame hwork
    rcases List.mem_cons.mp hentry with rfl | hentry
    · rw [hasked.work] at hwork
      cases hwork
    · exact h.worked entry hentry stream frame hwork
  objects := by
    have hmoved := moved_of_calm (calm_of_silent hsilent) h.working.painted.owns hrespond
    refine hobjects hmoved.next fun object hmem => ?_
    have hkept := hmoved.kept h.working.painted.promises.safe
    rcases h.objects.range object hmem with ⟨hlow, hhigh⟩
    refine hkept.same object.2 ⟨hhigh, fun stream howned => ?_⟩
    exact absurd (h.owns.below stream object.2 howned) (Nat.not_lt.mpr hlow)

lemma Objects.later {base : ℕ} {held : List (Resource × ℕ)} (h : Objects base held g)
    (hnext : g.device.next ≤ g'.device.next)
    (hsame : ∀ object ∈ held, g'.memory.buffers object.2 = g.memory.buffers object.2) :
    Objects base held g' where
  newest := h.newest
  range object hmem := ⟨(h.range object hmem).1, (h.range object hmem).2.trans_le hnext⟩
  room object hmem bytes hbytes := by
    rw [hsame object hmem]
    exact h.room object hmem bytes hbytes

/-- **The objects of a slot are followed one by one.** -/
lemma building_keeper (submitted : List (JobHandle × FrameJob)) (bound : JobHandle)
    (frames : JobHandle → FrameJob) (sizes : ℕ → ℕ) (owned : ℕ → ℕ → Prop) (base : ℕ)
    (backend : CudaBackend cmath) : Keeper (gpu cmath frames)
      (Building submitted bound frames sizes owned base backend) where
  created := by
    intro held g resource id g' h hrespond
    have hcreate : Silent (.create resource) := trivial
    rcases created_of_respond hrespond with ⟨hid, hnext, hroom⟩
    refine h.silent hcreate hrespond fun hle hsame => ?_
    have hlater := h.objects.later hle hsame
    refine ⟨?_, ?_, ?_⟩
    · rw [List.map_cons, List.pairwise_cons]
      refine ⟨?_, hlater.newest⟩
      intro other hother
      rcases List.mem_map.mp hother with ⟨object, hobject, rfl⟩
      rw [hid]
      exact (h.objects.range object hobject).2
    · rintro object hobject
      rcases List.mem_cons.mp hobject with rfl | hobject
      · rw [hnext, hid]
        exact ⟨h.later, Nat.lt_succ_self _⟩
      · exact hlater.range object hobject
    · intro object hobject bytes hbytes
      rcases List.mem_cons.mp hobject with rfl | hobject
      · exact hroom bytes hbytes
      · exact hlater.room object hobject bytes hbytes
  refused held g resource what g' h hrespond := by
    have hcreate : Silent (.create resource) := trivial
    exact h.silent hcreate hrespond h.objects.later
  destroyed held g resource id answer g' h hrespond := by
    have hdestroy : Silent (.destroy resource id) := trivial
    refine h.silent hdestroy hrespond fun hle hsame => ?_
    have hlater := h.objects.later hle hsame
    exact ⟨(List.pairwise_cons.mp hlater.newest).2,
      fun object hmem => hlater.range object (List.mem_cons_of_mem _ hmem),
      fun object hmem => hlater.room object (List.mem_cons_of_mem _ hmem)⟩

/-- The buffers of a new slot belong to its stream. -/
def withSlot (owned : ℕ → ℕ → Prop) (slot : StreamSlot) (stream buffer : ℕ) : Prop :=
  owned stream buffer
    ∨ stream = slot.stream ∧ (buffer = slot.front ∨ buffer = slot.back ∨ buffer = slot.staging)

section Emplace

variable {base : ℕ} {slot : StreamSlot} {bytes : UInt64}

/-- What is known of the objects of a slot that has been built. -/
structure Fresh (base : ℕ) (bytes : UInt64) (slot : StreamSlot) (g : Gpu) : Prop where
  ids : ∀ id ∈ slot.ids, base ≤ id ∧ id < g.device.next
  front_ne : slot.front ≠ slot.back
  room : ∀ buffer, buffer = slot.front ∨ buffer = slot.back ∨ buffer = slot.staging →
    base ≤ buffer ∧ buffer < g.device.next ∧ (g.memory.buffers buffer).length = bytes.toNat

lemma Objects.fresh (h : Objects base (resources bytes slot) g) : Fresh base bytes slot g := by
  have hids : (resources bytes slot).map Prod.snd = slot.ids := rfl
  have hrange : ∀ id ∈ slot.ids, base ≤ id ∧ id < g.device.next := by
    intro id hid
    rw [← hids] at hid
    rcases List.mem_map.mp hid with ⟨object, hobject, rfl⟩
    exact h.range object hobject
  have hstaging : (Resource.pinned bytes, slot.staging) ∈ resources bytes slot := by
    simp [resources]
  have hback : (Resource.device bytes, slot.back) ∈ resources bytes slot := by simp [resources]
  have hfront : (Resource.device bytes, slot.front) ∈ resources bytes slot := by simp [resources]
  refine ⟨hrange, ?_, ?_⟩
  · have hnewest := h.newest
    rw [hids, StreamSlot.ids, List.pairwise_cons, List.pairwise_cons] at hnewest
    exact (hnewest.2.1 slot.front (by simp)).ne
  · rintro buffer (rfl | rfl | rfl)
    · exact ⟨(h.range _ hfront).1, (h.range _ hfront).2, h.room _ hfront bytes (.inl rfl)⟩
    · exact ⟨(h.range _ hback).1, (h.range _ hback).2, h.room _ hback bytes (.inl rfl)⟩
    · exact ⟨(h.range _ hstaging).1, (h.range _ hstaging).2, h.room _ hstaging bytes (.inr rfl)⟩

/-- New buffers have no owner yet. -/
lemma owns_withSlot (h : Owns owned base) (hnext : base ≤ g.device.next)
    (hfresh : Fresh base bytes slot g) : Owns (withSlot owned slot) g.device.next where
  one := by
    rintro stream stream' buffer (hold | ⟨rfl, hnew⟩) (hold' | ⟨rfl, hnew'⟩)
    · exact h.one stream stream' buffer hold hold'
    · exact absurd (h.below stream buffer hold) (Nat.not_lt.mpr (hfresh.room buffer hnew').1)
    · exact absurd (h.below stream' buffer hold') (Nat.not_lt.mpr (hfresh.room buffer hnew).1)
    · rfl
  below := by
    rintro stream buffer (hold | ⟨rfl, hnew⟩)
    · exact (h.below stream buffer hold).trans_le hnext
    · exact (hfresh.room buffer hnew).2.1
  streams := by
    rintro stream buffer (hold | ⟨rfl, hnew⟩)
    · exact (h.streams stream buffer hold).trans_le hnext
    · exact (hfresh.ids slot.stream (stream_mem_ids slot)).2

/-- What the streams promise does not change. -/
lemma leads_withSlot {goal : Memory → Prop} {l : List QueuedOp} {m : Memory} {stream : ℕ}
    (hfresh : Fresh base bytes slot g) (howns : Owns owned base)
    (h : (machine cmath frames).Leads (rely owned stream) (guarantee owned stream) goal l m) :
    (machine cmath frames).Leads (rely (withSlot owned slot) stream)
      (guarantee (withSlot owned slot) stream) goal l m := by
  refine h.weaken ?_ ?_
  · intro m₁ m₂ hm
    exact ⟨hm.lost, hm.copied, hm.slots,
      fun other buffer howned => hm.lengths other buffer (.inl howned),
      fun buffer howned => hm.same buffer (.inl howned)⟩
  · intro m₁ m₂ hm
    refine ⟨hm.lost, hm.copied, hm.slots, ?_, fun buffer hfree =>
      hm.same buffer fun howned => hfree (.inl howned)⟩
    rintro other buffer (hold | ⟨rfl, hnew⟩)
    · exact hm.lengths other buffer hold
    · rw [hm.same buffer]
      intro howned
      exact absurd (howns.below stream buffer howned) (Nat.not_lt.mpr (hfresh.room buffer hnew).1)

/-- **A new slot joins the others.** -/
lemma Building.emplace {g₀ : Gpu} (h₀ : Working submitted bound frames sizes owned backend g₀)
    (h : Building submitted bound frames sizes owned g₀.device.next backend
      (resources backend.slotBytes slot) g) (hfree : slot.busy = false) :
    Working submitted bound frames sizes (withSlot owned slot)
      { backend with streams := backend.streams ++ [slot] } g := by
  have hfresh := h.objects.fresh
  have hnumbers : ∀ other ∈ backend.streams, other.stream < g₀.device.next :=
    fun other hother => h₀.ordered.numbers other hother other.stream (stream_mem_ids other)
  have hnew : g₀.device.next ≤ slot.stream := (hfresh.ids slot.stream (stream_mem_ids slot)).1
  refine ⟨h₀.ordered.emplace h.working.ordered hfree hfresh.ids h.worked, ?_, ?_, ?_, ?_, ?_,
    h.working.painted.deserved, h.working.painted.admitted, h.working.painted.sizes⟩
  · intro stream
    refine leads_withSlot hfresh h.owns ((h.working.painted.promises stream).mono ?_)
    intro m hdue other hother hother' hbusy
    rcases List.mem_append.mp hother with hother | hother
    · exact hdue other hother hother' hbusy
    · rw [List.mem_singleton.mp hother, hfree] at hbusy
      cases hbusy
  · exact owns_withSlot h.owns h.later hfresh
  · intro other hother
    rcases List.mem_append.mp hother with hother | hother
    · rcases h.working.painted.buffers other hother with ⟨hne, hfront, hback, hstaging⟩
      exact ⟨hne, .inl hfront, .inl hback, .inl hstaging⟩
    · rw [List.mem_singleton.mp hother]
      exact ⟨hfresh.front_ne, .inr ⟨rfl, .inl rfl⟩, .inr ⟨rfl, .inr (.inl rfl)⟩,
        .inr ⟨rfl, .inr (.inr rfl)⟩⟩
  · intro other hother buffer howned
    rcases List.mem_append.mp hother with hother | hother
    · rcases howned with hold | ⟨hother', -⟩
      · exact h.working.painted.room other hother buffer hold
      · have := hnumbers other hother
        omega
    · rw [List.mem_singleton.mp hother] at howned
      rcases howned with hold | ⟨-, hbuffer⟩
      · exact absurd (h.owns.streams _ _ hold) (Nat.not_lt.mpr hnew)
      · exact (hfresh.room buffer hbuffer).2.2.ge
  · intro other hother hbusy
    rcases List.mem_append.mp hother with hother | hother
    · exact h.working.painted.busy other hother hbusy
    · rw [List.mem_singleton.mp hother, hfree] at hbusy
      cases hbusy

end Emplace

lemma emplaceSlots_painted {count : ℕ} (h : Working submitted bound frames sizes owned backend g) :
    Routine.wp (gpu cmath frames) (emplaceSlots count)
      (fun _ after g' => ∃ owned, Working submitted bound frames sizes owned after g') backend g := by
  induction count generalizing backend owned g with
  | zero => exact ⟨owned, h⟩
  | succ count ih =>
      have hstart : Building submitted bound frames sizes owned g.device.next backend [] g := by
        refine ⟨h, h.painted.owns, le_rfl, ?_, List.Pairwise.nil, ?_, ?_⟩
        · exact fun entry hentry stream frame hwork =>
            (h.ordered.worked entry hentry stream frame hwork).1
        · exact fun _ hobject => absurd hobject List.not_mem_nil
        · exact fun _ hobject => absurd hobject List.not_mem_nil
      refine Routine.wp_get_bind.mpr ((makeStreamSlot_kept
        (building_keeper submitted bound frames sizes owned g.device.next backend) hstart
        backend.slotBytes).bind ?_ ?_)
      · rintro slot _ g' ⟨rfl, hfree, hbuilt⟩
        rw [List.append_nil] at hbuilt
        exact ih (hbuilt.emplace h hfree)
      · rintro _ _ g' ⟨rfl, hbuilt⟩
        exact ⟨owned, hbuilt.working⟩

lemma buildStreamSlots_painted (h : Emptied submitted bound frames sizes backend g) :
    Routine.wp (gpu cmath frames) buildStreamSlots
      (fun _ after g' => ∃ owned, Working submitted bound frames sizes owned after g') backend g := by
  have hclear : Routine.wp (gpu cmath frames) clearStreams
      (fun _ after g' => Emptied submitted bound frames sizes after g') backend g := by
    refine Routine.wp_get_bind.mpr (wp_destroyAll_bind (stable_of_silent_gpu
      (I := Emptied submitted bound frames sizes backend) fun _ _ _ _ hsilent hg => hg.silent hsilent)
      h ?_)
    intro g' h'
    exact h'.modify rfl rfl fun _ => id
  refine hclear.bind ?_ fun _ _ _ hemptied => ⟨_, hemptied.working⟩
  intro _ cleared g₁ hemptied
  refine Routine.wp_get_bind.mpr ?_
  split
  · exact ⟨_, hemptied.working⟩
  · exact emplaceSlots_painted hemptied.working

/-- **A recreation starts from nothing**, and however far the rebuild gets, nothing is wrong. -/
theorem recreateContext_painted (h : GivenUp submitted bound frames sizes owned backend g)
    (reason : String) :
    Routine.wp (gpu cmath frames) (recreateContext reason)
      (fun _ after g' => ∃ owned, Working submitted bound frames sizes owned after g') backend g := by
  have hfailed : GivenUp submitted bound frames sizes owned (failBusy reason backend) g := by
    refine h.modify ?_ rfl rfl ?_ rfl fun _ => id
    · intro slot hslot
      rcases List.mem_map.mp hslot with ⟨old, hold, rfl⟩
      exact .inr ⟨old, hold, rfl⟩
    · intro completion hmem
      rcases List.mem_map.mp hmem with ⟨slot, -, rfl⟩
      rfl
  refine Routine.wp_modify_bind.mpr ((clearStreams_givenUp hfailed).bind ?_ ?_)
  · rintro _ cleared g₁ ⟨-, hcleared, hempty⟩
    refine Routine.wp_modify_bind.mpr ?_
    have hflushed : GivenUp submitted bound frames sizes owned
        { cleared with cache := cleared.cache.clear } g₁ :=
      hcleared.modify (fun _ => .inl) rfl (List.append_nil _).symm
        (fun _ hmem => absurd hmem List.not_mem_nil) rfl
        fun _ hmem => absurd hmem List.not_mem_nil
    refine (detach_givenUp hflushed hempty).bind ?_ ?_
    · rintro _ detached g₂ ⟨-, hdetached, hempty₂⟩
      refine (resetContext_emptied hdetached hempty₂).bind ?_ ?_
      · rintro _ reset g₃ ⟨-, hreset⟩
        refine Routine.wp_modify_bind.mpr (Routine.wp_get_bind.mpr ?_)
        have hcounted : Emptied submitted bound frames sizes
            { reset with contextRecreations := reset.contextRecreations + 1 } g₃ :=
          hreset.modify rfl hreset.bare.streams fun _ => id
        refine ((quiet_createContext _).wp
          (fun _ _ _ _ hsilent hg => Emptied.silent hg hsilent) hcounted).bind ?_ ?_
        · rintro context _ g₄ ⟨rfl, h₄⟩
          refine Routine.wp_modify_bind.mpr ?_
          have hcreated : Emptied submitted bound frames sizes { reset with
              contextRecreations := reset.contextRecreations + 1, context := some context } g₄ :=
            h₄.modify rfl hreset.bare.streams fun _ => id
          refine (attach_emptied hcreated).bind ?_ fun _ _ _ hattached => ⟨_, hattached.working⟩
          intro _ attached g₅ hattached
          exact buildStreamSlots_painted hattached
        · rintro _ _ g₄ ⟨rfl, h₄⟩
          exact ⟨_, h₄.working⟩
      · rintro _ _ _ ⟨herror, -⟩
        cases herror
    · rintro _ _ _ ⟨herror, -⟩
      cases herror
  · rintro _ _ _ ⟨herror, -⟩
    cases herror

end CudaBackend

end Imgjit
