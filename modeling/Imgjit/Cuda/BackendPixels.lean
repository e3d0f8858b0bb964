import Imgjit.Cuda.FramePixels

/-!
# What a CUDA backend computes

A `CudaBackend` against the device with its memory.  `FramePixels.lean` follows the work of one
frame through the queues when nothing else is queued there; here the frames of a whole backend are
in the queues at once, the methods that put them there fail half way, and the device gets on with
them between any two driver calls.

**The invariant.**  `Painted` says that what is pending on each stream leads to the result of the
frame that occupies its slot, and that what has been completed is what the server was promised.  It
speaks of the end of the queue and not of what the buffers hold now, so it is kept by the device
when it performs an operation, for nothing but the reason that an operation leads where it leads.

**Between the states.**  Three weaker invariants hold inside the methods: `Working` between two
frames, `Filling` while a frame is being queued, and `GivenUp` after a launch that has failed half
way, when a stream has work pending that belongs to no frame.  The last is why a failed launch must
recreate the context before anything else is queued.

**The methods.**  `retireSlot_painted` and `queueFrame_painted` are about a frame on its way out of
the queues, and into them.  `launch_painted` says that a launch keeps the invariant or ends with a
driver error and `GivenUp`.  The recreation that follows is in `RecreationPixels.lean`.
-/

namespace Imgjit

open Interaction RelyGuarantee Cuda

namespace CudaBackend

variable {cmath : CMath} {frames : JobHandle → FrameJob} {sizes : ℕ → ℕ}
  {owned : ℕ → ℕ → Prop}
  {submitted : List (JobHandle × FrameJob)} {bound : JobHandle}
  {active : Option (ℕ × JobHandle)} {backend : CudaBackend cmath} {g g' : Gpu}

/-! ## The invariant -/

variable (cmath frames) in
/-- What the stream of a busy slot comes to. -/
def Due (streams : List StreamSlot) (stream : ℕ) (m : Memory) : Prop :=
  ∀ slot ∈ streams, slot.stream = stream → slot.busy = true →
    Result cmath frames slot.handle slot.staging m

variable (cmath frames) in
/-- What the server was promised. -/
def Deserved (m : Memory) (completion : Completion) : Prop :=
  oracleContract cmath (frames completion.handle) (m.seenBy completion.handle) completion

/-- The slot and the frame that occupies it. -/
structure Occupied (frames : JobHandle → FrameJob) (slotBytes : UInt64) (slot : StreamSlot) :
    Prop where
  width : slot.width = (frames slot.handle).width
  height : slot.height = (frames slot.handle).height
  channels : slot.channels = (frames slot.handle).channels
  fits : sizeT slot.width * sizeT slot.channels * sizeT slot.height ≤ slotBytes

/-- The pixels of a job are in its slot, all of them. -/
def Held (sizes : ℕ → ℕ) (job : FrameJob) : Prop :=
  ∀ input, job.input = some input → Image.Shaped job.width job.height job.channels →
    (sizeT job.width * sizeT job.channels * sizeT job.height).toNat ≤ sizes input

/-- **The invariant.**  The streams come to their `goal`s when the `tail`s have been queued as well;
the slots have these `sizes`. -/
structure Painted (frames : JobHandle → FrameJob) (sizes : ℕ → ℕ) (owned : ℕ → ℕ → Prop)
    (goal : ℕ → Memory → Prop) (tail : ℕ → List QueuedOp) (backend : CudaBackend cmath) (g : Gpu) :
    Prop where
  promises : Promises cmath frames owned goal tail g
  owns : Owns owned g.device.next
  buffers : ∀ slot ∈ backend.streams, slot.front ≠ slot.back ∧ owned slot.stream slot.front
    ∧ owned slot.stream slot.back ∧ owned slot.stream slot.staging
  room : ∀ slot ∈ backend.streams, ∀ buffer, owned slot.stream buffer →
    backend.slotBytes.toNat ≤ (g.memory.buffers buffer).length
  busy : ∀ slot ∈ backend.streams, slot.busy = true → Occupied frames backend.slotBytes slot
  deserved : ∀ completion ∈ backend.completed, Deserved cmath frames g.memory completion
  admitted : ∀ entry ∈ backend.cache.entries, AdmittedChain entry.key.chain
  sizes : ∀ slot, (g.memory.slots slot).length = sizes slot

lemma Deserved.kept {m m' : Memory} {completion : Completion} {mine : ℕ → Prop}
    (h : Deserved cmath frames m completion) (hkept : Kept owned mine m m') :
    Deserved cmath frames m' completion := by
  intro hok
  rcases h hok with ⟨bytes, hbytes, hpicture⟩
  exact ⟨bytes, hkept.seenBy hbytes, hpicture⟩

lemma deserved_failure (m : Memory) {completion : Completion} (h : completion.status = .kError) :
    Deserved cmath frames m completion := by
  intro hok
  rw [h] at hok
  cases hok

section Changes

variable {goal goal' : ℕ → Memory → Prop} {tail : ℕ → List QueuedOp}

/-- The queues have got on, or have grown. -/
lemma Painted.kept (h : Painted frames sizes owned goal tail backend g) {tail' : ℕ → List QueuedOp}
    {mine : ℕ → Prop} (hpromises : Promises cmath frames owned goal' tail' g')
    (hnext : g.device.next ≤ g'.device.next) (hkept : Kept owned mine g.memory g'.memory) :
    Painted frames sizes owned goal' tail' backend g' where
  promises := hpromises
  owns := h.owns.mono hnext
  buffers := h.buffers
  room slot hslot buffer howned := by
    rw [hkept.lengths slot.stream buffer howned]
    exact h.room slot hslot buffer howned
  busy := h.busy
  deserved completion hmem := (h.deserved completion hmem).kept hkept
  admitted := h.admitted
  sizes slot := (hkept.slots slot).trans (h.sizes slot)

/-- **A call that neither queues work nor ends a context** keeps the invariant. -/
lemma Painted.moved (h : Painted frames sizes owned goal tail backend g)
    (hmoved : Gpu.Moved cmath frames owned g g') : Painted frames sizes owned goal tail backend g' :=
  h.kept (hmoved.promises _ _ h.promises) hmoved.next (hmoved.kept h.promises.safe)

/-- Nothing goes wrong on the device, even if nothing more is queued. -/
lemma Painted.adrift (h : Painted frames sizes owned goal tail backend g) :
    Painted frames sizes owned (fun _ _ => True) (fun _ => []) backend g :=
  ⟨h.promises.safe, h.owns, h.buffers, h.room, h.busy, h.deserved, h.admitted,
    h.sizes⟩

/-- What is on the host changes: slots may become free or go, and completions may be added. -/
lemma Painted.modify (h : Painted frames sizes owned goal tail backend g) {after : CudaBackend cmath}
    (hgoal : ∀ stream m, goal stream m → goal' stream m)
    (hstreams : ∀ slot ∈ after.streams, slot ∈ backend.streams
      ∨ ∃ old ∈ backend.streams, slot = { old with busy := false })
    (hbytes : after.slotBytes = backend.slotBytes)
    (hcompleted : ∀ completion ∈ after.completed, completion ∈ backend.completed
      ∨ Deserved cmath frames g.memory completion)
    (hadmitted : ∀ entry ∈ after.cache.entries, AdmittedChain entry.key.chain) :
    Painted frames sizes owned goal' tail after g where
  promises := h.promises.mono hgoal
  owns := h.owns
  buffers := by
    intro slot hslot
    rcases hstreams slot hslot with hslot | ⟨old, hold, rfl⟩
    · exact h.buffers slot hslot
    · exact h.buffers old hold
  room := by
    intro slot hslot
    rw [hbytes]
    rcases hstreams slot hslot with hslot | ⟨old, hold, rfl⟩
    · exact h.room slot hslot
    · exact h.room old hold
  busy := by
    intro slot hslot hbusy
    rw [hbytes]
    rcases hstreams slot hslot with hslot | ⟨old, hold, rfl⟩
    · exact h.busy slot hslot hbusy
    · cases hbusy
  deserved := by
    intro completion hmem
    rcases hcompleted completion hmem with hmem | hdeserved
    · exact h.deserved completion hmem
    · exact hdeserved
  admitted := hadmitted
  sizes := h.sizes

/-- A completion is added. -/
lemma Painted.complete (h : Painted frames sizes owned goal tail backend g) {completion : Completion}
    (hdeserved : Deserved cmath frames g.memory completion) :
    Painted frames sizes owned goal tail
      { backend with completed := backend.completed ++ [completion] } g := by
  refine h.modify (fun _ _ h => h) (fun _ => .inl) rfl ?_ h.admitted
  intro other hother
  rcases List.mem_append.mp hother with hother | hother
  · exact .inl hother
  · rw [List.mem_singleton.mp hother]
    exact .inr hdeserved

end Changes

lemma calm_of_silent {call : DriverCall} (h : Silent call) : Calm call := by
  cases call <;> first | exact h | trivial

/-! ## Retiring -/

/-- Both invariants, between two frames. -/
structure Working (submitted : List (JobHandle × FrameJob)) (bound : JobHandle)
    (frames : JobHandle → FrameJob) (sizes : ℕ → ℕ) (owned : ℕ → ℕ → Prop) (backend : CudaBackend cmath) (g : Gpu) :
    Prop where
  ordered : Ordered submitted bound none backend g.device
  painted : Painted frames sizes owned (Due cmath frames backend.streams) (fun _ => []) backend g

lemma Working.silent (h : Working submitted bound frames sizes owned backend g) {call : DriverCall}
    (hsilent : Silent call) {answer : DriverAnswer call}
    (hrespond : (gpu cmath frames).respond g call answer g') :
    Working submitted bound frames sizes owned backend g' :=
  ⟨h.ordered.silent hsilent (device_of_gpu hrespond),
    h.painted.moved (moved_of_calm (calm_of_silent hsilent) h.painted.owns hrespond)⟩

/-- A frame whose result has been seen: nothing is pending on its stream, and the picture stays. -/
structure Seen (cmath : CMath) (frames : JobHandle → FrameJob) (sizes : ℕ → ℕ) (owned : ℕ → ℕ → Prop)
    (slot : StreamSlot) (picture : Image) (g : Gpu) : Prop where
  empty : g.device.queues slot.stream = []
  shape : FrameOf (frames slot.handle) picture
  deserved : ∃ bytes ∈ g.memory.seenBy slot.handle,
    (frames slot.handle).picture (Cpu.applyChain cmath) bytes = some picture
  holds : Holds (g.memory.buffers slot.staging) picture

/-- **The query that says complete** finds the result in the staging buffer. -/
lemma Working.seen (h : Working submitted bound frames sizes owned backend g) {slot : StreamSlot}
    (hslot : slot ∈ backend.streams) (hbusy : slot.busy = true)
    (hrespond : (gpu cmath frames).respond g (.cuEventQuery slot.done) CUresult.CUDA_SUCCESS g') :
    ∃ picture, Seen cmath frames sizes owned slot picture g' := by
  have hquery : Silent (.cuEventQuery slot.done) := trivial
  have hempty := (h.ordered.observe hslot hbusy (device_of_gpu hrespond)).2
  have hdue := (h.silent hquery hrespond).painted.promises slot.stream
  rw [hempty] at hdue
  rcases hdue.ended slot hslot rfl hbusy with hlost | ⟨bytes, hbytes, picture, hpicture, hshape, hholds⟩
  · rw [not_lost_of_respond hrespond] at hlost
    cases hlost
  · exact ⟨picture, hempty, hshape, ⟨bytes, hbytes, hpicture⟩, hholds⟩

/-- The picture stays through the calls that follow. -/
lemma Seen.moved {slot : StreamSlot} {picture : Image} (h : Seen cmath frames sizes owned slot picture g)
    (hpainted : Painted frames sizes owned (Due cmath frames backend.streams) (fun _ => []) backend g)
    (hslot : slot ∈ backend.streams)
    (hmoved : Gpu.Moved cmath frames owned g g')
    (hqueue : g'.device.queues slot.stream <:+ g.device.queues slot.stream) :
    Seen cmath frames sizes owned slot picture g' := by
  have hempty : g'.device.queues slot.stream = [] := by
    rw [h.empty] at hqueue
    exact List.suffix_nil.mp hqueue
  have hstaging := (hpainted.buffers slot hslot).2.2.2
  -- Nobody but the slot's own stream writes to its staging buffer.
  have hstays : Promises cmath frames owned
      (fun stream m => stream = slot.stream → Holds (m.buffers slot.staging) picture)
      (fun _ => []) g := by
    intro stream
    by_cases hstream : stream = slot.stream
    · subst hstream
      rw [h.empty]
      intro m hm _
      rw [hm.same slot.staging hstaging]
      exact h.holds
    · exact (hpainted.promises stream).mono fun m _ heq => absurd heq hstream
  have hend := hmoved.promises _ _ hstays slot.stream
  rw [hempty] at hend
  rcases h.deserved with ⟨bytes, hbytes, hpicture⟩
  exact ⟨hempty, h.shape, ⟨bytes, (hmoved.kept hpainted.promises.safe).seenBy hbytes, hpicture⟩,
    hend.ended rfl⟩

/-- The slot of a completed frame is free again. -/
lemma Painted.retire
    (h : Painted frames sizes owned (Due cmath frames backend.streams) (fun _ => []) backend g)
    {index : ℕ} {slot : StreamSlot} (hslot : backend.streams[index]? = some slot)
    {completion : Completion} (hdeserved : Deserved cmath frames g.memory completion) :
    Painted frames sizes owned
      (Due cmath frames (backend.streams.set index { slot with busy := false })) (fun _ => [])
      { backend with
        completed := backend.completed ++ [completion]
        streams := backend.streams.set index { slot with busy := false } } g := by
  have hset : ∀ other ∈ backend.streams.set index { slot with busy := false },
      other ∈ backend.streams ∨ ∃ old ∈ backend.streams, other = { old with busy := false } := by
    intro other hother
    rcases List.mem_or_eq_of_mem_set hother with hother | rfl
    · exact .inl hother
    · exact .inr ⟨slot, List.mem_of_getElem? hslot, rfl⟩
  refine (h.complete hdeserved).modify ?_ hset rfl (fun _ => .inl) h.admitted
  intro stream m hdue other hother hstream hbusy
  rcases hset other hother with hother | ⟨old, -, rfl⟩
  · exact hdue other hother hstream hbusy
  · cases hbusy

/-- What is read back is the picture. -/
lemma Seen.completion {slot : StreamSlot} {picture : Image}
    (h : Seen cmath frames sizes owned slot picture g) {slotBytes : UInt64}
    (hoccupied : Occupied frames slotBytes slot) {source : List UInt8}
    (hsource : source = (g.memory.buffers slot.staging).take
      (sizeT slot.width * sizeT slot.channels * sizeT slot.height).toNat) :
    Image.fromBytes slot.width slot.height slot.channels source
        (sizeT slot.width * sizeT slot.channels) = .ok picture
      ∧ Deserved cmath frames g.memory
        { handle := slot.handle, status := .kOk, output := some picture } := by
  have hsize := byteCount_of_frame h.shape
  rw [← hoccupied.width, ← hoccupied.height, ← hoccupied.channels] at hsize
  constructor
  · rw [hoccupied.width, hoccupied.height, hoccupied.channels]
    refine Image.fromBytes_pixels h.shape ?_
    rw [hsource, ← hsize, List.take_take, min_self]
    exact h.holds
  · intro _
    rcases h.deserved with ⟨bytes, hbytes, hpicture⟩
    exact ⟨bytes, hbytes, picture, hpicture, rfl⟩

lemma retireSlot_painted (h : Working submitted bound frames sizes owned backend g) {index : ℕ}
    {slot : StreamSlot} (hslot : backend.streams[index]? = some slot) :
    Routine.wp (gpu cmath frames) (retireSlot index slot)
      (fun _ after g' => Working submitted bound frames sizes owned after g'
        ∧ after.slotBytes = backend.slotBytes) backend g := by
  have hmem := List.mem_of_getElem? hslot
  have helapsed : Silent (.cuEventElapsedTime slot.kernelsBegin slot.kernelsEnd) := trivial
  have hquery : Silent (.cuEventQuery slot.done) := trivial
  rw [retireSlot]
  split
  · exact ⟨h, rfl⟩
  rename_i hbusy
  rw [Bool.not_eq_true', Bool.not_eq_false] at hbusy
  refine Routine.wp_ask_bind.mpr fun status g₁ hstatus => ?_
  have h₁ := h.silent hquery hstatus
  cases status with
  | CUDA_ERROR_NOT_READY what => exact ⟨h₁, rfl⟩
  | failure what => exact ⟨h₁, rfl⟩
  | CUDA_SUCCESS =>
      obtain ⟨picture, hseen₁⟩ := h.seen hmem hbusy hstatus
      have hobserved₁ := (h.ordered.observe hmem hbusy (device_of_gpu hstatus)).1
      refine Routine.wp_ask_bind.mpr fun elapsed g₂ hanswer => ?_
      have h₂ := h₁.silent helapsed hanswer
      have hasked₂ := asked_of_silent helapsed (device_of_gpu hanswer)
      have hseen₂ := hseen₁.moved h₁.painted hmem
        (moved_of_calm (calm_of_silent helapsed) h₁.painted.owns hanswer) (hasked₂.queues _)
      refine wp_cuCheck_bind (fun _ => ?_) fun _ => ⟨h₂, rfl⟩
      refine Routine.wp_ask_bind.mpr fun source g₃ hsource => ?_
      have hasked₃ := asked_of_read (device_of_gpu hsource)
      have hmoved₃ := moved_of_calm (show Calm (.read _ _ _) from trivial) h₂.painted.owns hsource
      have hordered₃ := h₂.ordered.readStaging (hasked₂.observed hobserved₁) (device_of_gpu hsource)
      have hpainted₃ := h₂.painted.moved hmoved₃
      have hseen₃ := hseen₂.moved h₂.painted hmem hmoved₃ (hasked₃.queues _)
      have hoccupied := h.painted.busy slot hmem hbusy
      have hlength := hpainted₃.room slot hmem _ (hpainted₃.buffers slot hmem).2.2.2
      obtain ⟨himage, hdeserved⟩ := hseen₃.completion hoccupied
        (staging_of_respond hsource ((UInt64.le_iff_toNat_le.mp hoccupied.fits).trans hlength))
      rw [himage]
      refine ⟨⟨hordered₃.retire hslot hbusy (hasked₃.observed (hasked₂.observed hobserved₁))
        hseen₃.empty ?_, hpainted₃.retire hslot hdeserved⟩, rfl⟩
      intro _
      refine ⟨.staging slot.staging, _, source, ?_, slot.width, slot.height, slot.channels, _,
        picture, rfl, himage⟩
      rw [hasked₃.log]
      exact List.mem_cons_self

lemma retireFrom_painted (h : Working submitted bound frames sizes owned backend g) (index rest : ℕ) :
    Routine.wp (gpu cmath frames) (retireFrom index rest)
      (fun _ after g' => Working submitted bound frames sizes owned after g'
        ∧ after.slotBytes = backend.slotBytes) backend g := by
  induction rest generalizing backend index g with
  | zero => exact ⟨h, rfl⟩
  | succ rest ih =>
      refine Routine.wp_get_bind.mpr ?_
      cases hslot : backend.streams[index]? with
      | none => exact ⟨h, rfl⟩
      | some slot =>
          refine (retireSlot_painted h hslot).bind_of_mono ?_ fun _ _ _ h' => h'
          rintro _ middle g₁ ⟨h₁, hbytes⟩
          rw [← hbytes]
          exact ih h₁ (index + 1)

/-- **A sweep** keeps both invariants, wherever it stops. -/
theorem retireReadyStreams_painted (h : Working submitted bound frames sizes owned backend g) :
    Routine.wp (gpu cmath frames) retireReadyStreams
      (fun _ after g' => Working submitted bound frames sizes owned after g'
        ∧ after.slotBytes = backend.slotBytes) backend g :=
  Routine.wp_get_bind.mpr (retireFrom_painted h 0 _)

lemma claimStream_painted (h : Working submitted bound frames sizes owned backend g) (turns : ℕ) :
    Routine.wp (gpu cmath frames) (claimStream turns)
      (fun _ after g' => Working submitted bound frames sizes owned after g'
        ∧ after.slotBytes = backend.slotBytes) backend g := by
  induction turns generalizing backend g with
  | zero => trivial
  | succ turns ih =>
      refine Routine.wp_get_bind.mpr ?_
      split
      · exact ⟨h, rfl⟩
      split
      · exact ⟨h, rfl⟩
      · rename_i slot _
        have hsynchronize : Silent (.cuEventSynchronize slot.done) := trivial
        refine Routine.wp_ask_bind.mpr fun answer g₁ hanswer => ?_
        have h₁ := h.silent hsynchronize hanswer
        refine wp_cuCheck_bind (fun _ => ?_) fun _ => ⟨h₁, rfl⟩
        refine (retireReadyStreams_painted h₁).bind_of_mono ?_ fun _ _ _ h' => h'
        rintro _ middle g₂ ⟨h₂, hbytes⟩
        rw [← hbytes]
        exact ih h₂

/-! ## Queueing a frame -/

/-- A frame that is being queued: `ops` are still to come. -/
structure Filling (submitted : List (JobHandle × FrameJob)) (bound : JobHandle)
    (frames : JobHandle → FrameJob) (sizes : ℕ → ℕ) (owned : ℕ → ℕ → Prop) (slot : StreamSlot)
    (ops : List StreamOp) (backend : CudaBackend cmath) (g : Gpu) : Prop where
  ordered : Ordered submitted bound (some (slot.stream, bound)) backend g.device
  painted : Painted frames sizes owned
    (Function.update (Due cmath frames backend.streams) slot.stream
      (Result cmath frames bound slot.staging))
    (Function.update (fun _ => []) slot.stream (ops.map (QueuedOp.mk bound))) backend g

/-- Frames that have been given up: what is pending may still be done. -/
structure GivenUp (submitted : List (JobHandle × FrameJob)) (bound : JobHandle)
    (frames : JobHandle → FrameJob) (sizes : ℕ → ℕ) (owned : ℕ → ℕ → Prop) (backend : CudaBackend cmath) (g : Gpu) :
    Prop where
  loose : Loose submitted bound backend g.device
  painted : Painted frames sizes owned (fun _ _ => True) (fun _ => []) backend g

lemma Working.givenUp (h : Working submitted bound frames sizes owned backend g) :
    GivenUp submitted bound frames sizes owned backend g :=
  ⟨h.ordered.loose, h.painted.adrift⟩

section Queue

variable {slot : StreamSlot} {op : StreamOp} {ops : List StreamOp}

/-- **One operation of the frame** has been queued, or has failed. -/
lemma Filling.enqueued (h : Filling submitted bound frames sizes owned slot (op :: ops) backend g)
    (hslot : slot ∈ backend.streams) (hfree : slot.busy = false) {answer : CUresult}
    (hnamed : DriverEvent.Named submitted ⟨.enqueue slot.stream bound op, answer⟩)
    (hevent : ∀ event, op = .cuEventRecord event → event ∈ slot.ids)
    (hrespond : (gpu cmath frames).respond g (.enqueue slot.stream bound op) answer g') :
    GivenUp submitted (bound + 1) frames sizes owned backend g'
      ∧ (answer = .CUDA_SUCCESS → Filling submitted bound frames sizes owned slot ops backend g'
        ∧ Enqueued g.device slot.stream ⟨bound, op⟩ .CUDA_SUCCESS g'.device) := by
  have henqueued := enqueued_of_respond (device_of_gpu hrespond)
  have hordered := h.ordered.enqueue hslot hfree hnamed hevent henqueued
  have hkept := kept_of_enqueue h.painted.promises h.painted.owns hrespond
  constructor
  · exact ⟨hordered.loose_active, h.painted.kept
      (h.painted.promises.enqueue_safe h.painted.owns hrespond) henqueued.next.ge hkept⟩
  · rintro rfl
    exact ⟨⟨hordered, h.painted.kept (h.painted.promises.enqueue h.painted.owns hrespond)
      henqueued.next.ge hkept⟩, henqueued⟩

lemma wp_fill_bind {α : Type} {rest : Unit → Method cmath α}
    {Q : Except Exn α → CudaBackend cmath → Gpu → Prop}
    (h : Filling submitted bound frames sizes owned slot (op :: ops) backend g)
    (hslot : slot ∈ backend.streams) (hfree : slot.busy = false)
    (hnamed : ∀ answer, DriverEvent.Named submitted ⟨.enqueue slot.stream bound op, answer⟩)
    (hevent : ∀ event, op = .cuEventRecord event → event ∈ slot.ids)
    (hok : ∀ g', Filling submitted bound frames sizes owned slot ops backend g' →
      Enqueued g.device slot.stream ⟨bound, op⟩ .CUDA_SUCCESS g'.device →
        Routine.wp (gpu cmath frames) (rest ()) Q backend g')
    (herror : ∀ what g', GivenUp submitted (bound + 1) frames sizes owned backend g' →
      Q (.error (.cudaError what)) backend g') :
    Routine.wp (gpu cmath frames) (enqueue slot.stream bound op >>= rest) Q backend g := by
  intro answer g' hrespond
  rcases h.enqueued hslot hfree (hnamed answer) hevent hrespond with ⟨hgiven, hfilled⟩
  cases answer with
  | CUDA_SUCCESS => exact hok g' (hfilled rfl).1 (hfilled rfl).2
  | CUDA_ERROR_NOT_READY what => exact herror what g' hgiven
  | failure what => exact herror what g' hgiven

lemma launchKernels_painted (hslot : slot ∈ backend.streams) (hfree : slot.busy = false)
    (launches : List KernelLaunch) (source destination : ℕ)
    (h : Filling submitted bound frames sizes owned slot (kernelOps launches source destination ++ ops)
      backend g) :
    Routine.wp (gpu cmath frames) (launchKernels slot.stream bound launches source destination)
      (fun result after g' => after = backend ∧ OnlyCuda result
        ∧ match result with
          | .ok last => last = lastWritten launches source destination
            ∧ Filling submitted bound frames sizes owned slot ops backend g'
          | .error _ => GivenUp submitted (bound + 1) frames sizes owned backend g') backend g := by
  induction launches generalizing source destination g with
  | nil => exact ⟨rfl, onlyCuda_ok source, rfl, h⟩
  | cons launch rest ih =>
      refine wp_fill_bind h hslot hfree (fun _ => trivial) (fun event hop => by cases hop) ?_ ?_
      · intro g₁ h₁ _
        exact ih destination source h₁
      · intro what g₁ h₁
        exact ⟨rfl, onlyCuda_cudaError what, h₁⟩

/-- Nothing is pending on the stream of a free slot. -/
lemma Working.idle (h : Working submitted bound frames sizes owned backend g)
    (hslot : slot ∈ backend.streams) (hfree : slot.busy = false) :
    g.device.queues slot.stream = [] := by
  refine List.eq_nil_iff_forall_not_mem.mpr fun item hitem => ?_
  rcases h.ordered.pending slot.stream item hitem with hactive | ⟨other, hother, hstream, hbusy, -⟩
  · cases hactive
  · rw [eq_of_shared h.ordered.apart hother hslot (stream_mem_ids other)
      (hstream ▸ stream_mem_ids slot), hfree] at hbusy
    cases hbusy

/-- **The frame may be queued** on the stream of a free slot. -/
lemma Working.fill (h : Working submitted bound frames sizes owned backend g) {input : ℕ}
    {bytes : UInt64} {pairs : List (StageCode × GeneratedStage)}
    (hlaunch : Launchable cmath frames bound bytes pairs) (hslot : slot ∈ backend.streams)
    (hfree : slot.busy = false) (hcontext : backend.context ≠ none)
    (hfits : bytes ≤ backend.slotBytes) (hinput : bytes.toNat ≤ (g.memory.slots input).length) :
    Filling submitted bound frames sizes owned slot (frameOps slot input bytes (pairs.map fun pair =>
      kernelLaunch cmath (frames bound) pair.1 pair.2)) backend g := by
  have hkept : Kept owned (fun _ => False) g.memory g.memory := Kept.refl g.memory
  refine ⟨h.ordered.activate hcontext slot, h.painted.kept ?_ le_rfl hkept⟩
  rcases h.painted.buffers slot hslot with ⟨hne, hfront, hback, hstaging⟩
  intro stream
  by_cases hstream : stream = slot.stream
  · subst hstream
    rw [Function.update_self, Function.update_self, h.idle hslot hfree, List.nil_append]
    refine frame_leads hlaunch hne hfront hback hstaging hinput ?_
    intro image hframe buffer howned
    rw [byteCount_of_frame hframe, ← hlaunch.bytes]
    exact (UInt64.le_iff_toNat_le.mp hfits).trans (h.painted.room slot hslot buffer howned)
  · rw [Function.update_of_ne hstream, Function.update_of_ne hstream]
    exact h.painted.promises stream

/-- **The record of the event is queued**, and the slot is the frame's. -/
lemma Filling.claim {index : ℕ} {order : ℕ}
    (h : Filling submitted bound frames sizes owned slot [] backend g)
    (hslot : backend.streams[index]? = some slot) (claimed : StreamSlot)
    (hstream : claimed.stream = slot.stream) (hfront : claimed.front = slot.front)
    (hback : claimed.back = slot.back) (hstaging : claimed.staging = slot.staging)
    (hhandle : claimed.handle = bound) (hoccupied : Occupied frames backend.slotBytes claimed) :
    Painted frames sizes owned (Due cmath frames (backend.streams.set index claimed)) (fun _ => [])
      { backend with streams := backend.streams.set index claimed, nextSubmitOrder := order } g where
  promises := by
    have hpromises := h.painted.promises
    rw [List.map_nil, Function.update_eq_self_iff.mpr rfl] at hpromises
    refine hpromises.mono fun stream m hgoal other hother hother' hbusy => ?_
    rcases of_mem_set h.ordered.apart hslot hother with rfl | ⟨hold, hne⟩
    · rw [hstream] at hother'
      subst hother'
      rw [Function.update_self] at hgoal
      rw [hhandle, hstaging]
      exact hgoal
    · rw [Function.update_of_ne (hother' ▸ hne)] at hgoal
      exact hgoal other hold hother' hbusy
  owns := h.painted.owns
  buffers := by
    intro other hother
    rcases List.mem_or_eq_of_mem_set hother with hother | rfl
    · exact h.painted.buffers other hother
    · rw [hstream, hfront, hback, hstaging]
      exact h.painted.buffers slot (List.mem_of_getElem? hslot)
  room := by
    intro other hother
    rcases List.mem_or_eq_of_mem_set hother with hother | rfl
    · exact h.painted.room other hother
    · rw [hstream]
      exact h.painted.room slot (List.mem_of_getElem? hslot)
  busy := by
    intro other hother hbusy
    rcases List.mem_or_eq_of_mem_set hother with hother | rfl
    · exact h.painted.busy other hother hbusy
    · exact hoccupied
  deserved := h.painted.deserved
  admitted := h.painted.admitted
  sizes := h.painted.sizes

/-- How a launch of the frame `bound` may end. -/
def Settled (submitted : List (JobHandle × FrameJob)) (bound : JobHandle)
    (frames : JobHandle → FrameJob) (sizes : ℕ → ℕ) (owned : ℕ → ℕ → Prop) (result : Except Exn Unit)
    (after : CudaBackend cmath) (g : Gpu) : Prop :=
  match result with
  | .ok _ => Working submitted (bound + 1) frames sizes owned after g
  | .error error => Working submitted (bound + 1) frames sizes owned after g
      ∨ (∃ what, error = .cudaError what) ∧ GivenUp submitted (bound + 1) frames sizes owned after g

lemma Working.settled (h : Working submitted bound frames sizes owned backend g) (error : Exn) :
    Settled submitted bound frames sizes owned (.error error) backend g :=
  .inl ⟨h.ordered.later (Nat.le_succ bound), h.painted⟩

/-- **The queueing of a frame.** -/
theorem queueFrame_painted (h : Working submitted bound frames sizes owned backend g) {input : ℕ}
    {bytes : UInt64} {compiled : CompiledChain}
    (hlaunch : Launchable cmath frames bound bytes
      (compiled.stageFunctions.zip compiled.program.stages))
    (hjob : (bound, frames bound) ∈ submitted) (hinput : (frames bound).input = some input)
    {index : ℕ} (hslot : backend.streams[index]? = some slot) (hfree : slot.busy = false)
    (hcontext : backend.context ≠ none) (hfits : bytes ≤ backend.slotBytes)
    (hheld : bytes.toNat ≤ (g.memory.slots input).length) :
    Routine.wp (gpu cmath frames) (queueFrame (frames bound) bound input bytes compiled index slot)
      (fun result after g' => Settled submitted bound frames sizes owned result after g') backend g := by
  have hmem := List.mem_of_getElem? hslot
  have hcopy : ∀ answer, DriverEvent.Named submitted
      ⟨.enqueue slot.stream bound (.cuMemcpyHtoDAsync slot.front input bytes), answer⟩ :=
    fun _ => ⟨frames bound, hjob, hinput⟩
  have hbegin : slot.kernelsBegin ∈ slot.ids := by simp [StreamSlot.ids]
  have hend : slot.kernelsEnd ∈ slot.ids := by simp [StreamSlot.ids]
  have hthrow : ∀ what g', GivenUp submitted (bound + 1) frames sizes owned backend g' →
      Settled submitted bound frames sizes owned (.error (.cudaError what)) backend g' :=
    fun what _ h' => .inr ⟨⟨what, rfl⟩, h'⟩
  refine wp_fill_bind (h.fill hlaunch hmem hfree hcontext hfits hheld) hmem hfree hcopy
    (fun _ hop => by cases hop) ?_ hthrow
  intro g₁ h₁ _
  refine wp_fill_bind h₁ hmem hfree (fun _ => trivial) ?_ ?_ hthrow
  · rintro _ ⟨⟩
    exact hbegin
  intro g₂ h₂ _
  refine (launchKernels_painted hmem hfree (framePlan cmath (frames bound) compiled) slot.front
    slot.back h₂).bind ?_ ?_
  · rintro source backend g₃ ⟨rfl, -, hlast, h₃⟩
    subst hlast
    refine wp_fill_bind h₃ hmem hfree (fun _ => trivial) ?_ ?_ hthrow
    · rintro _ ⟨⟩
      exact hend
    intro g₄ h₄ _
    refine wp_fill_bind h₄ hmem hfree (fun _ => trivial) (fun _ hop => by cases hop) ?_ hthrow
    intro g₅ h₅ _
    refine wp_fill_bind h₅ hmem hfree (fun _ => trivial) ?_ ?_ hthrow
    · rintro _ ⟨⟩
      exact done_mem_ids slot
    intro g₆ h₆ henqueued
    refine ⟨h₆.ordered.claim { slot with
      busy := true, handle := bound, submitOrder := backend.nextSubmitOrder
      width := (frames bound).width, height := (frames bound).height
      channels := (frames bound).channels }
      hslot hfree rfl rfl rfl rfl rfl henqueued.log (henqueued.last rfl) _, ?_⟩
    refine h₆.claim hslot _ rfl rfl rfl rfl rfl ⟨rfl, rfl, rfl, ?_⟩
    rw [← hlaunch.bytes]
    exact hfits
  · rintro error _ g₃ ⟨rfl, honly, h₃⟩
    rcases honly error rfl with ⟨what, rfl⟩
    exact hthrow what g₃ h₃

end Queue

/-! ## The calls of the worker -/

/-- What the cache returns for a frame's key serves the frame. -/
lemma cacheGet_painted (h : Working submitted bound frames sizes owned backend g)
    (config : BackendConfig) {chain : OpChain} (hchain : AdmittedChain chain) (channels : Int32) :
    Routine.wp (gpu cmath frames) (cacheGet (config.keyFor chain channels))
      (fun result after g' => Working submitted bound frames sizes owned after g'
        ∧ after.slotBytes = backend.slotBytes
        ∧ ∀ compiled, result = .ok compiled →
          List.Forall₂ (StageServes cmath chain channels.toInt.toNat) (planStages chain)
            (compiled.stageFunctions.zip compiled.program.stages)) backend g := by
  set key := config.keyFor chain channels with hkey
  have hserves : ∀ (failure : Option Exn) (compiled : CompiledChain),
      (backend.cache.get key failure).1 = .ok compiled →
      List.Forall₂ (StageServes cmath chain channels.toInt.toNat) (planStages chain)
        (compiled.stageFunctions.zip compiled.program.stages) := by
    intro failure compiled hcompiled
    obtain ⟨entry, hentry, hequal, rfl⟩ : ∃ entry : CacheEntry cmath,
        AdmittedChain entry.key.chain ∧ entry.key.beq key = true ∧ entry.compiled = compiled := by
      rcases KernelCache.get_ok (Prod.ext hcompiled rfl) with
        ⟨entry, hmem, hequal, hsame, -⟩ | ⟨-, entry, hsameKey, hsame, -⟩
      · exact ⟨entry, h.painted.admitted entry hmem, hequal, hsame⟩
      · exact ⟨entry, hsameKey ▸ hchain, hsameKey ▸ KernelKey.beq_refl key, hsame⟩
    have hloaded := entry.loaded
    rw [compileProgram_ok entry.emitted] at hloaded
    rw [← Option.some.inj hloaded]
    exact emitCudaSource_serves entry.emitted hentry hchain hequal
  have hadmitted : ∀ (failure : Option Exn), ∀ entry ∈ (backend.cache.get key failure).2.entries,
      AdmittedChain entry.key.chain := by
    intro failure entry hmem
    rcases hget : backend.cache.get key failure with ⟨result, cache'⟩
    rw [hget] at hmem
    cases result with
    | error error =>
        rw [(KernelCache.get_error hget).1] at hmem
        exact h.painted.admitted entry hmem
    | ok compiled =>
        rcases KernelCache.get_ok hget with ⟨-, -, -, -, rfl⟩ | ⟨-, made, hmade, -, hentries, -⟩
        · exact h.painted.admitted entry hmem
        · rw [hentries] at hmem
          rcases List.mem_cons.mp hmem with rfl | hmem
          · exact hmade ▸ hchain
          · exact h.painted.admitted entry hmem
  have hrest : ∀ (failure : Option Exn) (g' : Gpu), Working submitted bound frames sizes owned backend g' →
      Routine.wp (gpu cmath frames) (do
        modify fun backend => { backend with cache := (backend.cache.get key failure).2 }
        ofExcept (backend.cache.get key failure).1 : Method cmath CompiledChain)
        (fun result after g' => Working submitted bound frames sizes owned after g'
          ∧ after.slotBytes = backend.slotBytes
          ∧ ∀ compiled, result = .ok compiled →
            List.Forall₂ (StageServes cmath chain channels.toInt.toNat) (planStages chain)
              (compiled.stageFunctions.zip compiled.program.stages)) backend g' := by
    intro failure g' h'
    refine Routine.wp_modify_bind.mpr ?_
    have hafter : Working submitted bound frames sizes owned
        { backend with cache := (backend.cache.get key failure).2 } g' :=
      ⟨h'.ordered.modify rfl rfl rfl, h'.painted.modify (fun _ _ hdue => hdue) (fun _ => .inl) rfl
        (fun _ => .inl) (hadmitted failure)⟩
    cases hresult : (backend.cache.get key failure).1 with
    | ok compiled =>
        refine ⟨hafter, rfl, ?_⟩
        rintro _ ⟨⟩
        exact hserves failure compiled hresult
    | error error => exact ⟨hafter, rfl, fun _ hok => by cases hok⟩
  refine Routine.wp_get_bind.mpr ?_
  split
  · rename_i program _ _
    have hload : Silent (.load program) := trivial
    exact fun answer g₁ hanswer => hrest _ g₁ (h.silent hload hanswer)
  · exact hrest none g h

/-- **A launch behind its checks.** -/
theorem launchChain_painted (hwell : backend.WellFormed)
    (h : Working submitted bound frames sizes owned backend g) (hjob : (bound, frames bound) ∈ submitted)
    (hadmitted : AdmittedChain (frames bound).chain) (hheld : Held sizes (frames bound)) {input : ℕ}
    (hinput : (frames bound).input = some input) (hshaped : Image.Shaped (frames bound).width
      (frames bound).height (frames bound).channels)
    (hstride : (frames bound).stride = sizeT (frames bound).width * sizeT (frames bound).channels)
    (turns : ℕ) (hcontext : backend.context ≠ none) :
    Routine.wp (gpu cmath frames) (launchChain (frames bound) bound input
        (sizeT (frames bound).width * sizeT (frames bound).channels * sizeT (frames bound).height)
        turns)
      (fun result after g' => Settled submitted bound frames sizes owned result after g') backend g := by
  refine Routine.wp_get_bind.mpr (((cacheGet_keeps hwell _).and
    (cacheGet_painted h backend.config hadmitted (frames bound).channels)).bind ?_ ?_)
  · rintro compiled cached g₁ ⟨⟨hcached, hcontext₁⟩, h₁, hbytes₁, hserves⟩
    split
    · exact h₁.settled _
    · rename_i hroom
      rw [not_or] at hroom
      refine ((claimStream_claimed hcached.wellFormed turns).and
        (claimStream_painted h₁ turns)).bind ?_ ?_
      · rintro index claimed g₂ ⟨hclaimed, h₂, hbytes₂⟩
        refine Routine.wp_get_bind.mpr ?_
        rcases hclaimed.free index rfl with ⟨slot, hslot, hfree⟩
        rw [hslot]
        refine queueFrame_painted h₂ ⟨hshaped, hstride, rfl, hserves compiled rfl⟩ hjob hinput hslot
          hfree ?_ ?_ ((hheld input hinput hshaped).trans (h₂.painted.sizes input).ge)
        · rw [hclaimed.context, hcontext₁]
          exact hcontext
        · rw [hbytes₂, hbytes₁]
          exact UInt64.not_lt.mp hroom.2
      · rintro error after g₂ ⟨-, h₂, -⟩
        exact h₂.settled error
  · rintro error after g₁ ⟨-, h₁, -⟩
    exact h₁.settled error

/-- A frame without ops is its own picture. -/
lemma deserved_inline {m : Memory} {contents source : List UInt8} {count : ℕ} {image : Image}
    (hempty : (frames bound).chain.ops = [])
    (hstride : (frames bound).stride = sizeT (frames bound).width * sizeT (frames bound).channels)
    (hcount : count = (sizeT (frames bound).width * sizeT (frames bound).channels
      * sizeT (frames bound).height).toNat)
    (hseen : contents ∈ m.seenBy bound) (hlength : count ≤ contents.length)
    (hsource : source = contents.take count)
    (himage : Image.fromBytes (frames bound).width (frames bound).height (frames bound).channels
      source (frames bound).stride = .ok image) :
    Deserved cmath frames m { handle := bound, status := .kOk, output := some image } := by
  have hwhole := Image.fromBytes_append (frames bound).width (frames bound).height
    (frames bound).channels source (contents.drop count) ?_
  · rw [hsource, List.take_append_drop, ← hstride, ← hsource, himage] at hwhole
    intro _
    refine ⟨contents, hseen, image, ?_, rfl⟩
    simp only [FrameJob.picture, hwhole, Cpu.applyChain, hempty, Cpu.applyOps, List.foldl_nil]
  · intro zeroed hzeroed
    have hshape : FrameOf (frames bound) zeroed := (Image.construct_hasShape hzeroed).2
    rw [hsource, List.length_take, Nat.min_eq_left hlength, hcount, ← byteCount_of_frame hshape,
      Image.byteCount_eq]

/-- A job is taken up under the next handle. -/
lemma Working.begin (h : Working submitted backend.nextHandle frames sizes owned backend g)
    (job : FrameJob) : Working ((backend.nextHandle, job) :: submitted) backend.nextHandle frames
      sizes owned { backend with nextHandle := backend.nextHandle + 1 } g :=
  ⟨(h.ordered.submit (backend.nextHandle, job)).modify rfl rfl rfl,
    h.painted.modify (fun _ _ hdue => hdue) (fun _ => .inl) rfl (fun _ => .inl)
      h.painted.admitted⟩

/-- **A launch** ends with both invariants, or half way with a driver error. -/
theorem launch_painted (hwell : backend.WellFormed)
    (h : Working submitted bound frames sizes owned backend g) (hjob : (bound, frames bound) ∈ submitted)
    (hadmitted : AdmittedChain (frames bound).chain) (hheld : Held sizes (frames bound))
    (turns : ℕ) :
    Routine.wp (gpu cmath frames) (launch (frames bound) bound turns)
      (fun result after g' => Settled submitted bound frames sizes owned result after g') backend g := by
  refine Routine.wp_get_bind.mpr ?_
  split
  · exact h.settled _
  rename_i hcontext
  split
  · exact h.settled _
  · rename_i input hinput
    dsimp only
    split
    · exact h.settled _
    rename_i hshaped
    rw [not_not] at hshaped
    split
    · exact h.settled _
    rename_i hstride
    rw [not_not] at hstride
    split
    · rename_i hempty
      refine Routine.wp_ask_bind.mpr fun source g₁ hsource => ?_
      have hordered₁ := h.ordered.readInput hjob hinput hempty (device_of_gpu hsource)
      have hpainted₁ := h.painted.moved (moved_of_calm (show Calm (.read _ _ _) from trivial)
        h.painted.owns hsource)
      cases himage : Image.fromBytes (frames bound).width (frames bound).height
          (frames bound).channels source.1 (frames bound).stride with
      | error error => exact Working.settled ⟨hordered₁, hpainted₁⟩ error
      | ok image =>
          have hpictured : Pictured g₁.device.log
              { handle := bound, status := .kOk, output := some image } := by
            intro _
            refine ⟨.input input, _, source, ?_, (frames bound).width, (frames bound).height,
              (frames bound).channels, _, image, rfl, himage⟩
            rw [(asked_of_read (device_of_gpu hsource)).log]
            exact List.mem_cons_self
          have hfits := (hheld input hinput hshaped).trans (hpainted₁.sizes input).ge
          rcases input_of_respond hsource with ⟨hseen, hread⟩
          exact ⟨(hordered₁.complete hpictured).later (Nat.le_succ bound), hpainted₁.complete
            (deserved_inline hempty hstride rfl hseen hfits (hread hfits) himage)⟩
    · refine launchChain_painted hwell h hjob hadmitted hheld hinput hshaped hstride turns ?_
      intro hnone
      rw [hnone] at hcontext
      exact hcontext rfl

end CudaBackend

end Imgjit
