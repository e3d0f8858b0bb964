import Imgjit.Net.ServerPixels

/-!
# The CPU backend

`CpuBackend` completes each job inside `submit` and hands the result back from the next poll.  It is
the whole backend of a build without CUDA, and the oracle of a build with it, so it is also the
simplest place to see what the server asks of a backend.

**The calls.**  `CpuBackend.submit` and `CpuBackend.pollCompletions` are the two calls of the
worker.  The chain is applied by a function that is a parameter here, whichever arithmetic it uses.

**As the server sees it.**  `submit_fulfils` says that the completions are what the server's results
ask of a backend: each carries the picture of what was in its job's slot, or an error.

**What it reads.**  The backend reads the job's slot through `Image::from_bytes` and nothing else;
`CpuBackend.reads` lists the reads, as `memcpy` sees them.  The job's fields come off the wire, so
the question is whether a header that validation accepts can make the backend read past its slot.
`submit_reads_slot` says that it cannot: a job made from an accepted header is answered with an
error, without a look at the slot, or with the picture of its payload, each row read once and inside
the payload.
-/

namespace Imgjit

/-! ## The backend -/

/-- The fields of a `CpuBackend`: what the next poll hands out, and the next handle. -/
structure CpuBackend where
  completed : List Completion := []
  nextHandle : JobHandle := 1

/-- The input of a job.  Reading past the end of the slot shows as `outOfBounds`; everything else
that can go wrong is an exception. -/
def FrameJob.image (job : FrameJob) (memory : ℕ → List UInt8) : Except Exn Image :=
  match job.input with
  | none => .error (.invalidArgument "FrameJob has no input")
  | some input => Image.fromBytes job.width job.height job.channels (memory input) job.stride

namespace CpuBackend

/-- The completion of a job.  A malformed job is one with an error status, never a throw. -/
def complete (applyChain : ApplyChain) (memory : ℕ → List UInt8) (handle : JobHandle)
    (job : FrameJob) : Completion :=
  match job.image memory with
  | .ok image =>
      { handle := handle, status := .kOk, output := some (applyChain image job.chain) }
  | .error error => { handle := handle, status := .kError, output := none, error := error.what }

/-- `CpuBackend::submit`. -/
def submit (applyChain : ApplyChain) (memory : ℕ → List UInt8) (backend : CpuBackend)
    (job : FrameJob) : JobHandle × CpuBackend :=
  (backend.nextHandle,
    { completed := backend.completed ++ [complete applyChain memory backend.nextHandle job]
      nextHandle := backend.nextHandle + 1 })

/-- `CpuBackend::poll_completions`. -/
def pollCompletions (backend : CpuBackend) : List Completion × CpuBackend :=
  (backend.completed, { backend with completed := [] })

/-- The reads of a job's input: those of `from_bytes`, and none without an input. -/
def reads (job : FrameJob) : List Image.RowRead :=
  match job.input with
  | none => []
  | some _ => Image.fromBytesReads job.width job.height job.channels job.stride

end CpuBackend

/-! ## As the server sees it -/

section Server

variable {applyChain : ApplyChain} {memory : ℕ → List UInt8}

/-- **The CPU backend keeps the promise the server relies on**: its successful completions carry
`apply_chain` of the slot as it is at the submit, whatever arithmetic that is done in. -/
theorem submit_fulfils (handle : JobHandle) {job : FrameJob} {input : ℕ}
    (hinput : job.input = some input) :
    pictureContract applyChain job [memory input]
      (CpuBackend.complete applyChain memory handle job) := by
  intro hok
  refine ⟨memory input, List.mem_singleton.mpr rfl, ?_⟩
  cases himage : Image.fromBytes job.width job.height job.channels (memory input) job.stride with
  | error error =>
      simp only [CpuBackend.complete, FrameJob.image, hinput, himage] at hok
      cases hok
  | ok image =>
      refine ⟨applyChain image job.chain, ?_, ?_⟩
      · simp only [FrameJob.picture, himage]
      · simp only [CpuBackend.complete, FrameJob.image, hinput, himage]

/-! ## What an accepted header makes it read -/

/-- The job the worker makes of a frame with this header. -/
def acceptedJob (connection : ℕ) (header : RequestHeader) (chain : OpChain) (slot : ℕ) : FrameJob :=
  (queuedFrame connection header chain slot).job slot

/-- What becomes of such a job. -/
structure ReadsSlot (applyChain : ApplyChain) (memory : ℕ → List UInt8) (header : RequestHeader)
    (job : FrameJob) (completion : Completion) : Prop where
  /-- An error, with no read at all, or the whole payload, row by row. -/
  outcome : completion.status = .kError ∧ CpuBackend.reads job = []
    ∨ ∃ image, job.image memory = .ok image ∧ image.width = header.width.toNat
      ∧ image.height = header.height.toNat ∧ image.channels = header.channels.toNat
      ∧ completion.status = .kOk
      ∧ completion.output = some (applyChain image job.chain)
      ∧ CpuBackend.reads job
        = ((List.range image.height).map fun y => ⟨y * image.stride, image.stride⟩)
      ∧ ∀ input, job.input = some input →
        image.pixels = (CpuBackend.reads job).flatMap (Image.RowRead.bytes (memory input))
  /-- No read passes the end of the payload. -/
  bounded : ∀ read ∈ CpuBackend.reads job, read.offset + read.count ≤ header.payloadLen.toNat

variable {header : RequestHeader} {limits : Limits} {chain : OpChain} {connection slot : ℕ}

/-- A header whose dimensions do not survive the narrowing makes no image, and nothing is read. -/
lemma reads_of_error {error : Exn} (h : Image.construct header.width.toInt32 header.height.toInt32
      header.channels.toUInt32.toInt32 = .error error) :
    (acceptedJob connection header chain slot).image memory = .error error
      ∧ CpuBackend.reads (acceptedJob connection header chain slot) = [] := by
  refine ⟨?_, ?_⟩
  · simp only [FrameJob.image, acceptedJob, QueuedFrame.job, queuedFrame, Image.fromBytes, h, bind,
      Except.bind]
  · simp only [CpuBackend.reads, acceptedJob, QueuedFrame.job, queuedFrame, Image.fromBytesReads, h]

/-- A dimension that survives the narrowing is the header's own. -/
lemma eq_toNat_of_narrowed {field : UInt32} {n : ℕ} (hpos : 0 < n)
    (h : field.toInt32.toInt = n) : n = field.toNat := by
  rw [toInt_toInt32] at h
  have := UInt32.toNat_lt field
  split_ifs at h <;> omega

/-- A header whose dimensions survive makes an image of exactly its shape, out of a slot that holds
the payload. -/
lemma image_of_construct {zeroed : Image}
    (hzeroed : Image.construct header.width.toInt32 header.height.toInt32
      header.channels.toUInt32.toInt32 = .ok zeroed)
    (hroom : zeroed.stride * zeroed.height ≤ (memory slot).length) :
    ∃ image, (acceptedJob connection header chain slot).image memory = .ok image
      ∧ image.width = header.width.toNat ∧ image.height = header.height.toNat
      ∧ image.channels = header.channels.toNat
      ∧ image.stride * image.height = zeroed.stride * zeroed.height
      ∧ CpuBackend.reads (acceptedJob connection header chain slot)
        = ((List.range image.height).map fun y => ⟨y * image.stride, image.stride⟩)
      ∧ image.pixels = (CpuBackend.reads (acceptedJob connection header chain slot)).flatMap
        (Image.RowRead.bytes (memory slot)) := by
  obtain ⟨hshaped, hshape⟩ := Image.construct_hasShape hzeroed
  have hstride : (sizeT header.width.toInt32 * sizeT header.channels.toUInt32.toInt32).toNat
      = zeroed.stride := by
    rw [Image.stride_no_wrap hshaped.1 hshaped.2.2, hshape.width, hshape.channels]
    rfl
  obtain ⟨rows, hrows⟩ := Image.copyRows_ok 0 zeroed.height (Image.packed_rows_le hroom)
  have hreads : CpuBackend.reads (acceptedJob connection header chain slot)
      = Image.rowReads zeroed.stride zeroed.stride 0 zeroed.height := by
    simp only [acceptedJob, QueuedFrame.job, queuedFrame, CpuBackend.reads, Image.fromBytesReads,
      hzeroed, hstride, lt_irrefl, if_false]
  refine ⟨{ zeroed with pixels := rows.1, packed := rows.2 }, ?_, ?_, ?_, ?_, rfl, ?_, ?_⟩
  · simp only [acceptedJob, QueuedFrame.job, queuedFrame, FrameJob.image, Image.fromBytes, hzeroed,
      bind, Except.bind, hstride, lt_irrefl, if_false, hrows]
  · exact eq_toNat_of_narrowed zeroed.width_pos hshape.width
  · exact eq_toNat_of_narrowed zeroed.height_pos hshape.height
  · have hchannels := hshape.channels
    rw [toInt_toInt32_uInt8] at hchannels
    exact (Int.ofNat_inj.mp hchannels).symm
  · simp only [hreads, Image.rowReads_eq, Nat.zero_add]
    rfl
  · rw [hreads]
    exact Image.copyRows_bytes hrows

/-- **No accepted header makes the backend read past its slot.**  Validation compares a product
that may have wrapped; whatever survives the narrowing has not. -/
theorem submit_reads_slot (backend : CpuBackend)
    (hvalid : validateRequestHeader header limits = .kOk)
    (hslot : (memory slot).length = limits.maxPayloadBytes.toNat) :
    ∃ completion, backend.submit applyChain memory (acceptedJob connection header chain slot)
        = (completion.handle, { completed := backend.completed ++ [completion]
                                nextHandle := backend.nextHandle + 1 })
      ∧ ReadsSlot applyChain memory header (acceptedJob connection header chain slot) completion
      ∧ header.payloadLen.toNat ≤ (memory slot).length := by
  have hfits : header.payloadLen.toNat ≤ (memory slot).length := by
    rw [hslot]
    exact payload_le_of_valid hvalid
  refine ⟨CpuBackend.complete applyChain memory backend.nextHandle
    (acceptedJob connection header chain slot), ?_, ?_, hfits⟩
  · simp only [CpuBackend.submit, CpuBackend.complete]
    split <;> rfl
  · cases hzeroed : Image.construct header.width.toInt32 header.height.toInt32
        header.channels.toUInt32.toInt32 with
    | error error =>
        have ⟨himage, hreads⟩ :
            (acceptedJob connection header chain slot).image memory = .error error
              ∧ CpuBackend.reads (acceptedJob connection header chain slot) = [] :=
          reads_of_error hzeroed
        refine ⟨.inl ⟨?_, hreads⟩, ?_⟩
        · simp only [CpuBackend.complete, himage]
        · rw [hreads]
          intro read hread
          cases hread
    | ok zeroed =>
        have hpacked := packed_of_valid hvalid hzeroed
        rcases image_of_construct hzeroed (by rw [hpacked]; exact hfits) with
          ⟨image, himage, hwidth, hheight, hchannels, hsize, hreads, hpixels⟩
        refine ⟨.inr ⟨image, himage, hwidth, hheight, hchannels, ?_, ?_, hreads, ?_⟩, ?_⟩
        · simp only [CpuBackend.complete, himage]
        · simp only [CpuBackend.complete, himage]
        · rintro input ⟨⟩
          exact hpixels
        · intro read hread
          rw [hreads] at hread
          rcases List.mem_map.mp hread with ⟨y, hy, rfl⟩
          have hrow := Image.packed_rows_le (hsize.trans hpacked).le y (List.mem_range.mp hy)
          rwa [Nat.zero_add] at hrow

end Server

namespace OneRequest

/-- A four-byte slot, three of them the payload. -/
def slotMemory : ℕ → List UInt8 := fun _ => [10, 20, 30, 0]

/-- A frame of one row, in a slot with a byte behind its payload. -/
theorem submit_reads_slot_one :
    ∃ completion, (CpuBackend.mk [] 1).submit (Cpu.applyChain ⟨id, id⟩) slotMemory (acceptedJob 1 header chain 0)
        = (completion.handle, { completed := [] ++ [completion], nextHandle := 1 + 1 })
      ∧ ReadsSlot (Cpu.applyChain ⟨id, id⟩) slotMemory header (acceptedJob 1 header chain 0) completion
      ∧ header.payloadLen.toNat ≤ (slotMemory 0).length :=
  have hvalid : validateRequestHeader header { maxPayloadBytes := 4 } = .kOk := by decide
  submit_reads_slot ⟨[], 1⟩ hvalid rfl

end OneRequest

end Imgjit
