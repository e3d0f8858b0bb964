import Imgjit.Cuda.CudaBackend
import Mathlib.Logic.Function.Basic

/-!
# The device behind the driver

What the driver does with the calls of a backend.  The work of one stream is done in order, the
streams get on independently of each other, any call may fail, and a context takes its work with it.
Nothing else is assumed, in particular nothing about when work is done: before the driver answers a
call, any of the queues may have got shorter at its front, by any amount.

**The device.**  `Device` is the work that is queued and not yet done, and everything that was ever
called.  `device` is the device as an environment for a method.

**The log.**  The calls of a run, newest first, with their answers.  Questions of order are
questions about this log, since it says what was called before what and says nothing of when.

* `Observed` — an event that was recorded behind all the work of a frame, on the stream of that
  work, has been seen complete.
* `LogOrdered` — the calls of a run came in an order in which no frame is disturbed: nothing is
  queued on a stream, and no result is read, before the frame that is concerned has been observed.

A failed call may or may not have queued its work, which is what an asynchronous error of the driver
amounts to; so the log of a failed launch says nothing of what the stream will still do.
-/

namespace Imgjit

namespace Cuda

open Interaction

/-! ## Queues -/

/-- A queued operation with the frame it is for. -/
structure QueuedOp where
  frame : JobHandle
  op : StreamOp
  deriving DecidableEq, Repr

/-- A call with its answer. -/
abbrev DriverEvent := (call : DriverCall) × DriverAnswer call

/-- The device: what has been called, and what is still to be done. -/
structure Device where
  /-- Newest first. -/
  log : List DriverEvent := []
  /-- The pending work of each stream, in the order in which it will be done. -/
  queues : ℕ → List QueuedOp := fun _ => []
  /-- What has been created so far has a smaller number. -/
  next : ℕ := 0

namespace Device

/-- Nothing recorded for the event is still to be done. -/
def Complete (d : Device) (event : ℕ) : Prop :=
  ∀ stream, ∀ item ∈ d.queues stream, item.op ≠ .cuEventRecord event

/-- Some of the pending work gets done, on each stream from the front. -/
structure Progress (d d' : Device) : Prop where
  log : d'.log = d.log
  queues : ∀ stream, d'.queues stream <:+ d.queues stream
  next : d'.next = d.next

/-- The queues with one more operation on a stream. -/
def push (d : Device) (stream : ℕ) (item : QueuedOp) : ℕ → List QueuedOp :=
  Function.update d.queues stream (d.queues stream ++ [item])

/-- An object that is handed out is a new one. -/
def handsOut (d : Device) (answer : Except String ℕ) (next : ℕ) : Prop :=
  match answer with
  | .ok id => id = d.next ∧ next = d.next + 1
  | .error _ => next = d.next

/-- What a call with this answer makes of the queues and of the numbers. -/
def Effect (d : Device) :
    (call : DriverCall) → DriverAnswer call → (ℕ → List QueuedOp) → ℕ → Prop
  -- A call that fails may or may not have queued its work.
  | .enqueue stream frame op, answer, queues, next => next = d.next
      ∧ (queues = d.push stream ⟨frame, op⟩ ∨ answer ≠ CUresult.CUDA_SUCCESS ∧ queues = d.queues)
  | .cuCtxDestroy _, _, queues, next => queues = (fun _ => []) ∧ next = d.next
  | .cuCtxCreate, answer, queues, next => queues = d.queues ∧ d.handsOut answer next
  | .create _, answer, queues, next => queues = d.queues ∧ d.handsOut answer next
  | .cuEventQuery event, answer, queues, next => queues = d.queues ∧ next = d.next
      ∧ (answer = CUresult.CUDA_SUCCESS → d.Complete event)
      ∧ ∀ what, answer = CUresult.CUDA_ERROR_NOT_READY what → ¬d.Complete event
  | .cuEventSynchronize event, answer, queues, next => queues = d.queues ∧ next = d.next
      ∧ (answer = CUresult.CUDA_SUCCESS → d.Complete event)
  | _, _, queues, next => queues = d.queues ∧ next = d.next

end Device

/-- **The device.**  Every call is entered in the log. -/
def device : Environment DriverCall DriverAnswer where
  State := Device
  respond d call answer d' := ∃ middle, d.Progress middle
    ∧ middle.Effect call answer d'.queues d'.next ∧ d'.log = ⟨call, answer⟩ :: d.log

/-! ## What a log says -/

/-- A copy or a kernel: its stream, and its frame. -/
def DriverEvent.work (entry : DriverEvent) : Option (ℕ × JobHandle) :=
  match entry.1 with
  | .enqueue _ _ (.cuEventRecord _) => none
  | .enqueue stream frame _ => some (stream, frame)
  | _ => none

/-- The event that is recorded. -/
def DriverEvent.records (entry : DriverEvent) : Option ℕ :=
  match entry.1 with
  | .enqueue _ _ (.cuEventRecord event) => some event
  | _ => none

/-- A read of the result of a frame. -/
def DriverEvent.reads (entry : DriverEvent) : Option JobHandle :=
  match entry.1 with
  | .read frame (.staging _) _ => some frame
  | _ => none

/-- An event was recorded behind all the work of the frame, on the stream on which all of it was
done, and was later seen complete. -/
def Observed (log : List DriverEvent) (frame : JobHandle) : Prop :=
  ∃ event stream later middle earlier,
    log = later ++ ⟨.cuEventQuery event, CUresult.CUDA_SUCCESS⟩
        :: (middle ++ ⟨.enqueue stream frame (.cuEventRecord event), CUresult.CUDA_SUCCESS⟩
          :: earlier)
      ∧ (∀ entry ∈ later ++ middle, ∀ other, DriverEvent.work entry ≠ some (other, frame))
      ∧ (∀ entry ∈ earlier, ∀ other,
        DriverEvent.work entry = some (other, frame) → other = stream)
      ∧ ∀ entry ∈ middle, DriverEvent.records entry ≠ some event

/-- What a call says of the job of its frame: the input that is copied or read is the job's, and it
is read on the host only for a chain without ops. -/
def DriverEvent.Named (submitted : List (JobHandle × FrameJob)) (entry : DriverEvent) : Prop :=
  match entry.1 with
  | .enqueue _ frame (.cuMemcpyHtoDAsync _ input _) =>
      ∃ job, (frame, job) ∈ submitted ∧ job.input = some input
  | .read frame (.input input) _ =>
      ∃ job, (frame, job) ∈ submitted ∧ job.input = some input ∧ job.chain.ops = []
  | _ => True

/-- **No frame is disturbed.** -/
structure LogOrdered (submitted : List (JobHandle × FrameJob)) (log : List DriverEvent) :
    Prop where
  /-- A frame that has worked on the stream before has been observed. -/
  streams : ∀ entry earlier, entry :: earlier <:+ log → ∀ stream frame,
    DriverEvent.work entry = some (stream, frame) → ∀ other ∈ earlier, ∀ frame',
      DriverEvent.work other = some (stream, frame') → frame' ≠ frame → Observed earlier frame'
  /-- The frame whose result is read has been observed. -/
  reads : ∀ entry earlier, entry :: earlier <:+ log → ∀ frame,
    DriverEvent.reads entry = some frame → Observed earlier frame
  named : ∀ entry ∈ log, DriverEvent.Named submitted entry

/-! ## Longer logs -/

variable {submitted : List (JobHandle × FrameJob)} {log : List DriverEvent} {entry : DriverEvent}

lemma Observed.cons {frame : JobHandle} (h : Observed log frame)
    (hentry : ∀ stream, DriverEvent.work entry ≠ some (stream, frame)) :
    Observed (entry :: log) frame := by
  rcases h with ⟨event, stream, later, middle, earlier, rfl, hwork, hstream, hrecords⟩
  refine ⟨event, stream, entry :: later, middle, earlier, rfl, ?_, hstream, hrecords⟩
  rw [List.cons_append]
  intro other hother
  rcases List.mem_cons.mp hother with rfl | hother
  · exact hentry
  · exact hwork other hother

lemma logOrdered_nil : LogOrdered submitted [] where
  streams := by
    intro entry earlier h
    cases List.suffix_nil.mp h
  reads := by
    intro entry earlier h
    cases List.suffix_nil.mp h
  named := by
    intro entry h
    cases h

/-- **One more call.** -/
lemma LogOrdered.cons (h : LogOrdered submitted log)
    (hstreams : ∀ stream frame, DriverEvent.work entry = some (stream, frame) → ∀ other ∈ log,
      ∀ frame', DriverEvent.work other = some (stream, frame') → frame' ≠ frame →
        Observed log frame')
    (hreads : ∀ frame, DriverEvent.reads entry = some frame → Observed log frame)
    (hnamed : DriverEvent.Named submitted entry) : LogOrdered submitted (entry :: log) where
  streams := by
    intro other earlier hsuffix
    rcases List.suffix_cons_iff.mp hsuffix with heq | hsuffix
    · cases heq
      exact hstreams
    · exact h.streams other earlier hsuffix
  reads := by
    intro other earlier hsuffix
    rcases List.suffix_cons_iff.mp hsuffix with heq | hsuffix
    · cases heq
      exact hreads
    · exact h.reads other earlier hsuffix
  named := by
    intro other hother
    rcases List.mem_cons.mp hother with rfl | hother
    · exact hnamed
    · exact h.named other hother

/-- More frames may be submitted. -/
lemma LogOrdered.submit (h : LogOrdered submitted log) (submission : JobHandle × FrameJob) :
    LogOrdered (submission :: submitted) log where
  streams := h.streams
  reads := h.reads
  named := by
    rintro ⟨call, answer⟩ hentry
    have hnamed := h.named _ hentry
    cases call with
    | enqueue stream frame op =>
        cases op with
        | cuMemcpyHtoDAsync destination input bytes =>
            rcases hnamed with ⟨job, hjob, hinput⟩
            exact ⟨job, List.mem_cons_of_mem _ hjob, hinput⟩
        | _ => trivial
    | read frame buffer bytes =>
        cases buffer with
        | input slot =>
            rcases hnamed with ⟨job, hjob, hinput⟩
            exact ⟨job, List.mem_cons_of_mem _ hjob, hinput⟩
        | staging buffer => trivial
    | _ => trivial

/-- A call that neither works for a frame, nor records, nor reads for one. -/
structure DriverEvent.Plain (entry : DriverEvent) : Prop where
  work : DriverEvent.work entry = none
  records : DriverEvent.records entry = none
  reads : DriverEvent.reads entry = none
  named : ∀ submitted, DriverEvent.Named submitted entry

lemma LogOrdered.plain (h : LogOrdered submitted log) (hentry : DriverEvent.Plain entry) :
    LogOrdered submitted (entry :: log) := by
  refine h.cons ?_ ?_ (hentry.named submitted)
  · intro stream frame hwork
    rw [hentry.work] at hwork
    cases hwork
  · intro frame hreads
    rw [hentry.reads] at hreads
    cases hreads

lemma plain_of_silent {call : DriverCall} (h : CudaBackend.Silent call)
    (answer : DriverAnswer call) : DriverEvent.Plain ⟨call, answer⟩ := by
  cases call with
  | enqueue stream frame op => exact h.elim
  | read frame buffer bytes => exact h.elim
  | _ => exact ⟨rfl, rfl, rfl, fun _ => trivial⟩

end Cuda

end Imgjit
