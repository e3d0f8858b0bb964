import Imgjit.Cuda.Underway
import Imgjit.Net.VettedFrames

/-!
# The server on its CUDA backend

The threads of the server, the calls of the worker on the backend and the streams of the device, all
interleaved as they may be.  `Server.lean` has a backend call as one step, with an outcome that a
contract describes.  Here a call is what it is: many calls of the driver, with the other threads and
the device getting on between any two of them.  Readers write to the slots while the device copies
from them.

* `CudaServer.Step` — one critical section, one call of the driver or one operation of a stream.
* `CudaServer.system` — the system, from a started server on.
* `Engine` — what the worker is doing on the backend: nothing, or some call, of which a part is
  left.
* `CudaServer.account` — the server as its own books have it: a job counts as submitted from the
  moment at which the worker calls the backend, since the slot is the backend's from there on.
* `Elsewhere.booked` — the other threads do not notice the difference, so their steps are steps of
  the books.
-/

namespace Imgjit

open Interaction RelyGuarantee Cuda CudaBackend

/-! ## The system -/

/-- Where the worker is with the backend. -/
inductive Engine (cmath : CMath) where
  | idle (backend : CudaBackend cmath)
  /-- In `submit`, of which `rest` is left. -/
  | submitting (before : CudaBackend cmath) (frame : QueuedFrame) (input : ℕ)
      (rest : Prog DriverCall DriverAnswer (Except Exn JobHandle × CudaBackend cmath))
  /-- In `poll_completions`. -/
  | polling (before : CudaBackend cmath)
      (rest : Prog DriverCall DriverAnswer (Except Exn (List Completion) × CudaBackend cmath))

/-- The server, the call that its worker is in, and the device. -/
structure CudaServer (cmath : CMath) where
  server : State
  engine : Engine cmath
  gpu : Gpu

/-- A step of the server that the backend has no part in: the worker, if it moves, is neither about
to call the backend nor in a call. -/
structure Elsewhere (s s' : State) : Prop where
  worker : s'.worker = s.worker ∨ (∀ frame, s.worker ≠ .submit frame) ∧ s.worker ≠ .poll
  seen : s'.seen = s.seen

namespace CudaServer

variable {cmath : CMath}

/-- The slots are one memory, and what the device has copied from them is what it has seen. -/
def share (c : CudaServer cmath) (engine : Engine cmath) (gpu : Gpu) : CudaServer cmath where
  server := { c.server with memory := gpu.memory.slots, seen := gpu.memory.copied }
  engine := engine
  gpu := gpu

/-- The threads, the driver and the streams.  `frames` says which job is submitted under which
handle. -/
inductive Step (config : ServerConfig) (cmath : CMath) (frames : JobHandle → FrameJob) :
    CudaServer cmath → CudaServer cmath → Prop
  | thread {c : CudaServer cmath} {s' : State}
      (step : Imgjit.Step config (oracleContract cmath) c.server s')
      (elsewhere : Elsewhere c.server s') :
      Step config cmath frames c { c with
        server := s', gpu := { c.gpu with memory := { c.gpu.memory with slots := s'.memory } } }
  /-- The worker calls `submit`. -/
  | submit {c : CudaServer cmath} {backend : CudaBackend cmath} {frame : QueuedFrame} {input : ℕ}
      (turns : ℕ) (idle : c.engine = .idle backend) (place : c.server.worker = .submit frame)
      (storage : c.server.pool.slot frame.slot = .ok input)
      (job : frames backend.nextHandle = frame.job input) :
      Step config cmath frames c { c with
        engine := .submitting backend frame input
          (CudaBackend.submit (frame.job input) turns backend) }
  /-- The worker calls `poll_completions`. -/
  | poll {c : CudaServer cmath} {backend : CudaBackend cmath} (idle : c.engine = .idle backend)
      (place : c.server.worker = .poll) :
      Step config cmath frames c { c with engine := .polling backend (pollCompletions backend) }
  /-- The driver answers a call. -/
  | submitAnswered {c : CudaServer cmath} {before : CudaBackend cmath} {frame : QueuedFrame}
      {input : ℕ} {call : DriverCall}
      {next : DriverAnswer call → Prog DriverCall DriverAnswer _} {answer : DriverAnswer call}
      {gpu : Gpu} (engine : c.engine = .submitting before frame input (.ask call next))
      (answers : c.gpu.Answers call answer gpu) :
      Step config cmath frames c (c.share (.submitting before frame input (next answer)) gpu)
  | pollAnswered {c : CudaServer cmath} {before : CudaBackend cmath} {call : DriverCall}
      {next : DriverAnswer call → Prog DriverCall DriverAnswer _} {answer : DriverAnswer call}
      {gpu : Gpu} (engine : c.engine = .polling before (.ask call next))
      (answers : c.gpu.Answers call answer gpu) :
      Step config cmath frames c (c.share (.polling before (next answer)) gpu)
  /-- A stream performs its next operation.  What has been copied is history. -/
  | device {c : CudaServer cmath} {stream : ℕ} {item : QueuedOp} {rest : List QueuedOp}
      {memory : Memory} (front : c.gpu.device.queues stream = item :: rest)
      (step : (machine cmath frames).step item c.gpu.memory memory)
      (history : c.gpu.memory.copied <:+ memory.copied) :
      Step config cmath frames c (c.share c.engine
        { device := { c.gpu.device with queues := Function.update c.gpu.device.queues stream rest }
          memory := memory })
  | submitted {c : CudaServer cmath} {before after : CudaBackend cmath} {frame : QueuedFrame}
      {input : ℕ} {handle : JobHandle}
      (engine : c.engine = .submitting before frame input (.done (.ok handle, after))) :
      Step config cmath frames c { c with
        server := { c.server with
          worker := .poll
          inFlight := emplaceInFlight c.server.inFlight handle frame.entry
          issued := (handle, frame.job input) :: c.server.issued }
        engine := .idle after }
  | submitThrew {c : CudaServer cmath} {before after : CudaBackend cmath} {frame : QueuedFrame}
      {input : ℕ} {error : Exn}
      (engine : c.engine = .submitting before frame input (.done (.error error, after))) :
      Step config cmath frames c { c with
        server := { c.server with
          worker := .handBack .release frame.entry frame.entry.failure .poll }
        engine := .idle after }
  | polled {c : CudaServer cmath} {before after : CudaBackend cmath} {completions : List Completion}
      (engine : c.engine = .polling before (.done (.ok completions, after))) :
      Step config cmath frames c { c with
        server := { c.server with
          worker := .retire completions
          completed := completions.map Completion.handle ++ c.server.completed }
        engine := .idle after }
  /-- `poll_completions` is called outside any `try` block. -/
  | pollThrew {c : CudaServer cmath} {before after : CudaBackend cmath} {error : Exn}
      (engine : c.engine = .polling before (.done (.error error, after))) :
      Step config cmath frames c { c with
        server := { c.server with terminated := some error }, engine := .idle after }

/-- The server has started, on a backend that has not been asked for anything yet. -/
structure Started (config : ServerConfig) (frames : JobHandle → FrameJob) (c : CudaServer cmath) :
    Prop where
  server : Imgjit.Started config c.server
  backend : ∃ run, (servedSystem cmath frames).Reachable run ∧ run.submitted = []
    ∧ run.delivered = [] ∧ c.engine = .idle run.backend ∧ c.gpu = run.driver
  memory : c.server.memory = c.gpu.memory.slots
  seen : c.server.seen = c.gpu.memory.copied

/-- **The server on its CUDA backend.** -/
def system (config : ServerConfig) (cmath : CMath) (frames : JobHandle → FrameJob) :
    Transition.System (CudaServer cmath) where
  init := Started config frames
  step := Step config cmath frames

/-- The job is on the backend's books. -/
def booked (s : State) (handle : JobHandle) (frame : QueuedFrame) (input : ℕ) : State :=
  { s with
    worker := .poll
    inFlight := emplaceInFlight s.inFlight handle frame.entry
    issued := (handle, frame.job input) :: s.issued }

end CudaServer

/-- The books, with the job that is being submitted. -/
def Engine.books {cmath : CMath} : Engine cmath → State → State
  | submitting before frame input _, s => CudaServer.booked s before.nextHandle frame input
  | _, s => s

/-- The server by its books. -/
def CudaServer.account {cmath : CMath} (c : CudaServer cmath) : State := c.engine.books c.server

open CudaServer

section Books

variable {cmath : CMath}

@[simp] lemma Engine.books_memory (engine : Engine cmath) (s : State) :
    (engine.books s).memory = s.memory := by
  cases engine <;> rfl

@[simp] lemma Engine.books_seen (engine : Engine cmath) (s : State) :
    (engine.books s).seen = s.seen := by
  cases engine <;> rfl

@[simp] lemma Engine.books_completed (engine : Engine cmath) (s : State) :
    (engine.books s).completed = s.completed := by
  cases engine <;> rfl

lemma Engine.books_terminated (engine : Engine cmath) (s : State) :
    (engine.books s).terminated = s.terminated := by
  cases engine <;> rfl

lemma Engine.books_connections (engine : Engine cmath) (s : State) :
    (engine.books s).connections = s.connections := by
  cases engine <;> rfl

lemma Engine.books_share (engine : Engine cmath) (s : State) (memory : ℕ → List UInt8)
    (seen : List (JobHandle × List UInt8)) :
    engine.books { s with memory := memory, seen := seen }
      = { engine.books s with memory := memory, seen := seen } := by
  cases engine <;> rfl

end Books

/-! ## Steps elsewhere -/

section Elsewhere

variable {config : ServerConfig} {contract : Contract} {s s' : State}

/-- The books of the backend stay as they are. -/
lemma Elsewhere.books (h : Elsewhere s s') (hstep : Imgjit.Step config contract s s') :
    s'.issued = s.issued ∧ s'.completed = s.completed := by
  cases hstep with
  | @submit frame input handle place storage fresh =>
      rcases h.worker with hworker | ⟨hworker, -⟩
      · rw [place] at hworker
        cases hworker
      · exact absurd place (hworker frame)
  | poll place allowed =>
      rcases h.worker with hworker | ⟨-, hworker⟩
      · rw [place] at hworker
        cases hworker
      · exact absurd place hworker
  | _ => exact ⟨rfl, rfl⟩

/-- **While the worker is in `submit`**, the others do not notice what is on the books. -/
lemma Elsewhere.booked {frame : QueuedFrame} (h : Elsewhere s s')
    (hplace : s.worker = .submit frame) (hslot : ∀ error, s.pool.slot frame.slot ≠ .error error)
    (hstep : Imgjit.Step config contract s s') (handle : JobHandle) (input : ℕ) :
    s'.worker = .submit frame
      ∧ Imgjit.Step config contract (booked s handle frame input) (booked s' handle frame input) := by
  have hworker : s'.worker = .submit frame := by
    rcases h.worker with hworker | ⟨hworker, -⟩
    · rw [hworker, hplace]
    · exact absurd hplace (hworker frame)
  refine ⟨hworker, ?_⟩
  cases hstep with
  | accept listening => exact .accept listening
  | acceptorExit stopping => exact .acceptorExit stopping
  | silent accepted place => exact .silent accepted place
  | recv accepted place fits => exact .recv accepted place fits
  | respond accepted place => exact .respond accepted place
  | claim accepted place claimed => exact .claim accepted place claimed
  | claimClosed accepted place closed => exact .claimClosed accepted place closed
  | jobSubmitted accepted place => exact .jobSubmitted accepted place
  | push accepted place pushed => exact .push accepted place pushed
  | pushClosed accepted place closed => exact .pushClosed accepted place closed
  | pushFailed accepted place => exact .pushFailed accepted place
  | giveBack accepted place released => exact .giveBack accepted place released
  | giveBackThrows accepted place threw => exact .giveBackThrows accepted place threw
  | readerFinished accepted place first => exact .readerFinished accepted place first
  | connectionEnd accepted done joined => exact .connectionEnd accepted done joined
  | writerPop accepted running popped => exact .writerPop accepted running popped
  | writerExit accepted running drained => exact .writerExit accepted running drained
  | stopCalled place => exact .stopCalled place
  | acceptorJoined place done => exact .acceptorJoined place done
  | socketsShutDown place => exact .socketsShutDown place
  | slotsClosed place => exact .slotsClosed place
  | connectionsJoined place finished => exact .connectionsJoined place finished
  | queueClosed place => exact .queueClosed place
  | backendReads submitted pending pointer => exact absurd h.seen (List.cons_ne_self _ _)
  | slotThrows place threw =>
      rw [hplace] at place
      cases place
      exact absurd threw (hslot _)
  | workerJoined place exited =>
      rw [hplace] at exited
      cases exited
  | submit place storage fresh => cases hworker
  | submitThrows place storage => cases hworker
  | workerPop place _ | workerNoWork place _ _ | workerExit place _ _ | poll place _
  | retireUnknown place _ | retire place _ | retired place | handBackRelease place _
  | handBackThrows place _ | handBackPush place | handBackRetired place =>
      rw [hplace] at place
      cases place

end Elsewhere

end Imgjit
