import Imgjit.Backend.Backend
import Imgjit.Library.Transition
import Imgjit.Net.Connection
import Imgjit.Util.BoundedQueue
import Imgjit.Util.SlotPool

/-!
# The running server

The threads of a started server as one transition system: the acceptor, a reader and a writer per
connection, the worker, and the thread that may call `stop`.  A step is one critical section, one
`recv`, or one backend call; everything between two of them is local to its thread.  So every
interleaving of the threads is a run, at the granularity at which they can see each other.

**The state.**  `State` has the shared objects, the places of the threads, and what is kept as
history: the jobs that were issued, the handles that were completed, what the backend has found in
the slots.

**The steps.**  `Step` is one step of any thread.  Clients are unconstrained: any bytes, in any
pieces, and a disconnect at any moment.  An exception that would leave a thread is a state of its
own, so that there being none is a statement.

**The backend.**  `Contract` is what the backend promises about a completion.  The server's own
bookkeeping is proved for every contract; what the pixels are depends on it.

**The system.**  `ServerConfig.system` is the transition system whose reachable states the results
speak of.

**One request, served.**  The run at the end takes one frame through the server, state by state.
Its steps on the reader's side are stated for any connection and any state, for other runs to use.
-/

namespace Imgjit

/-! ## Configuration -/

/-- `ServerConfig`, as far as the threads read it. -/
structure ServerConfig where
  numSlots : ℕ
  maxPayloadBytes : UInt32
  slotsPerConnection : ℕ
  queueCapacity : ℕ
  /-- The number lexer behind `parse_op_chain`. -/
  strtof : List Char → Option ℚ

/-- `max_payload_bytes` doubles as the slot size, so any frame that passes validation fits. -/
def ServerConfig.reader (config : ServerConfig) : ReaderConfig where
  limits := { maxPayloadBytes := config.maxPayloadBytes }
  strtof := config.strtof

/-! ## The worker -/

/-- An entry of the worker's in-flight table. -/
structure InFlight where
  connection : ℕ
  seqNum : UInt32
  flags : UInt8
  slot : ℕ
  deriving DecidableEq, Repr

/-- The entry of a frame in the worker's table. -/
def QueuedFrame.entry (frame : QueuedFrame) : InFlight where
  connection := frame.connection
  seqNum := frame.seqNum
  flags := frame.flags
  slot := frame.slot

/-- The job the worker hands to the backend, over the storage of the frame's slot. -/
def QueuedFrame.job (frame : QueuedFrame) (input : ℕ) : FrameJob where
  input := some input
  width := frame.width
  height := frame.height
  channels := frame.channels
  stride := sizeT frame.width * sizeT frame.channels
  chain := frame.chain

/-- Whether the client wants the picture sent back. -/
def echoFlag (flags : UInt8) : Bool := flags &&& kFlagEcho != 0

/-- Whether the server is to write the picture to a file. -/
def writeFlag (flags : UInt8) : Bool := flags &&& kFlagServerWrite != 0

/-- The response of `submit` when the backend threw. -/
def InFlight.failure (job : InFlight) : Response where
  seqNum := job.seqNum
  status := .kInternalError
  echo := echoFlag job.flags

/-- The response of `retire`. -/
def InFlight.response (job : InFlight) (completion : Completion) : Response :=
  match completion.status with
  | .kOk =>
      { seqNum := job.seqNum, status := .kOk, echo := echoFlag job.flags
        writeFile := writeFlag job.flags, image := completion.output }
  | .kError => job.failure

/-- The three calls that end a job, in their order. -/
inductive Stage where
  | release
  | push
  | retired
  deriving DecidableEq, Repr

/-- Where the worker goes on once a job has ended. -/
inductive Resume where
  | poll
  | retire (completions : List Completion)

/-- A place in `worker_loop`, with the variables that are alive there. -/
inductive WorkerPc where
  /-- The head of `for (;;)`, about to pop. -/
  | top
  /-- In `submit`, before the backend has answered. -/
  | submit (frame : QueuedFrame)
  /-- About to call `poll_completions`. -/
  | poll
  /-- In the loop over the completions, with these to go. -/
  | retire (completions : List Completion)
  /-- Ending a job: in `retire`, or in the handler of `submit`. -/
  | handBack (stage : Stage) (job : InFlight) (response : Response) (next : Resume)
  | exited

/-- The place at which the worker goes on. -/
def Resume.pc : Resume → WorkerPc
  | poll => .poll
  | retire completions => .retire completions

/-! ## The state -/

/-- Where `stop` is. -/
inductive StopPc where
  | notCalled
  | joinAcceptor
  | shutdownSockets
  | closeSlots
  | joinConnections
  | closeQueue
  | joinWorker
  | stopped
  deriving DecidableEq, Repr

/-- The state of a started server. -/
structure State where
  pool : SlotPool
  queue : BoundedQueue QueuedFrame
  /-- The backend's storage, slot by slot. -/
  memory : ℕ → List UInt8
  /-- Connections by id.  One that has not been accepted yet is in its initial state. -/
  connections : ℕ → Connection
  nextConnectionId : ℕ
  acceptorDone : Bool
  stop : StopPc
  worker : WorkerPc
  inFlight : List (JobHandle × InFlight)
  /-- Every job submitted so far, under the handle the backend returned. -/
  issued : List (JobHandle × FrameJob)
  /-- The handles completed so far. -/
  completed : List JobHandle
  /-- What the backend has seen of the input slots of jobs it had not completed yet. -/
  seen : List (JobHandle × List UInt8)
  /-- An exception left a thread: `std::terminate`. -/
  terminated : Option Exn

namespace State

variable (s : State)

/-- The acceptor has created connection `c`. -/
def Accepted (c : ℕ) : Prop := 1 ≤ c ∧ c < s.nextConnectionId

/-- The state with another record for a connection. -/
def withConnection (c : ℕ) (connection : Connection) : State :=
  { s with connections := Function.update s.connections c connection }

/-- The state with the reader of a connection at another place. -/
def setReader (c : ℕ) (pc : ReaderPc) : State :=
  s.withConnection c { s.connections c with reader := pc }

end State

/-- `in_flight.emplace`: an existing entry stays. -/
def emplaceInFlight (table : List (JobHandle × InFlight)) (handle : JobHandle) (job : InFlight) :
    List (JobHandle × InFlight) :=
  if table.any (·.1 == handle) then table else (handle, job) :: table

/-- The entry of a handle in the worker's table. -/
def findInFlight (table : List (JobHandle × InFlight)) (handle : JobHandle) :
    Option (JobHandle × InFlight) :=
  table.find? (·.1 == handle)

/-- The table without the entry of a handle. -/
def eraseInFlight (table : List (JobHandle × InFlight)) (handle : JobHandle) :
    List (JobHandle × InFlight) :=
  table.eraseP (·.1 == handle)

/-- What a backend promises about a completion of `job`, given what it has seen of the job's input
slot between the submit and the completion. -/
abbrev Contract := FrameJob → List (List UInt8) → Completion → Prop

/-- The snapshots recorded for one handle. -/
def seenBy (seen : List (JobHandle × List UInt8)) (handle : JobHandle) : List (List UInt8) :=
  (seen.filter (·.1 == handle)).map Prod.snd

/-- A poll may return any completions, in any order, as long as no handle is completed twice and
the contract holds of those that answer a job. -/
structure State.Completes (contract : Contract) (s : State) (completions : List Completion) :
    Prop where
  nodup : (completions.map Completion.handle).Nodup
  fresh : ∀ completion ∈ completions, completion.handle ∉ s.completed
  kept : ∀ completion ∈ completions, ∀ job, (completion.handle, job) ∈ s.issued →
    contract job (seenBy s.seen completion.handle) completion

/-- What `recv` may return when asked for `count` bytes. -/
def Recv.Fits (count : ℕ) : Recv → Prop
  | .data bytes => bytes ≠ [] ∧ bytes.length ≤ count
  | _ => True

/-! ## Steps -/

/-- One step of any thread. -/
inductive Step (config : ServerConfig) (contract : Contract) : State → State → Prop
  /-- The acceptor takes a connection.  It may still do so in the poll during which `stop` is
  called. -/
  | accept {s : State} (listening : s.acceptorDone = false) :
      Step config contract s { s with nextConnectionId := s.nextConnectionId + 1 }
  | acceptorExit {s : State} (stopping : s.stop ≠ .notCalled) :
      Step config contract s { s with acceptorDone := true }
  /-- The reader moves between two calls. -/
  | silent {s : State} {c : ℕ} {pc : ReaderPc} (accepted : s.Accepted c)
      (place : (s.connections c).reader.silent config.reader = some pc) :
      Step config contract s (s.setReader c pc)
  /-- One `recv`.  What it returns is up to the client and the network. -/
  | recv {s : State} {c : ℕ} {into : ReadInto} {remaining : ℕ} {buffer : List UInt8}
      {outcome : Recv} (accepted : s.Accepted c)
      (place : (s.connections c).reader = .reading into (remaining + 1) buffer)
      (fits : outcome.Fits (remaining + 1)) :
      Step config contract s
        { s.withConnection c { s.connections c with
            reader := .received into (remaining + 1) buffer outcome
            consumed := (s.connections c).consumed ++ outcome.bytes } with
          memory := into.store buffer.length s.memory outcome }
  /-- An error response. -/
  | respond {s : State} {c : ℕ} {header : RequestHeader} {status : Status} {unread : ℕ}
      (accepted : s.Accepted c)
      (place : (s.connections c).reader = .respond header status unread) :
      Step config contract s (s.withConnection c { s.connections c with
        outbox := (s.connections c).outbox.push { seqNum := header.seqNum, status := status }
        reader := .responded status unread
        answered := (s.connections c).answered ++ [header.seqNum] })
  | claim {s : State} {c : ℕ} {header : RequestHeader} {chain : OpChain} {slot : ℕ}
      {pool : SlotPool} (accepted : s.Accepted c)
      (place : (s.connections c).reader = .claim header chain)
      (claimed : s.pool.claim c = some (some slot, pool)) :
      Step config contract s { s.setReader c (.claimed header chain slot) with pool := pool }
  /-- The pool was closed: the server is shutting down. -/
  | claimClosed {s : State} {c : ℕ} {header : RequestHeader} {chain : OpChain} {pool : SlotPool}
      (accepted : s.Accepted c) (place : (s.connections c).reader = .claim header chain)
      (closed : s.pool.claim c = some (none, pool)) :
      Step config contract s { s.setReader c .returned with pool := pool }
  /-- `job_submitted`. -/
  | jobSubmitted {s : State} {c : ℕ} {header : RequestHeader} {chain : OpChain} {slot : ℕ}
      (accepted : s.Accepted c)
      (place : (s.connections c).reader = .submit header chain slot) :
      Step config contract s (s.withConnection c
        { (s.connections c).jobSubmitted with reader := .push header chain slot })
  | push {s : State} {c : ℕ} {header : RequestHeader} {chain : OpChain} {slot : ℕ}
      {queue : BoundedQueue QueuedFrame} (accepted : s.Accepted c)
      (place : (s.connections c).reader = .push header chain slot)
      (pushed : s.queue.push (queuedFrame c header chain slot) = some (true, queue)) :
      Step config contract s { s.withConnection c { s.connections c with
          reader := .loopHead
          answered := (s.connections c).answered ++ [header.seqNum] } with
        queue := queue }
  /-- The queue was closed: the server is shutting down. -/
  | pushClosed {s : State} {c : ℕ} {header : RequestHeader} {chain : OpChain} {slot : ℕ}
      {queue : BoundedQueue QueuedFrame} (accepted : s.Accepted c)
      (place : (s.connections c).reader = .push header chain slot)
      (closed : s.queue.push (queuedFrame c header chain slot) = some (false, queue)) :
      Step config contract s { s.setReader c (.pushFailed slot) with queue := queue }
  | pushFailed {s : State} {c slot : ℕ} (accepted : s.Accepted c)
      (place : (s.connections c).reader = .pushFailed slot) :
      Step config contract s (s.withConnection c
        { (s.connections c).jobRetired with reader := .giveBack slot })
  | giveBack {s : State} {c slot : ℕ} {pool : SlotPool} (accepted : s.Accepted c)
      (place : (s.connections c).reader = .giveBack slot)
      (released : s.pool.release slot = .ok pool) :
      Step config contract s { s.setReader c .returned with pool := pool }
  | giveBackThrows {s : State} {c slot : ℕ} {error : Exn} (accepted : s.Accepted c)
      (place : (s.connections c).reader = .giveBack slot)
      (threw : s.pool.release slot = .error error) :
      Step config contract s { s with terminated := some error }
  /-- `reader_finished`. -/
  | readerFinished {s : State} {c : ℕ} (accepted : s.Accepted c)
      (place : (s.connections c).reader = .returned)
      (first : (s.connections c).readerDone = false) :
      Step config contract s (s.withConnection c (s.connections c).readerFinished)
  /-- The writer is joined and the connection thread ends. -/
  | connectionEnd {s : State} {c : ℕ} (accepted : s.Accepted c)
      (done : (s.connections c).readerDone = true)
      (joined : (s.connections c).writerDone = true) :
      Step config contract s (s.withConnection c { s.connections c with finished := true })
  | writerPop {s : State} {c : ℕ} {response : Response} {outbox : Outbox}
      (accepted : s.Accepted c) (running : (s.connections c).writerDone = false)
      (popped : (s.connections c).outbox.pop = some (some response, outbox)) :
      Step config contract s (s.withConnection c { s.connections c with
        outbox := outbox
        popped := (s.connections c).popped ++ [response] })
  | writerExit {s : State} {c : ℕ} {outbox : Outbox} (accepted : s.Accepted c)
      (running : (s.connections c).writerDone = false)
      (drained : (s.connections c).outbox.pop = some (none, outbox)) :
      Step config contract s (s.withConnection c { s.connections c with
        outbox := outbox
        writerDone := true })
  /-- The worker waits for work only when nothing is in flight. -/
  | workerPop {s : State} {frame : QueuedFrame} {queue : BoundedQueue QueuedFrame}
      (place : s.worker = .top)
      (popped : if s.inFlight = [] then s.queue.pop = some (some frame, queue)
        else s.queue.tryPop = (some frame, queue)) :
      Step config contract s { s with worker := .submit frame, queue := queue }
  | workerNoWork {s : State} {queue : BoundedQueue QueuedFrame} (place : s.worker = .top)
      (busy : s.inFlight ≠ []) (empty : s.queue.tryPop = (none, queue)) :
      Step config contract s { s with worker := .poll, queue := queue }
  | workerExit {s : State} {queue : BoundedQueue QueuedFrame} (place : s.worker = .top)
      (idle : s.inFlight = []) (drained : s.queue.pop = some (none, queue)) :
      Step config contract s { s with worker := .exited, queue := queue }
  /-- The backend takes the job. -/
  | submit {s : State} {frame : QueuedFrame} {input : ℕ} {handle : JobHandle}
      (place : s.worker = .submit frame) (storage : s.pool.slot frame.slot = .ok input)
      (fresh : handle ∉ s.issued.map Prod.fst) :
      Step config contract s { s with
        worker := .poll
        inFlight := emplaceInFlight s.inFlight handle frame.entry
        issued := (handle, frame.job input) :: s.issued }
  /-- The backend throws. -/
  | submitThrows {s : State} {frame : QueuedFrame} {input : ℕ} (place : s.worker = .submit frame)
      (storage : s.pool.slot frame.slot = .ok input) :
      Step config contract s { s with
        worker := .handBack .release frame.entry frame.entry.failure .poll }
  /-- `SlotPool::slot` is called outside the `try` block. -/
  | slotThrows {s : State} {frame : QueuedFrame} {error : Exn} (place : s.worker = .submit frame)
      (threw : s.pool.slot frame.slot = .error error) :
      Step config contract s { s with terminated := some error }
  /-- The backend looks at the input of a job it has not completed. -/
  | backendReads {s : State} {handle : JobHandle} {job : FrameJob} {input : ℕ}
      (submitted : (handle, job) ∈ s.issued) (pending : handle ∉ s.completed)
      (pointer : job.input = some input) :
      Step config contract s { s with seen := (handle, s.memory input) :: s.seen }
  | poll {s : State} {completions : List Completion} (place : s.worker = .poll)
      (allowed : s.Completes contract completions) :
      Step config contract s { s with
        worker := .retire completions
        completed := completions.map Completion.handle ++ s.completed }
  /-- A handle that was never submitted: nothing to route. -/
  | retireUnknown {s : State} {completion : Completion} {rest : List Completion}
      (place : s.worker = .retire (completion :: rest))
      (missing : findInFlight s.inFlight completion.handle = none) :
      Step config contract s { s with worker := .retire rest }
  | retire {s : State} {completion : Completion} {rest : List Completion} {job : InFlight}
      {handle : JobHandle} (place : s.worker = .retire (completion :: rest))
      (found : findInFlight s.inFlight completion.handle = some (handle, job)) :
      Step config contract s { s with
        worker := .handBack .release job (job.response completion) (.retire rest)
        inFlight := eraseInFlight s.inFlight completion.handle }
  | retired {s : State} (place : s.worker = .retire []) :
      Step config contract s { s with worker := .top }
  | handBackRelease {s : State} {job : InFlight} {response : Response} {next : Resume}
      {pool : SlotPool} (place : s.worker = .handBack .release job response next)
      (released : s.pool.release job.slot = .ok pool) :
      Step config contract s { s with worker := .handBack .push job response next, pool := pool }
  | handBackThrows {s : State} {job : InFlight} {response : Response} {next : Resume}
      {error : Exn} (place : s.worker = .handBack .release job response next)
      (threw : s.pool.release job.slot = .error error) :
      Step config contract s { s with terminated := some error }
  | handBackPush {s : State} {job : InFlight} {response : Response} {next : Resume}
      (place : s.worker = .handBack .push job response next) :
      Step config contract s
        { s.withConnection job.connection { s.connections job.connection with
            outbox := (s.connections job.connection).outbox.push response } with
          worker := .handBack .retired job response next }
  | handBackRetired {s : State} {job : InFlight} {response : Response} {next : Resume}
      (place : s.worker = .handBack .retired job response next) :
      Step config contract s
        { s.withConnection job.connection (s.connections job.connection).jobRetired with
          worker := next.pc }
  /-- `running.exchange(false)`. -/
  | stopCalled {s : State} (place : s.stop = .notCalled) :
      Step config contract s { s with stop := .joinAcceptor }
  | acceptorJoined {s : State} (place : s.stop = .joinAcceptor) (done : s.acceptorDone = true) :
      Step config contract s { s with stop := .shutdownSockets }
  /-- From here on a `recv` may fail, which it may do anyway. -/
  | socketsShutDown {s : State} (place : s.stop = .shutdownSockets) :
      Step config contract s { s with stop := .closeSlots }
  | slotsClosed {s : State} (place : s.stop = .closeSlots) :
      Step config contract s { s with stop := .joinConnections, pool := s.pool.close }
  | connectionsJoined {s : State} (place : s.stop = .joinConnections)
      (finished : ∀ c, s.Accepted c → (s.connections c).finished = true) :
      Step config contract s { s with stop := .closeQueue }
  | queueClosed {s : State} (place : s.stop = .closeQueue) :
      Step config contract s { s with stop := .joinWorker, queue := s.queue.close }
  | workerJoined {s : State} (place : s.stop = .joinWorker) (exited : s.worker = .exited) :
      Step config contract s { s with stop := .stopped }

/-! ## The system -/

/-- The state in which `start` returns.  The queue is empty; it is closed when the server had been
stopped before. -/
structure Started (config : ServerConfig) (s : State) : Prop where
  pool : SlotPool.make true config.numSlots config.maxPayloadBytes.toNat config.slotsPerConnection
    = .ok s.pool
  queue : s.queue.items = []
  memory : ∀ slot, (s.memory slot).length = config.maxPayloadBytes.toNat
  connections : ∀ c, s.connections c = {}
  nextConnectionId : 1 ≤ s.nextConnectionId
  acceptorDone : s.acceptorDone = false
  stop : s.stop = .notCalled
  worker : s.worker = .top
  inFlight : s.inFlight = []
  issued : s.issued = []
  completed : s.completed = []
  seen : s.seen = []
  terminated : s.terminated = none

/-- The runs of a started server, with a backend that keeps a contract. -/
def ServerConfig.system (config : ServerConfig) (contract : Contract) :
    Transition.System State where
  init := Started config
  step := Step config contract

/-! ## One request, served

A run in which connection 1 sends one 1x1 RGB frame to be inverted, and its writer takes the
answer. -/

namespace OneRequest

/-- One slot of four bytes, and a queue of one frame. -/
def config : ServerConfig where
  numSlots := 1
  maxPayloadBytes := 4
  slotsPerConnection := 1
  queueCapacity := 1
  strtof := fun _ => none

/-- A request for one pixel, to be sent back. -/
def header : RequestHeader :=
  { flags := kFlagEcho, seqNum := 7, width := 1, height := 1, channels := 3, payloadLen := 3
    chainLen := 6 }

/-- `invert`. -/
def chainBytes : List UInt8 := [105, 110, 118, 101, 114, 116]

/-- The chain of the request. -/
def chain : OpChain := ⟨[⟨.kInvert, 0⟩]⟩

/-- The pixel. -/
def payload : List UInt8 := [10, 20, 30]

/-- The frame in the queue. -/
def frame : QueuedFrame := queuedFrame 1 header chain 0

/-- The inverted pixel. -/
def picture : Image where
  width := 1
  height := 1
  channels := 3
  pixels := [245, 235, 225]
  width_pos := Nat.one_pos
  width_lt := one_lt_extent
  height_pos := Nat.one_pos
  height_lt := one_lt_extent
  supported := rgb_supported
  packed := rfl

/-- What the backend says of the job. -/
def completion : Completion := { handle := 1, status := .kOk, output := some picture }

/-- The response to the request. -/
def response : Response := frame.entry.response completion

/-- Right after `start`. -/
def started : State where
  pool := ⟨1, 4, 1, [0], fun _ => none, fun _ => none, false⟩
  queue := .make 1
  memory := fun _ => [0, 0, 0, 0]
  connections := fun _ => {}
  nextConnectionId := 1
  acceptorDone := false
  stop := .notCalled
  worker := .top
  inFlight := []
  issued := []
  completed := []
  seen := []
  terminated := none

/-- One connection has been accepted. -/
def accepted : State := { started with nextConnectionId := 2 }

/-- The next `recv` of the reader of connection `c` yields all it asked for. -/
def received (c : ℕ) (s : State) (into : ReadInto) (bytes : List UInt8) : State :=
  { s.withConnection c { s.connections c with
      reader := .reading into 0 bytes
      consumed := (s.connections c).consumed ++ bytes } with
    memory := into.store 0 s.memory (.data bytes) }

/-- A reader at the head of its loop has received the header of the frame. -/
def headerRead (c : ℕ) (s : State) : State :=
  received c (s.setReader c (.reading .header 25 [])) .header (encodeRequestHeader header)

/-- It has received the chain too. -/
def chainRead (c : ℕ) (s : State) : State :=
  received c ((headerRead c s).setReader c (.reading (.chain header) 6 [])) (.chain header)
    chainBytes

/-- It has come to claim a slot for the payload. -/
def claiming (c : ℕ) (s : State) : State := (chainRead c s).setReader c (.claim header chain)

/-- The only slot is the connection's. -/
def claimed : State :=
  { (claiming 1 accepted).setReader 1 (.claimed header chain 0) with
    pool := ⟨1, 4, 1, [], Function.update (fun _ => none) 0 (some 1),
      Function.update (fun _ => none) 1 (some 1), false⟩ }

/-- The payload is in the slot. -/
def payloadRead : State := received 1 claimed (.payload header chain 0) payload

/-- The job counts as outstanding. -/
def submitted : State :=
  let s := payloadRead.setReader 1 (.submit header chain 0)
  s.withConnection 1 { (s.connections 1).jobSubmitted with reader := .push header chain 0 }

/-- The frame is in the queue, and its number answered. -/
def queued : State :=
  { submitted.withConnection 1 { submitted.connections 1 with
      reader := .loopHead
      answered := [7] } with
    queue := ⟨1, [frame], 1, false⟩ }

/-- The worker has taken the frame. -/
def popped : State := { queued with worker := .submit frame, queue := ⟨1, [], 1, false⟩ }

/-- The backend has taken the job. -/
def inFlight : State :=
  { popped with worker := .poll, inFlight := [(1, frame.entry)], issued := [(1, frame.job 0)] }

/-- The backend has found the payload in the slot. -/
def seen : State := { inFlight with seen := [(1, inFlight.memory 0)] }

/-- The worker has polled the completion. -/
def polled : State := { seen with worker := .retire [completion], completed := [1] }

/-- The job is out of the table, and about to be ended. -/
def retired : State :=
  { polled with
    worker := .handBack .release frame.entry response (.retire [])
    inFlight := [] }

/-- The slot is free again. -/
def released : State :=
  { retired with
    worker := .handBack .push frame.entry response (.retire [])
    pool := ⟨1, 4, 1, [0], Function.update (Function.update (fun _ => none) 0 (some 1)) 0 none,
      Function.update (Function.update (fun _ => none) 1 (some 1)) 1 none, false⟩ }

/-- The response is in the outbox. -/
def answered : State :=
  { released.withConnection 1 { released.connections 1 with
      outbox := (released.connections 1).outbox.push response } with
    worker := .handBack .retired frame.entry response (.retire []) }

/-- The writer has taken the response. -/
def served : State :=
  answered.withConnection 1 { answered.connections 1 with
    outbox := {}
    popped := [response] }

variable {contract : Contract}

lemma started_started : Started config started :=
  ⟨rfl, rfl, fun _ => rfl, fun _ => rfl, le_rfl, rfl, rfl, rfl, rfl, rfl, rfl, rfl, rfl⟩

lemma setReader_reader (s : State) (c : ℕ) (pc : ReaderPc) :
    ((s.setReader c pc).connections c).reader = pc := by
  simp only [State.setReader, State.withConnection, Function.update_self]

lemma received_reader (c : ℕ) (s : State) (into : ReadInto) (bytes : List UInt8) :
    ((received c s into bytes).connections c).reader = .reading into 0 bytes := by
  simp only [received, State.withConnection, Function.update_self]

/-- One `recv` that yields everything. -/
lemma received_step {c : ℕ} {s : State} {into : ReadInto} {bytes : List UInt8}
    (haccepted : s.Accepted c) (place : (s.connections c).reader = .reading into bytes.length [])
    (hne : bytes ≠ []) : Step config contract s (received c s into bytes) := by
  obtain ⟨n, hn⟩ := Nat.exists_eq_succ_of_ne_zero (List.length_pos_of_ne_nil hne).ne'
  rw [hn] at place
  have hstep := @Step.recv config contract s c into n [] (.data bytes) haccepted place ⟨hne, hn.le⟩
  have hdone : ReaderPc.received into (n + 1) [] (.data bytes) = .reading into 0 bytes := by
    simp only [ReaderPc.received, hn, Nat.sub_self, List.nil_append]
  rwa [hdone] at hstep

/-- **A frame whose header and chain are received takes its reader to the claim**, whichever
connection it comes on. -/
lemma claiming_reachable {c : ℕ} {s : State} (h : (config.system contract).Reachable s)
    (haccepted : s.Accepted c) (place : (s.connections c).reader = .loopHead) :
    (config.system contract).Reachable (claiming c s) := by
  have hsilent : ∀ {s : State} {pc pc' : ReaderPc}, s.Accepted c → (s.connections c).reader = pc →
      pc.silent config.reader = some pc' → Step config contract s (s.setReader c pc') :=
    fun haccepted hpc hnext => .silent haccepted (hpc ▸ hnext)
  have hheader : (config.system contract).Reachable (headerRead c s) :=
    (h.step (hsilent haccepted place rfl)).step (received_step haccepted (setReader_reader ..) (by decide))
  have hchain : (config.system contract).Reachable (chainRead c s) :=
    (hheader.step (hsilent haccepted (received_reader ..) rfl)).step
      (received_step haccepted (setReader_reader ..) (by decide))
  exact hchain.step (hsilent haccepted (received_reader ..) rfl)

/-- The reader has received the frame. -/
lemma submitted_reachable : (config.system contract).Reachable submitted := by
  have haccepted : accepted.Accepted 1 := ⟨le_rfl, Nat.lt_add_one 1⟩
  have haccept : (config.system contract).Reachable accepted :=
    .step (.init started_started) (.accept rfl)
  have hclaiming : (config.system contract).Reachable (claiming 1 accepted) :=
    claiming_reachable haccept haccepted rfl
  have hclaimed : (config.system contract).Reachable claimed :=
    hclaiming.step (.claim haccepted rfl rfl)
  have hpayload : (config.system contract).Reachable payloadRead :=
    hclaimed.step (received_step haccepted rfl (by decide))
  exact (hpayload.step (.silent haccepted rfl)).step (.jobSubmitted haccepted rfl)

/-- It has pushed it. -/
lemma queued_reachable : (config.system contract).Reachable queued :=
  submitted_reachable.step (.push (s := submitted) ⟨le_rfl, Nat.lt_add_one 1⟩ rfl rfl)

/-- The worker has put the answer into the outbox, and the writer has taken it. -/
lemma served_reachable (hkept : contract (frame.job 0) [[10, 20, 30, 0]] completion) :
    (config.system contract).Reachable served := by
  have hinFlight : (config.system contract).Reachable inFlight :=
    (queued_reachable.step (.workerPop rfl rfl)).step (.submit rfl rfl (by decide))
  have hseen : (config.system contract).Reachable seen :=
    hinFlight.step (.backendReads (List.mem_singleton.mpr rfl) (by decide) rfl)
  have hcompletes : seen.Completes contract [completion] := by
    refine ⟨by decide, by decide, fun done hdone job hjob => ?_⟩
    cases List.mem_singleton.mp hdone
    cases List.mem_singleton.mp hjob
    exact hkept
  have hpolled : (config.system contract).Reachable polled := hseen.step (.poll rfl hcompletes)
  have hretired : (config.system contract).Reachable retired := hpolled.step (.retire rfl rfl)
  have hreleased : (config.system contract).Reachable released :=
    hretired.step (.handBackRelease rfl rfl)
  have hanswered : (config.system contract).Reachable answered :=
    hreleased.step (.handBackPush (s := released) rfl)
  exact hanswered.step (.writerPop (s := answered) ⟨le_rfl, Nat.lt_add_one 1⟩ rfl rfl)

end OneRequest

end Imgjit
