import Imgjit.Cuda.KernelCache
import Imgjit.Library.Interaction

/-!
# The CUDA backend

`CudaBackend` over the driver it calls.  A method is a computation that puts its driver calls to an
environment; it may throw, and what it has changed by then stays changed.  Nothing is assumed of an
answer: every call may fail, and the theorems that need more of a driver say so.

**The driver.**  `DriverCall` and `DriverAnswer` are the calls, and what comes back.  Work is queued
on streams with `DriverCall.enqueue`; the two reads of host memory that the device writes, or that
the readers fill, are calls as well, since what they bring depends on when they are made.

**The state.**  `StreamSlot` is one frame's worth of device resources.  A slot is busy from the
moment its frame's last operation has been queued until its event has been seen complete.

**The methods.**  `CudaBackend.submit`, `CudaBackend.pollCompletions` and
`CudaBackend.recreateContext` are the methods under the server's calls, and `CudaBackend.launch`,
`CudaBackend.claimStream`, `CudaBackend.retireReadyStreams` and `CudaBackend.recover` those under
them.  Constructors and destructors of the RAII members are spelled out where they run: a slot that
fails to build destroys what it has built, in reverse.

**Loops.**  The loop of `claimStream` has no bound of its own; its turns are counted here, and a
caller that has none left never returns.  `CallsEnd.lean` shows that two are enough.

**One rule for every checked call.**  The last sections have what the rest of the development uses
to reason about methods: `Silent` methods change nothing of the backend, and `Stable` and `Made`
describe those that make and destroy resources.
-/

namespace Imgjit

namespace Cuda

open Interaction

/-! ## The driver -/

/-- `CUresult`, with the text that `cu_check` makes of a failure. -/
inductive CUresult where
  | CUDA_SUCCESS
  | CUDA_ERROR_NOT_READY (what : String)
  | failure (what : String)
  deriving DecidableEq, Repr

/-- What the RAII wrappers of a stream slot own: `CudaStream`, `CudaEvent`, `DeviceBuffer` and
`PinnedHostBuffer`. -/
inductive Resource where
  | stream
  | event (timing : Bool)
  | device (bytes : UInt64)
  | pinned (bytes : UInt64)
  deriving DecidableEq, Repr

/-- What may be queued on a stream. -/
inductive StreamOp where
  | cuMemcpyHtoDAsync (destination input : ℕ) (bytes : UInt64)
  | cuLaunchKernel (launch : KernelLaunch) (source destination : ℕ)
  | cuMemcpyDtoHAsync (staging source : ℕ) (bytes : UInt64)
  | cuEventRecord (event : ℕ)
  deriving DecidableEq, Repr

/-- Host memory that is not the backend's alone. -/
inductive HostBuffer where
  | input (slot : ℕ)
  | staging (buffer : ℕ)
  deriving DecidableEq, Repr

/-- The calls.  The frame of `enqueue` and `read` is no argument of the real call; it says on whose
behalf the call is made. -/
inductive DriverCall where
  | cuInit
  | cuDeviceGet (ordinal : Int32)
  | cuCtxCreate
  | cuCtxDestroy (context : ℕ)
  | cuMemHostRegister
  | cuMemHostUnregister
  | create (resource : Resource)
  | destroy (resource : Resource) (id : ℕ)
  /-- NVRTC, `cuModuleLoadData` and `cuModuleGetFunction`. -/
  | load (program : GeneratedProgram)
  | enqueue (stream : ℕ) (frame : JobHandle) (op : StreamOp)
  | cuEventQuery (event : ℕ)
  | cuEventSynchronize (event : ℕ)
  | cuEventElapsedTime (first last : ℕ)
  | read (frame : JobHandle) (buffer : HostBuffer) (bytes : ℕ)
  deriving DecidableEq

/-- What becomes of loading a program. -/
inductive LoadResult where
  | loaded
  | nvrtcError (what : String)
  | cudaError (what : String)
  deriving DecidableEq, Repr

/-- The exception that a load ends with, if it fails. -/
def LoadResult.failure : LoadResult → Option Exn
  | loaded => none
  | nvrtcError what => some (.nvrtcError what)
  | cudaError what => some (.cudaError what)

/-- What comes back.  A read yields as many bytes as it asks for. -/
def DriverAnswer : DriverCall → Type
  | .cuCtxCreate => Except String ℕ
  | .create _ => Except String ℕ
  | .load _ => LoadResult
  | .read _ _ bytes => { source : List UInt8 // source.length = bytes }
  | _ => CUresult

/-! ## The backend's state -/

/-- `StreamSlot`: the objects that one frame needs on the device, and the frame that has them. -/
structure StreamSlot where
  stream : ℕ
  done : ℕ
  kernelsBegin : ℕ
  kernelsEnd : ℕ
  front : ℕ
  back : ℕ
  staging : ℕ
  busy : Bool := false
  handle : JobHandle := 0
  submitOrder : ℕ := 0
  width : Int32 := 0
  height : Int32 := 0
  channels : Int32 := 0
  deriving DecidableEq, Repr

/-- The objects of a slot. -/
def StreamSlot.ids (slot : StreamSlot) : List ℕ :=
  [slot.staging, slot.back, slot.front, slot.kernelsEnd, slot.kernelsBegin, slot.done, slot.stream]

/-- The frame slots' pages.  They outlive a context. -/
structure RegisteredHostBuffer where
  registered : Bool
  deriving DecidableEq, Repr

end Cuda

open Interaction Cuda

/-- The members of `CudaBackend`. -/
structure CudaBackend (cmath : CMath) where
  context : Option ℕ
  cache : KernelCache cmath := {}
  hostSlots : Option RegisteredHostBuffer := none
  streams : List StreamSlot := []
  completed : List Completion := []
  deviceOrdinal : Int32 := 0
  streamCount : ℕ
  config : BackendConfig
  slotBytes : UInt64 := 0
  nextHandle : JobHandle := 1
  nextSubmitOrder : ℕ := 1
  contextRecreations : ℕ := 0

namespace CudaBackend

variable {cmath : CMath}

/-- A method of the backend. -/
abbrev Method (cmath : CMath) := Routine DriverCall DriverAnswer (CudaBackend cmath) Exn

/-- One call. -/
abbrev driver (call : DriverCall) : Method cmath (DriverAnswer call) := Routine.ask call

/-- The constructor, around a context that has been created. -/
def construct (context : ℕ) (deviceOrdinal : Int32) (streamCount : ℕ) (config : BackendConfig) :
    Except Exn (CudaBackend cmath) :=
  if !isSupportedTile config.tile config.tileSize then
    .error (.invalidArgument ("CudaBackend: unsupported tile size "
      ++ toString config.tileSize.toInt ++ " (naive takes 0, tiled takes 1-"
      ++ toString kMaxTileSize ++ ")"))
  else if !isSupportedConstants config.constants config.tile then
    .error (.invalidArgument ("CudaBackend: parameterized constants need naive stencils — a tiled "
      ++ "stage sizes its __shared__ tile from a radius that is only known at launch"))
  else
    .ok {
      context := some context
      deviceOrdinal := deviceOrdinal
      streamCount := if streamCount = 0 then 1 else streamCount
      config := config }

/-! ## Checked calls -/

/-- `CU_CHECK`. -/
def cuCheck (result : CUresult) : Method cmath Unit :=
  match result with
  | .CUDA_SUCCESS => pure ()
  | .CUDA_ERROR_NOT_READY what => throw (.cudaError what)
  | .failure what => throw (.cudaError what)

/-- A call that hands out an object. -/
def checkCreated (result : Except String ℕ) : Method cmath ℕ :=
  match result with
  | .ok id => pure id
  | .error what => throw (.cudaError what)

/-- What a callee returns or throws. -/
def ofExcept {α : Type} (result : Except Exn α) : Method cmath α :=
  match result with
  | .ok value => pure value
  | .error error => throw error

/-! ## Resources -/

/-- `CudaContext::CudaContext`. -/
def createContext (ordinal : Int32) : Method cmath ℕ := do
  cuCheck (← driver .cuInit)
  cuCheck (← driver (.cuDeviceGet ordinal))
  checkCreated (← driver .cuCtxCreate)

/-- A member and the members behind it.  If one of those throws, this one is destroyed. -/
def holding {α : Type} (resource : Resource) (rest : ℕ → Method cmath α) : Method cmath α := do
  let id ← checkCreated (← driver (.create resource))
  try rest id
  catch error =>
    let _ ← driver (.destroy resource id)
    throw error

/-- `StreamSlot::StreamSlot`, the members in the order of their declaration. -/
def makeStreamSlot (bytes : UInt64) : Method cmath StreamSlot :=
  holding .stream fun stream =>
  holding (.event false) fun done =>
  holding (.event true) fun kernelsBegin =>
  holding (.event true) fun kernelsEnd =>
  holding (.device bytes) fun front =>
  holding (.device bytes) fun back =>
  holding (.pinned bytes) fun staging =>
    pure {
      stream := stream, done := done, kernelsBegin := kernelsBegin, kernelsEnd := kernelsEnd
      front := front, back := back, staging := staging }

/-- The members of a slot in the order of their destruction. -/
def resources (bytes : UInt64) (slot : StreamSlot) : List (Resource × ℕ) :=
  [(.pinned bytes, slot.staging), (.device bytes, slot.back), (.device bytes, slot.front),
    (.event true, slot.kernelsEnd), (.event true, slot.kernelsBegin), (.event false, slot.done),
    (.stream, slot.stream)]

/-- Destructors report a failure and go on. -/
def destroyAll : List (Resource × ℕ) → Method cmath Unit
  | [] => pure ()
  | (resource, id) :: rest => do
      let _ ← driver (.destroy resource id)
      destroyAll rest

/-- `streams_.clear()`. -/
def clearStreams : Method cmath Unit := do
  let backend ← get
  destroyAll (backend.streams.flatMap (resources backend.slotBytes))
  modify fun backend => { backend with streams := [] }

/-- The loop of `build_stream_slots`.  Slots built before a failure stay. -/
def emplaceSlots : ℕ → Method cmath Unit
  | 0 => pure ()
  | count + 1 => do
      let backend ← get
      let slot ← makeStreamSlot backend.slotBytes
      modify fun backend => { backend with streams := backend.streams ++ [slot] }
      emplaceSlots count

/-- `build_stream_slots`. -/
def buildStreamSlots : Method cmath Unit := do
  clearStreams
  let backend ← get
  if backend.slotBytes = 0 then pure () else emplaceSlots backend.streamCount

/-- `RegisteredHostBuffer::attach`. -/
def attach : Method cmath Unit := do
  let backend ← get
  match backend.hostSlots with
  | some ⟨false⟩ => do
      cuCheck (← driver .cuMemHostRegister)
      modify fun backend => { backend with hostSlots := some ⟨true⟩ }
  | _ => pure ()

/-- `RegisteredHostBuffer::detach`. -/
def detach : Method cmath Unit := do
  let backend ← get
  match backend.hostSlots with
  | some ⟨true⟩ => do
      let _ ← driver .cuMemHostUnregister
      modify fun backend => { backend with hostSlots := some ⟨false⟩ }
  | _ => pure ()

/-- `CudaBackend::allocate_slots`. -/
def allocateSlots (count bytes : UInt64) : Method cmath Unit := do
  let backend ← get
  if backend.hostSlots.isSome then
    throw (.logicError "CudaBackend::allocate_slots: slots are allocated once, at startup")
  else if count = 0 ∨ bytes = 0 then
    throw (.invalidArgument "CudaBackend::allocate_slots: needs at least one non-empty slot")
  else do
    -- `attach` runs in the constructor of the buffer, which the member then holds.
    cuCheck (← driver .cuMemHostRegister)
    modify fun backend => { backend with hostSlots := some ⟨true⟩, slotBytes := bytes }
    buildStreamSlots

/-! ## Programs -/

/-- `cache_.get`.  NVRTC and the loader are asked on a miss, for a key that has a source. -/
def cacheGet (key : KernelKey) : Method cmath CompiledChain := do
  let backend ← get
  let failure ←
    match backend.cache.find key, emitCudaSource cmath key with
    | none, .ok program => do
        let result ← driver (.load program)
        pure (LoadResult.failure result)
    | _, _ => pure none
  modify fun backend => { backend with cache := (backend.cache.get key failure).2 }
  ofExcept (backend.cache.get key failure).1

/-- `CudaBackend::prewarm`. -/
def prewarm (chain : OpChain) (channels : Int32) : Method cmath Unit := do
  if chain.ops = [] then pure ()
  else
    let backend ← get
    let _ ← cacheGet (backend.config.keyFor chain channels)

/-! ## Completions -/

/-- An entry at the end of the completed list. -/
def complete (completion : Completion) : Method cmath Unit :=
  modify fun backend => { backend with completed := backend.completed ++ [completion] }

/-- The entry of a job that has failed. -/
def failure (handle : JobHandle) (reason : String) : Completion :=
  { handle := handle, status := .kError, output := none, error := reason }

/-- `fail_job`. -/
def failJob (handle : JobHandle) (reason : String) : Method cmath Unit :=
  complete (failure handle reason)

/-! ## Recovery -/

/-- The frames on the device are lost, and reported while their handles are still there. -/
def failBusy (reason : String) (backend : CudaBackend cmath) : CudaBackend cmath :=
  { backend with
    completed := backend.completed
      ++ (backend.streams.filter StreamSlot.busy).map fun slot => failure slot.handle reason
    streams := backend.streams.map fun slot => { slot with busy := false } }

/-- `context_.reset()`. -/
def resetContext : Method cmath Unit := do
  let backend ← get
  match backend.context with
  | some context => do
      let _ ← driver (.cuCtxDestroy context)
      modify fun backend => { backend with context := none }
  | none => pure ()

/-- `CudaBackend::recreate_context`: report, tear down, rebuild.  Only the rebuild may throw. -/
def recreateContext (reason : String) : Method cmath Unit := do
  modify (failBusy reason)
  clearStreams
  modify fun backend => { backend with cache := backend.cache.clear }
  detach
  resetContext
  modify fun backend => { backend with contextRecreations := backend.contextRecreations + 1 }
  let backend ← get
  let context ← createContext backend.deviceOrdinal
  modify fun backend => { backend with context := some context }
  attach
  buildStreamSlots

/-- `recover`. -/
def recover (reason : String) : Method cmath Unit :=
  try recreateContext reason
  catch _ => pure ()

/-! ## Retiring frames -/

/-- One turn of the loop of `retire_ready_streams`. -/
def retireSlot (index : ℕ) (slot : StreamSlot) : Method cmath Unit := do
  if !slot.busy then pure ()
  else
    let status : CUresult ← driver (.cuEventQuery slot.done)
    match status with
    | .CUDA_ERROR_NOT_READY _ => pure ()
    | .failure what => throw (.cudaError what)
    | .CUDA_SUCCESS => do
        cuCheck (← driver (.cuEventElapsedTime slot.kernelsBegin slot.kernelsEnd))
        let stride := sizeT slot.width * sizeT slot.channels
        let bytes := stride * sizeT slot.height
        let source ← driver (.read slot.handle (.staging slot.staging) bytes.toNat)
        let output ←
          ofExcept (Image.fromBytes slot.width slot.height slot.channels source.1 stride)
        complete { handle := slot.handle, status := .kOk, output := some output }
        modify fun backend =>
          { backend with streams := backend.streams.set index { slot with busy := false } }

/-- The slots from `index` on. -/
def retireFrom (index : ℕ) : ℕ → Method cmath Unit
  | 0 => pure ()
  | rest + 1 => do
      let backend ← get
      match backend.streams[index]? with
      | none => pure ()
      | some slot => do
          retireSlot index slot
          retireFrom (index + 1) rest

/-- `CudaBackend::retire_ready_streams`. -/
def retireReadyStreams : Method cmath Unit := do
  let backend ← get
  retireFrom 0 backend.streams.length

/-- `std::min_element` by submission order, the first of the smallest. -/
def oldest : List StreamSlot → Option StreamSlot
  | [] => none
  | slot :: rest =>
      match oldest rest with
      | none => some slot
      | some other => if other.submitOrder < slot.submitOrder then some other else some slot

/-- `CudaBackend::claim_stream`, for a number of turns. -/
def claimStream : ℕ → Method cmath ℕ
  | 0 => Routine.spin
  | turns + 1 => do
      let backend ← get
      match backend.streams.findIdx? fun slot => !slot.busy with
      | some index => pure index
      | none =>
          match oldest backend.streams with
          | none => throw .outOfBounds
          | some slot => do
              cuCheck (← driver (.cuEventSynchronize slot.done))
              retireReadyStreams
              claimStream turns

/-! ## Launching a frame -/

/-- A checked call that queues work on a stream. -/
def enqueue (stream : ℕ) (frame : JobHandle) (op : StreamOp) : Method cmath Unit := do
  cuCheck (← driver (.enqueue stream frame op))

/-- The stage loop: every stage reads one buffer of the pair and writes the other.  Yields the
buffer the last stage wrote. -/
def launchKernels (stream : ℕ) (frame : JobHandle) :
    List KernelLaunch → (source destination : ℕ) → Method cmath ℕ
  | [], source, _ => pure source
  | launch :: rest, source, destination => do
      enqueue stream frame (.cuLaunchKernel launch source destination)
      launchKernels stream frame rest destination source

/-- The work of one frame on one stream, and the claim of its slot behind it. -/
def queueFrame (job : FrameJob) (handle : JobHandle) (input : ℕ) (bytes : UInt64)
    (compiled : CompiledChain) (index : ℕ) (slot : StreamSlot) : Method cmath Unit := do
  enqueue slot.stream handle (.cuMemcpyHtoDAsync slot.front input bytes)
  enqueue slot.stream handle (.cuEventRecord slot.kernelsBegin)
  let source ←
    launchKernels slot.stream handle (framePlan cmath job compiled) slot.front slot.back
  enqueue slot.stream handle (.cuEventRecord slot.kernelsEnd)
  enqueue slot.stream handle (.cuMemcpyDtoHAsync slot.staging source bytes)
  enqueue slot.stream handle (.cuEventRecord slot.done)
  modify fun backend => { backend with
    streams := backend.streams.set index { slot with
      busy := true, handle := handle, submitOrder := backend.nextSubmitOrder
      width := job.width, height := job.height, channels := job.channels }
    nextSubmitOrder := backend.nextSubmitOrder + 1 }

/-- `CudaBackend::launch` behind its checks, for a chain that has ops. -/
def launchChain (job : FrameJob) (handle : JobHandle) (input : ℕ) (bytes : UInt64) (turns : ℕ) :
    Method cmath Unit := do
  let backend ← get
  let compiled ← cacheGet (backend.config.keyFor job.chain job.channels)
  if backend.streams.isEmpty ∨ backend.slotBytes < bytes then
    throw (.logicError ("CudaBackend: no device buffer for a " ++ toString bytes.toNat
      ++ " byte frame — allocate_slots() must be called at startup with at least that slot size"))
  else
    let index ← claimStream turns
    let backend ← get
    match backend.streams[index]? with
    | none => throw .outOfBounds
    | some slot => queueFrame job handle input bytes compiled index slot

/-- `CudaBackend::launch`. -/
def launch (job : FrameJob) (handle : JobHandle) (turns : ℕ) : Method cmath Unit := do
  let backend ← get
  if backend.context.isNone then
    throw (.runtimeError "CudaBackend: the context could not be rebuilt after a driver error")
  else
    match job.input with
    | none => throw (.invalidArgument "FrameJob has no input")
    | some input =>
        let rowBytes := sizeT job.width * sizeT job.channels
        let bytes := rowBytes * sizeT job.height
        if ¬Image.Shaped job.width job.height job.channels then
          throw (.invalidArgument "FrameJob has unusable dimensions")
        else if job.stride ≠ rowBytes then
          throw (.invalidArgument "FrameJob rows must be packed")
        else if job.chain.ops = [] then do
          let source ← driver (.read handle (.input input) bytes.toNat)
          let output ←
            ofExcept (Image.fromBytes job.width job.height job.channels source.1 job.stride)
          complete { handle := handle, status := .kOk, output := some output }
        else
          launchChain job handle input bytes turns

/-! ## The calls of the worker -/

/-- `CudaBackend::submit`. -/
def submit (job : FrameJob) (turns : ℕ) : Method cmath JobHandle := do
  let backend ← get
  let handle := backend.nextHandle
  modify fun backend => { backend with nextHandle := backend.nextHandle + 1 }
  try launch job handle turns
  catch error =>
    match error with
    | .nvrtcError what => failJob handle what
    | .cudaError what => do
        failJob handle what
        recover ("driver error: " ++ what)
    | error => failJob handle error.what
  pure handle

/-- `CudaBackend::poll_completions`. -/
def pollCompletions : Method cmath (List Completion) := do
  try retireReadyStreams
  catch error =>
    match error with
    | .nvrtcError what => recover ("driver error: " ++ what)
    | .cudaError what => recover ("driver error: " ++ what)
    | error => throw error
  let backend ← get
  modify fun backend => { backend with completed := [] }
  pure backend.completed

/-! ## One rule for every checked call -/

section Rules

variable {env : Environment DriverCall DriverAnswer} {backend : CudaBackend cmath} {e : env.State}

lemma wp_cuCheck {result : CUresult} {Q : Except Exn Unit → CudaBackend cmath → env.State → Prop}
    (hok : result = .CUDA_SUCCESS → Q (.ok ()) backend e)
    (herror : ∀ what, Q (.error (.cudaError what)) backend e) :
    Routine.wp env (cuCheck result) Q backend e := by
  cases result with
  | CUDA_SUCCESS => exact hok rfl
  | CUDA_ERROR_NOT_READY what => exact herror what
  | failure what => exact herror what

lemma wp_cuCheck_bind {α : Type} {result : CUresult} {rest : Unit → Method cmath α}
    {Q : Except Exn α → CudaBackend cmath → env.State → Prop}
    (hok : result = .CUDA_SUCCESS → Routine.wp env (rest ()) Q backend e)
    (herror : ∀ what, Q (.error (.cudaError what)) backend e) :
    Routine.wp env (cuCheck result >>= rest) Q backend e := by
  cases result with
  | CUDA_SUCCESS => exact hok rfl
  | CUDA_ERROR_NOT_READY what => exact herror what
  | failure what => exact herror what

lemma wp_checkCreated_bind {α : Type} {result : Except String ℕ} {rest : ℕ → Method cmath α}
    {Q : Except Exn α → CudaBackend cmath → env.State → Prop}
    (hok : ∀ id, result = .ok id → Routine.wp env (rest id) Q backend e)
    (herror : ∀ what, Q (.error (.cudaError what)) backend e) :
    Routine.wp env (checkCreated result >>= rest) Q backend e := by
  cases result with
  | ok id => exact hok id rfl
  | error what => exact herror what

end Rules

/-! ## Methods that leave the backend alone -/

/-- Every call but those that queue work, read host memory or end a context. -/
def Silent : DriverCall → Prop
  | .enqueue _ _ _ => False
  | .read _ _ _ => False
  | .cuCtxDestroy _ => False
  | _ => True

section Quiet

variable {P : DriverCall → Prop}

lemma quiet_cuCheck (result : CUresult) : Routine.Quiet P (cuCheck result : Method cmath Unit) := by
  cases result with
  | CUDA_SUCCESS => exact Routine.Quiet.pure ()
  | CUDA_ERROR_NOT_READY what => exact Routine.Quiet.throw _
  | failure what => exact Routine.Quiet.throw _

lemma quiet_checkCreated (result : Except String ℕ) :
    Routine.Quiet P (checkCreated result : Method cmath ℕ) := by
  cases result with
  | ok id => exact Routine.Quiet.pure id
  | error what => exact Routine.Quiet.throw _

lemma quiet_createContext (ordinal : Int32) :
    Routine.Quiet Silent (createContext ordinal : Method cmath ℕ) := by
  refine (Routine.Quiet.ask trivial).bind fun init => (quiet_cuCheck init).bind fun _ => ?_
  refine (Routine.Quiet.ask trivial).bind fun device => (quiet_cuCheck device).bind fun _ => ?_
  exact (Routine.Quiet.ask trivial).bind fun context => quiet_checkCreated context

lemma quiet_enqueue {stream : ℕ} {frame : JobHandle} {op : StreamOp}
    (h : P (.enqueue stream frame op)) :
    Routine.Quiet P (enqueue stream frame op : Method cmath Unit) :=
  (Routine.Quiet.ask h).bind fun result => quiet_cuCheck result

lemma quiet_launchKernels {stream : ℕ} {frame : JobHandle} {launches : List KernelLaunch}
    (h : ∀ launch ∈ launches, ∀ source destination,
      P (.enqueue stream frame (.cuLaunchKernel launch source destination)))
    (source destination : ℕ) :
    Routine.Quiet P (launchKernels stream frame launches source destination : Method cmath ℕ) := by
  induction launches generalizing source destination with
  | nil => exact Routine.Quiet.pure source
  | cons launch rest ih =>
      refine (quiet_enqueue (h launch List.mem_cons_self source destination)).bind fun _ => ?_
      exact ih (fun launch hlaunch => h launch (List.mem_cons_of_mem _ hlaunch)) destination source

end Quiet

/-! ## Methods that make and destroy resources -/

section Resources

variable {env : Environment DriverCall DriverAnswer} {I : env.State → Prop}
  {G : env.State → ℕ → Prop} {backend : CudaBackend cmath} {e : env.State}

/-- The silent calls preserve `I`, and `G` of the objects there are; a new object has `G`. -/
structure Stable (env : Environment DriverCall DriverAnswer) (I : env.State → Prop)
    (G : env.State → ℕ → Prop) : Prop where
  keep : ∀ e call answer e', Silent call → I e → env.respond e call answer e' →
    I e' ∧ ∀ id, G e id → G e' id
  created : ∀ e resource id e', I e → env.respond e (.create resource) (.ok id) e' → G e' id

/-- A resource that cannot be had, or that is given up again, leaves things as they were. -/
structure Made {α : Type} (I : env.State → Prop) (V : α → env.State → Prop)
    (before : CudaBackend cmath) (result : Except Exn α) (after : CudaBackend cmath)
    (e : env.State) : Prop where
  same : after = before
  stable : I e
  value : ∀ value, result = .ok value → V value e

lemma holding_made {α : Type} {V : α → env.State → Prop} (hstable : Stable env I G) (he : I e)
    {ids : List ℕ} (hids : ∀ id ∈ ids, G e id) {resource : Resource} {rest : ℕ → Method cmath α}
    (hrest : ∀ id e', I e' → (∀ other ∈ id :: ids, G e' other) →
      Routine.wp env (rest id) (Made I V backend) backend e') :
    Routine.wp env (holding resource rest) (Made I V backend) backend e := by
  intro result e₁ hresult
  rcases hstable.keep e _ result e₁ trivial he hresult with ⟨he₁, hkeep⟩
  refine wp_checkCreated_bind ?_ ?_
  · rintro id rfl
    refine Routine.wp.handled (hrest id e₁ he₁ ?_) ?_ ?_
    · intro other hother
      rcases List.mem_cons.mp hother with rfl | hother
      · exact hstable.created e resource other e₁ he hresult
      · exact hkeep other (hids other hother)
    · intro value after e' h
      exact h
    · rintro error after e' ⟨rfl, he', -⟩ answer e'' hanswer
      refine ⟨rfl, (hstable.keep e' _ answer e'' trivial he' hanswer).1, ?_⟩
      intro value hvalue
      cases hvalue
  · intro what
    refine ⟨rfl, he₁, ?_⟩
    intro value hvalue
    cases hvalue

/-- **A new slot** carries no frame, and its objects are new ones. -/
theorem makeStreamSlot_made (hstable : Stable env I G) (he : I e) (bytes : UInt64) :
    Routine.wp env (makeStreamSlot bytes)
      (Made I (fun slot e' => slot.busy = false ∧ ∀ id ∈ slot.ids, G e' id) backend)
      backend e := by
  have hnone : ∀ id ∈ ([] : List ℕ), G e id := fun id hid => absurd hid List.not_mem_nil
  refine holding_made hstable he hnone fun stream e₁ he₁ hids₁ => ?_
  refine holding_made hstable he₁ hids₁ fun done e₂ he₂ hids₂ => ?_
  refine holding_made hstable he₂ hids₂ fun kernelsBegin e₃ he₃ hids₃ => ?_
  refine holding_made hstable he₃ hids₃ fun kernelsEnd e₄ he₄ hids₄ => ?_
  refine holding_made hstable he₄ hids₄ fun front e₅ he₅ hids₅ => ?_
  refine holding_made hstable he₅ hids₅ fun back e₆ he₆ hids₆ => ?_
  refine holding_made hstable he₆ hids₆ fun staging e₇ he₇ hids₇ => ?_
  refine ⟨rfl, he₇, ?_⟩
  rintro slot hslot
  cases hslot
  exact ⟨rfl, hids₇⟩

/-- Destructors do not throw, so what follows them is reached. -/
theorem wp_destroyAll_bind {α : Type} (hstable : Stable env I G)
    {resources : List (Resource × ℕ)} {rest : Unit → Method cmath α}
    {Q : Except Exn α → CudaBackend cmath → env.State → Prop} (he : I e)
    (hrest : ∀ e', I e' → Routine.wp env (rest ()) Q backend e') :
    Routine.wp env (destroyAll resources >>= rest) Q backend e := by
  induction resources generalizing e with
  | nil => exact hrest e he
  | cons resource others ih =>
      intro answer e' hanswer
      exact ih (hstable.keep e _ answer e' trivial he hanswer).1

end Resources

end CudaBackend

end Imgjit
