import Imgjit.Cuda.EveryProgram
import Imgjit.Cuda.StreamOrder
import Imgjit.Library.RelyGuarantee

/-!
# The device with its memory

`Device.lean` knows what is queued and not what it does.  This file adds the memory: what the work
that a backend queues does to it, and when it may be done at all.  It is the bottom of everything
that is said about pixels on a device, and nothing in it speaks of pictures yet.

**Memory.**  `Memory` has the driver's buffers and the frame slots, and remembers what each frame
has found in its slot.

**Operations.**  `Ready`, `Finishes` and `Aborts` are what an operation needs, and what it leaves.
One that does not find what it needs may leave anything, and so may one that fails.  A kernel
finishes with the result of its launch; in 32-bit integers, if its frame is one for which they
suffice.  `machine` has the operations as a machine, and the queues of the device work on it.

**The environment.**  `gpu` is the device as an environment for a method: before it answers, some of
the pending work gets done, and the readers may write to the slots.  `Gpu.Answers` is the answer
alone, with nothing else happening.

**Who writes where.**  Each stream writes to the buffers it owns and reads slots that nobody writes
while it does; `Kept`, `rely` and `guarantee` put this in the terms of the library, whose rule for
queues then does the work for all interleavings at once.  `Promises` is what the queues promise, and
`Gpu.Moved` what a call leaves of the promises.
-/

namespace Imgjit

namespace Cuda

open Interaction RelyGuarantee

/-! ## Memory -/

/-- What the driver's calls and the readers write to. -/
structure Memory where
  /-- Device buffers and pinned staging buffers, by the number under which they were created. -/
  buffers : ℕ → List UInt8 := fun _ => []
  /-- The frame slots, which readers fill. -/
  slots : ℕ → List UInt8 := fun _ => []
  /-- What a frame has found in its slot, newest first. -/
  copied : List (JobHandle × List UInt8) := []
  /-- An operation has failed on the device.  The context is of no use any more. -/
  lost : Bool := false

namespace Memory

/-- The memory with other contents in a buffer. -/
def write (m : Memory) (buffer : ℕ) (contents : List UInt8) : Memory :=
  { m with buffers := Function.update m.buffers buffer contents }

/-- What a frame has found in its slot. -/
def seenBy (m : Memory) (frame : JobHandle) : List (List UInt8) :=
  (m.copied.filter fun copy => copy.1 = frame).map Prod.snd

@[simp] lemma write_self (m : Memory) (buffer : ℕ) (contents : List UInt8) :
    (m.write buffer contents).buffers buffer = contents := Function.update_self ..

@[simp] lemma write_of_ne (m : Memory) {buffer other : ℕ} (h : other ≠ buffer)
    (contents : List UInt8) : (m.write buffer contents).buffers other = m.buffers other :=
  Function.update_of_ne h ..

lemma mem_seenBy {m : Memory} {frame : JobHandle} {bytes : List UInt8} :
    bytes ∈ m.seenBy frame ↔ (frame, bytes) ∈ m.copied := by
  simp [seenBy]

end Memory

/-- `bytes`, copied to the front of a buffer. -/
def overwrite (bytes buffer : List UInt8) : List UInt8 := bytes ++ buffer.drop bytes.length

lemma length_overwrite {bytes buffer : List UInt8} (h : bytes.length ≤ buffer.length) :
    (overwrite bytes buffer).length = buffer.length := by
  rw [overwrite, List.length_append, List.length_drop, Nat.add_sub_cancel' h]

lemma take_overwrite (bytes buffer : List UInt8) :
    (overwrite bytes buffer).take bytes.length = bytes := List.take_left' rfl

/-! ## The operations -/

/-- A launch on these buffers.  Width and height are those of the frame. -/
def KernelLaunch.over (cmath : CMath) (launch : KernelLaunch) (frame : FrameJob)
    (source destination : List UInt8) : Option Launch := do
  let args ← launch.args
  some {
    cmath := cmath
    grid := (launch.gridX.toNat, launch.gridY.toNat)
    blockDim := launch.block.toNat
    src := source
    dst := destination
    width := frame.width.toInt
    height := frame.height.toInt
    args := args }

section Operations

variable (cmath : CMath) (frames : JobHandle → FrameJob)

/-- What an operation needs.  Its frame says on which picture a kernel works; if that is one whose
kernels do not overflow, the kernel runs on 32-bit integers as it does on all of them. -/
def Ready (item : QueuedOp) (m : Memory) : Prop :=
  match item.op with
  | .cuMemcpyHtoDAsync destination input bytes =>
      bytes.toNat ≤ (m.slots input).length ∧ bytes.toNat ≤ (m.buffers destination).length
  | .cuLaunchKernel launch source destination => source ≠ destination
      ∧ ∃ call, launch.over cmath (frames item.frame) (m.buffers source) (m.buffers destination)
          = some call ∧ ∀ schedule, ∃ run, launch.function.run call schedule = some run
            ∧ (AddressableJob (frames item.frame) → launch.function.run32 call schedule = some run)
  | .cuMemcpyDtoHAsync staging source bytes =>
      bytes.toNat ≤ (m.buffers source).length ∧ bytes.toNat ≤ (m.buffers staging).length
  | .cuEventRecord _ => True

/-- On 32-bit integers a kernel does what it does on all of them. -/
def NoOverflow (item : QueuedOp) (m : Memory) : Prop :=
  match item.op with
  | .cuLaunchKernel launch source destination => ∀ call,
      launch.over cmath (frames item.frame) (m.buffers source) (m.buffers destination) = some call →
        ∀ schedule, launch.function.run32 call schedule = launch.function.run call schedule
  | _ => True

variable {cmath frames} in
/-- A kernel that is ready overflows only for a job that is too large. -/
lemma Ready.noOverflow {item : QueuedOp} {m : Memory} (h : Ready cmath frames item m)
    (haddressable : AddressableJob (frames item.frame)) : NoOverflow cmath frames item m := by
  rcases item with ⟨frame, op⟩
  cases op with
  | cuLaunchKernel launch source destination =>
      rcases h with ⟨-, call, hcall, hruns⟩
      intro other hother schedule
      obtain rfl : call = other := Option.some.inj (hcall.symm.trans hother)
      rcases hruns schedule with ⟨run, hrun, hrun32⟩
      rw [hrun, hrun32 haddressable]
  | _ => trivial

/-- What an operation leaves. -/
def Finishes (item : QueuedOp) (m m' : Memory) : Prop :=
  match item.op with
  | .cuMemcpyHtoDAsync destination input bytes =>
      m' = { m.write destination
          (overwrite ((m.slots input).take bytes.toNat) (m.buffers destination)) with
        copied := (item.frame, m.slots input) :: m.copied }
  -- The writes of a launch land in any order.
  | .cuLaunchKernel launch source destination => ∃ call schedule run,
      launch.over cmath (frames item.frame) (m.buffers source) (m.buffers destination) = some call
        ∧ launch.function.run call schedule = some run ∧ m' = m.write destination run.dst
  | .cuMemcpyDtoHAsync staging source bytes =>
      m' = m.write staging (overwrite ((m.buffers source).take bytes.toNat) (m.buffers staging))
  | .cuEventRecord _ => m' = m

/-- The buffer an operation writes to. -/
def StreamOp.target : StreamOp → Option ℕ
  | .cuMemcpyHtoDAsync destination _ _ => some destination
  | .cuLaunchKernel _ _ destination => some destination
  | .cuMemcpyDtoHAsync staging _ _ => some staging
  | .cuEventRecord _ => none

/-- An operation that fails on the device, or that a failed one has taken with it: nobody knows what
it has written. -/
def Aborts (item : QueuedOp) (m m' : Memory) : Prop :=
  match item.op.target with
  | some buffer => ∃ contents : List UInt8, contents.length = (m.buffers buffer).length
      ∧ m' = { m.write buffer contents with lost := true }
  | none => m' = { m with lost := true }

/-- The operations on a stream. -/
def machine : Machine QueuedOp Memory where
  Defined := Ready cmath frames
  effect item m m' := Finishes cmath frames item m m' ∨ Aborts item m m'

end Operations

/-! ## The environment -/

/-- The device, and its memory. -/
structure Gpu where
  device : Device := {}
  memory : Memory := {}

/-- The readers write to the slots, and to nothing else. -/
structure Outside (m m' : Memory) : Prop where
  buffers : m'.buffers = m.buffers
  copied : m'.copied = m.copied
  lost : m'.lost = m.lost
  slots : ∀ slot, (m'.slots slot).length = (m.slots slot).length

/-- What a call with this answer does to memory. -/
def Memory.Effect (m : Memory) : (call : DriverCall) → DriverAnswer call → Memory → Prop
  -- Nobody knows what is in new memory.
  | .create resource, answer, m' =>
      match resource, answer with
      | .device bytes, .ok id | .pinned bytes, .ok id =>
          ∃ contents : List UInt8, contents.length = bytes.toNat ∧ m' = m.write id contents
      | _, _ => m' = m
  | .cuCtxDestroy _, _, m' => m' = { m with lost := false }
  -- Behind a failure no event is seen complete.
  | .cuEventQuery _, answer, m' => m' = m ∧ (answer = CUresult.CUDA_SUCCESS → m.lost = false)
  | .cuEventSynchronize _, answer, m' => m' = m ∧ (answer = CUresult.CUDA_SUCCESS → m.lost = false)
  | .read frame (.input slot) bytes, source, m' =>
      m' = { m with copied := (frame, m.slots slot) :: m.copied }
        ∧ (bytes ≤ (m.slots slot).length → source.1 = (m.slots slot).take bytes)
  | .read _ (.staging buffer) bytes, source, m' =>
      m' = m ∧ (bytes ≤ (m.buffers buffer).length → source.1 = (m.buffers buffer).take bytes)
  | _, _, m' => m' = m

/-- **The device.**  Every stream works on the memory from the front of its queue. -/
def gpu (cmath : CMath) (frames : JobHandle → FrameJob) : Environment DriverCall DriverAnswer where
  State := Gpu
  respond g call answer g' := ∃ middle : Gpu, middle.device.log = g.device.log
    ∧ middle.device.next = g.device.next
    ∧ (machine cmath frames).Works Outside g.device.queues g.memory middle.device.queues
        middle.memory
    ∧ middle.device.Effect call answer g'.device.queues g'.device.next
    ∧ g'.device.log = ⟨call, answer⟩ :: g.device.log
    ∧ middle.memory.Effect call answer g'.memory
    -- What has been copied is history; not even an operation that may do anything undoes it.
    ∧ g.memory.copied <:+ g'.memory.copied

/-- **The driver answers**, and nothing else happens. -/
structure Gpu.Answers (g : Gpu) (call : DriverCall) (answer : DriverAnswer call) (g' : Gpu) :
    Prop where
  device : g.device.Effect call answer g'.device.queues g'.device.next
  log : g'.device.log = ⟨call, answer⟩ :: g.device.log
  memory : g.memory.Effect call answer g'.memory

/-! ## Who writes where -/

/-- What is kept when others work: memory only grows in what it has seen, nothing changes its
length, and what is `mine` keeps its contents. -/
structure Kept (owned : ℕ → ℕ → Prop) (mine : ℕ → Prop) (m m' : Memory) : Prop where
  lost : m.lost = true → m'.lost = true
  copied : m.copied <:+ m'.copied
  slots : ∀ slot, (m'.slots slot).length = (m.slots slot).length
  lengths : ∀ stream buffer, owned stream buffer →
    (m'.buffers buffer).length = (m.buffers buffer).length
  same : ∀ buffer, mine buffer → m'.buffers buffer = m.buffers buffer

namespace Kept

variable {owned : ℕ → ℕ → Prop} {mine mine' : ℕ → Prop} {m m' m'' : Memory}

lemma refl (m : Memory) : Kept owned mine m m :=
  ⟨id, List.suffix_refl _, fun _ => rfl, fun _ _ _ => rfl, fun _ _ => rfl⟩

lemma trans (h : Kept owned mine m m') (h' : Kept owned mine m' m'') : Kept owned mine m m'' where
  lost hlost := h'.lost (h.lost hlost)
  copied := h.copied.trans h'.copied
  slots slot := (h'.slots slot).trans (h.slots slot)
  lengths stream buffer howned :=
    (h'.lengths stream buffer howned).trans (h.lengths stream buffer howned)
  same buffer hmine := (h'.same buffer hmine).trans (h.same buffer hmine)

lemma weaken (h : Kept owned mine m m') (hmine : ∀ buffer, mine' buffer → mine buffer) :
    Kept owned mine' m m' :=
  ⟨h.lost, h.copied, h.slots, h.lengths, fun buffer hbuffer => h.same buffer (hmine buffer hbuffer)⟩

lemma of_outside (h : Outside m m') : Kept owned mine m m' where
  lost hlost := by rw [h.lost, hlost]
  copied := by rw [h.copied]
  slots := h.slots
  lengths _ _ _ := by rw [h.buffers]
  same _ _ := by rw [h.buffers]

/-- A write to a buffer that is not mine, of the right length. -/
lemma write {buffer : ℕ} {contents : List UInt8} (hmine : ¬mine buffer)
    (hlength : (∃ stream, owned stream buffer) → contents.length = (m.buffers buffer).length) :
    Kept owned mine m (m.write buffer contents) where
  lost := id
  copied := List.suffix_refl _
  slots _ := rfl
  lengths stream other howned := by
    by_cases hother : other = buffer
    · subst hother
      rw [Memory.write_self, hlength ⟨stream, howned⟩]
    · rw [Memory.write_of_ne m hother]
  same other hother := by
    refine Memory.write_of_ne m ?_ contents
    rintro rfl
    exact hmine hother

/-- A copy is noted. -/
lemma note (h : Kept owned mine m m') (copy : JobHandle × List UInt8) :
    Kept owned mine m { m' with copied := copy :: m'.copied } :=
  ⟨h.lost, h.copied.trans (List.suffix_cons _ _), h.slots, h.lengths, h.same⟩

/-- An operation fails. -/
lemma lose (h : Kept owned mine m m') : Kept owned mine m { m' with lost := true } :=
  ⟨fun _ => rfl, h.copied, h.slots, h.lengths, h.same⟩

lemma seenBy (h : Kept owned mine m m') {frame : JobHandle} {bytes : List UInt8}
    (hbytes : bytes ∈ m.seenBy frame) : bytes ∈ m'.seenBy frame :=
  Memory.mem_seenBy.mpr (h.copied.subset (Memory.mem_seenBy.mp hbytes))

end Kept

/-- What a stream counts on while it waits. -/
def rely (owned : ℕ → ℕ → Prop) (stream : ℕ) : Memory → Memory → Prop :=
  Kept owned (owned stream)

/-- What it does to the others. -/
def guarantee (owned : ℕ → ℕ → Prop) (stream : ℕ) : Memory → Memory → Prop :=
  Kept owned fun buffer => ¬owned stream buffer

/-- A stream writes to a buffer of its own. -/
lemma guarantee_write {owned : ℕ → ℕ → Prop} {stream buffer : ℕ} {contents : List UInt8}
    {m : Memory} (howned : owned stream buffer)
    (hlength : contents.length = (m.buffers buffer).length) :
    guarantee owned stream m (m.write buffer contents) :=
  Kept.write (fun hother => hother howned) fun _ => hlength

/-- Every buffer belongs to one stream, and the driver has handed it out. -/
structure Owns (owned : ℕ → ℕ → Prop) (next : ℕ) : Prop where
  one : ∀ stream stream' buffer, owned stream buffer → owned stream' buffer → stream = stream'
  below : ∀ stream buffer, owned stream buffer → buffer < next
  streams : ∀ stream buffer, owned stream buffer → stream < next

lemma Owns.mono {owned : ℕ → ℕ → Prop} {next next' : ℕ} (h : Owns owned next)
    (hnext : next ≤ next') : Owns owned next' :=
  ⟨h.one, fun stream buffer howned => (h.below stream buffer howned).trans_le hnext,
    fun stream buffer howned => (h.streams stream buffer howned).trans_le hnext⟩

/-- **The streams do not disturb each other.** -/
lemma Owns.rules {owned : ℕ → ℕ → Prop} {next : ℕ} (h : Owns owned next) :
    Machine.Rules (rely owned) (guarantee owned) Outside where
  refl _ := ⟨fun m => Kept.refl m⟩
  trans _ := ⟨fun _ _ _ hm hm' => hm.trans hm'⟩
  outside _ _ _ houtside := .of_outside houtside
  apart i j _ _ hne hm := hm.weaken fun buffer hj hi => hne (h.one i j buffer hi hj)

/-- Nothing happens to a stream's own buffers in no time. -/
instance (owned : ℕ → ℕ → Prop) (stream : ℕ) : Std.Refl (rely owned stream) :=
  ⟨fun m => Kept.refl m⟩

/-- What others do to a stream's own buffers they do in any number of steps. -/
instance (owned : ℕ → ℕ → Prop) (stream : ℕ) : IsTrans Memory (rely owned stream) :=
  ⟨fun _ _ _ hm hm' => hm.trans hm'⟩

/-! ## What the queues promise -/

section Promises

variable (cmath : CMath) (frames : JobHandle → FrameJob)

/-- Each stream does what is pending on it, and the `tail` behind it, and comes to its `goal`. -/
def Promises (owned : ℕ → ℕ → Prop) (goal : ℕ → Memory → Prop) (tail : ℕ → List QueuedOp)
    (g : Gpu) : Prop :=
  ∀ stream, (machine cmath frames).Leads (rely owned stream) (guarantee owned stream) (goal stream)
    (g.device.queues stream ++ tail stream) g.memory

/-- **What a call leaves of the promises.** -/
structure Gpu.Moved (owned : ℕ → ℕ → Prop) (g g' : Gpu) : Prop where
  next : g.device.next ≤ g'.device.next
  promises : ∀ goal tail, Promises cmath frames owned goal tail g →
    Promises cmath frames owned goal tail g'
  /-- As long as all that is done may be done; what belongs to no stream stays as it is. -/
  kept : Promises cmath frames owned (fun _ _ => True) (fun _ => []) g →
    Kept owned (fun buffer => buffer < g.device.next ∧ ∀ stream, ¬owned stream buffer) g.memory
      g'.memory

end Promises

section Calls

variable {cmath : CMath} {frames : JobHandle → FrameJob} {owned : ℕ → ℕ → Prop} {g g' : Gpu}
  {goal : ℕ → Memory → Prop} {tail : ℕ → List QueuedOp}

lemma Promises.safe (h : Promises cmath frames owned goal tail g) :
    Promises cmath frames owned (fun _ _ => True) (fun _ => []) g := by
  intro stream
  rw [List.append_nil]
  exact (h stream).safe

lemma Promises.mono {goal' : ℕ → Memory → Prop} (h : Promises cmath frames owned goal tail g)
    (hgoal : ∀ stream m, goal stream m → goal' stream m) :
    Promises cmath frames owned goal' tail g :=
  fun stream => (h stream).mono (hgoal stream)

/-- Others than the streams write to memory. -/
lemma Promises.kept (h : Promises cmath frames owned goal tail g)
    (hqueues : g'.device.queues = g.device.queues)
    (hkept : ∀ stream, Kept owned (owned stream) g.memory g'.memory) :
    Promises cmath frames owned goal tail g' := by
  intro stream
  rw [hqueues]
  exact (h stream).stable (hkept stream)

/-- Some of the work gets done. -/
lemma moved_of_works {next : ℕ} (howns : Owns owned next) (hnext : g'.device.next = g.device.next)
    (h : (machine cmath frames).Works Outside g.device.queues g.memory g'.device.queues
      g'.memory) : Gpu.Moved cmath frames owned g g' where
  next := hnext.ge
  promises goal tail hpromises := (h.leads howns.rules hpromises).1
  kept hsafe := by
    refine Relation.ReflTransGen.head_induction_on (h.leads howns.rules hsafe).2 (Kept.refl _) ?_
    rintro m m' (houtside | ⟨stream, hstream⟩) - hrest
    · exact (Kept.of_outside houtside).trans hrest
    · exact (hstream.weaken fun _ hfree => hfree.2 stream).trans hrest

/-- Then memory is written to, but not by a stream. -/
lemma Gpu.Moved.behind {middle : Gpu} (h : Gpu.Moved cmath frames owned g middle)
    (hqueues : g'.device.queues = middle.device.queues)
    (hnext : middle.device.next ≤ g'.device.next) (howns : Owns owned g.device.next)
    (hkept : ∀ mine : ℕ → Prop, (∀ buffer, mine buffer → buffer < middle.device.next) →
      Kept owned mine middle.memory g'.memory) : Gpu.Moved cmath frames owned g g' where
  next := h.next.trans hnext
  promises goal tail hpromises := by
    refine (h.promises goal tail hpromises).kept hqueues fun stream => hkept _ ?_
    exact fun buffer howned => (howns.below stream buffer howned).trans_le h.next
  kept hsafe := (h.kept hsafe).trans (hkept _ fun _ hfree => hfree.1.trans_le h.next)

/-- The device that it is without its memory. -/
lemma device_of_gpu {call : DriverCall} {answer : DriverAnswer call}
    (h : (gpu cmath frames).respond g call answer g') :
    device.respond g.device call answer g'.device := by
  rcases h with ⟨middle, hlog, hnext, hworks, heffect, hcalled, -, -⟩
  exact ⟨middle.device, ⟨hlog, hworks.suffix, hnext⟩, heffect, hcalled⟩

/-- Every call that neither queues work nor ends a context. -/
def Calm : DriverCall → Prop
  | .enqueue _ _ _ => False
  | .cuCtxDestroy _ => False
  | _ => True

/-- What such a call does to memory is no concern of the streams. -/
lemma Memory.Effect.kept {call : DriverCall} {answer : DriverAnswer call} {m m' : Memory} {d : Device}
    {queues : ℕ → List QueuedOp} {next : ℕ} (hcalm : Calm call) (h : m.Effect call answer m')
    (hdevice : d.Effect call answer queues next) (howns : Owns owned d.next) (mine : ℕ → Prop)
    (hmine : ∀ buffer, mine buffer → buffer < d.next) : Kept owned mine m m' := by
  cases call with
  | enqueue stream frame op => exact hcalm.elim
  | cuCtxDestroy context => exact hcalm.elim
  | create resource =>
      have hcreated : ∀ id (contents : List UInt8), answer = .ok id →
          Kept owned mine m (m.write id contents) := by
        rintro id contents rfl
        have hid : id = d.next := hdevice.2.1
        refine .write (fun hold => ?_) fun hold => ?_
        · exact absurd (hmine id hold) (by omega)
        · rcases hold with ⟨stream, howned⟩
          exact absurd (howns.below stream id howned) (by omega)
      cases resource with
      | device bytes =>
          cases answer with
          | ok id =>
              rcases h with ⟨contents, -, rfl⟩
              exact hcreated id contents rfl
          | error what =>
              obtain rfl : m' = m := h
              exact .refl m'
      | pinned bytes =>
          cases answer with
          | ok id =>
              rcases h with ⟨contents, -, rfl⟩
              exact hcreated id contents rfl
          | error what =>
              obtain rfl : m' = m := h
              exact .refl m'
      | stream =>
          obtain rfl : m' = m := h
          exact .refl m'
      | event timing =>
          obtain rfl : m' = m := h
          exact .refl m'
  | cuEventQuery event =>
      obtain rfl : m' = m := h.1
      exact .refl m'
  | cuEventSynchronize event =>
      obtain rfl : m' = m := h.1
      exact .refl m'
  | read frame buffer bytes =>
      cases buffer with
      | input slot =>
          obtain rfl := h.1
          exact ⟨id, List.suffix_cons _ _, fun _ => rfl, fun _ _ _ => rfl, fun _ _ => rfl⟩
      | staging buffer =>
          obtain rfl : m' = m := h.1
          exact .refl m'
  | _ =>
      obtain rfl : m' = m := h
      exact .refl m'

/-- Such a call leaves the queues alone. -/
lemma Device.Effect.calm {call : DriverCall} {answer : DriverAnswer call} {d : Device}
    {queues : ℕ → List QueuedOp} {next : ℕ} (hcalm : Calm call)
    (h : d.Effect call answer queues next) : queues = d.queues ∧ d.next ≤ next := by
  cases call with
  | enqueue stream frame op => exact hcalm.elim
  | cuCtxDestroy context => exact hcalm.elim
  | cuCtxCreate => exact ⟨h.1, CudaBackend.le_of_handsOut h.2⟩
  | create resource => exact ⟨h.1, CudaBackend.le_of_handsOut h.2⟩
  | cuEventQuery event => exact ⟨h.1, h.2.1.ge⟩
  | cuEventSynchronize event => exact ⟨h.1, h.2.1.ge⟩
  | _ => exact ⟨h.1, h.2.ge⟩

/-- **A call that neither queues work nor ends a context.** -/
theorem moved_of_calm {call : DriverCall} {answer : DriverAnswer call} (hcalm : Calm call)
    (howns : Owns owned g.device.next) (h : (gpu cmath frames).respond g call answer g') :
    Gpu.Moved cmath frames owned g g' := by
  rcases h with ⟨middle, -, hnext, hworks, hdevice, -, hmemory, -⟩
  rcases hdevice.calm hcalm with ⟨hqueues, hle⟩
  refine (moved_of_works howns hnext hworks).behind hqueues hle howns fun mine hmine => ?_
  exact hmemory.kept hcalm hdevice (hnext ▸ howns) mine hmine

/-! ## What the answers say -/

/-- A new object, with room for what was asked for. -/
lemma created_of_respond {resource : Resource} {id : ℕ}
    (h : (gpu cmath frames).respond g (.create resource) (.ok id) g') :
    id = g.device.next ∧ g'.device.next = g.device.next + 1
      ∧ ∀ bytes, resource = .device bytes ∨ resource = .pinned bytes →
        (g'.memory.buffers id).length = bytes.toNat := by
  rcases h with ⟨middle, -, hnext, -, ⟨-, hid, hnext'⟩, -, hmemory, -⟩
  refine ⟨hid.trans hnext, hnext'.trans (by rw [hnext]), ?_⟩
  rintro bytes (rfl | rfl)
  all_goals
    rcases hmemory with ⟨contents, hcontents, hwrite⟩
    rw [hwrite, Memory.write_self, hcontents]

/-- Behind a failure no event is seen complete. -/
lemma not_lost_of_respond {event : ℕ}
    (h : (gpu cmath frames).respond g (.cuEventQuery event) CUresult.CUDA_SUCCESS g') :
    g'.memory.lost = false := by
  rcases h with ⟨middle, -, -, -, -, -, ⟨hmemory, hlost⟩, -⟩
  rw [hmemory, hlost rfl]

lemma staging_of_respond {frame : JobHandle} {buffer bytes : ℕ}
    {source : DriverAnswer (.read frame (.staging buffer) bytes)}
    (h : (gpu cmath frames).respond g (.read frame (.staging buffer) bytes) source g')
    (hlength : bytes ≤ (g'.memory.buffers buffer).length) :
    source.1 = (g'.memory.buffers buffer).take bytes := by
  rcases h with ⟨middle, -, -, -, -, -, ⟨hmemory, hread⟩, -⟩
  rw [hmemory] at hlength ⊢
  exact hread hlength

/-- The read of an input is noted. -/
lemma input_of_respond {frame : JobHandle} {slot bytes : ℕ}
    {source : DriverAnswer (.read frame (.input slot) bytes)}
    (h : (gpu cmath frames).respond g (.read frame (.input slot) bytes) source g') :
    g'.memory.slots slot ∈ g'.memory.seenBy frame
      ∧ (bytes ≤ (g'.memory.slots slot).length →
        source.1 = (g'.memory.slots slot).take bytes) := by
  rcases h with ⟨middle, -, -, -, -, -, ⟨hmemory, hread⟩, -⟩
  rw [hmemory]
  exact ⟨by simp [Memory.seenBy], hread⟩

/-- The end of a context. -/
lemma destroyed_of_respond {context : ℕ} {answer : CUresult}
    (h : (gpu cmath frames).respond g (.cuCtxDestroy context) answer g') :
    (∀ stream, g'.device.queues stream = []) ∧ ∃ middle : Gpu,
      (∀ {owned : ℕ → ℕ → Prop}, Owns owned g.device.next → Gpu.Moved cmath frames owned g middle)
        ∧ g'.memory = { middle.memory with lost := false } := by
  rcases h with ⟨middle, -, hnext, hworks, ⟨hqueues, -⟩, -, hmemory, -⟩
  exact ⟨fun stream => by rw [hqueues], middle, fun howns => moved_of_works howns hnext hworks,
    hmemory⟩

/-- **Queueing work.** -/
lemma queued_of_respond {stream : ℕ} {frame : JobHandle} {op : StreamOp} {answer : CUresult}
    (howns : Owns owned g.device.next)
    (h : (gpu cmath frames).respond g (.enqueue stream frame op) answer g') :
    ∃ middle : Gpu, Gpu.Moved cmath frames owned g middle ∧ g'.memory = middle.memory
      ∧ (g'.device.queues = middle.device.push stream ⟨frame, op⟩
        ∨ answer ≠ .CUDA_SUCCESS ∧ g'.device.queues = middle.device.queues) := by
  rcases h with ⟨middle, -, hnext, hworks, ⟨-, hqueues⟩, -, hmemory, -⟩
  exact ⟨middle, moved_of_works howns hnext hworks, hmemory, hqueues⟩

/-- **The work at the front of the tail has been queued.** -/
theorem Promises.enqueue {stream : ℕ} {frame : JobHandle} {op : StreamOp} {rest : List QueuedOp}
    (h : Promises cmath frames owned goal (Function.update tail stream (⟨frame, op⟩ :: rest)) g)
    (howns : Owns owned g.device.next)
    (hrespond : (gpu cmath frames).respond g (.enqueue stream frame op) CUresult.CUDA_SUCCESS g') :
    Promises cmath frames owned goal (Function.update tail stream rest) g' := by
  rcases queued_of_respond howns hrespond with ⟨middle, hmoved, hmemory, hqueues | ⟨hfailed, -⟩⟩
  · intro other
    have hother := hmoved.promises goal _ h other
    rw [hqueues, hmemory, Device.push]
    by_cases hstream : other = stream
    · subst hstream
      rw [Function.update_self] at hother ⊢
      rw [Function.update_self, List.append_assoc]
      exact hother
    · rw [Function.update_of_ne hstream] at hother ⊢
      rwa [Function.update_of_ne hstream]
  · exact absurd rfl hfailed

/-- A call that fails may have queued its work, and what is pending may still be done. -/
theorem Promises.enqueue_safe {stream : ℕ} {frame : JobHandle} {op : StreamOp}
    {answer : CUresult} {rest : List QueuedOp}
    (h : Promises cmath frames owned goal (Function.update tail stream (⟨frame, op⟩ :: rest)) g)
    (howns : Owns owned g.device.next)
    (hrespond : (gpu cmath frames).respond g (.enqueue stream frame op) answer g') :
    Promises cmath frames owned (fun _ _ => True) (fun _ => []) g' := by
  rcases queued_of_respond howns hrespond with ⟨middle, hmoved, hmemory, hqueues⟩
  have hmiddle := hmoved.promises goal _ h
  rcases hqueues with hqueues | ⟨-, hqueues⟩
  · intro other
    have hother := hmiddle other
    rw [hqueues, hmemory, Device.push, List.append_nil]
    by_cases hstream : other = stream
    · subst hstream
      rw [Function.update_self] at hother ⊢
      rw [List.append_cons] at hother
      exact hother.safe
    · rw [Function.update_of_ne hstream]
      exact hother.safe
  · intro other
    rw [hqueues, hmemory]
    exact hmiddle.safe other

/-- What is noted of the frames is kept by queueing as well. -/
lemma kept_of_enqueue {stream : ℕ} {frame : JobHandle} {op : StreamOp} {answer : CUresult}
    (h : Promises cmath frames owned goal tail g) (howns : Owns owned g.device.next)
    (hrespond : (gpu cmath frames).respond g (.enqueue stream frame op) answer g') :
    Kept owned (fun _ => False) g.memory g'.memory := by
  rcases queued_of_respond howns hrespond with ⟨middle, hmoved, hmemory, -⟩
  rw [hmemory]
  exact (hmoved.kept h.safe).weaken fun _ hfalse => hfalse.elim

end Calls

end Cuda

end Imgjit
