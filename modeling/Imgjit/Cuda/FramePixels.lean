import Imgjit.Cuda.Gpu
import Imgjit.Net.ServerPixels

/-!
# The work of one frame

What a backend queues for a frame, as a list of operations, and where it leads: whatever the other
streams and the readers do meanwhile, the staging buffer ends up with the oracle's picture of bytes
that were in the frame's slot.

The operations are a copy to the device, a kernel for every stage of the plan, each with its two
buffers swapped, a copy back, and the records of the events.  They are done one after the other, but
not without interruption: between two of them another stream may do its work, and a reader may write
to a slot.  What makes the work of a frame predictable all the same is that it reads and writes
nothing that others write, its own slot apart, and that the slot is read once, in one piece.

**The operations.**  `frameOps` is the list, `kernelOps` the part of it that has the kernels.

**Buffers.**  `Carries` says that a buffer holds the picture of some of the ops.  `Roomy` and
`Result` are the room a frame needs and what it is to leave.

**Where it leads.**  `kernels_lead` is about the stages, by induction on the plan; it is the
library's rule for a list of operations applied to one kernel after the other.  `frame_leads` is
about all of the work, from whatever was in the buffers before.
-/

namespace Imgjit

namespace Cuda

open RelyGuarantee

/-! ## The operations -/

/-- The stage loop. -/
def kernelOps : List KernelLaunch → (source destination : ℕ) → List StreamOp
  | [], _, _ => []
  | launch :: rest, source, destination =>
      .cuLaunchKernel launch source destination :: kernelOps rest destination source

/-- The buffer the last stage wrote. -/
def lastWritten : List KernelLaunch → (source destination : ℕ) → ℕ
  | [], source, _ => source
  | _ :: rest, source, destination => lastWritten rest destination source

/-- What `launch` queues, front to back. -/
def frameOps (slot : StreamSlot) (input : ℕ) (bytes : UInt64) (launches : List KernelLaunch) :
    List StreamOp :=
  .cuMemcpyHtoDAsync slot.front input bytes :: .cuEventRecord slot.kernelsBegin
    :: (kernelOps launches slot.front slot.back
      ++ [.cuEventRecord slot.kernelsEnd,
        .cuMemcpyDtoHAsync slot.staging (lastWritten launches slot.front slot.back) bytes,
        .cuEventRecord slot.done])

lemma lastWritten_mem (launches : List KernelLaunch) (source destination : ℕ) :
    lastWritten launches source destination = source
      ∨ lastWritten launches source destination = destination := by
  induction launches generalizing source destination with
  | nil => exact .inl rfl
  | cons launch rest ih => exact (ih destination source).symm

/-! ## What is in the buffers -/

section Pixels

variable (cmath : CMath) (frames : JobHandle → FrameJob)

/-- The buffer holds a picture of the frame's shape, and unless something has failed it is that of
these ops, applied to what was in the slot. -/
def Carries (frame : JobHandle) (ops : List Op) (buffer : ℕ) (m : Memory) : Prop :=
  ∃ image, FrameOf (frames frame) image ∧ Holds (m.buffers buffer) image
    ∧ (m.lost = true ∨ ∃ bytes ∈ m.seenBy frame, ∃ start,
      Image.fromBytes (frames frame).width (frames frame).height (frames frame).channels bytes
        (frames frame).stride = .ok start ∧ image = Cpu.applyOps cmath start ops)

/-- The buffers of the stream are large enough for the frame. -/
def Roomy (owned : ℕ → ℕ → Prop) (stream : ℕ) (frame : JobHandle) (m : Memory) : Prop :=
  ∀ image, FrameOf (frames frame) image → ∀ buffer, owned stream buffer →
    image.byteCount ≤ (m.buffers buffer).length

/-- The result of a frame, in its staging buffer. -/
def Result (frame : JobHandle) (staging : ℕ) (m : Memory) : Prop :=
  m.lost = true ∨ ∃ bytes ∈ m.seenBy frame, ∃ picture,
    (frames frame).picture (Cpu.applyChain cmath) bytes = some picture
      ∧ FrameOf (frames frame) picture ∧ Holds (m.buffers staging) picture

end Pixels

/-- Any buffer that is long enough holds some picture. -/
lemma exists_holds {job : FrameJob} {image : Image} (hframe : FrameOf job image) {buffer : List UInt8}
    (hlength : image.byteCount ≤ buffer.length) :
    ∃ image', FrameOf job image' ∧ image'.byteCount = image.byteCount ∧ Holds buffer image' := by
  have hsize : (buffer.take image.byteCount).length = image.byteCount := by
    rw [List.length_take, Nat.min_eq_left hlength]
  refine ⟨{ image with
    pixels := buffer.take image.byteCount, packed := ?_ }, ⟨hframe.width, hframe.height,
      hframe.channels⟩, hsize, ?_⟩
  · rw [hsize, Image.byteCount, image.packed]
  · show buffer.take (buffer.take image.byteCount).length = buffer.take image.byteCount
    rw [hsize]

/-- The bytes of a frame. -/
lemma byteCount_of_frame {job : FrameJob} {image : Image} (h : FrameOf job image) :
    image.byteCount = (sizeT job.width * sizeT job.channels * sizeT job.height).toNat := by
  have hshaped := h.shaped
  rw [Image.byteCount_no_wrap hshaped.1 hshaped.2.1 hshaped.2.2, Image.byteCount_eq, Image.stride,
    h.width, h.height, h.channels]
  rfl

section Frame

variable {cmath : CMath} {frames : JobHandle → FrameJob} {owned : ℕ → ℕ → Prop} {stream : ℕ}
  {frame : JobHandle} {ops : List Op} {m m' : Memory} {buffer source destination staging : ℕ}

lemma Carries.kept (h : Carries cmath frames frame ops buffer m) {mine : ℕ → Prop}
    (hkept : Kept owned mine m m') (hmine : mine buffer) : Carries cmath frames frame ops buffer m' := by
  rcases h with ⟨image, hframe, hholds, hright⟩
  refine ⟨image, hframe, ?_, ?_⟩
  · rw [hkept.same buffer hmine]
    exact hholds
  · rcases hright with hlost | ⟨bytes, hbytes, hstart⟩
    · exact .inl (hkept.lost hlost)
    · exact .inr ⟨bytes, hkept.seenBy hbytes, hstart⟩

lemma Result.kept (h : Result cmath frames frame staging m) {mine : ℕ → Prop}
    (hkept : Kept owned mine m m') (hmine : mine staging) :
    Result cmath frames frame staging m' := by
  rcases h with hlost | ⟨bytes, hbytes, picture, hpicture, hframe, hholds⟩
  · exact .inl (hkept.lost hlost)
  · refine .inr ⟨bytes, hkept.seenBy hbytes, picture, hpicture, hframe, ?_⟩
    rw [hkept.same staging hmine]
    exact hholds

/-- What an operation that fails has written is of the right length, and nothing is said of it. -/
lemma carries_of_aborts {item : QueuedOp} (h : Aborts item m m') (htarget : item.op.target = some buffer)
    (howned : owned stream buffer) {image : Image} (hframe : FrameOf (frames frame) image)
    (hlength : image.byteCount ≤ (m.buffers buffer).length) :
    guarantee owned stream m m' ∧ Carries cmath frames frame ops buffer m' := by
  rw [Aborts, htarget] at h
  rcases h with ⟨contents, hcontents, rfl⟩
  refine ⟨(guarantee_write howned hcontents).lose, ?_⟩
  obtain ⟨image', hframe', -, hholds⟩ := exists_holds hframe (hcontents ▸ hlength)
  exact ⟨image', hframe', by simpa using hholds, .inl rfl⟩

/-- The launch that the driver is asked for is the launch of the stage. -/
lemma kernelLaunch_over {pair : StageCode × GeneratedStage} {args : List KernelArg}
    {job : FrameJob} {front back : List UInt8}
    (hargs : stageArguments cmath job.chain pair.2 = some args) :
    (kernelLaunch cmath job pair.1 pair.2).over cmath job front back
      = some (stageLaunch cmath job pair.2 front back args) := by
  simp [KernelLaunch.over, kernelLaunch, stageLaunch, hargs]

section Kernel

variable {stage : Stage} {pair : StageCode × GeneratedStage}

/-- **A stage may run** on whatever its source buffer carries. -/
lemma kernel_ready
    (hserves : StageServes cmath (frames frame).chain (frames frame).channels.toInt.toNat stage pair)
    (hne : source ≠ destination) (h : Carries cmath frames frame ops source m)
    (hroom : ∀ image, FrameOf (frames frame) image →
      image.byteCount ≤ (m.buffers destination).length) :
    Ready cmath frames ⟨frame, .cuLaunchKernel (kernelLaunch cmath (frames frame) pair.1 pair.2)
      source destination⟩ m := by
  rcases h with ⟨image, hframe, hholds, -⟩
  have hchannels : image.channels = (frames frame).channels.toInt.toNat := by
    rw [hframe.channels, Int.toNat_natCast]
  rw [← hchannels] at hserves
  obtain ⟨args, -, hargs, -⟩ := hserves.launch hframe hholds (hroom image hframe) Schedule.inOrder
  refine ⟨hne, _, kernelLaunch_over hargs, fun schedule => ?_⟩
  obtain ⟨args', run, hargs', hrun, hrun32, -⟩ :=
    hserves.launch hframe hholds (hroom image hframe) schedule
  obtain rfl : args = args' := Option.some.inj (hargs.symm.trans hargs')
  exact ⟨run, hrun, fun haddressable => hrun32 (haddressable image hframe)⟩

/-- **A stage leaves its picture** in the buffer it writes. -/
lemma kernel_finishes
    (hserves : StageServes cmath (frames frame).chain (frames frame).channels.toInt.toNat stage pair)
    (hcarries : Carries cmath frames frame ops source m) (howned : owned stream destination)
    (hroom : ∀ image, FrameOf (frames frame) image →
      image.byteCount ≤ (m.buffers destination).length)
    (h : Finishes cmath frames ⟨frame, .cuLaunchKernel
      (kernelLaunch cmath (frames frame) pair.1 pair.2) source destination⟩ m m') :
    guarantee owned stream m m' ∧ Carries cmath frames frame (ops ++ stage.ops) destination m' := by
  rcases hcarries with ⟨image, hframe, hholds, hright⟩
  rcases h with ⟨call, schedule, run, hcall, hrun, rfl⟩
  have hchannels : image.channels = (frames frame).channels.toInt.toNat := by
    rw [hframe.channels, Int.toNat_natCast]
  rw [← hchannels] at hserves
  obtain ⟨args, run', hargs, hrun', -, hresult, hlength, -⟩ :=
    hserves.launch hframe hholds (hroom image hframe) schedule
  obtain rfl : stageLaunch cmath (frames frame) pair.2 (m.buffers source)
      (m.buffers destination) args = call := by
    rw [kernelLaunch_over hargs] at hcall
    exact Option.some.inj hcall
  obtain rfl : run' = run := Option.some.inj (hrun'.symm.trans hrun)
  refine ⟨guarantee_write howned hlength, _, hframe.applyOps cmath stage.ops, ?_, ?_⟩
  · rw [Memory.write_self]
    exact hresult
  · rcases hright with hlost | ⟨bytes, hbytes, start, hstart, rfl⟩
    · exact .inl hlost
    · exact .inr ⟨bytes, hbytes, start, hstart, (Cpu.applyOps_append ..).symm⟩

end Kernel

/-! ## One operation after the other -/

lemma Roomy.kept (h : Roomy frames owned stream frame m) {mine : ℕ → Prop}
    (hkept : Kept owned mine m m') : Roomy frames owned stream frame m' := by
  intro image hframe buffer howned
  rw [hkept.lengths stream buffer howned]
  exact h image hframe buffer howned

/-- An event changes nothing, and at worst it fails. -/
lemma record_leads {event : ℕ} {goal P : Memory → Prop} {rest : List QueuedOp}
    (hstable : ∀ m m', P m → rely owned stream m m' → P m')
    (hlost : ∀ m, P m → P { m with lost := true })
    (hrest : ∀ m, P m → (machine cmath frames).Leads (rely owned stream) (guarantee owned stream)
      goal rest m) (hm : P m) :
    (machine cmath frames).Leads (rely owned stream) (guarantee owned stream) goal
      (⟨frame, .cuEventRecord event⟩ :: rest) m := by
  refine .cons (fun m' hm' => hstable m m' hm hm') (fun _ _ => trivial) ?_
  rintro m₁ m₂ h₁ (hfinishes | haborts)
  · obtain rfl : m₂ = m₁ := hfinishes
    exact ⟨Kept.refl m₂, hrest m₂ h₁⟩
  · obtain rfl : m₂ = { m₁ with lost := true } := haborts
    exact ⟨(Kept.refl m₁).lose, hrest _ (hlost m₁ h₁)⟩

lemma Carries.lose (h : Carries cmath frames frame ops buffer m) :
    Carries cmath frames frame ops buffer { m with lost := true } := by
  rcases h with ⟨image, hframe, hholds, -⟩
  exact ⟨image, hframe, hholds, .inl rfl⟩

/-- **The stages**, from whichever buffer carries the picture so far. -/
theorem kernels_lead {stages : List Stage} {pairs : List (StageCode × GeneratedStage)}
    (hserves : List.Forall₂
      (StageServes cmath (frames frame).chain (frames frame).channels.toInt.toNat) stages pairs)
    {goal : Memory → Prop} {rest : List QueuedOp} (hne : source ≠ destination)
    (hsource : owned stream source) (hdestination : owned stream destination)
    (hrest : ∀ m, Roomy frames owned stream frame m →
      Carries cmath frames frame (ops ++ stages.flatMap Stage.ops) (lastWritten
        (pairs.map fun pair => kernelLaunch cmath (frames frame) pair.1 pair.2) source destination) m →
      (machine cmath frames).Leads (rely owned stream) (guarantee owned stream) goal rest m)
    (hroom : Roomy frames owned stream frame m)
    (hcarries : Carries cmath frames frame ops source m) :
    (machine cmath frames).Leads (rely owned stream) (guarantee owned stream) goal
      ((kernelOps (pairs.map fun pair => kernelLaunch cmath (frames frame) pair.1 pair.2) source
        destination).map (QueuedOp.mk frame) ++ rest) m := by
  induction hserves generalizing source destination ops m with
  | nil =>
      refine hrest m hroom ?_
      rwa [List.flatMap_nil, List.append_nil]
  | @cons stage pair stages pairs hstage _ ih =>
      refine Machine.Leads.cons
        (P := fun m => Roomy frames owned stream frame m ∧ Carries cmath frames frame ops source m)
        (fun m' hm' => ⟨hroom.kept hm', hcarries.kept hm' hsource⟩) ?_ ?_
      · rintro m₁ ⟨hroom₁, hcarries₁⟩
        exact kernel_ready hstage hne hcarries₁ fun image hframe =>
          hroom₁ image hframe destination hdestination
      · rintro m₁ m₂ ⟨hroom₁, hcarries₁⟩ heffect
        have hlength : ∀ image, FrameOf (frames frame) image →
            image.byteCount ≤ (m₁.buffers destination).length :=
          fun image hframe => hroom₁ image hframe destination hdestination
        have hleft : guarantee owned stream m₁ m₂
            ∧ Carries cmath frames frame (ops ++ stage.ops) destination m₂ := by
          rcases heffect with hfinishes | haborts
          · exact kernel_finishes hstage hcarries₁ hdestination hlength hfinishes
          · rcases hcarries₁ with ⟨image, hframe, -⟩
            exact carries_of_aborts haborts rfl hdestination hframe (hlength image hframe)
        -- The next stage reads what this one wrote, and writes what this one read.
        refine ⟨hleft.1, ih hne.symm hdestination hsource ?_ (hroom₁.kept hleft.1) hleft.2⟩
        intro m₃ hroom₃ hcarries₃
        refine hrest m₃ hroom₃ ?_
        rwa [List.flatMap_cons, ← List.append_assoc]

/-- What the copy out of the slot leaves. -/
lemma copied_carries {input : ℕ} {bytes : UInt64}
    (hshaped : Image.Shaped (frames frame).width (frames frame).height (frames frame).channels)
    (hstride : (frames frame).stride = sizeT (frames frame).width * sizeT (frames frame).channels)
    (hbytes : bytes = sizeT (frames frame).width * sizeT (frames frame).channels
      * sizeT (frames frame).height)
    (howned : owned stream buffer) (hslot : bytes.toNat ≤ (m.slots input).length)
    (hroom : Roomy frames owned stream frame m)
    (h : Finishes cmath frames ⟨frame, .cuMemcpyHtoDAsync buffer input bytes⟩ m m') :
    guarantee owned stream m m' ∧ Carries cmath frames frame [] buffer m' := by
  obtain rfl : m' = _ := h
  obtain ⟨zeroed, hzeroed⟩ : ∃ image, FrameOf (frames frame) image :=
    ⟨_, (Image.construct_hasShape (dif_pos hshaped)).2⟩
  have hsize := byteCount_of_frame hzeroed
  rw [← hbytes] at hsize
  obtain ⟨start, hstart, hcount, hholds⟩ := exists_holds hzeroed (hsize ▸ hslot)
  have htake : ((m.slots input).take bytes.toNat).length = bytes.toNat := by
    rw [List.length_take, Nat.min_eq_left hslot]
  have hlong : ((m.slots input).take bytes.toNat).length ≤ (m.buffers buffer).length := by
    rw [htake, ← hsize]
    exact hroom zeroed hzeroed buffer howned
  refine ⟨(guarantee_write howned (length_overwrite hlong)).note _, start, hstart, ?_, .inr
    ⟨m.slots input, by simp [Memory.seenBy], start, ?_, rfl⟩⟩
  · have hcopy := take_overwrite ((m.slots input).take bytes.toNat) (m.buffers buffer)
    rw [Holds, hcount, hsize] at hholds ⊢
    rw [htake, hholds] at hcopy
    rw [Memory.write_self, hholds]
    exact hcopy
  · rw [hstride]
    exact Image.fromBytes_pixels hstart hholds

/-- What the copy into the staging buffer leaves. -/
lemma staged_result {bytes : UInt64}
    (hbytes : bytes = sizeT (frames frame).width * sizeT (frames frame).channels
      * sizeT (frames frame).height)
    (howned : owned stream staging) (hroom : Roomy frames owned stream frame m)
    (hcarries : Carries cmath frames frame (frames frame).chain.ops source m)
    (h : Finishes cmath frames ⟨frame, .cuMemcpyDtoHAsync staging source bytes⟩ m m') :
    guarantee owned stream m m' ∧ Result cmath frames frame staging m' := by
  obtain rfl : m' = _ := h
  rcases hcarries with ⟨image, hframe, hholds, hright⟩
  have hsize := byteCount_of_frame hframe
  rw [← hbytes] at hsize
  have htake : (m.buffers source).take bytes.toNat = image.pixels := by
    rw [← hsize]
    exact hholds
  have hlong : image.pixels.length ≤ (m.buffers staging).length :=
    hroom image hframe staging howned
  refine ⟨guarantee_write howned (by rw [htake]; exact length_overwrite hlong), ?_⟩
  rcases hright with hlost | ⟨slot, hslot, start, hstart, rfl⟩
  · exact .inl hlost
  · refine .inr ⟨slot, hslot, _, ?_, hframe, ?_⟩
    · simp only [FrameJob.picture, hstart, Cpu.applyChain]
    · rw [Memory.write_self, htake]
      exact take_overwrite _ _

/-! ## The whole frame -/

variable (cmath frames) in
/-- A frame that `launch` has accepted, with a slot of the right size. -/
structure Launchable (frame : JobHandle) (bytes : UInt64)
    (pairs : List (StageCode × GeneratedStage)) : Prop where
  shaped : Image.Shaped (frames frame).width (frames frame).height (frames frame).channels
  stride : (frames frame).stride = sizeT (frames frame).width * sizeT (frames frame).channels
  bytes : bytes = sizeT (frames frame).width * sizeT (frames frame).channels
    * sizeT (frames frame).height
  serves : List.Forall₂
    (StageServes cmath (frames frame).chain (frames frame).channels.toInt.toNat)
    (planStages (frames frame).chain) pairs

/-- **What is queued for a frame leads to its result**, whatever is in the buffers before, and
whatever the other streams and the readers do in between. -/
theorem frame_leads {slot : StreamSlot} {input : ℕ} {bytes : UInt64}
    {pairs : List (StageCode × GeneratedStage)} (hlaunch : Launchable cmath frames frame bytes pairs)
    (hne : slot.front ≠ slot.back) (hfront : owned stream slot.front)
    (hback : owned stream slot.back) (hstaging : owned stream slot.staging)
    (hslot : bytes.toNat ≤ (m.slots input).length) (hroom : Roomy frames owned stream frame m) :
    (machine cmath frames).Leads (rely owned stream) (guarantee owned stream)
      (Result cmath frames frame slot.staging)
      ((frameOps slot input bytes (pairs.map fun pair =>
        kernelLaunch cmath (frames frame) pair.1 pair.2)).map (QueuedOp.mk frame)) m := by
  obtain ⟨zeroed, hzeroed⟩ : ∃ image, FrameOf (frames frame) image :=
    ⟨_, (Image.construct_hasShape (dif_pos hlaunch.shaped)).2⟩
  have hsize := byteCount_of_frame hzeroed
  rw [← hlaunch.bytes] at hsize
  have hops : (planStages (frames frame).chain).flatMap Stage.ops = (frames frame).chain.ops := by
    rw [planStages_ops]
  set launches := pairs.map fun pair => kernelLaunch cmath (frames frame) pair.1 pair.2
  set last := lastWritten launches slot.front slot.back with hlast
  have hlastOwned : owned stream last := by
    rcases lastWritten_mem launches slot.front slot.back with h | h
    · rwa [hlast, h]
    · rwa [hlast, h]
  -- The copy out, and the event behind it.
  have hdone : ∀ m, Result cmath frames frame slot.staging m →
      (machine cmath frames).Leads (rely owned stream) (guarantee owned stream)
        (Result cmath frames frame slot.staging) [⟨frame, .cuEventRecord slot.done⟩] m := by
    intro m hm
    refine record_leads (P := Result cmath frames frame slot.staging) ?_ ?_ ?_ hm
    · exact fun m m' h hm' => h.kept hm' hstaging
    · exact fun m _ => .inl rfl
    · exact fun m h m' hm' => h.kept hm' hstaging
  have hcopyOut : ∀ m, Roomy frames owned stream frame m ∧
      Carries cmath frames frame (frames frame).chain.ops last m →
      (machine cmath frames).Leads (rely owned stream) (guarantee owned stream)
        (Result cmath frames frame slot.staging)
        [⟨frame, .cuMemcpyDtoHAsync slot.staging last bytes⟩, ⟨frame, .cuEventRecord slot.done⟩]
        m := by
    rintro m ⟨hroom₁, hcarries₁⟩
    refine Machine.Leads.cons (P := fun m => Roomy frames owned stream frame m ∧
      Carries cmath frames frame (frames frame).chain.ops last m)
      (fun m' hm' => ⟨hroom₁.kept hm', hcarries₁.kept hm' hlastOwned⟩) ?_ ?_
    · rintro m₁ ⟨h₁, -⟩
      have hlong := h₁ zeroed hzeroed
      rw [hsize] at hlong
      exact ⟨hlong last hlastOwned, hlong slot.staging hstaging⟩
    · rintro m₁ m₂ ⟨h₁, hcarries₂⟩ (hfinishes | ⟨contents, hcontents, rfl⟩)
      · rcases staged_result hlaunch.bytes hstaging h₁ hcarries₂ hfinishes with ⟨hle, hresult⟩
        exact ⟨hle, hdone m₂ hresult⟩
      · exact ⟨(guarantee_write hstaging hcontents).lose, hdone _ (.inl rfl)⟩
  -- The stages, and the events around them.
  have hkernels : ∀ m, Roomy frames owned stream frame m ∧
      Carries cmath frames frame [] slot.front m →
      (machine cmath frames).Leads (rely owned stream) (guarantee owned stream)
        (Result cmath frames frame slot.staging)
        ((kernelOps launches slot.front slot.back).map (QueuedOp.mk frame)
          ++ [⟨frame, .cuEventRecord slot.kernelsEnd⟩,
            ⟨frame, .cuMemcpyDtoHAsync slot.staging last bytes⟩,
            ⟨frame, .cuEventRecord slot.done⟩]) m := by
    rintro m ⟨hroom₁, hcarries₁⟩
    refine kernels_lead hlaunch.serves hne hfront hback ?_ hroom₁ hcarries₁
    intro m₂ hroom₂ hcarries₂
    rw [List.nil_append, hops] at hcarries₂
    refine record_leads (P := fun m => Roomy frames owned stream frame m ∧
      Carries cmath frames frame (frames frame).chain.ops last m) ?_ ?_ hcopyOut
      ⟨hroom₂, hcarries₂⟩
    · exact fun m m' h hm' => ⟨h.1.kept hm', h.2.kept hm' hlastOwned⟩
    · exact fun m h => ⟨h.1, h.2.lose⟩
  -- The copy in.
  rw [frameOps, List.map_cons, List.map_cons, List.map_append]
  refine Machine.Leads.cons (P := fun m => Roomy frames owned stream frame m
    ∧ bytes.toNat ≤ (m.slots input).length)
    (fun m' hm' => ⟨hroom.kept hm', (hm'.slots input).symm ▸ hslot⟩) ?_ ?_
  · rintro m₁ ⟨h₁, hslot₁⟩
    have hlong := h₁ zeroed hzeroed slot.front hfront
    rw [hsize] at hlong
    exact ⟨hslot₁, hlong⟩
  · rintro m₁ m₂ ⟨h₁, hslot₁⟩ heffect
    have hlong := h₁ zeroed hzeroed slot.front hfront
    have hleft : guarantee owned stream m₁ m₂ ∧ Carries cmath frames frame [] slot.front m₂ := by
      rcases heffect with hfinishes | haborts
      · exact copied_carries hlaunch.shaped hlaunch.stride hlaunch.bytes hfront hslot₁ h₁ hfinishes
      · exact carries_of_aborts haborts rfl hfront hzeroed hlong
    refine ⟨hleft.1, record_leads (P := fun m => Roomy frames owned stream frame m ∧
      Carries cmath frames frame [] slot.front m) ?_ ?_ hkernels ⟨h₁.kept hleft.1, hleft.2⟩⟩
    · exact fun m m' h hm' => ⟨h.1.kept hm', h.2.kept hm' hfront⟩
    · exact fun m h => ⟨h.1, h.2.lose⟩

end Frame

end Cuda

end Imgjit
