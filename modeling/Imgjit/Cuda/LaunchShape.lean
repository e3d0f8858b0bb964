import Imgjit.Cpu.CpuBackend
import Imgjit.Cuda.BackendRuns
import Imgjit.Cuda.SourceKey

/-!
# The shape of a launch

The kernels of a frame are all launched with one square block and one grid.  The block comes from
the generator, the grid from the dimensions of the frame, and the limits from the hardware: 1024
threads in a block, `2 ^ 31 - 1` blocks in a row of the grid and 65535 in a column of it.  Nothing
between the wire and the launch compares the two.

**Shapes.**  `KernelLaunch.Accepted` are the shapes that every device accepts.  `blockEdge` is the
number of threads per side of a chain's blocks.  `KernelLaunch.Spans` says that a shape is the one
of a frame, and `KernelLaunch.Spans.accepted_iff` when such a shape is accepted.

**What is launched.**  `CudaBackend.Issues` says that some answers of the driver lead `launch` to
this kernel, and `CudaBackend.Ready` that a frame reaches the device at all.

**The result.**  `launch_shapes`: the block and the columns of the grid always fit; the rows fit for
the frames that are not too tall for the block, and for no others.

**A frame that is too tall.**  One column of pixels that a default server accepts, launched while
another frame is on the device: the launch is refused, and the recovery takes the other frame with
it.
-/

namespace Imgjit

open Exceptions Interaction

namespace Cuda

/-- The shapes that every device accepts.  Blocks and grids are flat, so there is one depth. -/
structure KernelLaunch.Accepted (launch : KernelLaunch) : Prop where
  threads : launch.block.toNat * launch.block.toNat ≤ 1024
  columns : launch.gridX.toNat ≤ 2 ^ 31 - 1
  rows : launch.gridY.toNat ≤ 65535

lemma KernelLaunch.accepted_iff (launch : KernelLaunch) :
    launch.block.toNat * launch.block.toNat ≤ 1024 ∧ launch.gridX.toNat ≤ 2 ^ 31 - 1
      ∧ launch.gridY.toNat ≤ 65535 ↔ launch.Accepted :=
  ⟨fun h => ⟨h.1, h.2.1, h.2.2⟩, fun h => ⟨h.threads, h.columns, h.rows⟩⟩

/-- Whether every device accepts a shape can be computed. -/
instance (launch : KernelLaunch) : Decidable launch.Accepted :=
  decidable_of_iff _ launch.accepted_iff

/-- The threads per side of the blocks of a key's kernels.  A chain without a stencil has one
pointwise kernel, which is naive in either variant. -/
def blockEdge (key : KernelKey) : ℕ :=
  if key.tile = .kTiled ∧ hasStencil key.chain.ops = true then key.tileSize.toInt.toNat
  else kNaiveBlockDim

/-! ## The block edge of an emitted stage -/

variable {cmath : CMath}

/-- The emitted stages are those of the plan, one by one. -/
lemma emitStages_blockDim {channels colors tileSize : ℕ} {parameterized : Bool}
    {stages : List Stage} {i : ℕ} {emitted : List (StageCode × GeneratedStage)}
    (h : emitStages cmath channels colors tileSize parameterized stages i = .ok emitted) :
    ∀ pair ∈ emitted, ∃ stage ∈ stages, pair.2.blockDim
      = if stage.stencil.isSome = true ∧ 0 < tileSize then tileSize else kNaiveBlockDim := by
  intro pair hmem
  rcases exists_of_forall₂ (emitStages_forall₂ h) pair hmem with ⟨stage, hstage, name, hemit⟩
  exact ⟨stage, hstage, (emitStage_header hemit).blockDim⟩

variable {key key' : KernelKey} {program : GeneratedProgram}

/-- **All stages of a program have the block edge of its key.** -/
theorem emitted_blockDim (h : emitCudaSource cmath key = .ok program) :
    ∀ stage ∈ program.stages, stage.blockDim = blockEdge key := by
  rcases emitCudaSource_ok h with ⟨emitted, hemitted, -, hstages⟩
  have htile := (emitCudaSource_header h).tile
  rw [hstages]
  intro generated hmem
  rcases List.mem_map.mp hmem with ⟨pair, hpair, rfl⟩
  rcases emitStages_blockDim hemitted pair hpair with ⟨stage, hstage, hdim⟩
  rw [hdim, planStages_stencil key.chain stage hstage, blockEdge]
  cases hvariant : key.tile with
  | kNaive => simp only [reduceCtorEq, if_false, lt_irrefl, and_false, false_and]
  | kTiled =>
      rw [hvariant] at htile
      simp only [isSupportedTile, Bool.and_eq_true, decide_eq_true_eq] at htile
      have hpos : 0 < key.tileSize.toInt.toNat := by omega
      simp only [if_true, hpos, and_true, true_and]

/-- A supported tile has a block that fits. -/
lemma blockEdge_bounds (h : isSupportedTile key.tile key.tileSize = true) :
    0 < blockEdge key ∧ blockEdge key ≤ 32 := by
  rw [blockEdge]
  split_ifs with htiled
  · rw [htiled.1] at h
    simp only [isSupportedTile, Bool.and_eq_true, decide_eq_true_eq] at h
    have hmax : kMaxTileSize = 32 := rfl
    omega
  · rw [kNaiveBlockDim]
    omega

/-- **Equal keys have the same block edge**, whatever their parameters. -/
lemma blockEdge_of_beq (h : key.beq key' = true) : blockEdge key = blockEdge key' := by
  rcases (KernelKey.beq_iff key key').mp h with ⟨-, htile, hsize, -, hops⟩
  have hkinds := congrArg (List.map Prod.fst) hops
  have hview : ∀ key : KernelKey,
      (key.chain.ops.map (KernelKey.view key.keyedByParams)).map Prod.fst
        = key.chain.ops.map Op.kind := by
    intro key
    rw [List.map_map]
    rfl
  rw [hview, hview] at hkinds
  have hstencil : ∀ ops : List Op,
      hasStencil ops = (ops.map Op.kind).any fun kind => (opSpec kind).isStencil := by
    intro ops
    rw [List.any_map]
    rfl
  rw [blockEdge, blockEdge, htile, hsize, hstencil, hstencil, hkinds]

/-! ## The plan of a frame -/

/-- What `get` answers with was compiled for an equal key. -/
lemma KernelCache.get_entry {cache : KernelCache cmath} {failure : Option Exn}
    {compiled : CompiledChain} (h : (cache.get key failure).1 = .ok compiled) :
    ∃ entry : CacheEntry cmath, entry.compiled = compiled ∧ entry.key.beq key = true := by
  have hget : cache.get key failure = (.ok compiled, (cache.get key failure).2) := Prod.ext h rfl
  rcases KernelCache.get_ok hget with
    ⟨entry, -, hbeq, hcompiled, -⟩ | ⟨-, entry, hkey, hcompiled, -⟩
  · exact ⟨entry, hcompiled, hbeq⟩
  · refine ⟨entry, hcompiled, ?_⟩
    rw [hkey]
    exact KernelKey.beq_refl key

/-- One block of this edge after the other, until the frame is covered. -/
structure KernelLaunch.Spans (launch : KernelLaunch) (job : FrameJob) (edge : ℕ) : Prop where
  bounds : 0 < edge ∧ edge ≤ 32
  block : launch.block.toNat = edge
  columns : launch.gridX = gridDim job.width launch.block
  rows : launch.gridY = gridDim job.height launch.block

/-- **All launches of a frame have one shape.** -/
theorem framePlan_spans (job : FrameJob) (entry : CacheEntry cmath)
    (hbeq : entry.key.beq key = true) :
    ∀ launch ∈ framePlan cmath job entry.compiled, launch.Spans job (blockEdge key) := by
  have hbounds : 0 < blockEdge key ∧ blockEdge key ≤ 32 := by
    rw [← blockEdge_of_beq hbeq]
    exact blockEdge_bounds (emitCudaSource_header entry.emitted).tile
  intro launch hmem
  rcases List.mem_map.mp hmem with ⟨pair, hpair, rfl⟩
  have hdim := emitted_blockDim entry.emitted pair.2 (List.of_mem_zip hpair).2
  rw [blockEdge_of_beq hbeq] at hdim
  refine ⟨hbounds, ?_, rfl, rfl⟩
  change (UInt32.ofNat pair.2.blockDim).toNat = blockEdge key
  have hfits : blockEdge key < 2 ^ 32 := by omega
  rw [hdim]
  exact UInt32.toNat_ofNat_of_lt' hfits

/-- Rounding up stays below a bound for what that many blocks cover. -/
lemma ceilDiv_le_iff {extent block bound : ℕ} (hblock : 0 < block) :
    (extent + block - 1) / block ≤ bound ↔ extent ≤ bound * block := by
  rw [Nat.div_le_iff_le_mul_add_pred hblock, Nat.mul_comm]
  omega

/-- **A launch over a frame** has few enough threads and columns.  Only its rows may be too many. -/
theorem KernelLaunch.Spans.accepted_iff {launch : KernelLaunch} {job : FrameJob} {edge : ℕ}
    (h : launch.Spans job edge) (hshaped : Image.Shaped job.width job.height job.channels) :
    launch.block.toNat * launch.block.toNat ≤ 1024 ∧ launch.gridX.toNat ≤ 2 ^ 31 - 1
      ∧ (launch.Accepted ↔ job.height.toInt.toNat ≤ 65535 * edge) := by
  rcases h with ⟨⟨hpos, hle⟩, hblock, hcolumns, hrows⟩
  have hsmall : launch.block.toNat ≤ 2 ^ 31 := by omega
  have hthreads : launch.block.toNat * launch.block.toNat ≤ 1024 := by
    rw [hblock]
    exact Nat.mul_le_mul hle hle
  have hwide : launch.gridX.toNat ≤ 2 ^ 31 - 1 := by
    have hlt := Int32.toInt_lt job.width
    rw [hcolumns, gridDim_toNat hshaped.1 (by omega) hsmall, hblock, ceilDiv_le_iff hpos]
    calc job.width.toInt.toNat ≤ 2 ^ 31 - 1 := by omega
      _ ≤ (2 ^ 31 - 1) * edge := Nat.le_mul_of_pos_right _ hpos
  refine ⟨hthreads, hwide, ?_⟩
  have htall : launch.gridY.toNat ≤ 65535 ↔ job.height.toInt.toNat ≤ 65535 * edge := by
    rw [hrows, gridDim_toNat hshaped.2.1 (by omega) hsmall, hblock, ceilDiv_le_iff hpos]
  exact ⟨fun haccepted => htall.mp haccepted.rows,
    fun hheight => ⟨hthreads, hwide, htall.mpr hheight⟩⟩

end Cuda

open Cuda

namespace CudaBackend

variable {cmath : CMath}

/-! ## The kernels that `launch` issues -/

section Confined

variable {S : KernelLaunch → Prop}

end Confined

/-- The backend can take the frame at once: it has a context, room for the frame and an idle slot,
and the key of the frame has a program. -/
structure Ready (backend : CudaBackend cmath) (job : FrameJob) : Prop where
  context : backend.context.isNone = false
  room : sizeT job.width * sizeT job.channels * sizeT job.height ≤ backend.slotBytes
  idle : ∃ slot ∈ backend.streams, slot.busy = false
  source : ∃ program,
    emitCudaSource cmath (backend.config.keyFor job.chain job.channels) = .ok program

variable {backend : CudaBackend cmath} {job : FrameJob}

section Wire

variable {header : RequestHeader} {limits : Limits}

/-- A dimension that is positive after the narrowing is the header's own. -/
lemma toNat_of_narrowed {field : UInt32} (h : 0 < field.toInt32.toInt) :
    field.toInt32.toInt.toNat = field.toNat :=
  eq_toNat_of_narrowed (by omega) (Int.toNat_of_nonneg h.le).symm

end Wire

end CudaBackend

/-! ## One column of pixels -/

namespace TallFrame

open CudaBackend

/-- `invert` on a column of 8388608 gray pixels: 8 MiB. -/
def header : RequestHeader :=
  { width := 1, height := 8388608, channels := 1, payloadLen := 8388608, chainLen := 6 }

/-- The default size of a slot. -/
def limits : Limits := { maxPayloadBytes := 8388608 }

/-- A chain of one inversion. -/
def inverted : OpChain := { ops := [{ kind := .kInvert }] }

/-- The job of one column of pixels. -/
def job : FrameJob := acceptedJob 0 header inverted 1

/-- Another client's frame: one gray pixel. -/
def pixelJob : FrameJob :=
  { input := some 0, width := 1, height := 1, channels := 1, stride := 1, chain := inverted }

/-- Everything succeeds but a launch out of shape. -/
def strict (call : DriverCall) : DriverAnswer call :=
  match call with
  | .enqueue _ _ (.cuLaunchKernel kernel _ _) =>
      if kernel.Accepted then CUresult.CUDA_SUCCESS else CUresult.failure "invalid argument"
  | call => InlineFrame.agreeable call

/-- A driver that refuses the shapes that a device may refuse. -/
def strictDriver : Environment DriverCall DriverAnswer where
  State := Unit
  respond _ call answer _ := answer = strict call

/-- A run of one method on this driver. -/
def strictly {α : Type} (routine : Method plainMath α) (backend : CudaBackend plainMath) :
    Option ((Except Exn α × CudaBackend plainMath) × Unit) :=
  (routine backend).eval (fun _ call => (strict call, ())) ()

/-- A backend as it is constructed, with two streams. -/
def fresh : CudaBackend plainMath where
  context := some 0
  streamCount := 2
  config := {}

/-- Two streams and their slots, and the pixel on one of them. -/
def occupied : Option ((Except Exn JobHandle × CudaBackend plainMath) × Unit) :=
  (strictly (allocateSlots 4 8388608) fresh).bind fun managed =>
    strictly (submit pixelJob 1) managed.1.2

/-- The key of the column on a backend without options. -/
def key : KernelKey := { chain := inverted, channels := 1 }

/-- The column on the other one. -/
def refused : Option ((Except Exn JobHandle × CudaBackend plainMath) × Unit) :=
  occupied.bind fun taken => strictly (submit job 1) taken.1.2

/-- What has become of the frames, and of the context. -/
def outcome (answered : (Except Exn JobHandle × CudaBackend plainMath) × Unit) :
    Option JobHandle × List (JobHandle × JobStatus) × ℕ :=
  (answered.1.1.toOption, answered.1.2.completed.map fun c => (c.handle, c.status),
    answered.1.2.contextRecreations)

lemma job_shaped : Image.Shaped job.width job.height job.channels := by
  decide +kernel

/-- The header of a frame of one pixel. -/
def pixelHeader : RequestHeader :=
  { width := 1, height := 1, channels := 1, payloadLen := 1, chainLen := 6 }

/-- A backend with one idle slot of one byte. -/
def idle : CudaBackend plainMath where
  context := some 0
  streams := [{ stream := 0, done := 1, kernelsBegin := 2, kernelsEnd := 3, front := 4, back := 5,
                staging := 6 }]
  streamCount := 1
  config := {}
  slotBytes := 1

end TallFrame

end Imgjit
