import Imgjit.Cuda.Indexable
import Imgjit.Cuda.IntLaunch
import Imgjit.Cuda.LaunchShape
import Imgjit.Cuda.TouchedInts

/-!
# Frames whose kernels overflow

A frame that is not `Indexable` has a thread whose `int` values leave their range.  Validation forms
`width * height * channels` in 64 bits and compares it with the payload length, so what protects the
kernels from such frames is the server's payload limit alone, and a server may be started with any.

**Threads.**  `LaunchedThread` is a thread that stands for a pixel of a frame, in any kernel that is
launched for it.  `LaunchedThread.within` says that in an indexable frame all its accesses are in
range.

**The other direction.**  For each of the three bounds there is a chain and a configuration under
which a thread goes out of range: `samples_overflow` is the last sample of the frame, in any kernel,
and `columns_overflow` and `rows_overflow` are cells of an apron.

**Frames off the wire.**  `accesses_fit_iff`: among the frames that validation and the launch
accept, the threads of exactly the indexable ones stay in range.  The example at the end is a frame
of two gibibytes that a server with a large enough limit accepts.
-/

namespace Imgjit

open Exceptions

namespace Cuda

/-! ## The threads of a frame -/

/-- A thread that stands for a pixel of the frame, in some kernel that a backend of these options
launches for it.  The kernel may have been compiled for another chain, of an equal key. -/
structure LaunchedThread (cmath : CMath) (config : BackendConfig) (job : FrameJob) where
  key : KernelKey
  program : GeneratedProgram
  code : StageCode
  generated : GeneratedStage
  values : List KernelArg
  args : BoundArgs
  source : List UInt8
  destination : List UInt8
  block : ℕ × ℕ
  thread : ℕ × ℕ
  admitted : AdmittedChain key.chain
  equal : key.beq (config.keyFor job.chain job.channels) = true
  emitted : emitCudaSource cmath key = .ok program
  stage : (code, generated) ∈ program.source.stages.zip program.stages
  passed : stageArguments cmath job.chain generated = some values
  bound : code.kernel.bindArgs values = some args
  inGrid : (block, thread) ∈ Grid.gridThreads
    (stageLaunch cmath job generated source destination values).grid
    (stageLaunch cmath job generated source destination values).blockDim
  inFrame : Grid.planePoint (stageLaunch cmath job generated source destination values).blockDim
    (block, thread) ∈ Grid.points job.width.toInt.toNat job.height.toInt.toNat

namespace LaunchedThread

variable {cmath : CMath} {config : BackendConfig} {job : FrameJob}

/-- The launch that the thread is one of. -/
def launch (t : LaunchedThread cmath config job) : Launch :=
  stageLaunch cmath job t.generated t.source t.destination t.values

/-- What the thread evaluates and touches. -/
def accesses (t : LaunchedThread cmath config job) : List Access :=
  t.code.touches t.launch t.args t.block t.thread

/-- The stage that the kernel was emitted for. -/
lemma emittedStage (t : LaunchedThread cmath config job) :
    ∃ stage ∈ planStages t.key.chain, ∃ name,
      emitStage cmath name stage t.key.channels.toInt.toNat
        (Cpu.colorChannels t.key.channels.toInt.toNat)
        (if t.key.tile = .kTiled then t.key.tileSize.toInt.toNat else 0)
        (t.key.constants == .kParameterized) = .ok (t.code, t.generated) := by
  rcases emitCudaSource_ok t.emitted with ⟨emitted, hemitted, hcodes, hstages⟩
  have hmem := t.stage
  rw [hcodes, hstages, List.zip_map', List.map_id''] at hmem
  · exact exists_of_forall₂ (emitStages_forall₂ hemitted) _ hmem
  · exact fun _ => rfl

/-- What the launch passes for the dimensions, and the square of its block. -/
lemma launchOf (t : LaunchedThread cmath config job)
    (hshaped : Image.Shaped job.width job.height job.channels)
    (hblock : t.generated.blockDim ≤ 32) :
    LaunchOf t.launch t.generated t.thread job.width.toInt.toNat job.height.toInt.toNat := by
  have hblockDim : t.launch.blockDim = t.generated.blockDim :=
    UInt32.toNat_ofNat_of_lt' (by simp only [UInt32.size]; omega)
  have hthread := (Grid.mem_points.mp (Grid.mem_gridThreads.mp t.inGrid).2)
  change t.thread.1 < t.launch.blockDim ∧ t.thread.2 < t.launch.blockDim at hthread
  rw [hblockDim] at hthread
  exact ⟨(Int.toNat_of_nonneg hshaped.1.le).symm, (Int.toNat_of_nonneg hshaped.2.1.le).symm,
    hblockDim, hthread⟩

/-- **A thread of an indexable frame is in range.** -/
theorem within (t : LaunchedThread cmath config job) (hchain : AdmittedChain job.chain)
    (hshaped : Image.Shaped job.width job.height job.channels)
    (hsize : Indexable job.width.toInt.toNat job.height.toInt.toNat job.channels.toInt.toNat) :
    ∀ access ∈ t.accesses, access.Fits
      (job.width.toInt.toNat * job.height.toInt.toNat * job.channels.toInt.toNat) := by
  rcases t.emittedStage with ⟨stage, hstage, name, hemit⟩
  have hkey : t.key.channels = job.channels := ((KernelKey.beq_iff _ _).mp t.equal).1
  have hsupported := emitCudaSource_header t.emitted
  have hchannels := (isSupportedChannelCount_iff _).mp hsupported.channelCount
  rcases emitted_tileSize t.emitted with ⟨htile, hnaive⟩
  generalize (if t.key.tile = .kTiled then t.key.tileSize.toInt.toNat else 0) = tileSize
    at hemit htile hnaive
  have hblock : t.generated.blockDim ≤ 32 := by
    rw [(emitStage_header hemit).blockDim]
    split_ifs
    · exact htile
    · rw [kNaiveBlockDim]
      omega
  have hranges : StageRanges stage t.code t.args :=
    plannedStage_ranges t.equal t.admitted hchain hstage hemit
      (fun hparameterized => ⟨hnaive hparameterized, rfl⟩) t.passed t.bound
  have hlaunch := t.launchOf hshaped hblock
  have hpoint := Grid.mem_points.mp t.inFrame
  change t.block.1 * t.launch.blockDim + t.thread.1 < _
    ∧ t.block.2 * t.launch.blockDim + t.thread.2 < _ at hpoint
  rw [hlaunch.blockDim] at hpoint
  rw [← hkey] at hsize ⊢
  refine hsize.stage_within ⟨by omega, by omega⟩ ?_ htile hemit hnaive hranges hlaunch hpoint.1
    hpoint.2
  rw [Cpu.colorChannels]
  split_ifs <;> omega

end LaunchedThread

/-! ## Frames that are not indexable -/

section Overflow

variable {cmath : CMath} {config : BackendConfig} {job : FrameJob}

/-- A chain of one stage, with baked constants. -/
lemma emitCudaSource_single (key : KernelKey) {stage : Stage} {code : StageCode}
    {generated : GeneratedStage} (hchannels : isSupportedChannelCount key.channels = true)
    (htile : isSupportedTile key.tile key.tileSize = true) (hbaked : key.constants = .kBaked)
    (hplan : planStages key.chain = [stage])
    (h : emitStage cmath ⟨0⟩ stage key.channels.toInt.toNat
      (Cpu.colorChannels key.channels.toInt.toNat)
      (if key.tile = .kTiled then key.tileSize.toInt.toNat else 0) false = .ok (code, generated)) :
    ∃ program, emitCudaSource cmath key = .ok program ∧ program.source.stages = [code]
      ∧ program.stages = [generated] := by
  have hstages : emitStages cmath key.channels.toInt.toNat
      (Cpu.colorChannels key.channels.toInt.toNat)
      (if key.tile = .kTiled then key.tileSize.toInt.toNat else 0)
      (key.constants == .kParameterized) (planStages key.chain) 0 = .ok [(code, generated)] := by
    rw [hplan, hbaked, emitStages,
      show (ConstantsMode.kBaked == .kParameterized) = false from rfl, h]
    rfl
  have hconstants : isSupportedConstants key.constants key.tile = true := by
    rw [hbaked]
    rfl
  unfold emitCudaSource
  simp only [hchannels, htile, hconstants, Bool.not_true, Bool.false_eq_true, if_false, hstages]
  exact ⟨_, rfl, rfl, rfl⟩

/-- Every pixel of a frame has its thread. -/
lemma exists_thread (config : BackendConfig) (x y : ℕ)
    (hshaped : Image.Shaped job.width job.height job.channels)
    (hadmitted : AdmittedChain job.chain) (hbaked : config.constants = .kBaked)
    (htile : isSupportedTile config.tile config.tileSize = true) {stage : Stage}
    (hplan : planStages job.chain = [stage]) {code : StageCode} {generated : GeneratedStage}
    (h : emitStage cmath ⟨0⟩ stage job.channels.toInt.toNat
      (Cpu.colorChannels job.channels.toInt.toNat)
      (if config.tile = .kTiled then config.tileSize.toInt.toNat else 0) false
        = .ok (code, generated))
    (hblock : 0 < generated.blockDim ∧ generated.blockDim ≤ 32)
    (hx : x < job.width.toInt.toNat) (hy : y < job.height.toInt.toNat) :
    ∃ t : LaunchedThread cmath config job, t.code = code ∧ t.launch.blockDim = generated.blockDim
      ∧ t.block = (x / generated.blockDim, y / generated.blockDim)
      ∧ t.thread = (x % generated.blockDim, y % generated.blockDim) := by
  rcases emitCudaSource_single (config.keyFor job.chain job.channels) hshaped.2.2 htile hbaked
    hplan h with ⟨program, hprogram, hcode, hgenerated⟩
  rcases emitStage_baked h with ⟨hruntime, hparams, hops⟩
  have hargs : code.kernel.bindArgs [] = some {} := by
    simp only [Kernel.bindArgs, hruntime, hparams, Bool.false_eq_true, if_false, bindParams]
    rfl
  have hdim : (UInt32.ofNat generated.blockDim).toNat = generated.blockDim :=
    UInt32.toNat_ofNat_of_lt' (by simp only [UInt32.size]; omega)
  have hlaunch : (stageLaunch cmath job generated [] [] []).blockDim = generated.blockDim := hdim
  have hwide := gridDim_reaches (UInt32.ofNat generated.blockDim) hshaped.1
    (by rw [hdim]; exact hblock.1) (by rw [hdim]; omega)
  have htall := gridDim_reaches (UInt32.ofNat generated.blockDim) hshaped.2.1
    (by rw [hdim]; exact hblock.1) (by rw [hdim]; omega)
  rw [hdim] at hwide htall
  refine ⟨{
    key := config.keyFor job.chain job.channels
    program := program
    code := code
    generated := generated
    values := []
    args := {}
    source := []
    destination := []
    block := (x / generated.blockDim, y / generated.blockDim)
    thread := (x % generated.blockDim, y % generated.blockDim)
    admitted := hadmitted
    equal := KernelKey.beq_refl _
    emitted := hprogram
    stage := by rw [hcode, hgenerated]; exact List.mem_singleton.mpr rfl
    passed := stageArguments_nil cmath job.chain hops
    bound := hargs
    inGrid := ?_
    inFrame := ?_ }, rfl, hlaunch, rfl, rfl⟩
  · rw [hlaunch, Grid.mem_gridThreads, Grid.mem_points, Grid.mem_points]
    refine ⟨⟨Nat.div_lt_of_lt_mul ?_, Nat.div_lt_of_lt_mul ?_⟩, Nat.mod_lt _ hblock.1,
      Nat.mod_lt _ hblock.1⟩
    · rw [Nat.mul_comm]
      exact hx.trans_le hwide
    · rw [Nat.mul_comm]
      exact hy.trans_le htall
  · rw [hlaunch, Grid.planePoint, Nat.div_add_mod', Nat.div_add_mod']
    exact Grid.mem_points.mpr ⟨hx, hy⟩

/-- Too many samples: the last pixel of a pointwise kernel counts one that is out of range. -/
lemma samples_overflow (cmath : CMath) (job : FrameJob)
    (hshaped : Image.Shaped job.width job.height job.channels)
    (hchain : job.chain = { ops := [{ kind := .kInvert }] }) :
    ∃ t : LaunchedThread cmath {} job, t.launch.blockDim = kNaiveBlockDim
      ∧ .int ((job.width.toInt.toNat * job.height.toInt.toNat * job.channels.toInt.toNat : ℕ) - 1)
        ∈ t.accesses := by
  have hchannels := (isSupportedChannelCount_iff _).mp hshaped.2.2
  have hemit : ∃ code generated body,
      emitStage cmath ⟨0⟩ { prologue := [⟨{ kind := .kInvert }, 0⟩] } job.channels.toInt.toNat
          (Cpu.colorChannels job.channels.toInt.toNat) 0 false = .ok (code, generated)
        ∧ generated.blockDim = kNaiveBlockDim
        ∧ code.kernel.phases = [emitPixel job.channels.toInt.toNat
          (Cpu.colorChannels job.channels.toInt.toNat) body .nop]
        ∧ ∀ env ints, body.intsAfter env ints .i = ints .i := by
    refine ⟨_, _, _, rfl, rfl, rfl, fun env ints => ?_⟩
    rw [Stmt.intsAfter, Stmt.intsAfter, intsAfter_forColors env _ fun _ _ => rfl,
      intsAfter_forColors env _ fun _ _ => rfl]
    rfl
  rcases hemit with ⟨code, generated, body, hemit, hdim, hphases, hbody⟩
  have hplan : planStages job.chain = [{ prologue := [⟨{ kind := .kInvert }, 0⟩] }] := by
    rw [hchain]
    rfl
  have hadmitted : AdmittedChain job.chain := by
    rw [hchain]
    exact List.forall_mem_singleton.mpr (admitted_default .kInvert)
  have hw := hshaped.1
  have hh := hshaped.2.1
  rcases exists_thread {} (job.width.toInt.toNat - 1) (job.height.toInt.toNat - 1) hshaped hadmitted
    rfl rfl hplan hemit (by rw [hdim, kNaiveBlockDim]; omega) (by omega) (by omega) with
    ⟨t, hcode, hblockDim, hblock, hthread⟩
  refine ⟨t, hblockDim.trans hdim, ?_⟩
  have hlast : ((job.height.toInt.toNat - 1) * job.width.toInt.toNat + (job.width.toInt.toNat - 1))
      * job.channels.toInt.toNat + (job.channels.toInt.toNat - 1) + 1
        = job.width.toInt.toNat * job.height.toInt.toNat * job.channels.toInt.toNat :=
    lastSample_add_one (by omega) (by omega) (by omega)
  rw [LaunchedThread.accesses, hcode, StageCode.touches, hphases, List.flatten_singleton, ← hlast,
    Nat.cast_add_one, add_sub_cancel_right, Nat.cast_add]
  refine pixel_touches ?_ ?_ (by omega) (by omega) (Int.toNat_of_nonneg hw.le).symm
    (Int.toNat_of_nonneg hh.le).symm (by omega) (hbody _) fun _ => rfl
  · rw [env_block, env_thread, env_blockDim, hblock, hthread, hblockDim, Nat.div_add_mod']
  · rw [env_block, env_thread, env_blockDim, hblock, hthread, hblockDim, Nat.div_add_mod']

/-- The tiles whose apron reaches furthest over the edge of a frame. -/
def apronConfig : BackendConfig := { tile := .kTiled, tileSize := 30 }

/-- A gaussian of radius 11. -/
def apronChain : OpChain := { ops := [{ kind := .kGaussian, param := 7 / 2 }] }

lemma apronChain_admitted : AdmittedChain apronChain := by
  refine List.forall_mem_singleton.mpr ⟨⟨350, by norm_num⟩, ?_, ?_⟩
  · change (1 / 10 : ℚ) ≤ 7 / 2
    norm_num
  · change (7 / 2 : ℚ) ≤ 4
    norm_num

lemma apronRadius : stencilRadius { kind := .kGaussian, param := 7 / 2 } = 11 := by
  decide +kernel

/-- A tiled kernel of one stencil starts with its load phase. -/
lemma emitStage_tiled (cmath : CMath) (stencil : PlannedOp) (hadmitted : AdmittedOp stencil.op)
    {channels dim : ℕ} (hdim : 0 < dim) (hsmall : dim ≤ 32)
    (hchannels : channels = 1 ∨ channels = 3 ∨ channels = 4) :
    ∃ code generated shape load pixel,
      emitStage cmath ⟨0⟩ { stencil := some stencil } channels (Cpu.colorChannels channels) dim
          false = .ok (code, generated)
        ∧ generated.blockDim = dim
        ∧ emitTileLoad (stencilRadius stencil.op) dim (Cpu.colorChannels channels)
          = .ok (shape, load)
        ∧ code.kernel.phases = [[.stmt load], pixel] := by
  have hcolors : Cpu.colorChannels channels = 1 ∨ Cpu.colorChannels channels = 3 := by
    rcases hchannels with rfl | rfl | rfl
    · exact .inl rfl
    · exact .inr rfl
    · exact .inr rfl
  have hfits : ∃ shape load, emitTileLoad (stencilRadius stencil.op) dim
      (Cpu.colorChannels channels) = .ok (shape, load) :=
    ⟨_, emitTileLoad_ok (stencilRadius_mem hadmitted) hsmall hcolors⟩
  rcases hfits with ⟨shape, load, hload⟩
  have hphase : emitLoadPhase (decide (dim > 0)) (stencilRadius stencil.op) dim
      (Cpu.colorChannels channels) = .ok (some (shape, load)) := by
    rw [emitLoadPhase, if_pos (decide_eq_true hdim), hload]
    rfl
  have hemit : ∃ code generated, emitStencilStage cmath ⟨0⟩ { stencil := some stencil } stencil
      channels (Cpu.colorChannels channels) dim false = .ok (code, generated) := by
    unfold emitStencilStage
    simp only [Bool.false_and, Bool.not_false, if_true, emitStencilConstants_radius, hphase]
    exact ⟨_, _, rfl⟩
  rcases hemit with ⟨code, generated, hemit⟩
  have hstage : emitStage cmath ⟨0⟩ { stencil := some stencil } channels
      (Cpu.colorChannels channels) dim false = .ok (code, generated) := hemit
  have hblock := (emitStage_header hstage).blockDim
  rw [if_pos ⟨rfl, hdim⟩] at hblock
  rcases emitStencilStage_parts hemit with ⟨helper, baked, phase, epilogue, hparts⟩
  have hload' := hparts.loadPhase
  rw [hparts.literal (emitStage_baked hstage).1, hphase] at hload'
  cases hload'
  exact ⟨code, generated, _, load, _, hstage, hblock, hload, hparts.phases⟩

/-- Where the thread of a pixel reads for its cells, in those kernels. -/
lemma apron_accesses (cmath : CMath) (hshaped : Image.Shaped job.width job.height job.channels)
    (hchain : job.chain = apronChain) (x y k : ℕ) (hx : x < job.width.toInt.toNat)
    (hy : y < job.height.toInt.toNat) (hk : k < 52 * 52) (hfirst : y % 30 * 30 + x % 30 ≤ k)
    (hmod : k % 900 = (y % 30 * 30 + x % 30) % 900) :
    ∃ t : LaunchedThread cmath apronConfig job,
      .int ((x / 30 * 30 : ℕ) - 11 + (k % 52 : ℕ)) ∈ t.accesses
        ∧ .int ((y / 30 * 30 : ℕ) - 11 + (k / 52 : ℕ)) ∈ t.accesses := by
  have hchannels := (isSupportedChannelCount_iff _).mp hshaped.2.2
  rcases emitStage_tiled cmath ⟨{ kind := .kGaussian, param := 7 / 2 }, 0⟩
    (List.forall_mem_singleton.mp apronChain_admitted) (show 0 < 30 by omega)
    (show 30 ≤ 32 by omega) (show job.channels.toInt.toNat = 1 ∨ job.channels.toInt.toNat = 3
      ∨ job.channels.toInt.toNat = 4 by omega) with
    ⟨code, generated, shape, load, pixel, hemit, hdim, hload, hphases⟩
  have hplan : planStages job.chain
      = [{ stencil := some ⟨{ kind := .kGaussian, param := 7 / 2 }, 0⟩ }] := by
    rw [hchain]
    rfl
  rcases exists_thread apronConfig x y hshaped (hchain ▸ apronChain_admitted) rfl
    (by decide) hplan hemit (by omega) hx hy with ⟨t, hcode, hblockDim, hblock, hthread⟩
  rw [hdim] at hblockDim hblock hthread
  rw [apronRadius] at hload
  have hload' : ∀ access : Access,
      (access = .int ((x / 30 * 30 : ℕ) - 11 + (k % 52 : ℕ))
        ∨ access = .int ((y / 30 * 30 : ℕ) - 11 + (k / 52 : ℕ))) → access ∈ t.accesses := by
    intro access haccess
    rw [LaunchedThread.accesses, hcode, StageCode.touches, hphases, hblock, hthread]
    refine List.mem_append_left _ (tileLoad_touches 11 k hload (by omega) hk ?_ ?_ ?_)
    · rw [env_thread]
      exact hfirst
    · rw [env_thread]
      exact hmod
    · rw [env_block]
      exact haccess
  exact ⟨t, hload' _ (.inl rfl), hload' _ (.inr rfl)⟩

/-- A column next to `2 ^ 31`: the thread of the last but one pixel of a row. -/
lemma columns_overflow (cmath : CMath) (job : FrameJob)
    (hshaped : Image.Shaped job.width job.height job.channels)
    (hchain : job.chain = apronChain) (hwide : 2 ^ 31 - 37 < job.width.toInt.toNat) :
    ∃ t : LaunchedThread cmath apronConfig job, .int (2 ^ 31) ∈ t.accesses := by
  have hh := hshaped.2.1
  rcases apron_accesses cmath hshaped hchain 2147483611 0 2701 (by omega)
    (by omega) (by omega) (by omega) (by omega) with ⟨t, hcolumn, -⟩
  exact ⟨t, hcolumn⟩

lemma rows_overflow (cmath : CMath) (job : FrameJob)
    (hshaped : Image.Shaped job.width job.height job.channels)
    (hchain : job.chain = apronChain) (htall : 2 ^ 31 - 38 < job.height.toInt.toNat) :
    ∃ t : LaunchedThread cmath apronConfig job, .int (2 ^ 31 + 2) ∈ t.accesses := by
  have hw := hshaped.1
  rcases apron_accesses cmath hshaped hchain 0 2147483610 2700 (by omega)
    (by omega) (by omega) (by omega) (by omega) with ⟨t, -, hrow⟩
  exact ⟨t, hrow⟩

end Overflow

/-! ## Frames off the wire -/

section Wire

open CudaBackend

variable {header : RequestHeader} {limits : Limits}

/-- Validation makes the payload limit a limit on the frame, so a server that admits less than
`2 ^ 31 - 37` bytes admits indexable frames only. -/
lemma indexable_of_limit (hvalid : validateRequestHeader header limits = .kOk)
    (hshaped : Image.Shaped header.width.toInt32 header.height.toInt32
      header.channels.toUInt32.toInt32)
    (hlimit : limits.maxPayloadBytes.toNat ≤ 2 ^ 31 - 38) :
    Indexable header.width.toNat header.height.toNat header.channels.toNat := by
  rcases product_of_valid hvalid with ⟨⟨-, -, hpayload, -⟩, ⟨hchannels, hwidth, hheight⟩, hproduct⟩
  have hw : header.width.toInt32.toInt.toNat = header.width.toNat := toNat_of_narrowed hshaped.1
  have hh : header.height.toInt32.toInt.toNat = header.height.toNat := toNat_of_narrowed hshaped.2.1
  have hc : header.channels.toNat = 1 ∨ header.channels.toNat = 3 ∨ header.channels.toNat = 4 := by
    rcases hchannels with h | h | h <;> rw [h] <;> decide
  have hwlt := Int32.toInt_lt header.width.toInt32
  have hhlt := Int32.toInt_lt header.height.toInt32
  have hpos := hshaped.1
  have hpos' := hshaped.2.1
  have hsmall : header.trueProduct < 2 ^ 64 := by
    have hpixels : header.width.toNat * header.height.toNat ≤ (2 ^ 31 - 1) * (2 ^ 31 - 1) :=
      Nat.mul_le_mul (by omega) (by omega)
    have hsamples : header.trueProduct ≤ (2 ^ 31 - 1) * (2 ^ 31 - 1) * 4 :=
      Nat.mul_le_mul hpixels (by omega)
    omega
  rw [Nat.mod_eq_of_lt hsmall] at hproduct
  have hsamples : header.width.toNat * header.height.toNat * header.channels.toNat ≤ 2 ^ 31 - 38 :=
    hproduct.le.trans (hpayload.trans hlimit)
  have hcolumns : header.width.toNat * 1 ≤ header.width.toNat * header.height.toNat :=
    Nat.mul_le_mul_left _ (by omega)
  have hrows : 1 * header.height.toNat ≤ header.width.toNat * header.height.toNat :=
    Nat.mul_le_mul_right _ (by omega)
  have hpixels : header.width.toNat * header.height.toNat * 1
      ≤ header.width.toNat * header.height.toNat * header.channels.toNat :=
    Nat.mul_le_mul_left _ (by omega)
  exact ⟨by omega, by omega, by omega⟩

/-- **The kernels of a frame compute in range if and only if the frame is indexable.**  Take any
header that validation accepts, whatever the payload limit, and whose dimensions pass the checks of
`launch`.  For every backend and every chain, each value of type `int` that a thread of the frame
evaluates is one, and each index into `src` and `dst` is inside the frame, exactly if the samples
are at most `2 ^ 31`, the columns at most `2 ^ 31 - 37` and the rows at most `2 ^ 31 - 38`.  Nothing
but a small enough payload limit sees to that. -/
theorem accesses_fit_iff (cmath : CMath) (hvalid : validateRequestHeader header limits = .kOk)
    (hshaped : Image.Shaped header.width.toInt32 header.height.toInt32
      header.channels.toUInt32.toInt32) (connection slot : ℕ) :
    ((∀ (config : BackendConfig) (chain : OpChain), AdmittedChain chain →
        ∀ t : LaunchedThread cmath config (acceptedJob connection header chain slot),
          ∀ access ∈ t.accesses, access.Fits
            (header.width.toNat * header.height.toNat * header.channels.toNat))
      ↔ Indexable header.width.toNat header.height.toNat header.channels.toNat)
      ∧ (limits.maxPayloadBytes.toNat ≤ 2 ^ 31 - 38 →
        Indexable header.width.toNat header.height.toNat header.channels.toNat) := by
  have hw : header.width.toInt32.toInt.toNat = header.width.toNat := toNat_of_narrowed hshaped.1
  have hh : header.height.toInt32.toInt.toNat = header.height.toNat := toNat_of_narrowed hshaped.2.1
  have hc : header.channels.toUInt32.toInt32.toInt.toNat = header.channels.toNat := by
    have hsupported := (isSupportedChannelCount_iff _).mp hshaped.2.2
    exact toNat_of_narrowed (by omega)
  refine ⟨⟨fun hall => ?_, fun hsize config chain hchain t => ?_⟩,
    fun hlimit => indexable_of_limit hvalid hshaped hlimit⟩
  · have hinvert : AdmittedChain TallFrame.inverted :=
      List.forall_mem_singleton.mpr (admitted_default .kInvert)
    refine ⟨?_, ?_, ?_⟩
    · rcases samples_overflow cmath (acceptedJob connection header TallFrame.inverted slot) hshaped
        rfl with ⟨t, -, hlast⟩
      have hfits := (hall {} _ hinvert t _ hlast).2
      change ((header.width.toInt32.toInt.toNat * header.height.toInt32.toInt.toNat
        * header.channels.toUInt32.toInt32.toInt.toNat : ℕ) : ℤ) - 1 < 2 ^ 31 at hfits
      rw [hw, hh, hc] at hfits
      omega
    · by_contra hwide
      rcases columns_overflow cmath (acceptedJob connection header apronChain slot) hshaped rfl
        (hw ▸ not_le.mp hwide) with ⟨t, hcolumn⟩
      exact absurd (hall apronConfig _ apronChain_admitted t _ hcolumn).2 (lt_irrefl _)
    · by_contra htall
      rcases rows_overflow cmath (acceptedJob connection header apronChain slot) hshaped rfl
        (hh ▸ not_le.mp htall) with ⟨t, hrow⟩
      exact absurd (hall apronConfig _ apronChain_admitted t _ hrow).2 (by omega)
  · rw [← hw, ← hh, ← hc] at hsize ⊢
    exact t.within hchain hshaped hsize

end Wire

/-! ## Two gibibytes -/

namespace WideFrame

open CudaBackend

/-- `invert` on 65536 by 32769 gray pixels, one row more than `2 ^ 31` samples. -/
def header : RequestHeader :=
  { width := 65536, height := 32769, channels := 1, payloadLen := 2147549184, chainLen := 6 }

/-- The largest payload limit of a server. -/
def limits : Limits := { maxPayloadBytes := 4294967295 }

/-- The job of the frame of two gibibytes. -/
def job : FrameJob := acceptedJob 0 header TallFrame.inverted 0

lemma job_shaped : Image.Shaped job.width job.height job.channels := by
  decide +kernel

/-- **A frame of two gibibytes** passes validation and the checks of `launch`, and its grid is one
that the device accepts, but a thread counts a sample that is out of range. -/
theorem accesses_fit_wide :
    validateRequestHeader header limits = .kOk
      ∧ parseOpChain (fun _ => none) "invert".toList = .ok TallFrame.inverted
      ∧ Image.Shaped job.width job.height job.channels
      ∧ AdmittedChain TallFrame.inverted
      ∧ ∃ t : LaunchedThread plainMath {} job, t.launch.grid = (4096, 2049)
        ∧ ∃ access ∈ t.accesses, ¬access.Fits (65536 * 32769 * 1) := by
  refine ⟨by decide +kernel, by decide +kernel, job_shaped,
    List.forall_mem_singleton.mpr (admitted_default .kInvert), ?_⟩
  rcases samples_overflow plainMath job job_shaped rfl with ⟨t, hblockDim, hlast⟩
  have hblock : UInt32.ofNat t.generated.blockDim = 16 := UInt32.toNat_inj.mp hblockDim
  refine ⟨t, ?_, _, hlast, ?_⟩
  · change ((gridDim job.width (UInt32.ofNat t.generated.blockDim)).toNat,
      (gridDim job.height (UInt32.ofNat t.generated.blockDim)).toNat) = _
    rw [hblock]
    decide +kernel
  · decide +kernel

/-- For a frame of one pixel every access is in range. -/
theorem accesses_fit_pixel :
    validateRequestHeader TallFrame.pixelHeader TallFrame.limits = .kOk
      ∧ ∀ (config : BackendConfig) (chain : OpChain), AdmittedChain chain →
        ∀ t : LaunchedThread plainMath config (acceptedJob 0 TallFrame.pixelHeader chain 0),
          ∀ access ∈ t.accesses, access.Fits 1 := by
  have hvalid : validateRequestHeader TallFrame.pixelHeader TallFrame.limits = .kOk := by
    decide +kernel
  have hfit := accesses_fit_iff plainMath hvalid (by decide +kernel) 0 0
  exact ⟨hvalid, hfit.1.mpr (hfit.2 (by decide))⟩

end WideFrame

end Cuda

end Imgjit
