import Imgjit.Backend.Backend
import Imgjit.Cuda.FusionPlan
import Imgjit.Library.Exceptions

/-!
# Compiled programs

What the loader makes of a generated program, and the loop of `CudaBackend::launch` that runs it.

The loader looks a function up for every kernel name that the generator has reported, and the
launcher pairs the functions with the reported stages by position.  Neither looks at the text.  So a
program is only as good as the report that comes with it, and this file shows that the two always
agree.

**Loading.**  `CompiledChain` is a program together with one function for each of its stages, and
`compileProgram_ok` says that every emitted program has its functions.

**Arguments.**  `stageArguments` is what a frame passes to a stage behind the four arguments they
all take.  It may fail, when a chain has no op where the program expects one.

**The stage loop.**  `launchStages` runs the stages front to back, the two buffers changing places
after each.  `gridDim_reaches` says that the grid reaches around the image.

**The header of a program.**  `emitCudaSource_header` is about the comment at the head of the text,
which names the chain.
-/

namespace Imgjit

open Exceptions

namespace Cuda

/-! ## Loading -/

/-- What is kept in the cache for a key. -/
structure CompiledChain where
  program : GeneratedProgram
  /-- Parallel to `program.stages`; launched front to back. -/
  stageFunctions : List StageCode
  deriving DecidableEq, Repr

/-- `CudaModule::get_function`. -/
def TranslationUnit.getFunction (source : TranslationUnit) (name : KernelName) : Option StageCode :=
  source.stages.find? fun code => code.name = name

/-- A module of the program, and its functions. -/
def compileProgram (program : GeneratedProgram) : Option CompiledChain := do
  let functions ← program.stages.mapM fun stage => program.source.getFunction stage.kernelName
  some { program := program, stageFunctions := functions }

/-! ## The arguments of a stage -/

/-- What an argument pointer points to. -/
inductive ArgPointer where
  | radius
  | taps
  | scalar (p : ℕ)
  deriving DecidableEq, Repr

/-- The locals of one turn of the stage loop. -/
structure StageLocals where
  radius : ℤ := 0
  taps : List ℚ := List.replicate kMaxGaussianTaps 0
  scalars : List ℚ
  arguments : List ArgPointer := []

namespace StageLocals

/-- One turn of the loop over `param_ops`. -/
def push (cmath : CMath) (chain : OpChain) (locals : StageLocals) (p index : ℕ) :
    Option StageLocals := do
  let op ← chain.ops[index]?
  if op.kind = .kGaussian then
    let weights := Cpu.gaussianWeights1d cmath op.param
    -- `std::copy` into the array; past its end there is no defined result.
    if weights.length ≤ kMaxGaussianTaps then
      some { locals with
        radius := Cpu.gaussianRadius op.param
        taps := weights ++ locals.taps.drop weights.length
        arguments := locals.arguments ++ [.radius, .taps] }
    else none
  else
    some { locals with
      scalars := locals.scalars.set p op.param
      arguments := locals.arguments ++ [.scalar p] }

/-- The driver reads through the pointers when the kernel is launched. -/
def value (locals : StageLocals) : ArgPointer → KernelArg
  | .radius => .int locals.radius
  | .taps => .taps locals.taps
  | .scalar p => .float (locals.scalars.getD p 0)

end StageLocals

/-- The values come from `chain`, the frame's own. -/
def stageArguments (cmath : CMath) (chain : OpChain) (stage : GeneratedStage) :
    Option (List KernelArg) := do
  let locals ← stage.paramOps.zipIdx.foldlM
    (fun locals pair => locals.push cmath chain pair.2 pair.1)
    ({ scalars := List.replicate stage.paramOps.length 0 } : StageLocals)
  some (locals.arguments.map locals.value)

/-! ## The stage loop -/

/-- `grid_dim`: blocks along one axis. -/
def gridDim (extent : Int32) (block : UInt32) : UInt32 := (extent.toUInt32 + block - 1) / block

/-- What a frame does between its two copies. -/
structure FrameRun where
  launches : List LaunchRun := []
  source : List UInt8
  destination : List UInt8

/-- The launch of one stage. -/
def stageLaunch (cmath : CMath) (job : FrameJob) (stage : GeneratedStage)
    (source destination : List UInt8) (args : List KernelArg) : Launch :=
  let block := UInt32.ofNat stage.blockDim
  { cmath := cmath
    grid := ((gridDim job.width block).toNat, (gridDim job.height block).toNat)
    blockDim := block.toNat
    src := source
    dst := destination
    width := job.width.toInt
    height := job.height.toInt
    args := args }

/-- **The stages of a frame**, front to back.  After each launch the buffers change places, so
`source` is what the last stage wrote.  `execute` says how the launch of one kernel ends. -/
def launchStages (execute : StageCode → Launch → Schedule → Option LaunchRun) (cmath : CMath)
    (job : FrameJob) (schedules : ℕ → Schedule) :
    List (StageCode × GeneratedStage) → ℕ → List UInt8 → List UInt8 → Option FrameRun
  | [], _, source, destination => some { source := source, destination := destination }
  | (function, stage) :: rest, s, source, destination => do
      let args ← stageArguments cmath job.chain stage
      let run ← execute function (stageLaunch cmath job stage source destination args) (schedules s)
      let later ← launchStages execute cmath job schedules rest (s + 1) run.dst source
      some { later with launches := run :: later.launches }

/-- The stages of a compiled chain in exact integers, over a `front` buffer that has received the
frame. -/
def CompiledChain.launch (cmath : CMath) (job : FrameJob) (compiled : CompiledChain)
    (schedules : ℕ → Schedule) (front back : List UInt8) : Option FrameRun :=
  launchStages StageCode.run cmath job schedules
    (compiled.stageFunctions.zip compiled.program.stages) 0 front back

/-! ## The grid reaches around the image -/

/-- `grid_dim` rounds up, and nothing wraps. -/
lemma gridDim_toNat {extent : Int32} {block : UInt32} (hextent : 0 < extent.toInt)
    (hblock : 0 < block.toNat) (hsmall : block.toNat ≤ 2 ^ 31) :
    (gridDim extent block).toNat = (extent.toInt.toNat + block.toNat - 1) / block.toNat := by
  have hlt := Int32.toInt_lt extent
  have hnat : extent.toUInt32.toNat = extent.toInt.toNat :=
    Int32.toNat_toUInt32_of_le (Int32.le_iff_toInt_le.mpr hextent.le)
  have hsum : (extent.toUInt32 + block).toNat = extent.toInt.toNat + block.toNat := by
    rw [UInt32.toNat_add, hnat, Nat.mod_eq_of_lt (by omega)]
  have hone : (1 : UInt32) ≤ extent.toUInt32 + block := by
    rw [UInt32.le_iff_toNat_le, hsum]
    change 1 ≤ _
    omega
  rw [gridDim, UInt32.toNat_div, UInt32.toNat_sub_of_le _ _ hone, hsum]
  rfl

/-- **The grid covers every pixel of an axis.** -/
theorem gridDim_reaches {extent : Int32} (block : UInt32) (hextent : 0 < extent.toInt)
    (hblock : 0 < block.toNat) (hsmall : block.toNat ≤ 2 ^ 31) :
    extent.toInt.toNat ≤ (gridDim extent block).toNat * block.toNat := by
  rw [gridDim_toNat hextent hblock hsmall]
  have hdiv := Nat.div_add_mod (extent.toInt.toNat + block.toNat - 1) block.toNat
  have hmod := Nat.mod_lt (extent.toInt.toNat + block.toNat - 1) hblock
  rw [Nat.mul_comm] at hdiv
  omega

/-! ## The header of a program -/

/-- What the header of a key's program says. -/
structure HeaderOf (key : KernelKey) (unit : TranslationUnit) : Prop where
  channelCount : isSupportedChannelCount key.channels = true
  tile : isSupportedTile key.tile key.tileSize = true
  chainComment : unit.chainComment = chainComment key.chain unit.parameterized
  channels : unit.channels = key.channels.toInt.toNat
  colors : unit.colors = Cpu.colorChannels unit.channels
  tileSize : unit.tileSize = if key.tile = .kTiled then key.tileSize.toInt.toNat else 0
  parameterized : unit.parameterized = (key.constants == .kParameterized)

/-- **A program's header is that of its key.** -/
theorem emitCudaSource_header {cmath : CMath} {key : KernelKey} {program : GeneratedProgram}
    (h : emitCudaSource cmath key = .ok program) :
    HeaderOf key program.source := by
  unfold emitCudaSource at h
  split at h
  · cases h
  rename_i hchannels
  split at h
  · cases h
  rename_i htile
  split at h
  · cases h
  rcases bind_eq_ok h with ⟨emitted, -, h⟩
  cases h
  rw [Bool.not_eq_true, Bool.not_eq_false'] at hchannels htile
  exact ⟨hchannels, htile, rfl, rfl, rfl, rfl, rfl⟩

/-! ## Every emitted program has its functions -/

/-- What a stage is emitted with, whichever emitter it is. -/
structure StageHeader (name : KernelName) (stage : Stage) (tileSize : ℕ) (parameterized : Bool)
    (code : StageCode) (generated : GeneratedStage) : Prop where
  /-- The name is in both halves of the result. -/
  name : code.name = name ∧ generated.kernelName = name
  blockDim : generated.blockDim
    = if stage.stencil.isSome = true ∧ 0 < tileSize then tileSize else kNaiveBlockDim
  runtimeRadius : code.kernel.runtimeRadius
    = (parameterized && stage.stencil.any fun planned => planned.op.kind == .kGaussian)
  params : code.kernel.params
    = paramIndices stage.prologue parameterized ++ paramIndices stage.epilogue parameterized
  /-- The gaussian's value comes first. -/
  paramOps : generated.paramOps
    = (if code.kernel.runtimeRadius then stage.stencil.toList.map PlannedOp.index else [])
      ++ code.kernel.params

/-- **Every stage has its header.** -/
theorem emitStage_header {cmath : CMath} {name : KernelName} {stage : Stage}
    {channels colors tileSize : ℕ} {parameterized : Bool} {code : StageCode}
    {generated : GeneratedStage}
    (h : emitStage cmath name stage channels colors tileSize parameterized = .ok (code, generated)) :
    StageHeader name stage tileSize parameterized code generated := by
  unfold emitStage at h
  split at h
  · rename_i hstencil
    obtain ⟨prologue, -, h⟩ := bind_eq_ok h
    obtain ⟨epilogue, -, h⟩ := bind_eq_ok h
    cases h
    refine ⟨⟨rfl, rfl⟩, ?_, ?_, rfl, rfl⟩
    · rw [hstencil, if_neg]
      rintro ⟨hsome, -⟩
      cases hsome
    · rw [hstencil, Option.any_none, Bool.and_false]
  · rename_i stencil hstencil
    obtain ⟨tap, -, h⟩ := bind_eq_ok h
    obtain ⟨load, -, h⟩ := bind_eq_ok h
    obtain ⟨epilogue, -, h⟩ := bind_eq_ok h
    cases h
    refine ⟨⟨rfl, rfl⟩, ?_, ?_, rfl, ?_⟩
    · simp only [hstencil, Option.isSome_some, true_and, gt_iff_lt, decide_eq_true_eq]
    · rw [hstencil, Option.any_some]
    · rw [hstencil]
      rfl

/-- The stages of a plan and what they are emitted as, one by one; the place is the name. -/
lemma emitStages_zipIdx {cmath : CMath} {channels colors tileSize : ℕ} {parameterized : Bool} :
    ∀ {stages : List Stage} {i : ℕ} {emitted : List (StageCode × GeneratedStage)},
      emitStages cmath channels colors tileSize parameterized stages i = .ok emitted →
      List.Forall₂ (fun planned pair => emitStage cmath ⟨planned.2⟩ planned.1 channels colors
        tileSize parameterized = .ok pair) (stages.zipIdx i) emitted
  | [], i, emitted, h => by
      cases h
      exact .nil
  | stage :: rest, i, emitted, h => by
      obtain ⟨first, hfirst, h⟩ := bind_eq_ok h
      obtain ⟨later, hlater, h⟩ := bind_eq_ok h
      cases h
      exact .cons hfirst (emitStages_zipIdx hlater)

/-- Every stage of a program was emitted from a stage of the plan. -/
lemma emitStages_forall₂ {cmath : CMath} {channels colors tileSize : ℕ} {parameterized : Bool}
    {stages : List Stage} {i : ℕ} {emitted : List (StageCode × GeneratedStage)}
    (h : emitStages cmath channels colors tileSize parameterized stages i = .ok emitted) :
    List.Forall₂ (fun stage pair => ∃ name, emitStage cmath name stage channels colors tileSize
      parameterized = .ok pair) stages emitted := by
  rw [← List.zipIdx_map_fst i stages, List.forall₂_map_left_iff]
  exact (emitStages_zipIdx h).imp fun _ _ hstage => ⟨_, hstage⟩

/-- The names of the emitted stages. -/
lemma emitStages_names {cmath : CMath} {channels colors tileSize : ℕ} {parameterized : Bool}
    {stages : List Stage} {i : ℕ} {emitted : List (StageCode × GeneratedStage)}
    (h : emitStages cmath channels colors tileSize parameterized stages i = .ok emitted) :
    emitted.map (fun pair => pair.1.name) = emitted.map (fun pair => pair.2.kernelName)
      ∧ (emitted.map fun pair => pair.1.name).Nodup := by
  have hheaders : List.Forall₂ (fun planned pair => StageHeader ⟨planned.2⟩ planned.1 tileSize
      parameterized pair.1 pair.2) (stages.zipIdx i) emitted :=
    (emitStages_zipIdx h).imp fun _ _ => emitStage_header
  have hcode : (stages.zipIdx i).map (fun planned => (⟨planned.2⟩ : KernelName))
      = emitted.map fun pair => pair.1.name := by
    rw [← List.forall₂_eq_eq_eq, List.forall₂_map_left_iff, List.forall₂_map_right_iff]
    exact hheaders.imp fun _ _ hheader => hheader.name.1.symm
  have hgenerated : (stages.zipIdx i).map (fun planned => (⟨planned.2⟩ : KernelName))
      = emitted.map fun pair => pair.2.kernelName := by
    rw [← List.forall₂_eq_eq_eq, List.forall₂_map_left_iff, List.forall₂_map_right_iff]
    exact hheaders.imp fun _ _ hheader => hheader.name.2.symm
  refine ⟨hcode.symm.trans hgenerated, ?_⟩
  have hindices : ((stages.zipIdx i).map Prod.snd).Nodup := by
    rw [List.zipIdx_map_snd]
    exact List.nodup_range'
  have hmap := hindices.map fun _ _ heq => KernelName.mk.inj heq
  rwa [List.map_map, show (KernelName.mk ∘ Prod.snd : Stage × ℕ → KernelName)
    = fun planned => ⟨planned.2⟩ from rfl, hcode] at hmap

/-- Looking up a name among distinct ones. -/
lemma find?_of_nodup {α β : Type} [DecidableEq β] (name : α → β) :
    ∀ {l : List α}, (l.map name).Nodup → ∀ {a : α}, a ∈ l →
      l.find? (fun b => name b = name a) = some a
  | [], _, a, h => absurd h List.not_mem_nil
  | b :: l, hnodup, a, h => by
      rw [List.map_cons, List.nodup_cons] at hnodup
      rcases List.mem_cons.mp h with rfl | hmem
      · rw [List.find?_cons_of_pos (by simp)]
      · have hne : name b ≠ name a := fun heq =>
          hnodup.1 (heq ▸ List.mem_map_of_mem hmem)
        rw [List.find?_cons_of_neg (by simpa using hne)]
        exact find?_of_nodup name hnodup.2 hmem

/-- The unit around some emitted stages. -/
lemma compileProgram_emitted {program : GeneratedProgram}
    {emitted : List (StageCode × GeneratedStage)}
    (hcodes : program.source.stages = emitted.map Prod.fst)
    (hstages : program.stages = emitted.map Prod.snd)
    (hnames : ∀ pair ∈ emitted, pair.1.name = pair.2.kernelName)
    (hnodup : (emitted.map fun pair => pair.1.name).Nodup) :
    compileProgram program
      = some { program := program, stageFunctions := emitted.map Prod.fst } := by
  have hfind : ∀ pair ∈ emitted,
      program.source.getFunction pair.2.kernelName = some pair.1 := by
    intro pair hmem
    rw [TranslationUnit.getFunction, hcodes, ← hnames pair hmem]
    refine find?_of_nodup StageCode.name ?_ (List.mem_map_of_mem hmem)
    rw [List.map_map]
    exact hnodup
  have hall : ∀ pairs : List (StageCode × GeneratedStage), pairs ⊆ emitted →
      (pairs.map Prod.snd).mapM (fun stage => program.source.getFunction stage.kernelName)
        = some (pairs.map Prod.fst) := by
    intro pairs
    induction pairs with
    | nil => intro _; rfl
    | cons pair pairs ih =>
        intro hsub
        rw [List.map_cons, List.mapM_cons, hfind pair (hsub List.mem_cons_self),
          ih (List.subset_of_cons_subset hsub)]
        rfl
  rw [compileProgram, hstages, hall emitted (List.Subset.refl _)]
  rfl

/-- The parts of an emitted program. -/
lemma emitCudaSource_ok {cmath : CMath} {key : KernelKey} {program : GeneratedProgram}
    (h : emitCudaSource cmath key = .ok program) :
    ∃ emitted, emitStages cmath key.channels.toInt.toNat
        (Cpu.colorChannels key.channels.toInt.toNat)
        (if key.tile = .kTiled then key.tileSize.toInt.toNat else 0)
        (key.constants == .kParameterized) (planStages key.chain) 0 = .ok emitted
      ∧ program.source.stages = emitted.map Prod.fst ∧ program.stages = emitted.map Prod.snd := by
  unfold emitCudaSource at h
  iterate 3
    split at h
    · cases h
  obtain ⟨emitted, hemitted, h⟩ := bind_eq_ok h
  cases h
  exact ⟨emitted, hemitted, rfl, rfl⟩

/-- **Every emitted program compiles to one function per stage**, found under its name. -/
theorem compileProgram_ok {cmath : CMath} {key : KernelKey} {program : GeneratedProgram}
    (h : emitCudaSource cmath key = .ok program) :
    compileProgram program
      = some { program := program, stageFunctions := program.source.stages } := by
  obtain ⟨emitted, hemitted, hcodes, hstages⟩ := emitCudaSource_ok h
  obtain ⟨hnames, hnodup⟩ := emitStages_names hemitted
  rw [compileProgram_emitted hcodes hstages (List.map_inj_left.mp hnames) hnodup, hcodes]

end Cuda

end Imgjit
