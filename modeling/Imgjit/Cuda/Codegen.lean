import Imgjit.Core.KernelKey
import Imgjit.Cuda.KernelLang

/-!
# Code generation

A `KernelKey` in, one translation unit out.  Pointwise ops fuse into registers, before a stencil or
after it; a stencil needs the neighbours of its pixel, which other threads compute, and so ends a
stage.  Each stage becomes one kernel.

**Limits.**  The constants of the source, and the two checks that the configuration goes through.

**The fusion plan.**  `planStages` cuts the chain into stages, in order.  A stage has the ops before
its stencil, the stencil if there is one, and the ops behind it; every op keeps its position in the
chain, which is what names its argument on a parameterized kernel.

**The emitters.**  `emitPointwise`, `emitTapFunction`, `emitTileLoad`, `emitStencilBody` and
`emitStage` are the emitters, one per function of `codegen.cpp`.  They return programs of the kernel
language of `KernelLang.lean` and not text: the text of such a program is `SourceText.lean`'s, and
what it does on a device is `Program.lean`'s.

**The program.**  `emitCudaSource` is the whole unit, or the exception that refuses the key.
-/

namespace Imgjit

namespace Cuda

/-! ## Limits -/

/-- The edge of a naive kernel's block. -/
def kNaiveBlockDim : ℕ := 16

/-- The largest edge of a tile. -/
def kMaxTileSize : ℤ := 32

/-- How many weights an op's table has room for. -/
def kMaxGaussianTaps : ℕ := 25

/-- The shared memory a block may declare statically. -/
def kMaxStaticSharedBytes : ℕ := 48 * 1024

/-- `is_supported_tile`: a naive key has no tile size, and a tiled one a size in range. -/
def isSupportedTile (tile : TileVariant) (tileSize : Int32) : Bool :=
  match tile with
  | .kNaive => tileSize == 0
  | .kTiled => 1 ≤ tileSize.toInt && tileSize.toInt ≤ kMaxTileSize

/-- `is_supported_constants`: parameterized constants need naive stencils. -/
def isSupportedConstants (constants : ConstantsMode) (tile : TileVariant) : Bool :=
  match constants with
  | .kBaked => true
  | .kParameterized => tile == .kNaive

/-! ## The fusion plan -/

/-- An op together with its position in the chain, which names its kernel argument. -/
structure PlannedOp where
  op : Op
  index : ℕ
  deriving DecidableEq, Repr

/-- A stage of the plan: what is fused before the stencil, the stencil, and what is fused behind it.
-/
structure Stage where
  prologue : List PlannedOp := []
  stencil : Option PlannedOp := none
  epilogue : List PlannedOp := []
  deriving DecidableEq, Repr

/-- An op that does not open a stage joins the current one. -/
def Stage.attach (current : Stage) (planned : PlannedOp) : Stage :=
  if (opSpec planned.op.kind).isStencil then { current with stencil := some planned }
  else if current.stencil.isSome then
    { current with epilogue := current.epilogue ++ [planned] }
  else { current with prologue := current.prologue ++ [planned] }

/-- One turn of the planning loop.  The stages are kept back first. -/
def planStep : List Stage → PlannedOp → List Stage
  | [], planned => [({} : Stage).attach planned]
  | current :: earlier, planned =>
      if (opSpec planned.op.kind).isStencil && current.stencil.isSome then
        ({} : Stage).attach planned :: current :: earlier
      else current.attach planned :: earlier

/-- The ops of a chain with their positions. -/
def planOps (ops : List Op) : List PlannedOp := ops.zipIdx.map fun pair => ⟨pair.1, pair.2⟩

/-- `plan_stages`: the chain cut into stages, in order. -/
def planStages (chain : OpChain) : List Stage :=
  ((planOps chain.ops).foldl planStep []).reverse

/-- The indices of the ops whose parameter is a kernel argument. -/
def paramIndices (ops : List PlannedOp) (parameterized : Bool) : List ℕ :=
  if parameterized then
    (ops.filter fun planned => (opSpec planned.op.kind).takesParam).map PlannedOp.index
  else []

/-- The chain as the header comment names it; a parameterized source elides the values. -/
def chainComment (chain : OpChain) (parameterized : Bool) : List Char :=
  if !parameterized then canonicalString chain
  else
    chain.ops.foldl (fun text op =>
      text ++ (if text = [] then [] else [',']) ++ (opSpec op.kind).name.toList
        ++ (if (opSpec op.kind).takesParam then ":<arg>".toList else [])) []

/-! ## The emitters -/

/-- One op of a pointwise run: the body of the switch. -/
def emitPointwiseOp (colors : ℕ) (var : FloatVar) (parameterized : Bool) (planned : PlannedOp) :
    Except Exn Stmt :=
  let param : FloatExpr := if parameterized then .param planned.index else .lit planned.op.param
  match planned.op.kind with
  | .kGrayscale =>
      if colors = 1 then .ok (.comment "grayscale: a 1-channel sample is already luminance.")
      else
        .ok (.block (.all
          [.float .g (.quantize (.luma (.cell var 0) (.cell var 1) (.cell var 2))),
           .forColors colors fun c => .set var c (.scalar .g)]))
  | .kInvert =>
      .ok (.forColors colors fun c => .set var c (.quantize (.sub (.lit 1) (.cell var c))))
  | .kBrightness =>
      .ok (.forColors colors fun c => .set var c (.quantize (.add (.cell var c) param)))
  | .kThreshold =>
      .ok (.forColors colors fun c =>
        .set var c (.quantize (.ifGe (.cell var c) param (.lit 1) (.lit 0))))
  | .kGaussian => .error (.logicError "emit_pointwise: a stencil op reached a pointwise run")
  | .kSobel => .error (.logicError "emit_pointwise: a stencil op reached a pointwise run")

/-- A pointwise run over `var[0 .. colors)`.  Every op ends in `imgjit_quantize`. -/
def emitPointwise (colors : ℕ) (var : FloatVar) (parameterized : Bool) :
    List PlannedOp → Except Exn Stmt
  | [] => .ok .nop
  | planned :: rest => do
      let first ← emitPointwiseOp colors var parameterized planned
      let second ← emitPointwise colors var parameterized rest
      .ok (.seq first second)

/-- `(y * width + x) * channels`. -/
def sampleIndex (column row : IntVar) (channels : ℕ) : IntExpr :=
  .mul (.add (.mul (.var row) (.var .width)) (.var column)) (.lit channels)

/-- The stage's neighbour accessor: one clamped load with the prologue folded in. -/
def emitTapFunction (stage : Stage) (channels colors : ℕ) (parameterized : Bool)
    (prologueParams : List ℕ) : Except Exn TapFunction := do
  let prologue ← emitPointwise colors .v parameterized stage.prologue
  .ok {
    params := prologueParams
    body := .all
      [.int .sx (.clampCoord (.var .x) (.var .width)),
       .int .sy (.clampCoord (.var .y) (.var .height)),
       .int .i (sampleIndex .sx .sy channels),
       .forColors colors fun c => .set .v c (.loadSample (.add (.var .i) (.lit c))),
       prologue] }

/-- The stage's constant arrays, and its radius. -/
def emitStencilConstants (cmath : CMath) (stencil : Op) : Constants × ℤ :=
  if stencil.kind = .kSobel then (.sobel Cpu.kGx Cpu.kGy, 1)
  else
    (.gaussian stencil.param (Cpu.gaussianRadius stencil.param)
      (Cpu.gaussianWeights1d cmath stencil.param), Cpu.gaussianRadius stencil.param)

/-- The refusal of a tile that does not fit. -/
def tileTooLarge (tileSize : ℕ) (radius : ℤ) (sharedBytes : ℕ) : Exn :=
  .invalidArgument ("emit_cuda_source: a " ++ toString tileSize ++ "-wide tile with a radius-"
    ++ toString radius ++ " apron needs " ++ toString sharedBytes
    ++ " bytes of __shared__ memory, over the 48 KiB static limit")

/-- The tiled variant's load phase.  The barrier behind it is the end of the phase. -/
def emitTileLoad (radius : ℤ) (tileSize colors : ℕ) : Except Exn (TileShape × Stmt) :=
  let edge := (tileSize + 2 * radius).toNat
  let sharedBytes := colors * edge * edge * 4
  if sharedBytes > kMaxStaticSharedBytes then .error (tileTooLarge tileSize radius sharedBytes)
  else
    .ok (⟨colors, edge⟩, .all
      [.int .tileX0 (.sub (.ofUnsigned (.mul (.blockIdx .x) (.lit tileSize))) (.lit radius)),
       .int .tileY0 (.sub (.ofUnsigned (.mul (.blockIdx .y) (.lit tileSize))) (.lit radius)),
       .forBelow .k
        (.ofUnsigned (.add (.mul (.threadIdx .y) (.lit tileSize)) (.threadIdx .x)))
        (edge * edge) (tileSize * tileSize) (.all
          [.int .ty (.div (.var .k) (.lit edge)),
           .int .tx (.sub (.var .k) (.mul (.var .ty) (.lit edge))),
           .array .t colors none,
           .callTap (.add (.var .tileX0) (.var .tx)) (.add (.var .tileY0) (.var .ty)) .t [],
           .forColors colors fun c => .setTile c (.var .ty) (.var .tx) (.cell .t c)])])

/-- A naive stage has no load phase. -/
def emitLoadPhase (tiled : Bool) (radius : ℤ) (tileSize colors : ℕ) :
    Except Exn (Option (TileShape × Stmt)) :=
  if tiled then (emitTileLoad radius tileSize colors).map some else .ok none

/-- One neighbour's samples into `t`, at offset `(dx, dy)` from this thread's pixel. -/
def emitFetch (colors : ℕ) (tiled : Bool) (tapArgs : List ℕ) : Stmt :=
  .seq (.array .t colors none) <|
    if !tiled then .callTap (.add (.var .x) (.var .dx)) (.add (.var .y) (.var .dy)) .t tapArgs
    else
      .forColors colors fun c =>
        .set .t c (.tile c (.add (.var .ly) (.var .dy)) (.add (.var .lx) (.var .dx)))

/-- `radius_text`. -/
def radiusText (radius : ℤ) (runtimeRadius : Bool) : IntExpr :=
  if runtimeRadius then .var .radius else .lit radius

/-- The table that the taps are weighted with: the argument's if the radius is one, else the baked
one. -/
def weightsText (runtimeRadius : Bool) : Table := if runtimeRadius then .taps else .w

/-- This pixel in tile coordinates. -/
def emitCoordinates (tiled : Bool) (r : IntExpr) : Stmt :=
  if tiled then
    .all [.int .lx (.add (.ofUnsigned (.threadIdx .x)) r),
          .int .ly (.add (.ofUnsigned (.threadIdx .y)) r)]
  else .nop

/-- The stencil body.  Its text is the same in both variants, but for the fetch. -/
def emitStencilBody (stencil : Op) (radius : ℤ) (colors : ℕ) (tiled runtimeRadius : Bool)
    (tapArgs : List ℕ) : Stmt :=
  let r := radiusText radius runtimeRadius
  let weights := weightsText runtimeRadius
  if stencil.kind = .kGaussian then
    .all
      [emitCoordinates tiled r,
       .array .acc colors (some 0),
       .forUpTo .dy (.neg r) r (.forUpTo .dx (.neg r) r (.all
        [emitFetch colors tiled tapArgs,
         .float .w (.mul (.table weights (.add (.var .dy) r)) (.table weights (.add (.var .dx) r))),
         .forColors colors fun c => .accumulate .acc c (.mul (.scalar .w) (.cell .t c))])),
       .forColors colors fun c => .set .v c (.quantize (.cell .acc c))]
  else
    .all
      [emitCoordinates tiled r,
       .array .gx colors (some 0),
       .array .gy colors (some 0),
       .forUpTo .dy (.lit (-1)) (.lit 1) (.forUpTo .dx (.lit (-1)) (.lit 1) (.all
        [emitFetch colors tiled tapArgs,
         .int .k (.add (.mul (.add (.var .dy) (.lit 1)) (.lit 3)) (.add (.var .dx) (.lit 1))),
         .forColors colors fun c => .seq
          (.accumulate .gx c (.mul (.table .gx (.var .k)) (.cell .t c)))
          (.accumulate .gy c (.mul (.table .gy (.var .k)) (.cell .t c)))])),
       .forColors colors fun c => .set .v c (.quantize (.sqrtf
        (.add (.mul (.cell .gx c) (.cell .gx c)) (.mul (.cell .gy c) (.cell .gy c)))))]

/-! ## Stages and the program -/

/-- What the launcher needs to know of an emitted stage. -/
structure GeneratedStage where
  kernelName : KernelName
  isStencil : Bool
  blockDim : ℕ := kNaiveBlockDim
  paramOps : List ℕ := []
  deriving DecidableEq, Repr

/-- The part of a kernel behind the load phase: one pixel, from its bounds check to its stores. -/
def emitPixel (channels colors : ℕ) (body epilogue : Stmt) : List Item :=
  [.stmt (.int .x (.ofUnsigned (.add (.mul (.blockIdx .x) (.blockDim .x)) (.threadIdx .x)))),
   .stmt (.int .y (.ofUnsigned (.add (.mul (.blockIdx .y) (.blockDim .y)) (.threadIdx .y)))),
   .returnIf (.or (.ge (.var .x) (.var .width)) (.ge (.var .y) (.var .height))),
   .stmt (.int .i (sampleIndex .x .y channels)),
   .stmt (.array .v colors none),
   .stmt body,
   .stmt epilogue,
   .stmt (.forColors colors fun c =>
    .setDst (.add (.var .i) (.lit c)) (.storeSample (.cell .v c))),
   .stmt (if channels = 4 then
      -- Alpha comes from the centre pixel of `src`, not from the stencil.
      .setDst (.add (.var .i) (.lit 3)) (.src (.add (.var .i) (.lit 3)))
    else .nop)]

/-- A stage without a stencil: a pure pointwise kernel, naive in either variant. -/
def emitPointwiseStage (name : KernelName) (stage : Stage) (channels colors : ℕ)
    (parameterized : Bool) : Except Exn (StageCode × GeneratedStage) := do
  let params := paramIndices stage.prologue parameterized
    ++ paramIndices stage.epilogue parameterized
  let prologue ← emitPointwise colors .v parameterized stage.prologue
  let epilogue ← emitPointwise colors .v parameterized stage.epilogue
  let load := Stmt.forColors colors fun c => .set .v c (.loadSample (.add (.var .i) (.lit c)))
  .ok ({
    name := name
    constants := none
    tap := none
    kernel := {
      runtimeRadius := false
      params := params
      launchBounds := none
      tile := none
      phases := [emitPixel channels colors (.seq load prologue) epilogue] } },
    { kernelName := name, isStencil := false, paramOps := params })

/-- A stage around a stencil. -/
def emitStencilStage (cmath : CMath) (name : KernelName) (stage : Stage) (stencil : PlannedOp)
    (channels colors tileSize : ℕ) (parameterized : Bool) :
    Except Exn (StageCode × GeneratedStage) := do
  let runtimeRadius := parameterized && stencil.op.kind == .kGaussian
  let prologueParams := paramIndices stage.prologue parameterized
  let params := prologueParams ++ paramIndices stage.epilogue parameterized
  let (constants, radius) :=
    if !runtimeRadius then
      let emitted := emitStencilConstants cmath stencil.op
      (some emitted.1, emitted.2)
    else (none, 0)
  let tap ← emitTapFunction stage channels colors parameterized prologueParams
  let tiled := decide (tileSize > 0)
  let blockDim := if tiled then tileSize else kNaiveBlockDim
  let load ← emitLoadPhase tiled radius tileSize colors
  let body := emitStencilBody stencil.op radius colors tiled runtimeRadius prologueParams
  let epilogue ← emitPointwise colors .v parameterized stage.epilogue
  .ok ({
    name := name
    constants := constants
    tap := some tap
    kernel := {
      runtimeRadius := runtimeRadius
      params := params
      launchBounds := if tiled then some (blockDim * blockDim) else none
      tile := load.map Prod.fst
      phases := (load.map fun emitted => [Item.stmt emitted.2]).toList
        ++ [emitPixel channels colors body epilogue] } },
    { kernelName := name
      isStencil := true
      blockDim := blockDim
      paramOps := (if runtimeRadius then [stencil.index] else []) ++ params })

/-- `emit_stage`: the kernel of one stage, with what the launcher needs to know of it. -/
def emitStage (cmath : CMath) (name : KernelName) (stage : Stage) (channels colors tileSize : ℕ)
    (parameterized : Bool) : Except Exn (StageCode × GeneratedStage) :=
  match stage.stencil with
  | none => emitPointwiseStage name stage channels colors parameterized
  | some stencil =>
      emitStencilStage cmath name stage stencil channels colors tileSize parameterized

/-- One translation unit: the header comment, the prelude, and every stage in execution order. -/
structure TranslationUnit where
  chainComment : List Char
  channels : ℕ
  colors : ℕ
  tileSize : ℕ
  /-- Emits the line about constants and `struct imgjit_gaussian_taps`. -/
  parameterized : Bool
  stages : List StageCode
  deriving DecidableEq, Repr

/-- `GeneratedProgram`: the source, and its stages in the order in which they are launched. -/
structure GeneratedProgram where
  source : TranslationUnit
  stages : List GeneratedStage
  deriving DecidableEq, Repr

/-- The loop over the planned stages. -/
def emitStages (cmath : CMath) (channels colors tileSize : ℕ) (parameterized : Bool) :
    List Stage → ℕ → Except Exn (List (StageCode × GeneratedStage))
  | [], _ => .ok []
  | stage :: rest, i => do
      let first ← emitStage cmath ⟨i⟩ stage channels colors tileSize parameterized
      let later ← emitStages cmath channels colors tileSize parameterized rest (i + 1)
      .ok (first :: later)

/-- `emit_cuda_source`: the checks of the key, in order, and the stages of its chain. -/
def emitCudaSource (cmath : CMath) (key : KernelKey) : Except Exn GeneratedProgram :=
  if !isSupportedChannelCount key.channels then
    .error (.invalidArgument ("emit_cuda_source: unsupported channel count "
      ++ toString key.channels.toInt))
  else if !isSupportedTile key.tile key.tileSize then
    .error (.invalidArgument ("emit_cuda_source: unsupported tile size "
      ++ toString key.tileSize.toInt ++ " (naive takes 0, tiled takes 1-" ++ toString kMaxTileSize
      ++ ")"))
  else if !isSupportedConstants key.constants key.tile then
    .error (.invalidArgument ("emit_cuda_source: parameterized constants need naive stencils — "
      ++ "a tiled stage sizes its __shared__ array from the stencil radius, which is only known "
      ++ "at launch"))
  else do
    let channels := key.channels.toInt.toNat
    let colors := Cpu.colorChannels channels
    let tileSize := if key.tile = .kTiled then key.tileSize.toInt.toNat else 0
    let parameterized := key.constants == .kParameterized
    let emitted ← emitStages cmath channels colors tileSize parameterized (planStages key.chain) 0
    .ok {
      source := {
        chainComment := chainComment key.chain parameterized
        channels := channels
        colors := colors
        tileSize := tileSize
        parameterized := parameterized
        stages := emitted.map Prod.fst }
      stages := emitted.map Prod.snd }

end Cuda

end Imgjit
