import Imgjit.Cuda.LaunchArguments
import Imgjit.Cuda.StageRanges

/-!
# Launches on a device with 32-bit integers

`StageCode.run` follows the threads of a launch in exact integers, so that a kernel computes its
stage whatever the size of the frame.  An `int` of the device has 32 bits.  A launch is free of
overflows if every `int` that one of its threads evaluates is in range, and then the exact integers
are the machine's; otherwise the standard gives it no result at all, or an implementation-defined
one.

**The launch.**  `StageCode.InRange` looks at all threads of the grid, also at those beside the
frame.  `StageCode.run32` is the launch as the device performs it: without an outcome if there is an
overflow.

**Grids that fit.**  `GridFits` leaves an apron to the right of the last block and below it.  In a
`Sized` frame a grid that fits has no overflow: `inRange_of_fits`.

**All kernels at once.**  `Addressable` bounds the frame alone.  It leaves 43 columns and rows, 31
for the rest of the last tile and 12 for the widest stencil, so that `Addressable.inRange` holds of
every kernel that the code generator emits, in either variant.  It asks for slightly more than
`Indexable` does, since the threads beside the frame count as well.

**A whole program.**  `CompiledChain.launch32` is the loop of the launcher over the stages, each of
them in 32-bit integers.
-/

namespace Imgjit

namespace Cuda

/-! ## The launch -/

/-- A value of type `int` is one that 32 bits hold.  Whether an index is inside its buffer is for
the launch itself to see. -/
def Access.IsInt : Access → Prop
  | int value => -2 ^ 31 ≤ value ∧ value < 2 ^ 31
  | src _ => True
  | dst _ => True

/-- Whether an access is of the first kind can be computed. -/
instance (access : Access) : Decidable access.IsInt :=
  match access with
  | .int _ => inferInstanceAs (Decidable (_ ∧ _))
  | .src _ => inferInstanceAs (Decidable True)
  | .dst _ => inferInstanceAs (Decidable True)

/-- An access in range of a buffer is in range of `int`. -/
lemma Access.Fits.isInt {size : ℕ} {access : Access} (h : access.Fits size) : access.IsInt := by
  cases access with
  | int value => exact h
  | src index => trivial
  | dst index => trivial

namespace StageCode

/-- No thread of the launch evaluates an `int` that is out of range. -/
def InRange (stage : StageCode) (launch : Launch) (args : BoundArgs) : Prop :=
  ∀ t ∈ Grid.gridThreads launch.grid launch.blockDim,
    ∀ access ∈ stage.touches launch args t.1 t.2, access.IsInt

/-- Whether a launch is free of overflows can be computed. -/
instance (stage : StageCode) (launch : Launch) (args : BoundArgs) :
    Decidable (stage.InRange launch args) :=
  inferInstanceAs (Decidable (∀ t ∈ _, ∀ access ∈ _, _))

/-- **A launch on the device**, whose `int` has 32 bits: with an overflow it has no outcome. -/
def run32 (stage : StageCode) (launch : Launch) (schedule : Schedule) : Option LaunchRun := do
  let args ← stage.kernel.bindArgs launch.args
  if stage.InRange launch args then stage.run launch schedule else none

variable {stage : StageCode} {launch : Launch} {schedule : Schedule} {run : LaunchRun}

/-- Without an overflow the exact integers are the machine's. -/
lemma run32_eq_some (hrun : stage.run launch schedule = some run)
    (h : ∀ args, stage.kernel.bindArgs launch.args = some args → stage.InRange launch args) :
    stage.run32 launch schedule = some run := by
  rcases Option.bind_eq_some_iff.mp hrun with ⟨args, hargs, -⟩
  rw [run32, hargs]
  exact (if_pos (h args hargs)).trans hrun

/-- An overflow leaves nothing behind. -/
lemma run32_eq_none
    (h : ∀ args, stage.kernel.bindArgs launch.args = some args → ¬stage.InRange launch args) :
    stage.run32 launch schedule = none := by
  cases hargs : stage.kernel.bindArgs launch.args with
  | none =>
      rw [run32, hargs]
      rfl
  | some args =>
      rw [run32, hargs]
      exact if_neg (h args hargs)

end StageCode

/-! ## Grids that fit -/

/-- The blocks of `dim` threads that cover an axis. -/
def blocksOf (extent dim : ℕ) : ℕ := (extent + dim - 1) / dim

/-- The blocks reach at most `dim - 1` beyond the axis. -/
lemma blocksOf_mul_le {extent dim : ℕ} : blocksOf extent dim * dim ≤ extent + dim - 1 :=
  Nat.div_mul_le_self _ _

/-- The blocks cover the axis. -/
lemma le_blocksOf_mul {extent dim : ℕ} (hdim : 0 < dim) : extent ≤ blocksOf extent dim * dim := by
  have hdiv := Nat.div_add_mod (extent + dim - 1) dim
  have hmod := Nat.mod_lt (extent + dim - 1) hdim
  rw [Nat.mul_comm] at hdiv
  rw [blocksOf]
  omega

/-- The threads of a grid, and an `apron` to the right of the last block and below it, are within
the range of `int`. -/
structure GridFits (width height dim apron : ℕ) : Prop where
  columns : blocksOf width dim * dim + apron ≤ 2 ^ 31
  rows : blocksOf height dim * dim + apron ≤ 2 ^ 31

/-- A launch over a frame of this size, as the backend makes it. -/
structure Covers (launch : Launch) (width height dim : ℕ) : Prop where
  grid : launch.grid = (blocksOf width dim, blocksOf height dim)
  blockDim : launch.blockDim = dim
  width : launch.width = width
  height : launch.height = height

/-- A coordinate of a thread, and of the cells it stages. -/
lemma coordinate_lt {blocks dim apron block : ℕ} (hfits : blocks * dim + apron ≤ 2 ^ 31)
    (hblock : block < blocks) : block * dim + dim + apron ≤ 2 ^ 31 := by
  calc block * dim + dim + apron = (block + 1) * dim + apron := by ring
    _ ≤ blocks * dim + apron := Nat.add_le_add_right (Nat.mul_le_mul_right _ hblock) _
    _ ≤ 2 ^ 31 := hfits

section Grid

variable {width height channels reach apron : ℕ} {cmath : CMath} {name : KernelName} {stage : Stage}
  {colors tileSize : ℕ} {parameterized : Bool} {code : StageCode} {generated : GeneratedStage}
  {launch : Launch} {args : BoundArgs}

/-- **A launch whose grid fits** has no overflow. -/
theorem inRange_of_fits (hsize : Sized width height channels reach)
    (hgrid : GridFits width height generated.blockDim apron)
    (hchannels : 0 < channels ∧ channels ≤ 4) (hcolors : colors ≤ channels) (htile : tileSize ≤ 32)
    (h : emitStage cmath name stage channels colors tileSize parameterized = .ok (code, generated))
    (hnaive : parameterized = true → tileSize = 0) (hranges : StageRanges stage code args)
    (hcovers : Covers launch width height generated.blockDim) (hpos : 0 < width ∧ 0 < height)
    (hreach : ∀ stencil, stage.stencil = some stencil →
      stageRadius stencil.op code.kernel.runtimeRadius args ≤ reach)
    (hapron : ∀ stencil, stage.stencil = some stencil → 0 < tileSize →
      stencilRadius stencil.op ≤ apron) : code.InRange launch args := by
  intro t ht access haccess
  have hblock := (emitStage_header h).blockDim
  rcases Grid.mem_gridThreads.mp ht with ⟨hblocks, hthread⟩
  simp only [hcovers.grid, hcovers.blockDim, Grid.mem_points] at hblocks hthread
  have hcolumn : t.1.1 * generated.blockDim + generated.blockDim + apron ≤ 2 ^ 31 :=
    coordinate_lt hgrid.columns hblocks.1
  have hrow : t.1.2 * generated.blockDim + generated.blockDim + apron ≤ 2 ^ 31 :=
    coordinate_lt hgrid.rows hblocks.2
  have hthreadFits : ThreadFits stage code generated args tileSize reach t.1 t.2 := by
    refine ⟨by omega, by omega, hreach, fun stencil hstencil htiled => ?_⟩
    rw [if_pos ⟨by rw [hstencil]; rfl, htiled⟩] at hblock
    have hradius := hapron stencil hstencil htiled
    rw [hblock] at hcolumn hrow
    -- The cells of a block end one radius behind it.
    intro k hk _
    have hedge : 0 < tileSize + 2 * (stencilRadius stencil.op).toNat := by omega
    have hleft := Nat.mod_lt k hedge
    have htop : k / (tileSize + 2 * (stencilRadius stencil.op).toNat)
        < tileSize + 2 * (stencilRadius stencil.op).toNat := Nat.div_lt_of_lt_mul hk
    omega
  exact (stage_within hsize hchannels hcolors htile h hnaive hranges
    ⟨hcovers.width, hcovers.height, hcovers.blockDim, hthread⟩ hpos hthreadFits access
    haccess).isInt

end Grid

/-! ## All kernels at once -/

/-- The sizes for which no kernel overflows, whatever its stage, its variant and its tiles. -/
structure Addressable (width height channels : ℕ) : Prop where
  samples : width * height * channels ≤ 2 ^ 31
  columns : width ≤ 2 ^ 31 - 43
  rows : height ≤ 2 ^ 31 - 43

namespace Addressable

variable {width height channels : ℕ}

lemma sized (h : Addressable width height channels) : Sized width height channels 12 := by
  have hcolumns := h.columns
  have hrows := h.rows
  exact ⟨by omega, h.samples, by omega, by omega⟩

lemma gridFits (h : Addressable width height channels) {dim : ℕ} (hdim : dim ≤ 32) :
    GridFits width height dim 12 := by
  have hcolumns := h.columns
  have hrows := h.rows
  have hwidth : blocksOf width dim * dim ≤ width + dim - 1 := blocksOf_mul_le
  have hheight : blocksOf height dim * dim ≤ height + dim - 1 := blocksOf_mul_le
  exact ⟨by omega, by omega⟩

/-- **No kernel of an addressable frame overflows.** -/
theorem inRange (hsize : Addressable width height channels)
    (hchannels : 0 < channels ∧ channels ≤ 4) {colors tileSize : ℕ} (hcolors : colors ≤ channels)
    (htile : tileSize ≤ 32) {cmath : CMath} {name : KernelName} {stage : Stage}
    {parameterized : Bool} {code : StageCode} {generated : GeneratedStage}
    (h : emitStage cmath name stage channels colors tileSize parameterized = .ok (code, generated))
    (hnaive : parameterized = true → tileSize = 0) {launch : Launch} {args : BoundArgs}
    (hranges : StageRanges stage code args)
    (hcovers : Covers launch width height generated.blockDim) (hpos : 0 < width ∧ 0 < height) :
    code.InRange launch args := by
  have hdim : generated.blockDim ≤ 32 := by
    rw [(emitStage_header h).blockDim]
    split_ifs
    · exact htile
    · exact show kNaiveBlockDim ≤ 32 by decide
  refine inRange_of_fits hsize.sized (hsize.gridFits hdim) hchannels hcolors htile h hnaive hranges
    hcovers hpos (fun stencil hstencil => ?_) fun stencil hstencil _ => ?_
  · exact (hranges.stageRadius_mem (hranges.stencil stencil hstencil).2).2
  · exact (stencilRadius_mem (hranges.stencil stencil hstencil).2).2

end Addressable

/-! ## The launches of a backend -/

/-- The tile size a key is emitted with. -/
lemma emitted_tileSize {cmath : CMath} {key : KernelKey} {program : GeneratedProgram}
    (h : emitCudaSource cmath key = .ok program) :
    (if key.tile = .kTiled then key.tileSize.toInt.toNat else 0) ≤ 32
      ∧ ((key.constants == .kParameterized) = true →
        (if key.tile = .kTiled then key.tileSize.toInt.toNat else 0) = 0) := by
  constructor
  · unfold emitCudaSource at h
    iterate 2
      split at h
      · cases h
    rename_i htile
    rw [Bool.not_eq_true', Bool.not_eq_false] at htile
    split
    · rename_i htiled
      simp only [isSupportedTile, htiled, Bool.and_eq_true, decide_eq_true_eq] at htile
      have hmax : key.tileSize.toInt ≤ 32 := htile.2
      omega
    · exact Nat.zero_le _
  · intro hparameterized
    rw [naive_of_parameterized h (by simpa using hparameterized)]
    rfl

/-- **The values that a frame passes** are in range: a stencil of a planned stage is one that the op
set admits, also when the stage was compiled for an equal key with other values. -/
lemma plannedStage_ranges {cmath : CMath} {key key' : KernelKey} {name : KernelName} {stage : Stage}
    {channels colors tileSize : ℕ} {parameterized : Bool} {code : StageCode}
    {generated : GeneratedStage} {values : List KernelArg} {args : BoundArgs}
    (hequal : key.beq key' = true) (hkey : AdmittedChain key.chain)
    (hkey' : AdmittedChain key'.chain) (hstage : stage ∈ planStages key.chain)
    (h : emitStage cmath name stage channels colors tileSize parameterized = .ok (code, generated))
    (hmode : parameterized = true → tileSize = 0 ∧ colors = Cpu.colorChannels channels)
    (hvalues : stageArguments cmath key'.chain generated = some values)
    (hargs : code.kernel.bindArgs values = some args) : StageRanges stage code args := by
  have hwell := planStages_wellFormed key.chain stage hstage
  refine ⟨fun planned hplanned => ⟨hwell.stencil planned hplanned, ?_⟩, fun hruntime => ?_⟩
  · have hmem : planned ∈ stage.planned :=
      List.mem_append_right _ (List.mem_append_left _ (Option.mem_toList.mpr hplanned))
    exact hkey _ (List.mem_of_getElem? (planned_getElem? hstage hmem))
  · cases parameterized with
    | false =>
        rw [(emitStage_baked h).1] at hruntime
        cases hruntime
    | true =>
        rcases hmode rfl with ⟨rfl, rfl⟩
        rcases plannedStage_passes hequal hkey' hstage (emitStage_parameterized h) with
          ⟨values', hvalues', hpasses⟩
        obtain rfl := Option.some.inj (hvalues'.symm.trans hvalues)
        rcases hpasses.bound with ⟨bound, hbound, -, hradius⟩
        obtain rfl := Option.some.inj (hbound.symm.trans hargs)
        rcases hradius hruntime with ⟨g, op, -, hop, hkind, hvalue, -⟩
        rw [hvalue]
        exact ⟨le_max_left _ _, Cpu.gaussianRadius_le
          ((hkey' op (List.mem_of_getElem? hop)).sigma_mem hkind).2⟩

/-- **The launch that the backend makes** covers the frame. -/
lemma stageLaunch_covers {cmath : CMath} {job : FrameJob} (generated : GeneratedStage)
    {source destination : List UInt8} {args : List KernelArg}
    (hwidth : 0 < job.width.toInt) (hheight : 0 < job.height.toInt)
    (hpos : 0 < generated.blockDim) (hsmall : generated.blockDim ≤ 32) :
    Covers (stageLaunch cmath job generated source destination args) job.width.toInt.toNat
      job.height.toInt.toNat generated.blockDim := by
  have hblock : (UInt32.ofNat generated.blockDim).toNat = generated.blockDim :=
    UInt32.toNat_ofNat_of_lt' (by simp only [UInt32.size]; omega)
  have hblocks : ∀ extent : Int32, 0 < extent.toInt →
      (gridDim extent (UInt32.ofNat generated.blockDim)).toNat
        = blocksOf extent.toInt.toNat generated.blockDim := by
    intro extent hextent
    rw [gridDim_toNat hextent (by omega) (by omega), hblock, blocksOf]
  refine ⟨?_, hblock, (Int.toNat_of_nonneg hwidth.le).symm, (Int.toNat_of_nonneg hheight.le).symm⟩
  rw [← hblocks _ hwidth, ← hblocks _ hheight]
  rfl

/-- The frame of an image covers it with its blocks. -/
lemma FrameOf.covers {cmath : CMath} {job : FrameJob} {image : Image} {generated : GeneratedStage}
    {source destination : List UInt8} {values : List KernelArg} (hframe : FrameOf job image)
    (hpos : 0 < generated.blockDim) (hsmall : generated.blockDim ≤ 32) :
    Covers (stageLaunch cmath job generated source destination values) image.width image.height
      generated.blockDim := by
  have hw := image.width_pos
  have hh := image.height_pos
  have hcovers : Covers (stageLaunch cmath job generated source destination values)
      job.width.toInt.toNat job.height.toInt.toNat generated.blockDim :=
    stageLaunch_covers generated (by rw [hframe.width]; omega) (by rw [hframe.height]; omega) hpos
      hsmall
  rwa [hframe.width, hframe.height, Int.toNat_natCast, Int.toNat_natCast] at hcovers

end Cuda

end Imgjit
