import Imgjit.Cuda.IntLaunch
import Imgjit.Cuda.TouchedInts

/-!
# Tiled and naive launches

A tiled kernel differs from the naive one in where a tap is read, and in the integers it computes on
the way: its blocks stage an apron of `radius` pixels around their tiles, and the blocks at the
right and at the lower edge reach beyond the frame.  The first difference changes nothing.  The
second does, near the end of the range of an `int`: the coordinates of an apron are formed before
they are clamped, and by threads that stand beside the frame as well.

**Launches that fit.**  `TilesFit` says that the samples, the last column of the last tile's apron
and its last row have numbers that an `int` holds.  Then both kernels run to their end, and they
leave the same bytes.

**Launches that do not.**  In every other frame some thread of the tiled kernel computes an `int`
that is out of range (`gridFits_of_inRange`, `samples_of_inRange`), and the launch has no outcome,
though the naive one may have one: `Widest.tiledStage_overflows`.

`tiledStage_eq_naive` puts the two together, with everything else that is to be said of a tile: it
is filled before it is read, every cell by one thread, every tap is inside it, and every byte of the
frame is stored once.
-/

namespace Imgjit

namespace Cuda

/-- The samples of the frame, and the apron of the last tile of each row and column, have numbers
that an `int` holds. -/
structure TilesFit (width height channels dim radius : ℕ) : Prop extends
    GridFits width height dim radius where
  samples : width * height * channels ≤ 2 ^ 31

/-! ## Launches that fit -/

section Fits

variable {cmath : CMath} {image : Image} {name : KernelName} {stage : Stage} {stencil : PlannedOp}
  {tileSize : ℕ} {code : StageCode} {generated : GeneratedStage} {job : FrameJob}
  {src dst : List UInt8} {args : BoundArgs}

/-- A baked stage has no radius among its arguments. -/
lemma stageRanges_baked (hstage : stage.WellFormed)
    (hadmitted : ∀ stencil, stage.stencil = some stencil → AdmittedOp stencil.op)
    {channels colors : ℕ}
    (h : emitStage cmath name stage channels colors tileSize false = .ok (code, generated)) :
    StageRanges stage code args := by
  refine ⟨fun planned hplanned => ⟨hstage.stencil planned hplanned, hadmitted planned hplanned⟩,
    fun hruntime => ?_⟩
  rw [(emitStage_baked h).1] at hruntime
  cases hruntime

/-- **A baked stencil stage** in range: its grid fits with the apron it stages, if it stages one,
and the window of its last pixel fits. -/
lemma bakedStage_inRange (hstage : stage.WellFormed) (hstencil : stage.stencil = some stencil)
    (hadmitted : AdmittedOp stencil.op) (hsmall : tileSize ≤ 32)
    (h : emitStage cmath name stage image.channels (Cpu.colorChannels image.channels) tileSize false
      = .ok (code, generated)) (apron : ℕ) {values : List KernelArg}
    (hframe : FrameOf job image) (hpos : 0 < generated.blockDim) (hdim : generated.blockDim ≤ 32)
    (hsamples : image.width * image.height * image.channels ≤ 2 ^ 31)
    (hcolumns : image.width + (stencilRadius stencil.op).toNat ≤ 2 ^ 31)
    (hrows : image.height + (stencilRadius stencil.op).toNat ≤ 2 ^ 31)
    (hgrid : GridFits image.width image.height generated.blockDim apron)
    (hapron : 0 < tileSize → (stencilRadius stencil.op).toNat ≤ apron) :
    code.InRange (stageLaunch cmath job generated src dst values) args := by
  have hradius := stencilRadius_mem hadmitted
  have hchannels := image.supported
  have hbaked := emitStage_baked h
  have honly : ∀ other, stage.stencil = some other → other = stencil := fun other hother =>
    Option.some.inj (hother.symm.trans hstencil)
  have hranges : StageRanges stage code args := by
    refine stageRanges_baked hstage (fun other hother => ?_) h
    rwa [honly other hother]
  refine inRange_of_fits ⟨by omega, hsamples, hcolumns, hrows⟩ hgrid ⟨by omega, by omega⟩
    (Cpu.colorChannels_le image) hsmall h (fun hfalse => absurd hfalse Bool.false_ne_true) hranges
    (hframe.covers hpos hdim) ⟨image.width_pos, image.height_pos⟩ (fun other hother => ?_)
    fun other hother htiled => ?_
  · rw [honly other hother, stageRadius, if_neg (by rw [hbaked.1]; exact Bool.false_ne_true)]
    exact Int.self_le_toNat _
  · rw [honly other hother]
    have hreach := hapron htiled
    omega

end Fits

/-! ## Launches that do not -/

section Overflows

variable {cmath : CMath} {name : KernelName} {stage : Stage} {stencil : PlannedOp}
  {width height channels tileSize : ℕ} {code : StageCode} {generated : GeneratedStage}
  {launch : Launch} {args : BoundArgs}

/-- A tiled kernel of a stencil: its load phase, and its pixels. -/
lemma tiledStage_phases (hstencil : stage.stencil = some stencil) (hpos : 0 < tileSize)
    (h : emitStage cmath name stage channels (Cpu.colorChannels channels) tileSize false
      = .ok (code, generated)) :
    ∃ shape load body epilogue,
      emitTileLoad (stencilRadius stencil.op) tileSize (Cpu.colorChannels channels)
          = .ok (shape, load)
        ∧ code.kernel.phases = [[.stmt load],
          emitPixel channels (Cpu.colorChannels channels) body epilogue]
        ∧ body.assigned ⊆ bodyInts ∧ epilogue.Silent := by
  have hbaked := (emitStage_baked h).1
  rw [emitStage, hstencil] at h
  rcases emitStencilStage_parts h with ⟨helper, baked, load, epilogue, hparts⟩
  have hload := hparts.loadPhase
  rw [hparts.literal hbaked, emitLoadPhase, if_pos (decide_eq_true hpos)] at hload
  cases hemitted : emitTileLoad (stencilRadius stencil.op) tileSize
      (Cpu.colorChannels channels) with
  | error error =>
      rw [hemitted] at hload
      cases hload
  | ok emitted =>
      rw [hemitted] at hload
      cases hload
      exact ⟨emitted.1, emitted.2, _, epilogue, rfl, hparts.phases,
        emitStencilBody_assigned _ _ _ _ _ _, emitPointwise_silent hparts.pointwise⟩

/-- Every cell of a tile is staged by a thread of its block. -/
lemma exists_stagingThread {dim : ℕ} (hdim : 0 < dim) (k : ℕ) :
    ∃ thread : ℕ × ℕ, (thread.1 < dim ∧ thread.2 < dim) ∧ thread.2 * dim + thread.1 ≤ k
      ∧ k % (dim * dim) = (thread.2 * dim + thread.1) % (dim * dim) := by
  have hlt : k % (dim * dim) < dim * dim := Nat.mod_lt k (Nat.mul_pos hdim hdim)
  have hnumber : k % (dim * dim) / dim * dim + k % (dim * dim) % dim = k % (dim * dim) :=
    Nat.div_add_mod' _ dim
  refine ⟨(k % (dim * dim) % dim, k % (dim * dim) / dim),
    ⟨Nat.mod_lt _ hdim, Nat.div_lt_of_lt_mul hlt⟩, ?_, ?_⟩
  · exact hnumber.le.trans (Nat.mod_le _ _)
  · exact ((congrArg (· % (dim * dim)) hnumber).trans (Nat.mod_mod _ _)).symm

/-- **The apron of the last tile.**  Every cell of a tile is staged by some thread of its block, so
a tiled kernel that stays in range has a grid that fits. -/
theorem gridFits_of_inRange (hstencil : stage.stencil = some stencil)
    (hadmitted : AdmittedOp stencil.op) (hpos : 0 < tileSize)
    (h : emitStage cmath name stage channels (Cpu.colorChannels channels) tileSize false
      = .ok (code, generated)) (hcovers : Covers launch width height tileSize)
    (hframe : 0 < width ∧ 0 < height) (hrange : code.InRange launch args) :
    GridFits width height tileSize (stencilRadius stencil.op).toNat := by
  have hradius := stencilRadius_mem hadmitted
  rcases tiledStage_phases hstencil hpos h with ⟨shape, load, body, epilogue, hload, hphases, -, -⟩
  rw [← Int.toNat_of_nonneg (show 0 ≤ stencilRadius stencil.op by omega)] at hload
  generalize (stencilRadius stencil.op).toNat = radius at hload
  have hblocks : ∀ {extent : ℕ}, 0 < extent → 0 < blocksOf extent tileSize := by
    intro extent hextent
    by_contra hnone
    have hreaches : extent ≤ blocksOf extent tileSize * tileSize := le_blocksOf_mul hpos
    rw [Nat.eq_zero_of_not_pos hnone] at hreaches
    omega
  -- The thread of a block that stages the cell `k`.
  have hcell : ∀ block ∈ Grid.points (blocksOf width tileSize) (blocksOf height tileSize),
      ∀ k < (tileSize + 2 * radius) * (tileSize + 2 * radius),
        block.1 * tileSize + k % (tileSize + 2 * radius) < 2 ^ 31 + radius
          ∧ block.2 * tileSize + k / (tileSize + 2 * radius) < 2 ^ 31 + radius := by
    intro block hblock k hk
    rcases exists_stagingThread hpos k with ⟨thread, hthread, hfirst, hmod⟩
    have hin := hrange (block, thread) (Grid.mem_gridThreads.mpr
      ⟨by rw [hcovers.grid]; exact hblock,
        Grid.mem_points.mpr (by rw [hcovers.blockDim]; exact hthread)⟩)
    have htouched : ∀ access : Access,
        (access = .int (((block.1 * tileSize : ℕ) : ℤ) - radius
            + ((k % (tileSize + 2 * radius) : ℕ) : ℤ))
          ∨ access = .int (((block.2 * tileSize : ℕ) : ℤ) - radius
            + ((k / (tileSize + 2 * radius) : ℕ) : ℤ))) → access.IsInt := by
      intro access haccess
      refine hin access ?_
      rw [StageCode.touches, hphases]
      refine List.mem_append_left _ (tileLoad_touches radius k hload hpos hk ?_ ?_ ?_)
      · rw [env_thread]
        exact hfirst
      · rw [env_thread]
        exact hmod
      · rw [env_block]
        exact haccess
    have hcolumn := (htouched _ (.inl rfl)).2
    have hrow := (htouched _ (.inr rfl)).2
    omega
  have hlast : ∀ k < (tileSize + 2 * radius) * (tileSize + 2 * radius),
      (blocksOf width tileSize - 1) * tileSize + k % (tileSize + 2 * radius) < 2 ^ 31 + radius
        ∧ (blocksOf height tileSize - 1) * tileSize + k / (tileSize + 2 * radius)
          < 2 ^ 31 + radius := by
    have hcolumns := hblocks hframe.1
    have hrows := hblocks hframe.2
    exact hcell (blocksOf width tileSize - 1, blocksOf height tileSize - 1)
      (Grid.mem_points.mpr ⟨by omega, by omega⟩)
  have hedge : ∀ blocks : ℕ, 0 < blocks →
      (blocks - 1) * tileSize + tileSize = blocks * tileSize := by
    intro blocks hpositive
    rw [← Nat.add_one_mul, Nat.sub_add_cancel hpositive]
  have hcolumns := hedge _ (hblocks hframe.1)
  have hrows := hedge _ (hblocks hframe.2)
  refine ⟨?_, ?_⟩
  · have hcolumn := (hlast (tileSize + 2 * radius - 1)
      (Nat.lt_of_lt_of_le (by omega) (Nat.le_mul_of_pos_left _ (by omega)))).1
    rw [Nat.mod_eq_of_lt (by omega)] at hcolumn
    omega
  · have hrow := (hlast ((tileSize + 2 * radius - 1) * (tileSize + 2 * radius))
      (Nat.mul_lt_mul_of_pos_right (by omega) (by omega))).2
    rw [Nat.mul_div_cancel _ (by omega)] at hrow
    omega

/-- **The last sample.**  It is counted by the thread of the last pixel, so a tiled kernel that
stays in range has no more samples than an `int` can index. -/
theorem samples_of_inRange (hstencil : stage.stencil = some stencil) (hpos : 0 < tileSize)
    (hchannels : channels = 1 ∨ channels = 3 ∨ channels = 4)
    (h : emitStage cmath name stage channels (Cpu.colorChannels channels) tileSize false
      = .ok (code, generated)) (hcovers : Covers launch width height tileSize)
    (hframe : 0 < width ∧ 0 < height) (hrange : code.InRange launch args) :
    width * height * channels ≤ 2 ^ 31 := by
  rcases tiledStage_phases hstencil hpos h with
    ⟨shape, load, body, epilogue, hload, hphases, hbody, hepilogue⟩
  have hblock : ∀ {extent : ℕ}, 0 < extent →
      (extent - 1) / tileSize < blocksOf extent tileSize := by
    intro extent hextent
    have hreaches : extent ≤ blocksOf extent tileSize * tileSize := le_blocksOf_mul hpos
    rw [Nat.mul_comm] at hreaches
    exact Nat.div_lt_of_lt_mul (by omega)
  have hin := hrange (((width - 1) / tileSize, (height - 1) / tileSize),
      ((width - 1) % tileSize, (height - 1) % tileSize)) (Grid.mem_gridThreads.mpr
    ⟨by rw [hcovers.grid]; exact Grid.mem_points.mpr ⟨hblock hframe.1, hblock hframe.2⟩,
      by rw [hcovers.blockDim]; exact Grid.mem_points.mpr ⟨Nat.mod_lt _ hpos, Nat.mod_lt _ hpos⟩⟩)
  have hloaded : ∀ env ints, Ints.Agree loadInts ints (load.intsAfter env ints) := fun env ints =>
    (load.intsAfter_agree env ints).mono (emitTileLoad_assigned hload)
  have hlast : Access.IsInt (.int ((((height - 1) * width + (width - 1)) * channels : ℕ)
      + ((channels - 1 : ℕ) : ℤ))) := by
    refine hin _ ?_
    rw [StageCode.touches, hphases]
    refine List.mem_append_right _ (pixel_touches ?_ ?_ (by omega) (by omega)
      (((hloaded _ _) .width (by decide)).trans hcovers.width)
      (((hloaded _ _) .height (by decide)).trans hcovers.height) hchannels (fun ints => ?_)
      fun ints => ?_)
    · rw [env_block, env_thread, env_blockDim, hcovers.blockDim, Nat.div_add_mod']
    · rw [env_block, env_thread, env_blockDim, hcovers.blockDim, Nat.div_add_mod']
    · exact (body.intsAfter_agree _ ints).mono hbody .i (by decide)
    · rw [(hepilogue _ (fun _ _ => []) ints).2]
  have hcount : ((height - 1) * width + (width - 1)) * channels + (channels - 1) + 1
      = width * height * channels := lastSample_add_one hframe.1 hframe.2 (by omega)
  have hsmall := hlast.2
  omega

end Overflows

/-! ## Tiled and naive -/

/-- **Tiling changes nothing but where a tap is read.**  For a stencil stage with any prologue and
epilogue, any tile size from 1 to 32 and any frame whose samples and tiles have numbers that an
`int` holds, the tiled and the naive kernel run to their end on the device, and they leave the same
bytes in `dst`, whatever the orders in which their writes land.  The tiled one stores every sample
from exactly one thread, and each of its blocks stages its tile in full before any thread reads it.
In any other frame an `int` of the tiled kernel overflows. -/
theorem tiledStage_eq_naive (cmath : CMath) (image : Image) (name : KernelName) {stage : Stage}
    (hstage : stage.WellFormed) {stencil : PlannedOp} (hstencil : stage.stencil = some stencil)
    (hadmitted : AdmittedOp stencil.op) {tileSize : ℕ} (hpos : 1 ≤ tileSize)
    (hmax : tileSize ≤ 32) :
    ∃ tiled naive generated generated',
      emitStage cmath name stage image.channels (Cpu.colorChannels image.channels) tileSize false
        = .ok (tiled, generated)
      ∧ emitStage cmath name stage image.channels (Cpu.colorChannels image.channels) 0 false
        = .ok (naive, generated')
      ∧ generated.blockDim = tileSize ∧ generated'.blockDim = kNaiveBlockDim
      ∧ ∀ (job : FrameJob) (src dst : List UInt8) (schedule schedule' : Schedule),
        FrameOf job image → Holds src image → image.byteCount ≤ dst.length →
        (TilesFit image.width image.height image.channels tileSize
            (stencilRadius stencil.op).toNat →
          ∃ run run', tiled.run32 (stageLaunch cmath job generated src dst []) schedule = some run
            ∧ naive.run32 (stageLaunch cmath job generated' src dst []) schedule' = some run'
            ∧ run.dst = run'.dst ∧ StoresOnce image run
            ∧ List.Forall₂ (StagesTile image stage tileSize
                (tileSize + 2 * stencilRadius stencil.op).toNat (stencilRadius stencil.op))
              (Grid.points (gridDim job.width (UInt32.ofNat tileSize)).toNat
                (gridDim job.height (UInt32.ofNat tileSize)).toNat) run.blocks)
        ∧ (¬TilesFit image.width image.height image.channels tileSize
            (stencilRadius stencil.op).toNat →
          tiled.run32 (stageLaunch cmath job generated src dst []) schedule = none) := by
  obtain ⟨tiled, htiled, hcomputes⟩ :=
    emitStencilStage_tiled cmath image name hstage hstencil hadmitted hpos hmax
  obtain ⟨naive, hnaive, -, hcomputes'⟩ := emitStage_naive cmath image name hstage
  have hemit : emitStage cmath name stage image.channels (Cpu.colorChannels image.channels) tileSize
      false = .ok (tiled, { kernelName := name, isStencil := true, blockDim := tileSize }) := by
    rw [emitStage, hstencil]
    exact htiled
  refine ⟨tiled, naive, _, _, hemit, hnaive, rfl, rfl,
    fun job src dst schedule schedule' hframe hsrc hdst => ⟨fun hfits => ?_, fun hnot => ?_⟩⟩
  · have hcolumns : image.width ≤ blocksOf image.width tileSize * tileSize := le_blocksOf_mul hpos
    have hrows : image.height ≤ blocksOf image.height tileSize * tileSize := le_blocksOf_mul hpos
    have hright := hfits.columns
    have hbottom := hfits.rows
    have hwidth := image.width_lt
    have hheight := image.height_lt
    obtain ⟨run, hrun, hout, hstores, hblocks⟩ := hcomputes _ schedule
      (stageLaunch_over { kernelName := name, isStencil := true, blockDim := tileSize } hframe hpos
        hmax hsrc hdst) rfl
    obtain ⟨run', hrun', hout', -⟩ := hcomputes' _ schedule'
      (stageLaunch_over { kernelName := name, isStencil := stage.stencil.isSome } hframe
        (show 0 < kNaiveBlockDim by decide) (show kNaiveBlockDim ≤ 32 by decide) hsrc hdst) rfl
    refine ⟨run, run', StageCode.run32_eq_some hrun fun args _ => ?_,
      StageCode.run32_eq_some hrun' fun args _ => ?_, hout.trans hout'.symm, hstores, hblocks⟩
    · exact bakedStage_inRange hstage hstencil hadmitted hmax hemit _ hframe hpos hmax hfits.samples
        (by omega) (by omega) hfits.toGridFits fun _ => le_rfl
    · -- The naive blocks end at `2 ^ 31`, and stage nothing.
      refine bakedStage_inRange hstage hstencil hadmitted (Nat.zero_le 32) hnaive 0 hframe
        (show 0 < kNaiveBlockDim by decide) (show kNaiveBlockDim ≤ 32 by decide) hfits.samples
        (by omega) (by omega) ⟨?_, ?_⟩ fun hzero => absurd hzero (lt_irrefl 0)
      · change (image.width + 16 - 1) / 16 * 16 + 0 ≤ 2 ^ 31
        omega
      · change (image.height + 16 - 1) / 16 * 16 + 0 ≤ 2 ^ 31
        omega
  · refine StageCode.run32_eq_none fun args _ hrange => hnot ?_
    have hcovers : Covers (stageLaunch cmath job
        { kernelName := name, isStencil := true, blockDim := tileSize } src dst [])
        image.width image.height tileSize := by
      refine hframe.covers ?_ ?_
      · exact hpos
      · exact hmax
    have hshape : 0 < image.width ∧ 0 < image.height := ⟨image.width_pos, image.height_pos⟩
    exact ⟨gridFits_of_inRange hstencil hadmitted hpos hemit hcovers hshape hrange,
      samples_of_inRange hstencil hpos image.supported hemit hcovers hshape hrange⟩

/-- A sobel between two pointwise ops. -/
def sobelStage : Stage where
  prologue := [⟨⟨.kBrightness, 1 / 10⟩, 0⟩]
  stencil := some ⟨⟨.kSobel, 0⟩, 1⟩
  epilogue := [⟨⟨.kInvert, 0⟩, 2⟩]

lemma sobelStage_wellFormed : sobelStage.WellFormed where
  prologue := by decide
  epilogue := by decide
  stencil := by
    rintro _ ⟨rfl⟩
    rfl
  epilogue_nil := fun h => by cases h

/-- Two gray pixels in tiles of 3 by 3. -/
theorem tiledStage_eq_naive_sobel :
    ∃ tiled naive generated generated',
      emitStage plainMath ⟨0⟩ sobelStage 1 1 3 false = .ok (tiled, generated)
      ∧ emitStage plainMath ⟨0⟩ sobelStage 1 1 0 false = .ok (naive, generated')
      ∧ ∃ run run', tiled.run32 (stageLaunch plainMath grayPairJob generated [10, 200] [0, 0] [])
            Schedule.inOrder = some run
          ∧ naive.run32 (stageLaunch plainMath grayPairJob generated' [10, 200] [0, 0] [])
            Schedule.inOrder = some run'
          ∧ run.dst = run'.dst := by
  obtain ⟨tiled, naive, generated, generated', htiled, hnaive, -, -, hall⟩ :=
    tiledStage_eq_naive plainMath grayPair ⟨0⟩ sobelStage_wellFormed rfl (admitted_default .kSobel)
      (show 1 ≤ 3 by decide) (show 3 ≤ 32 by decide)
  obtain ⟨run, run', hrun, hrun', heq, -⟩ := (hall grayPairJob [10, 200] [0, 0] Schedule.inOrder
    Schedule.inOrder grayPairJob_frame rfl le_rfl).1
    ⟨⟨by decide +kernel, by decide +kernel⟩, by decide +kernel⟩
  exact ⟨tiled, naive, generated, generated', htiled, hnaive, run, run', hrun, hrun', heq⟩

/-! ## The widest row -/

namespace Widest

lemma row_shaped : Image.Shaped 2147483647 1 1 := by decide

/-- One row of `2 ^ 31 - 1` gray pixels. -/
def row (pixels : List UInt8) (hpixels : pixels.length = 2147483647) : Image :=
  Image.ofShaped row_shaped pixels (hpixels.trans (by decide))

/-- The job of such a row. -/
def job : FrameJob where
  width := 2147483647
  height := 1
  channels := 1

/-- The launch of a stage over the row. -/
def launch (generated : GeneratedStage) (pixels : List UInt8) : Launch :=
  stageLaunch plainMath job generated pixels pixels []

section Row

variable {pixels : List UInt8}

lemma job_frame (hpixels : pixels.length = 2147483647) : FrameOf job (row pixels hpixels) :=
  ⟨rfl, rfl, rfl⟩

lemma row_holds (hpixels : pixels.length = 2147483647) : Holds pixels (row pixels hpixels) :=
  List.take_length

/-- The last tile of 31 columns ends behind column `2 ^ 31`. -/
lemma tiled_overflows {tiled : StageCode} {generated : GeneratedStage}
    (h : emitStage plainMath ⟨0⟩ sobelStage 1 1 31 false = .ok (tiled, generated))
    (schedule : Schedule) : tiled.run32 (launch generated pixels) schedule = none := by
  have hdim : generated.blockDim = 31 := (emitStage_header h).blockDim
  refine StageCode.run32_eq_none fun args _ hrange => ?_
  have hcovers : Covers (launch generated pixels) 2147483647 1 31 := by
    have hcovers : Covers (launch generated pixels) 2147483647 1 generated.blockDim :=
      stageLaunch_covers generated (by decide) (by decide) (by omega) (by omega)
    rwa [hdim] at hcovers
  have hstencil : sobelStage.stencil = some ⟨⟨.kSobel, 0⟩, 1⟩ := rfl
  have hfits := gridFits_of_inRange hstencil (admitted_default .kSobel) (show 0 < 31 by decide) h
    hcovers ⟨by decide, by decide⟩ hrange
  exact absurd hfits.columns (by decide)

/-- The naive blocks of 16 columns end at column `2 ^ 31`. -/
lemma naive_runs (hpixels : pixels.length = 2147483647) (schedule : Schedule) :
    ∃ naive generated, emitStage plainMath ⟨0⟩ sobelStage 1 1 0 false = .ok (naive, generated)
      ∧ ∃ run, naive.run32 (launch generated pixels) schedule = some run := by
  obtain ⟨naive, hnaive, -, hcomputes⟩ :=
    emitStage_naive plainMath (row pixels hpixels) ⟨0⟩ sobelStage_wellFormed
  obtain ⟨run, hrun, -⟩ := hcomputes _ schedule
    (stageLaunch_over { kernelName := ⟨0⟩, isStencil := true } (job_frame hpixels)
      (show 0 < kNaiveBlockDim by decide) (show kNaiveBlockDim ≤ 32 by decide) (row_holds hpixels)
      le_rfl) rfl
  refine ⟨naive, _, hnaive, run, StageCode.run32_eq_some hrun fun args _ => ?_⟩
  exact bakedStage_inRange sobelStage_wellFormed rfl (admitted_default .kSobel) (Nat.zero_le 32)
    hnaive 0 (job_frame hpixels) (show 0 < kNaiveBlockDim by decide)
    (show kNaiveBlockDim ≤ 32 by decide) (show 2147483647 * 1 * 1 ≤ 2 ^ 31 by decide)
    (show 2147483647 + 1 ≤ 2 ^ 31 by decide) (show 1 + 1 ≤ 2 ^ 31 by decide)
    ⟨show blocksOf 2147483647 16 * 16 + 0 ≤ 2 ^ 31 by decide,
      show blocksOf 1 16 * 16 + 0 ≤ 2 ^ 31 by decide⟩ fun hzero => absurd hzero (lt_irrefl 0)

end Row

/-- **The widest row overflows in tiles of 31.**  The stage, the tile size and the frame are as the
service admits them.  The naive kernel runs to its end, and the tiled one has no outcome. -/
theorem tiledStage_overflows :
    sobelStage.WellFormed ∧ sobelStage.stencil = some ⟨⟨.kSobel, 0⟩, 1⟩
      ∧ AdmittedOp ⟨.kSobel, 0⟩
      ∧ FrameOf job (row (List.replicate 2147483647 0) List.length_replicate)
      ∧ Holds (List.replicate 2147483647 0)
        (row (List.replicate 2147483647 0) List.length_replicate)
      ∧ ∃ tiled naive generated generated',
        emitStage plainMath ⟨0⟩ sobelStage 1 1 31 false = .ok (tiled, generated)
        ∧ emitStage plainMath ⟨0⟩ sobelStage 1 1 0 false = .ok (naive, generated')
        ∧ tiled.run32 (launch generated (List.replicate 2147483647 0)) Schedule.inOrder = none
        ∧ ∃ run, naive.run32 (launch generated' (List.replicate 2147483647 0)) Schedule.inOrder
          = some run := by
  have hlength : (List.replicate 2147483647 (0 : UInt8)).length = 2147483647 :=
    List.length_replicate
  obtain ⟨naive, generated', hnaive, run, hrun⟩ := naive_runs hlength Schedule.inOrder
  have htiled : ∃ tiled generated,
      emitStage plainMath ⟨0⟩ sobelStage 1 1 31 false = .ok (tiled, generated) := ⟨_, _, rfl⟩
  obtain ⟨tiled, generated, htiled⟩ := htiled
  exact ⟨sobelStage_wellFormed, rfl, admitted_default .kSobel, job_frame hlength,
    row_holds hlength, tiled, naive, generated, generated', htiled, hnaive,
    tiled_overflows htiled Schedule.inOrder, run, hrun⟩

end Widest

end Cuda

end Imgjit
