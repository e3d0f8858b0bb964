import Imgjit.Cuda.FusionPlan
import Imgjit.Cuda.PixelKernel

/-!
# A stage and its naive kernel

What a stage is for, as the oracle sees it, and that its naive kernel does exactly that.

**The meaning of a stage.**  A stage stands for a run of pointwise ops, at most one stencil, and
another run.  `stagePixel` is what it makes of one pixel: the epilogue's ops, on the stencil's sum
over the taps, each tap with the prologue's ops on it.  `pictureOf_stage` says that this is the
picture that the oracle makes with its image ops, one after the other.  That a tap near the edge is
clamped before the prologue is applied, and not behind it, makes no difference: pointwise ops look
at no coordinates.

**The surroundings of a thread.**  `LaunchesOver` is what a launch for an image gives its threads,
and `ComputesStage` says that a kernel computes a stage whenever it is launched so.

**The naive kernels.**  `emitStage_naive`: the naive kernel of a stage computes that picture, with
one thread storing each sample.  Pointwise stages and stencils have one lemma each, and everything
behind the body of the kernel is `PixelKernel.lean`'s.
-/

namespace Imgjit

namespace Cuda

/-! ## The meaning of a stage -/

/-- The tap of a stencil stage at a pixel. -/
def stageTap (image : Image) (stage : Stage) (p : ℕ × ℕ) (dx dy : ℤ) (c : ℕ) : ℚ :=
  Cpu.loadSample (tapPixel image (stage.prologue.map PlannedOp.op) (p.1 + dx) (p.2 + dy) c)

/-- What the body of a stage leaves in `v`, before the epilogue. -/
def bodyPixel (cmath : CMath) (image : Image) (stage : Stage) (p : ℕ × ℕ) : ℕ → UInt8 :=
  match stage.stencil with
  | none => pixelOps (Cpu.colorChannels image.channels) (stage.prologue.map PlannedOp.op)
      (image.sampleAt p.1 p.2)
  | some stencil => fun c => Cpu.stencilSample cmath stencil.op fun dx dy =>
      stageTap image stage p dx dy c

/-- The colours of a pixel after the stage. -/
def stagePixel (cmath : CMath) (image : Image) (stage : Stage) (p : ℕ × ℕ) : ℕ → UInt8 :=
  pixelOps (Cpu.colorChannels image.channels) (stage.epilogue.map PlannedOp.op)
    (bodyPixel cmath image stage p)

section Picture

variable {stage : Stage}

lemma pointwise_map {ops : List PlannedOp} (h : Pointwise ops) :
    ∀ op ∈ ops.map PlannedOp.op, (opSpec op.kind).isStencil = false := by
  intro op hmem
  obtain ⟨planned, hplanned, rfl⟩ := List.mem_map.mp hmem
  exact h planned hplanned

/-- A clamped fetch commutes with a run of pointwise ops. -/
lemma clampedTap_applyOps (cmath : CMath) {image : Image} (hprologue : Pointwise stage.prologue)
    {x y c : ℕ}
    (hc : c < Cpu.colorChannels image.channels) (dx dy : ℤ) :
    Cpu.clampedTap (Cpu.applyOps cmath image (stage.prologue.map PlannedOp.op)) x y c dx dy
      = stageTap image stage (x, y) dx dy c := by
  have hsx : Cpu.clampCoordinate (x + dx) image.width < image.width :=
    Cpu.clampCoordinate_lt _ image.width_pos
  have hsy : Cpu.clampCoordinate (y + dy) image.height < image.height :=
    Cpu.clampCoordinate_lt _ image.height_pos
  rw [Cpu.clampedTap, Cpu.applyOps_width, Cpu.applyOps_height,
    sampleAt_applyOps_pointwise (pointwise_map hprologue) hsx hsy hc]
  rfl

/-- **A stage computes what the oracle computes for its ops.** -/
theorem pictureOf_stage (cmath : CMath) (image : Image) (hstage : stage.WellFormed) :
    PictureOf image (Cpu.applyOps cmath image stage.ops) (stagePixel cmath image stage) := by
  refine ⟨by simp, by simp, by simp, fun x y c hx hy hc => ?_, fun x y c hx hy hc halpha =>
    sampleAt_applyOps_alpha _ hx hy hc halpha⟩
  have hcolors := Cpu.colorChannels_mem image
  cases hstencil : stage.stencil with
  | none =>
      have hops : stage.ops = stage.prologue.map PlannedOp.op := by
        simp [Stage.ops, Stage.planned, hstencil, hstage.epilogue_nil hstencil]
      rw [hops, sampleAt_applyOps_pointwise (pointwise_map hstage.prologue) hx hy hc, stagePixel,
        hstage.epilogue_nil hstencil, bodyPixel]
      simp only [hstencil]
      rfl
  | some stencil =>
      have hops : stage.ops = stage.prologue.map PlannedOp.op
          ++ (stencil.op :: stage.epilogue.map PlannedOp.op) := by
        simp [Stage.ops, Stage.planned, hstencil]
      rw [hops, Cpu.applyOps_append, Cpu.applyOps_cons,
        sampleAt_applyOps_pointwise (pointwise_map hstage.epilogue) (by simpa using hx)
          (by simpa using hy) (by simpa using hc), stagePixel]
      simp only [Cpu.applyOp_channels, Cpu.applyOps_channels]
      refine pixelOps_congr hcolors _ (fun c' hc' => ?_) c hc
      rw [Cpu.sampleAt_applyOp_stencil cmath (hstage.stencil stencil hstencil) (by simpa using hx)
        (by simpa using hy) (by simpa using hc'), bodyPixel]
      simp only [hstencil]
      congr 1
      funext dx dy
      exact clampedTap_applyOps cmath hstage.prologue hc' dx dy

end Picture

/-! ## The surroundings of a thread -/

section Env

variable {code : StageCode} {launch : Launch} {args : BoundArgs} {b t : ℕ × ℕ}
  {tile : TileCell → Option ℚ}

@[simp] lemma env_cmath : (code.env launch args b t tile).cmath = launch.cmath := by
  unfold StageCode.env; split <;> rfl

@[simp] lemma env_block : (code.env launch args b t tile).block = b := by
  unfold StageCode.env; split <;> rfl

@[simp] lemma env_thread : (code.env launch args b t tile).thread = t := by
  unfold StageCode.env; split <;> rfl

@[simp] lemma env_blockDim : (code.env launch args b t tile).blockDim = launch.blockDim := by
  unfold StageCode.env; split <;> rfl

@[simp] lemma env_src : (code.env launch args b t tile).src = launch.src := by
  unfold StageCode.env; split <;> rfl

@[simp] lemma env_dstSize : (code.env launch args b t tile).dstSize = launch.dst.length := by
  unfold StageCode.env; split <;> rfl

@[simp] lemma env_table : (code.env launch args b t tile).table = code.table args.taps := by
  unfold StageCode.env; split <;> rfl

@[simp] lemma env_tileShape : (code.env launch args b t tile).tileShape = code.kernel.tile := by
  unfold StageCode.env; split <;> rfl

@[simp] lemma env_tile : (code.env launch args b t tile).tile = tile := by
  unfold StageCode.env; split <;> rfl

@[simp] lemma start_width : (StageCode.start launch args).ints .width = launch.width := rfl
@[simp] lemma start_height : (StageCode.start launch args).ints .height = launch.height := rfl
@[simp] lemma start_params : (StageCode.start launch args).params = args.params := rfl
@[simp] lemma start_dstLog : (StageCode.start launch args).dstLog = [] := rfl

end Env

/-- A launch over an image: the source holds it, the grid reaches around it. -/
structure LaunchesOver (launch : Launch) (cmath : CMath) (image : Image) (dim : ℕ) : Prop where
  cmath_eq : launch.cmath = cmath
  blockDim_eq : launch.blockDim = dim
  dim_pos : 0 < dim
  reaches_width : image.width ≤ launch.grid.1 * dim
  reaches_height : image.height ≤ launch.grid.2 * dim
  width_eq : launch.width = image.width
  height_eq : launch.height = image.height
  src : Holds launch.src image
  dst : image.byteCount ≤ launch.dst.length

/-- The pixel phase of a kernel, as every stage has it. -/
lemma pixelPhase_spec {code : StageCode} {launch : Launch} {args : BoundArgs} {cmath : CMath}
    {image : Image} {dim : ℕ} {b t : ℕ × ℕ} {tile : TileCell → Option ℚ} {body epilogue : Stmt}
    {s : ThreadState} {stage : Stage} (hlaunch : LaunchesOver launch cmath image dim)
    (hwidth : s.ints .width = image.width) (hheight : s.ints .height = image.height)
    (hbody : ∀ p, p = Grid.planePoint dim (b, t) → p.1 < image.width ∧ p.2 < image.height →
      Computes (code.env launch args b t tile) image p body s (bodyPixel cmath image stage p))
    (hepilogue : ∀ env s' pixel, s'.floats .v = registers (Cpu.colorChannels image.channels) pixel →
      epilogue.Runs env s' (PixelDone (Cpu.colorChannels image.channels) .v
        (pixelOps (Cpu.colorChannels image.channels) (stage.epilogue.map PlannedOp.op) pixel) s')) :
    RunsItems (code.env launch args b t tile)
      (emitPixel image.channels (Cpu.colorChannels image.channels) body epilogue) s fun s' =>
        s'.dstLog = s.dstLog ++ threadStores image dim (stagePixel cmath image stage) (b, t) := by
  refine emitPixel_spec (p := Grid.planePoint dim (b, t)) ?_ hwidth hheight
    (by rw [env_src]; exact hlaunch.src) (by rw [env_dstSize]; exact hlaunch.dst)
    (hbody _ rfl) fun s' _ hv => hepilogue _ s' _ hv
  rw [env_block, env_thread, env_blockDim, hlaunch.blockDim_eq, Grid.planePoint]

/-- An epilogue that reads no arguments. -/
lemma bakedEpilogue_runs {colors : ℕ} {epilogue : Stmt} {ops : List PlannedOp}
    (hruns : ∀ env s pixel, ParamsBound false ops s.params → s.floats .v = registers colors pixel →
      epilogue.Runs env s (PixelDone colors .v (pixelOps colors (ops.map PlannedOp.op) pixel) s))
    (env : Env) (s : ThreadState) (pixel : ℕ → UInt8)
    (hv : s.floats .v = registers colors pixel) :
    epilogue.Runs env s (PixelDone colors .v (pixelOps colors (ops.map PlannedOp.op) pixel) s) :=
  hruns env s pixel (fun hmode => by cases hmode) hv

/-- A kernel computes a stage: whatever it is launched over, and in whatever order its stores land,
it leaves the oracle's picture behind, and stores every byte of it once. -/
def ComputesStage (code : StageCode) (cmath : CMath) (image : Image) (stage : Stage) (dim : ℕ) :
    Prop :=
  ∀ launch schedule, LaunchesOver launch cmath image dim → launch.args = [] →
    ∃ run, code.run launch schedule = some run
      ∧ run.dst = (Cpu.applyOps cmath image stage.ops).pixels ++ launch.dst.drop image.byteCount
      ∧ (run.stores.map Prod.fst).Perm (List.range image.byteCount)

lemma map_fst_starting (threads : List (ℕ × ℕ)) (start : ThreadState) :
    (threads.map fun t => (t, start)).map Prod.fst = threads := by
  simp [List.map_map, Function.comp_def]

/-- A kernel of a single phase whose threads store their pixels computes the stage. -/
lemma computesStage_single {code : StageCode} {cmath : CMath} {image : Image} {stage : Stage}
    {dim : ℕ} {items : List Item} (hstage : stage.WellFormed)
    (hargs : code.kernel.bindArgs [] = some {}) (hphases : code.kernel.phases = [items])
    (hthread : ∀ launch b t, LaunchesOver launch cmath image dim →
      RunsItems (code.env launch {} b t fun _ => none) items (StageCode.start launch {})
        fun s' => s'.dstLog = threadStores image dim (stagePixel cmath image stage) (b, t)) :
    ComputesStage code cmath image stage dim := by
  intro launch schedule hlaunch hnone
  have hdim := hlaunch.blockDim_eq
  have hblocks : ∀ b ∈ Grid.points launch.grid.1 launch.grid.2, ∃ run,
      runPhases (code.env launch {} b) (schedule.tile b) code.kernel.phases (fun _ => none)
          ((Grid.points launch.blockDim launch.blockDim).map fun t =>
            (t, StageCode.start launch {})) = some run
        ∧ run.stores = (Grid.points launch.blockDim launch.blockDim).flatMap
          (fun t => threadStores image launch.blockDim (stagePixel cmath image stage) (b, t))
        ∧ True := by
    intro b _
    rw [hphases, hdim]
    have hstart : ∀ thread ∈ (Grid.points dim dim).map fun t => (t, StageCode.start launch {}),
        RunsItems (code.env launch {} b thread.1 fun _ => none) items thread.2 fun s' =>
          s'.dstLog = threadStores image dim (stagePixel cmath image stage) (b, thread.1) := by
      intro thread hmem
      obtain ⟨t, -, rfl⟩ := List.mem_map.mp hmem
      exact hthread launch b t hlaunch
    obtain ⟨run, hrun, -, hstores⟩ := runPhases_single (schedule.tile b)
      (fun t => threadStores image dim (stagePixel cmath image stage) (b, t)) hstart
    rw [map_fst_starting] at hstores
    exact ⟨run, hrun, hstores, trivial⟩
  obtain ⟨run, hrun, hdst, hkeys, -⟩ := StageCode.run_spec schedule
    (fun _ _ => True) (by rw [hnone]; exact hargs) (by rw [hdim]; exact hlaunch.dim_pos)
    (by rw [hdim]; exact hlaunch.reaches_width) (by rw [hdim]; exact hlaunch.reaches_height)
    (pictureOf_stage cmath image hstage) hlaunch.dst hblocks
  exact ⟨run, hrun, hdst, hkeys⟩

/-! ## The naive kernels -/

section Naive

variable {cmath : CMath} {image : Image} {stage : Stage}

/-- The load of a pointwise kernel. -/
lemma loadPixel_runs {env : Env} {s : ThreadState} {p : ℕ × ℕ} (hsrc : Holds env.src image)
    (hp : p.1 < image.width ∧ p.2 < image.height)
    (hi : s.ints .i = ((p.2 : ℤ) * image.width + p.1) * image.channels)
    (hv : (s.floats .v).length = Cpu.colorChannels image.channels) :
    (Stmt.forColors (Cpu.colorChannels image.channels) fun c =>
      .set .v c (.loadSample (.add (.var .i) (.lit c)))).Runs env s fun s' => Frame [] [.v] s s'
        ∧ s'.floats .v = registers (Cpu.colorChannels image.channels) (image.sampleAt p.1 p.2) := by
  refine Stmt.Runs.setColors (fun c => Cpu.loadSample (image.sampleAt p.1 p.2 c)) hv
    (fun c hc s' hframe _ => ?_) fun s' hframe hcells => ⟨hframe, hcells⟩
  have hread := hsrc.read hp.1 hp.2 (hc.trans_le (Cpu.colorChannels_le image))
  simp only [FloatExpr.eval, IntExpr.eval, hframe.ints .i (by simp), hi, hread, Option.map_some,
    imgjitLoadSample_eq]

/-- **The kernel of a stage without a stencil.** -/
theorem emitPointwiseStage_computes (name : KernelName) (hstage : stage.WellFormed)
    (hstencil : stage.stencil = none) :
    ∃ code, emitPointwiseStage name stage image.channels (Cpu.colorChannels image.channels) false
        = .ok (code, { kernelName := name, isStencil := false })
      ∧ code.name = name ∧ ComputesStage code cmath image stage kNaiveBlockDim := by
  have hcolors := Cpu.colorChannels_mem image
  obtain ⟨prologue, hprologue, hruns⟩ :=
    emitPointwise_spec hcolors .v (by decide) false hstage.prologue
  obtain ⟨epilogue, hepilogue, hruns'⟩ :=
    emitPointwise_spec hcolors .v (by decide) false hstage.epilogue
  refine ⟨_, by rw [emitPointwiseStage, hprologue, hepilogue]; rfl, rfl,
    computesStage_single hstage rfl rfl fun launch b t hlaunch => ?_⟩
  refine pixelPhase_spec hlaunch (by rw [start_width, hlaunch.width_eq])
    (by rw [start_height, hlaunch.height_eq]) (fun p _ hp s' _ _ _ hi hv => ?_)
    (bakedEpilogue_runs hruns')
  refine Stmt.Runs.seq (loadPixel_runs (by rw [env_src]; exact hlaunch.src) hp hi hv)
    fun s₁ ⟨hframe₁, hv₁⟩ => ?_
  refine (hruns _ s₁ _ (fun hmode => by cases hmode) hv₁).mono fun s₂ ⟨hframe₂, hv₂⟩ => ⟨?_, ?_⟩
  · exact (hframe₁.mono (List.nil_subset _) (by simp [pixelFloats])).trans
      (hframe₂.mono (List.nil_subset _) (by simp [pixelFloats]))
  · rw [hv₂, bodyPixel, hstencil]

/-- The radius a baked stencil stage is emitted with. -/
lemma emitStencilConstants_radius (cmath : CMath) (op : Op) :
    (emitStencilConstants cmath op).2 = stencilRadius op := by
  unfold emitStencilConstants stencilRadius
  split_ifs <;> rfl

/-- The constants of a baked stencil stage are those its body reads. -/
lemma stencilReady_baked {env : Env} {op : Op} (hcmath : env.cmath = cmath)
    (hstencil : (opSpec op.kind).isStencil = true)
    (htable : ∀ name ≠ Table.taps, env.table name = (emitStencilConstants cmath op).1.table name)
    (s : ThreadState) : StencilReady env op (emitStencilConstants cmath op).2 false s := by
  obtain ⟨kind, param⟩ := op
  cases kind with
  | kGaussian =>
      refine {
        gaussian := fun _ => { radius_eq := fun _ _ => rfl, weights_eq := fun k hlow hhigh => ?_ }
        sobel := fun h => absurd h (by simp) }
      have hw : env.table .w = Cpu.gaussianWeights1d cmath param := htable .w (by decide)
      have hlength := Cpu.length_gaussianWeights1d cmath param
      simp only at hlow hhigh ⊢
      rw [show weightsText false = .w from rfl, hw, hcmath, atIndex, if_pos (by omega),
        List.getD_eq_getElem _ _ (by rw [hlength]; omega), List.getElem?_eq_getElem]
  | kSobel =>
      exact ⟨fun h => absurd h (by simp), fun _ =>
        ⟨htable .gx (by decide), htable .gy (by decide)⟩⟩
  | _ => cases hstencil

/-- **A stencil body computes its stage** once its constants and its fetch are in place. -/
lemma stencilBody_computes {env : Env} {s : ThreadState} {p : ℕ × ℕ} {stencil : PlannedOp}
    {tiled : Bool} {r : ℤ} (hcmath : env.cmath = cmath) (hstage : stage.WellFormed)
    (hstencil : stage.stencil = some stencil)
    (hcoordinates : ∀ s', Frame [.x, .y, .i] [.v] s s' → s'.ints .x = p.1 → s'.ints .y = p.2 →
      (emitCoordinates tiled (radiusText r false)).Runs env s' fun s₁ => Frame [.lx, .ly] [] s' s₁
        ∧ StencilReady env stencil.op r false s₁
        ∧ Fetches env (Cpu.colorChannels image.channels)
          (emitFetch (Cpu.colorChannels image.channels) tiled []) (stencilRadius stencil.op)
          (stageTap image stage p) s₁) :
    Computes env image p
      (emitStencilBody stencil.op r (Cpu.colorChannels image.channels) tiled false []) s
      (bodyPixel cmath image stage p) := by
  intro s' hframe hx hy _ hv
  refine (emitStencilBody_spec (hstage.stencil stencil hstencil) hv
    (hcoordinates s' hframe hx hy)).mono fun s'' ⟨hframe', hdone⟩ => ⟨?_, ?_⟩
  · exact hframe'.mono (List.Subset.refl _) (by simp [pixelFloats])
  · rw [hdone, hcmath, bodyPixel]
    simp only [hstencil]

/-- The tap helper of a baked stage, as a kernel calls it. -/
lemma tap_baked {code : StageCode} {tap : TapFunction} {launch : Launch} {args : BoundArgs}
    {b t : ℕ × ℕ} {tile : TileCell → Option ℚ} {dim : ℕ} (htap : code.tap = some tap)
    (hlaunch : LaunchesOver launch cmath image dim) {pixel : ℤ → ℤ → ℕ → UInt8}
    (hcall : ∀ (env : Env) (x y : ℤ) (target : List (Option ℚ)), Holds env.src image →
      target.length = Cpu.colorChannels image.channels →
      tap.call env image.width image.height x y target []
        = some (registers (Cpu.colorChannels image.channels) (pixel x y)))
    (x y : ℤ) (target : List (Option ℚ)) (htarget : target.length = Cpu.colorChannels image.channels) :
    (code.env launch args b t tile).tap x y target []
      = some (registers (Cpu.colorChannels image.channels) (pixel x y)) := by
  unfold StageCode.env
  rw [htap]
  simp only [hlaunch.width_eq, hlaunch.height_eq]
  exact hcall _ x y target hlaunch.src htarget

/-- The tap helper of a baked stage. -/
lemma emitTapFunction_baked (image : Image) (hprologue : Pointwise stage.prologue) :
    ∃ tap, emitTapFunction stage image.channels (Cpu.colorChannels image.channels) false []
        = .ok tap
      ∧ ∀ (env : Env) (x y : ℤ) (target : List (Option ℚ)), Holds env.src image →
        target.length = Cpu.colorChannels image.channels →
        tap.call env image.width image.height x y target []
          = some (registers (Cpu.colorChannels image.channels)
            (tapPixel image (stage.prologue.map PlannedOp.op) x y)) := by
  obtain ⟨tap, htap, hcall⟩ := emitTapFunction_spec stage image false [] hprologue
  exact ⟨tap, htap, fun env x y target hsrc htarget =>
    hcall env x y target [] _ hsrc htarget rfl fun hmode => by cases hmode⟩

/-- The naive fetch is the tap helper, called at the neighbour. -/
lemma naiveFetch {env : Env} {stage : Stage} {s : ThreadState} {p : ℕ × ℕ} {radius : ℤ}
    (htap : ∀ (x y : ℤ) (target : List (Option ℚ)),
      target.length = Cpu.colorChannels image.channels →
      env.tap x y target [] = some (registers (Cpu.colorChannels image.channels)
        (tapPixel image (stage.prologue.map PlannedOp.op) x y)))
    (hx : s.ints .x = p.1) (hy : s.ints .y = p.2) :
    Fetches env (Cpu.colorChannels image.channels)
      (emitFetch (Cpu.colorChannels image.channels) false []) radius (stageTap image stage p) s := by
  intro s' hframe _ _
  refine Stmt.Runs.via (fun s₁ => s₁ = s'.setArray .t
    (List.replicate (Cpu.colorChannels image.channels) none)) (Stmt.Runs.array rfl) fun s₁ hs₁ => ?_
  subst hs₁
  refine Stmt.Runs.callTap rfl
    (htap _ _ _ (by rw [setArray_floats_self, List.length_replicate])) ⟨?_, ?_⟩
  · exact (Frame.setArray _ _ List.mem_cons_self).trans (Frame.setArray _ _ List.mem_cons_self)
  · rw [setArray_floats_self]
    simp only [IntExpr.eval, setArray_ints, hframe.ints .x (by simp [scratchInts]),
      hframe.ints .y (by simp [scratchInts]), hx, hy]
    rfl

/-- **The naive kernel of a stencil stage.** -/
theorem emitStencilStage_computes (name : KernelName) (hstage : stage.WellFormed)
    {stencil : PlannedOp} (hstencil : stage.stencil = some stencil) :
    ∃ code, emitStencilStage cmath name stage stencil image.channels
        (Cpu.colorChannels image.channels) 0 false
        = .ok (code, { kernelName := name, isStencil := true })
      ∧ code.name = name ∧ ComputesStage code cmath image stage kNaiveBlockDim := by
  have hcolors := Cpu.colorChannels_mem image
  have hkind := hstage.stencil stencil hstencil
  obtain ⟨tap, htap, hcall⟩ := emitTapFunction_baked image hstage.prologue
  obtain ⟨epilogue, hepilogue, hruns'⟩ :=
    emitPointwise_spec hcolors .v (by decide) false hstage.epilogue
  refine ⟨_, by
    rw [emitStencilStage, show paramIndices stage.prologue false = [] from rfl, htap, hepilogue]
    rfl, rfl, computesStage_single hstage rfl rfl fun launch b t hlaunch => ?_⟩
  refine pixelPhase_spec hlaunch (by rw [start_width, hlaunch.width_eq])
    (by rw [start_height, hlaunch.height_eq]) (fun p _ hp => ?_) (bakedEpilogue_runs hruns')
  refine stencilBody_computes (by rw [env_cmath, hlaunch.cmath_eq]) hstage hstencil
    fun s' _ hx hy => Stmt.Runs.nop ⟨Frame.refl s', ?_, ?_⟩
  · refine stencilReady_baked (by rw [env_cmath, hlaunch.cmath_eq]) hkind (fun name hname => ?_) s'
    rw [env_table]
    cases name with
    | taps => exact absurd rfl hname
    | _ => rfl
  · exact naiveFetch (tap_baked rfl hlaunch hcall) hx hy

/-- **The naive kernel of a stage computes the stage.** -/
theorem emitStage_naive (cmath : CMath) (image : Image) (name : KernelName)
    (hstage : stage.WellFormed) :
    ∃ code, emitStage cmath name stage image.channels (Cpu.colorChannels image.channels) 0 false
        = .ok (code, { kernelName := name, isStencil := stage.stencil.isSome })
      ∧ code.name = name ∧ ComputesStage code cmath image stage kNaiveBlockDim := by
  cases hstencil : stage.stencil with
  | none =>
      obtain ⟨code, hcode, hname, hcomputes⟩ :=
        emitPointwiseStage_computes name hstage hstencil
      exact ⟨code, by rw [emitStage, hstencil]; exact hcode, hname, hcomputes⟩
  | some stencil =>
      obtain ⟨code, hcode, hname, hcomputes⟩ := emitStencilStage_computes name hstage hstencil
      exact ⟨code, by rw [emitStage, hstencil]; exact hcode, hname, hcomputes⟩

end Naive

end Cuda

end Imgjit
