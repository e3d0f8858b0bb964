import Imgjit.Cuda.LaunchArguments

/-!
# A stage and its parameterized kernel

A parameterized kernel reads its values from its arguments instead of its text: the delta of a
brightness, the threshold, the radius of a blur and its table of weights.  Once a launch has bound
them to the values of the stage it computes what the baked kernel computes.

The arguments are not tied to the program.  A launch may pass those of any chain whose ops are of
the same kinds, so what a kernel computes is stated for every list of arguments that binds the
values of the stage.

* `BindsStage` — the arguments hold the values of the stage's ops.
* `ComputesWith` — a kernel computes a stage when it is launched with these arguments.
* `emitPointwiseStage_computesWith`, `emitStencilStage_computesWith` — the two kinds of stages.  The
  stencil needs its tap helper and the radius, which is an `int` argument now; its parts are named
  in `ParameterizedParts`.
* `emitStage_computesWith` — so does the parameterized kernel of every stage, with every argument
  list that binds it.
-/

namespace Imgjit

namespace Cuda

/-- The arguments of a launch hold the values of a stage. -/
structure BindsStage (cmath : CMath) (stage : Stage) (args : BoundArgs) : Prop where
  prologue : ParamsBound true stage.prologue args.params
  epilogue : ParamsBound true stage.epilogue args.params
  gaussian : ∀ stencil, stage.stencil = some stencil → stencil.op.kind = .kGaussian →
    args.radius = Cpu.gaussianRadius stencil.op.param
      ∧ args.taps = gaussianTaps cmath stencil.op.param

/-- Launched with these arguments, a kernel computes a stage: whatever it is launched over, and in
whatever order its stores land. -/
def ComputesWith (code : StageCode) (cmath : CMath) (image : Image) (stage : Stage) (dim : ℕ)
    (args : List KernelArg) : Prop :=
  ∀ launch schedule, LaunchesOver launch cmath image dim → launch.args = args →
    ∃ run, code.run launch schedule = some run
      ∧ run.dst = (Cpu.applyOps cmath image stage.ops).pixels ++ launch.dst.drop image.byteCount
      ∧ StoresOnce image run

section Kernel

variable {cmath : CMath} {image : Image} {stage : Stage} {code : StageCode} {launch : Launch}
  {args : BoundArgs} {dim : ℕ}

@[simp] lemma start_radius : (StageCode.start launch args).ints .radius = args.radius := by
  simp [StageCode.start]

/-! ## One phase, with arguments -/

/-- A kernel of a single phase whose threads store their pixels, whatever its arguments are. -/
lemma computesWith_single {items : List Item} {values : List KernelArg} (hstage : stage.WellFormed)
    (hargs : code.kernel.bindArgs values = some args) (hphases : code.kernel.phases = [items])
    (hthread : ∀ launch b t, LaunchesOver launch cmath image dim →
      RunsItems (code.env launch args b t fun _ => none) items (StageCode.start launch args)
        fun s' => s'.dstLog = threadStores image dim (stagePixel cmath image stage) (b, t)) :
    ComputesWith code cmath image stage dim values := by
  intro launch schedule hlaunch hvalues
  have hdim := hlaunch.blockDim_eq
  have hblocks : ∀ b ∈ Grid.points launch.grid.1 launch.grid.2, ∃ run,
      runPhases (code.env launch args b) (schedule.tile b) code.kernel.phases (fun _ => none)
          ((Grid.points launch.blockDim launch.blockDim).map fun t =>
            (t, StageCode.start launch args)) = some run
        ∧ run.stores = (Grid.points launch.blockDim launch.blockDim).flatMap
          (fun t => threadStores image launch.blockDim (stagePixel cmath image stage) (b, t))
        ∧ True := by
    intro b _
    rw [hphases, hdim]
    have hstart : ∀ thread ∈ (Grid.points dim dim).map fun t => (t, StageCode.start launch args),
        RunsItems (code.env launch args b thread.1 fun _ => none) items thread.2 fun s' =>
          s'.dstLog = threadStores image dim (stagePixel cmath image stage) (b, thread.1) := by
      intro thread hmem
      obtain ⟨t, -, rfl⟩ := List.mem_map.mp hmem
      exact hthread launch b t hlaunch
    obtain ⟨run, hrun, -, hstores⟩ := runPhases_single (schedule.tile b)
      (fun t => threadStores image dim (stagePixel cmath image stage) (b, t)) hstart
    rw [map_fst_starting] at hstores
    exact ⟨run, hrun, hstores, trivial⟩
  obtain ⟨run, hrun, hdst, hkeys, -⟩ := StageCode.run_spec schedule (fun _ _ => True)
    (by rw [hvalues]; exact hargs) (by rw [hdim]; exact hlaunch.dim_pos)
    (by rw [hdim]; exact hlaunch.reaches_width) (by rw [hdim]; exact hlaunch.reaches_height)
    (pictureOf_stage cmath image hstage) hlaunch.dst hblocks
  exact ⟨run, hrun, hdst, hkeys⟩

/-- The pixel phase of a kernel whose epilogue reads arguments. -/
lemma pixelPhase_binds {b t : ℕ × ℕ} {tile : TileCell → Option ℚ} {body epilogue : Stmt}
    (hbinds : BindsStage cmath stage args) (hlaunch : LaunchesOver launch cmath image dim)
    (hbody : ∀ p, p.1 < image.width ∧ p.2 < image.height →
      Computes (code.env launch args b t tile) image p body (StageCode.start launch args)
        (bodyPixel cmath image stage p))
    (hepilogue : ∀ env s pixel, ParamsBound true stage.epilogue s.params →
      s.floats .v = registers (Cpu.colorChannels image.channels) pixel →
      epilogue.Runs env s (PixelDone (Cpu.colorChannels image.channels) .v
        (pixelOps (Cpu.colorChannels image.channels) (stage.epilogue.map PlannedOp.op) pixel) s)) :
    RunsItems (code.env launch args b t tile)
      (emitPixel image.channels (Cpu.colorChannels image.channels) body epilogue)
      (StageCode.start launch args) fun s' =>
        s'.dstLog = threadStores image dim (stagePixel cmath image stage) (b, t) := by
  have hpixel : RunsItems (code.env launch args b t tile)
      (emitPixel image.channels (Cpu.colorChannels image.channels) body epilogue)
      (StageCode.start launch args) fun s' => s'.dstLog = (StageCode.start launch args).dstLog
        ++ threadStores image dim (stagePixel cmath image stage) (b, t) := by
    refine emitPixel_spec (p := Grid.planePoint dim (b, t)) (by simp [Grid.planePoint,
      hlaunch.blockDim_eq]) (by simp [hlaunch.width_eq]) (by simp [hlaunch.height_eq])
      (by simpa using hlaunch.src) (by simpa using hlaunch.dst) (hbody _) fun s' hparams hv =>
        hepilogue _ s' _ ?_ hv
    rw [hparams, start_params]
    exact hbinds.epilogue
  simpa using hpixel

/-! ## The tap helper, with arguments -/

/-- The values of a prologue's ops can all be read. -/
lemma mapM_params {ops : List PlannedOp} {params : ℕ → Option ℚ} (h : ParamsBound true ops params) :
    (paramIndices ops true).mapM params
      = some ((paramIndices ops true).map fun k => (params k).getD 0) := by
  have hread : ∀ k ∈ paramIndices ops true, ∃ value, params k = some value
      ∧ value = (params k).getD 0 := by
    intro k hk
    rcases mem_paramIndices.mp hk with ⟨planned, hplanned, htakes, rfl⟩
    have hvalue := h rfl planned hplanned htakes
    exact ⟨_, hvalue, by simp [hvalue]⟩
  obtain ⟨values, hvalues, hall⟩ := mapM_exists hread
  have hmap := map_of_forall₂ (g := id) (h := fun k => (params k).getD 0)
    (fun _ _ heq => heq) hall
  rw [hvalues, ← hmap, List.map_id]

/-- Passed on to the helper, they are bound there as they are in the kernel. -/
lemma paramsBound_passedOn {ops : List PlannedOp} {params : ℕ → Option ℚ}
    (h : ParamsBound true ops params) :
    ParamsBound true ops fun k =>
      if k ∈ paramIndices ops true then some ((params k).getD 0) else none := by
  intro _ planned hplanned htakes
  have hmem : planned.index ∈ paramIndices ops true :=
    mem_paramIndices.mpr ⟨planned, hplanned, htakes, rfl⟩
  simp [hmem, h rfl planned hplanned htakes]

/-- **The fetch of a parameterized kernel** passes the prologue's values on to the helper. -/
lemma parameterizedFetch {b t p : ℕ × ℕ} {tile : TileCell → Option ℚ} {tap : TapFunction}
    {radius : ℤ} {s : ThreadState} (hlaunch : LaunchesOver launch cmath image dim)
    (hprologue : Pointwise stage.prologue)
    (htap : emitTapFunction stage image.channels (Cpu.colorChannels image.channels) true
      (paramIndices stage.prologue true) = .ok tap) (hcode : code.tap = some tap)
    (hparams : ParamsBound true stage.prologue s.params)
    (hx : s.ints .x = p.1) (hy : s.ints .y = p.2) :
    Fetches (code.env launch args b t tile) (Cpu.colorChannels image.channels)
      (emitFetch (Cpu.colorChannels image.channels) false (paramIndices stage.prologue true)) radius
      (stageTap image stage p) s := by
  intro s' hframe _ _
  refine Stmt.Runs.via (fun s₁ => s₁ = s'.setArray .t
    (List.replicate (Cpu.colorChannels image.channels) none)) (Stmt.Runs.array rfl) fun s₁ hs₁ => ?_
  subst hs₁
  obtain ⟨tap', htap', hcall⟩ := emitTapFunction_spec stage image true
    (paramIndices stage.prologue true) hprologue
  obtain rfl : tap = tap' := Except.ok.inj (htap.symm.trans htap')
  have hbound : ParamsBound true stage.prologue s'.params := by
    rw [hframe.params]
    exact hparams
  have hscalars : (paramIndices stage.prologue true).mapM
      (s'.setArray .t (List.replicate (Cpu.colorChannels image.channels) none)).params
      = some ((paramIndices stage.prologue true).map fun k => (s'.params k).getD 0) :=
    mapM_params hbound
  have hbind : bindParams (paramIndices stage.prologue true)
      (((paramIndices stage.prologue true).map fun k => (s'.params k).getD 0).map .float)
      = some fun k => if k ∈ paramIndices stage.prologue true
        then some ((s'.params k).getD 0) else none := by
    rw [List.map_map]
    exact bindParams_map _ fun k => (s'.params k).getD 0
  have hhelper : ∀ (x y : ℤ) (target : List (Option ℚ)),
      target.length = Cpu.colorChannels image.channels →
      (code.env launch args b t tile).tap x y target
        ((paramIndices stage.prologue true).map fun k => (s'.params k).getD 0)
        = some (registers (Cpu.colorChannels image.channels)
          (tapPixel image (stage.prologue.map PlannedOp.op) x y)) := by
    intro x y target htarget
    unfold StageCode.env
    rw [hcode]
    simp only [hlaunch.width_eq, hlaunch.height_eq]
    exact hcall _ x y target _ _ hlaunch.src htarget hbind (paramsBound_passedOn hbound)
  refine Stmt.Runs.callTap hscalars (hhelper _ _ _ (by simp)) ⟨?_, ?_⟩
  · exact (Frame.setArray _ _ List.mem_cons_self).trans (Frame.setArray _ _ List.mem_cons_self)
  · rw [setArray_floats_self]
    simp only [IntExpr.eval, setArray_ints, hframe.ints .x (by simp [scratchInts]),
      hframe.ints .y (by simp [scratchInts]), hx, hy]
    rfl

/-! ## The constants of a parameterized stencil -/

/-- A weight is where the loops look for it; behind the weights there are zeros. -/
lemma atIndex_gaussianTaps {sigma : ℚ} {k : ℤ} (hlow : -Cpu.gaussianRadius sigma ≤ k)
    (hhigh : k ≤ Cpu.gaussianRadius sigma) :
    atIndex (gaussianTaps cmath sigma) (k + Cpu.gaussianRadius sigma)
      = some ((Cpu.gaussianWeights1d cmath sigma).getD (k + Cpu.gaussianRadius sigma).toNat 0) := by
  have hlength := Cpu.length_gaussianWeights1d cmath sigma
  have hlt : (k + Cpu.gaussianRadius sigma).toNat < (Cpu.gaussianWeights1d cmath sigma).length := by
    omega
  rw [atIndex, if_pos (by omega), gaussianTaps, List.getElem?_append_left hlt,
    List.getD_eq_getElem _ _ hlt, List.getElem?_eq_getElem hlt]

/-- The radius and the weights of a gaussian are read from the arguments. -/
lemma stencilReady_gaussian {env : Env} {op : Op} {radius : ℤ} {s : ThreadState}
    (hcmath : env.cmath = cmath) (hkind : op.kind = .kGaussian)
    (hradius : s.ints .radius = Cpu.gaussianRadius op.param)
    (htaps : env.table .taps = gaussianTaps cmath op.param) :
    StencilReady env op radius true s := by
  refine ⟨fun _ => ⟨fun s' hframe => ?_, fun k hlow hhigh => ?_⟩, fun hsobel => ?_⟩
  · show s'.ints .radius = _
    rw [hframe.ints .radius (by simp [scratchInts]), hradius]
  · show atIndex (env.table .taps) _ = _
    rw [htaps, hcmath, atIndex_gaussianTaps hlow hhigh]
  · rw [hkind] at hsobel
    cases hsobel

/-! ## The parameterized kernels -/

/-- The kernel of a stage without a stencil. -/
theorem emitPointwiseStage_computesWith (cmath : CMath) (image : Image) (name : KernelName)
    (hstage : stage.WellFormed) (hstencil : stage.stencil = none) :
    ∃ code generated, emitPointwiseStage name stage image.channels
        (Cpu.colorChannels image.channels) true = .ok (code, generated)
      ∧ ∀ values args, code.kernel.bindArgs values = some args → BindsStage cmath stage args →
        ComputesWith code cmath image stage kNaiveBlockDim values := by
  have hcolors := Cpu.colorChannels_mem image
  obtain ⟨prologue, hprologue, hruns⟩ :=
    emitPointwise_spec hcolors .v (by decide) true hstage.prologue
  obtain ⟨epilogue, hepilogue, hruns'⟩ :=
    emitPointwise_spec hcolors .v (by decide) true hstage.epilogue
  refine ⟨_, _, by rw [emitPointwiseStage, hprologue, hepilogue]; rfl,
    fun values args hargs hbinds => computesWith_single hstage hargs rfl fun launch b t hlaunch =>
      pixelPhase_binds hbinds hlaunch (fun p hp s' hframe _ _ hi hv => ?_) hruns'⟩
  refine Stmt.Runs.seq (loadPixel_runs (by rw [env_src]; exact hlaunch.src) hp hi hv)
    fun s₁ hs₁ => ?_
  rcases hs₁ with ⟨hframe₁, hv₁⟩
  have hbound : ParamsBound true stage.prologue s₁.params := by
    rw [hframe₁.params, hframe.params, start_params]
    exact hbinds.prologue
  refine (hruns _ s₁ _ hbound hv₁).mono fun s₂ hs₂ => ?_
  rcases hs₂ with ⟨hframe₂, hv₂⟩
  refine ⟨?_, ?_⟩
  · exact (hframe₁.mono (List.nil_subset _) (by simp [pixelFloats])).trans
      (hframe₂.mono (List.nil_subset _) (by simp [pixelFloats]))
  · rw [hv₂, bodyPixel, hstencil]

/-- The parts of a parameterized kernel around a stencil: a gaussian has no constants of its own. -/
structure ParameterizedParts (code : StageCode) (cmath : CMath) (image : Image) (stage : Stage)
    (stencil : PlannedOp) (tap : TapFunction) (epilogue : Stmt) (radius : ℤ) : Prop where
  constants : stencil.op.kind ≠ .kGaussian →
    code.constants = some (emitStencilConstants cmath stencil.op).1
      ∧ radius = (emitStencilConstants cmath stencil.op).2
  tap : code.tap = some tap
  phases : code.kernel.phases = [emitPixel image.channels (Cpu.colorChannels image.channels)
    (emitStencilBody stencil.op radius (Cpu.colorChannels image.channels) false
      (stencil.op.kind == .kGaussian) (paramIndices stage.prologue true)) epilogue]

lemma emitStencilStage_parameterizedParts (cmath : CMath) (image : Image) (name : KernelName)
    {stencil : PlannedOp} {tap : TapFunction} {epilogue : Stmt}
    (htap : emitTapFunction stage image.channels (Cpu.colorChannels image.channels) true
      (paramIndices stage.prologue true) = .ok tap)
    (hepilogue : emitPointwise (Cpu.colorChannels image.channels) .v true stage.epilogue
      = .ok epilogue) :
    ∃ code generated radius, emitStencilStage cmath name stage stencil image.channels
        (Cpu.colorChannels image.channels) 0 true = .ok (code, generated)
      ∧ ParameterizedParts code cmath image stage stencil tap epilogue radius := by
  by_cases hkind : stencil.op.kind = .kGaussian
  · refine ⟨_, _, 0, by rw [emitStencilStage, htap, hepilogue, hkind]; rfl,
      fun hne => absurd hkind hne, rfl, ?_⟩
    rw [hkind]
    rfl
  · have hbeq := beq_eq_false_iff_ne.mpr hkind
    refine ⟨_, _, (emitStencilConstants cmath stencil.op).2,
      by rw [emitStencilStage, htap, hepilogue, hbeq]; rfl, fun _ => ⟨rfl, rfl⟩, rfl, ?_⟩
    rw [hbeq]
    rfl

/-- What a parameterized stencil body finds in place: the radius and the weights of a gaussian in
the arguments, the coefficients of a sobel in the constants of the stage. -/
lemma ParameterizedParts.ready {b t : ℕ × ℕ} {tile : TileCell → Option ℚ} {stencil : PlannedOp}
    {tap : TapFunction} {epilogue : Stmt} {radius : ℤ} {s : ThreadState}
    (hparts : ParameterizedParts code cmath image stage stencil tap epilogue radius)
    (hstage : stage.WellFormed) (hstencil : stage.stencil = some stencil)
    (hbinds : BindsStage cmath stage args) (hlaunch : LaunchesOver launch cmath image dim)
    (hradius : s.ints .radius = args.radius) :
    StencilReady (code.env launch args b t tile) stencil.op radius
      (stencil.op.kind == .kGaussian) s := by
  have hcmath : (code.env launch args b t tile).cmath = cmath := by
    rw [env_cmath, hlaunch.cmath_eq]
  by_cases hkind : stencil.op.kind = .kGaussian
  · rcases hbinds.gaussian stencil hstencil hkind with ⟨hargs, htaps⟩
    rw [hkind]
    exact stencilReady_gaussian hcmath hkind (hradius.trans hargs) (by rw [env_table]; exact htaps)
  · rcases hparts.constants hkind with ⟨hconstants, rfl⟩
    rw [beq_eq_false_iff_ne.mpr hkind]
    refine stencilReady_baked hcmath (hstage.stencil stencil hstencil) (fun name hname => ?_) s
    rw [env_table]
    cases name with
    | taps => exact absurd rfl hname
    | _ => simp only [StageCode.table, hconstants]

/-- The kernel of a stage around a stencil. -/
theorem emitStencilStage_computesWith (cmath : CMath) (image : Image) (name : KernelName)
    (hstage : stage.WellFormed) {stencil : PlannedOp} (hstencil : stage.stencil = some stencil) :
    ∃ code generated, emitStencilStage cmath name stage stencil image.channels
        (Cpu.colorChannels image.channels) 0 true = .ok (code, generated)
      ∧ ∀ values args, code.kernel.bindArgs values = some args → BindsStage cmath stage args →
        ComputesWith code cmath image stage kNaiveBlockDim values := by
  obtain ⟨tap, htap, -⟩ := emitTapFunction_spec stage image true
    (paramIndices stage.prologue true) hstage.prologue
  obtain ⟨epilogue, hepilogue, hruns'⟩ :=
    emitPointwise_spec (Cpu.colorChannels_mem image) .v (by decide) true hstage.epilogue
  obtain ⟨code, generated, radius, hemit, hparts⟩ :=
    emitStencilStage_parameterizedParts cmath image name htap hepilogue
  refine ⟨code, generated, hemit, fun values args hargs hbinds =>
    computesWith_single hstage hargs hparts.phases fun launch b t hlaunch =>
      pixelPhase_binds hbinds hlaunch (fun p _ s' hframe hx hy _ hv => ?_) hruns'⟩
  have hparams : ParamsBound true stage.prologue s'.params := by
    rw [hframe.params, start_params]
    exact hbinds.prologue
  have hradius : s'.ints .radius = args.radius := by
    rw [hframe.ints .radius (by simp), start_radius]
  refine (emitStencilBody_spec (hstage.stencil stencil hstencil) hv (Stmt.Runs.nop
    ⟨Frame.refl s', hparts.ready hstage hstencil hbinds hlaunch hradius,
      parameterizedFetch hlaunch hstage.prologue htap hparts.tap hparams hx hy⟩)).mono
    fun s'' ⟨hframe', hdone⟩ => ⟨?_, ?_⟩
  · exact hframe'.mono (List.Subset.refl _) (by simp [pixelFloats])
  · rw [hdone, env_cmath, hlaunch.cmath_eq, bodyPixel]
    simp only [hstencil]

/-- **The parameterized kernel of a stage computes the stage** with every argument list that binds
the values of its ops. -/
theorem emitStage_computesWith (cmath : CMath) (image : Image) (name : KernelName)
    (hstage : stage.WellFormed) :
    ∃ code generated, emitStage cmath name stage image.channels (Cpu.colorChannels image.channels) 0
        true = .ok (code, generated)
      ∧ ∀ values args, code.kernel.bindArgs values = some args → BindsStage cmath stage args →
        ComputesWith code cmath image stage kNaiveBlockDim values := by
  cases hstencil : stage.stencil with
  | none =>
      simp only [emitStage, hstencil]
      exact emitPointwiseStage_computesWith cmath image name hstage hstencil
  | some stencil =>
      simp only [emitStage, hstencil]
      exact emitStencilStage_computesWith cmath image name hstage hstencil

end Kernel

end Cuda

end Imgjit
