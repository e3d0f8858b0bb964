import Imgjit.Cuda.NaiveProgram
import Imgjit.Cuda.TileLoad

/-!
# The tiled kernel of a stage

A tiled kernel loads its tile, waits at the barrier, and then runs the naive body with reads of the
tile in place of the tap helper.  The load is `TileLoad.lean`'s and the body is
`StencilBody.lean`'s, with the fetch that reads a tile; what is left is the barrier between them.

* `runPhases_barrier` — a block with one barrier in its middle.  All threads reach it, since none of
  them returns in the load phase, those beside the image included; the writes of the first phase
  land in any order; and the second phase sees all of them.
* `StagesTile` — what a block has done with its tile: every cell has been written once, with the
  value that belongs there.
* `ComputesTiled` — a kernel computes a stage, and every block of it has staged its tile.
* `TiledParts` — the parts that the emitter makes of a tiled stage, with what is known of each.
* `emitStencilStage_tiled` — the tiled kernel computes its stage, in exact integers and for every
  frame.  `TiledLaunch.lean` has the frames for which the integers of a device suffice.
-/

namespace Imgjit

namespace Cuda

/-! ## A block with one barrier -/

/-- **A block with one barrier**: nobody has returned before it, the writes of all threads land
there, and every thread goes on with the tile they have left. -/
theorem runPhases_barrier {env : ℕ × ℕ → (TileCell → Option ℚ) → Env}
    {order : List TileWrite → List TileWrite} {load pixel : List Item} {threads : List (ℕ × ℕ)}
    {start : ThreadState} {log : ℕ × ℕ → List TileWrite} {stores : ℕ × ℕ → List DstWrite}
    (Loaded : ℕ × ℕ → ThreadState → Prop)
    (hload : ∀ t ∈ threads, RunsItems (env t fun _ => none) load start (Loaded t))
    (hloaded : ∀ t s, Loaded t s → s.returned = false ∧ s.tileLog = log t)
    (hpixel : ∀ t ∈ threads, ∀ s, Loaded t s →
      RunsItems (env t (landed order (threads.flatMap log))) pixel { s with tileLog := [] }
        fun s' => s'.dstLog = stores t) :
    ∃ run, runPhases env order [load, pixel] (fun _ => none)
        (threads.map fun t => (t, start)) = some run
      ∧ run.barriers = [threads.flatMap log] ∧ run.stores = threads.flatMap stores := by
  have hstart : ∀ thread ∈ threads.map fun t => (t, start),
      RunsItems (env thread.1 fun _ => none) load thread.2 (Loaded thread.1) := by
    intro thread hmem
    obtain ⟨t, ht, rfl⟩ := List.mem_map.mp hmem
    exact hload t ht
  obtain ⟨done, hdone, hall⟩ := mapM_runItems Loaded hstart
  have hfst : done.map Prod.fst = threads := by
    rw [map_of_forall₂ (h := Prod.fst) (fun _ _ hP => hP.1) hall, map_fst_starting]
  have hlog : done.flatMap (fun thread => thread.2.tileLog) = threads.flatMap log := by
    rw [flatMap_of_forall₂ (h := fun thread => log thread.1)
      (fun _ _ hP => (hloaded _ _ hP.2).2) hall, List.flatMap_map]
  have harrived : done.any (fun thread => thread.2.returned) = false := by
    rw [List.any_eq_false]
    intro thread hmem
    obtain ⟨t, -, -, hP⟩ := exists_of_forall₂ hall thread hmem
    rw [(hloaded _ _ hP).1]
    exact Bool.false_ne_true
  -- The second phase, from the states at the barrier.
  have hsecond : ∀ thread ∈ done.map fun thread => (thread.1, { thread.2 with tileLog := [] }),
      RunsItems (env thread.1 (landed order (threads.flatMap log))) pixel thread.2 fun s' =>
        s'.dstLog = stores thread.1 := by
    intro thread hmem
    obtain ⟨arrived, harrived', rfl⟩ := List.mem_map.mp hmem
    obtain ⟨start', hstart', hname, hP⟩ := exists_of_forall₂ hall arrived harrived'
    obtain ⟨t, ht, rfl⟩ := List.mem_map.mp hstart'
    simp only at hname hP ⊢
    rw [hname]
    exact hpixel t ht arrived.2 hP
  obtain ⟨run, hrun, hbarriers, hstores⟩ := runPhases_single order stores hsecond
  refine ⟨{ run with barriers := threads.flatMap log :: run.barriers }, ?_, by rw [hbarriers], ?_⟩
  · rw [runPhases, hdone]
    simp only [Option.bind_eq_bind, Option.bind_some, harrived, hlog]
    rw [if_neg (List.cons_ne_nil _ _), if_neg Bool.false_ne_true]
    exact congrArg (Option.bind · _) hrun
  · simp only [hstores, List.map_map, Function.comp_def]
    rw [← hfst]

/-! ## Admitted radii -/

lemma stencilRadius_mem {op : Op} (hadmitted : AdmittedOp op) :
    1 ≤ stencilRadius op ∧ stencilRadius op ≤ 12 := by
  unfold stencilRadius
  split_ifs
  · exact ⟨le_rfl, by norm_num⟩
  · refine ⟨le_max_left _ _, max_le (by norm_num) (Int.ceil_le.mpr ?_)⟩
    have hmax := hadmitted.le_max.trans (opSpec_bounds op.kind).2
    push_cast
    linarith

/-- The tile of an admitted stencil always fits. -/
lemma emitTileLoad_ok {radius : ℤ} {dim colors : ℕ} (hradius : 1 ≤ radius ∧ radius ≤ 12)
    (hsmall : dim ≤ 32) (hcolors : colors = 1 ∨ colors = 3) :
    ∃ load, emitTileLoad radius dim colors = .ok (⟨colors, (dim + 2 * radius).toNat⟩, load) := by
  have hedge : ((dim : ℤ) + 2 * radius).toNat ≤ 56 := by omega
  have hbytes : colors * ((dim : ℤ) + 2 * radius).toNat * ((dim : ℤ) + 2 * radius).toNat * 4
      ≤ 3 * 56 * 56 * 4 :=
    Nat.mul_le_mul_right _ (Nat.mul_le_mul (Nat.mul_le_mul (by omega) hedge) hedge)
  unfold emitTileLoad
  rw [if_neg (not_lt.mpr (hbytes.trans (by decide)))]
  exact ⟨_, rfl⟩

/-! ## The kernel -/

section Kernel

variable {cmath : CMath} {image : Image} {stage : Stage} {dim : ℕ}

/-- The fetch of a tiled kernel reads the tile. -/
lemma tiledFetch {env : Env} {s : ThreadState} {t : ℕ × ℕ} {colors : ℕ} {radius : ℤ}
    {tap : ℤ → ℤ → ℕ → ℚ} (hlx : s.ints .lx = t.1 + radius) (hly : s.ints .ly = t.2 + radius)
    (htile : ∀ dx dy, (-radius ≤ dx ∧ dx ≤ radius) → (-radius ≤ dy ∧ dy ≤ radius) →
      ∀ c < colors, env.tile (c, (t.2 : ℤ) + radius + dy, (t.1 : ℤ) + radius + dx)
        = some (tap dx dy c)) :
    Fetches env colors (emitFetch colors true []) radius tap s := by
  intro s' hframe hdx hdy
  refine Stmt.Runs.via (fun s₁ => s₁ = s'.setArray .t (List.replicate colors none))
    (Stmt.Runs.array rfl) fun s₁ hs₁ => ?_
  subst hs₁
  refine Stmt.Runs.setColors (tap (s'.ints .dx) (s'.ints .dy))
    (by rw [setArray_floats_self, List.length_replicate]) (fun c hc s₂ hframe₂ _ => ?_)
    fun s₂ hframe₂ hcells =>
      ⟨(Frame.setArray _ _ List.mem_cons_self).trans hframe₂, hcells⟩
  have hkeep : ∀ name, s₂.ints name = s'.ints name := fun name => hframe₂.ints name (by simp)
  simp only [FloatExpr.eval, IntExpr.eval, hkeep, hframe.ints .lx (by simp [scratchInts]),
    hframe.ints .ly (by simp [scratchInts]), hlx, hly]
  exact htile _ _ hdx hdy c hc

/-- This pixel in tile coordinates. -/
lemma tiledCoordinates_runs {env : Env} {s : ThreadState} {t : ℕ × ℕ} {radius : ℤ}
    {post : ThreadState → Prop} (hthread : env.thread = t)
    (h : ∀ s', Frame [.lx, .ly] [] s s' → s'.ints .lx = t.1 + radius →
      s'.ints .ly = t.2 + radius → post s') :
    (emitCoordinates true (radiusText radius false)).Runs env s post := by
  refine Stmt.Runs.via (fun s₁ => s₁ = s.setInt .lx (t.1 + radius)) (Stmt.Runs.int ?_)
    fun s₁ hs₁ => ?_
  · simp only [IntExpr.eval, radiusText, Bool.false_eq_true, if_false, hthread, Axis.of]
  refine Stmt.Runs.via (fun s₂ => s₂ = s₁.setInt .ly (t.2 + radius)) (Stmt.Runs.int ?_)
    fun s₂ hs₂ => Stmt.Runs.nop (h s₂ ?_ ?_ ?_)
  · simp only [IntExpr.eval, radiusText, Bool.false_eq_true, if_false, hthread, Axis.of]
  · rw [hs₂, hs₁]
    exact (Frame.setInt _ _ (by simp)).trans (Frame.setInt _ _ (by simp))
  · rw [hs₂, setInt_ints_of_ne _ _ (by decide), hs₁, setInt_ints_self]
  · rw [hs₂, setInt_ints_self]

/-- **What a block has done with its tile.**  All its threads have arrived at the one barrier, where
every cell had been written once, with the prologue-applied sample at its clamped coordinate; and
the cell any thread reads for any tap is one of them, holding the naive tap. -/
def StagesTile (image : Image) (stage : Stage) (dim edge : ℕ) (radius : ℤ) (b : ℕ × ℕ)
    (run : BlockRun) : Prop :=
  ∃ log, run.barriers = [log]
    ∧ (log.map Prod.fst).Perm (tileCells (Cpu.colorChannels image.channels) edge)
    ∧ (∀ write ∈ log, write.2 = tileValue image stage dim radius b write.1)
    ∧ ∀ t ∈ Grid.points dim dim, ∀ dx dy : ℤ, (-radius ≤ dx ∧ dx ≤ radius) →
      (-radius ≤ dy ∧ dy ≤ radius) → ∀ c < Cpu.colorChannels image.channels,
        ((c, (t.2 : ℤ) + radius + dy, (t.1 : ℤ) + radius + dx),
          stageTap image stage (Grid.planePoint dim (b, t)) dx dy c) ∈ log

lemma stagesTile_blockLog {edge : ℕ} {radius : ℤ} {b : ℕ × ℕ} {run : BlockRun} (hdim : 0 < dim)
    (hedge : (edge : ℤ) = dim + 2 * radius)
    (h : run.barriers = [blockLog image stage dim edge radius b]) :
    StagesTile image stage dim edge radius b run := by
  have hperm : (blockLog image stage dim edge radius b).Perm (tileWrites image stage dim radius b
      (tileCells (Cpu.colorChannels image.channels) edge)) := blockLog_perm hdim
  refine ⟨_, h, ?_, fun write hwrite => ?_, fun t ht dx dy hdx hdy c hc => ?_⟩
  · have hkeys := hperm.map Prod.fst
    rwa [map_fst_tileWrites] at hkeys
  · obtain ⟨cell, -, rfl⟩ := List.mem_map.mp (hperm.mem_iff.mp hwrite)
    rfl
  · rcases tap_cell (b := b) hedge ht hdx hdy hc with ⟨hcell, hvalue⟩
    rw [← hvalue]
    exact hperm.mem_iff.mpr (List.mem_map_of_mem hcell)

/-- The kernel computes its stage, and its blocks stage their tiles. -/
def ComputesTiled (code : StageCode) (cmath : CMath) (image : Image) (stage : Stage) (dim : ℕ)
    (radius : ℤ) : Prop :=
  ∀ launch schedule, LaunchesOver launch cmath image dim → launch.args = [] →
    ∃ run, code.run launch schedule = some run
      ∧ run.dst = (Cpu.applyOps cmath image stage.ops).pixels ++ launch.dst.drop image.byteCount
      ∧ StoresOnce image run
      ∧ List.Forall₂ (StagesTile image stage dim (dim + 2 * radius).toNat radius)
        (Grid.points launch.grid.1 launch.grid.2) run.blocks

/-- The parts of a tiled kernel. -/
structure TiledParts (code : StageCode) (cmath : CMath) (image : Image) (stage : Stage) (dim : ℕ)
    (stencil : PlannedOp) (tap : TapFunction) (load epilogue : Stmt) : Prop where
  args : code.kernel.bindArgs [] = some {}
  constants : code.constants = some (emitStencilConstants cmath stencil.op).1
  tap : code.tap = some tap
  tile : code.kernel.tile = some ⟨Cpu.colorChannels image.channels,
    ((dim : ℤ) + 2 * stencilRadius stencil.op).toNat⟩
  phases : code.kernel.phases = [[.stmt load],
    emitPixel image.channels (Cpu.colorChannels image.channels)
      (emitStencilBody stencil.op (stencilRadius stencil.op) (Cpu.colorChannels image.channels) true
        false []) epilogue]

section Parts

variable {code : StageCode} {stencil : PlannedOp} {tap : TapFunction} {load epilogue : Stmt}
  {launch : Launch}

/-- Behind the barrier the tile is complete, so every fetch of the body finds its cell. -/
lemma TiledParts.body_computes (hparts : TiledParts code cmath image stage dim stencil tap load
      epilogue) (hstage : stage.WellFormed) (hstencil : stage.stencil = some stencil)
    (hdim : 0 < dim) (hlaunch : LaunchesOver launch cmath image dim) {edge : ℕ}
    (hedge : (edge : ℤ) = dim + 2 * stencilRadius stencil.op) (schedule : Schedule)
    {b t : ℕ × ℕ} (ht : t ∈ Grid.points dim dim) (s : ThreadState) :
    Computes (code.env launch {} b t (landed (schedule.tile b)
        (blockLog image stage dim edge (stencilRadius stencil.op) b))) image
      (Grid.planePoint dim (b, t))
      (emitStencilBody stencil.op (stencilRadius stencil.op) (Cpu.colorChannels image.channels) true
        false [])
      s (bodyPixel cmath image stage (Grid.planePoint dim (b, t))) := by
  have hcmath : (code.env launch {} b t (landed (schedule.tile b)
      (blockLog image stage dim edge (stencilRadius stencil.op) b))).cmath = cmath := by
    rw [env_cmath, hlaunch.cmath_eq]
  have htable : ∀ name ≠ Table.taps, (code.env launch {} b t (landed (schedule.tile b)
      (blockLog image stage dim edge (stencilRadius stencil.op) b))).table name
        = (emitStencilConstants cmath stencil.op).1.table name := by
    intro name hname
    rw [env_table]
    cases name with
    | taps => exact absurd rfl hname
    | _ => simp only [StageCode.table, hparts.constants]
  refine stencilBody_computes hcmath hstage hstencil fun s' _ _ _ =>
    tiledCoordinates_runs (env_thread ..) fun s₁ hframe hlx hly => ⟨hframe, ?_, ?_⟩
  · have hready := stencilReady_baked hcmath (hstage.stencil stencil hstencil) htable s₁
    rwa [emitStencilConstants_radius] at hready
  · refine tiledFetch hlx hly fun dx dy hdx hdy c hc => ?_
    obtain ⟨hcell, hvalue⟩ := tap_cell (b := b) hedge ht hdx hdy hc
    rw [env_tile, ← hvalue]
    exact landed_eq (schedule.tile_perm b) hdim hcell

/-- **A kernel made of these parts computes its stage**: the load phase stages the tile, and behind
the barrier the naive body finds every tap in it. -/
theorem TiledParts.computes
    (hparts : TiledParts code cmath image stage dim stencil tap load epilogue)
    (hstage : stage.WellFormed) (hstencil : stage.stencil = some stencil) (hdim : 0 < dim)
    (hradius : 1 ≤ stencilRadius stencil.op)
    (hcall : ∀ (env : Env) (x y : ℤ) (target : List (Option ℚ)), Holds env.src image →
      target.length = Cpu.colorChannels image.channels →
      tap.call env image.width image.height x y target []
        = some (registers (Cpu.colorChannels image.channels)
          (tapPixel image (stage.prologue.map PlannedOp.op) x y)))
    (hload : emitTileLoad (stencilRadius stencil.op) dim (Cpu.colorChannels image.channels)
      = .ok (⟨Cpu.colorChannels image.channels,
        ((dim : ℤ) + 2 * stencilRadius stencil.op).toNat⟩, load))
    (hepilogue : ∀ env s pixel, ParamsBound false stage.epilogue s.params →
      s.floats .v = registers (Cpu.colorChannels image.channels) pixel →
      epilogue.Runs env s (PixelDone (Cpu.colorChannels image.channels) .v
        (pixelOps (Cpu.colorChannels image.channels) (stage.epilogue.map PlannedOp.op) pixel) s)) :
    ComputesTiled code cmath image stage dim (stencilRadius stencil.op) := by
  intro launch schedule hlaunch hnone
  have hblockDim := hlaunch.blockDim_eq
  set radius := stencilRadius stencil.op with hr
  set edge := ((dim : ℤ) + 2 * radius).toNat with hedge
  have hedge' : (edge : ℤ) = dim + 2 * radius := by omega
  let log := fun (b t : ℕ × ℕ) => tileWrites image stage dim radius b
    (threadCells (Cpu.colorChannels image.channels) dim edge t)
  have hblocks : ∀ b ∈ Grid.points launch.grid.1 launch.grid.2, ∃ run,
      runPhases (code.env launch {} b) (schedule.tile b) code.kernel.phases (fun _ => none)
          ((Grid.points launch.blockDim launch.blockDim).map fun t =>
            (t, StageCode.start launch {})) = some run
        ∧ run.stores = (Grid.points launch.blockDim launch.blockDim).flatMap
          (fun t => threadStores image launch.blockDim (stagePixel cmath image stage) (b, t))
        ∧ StagesTile image stage dim edge radius b run := by
    intro b _
    rw [hparts.phases, hblockDim]
    have hfirst : ∀ t ∈ Grid.points dim dim, RunsItems (code.env launch {} b t fun _ => none)
        [.stmt load] (StageCode.start launch {})
        (Staged loadInts [.t] (log b t) (StageCode.start launch {})) := fun t _ =>
      RunsItems.stmt (emitTileLoad_runs hload hedge hdim (env_block ..) (env_thread ..)
        ⟨by rw [env_tileShape, hparts.tile], tap_baked hparts.tap hlaunch hcall⟩)
        fun s' hs' => RunsItems.nil hs'
    have hsecond : ∀ t ∈ Grid.points dim dim, ∀ s,
        Staged loadInts [.t] (log b t) (StageCode.start launch {}) s →
        RunsItems (code.env launch {} b t (landed (schedule.tile b)
          ((Grid.points dim dim).flatMap (log b)))) (emitPixel image.channels
            (Cpu.colorChannels image.channels) (emitStencilBody stencil.op radius
              (Cpu.colorChannels image.channels) true false []) epilogue)
          { s with tileLog := [] } fun s' =>
            s'.dstLog = threadStores image dim (stagePixel cmath image stage) (b, t) := by
      intro t ht s hs
      have hdstLog : s.dstLog = [] := hs.dstLog
      have hbody := hparts.body_computes hstage hstencil hdim hlaunch hedge' schedule (b := b) ht
        { s with tileLog := [] }
      have hpixel := pixelPhase_spec (s := { s with tileLog := [] }) (b := b) (t := t) hlaunch
        ((hs.ints .width (by decide)).trans hlaunch.width_eq)
        ((hs.ints .height (by decide)).trans hlaunch.height_eq)
        (fun p hp _ => hp ▸ hbody) (bakedEpilogue_runs hepilogue)
      exact hpixel.mono fun s' hs' => hs'.trans (congrArg (· ++ _) hdstLog)
    obtain ⟨run, hrun, hbarriers, hstores⟩ := runPhases_barrier
      (fun t => Staged loadInts [.t] (log b t) (StageCode.start launch {})) hfirst
      (fun t s hs => ⟨hs.returned, hs.tileLog⟩) hsecond
    exact ⟨run, hrun, hstores, stagesTile_blockLog hdim hedge' hbarriers⟩
  obtain ⟨run, hrun, hdst, hkeys, hgood⟩ := StageCode.run_spec schedule
    (StagesTile image stage dim edge radius) (by rw [hnone]; exact hparts.args)
    (by rw [hblockDim]; exact hdim) (by rw [hblockDim]; exact hlaunch.reaches_width)
    (by rw [hblockDim]; exact hlaunch.reaches_height) (pictureOf_stage cmath image hstage)
    hlaunch.dst hblocks
  exact ⟨run, hrun, hdst, hkeys, hgood⟩

end Parts

/-- **The tiled kernel of a stencil stage.** -/
theorem emitStencilStage_tiled (cmath : CMath) (image : Image) (name : KernelName)
    (hstage : stage.WellFormed) {stencil : PlannedOp} (hstencil : stage.stencil = some stencil)
    (hadmitted : AdmittedOp stencil.op) (hdim : 0 < dim) (hsmall : dim ≤ 32) :
    ∃ code, emitStencilStage cmath name stage stencil image.channels
        (Cpu.colorChannels image.channels) dim false
        = .ok (code, { kernelName := name, isStencil := true, blockDim := dim })
      ∧ ComputesTiled code cmath image stage dim (stencilRadius stencil.op) := by
  have hcolors := Cpu.colorChannels_mem image
  have hradius := stencilRadius_mem hadmitted
  obtain ⟨tap, htap, hcall⟩ := emitTapFunction_baked image hstage.prologue
  obtain ⟨epilogue, hepilogue, hruns'⟩ :=
    emitPointwise_spec hcolors .v (by decide) false hstage.epilogue
  obtain ⟨load, hload⟩ := emitTileLoad_ok hradius hsmall hcolors
  have hphase : emitLoadPhase true (stencilRadius stencil.op) dim
        (Cpu.colorChannels image.channels) = .ok (some (⟨Cpu.colorChannels image.channels,
          ((dim : ℤ) + 2 * stencilRadius stencil.op).toNat⟩, load)) := by
    rw [emitLoadPhase, if_pos rfl, hload]
    rfl
  have htiled : decide (dim > 0) = true := decide_eq_true hdim
  refine ⟨_, by
    rw [emitStencilStage, show paramIndices stage.prologue false = [] from rfl, htap, htiled]
    simp only [Bool.false_and, Bool.not_false, if_true, emitStencilConstants_radius]
    rw [hphase, hepilogue]
    rfl, TiledParts.computes ⟨rfl, rfl, rfl, rfl, rfl⟩ hstage hstencil hdim hradius.1 hcall hload
      hruns'⟩

end Kernel

end Cuda

end Imgjit
