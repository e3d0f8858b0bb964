import Imgjit.Cuda.IntRanges

/-!
# The integers of a stage

From the parts of a kernel to all of it, for one thread of the grid.

What a thread computes depends on three things that have nothing to do with one another: the frame,
which bounds the samples; the launch, which bounds the thread's coordinates; and the tile, which
decides how far out the cells lie that the thread stages.  They are kept apart as hypotheses, so
that the exact bounds of `Indexable.lean` and the generous ones of `IntLaunch.lean` can both be fed
into the same result.

**The tile.**  A thread of a tiled kernel stages the cells `k`, `k + dim * dim`, ... of its block's
tile.  `CellsFit` says that these lie in range; `tileLoad_within` follows the load phase around a
tap helper that is in range for every pair of `int`s.

**The stage.**  `StencilParts` takes an emitted stencil stage apart, and `stage_within` puts the
pieces together: whatever the variant, the channels and the values of the parameters, every access
of a thread is in range if the frame is `Sized`, the thread's coordinates are `int`s and its cells
fit.
-/

namespace Imgjit

open Exceptions

namespace Cuda

section Within

variable {width height channels reach : ℕ} {env : Env} {tap : ℤ → ℤ → List Access} {ints : Ints}

/-! ## The tile -/

/-- The cells of the tile that a thread loads, one in every `dim * dim`, and where they are in the
frame before the radius is taken off: in range, once it is. -/
def CellsFit (block thread : ℕ × ℕ) (dim radius : ℕ) : Prop :=
  ∀ k < (dim + 2 * radius) * (dim + 2 * radius),
    k % (dim * dim) = (thread.2 * dim + thread.1) % (dim * dim) →
    block.1 * dim + k % (dim + 2 * radius) < 2 ^ 31 + radius
      ∧ block.2 * dim + k / (dim + 2 * radius) < 2 ^ 31 + radius

/-- The body of the load loop. -/
def loadTurn (edge colors : ℕ) : Stmt :=
  .all
    [.int .ty (.div (.var .k) (.lit edge)),
     .int .tx (.sub (.var .k) (.mul (.var .ty) (.lit edge))),
     .array .t colors none,
     .callTap (.add (.var .tileX0) (.var .tx)) (.add (.var .tileY0) (.var .ty)) .t [],
     .forColors colors fun c => .setTile c (.var .ty) (.var .tx) (.cell .t c)]

/-- One turn of the load loop. -/
lemma loadTurn_within {size colors edge radius column row k : ℕ} (hradius : radius ≤ 12)
    (hedge : 0 < edge ∧ edge ≤ 56) (hk : k < edge * edge)
    (hcolumn : column + k % edge < 2 ^ 31 + radius) (hrow : row + k / edge < 2 ^ 31 + radius)
    (hX0 : ints .tileX0 = (column : ℤ) - radius) (hY0 : ints .tileY0 = (row : ℤ) - radius)
    (hints : ints .k = k)
    (htap : ∀ x y : ℤ, (Access.int x).Fits size → (Access.int y).Fits size →
      ∀ access ∈ tap x y, access.Fits size) :
    (loadTurn edge colors).Within env tap (Access.Fits size) ints (Ints.Agree [.ty, .tx] ints) := by
  have hsquare : edge * edge ≤ 56 * 56 := Nat.mul_le_mul hedge.2 hedge.2
  have hty : k / edge < edge := Nat.div_lt_of_lt_mul hk
  have htx := Nat.mod_lt k hedge.1
  have hdiv : (k : ℤ).tdiv edge = ((k / edge : ℕ) : ℤ) := (Int.ofNat_tdiv k edge).symm
  have hrows : k / edge * edge + k % edge = k := Nat.div_add_mod' k edge
  generalize k / edge = q at *
  generalize k % edge = m at *
  have hproduct : (q : ℤ) * edge = ((q * edge : ℕ) : ℤ) := by push_cast; rfl
  refine .seq (fun ints' => Ints.Agree [.ty, .tx] ints ints' ∧ ints' .ty = q)
    (.int ?_ ⟨(Ints.Agree.refl _ _).update .ty _ (by decide), ?_⟩) ?_
  · simp only [IntExpr.evaluated, IntExpr.eval, hints, hdiv, List.cons_append, List.nil_append,
      List.forall_mem_cons, Access.Fits]
    exact ⟨by omega, by omega, by omega, List.forall_mem_nil _⟩
  · rw [Function.update_self]
    simp only [IntExpr.eval, hints, hdiv]
  rintro ints' ⟨hagree, hy⟩
  have hk' := (hagree .k (by decide)).trans hints
  refine .seq (fun ints'' => Ints.Agree [.ty, .tx] ints ints'' ∧ ints'' .ty = q
      ∧ ints'' .tx = m)
    (.int ?_ ⟨hagree.update .tx _ (by decide), hy, ?_⟩) ?_
  · simp only [IntExpr.evaluated, IntExpr.eval, hk', hy, hproduct, List.cons_append,
      List.nil_append, List.forall_mem_cons, Access.Fits]
    exact ⟨by omega, by omega, by omega, by omega, by omega, List.forall_mem_nil _⟩
  · rw [Function.update_self]
    simp only [IntExpr.eval, hk', hy, hproduct]
    omega
  rintro ints' ⟨hagree, hy, hx⟩
  have hX0' := (hagree .tileX0 (by decide)).trans hX0
  have hY0' := (hagree .tileY0 (by decide)).trans hY0
  refine .seq (fun ints'' => ints'' = ints') (.silent (fun _ _ _ => ⟨rfl, rfl⟩) rfl) ?_
  rintro ints' rfl
  refine .seq (fun ints'' => ints'' = ints') ⟨?_, rfl⟩ ?_
  · have hcell : (Access.int (ints' .tileX0 + ints' .tx)).Fits size
        ∧ (Access.int (ints' .tileY0 + ints' .ty)).Fits size := by
      simp only [Access.Fits, hX0', hY0', hx, hy]
      omega
    simp only [Stmt.touches, IntExpr.evaluated, IntExpr.eval, List.cons_append, List.nil_append,
      List.forall_mem_cons]
    refine ⟨?_, ?_, hcell.1, ?_, ?_, hcell.2, htap _ _ hcell.1 hcell.2⟩
    all_goals
      simp only [Access.Fits, hX0', hY0', hx, hy]
      omega
  rintro ints' rfl
  refine .seq (fun ints'' => ints'' = ints')
    (.forColors rfl fun c _ ints'' hints'' => ⟨?_, hints''⟩) ?_
  · obtain rfl := hints''
    simp only [Stmt.touches, FloatExpr.touches, IntExpr.evaluated, List.cons_append,
      List.nil_append, List.forall_mem_cons, Access.Fits, hx, hy]
    exact ⟨by omega, by omega, List.forall_mem_nil _⟩
  · rintro ints' rfl
    exact .silent (fun _ _ _ => ⟨rfl, rfl⟩) hagree

/-- Where a block's tile starts, the apron included. -/
def originText (axis : Axis) (dim radius : ℕ) : IntExpr :=
  .sub (.ofUnsigned (.mul (.blockIdx axis) (.lit dim))) (.lit radius)

lemma originText_within {axis : Axis} {size dim radius : ℕ} (hradius : radius ≤ 12)
    (hblock : axis.of env.block * dim < 2 ^ 31) :
    (∀ access ∈ (originText axis dim radius).evaluated env ints, access.Fits size)
      ∧ (originText axis dim radius).eval env ints
        = ((axis.of env.block * dim : ℕ) : ℤ) - radius := by
  simp only [originText, IntExpr.evaluated, IntExpr.eval, List.cons_append, List.nil_append,
    List.forall_mem_cons, Access.Fits, ← Nat.cast_mul]
  exact ⟨⟨by omega, by omega, by omega, List.forall_mem_nil _⟩, trivial⟩

/-- The tile's origin is set, and nothing else that the loop reads. -/
def AtTile (env : Env) (dim radius : ℕ) (ints ints' : Ints) : Prop :=
  Ints.Agree loadInts ints ints'
    ∧ ints' .tileX0 = ((env.block.1 * dim : ℕ) : ℤ) - radius
    ∧ ints' .tileY0 = ((env.block.2 * dim : ℕ) : ℤ) - radius

/-- The two statements in front of the loop. -/
lemma tileOrigin_within {size dim radius : ℕ} (hradius : radius ≤ 12) (hblock : env.blockDim = dim)
    (hgrid : InGrid env) {rest : Stmt} {post : Ints → Prop}
    (hrest : ∀ ints', AtTile env dim radius ints ints' →
      rest.Within env tap (Access.Fits size) ints' post) :
    (Stmt.seq (.int .tileX0 (originText .x dim radius))
      (.seq (.int .tileY0 (originText .y dim radius)) rest)).Within env tap (Access.Fits size) ints
        post := by
  have hcolumn := hgrid.column
  have hrow := hgrid.row
  rw [hblock] at hcolumn hrow
  have horigin : ∀ (axis : Axis) (ints' : Ints),
      (∀ access ∈ (originText axis dim radius).evaluated env ints', access.Fits size)
        ∧ (originText axis dim radius).eval env ints'
          = ((axis.of env.block * dim : ℕ) : ℤ) - radius := by
    intro axis ints'
    refine originText_within hradius ?_
    cases axis with
    | x => exact (Nat.le_add_right _ _).trans_lt hcolumn
    | y => exact (Nat.le_add_right _ _).trans_lt hrow
  have hfirst := (Ints.Agree.refl loadInts ints).update .tileX0
    ((originText .x dim radius).eval env ints) (by decide)
  refine .seq _ (.int (horigin .x ints).1 rfl) ?_
  rintro ints' rfl
  refine .seq (AtTile env dim radius ints)
    (.int (horigin .y _).1 ⟨hfirst.update .tileY0 _ (by decide), ?_, ?_⟩) hrest
  · rw [Function.update_of_ne (by decide), Function.update_self]
    exact (horigin .x ints).2
  · rw [Function.update_self]
    exact (horigin .y _).2

/-- **The load phase**, around a tap helper that is in range for every pair of `int`s. -/
theorem tileLoad_within {size dim colors radius : ℕ} {shape : TileShape} {load : Stmt}
    (hdim : dim ≤ 32) (hradius : 1 ≤ radius ∧ radius ≤ 12) (hblock : env.blockDim = dim)
    (hthread : env.thread.1 < dim ∧ env.thread.2 < dim) (hgrid : InGrid env)
    (hfit : CellsFit env.block env.thread dim radius)
    (htap : ∀ x y : ℤ, (Access.int x).Fits size → (Access.int y).Fits size →
      ∀ access ∈ tap x y, access.Fits size)
    (h : emitTileLoad radius dim colors = .ok (shape, load)) :
    load.Within env tap (Access.Fits size) ints (Ints.Agree loadInts ints) := by
  have hedge : ((dim : ℤ) + 2 * radius).toNat = dim + 2 * radius := by omega
  unfold emitTileLoad at h
  simp only [hedge] at h
  split_ifs at h
  cases h
  refine tileOrigin_within hradius.2 hblock hgrid fun ints' hints' => ?_
  have hfirstValue : ∀ ints : Ints, (IntExpr.ofUnsigned
      (.add (.mul (.threadIdx .y) (.lit dim)) (.threadIdx .x))).eval env ints
        = ((env.thread.2 * dim + env.thread.1 : ℕ) : ℤ) := fun ints => by
    simp only [IntExpr.eval, Axis.of, Nat.cast_add, Nat.cast_mul]
  have hnumber : env.thread.2 * dim ≤ 32 * 32 := Nat.mul_le_mul (by omega) hdim
  have hstep : dim * dim ≤ 32 * 32 := Nat.mul_le_mul hdim hdim
  have hcells : (dim + 2 * radius) * (dim + 2 * radius) ≤ 56 * 56 :=
    Nat.mul_le_mul (by omega) (by omega)
  refine .seq _ (.forBelow (AtTile env dim radius ints) hints' ?_ ?_ ?_ ?_ ?_)
    fun ints'' hints'' => .silent (fun _ _ _ => ⟨rfl, rfl⟩) hints''.1
  · exact Nat.mul_pos (by omega) (by omega)
  · simp only [IntExpr.evaluated, List.forall_mem_cons, Access.Fits, hfirstValue]
    exact ⟨by omega, List.forall_mem_nil _⟩
  · simp only [Access.Fits]
    omega
  · simp only [Access.Fits]
    omega
  · rintro k hk - hmod ints'' ⟨hagree, hX0, hY0⟩
    rw [hfirstValue, Int.toNat_natCast] at hmod
    rcases hfit k hk hmod with ⟨hcolumnCell, hrowCell⟩
    refine ⟨?_, ?_, (loadTurn_within hradius.2 ⟨by omega, by omega⟩ hk hcolumnCell hrowCell ?_ ?_ ?_
      htap).mono fun ints₃ hints₃ => ⟨?_, ?_, ?_⟩⟩
    · simp only [Access.Fits]
      omega
    · simp only [Access.Fits]
      omega
    · rw [Function.update_of_ne (by decide)]
      exact hX0
    · rw [Function.update_of_ne (by decide)]
      exact hY0
    · exact Function.update_self ..
    · exact (hagree.update .k _ (by decide)).trans (hints₃.mono (by decide))
    · rw [hints₃ .tileX0 (by decide), Function.update_of_ne (by decide)]
      exact hX0
    · rw [hints₃ .tileY0 (by decide), Function.update_of_ne (by decide)]
      exact hY0

/-- A naive stage has no load phase. -/
lemma loadPhase_within {size tileSize colors : ℕ} {radius : ℤ} {load : Option (TileShape × Stmt)}
    (htile : tileSize ≤ 32) (hradius : 0 < tileSize → 1 ≤ radius ∧ radius ≤ 12)
    (hblock : 0 < tileSize → env.blockDim = tileSize)
    (hthread : 0 < tileSize → env.thread.1 < tileSize ∧ env.thread.2 < tileSize)
    (hgrid : InGrid env)
    (hcells : ∀ r : ℕ, radius = r → 0 < tileSize → CellsFit env.block env.thread tileSize r)
    (htap : ∀ x y : ℤ, (Access.int x).Fits size → (Access.int y).Fits size →
      ∀ access ∈ tap x y, access.Fits size)
    (h : emitLoadPhase (decide (tileSize > 0)) radius tileSize colors = .ok load) :
    ∀ emitted ∈ load, emitted.2.Within env tap (Access.Fits size) ints
      (Ints.Agree loadInts ints) := by
  by_cases htiled : 0 < tileSize
  · rw [emitLoadPhase, if_pos (decide_eq_true htiled)] at h
    have hradius := hradius htiled
    obtain ⟨r, rfl⟩ := Int.eq_ofNat_of_zero_le (show 0 ≤ radius by omega)
    cases hload : emitTileLoad r tileSize colors with
    | error error =>
        rw [hload] at h
        cases h
    | ok emitted =>
        rw [hload] at h
        cases h
        rintro _ ⟨⟩
        exact tileLoad_within htile (by omega) (hblock htiled) (hthread htiled) hgrid
          (hcells r rfl htiled) htap hload
  · rw [emitLoadPhase, if_neg (by simpa using htiled)] at h
    cases h
    exact fun _ hmem => by cases hmem

/-! ## A stage -/

/-- What a stage needs besides the sizes: an admitted stencil, and a radius as the launcher passes
it. -/
structure StageRanges (stage : Stage) (code : StageCode) (args : BoundArgs) : Prop where
  stencil : ∀ planned, stage.stencil = some planned →
    (opSpec planned.op.kind).isStencil = true ∧ AdmittedOp planned.op
  radius : code.kernel.runtimeRadius = true → 1 ≤ args.radius ∧ args.radius ≤ 12

/-- The launch is for a frame of this size, and the thread is one of its block. -/
structure LaunchOf (launch : Launch) (generated : GeneratedStage) (thread : ℕ × ℕ)
    (width height : ℕ) : Prop where
  width : launch.width = width
  height : launch.height = height
  blockDim : launch.blockDim = generated.blockDim
  thread : thread.1 < generated.blockDim ∧ thread.2 < generated.blockDim

/-- Baked constants leave nothing to pass. -/
lemma emitStage_baked {cmath : CMath} {name : KernelName} {stage : Stage}
    {channels colors tileSize : ℕ} {code : StageCode} {generated : GeneratedStage}
    (h : emitStage cmath name stage channels colors tileSize false = .ok (code, generated)) :
    code.kernel.runtimeRadius = false ∧ code.kernel.params = [] ∧ generated.paramOps = [] := by
  have hheader := emitStage_header h
  have hruntime := hheader.runtimeRadius
  have hparams := hheader.params
  have hops := hheader.paramOps
  rw [Bool.false_and] at hruntime
  rw [paramIndices, paramIndices, if_neg Bool.false_ne_true, if_neg Bool.false_ne_true,
    List.append_nil] at hparams
  rw [hruntime, hparams, if_neg Bool.false_ne_true, List.append_nil] at hops
  exact ⟨hruntime, hparams, hops⟩

/-- A pointwise stage reads and writes the samples of one pixel. -/
lemma pointwiseStage_within (hsize : Sized width height channels reach)
    (hchannels : 0 < channels ∧ channels ≤ 4) {colors : ℕ} (hcolors : colors ≤ channels)
    {name : KernelName} {stage : Stage} {parameterized : Bool} {code : StageCode}
    {generated : GeneratedStage}
    (h : emitPointwiseStage name stage channels colors parameterized = .ok (code, generated))
    (hthread : InGrid env) (hwidth : ints .width = width) (hheight : ints .height = height) :
    WithinItems env tap (Access.Fits (width * height * channels)) code.kernel.phases.flatten
      ints := by
  rcases bind_eq_ok h with ⟨prologue, hprologue, h⟩
  rcases bind_eq_ok h with ⟨epilogue, hepilogue, h⟩
  cases h
  refine pixel_within hsize hchannels hcolors hthread hwidth hheight
    (fun ints' _ _ _ hat => ?_) (emitPointwise_silent hepilogue)
  exact .seq _ (loadSamples_within hsize hchannels hcolors (fun _ hat => hat) hat)
    fun ints'' hat => .silent (emitPointwise_silent hprologue) hat

/-- The radius that a stencil stage runs with. -/
def stageRadius (stencil : Op) (runtimeRadius : Bool) (args : BoundArgs) : ℤ :=
  if runtimeRadius then args.radius else stencilRadius stencil

lemma StageRanges.stageRadius_mem {stage : Stage} {code : StageCode} {args : BoundArgs}
    (hranges : StageRanges stage code args) {stencil : Op} (hadmitted : AdmittedOp stencil) :
    1 ≤ stageRadius stencil code.kernel.runtimeRadius args
      ∧ stageRadius stencil code.kernel.runtimeRadius args ≤ 12 := by
  rw [stageRadius]
  split_ifs with hruntime
  · exact hranges.radius hruntime
  · exact stencilRadius_mem hadmitted

/-- The body of a stencil stage, on the variables that the load phase has left. -/
lemma stageBody_within (hsize : Sized width height channels reach)
    (htap : ∀ x y : ℤ, (Access.int x).Fits (width * height * channels) →
      (Access.int y).Fits (width * height * channels) →
      ∀ access ∈ tap x y, access.Fits (width * height * channels))
    {stencil : Op} {runtimeRadius tiled : Bool} {args : BoundArgs} {colors : ℕ}
    {tapArgs : List ℕ} {baked : ℤ} (hkind : (opSpec stencil.kind).isStencil = true)
    (hgaussian : runtimeRadius = true → stencil.kind = .kGaussian)
    (hbaked : runtimeRadius = false → baked = stencilRadius stencil)
    (hradius : 1 ≤ stageRadius stencil runtimeRadius args
      ∧ stageRadius stencil runtimeRadius args ≤ 12)
    (hreach : stageRadius stencil runtimeRadius args ≤ reach)
    (hthread : tiled = true → env.thread.1 < 32 ∧ env.thread.2 < 32)
    (hargs : ints .radius = args.radius) (hx : 0 ≤ ints .x ∧ ints .x < width)
    (hy : 0 ≤ ints .y ∧ ints .y < height) (hat : AtPixel width height channels ints) :
    (emitStencilBody stencil baked colors tiled runtimeRadius tapArgs).Within env tap
      (Access.Fits (width * height * channels)) ints (AtPixel width height channels) := by
  have hsobel : stencil.kind ≠ .kGaussian → stageRadius stencil runtimeRadius args = 1 := by
    intro hne
    have hruntime : runtimeRadius ≠ true := fun htrue => hne (hgaussian htrue)
    rw [stageRadius, if_neg hruntime, stencilRadius, if_pos]
    cases hop : stencil.kind <;> rw [hop] at hkind hne <;>
      first | rfl | exact absurd rfl hne | exact absurd hkind (by decide)
  have hreads : ∀ ints', Ints.Agree bodyInts ints ints' →
      ReadsRadius env (radiusText baked runtimeRadius) (stageRadius stencil runtimeRadius args)
        ints' := by
    intro ints' hints'
    cases runtimeRadius with
    | false =>
        have hlit := hbaked rfl
        exact ⟨hlit, congrArg (fun value => [Access.int value]) hlit⟩
    | true =>
        have hvar := (hints' .radius (by decide)).trans hargs
        exact ⟨hvar, congrArg (fun value => [Access.int value]) hvar⟩
  refine (stencilBody_within ⟨by omega, hradius.2⟩ hsobel hthread hreads
    fun ints' hints' hcell => ?_).mono fun ints' hints' => ?_
  · cases tiled with
    | true =>
        rcases hcell rfl with ⟨hlx, hly⟩
        exact tiledFetch_within le_rfl ⟨by omega, hradius.2⟩ hlx hly (hthread rfl)
    | false =>
        rw [← hints' .x (by decide)] at hx
        rw [← hints' .y (by decide)] at hy
        exact naiveFetch_within hsize ⟨hradius.2, hreach⟩ hx hy htap
  · rw [AtPixel, hints' .i (by decide)]
    exact hat

/-- The parts of a stencil stage. -/
structure StencilParts (stage : Stage) (stencil : Op) (channels colors tileSize : ℕ)
    (parameterized : Bool) (code : StageCode) (helper : TapFunction) (baked : ℤ)
    (load : Option (TileShape × Stmt)) (epilogue : Stmt) : Prop where
  tap : code.tap = some helper
  tapFunction : emitTapFunction stage channels colors parameterized
    (paramIndices stage.prologue parameterized) = .ok helper
  runtimeRadius : code.kernel.runtimeRadius = (parameterized && stencil.kind == .kGaussian)
  literal : code.kernel.runtimeRadius = false → baked = stencilRadius stencil
  loadPhase : emitLoadPhase (decide (tileSize > 0)) baked tileSize colors = .ok load
  pointwise : emitPointwise colors .v parameterized stage.epilogue = .ok epilogue
  phases : code.kernel.phases = (load.map fun emitted => [Item.stmt emitted.2]).toList
    ++ [emitPixel channels colors (emitStencilBody stencil baked colors (decide (tileSize > 0))
      code.kernel.runtimeRadius (paramIndices stage.prologue parameterized)) epilogue]

lemma emitStencilStage_parts {cmath : CMath} {name : KernelName} {stage : Stage}
    {stencil : PlannedOp} {channels colors tileSize : ℕ} {parameterized : Bool} {code : StageCode}
    {generated : GeneratedStage}
    (h : emitStencilStage cmath name stage stencil channels colors tileSize parameterized
      = .ok (code, generated)) :
    ∃ helper baked load epilogue,
      StencilParts stage stencil.op channels colors tileSize parameterized code helper baked load
        epilogue := by
  unfold emitStencilStage at h
  cases hruntime : parameterized && stencil.op.kind == .kGaussian with
  | false =>
      simp only [hruntime, Bool.not_false, if_true, emitStencilConstants_radius] at h
      rcases bind_eq_ok h with ⟨helper, hhelper, h⟩
      rcases bind_eq_ok h with ⟨load, hload, h⟩
      rcases bind_eq_ok h with ⟨epilogue, hepilogue, h⟩
      cases h
      exact ⟨helper, _, load, epilogue, rfl, hhelper, hruntime.symm, fun _ => rfl, hload, hepilogue,
        rfl⟩
  | true =>
      simp only [hruntime, Bool.not_true, Bool.false_eq_true, if_false] at h
      rcases bind_eq_ok h with ⟨helper, hhelper, h⟩
      rcases bind_eq_ok h with ⟨load, hload, h⟩
      rcases bind_eq_ok h with ⟨epilogue, hepilogue, h⟩
      cases h
      exact ⟨helper, _, load, epilogue, rfl, hhelper, hruntime.symm,
        fun hfalse => absurd hfalse.symm Bool.false_ne_true, hload, hepilogue, rfl⟩

lemma StencilParts.of_runtimeRadius {stage : Stage} {stencil : Op} {colors tileSize : ℕ}
    {parameterized : Bool} {code : StageCode} {helper : TapFunction} {baked : ℤ}
    {load : Option (TileShape × Stmt)} {epilogue : Stmt}
    (hparts : StencilParts stage stencil channels colors tileSize parameterized code helper baked
      load epilogue) (hruntime : code.kernel.runtimeRadius = true) :
    parameterized = true ∧ stencil.kind = .kGaussian := by
  rw [hparts.runtimeRadius] at hruntime
  simpa only [Bool.and_eq_true, beq_iff_eq] using hruntime

/-- What keeps a thread in range: its coordinates are `int`s, its window is within reach of its
pixel, and in a tiled kernel its cells fit. -/
structure ThreadFits (stage : Stage) (code : StageCode) (generated : GeneratedStage)
    (args : BoundArgs) (tileSize reach : ℕ) (block thread : ℕ × ℕ) : Prop where
  column : block.1 * generated.blockDim + thread.1 < 2 ^ 31
  row : block.2 * generated.blockDim + thread.2 < 2 ^ 31
  reach : ∀ stencil, stage.stencil = some stencil →
    stageRadius stencil.op code.kernel.runtimeRadius args ≤ reach
  cells : ∀ stencil, stage.stencil = some stencil → 0 < tileSize →
    CellsFit block thread tileSize (stencilRadius stencil.op).toNat

/-- **A stencil stage**, in either variant: the tap helper is in range, hence so is the load phase
or the naive fetch. -/
lemma stencilStage_within (hsize : Sized width height channels reach)
    (hchannels : 0 < channels ∧ channels ≤ 4) {colors tileSize : ℕ} (hcolors : colors ≤ channels)
    (htile : tileSize ≤ 32) {stage : Stage} {stencil : PlannedOp} {parameterized : Bool}
    {code : StageCode} {generated : GeneratedStage} {helper : TapFunction} {baked : ℤ}
    {load : Option (TileShape × Stmt)} {epilogue : Stmt}
    (hparts : StencilParts stage stencil.op channels colors tileSize parameterized code helper baked
      load epilogue)
    (hblock : generated.blockDim = if 0 < tileSize then tileSize else kNaiveBlockDim)
    (hstencil : stage.stencil = some stencil) (hnaive : parameterized = true → tileSize = 0)
    {launch : Launch} {args : BoundArgs} {block thread : ℕ × ℕ}
    (hranges : StageRanges stage code args)
    (hlaunch : LaunchOf launch generated thread width height) (hpos : 0 < width ∧ 0 < height)
    (hthread : ThreadFits stage code generated args tileSize reach block thread) :
    ∀ access ∈ code.touches launch args block thread, access.Fits (width * height * channels) := by
  rcases hranges.stencil stencil hstencil with ⟨hkind, hadmitted⟩
  have hradius := hranges.stageRadius_mem hadmitted
  rw [StageCode.touches]
  set env := code.env launch args block thread fun _ => none with henv
  have hname : env.thread = thread := env_thread ..
  have hdim : env.blockDim = generated.blockDim := (env_blockDim ..).trans hlaunch.blockDim
  have hgrid : InGrid env := by
    refine ⟨?_, ?_⟩
    · rw [env_block, hdim, hname]
      exact hthread.column
    · rw [env_block, hdim, hname]
      exact hthread.row
  have hinBlock := hlaunch.thread
  rw [← hname] at hinBlock
  have htap : ∀ x y : ℤ, (Access.int x).Fits (width * height * channels) →
      (Access.int y).Fits (width * height * channels) →
      ∀ access ∈ code.tapTouches env launch x y, access.Fits (width * height * channels) := by
    intro x y hx hy
    rw [StageCode.tapTouches, hparts.tap, hlaunch.width, hlaunch.height]
    exact tap_within hsize hpos hchannels hcolors hparts.tapFunction hx hy
  have hpixel : ∀ ints, Ints.Agree loadInts (StageCode.start launch args).ints ints →
      WithinItems env (code.tapTouches env launch) (Access.Fits (width * height * channels))
        (emitPixel channels colors (emitStencilBody stencil.op baked colors (decide (tileSize > 0))
          code.kernel.runtimeRadius (paramIndices stage.prologue parameterized)) epilogue)
        ints := by
    intro ints hints
    refine pixel_within hsize hchannels hcolors hgrid
      ((hints .width (by decide)).trans hlaunch.width)
      ((hints .height (by decide)).trans hlaunch.height) (fun ints' hints' hx hy hat => ?_)
      (emitPointwise_silent hparts.pointwise)
    refine stageBody_within hsize htap hkind (fun hruntime => (hparts.of_runtimeRadius hruntime).2)
      hparts.literal hradius (hthread.reach stencil hstencil) (fun htiled => ?_) ?_ hx hy hat
    · rw [hblock, if_pos (of_decide_eq_true htiled)] at hinBlock
      omega
    · rw [hints' .radius (by decide), hints .radius (by decide)]
      rfl
  have hload : ∀ emitted ∈ load, emitted.2.Within env (code.tapTouches env launch)
      (Access.Fits (width * height * channels)) (StageCode.start launch args).ints
      (Ints.Agree loadInts (StageCode.start launch args).ints) := by
    have hbaked : 0 < tileSize → baked = stencilRadius stencil.op ∧ 1 ≤ baked ∧ baked ≤ 12 := by
      intro htiled
      have hruntime : code.kernel.runtimeRadius = false := by
        rw [← Bool.not_eq_true]
        intro hruntime
        exact absurd (hnaive (hparts.of_runtimeRadius hruntime).1) (by omega)
      rw [stageRadius, if_neg (by rw [hruntime]; exact Bool.false_ne_true)] at hradius
      rw [hparts.literal hruntime]
      exact ⟨rfl, hradius⟩
    refine loadPhase_within htile (fun htiled => (hbaked htiled).2) (fun htiled => ?_)
      (fun htiled => ?_) hgrid (fun r hr htiled => ?_) htap hparts.loadPhase
    · rw [hdim, hblock, if_pos htiled]
    · rwa [hblock, if_pos htiled] at hinBlock
    · have hradius : (stencilRadius stencil.op).toNat = r := by
        rw [← (hbaked htiled).1, hr, Int.toNat_natCast]
      rw [hname, env_block, ← hradius]
      exact hthread.cells stencil hstencil htiled
  rw [hparts.phases]
  cases load with
  | none => exact hpixel _ (.refl _ _)
  | some emitted => exact WithinItems.stmt _ (hload emitted rfl) hpixel

/-- **The integers of one thread.**  In a frame whose samples are indexable, each access of a thread
that fits is in range, whether the thread stands for a pixel or beside the frame. -/
theorem stage_within (hsize : Sized width height channels reach)
    (hchannels : 0 < channels ∧ channels ≤ 4) {colors tileSize : ℕ} (hcolors : colors ≤ channels)
    (htile : tileSize ≤ 32) {cmath : CMath} {name : KernelName} {stage : Stage}
    {parameterized : Bool} {code : StageCode} {generated : GeneratedStage}
    (h : emitStage cmath name stage channels colors tileSize parameterized = .ok (code, generated))
    (hnaive : parameterized = true → tileSize = 0) {launch : Launch} {args : BoundArgs}
    {block thread : ℕ × ℕ} (hranges : StageRanges stage code args)
    (hlaunch : LaunchOf launch generated thread width height) (hpos : 0 < width ∧ 0 < height)
    (hthread : ThreadFits stage code generated args tileSize reach block thread) :
    ∀ access ∈ code.touches launch args block thread, access.Fits (width * height * channels) := by
  have hblock := (emitStage_header h).blockDim
  unfold emitStage at h
  split at h
  · refine pointwiseStage_within hsize hchannels hcolors h ⟨?_, ?_⟩ hlaunch.width hlaunch.height
    · simpa only [env_block, env_blockDim, env_thread, hlaunch.blockDim] using hthread.column
    · simpa only [env_block, env_blockDim, env_thread, hlaunch.blockDim] using hthread.row
  · rename_i stencil hstencil
    rw [hstencil] at hblock
    simp only [Option.isSome_some, true_and] at hblock
    rcases emitStencilStage_parts h with ⟨helper, baked, load, epilogue, hparts⟩
    exact stencilStage_within hsize hchannels hcolors htile hparts hblock hstencil hnaive hranges
      hlaunch hpos hthread

end Within

end Cuda

end Imgjit
