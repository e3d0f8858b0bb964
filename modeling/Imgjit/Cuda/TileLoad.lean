import Imgjit.Cuda.NaiveStage

/-!
# The cooperative tile load

A tiled block first stages the samples under its outputs and under an apron around them.  The tile
has more cells than the block has threads, so each thread strides through the cells from its own
number.  No thread stages what it will read: everything behind the barrier relies on the work of the
others.

**The tile.**  `tileCells` are the cells of a tile, one plane behind the other, and `tileValue` is
what belongs into one of them: the prologue's pixel at the cell's place, clamped into the image.

**One thread.**  `Staged` is a statement that writes the tile and leaves everything else alone.
`emitTileLoad_runs` is what one thread stages: the cells with its number, each once.

**One block.**  `blockLog_perm`: the threads of a block together write every cell once, by the
library's lemma on striding.  `landed_eq`: whatever the order in which the writes land, the tile
holds what belongs there.  `tap_cell` finds the cell of a tap, which is what the loops read behind
the barrier.
-/

namespace Imgjit

namespace Cuda

/-! ## The tile -/

/-- The planes of the cell numbered `k`. -/
def planeCells (colors edge k : ℕ) : List TileCell :=
  (List.range colors).map fun c => (c, ((k / edge : ℕ) : ℤ), ((k % edge : ℕ) : ℤ))

/-- All cells of a tile, in the order of their numbers. -/
def tileCells (colors edge : ℕ) : List TileCell :=
  (List.range (edge * edge)).flatMap (planeCells colors edge)

lemma mem_planeCells {colors edge k : ℕ} {cell : TileCell} :
    cell ∈ planeCells colors edge k ↔ cell.1 < colors ∧ cell.2.1 = ((k / edge : ℕ) : ℤ)
      ∧ cell.2.2 = ((k % edge : ℕ) : ℤ) := by
  obtain ⟨c, row, column⟩ := cell
  simp only [planeCells, List.mem_map, List.mem_range, Prod.mk.injEq]
  constructor
  · rintro ⟨c', hc', rfl, rfl, rfl⟩
    exact ⟨hc', rfl, rfl⟩
  · rintro ⟨hc, rfl, rfl⟩
    exact ⟨c, hc, rfl, rfl, rfl⟩

/-- The cells inside the bounds of the array, and no others. -/
lemma mem_tileCells {colors edge : ℕ} {cell : TileCell} :
    cell ∈ tileCells colors edge ↔ cell.1 < colors ∧ (0 ≤ cell.2.1 ∧ cell.2.1 < edge)
      ∧ (0 ≤ cell.2.2 ∧ cell.2.2 < edge) := by
  obtain ⟨c, row, column⟩ := cell
  simp only [tileCells, List.mem_flatMap, List.mem_range, mem_planeCells]
  constructor
  · rintro ⟨k, hk, hc, rfl, rfl⟩
    have hedge : 0 < edge := Nat.pos_of_ne_zero fun h => by simp [h] at hk
    have hrow := Nat.div_lt_of_lt_mul hk
    have hcolumn := Nat.mod_lt k hedge
    exact ⟨hc, ⟨Int.natCast_nonneg _, by exact_mod_cast hrow⟩, Int.natCast_nonneg _,
      by exact_mod_cast hcolumn⟩
  · rintro ⟨hc, ⟨hrow, hrow'⟩, hcolumn, hcolumn'⟩
    lift row to ℕ using hrow
    lift column to ℕ using hcolumn
    have hlt : column < edge := by omega
    have hedge : 0 < edge := by omega
    refine ⟨row * edge + column, ?_, hc, ?_, ?_⟩
    · calc row * edge + column < row * edge + edge := by omega
        _ = (row + 1) * edge := (Nat.succ_mul _ _).symm
        _ ≤ edge * edge := Nat.mul_le_mul_right _ (by omega)
    · rw [Nat.mul_comm, Nat.mul_add_div hedge, Nat.div_eq_of_lt hlt, Nat.add_zero]
    · rw [Nat.mul_comm, Nat.mul_add_mod, Nat.mod_eq_of_lt hlt]

lemma nodup_tileCells (colors edge : ℕ) : (tileCells colors edge).Nodup := by
  refine List.nodup_flatMap.mpr ⟨fun k _ => ?_, ?_⟩
  · exact List.nodup_range.map fun c c' h => (Prod.mk.inj h).1
  · refine List.nodup_range.pairwise_of_forall_ne fun k _ k' _ hne cell hk hk' => hne ?_
    rw [mem_planeCells] at hk hk'
    have hdiv : k / edge = k' / edge := by exact_mod_cast hk.2.1.symm.trans hk'.2.1
    have hmod : k % edge = k' % edge := by exact_mod_cast hk.2.2.symm.trans hk'.2.2
    rw [← Nat.div_add_mod k edge, ← Nat.div_add_mod k' edge, hdiv, hmod]

/-- The left or upper edge of a block's tile. -/
def tileOrigin (dim : ℕ) (radius : ℤ) (block : ℕ) : ℤ := ((block * dim : ℕ) : ℤ) - radius

/-- The prologue-applied sample at the clamped coordinate under a cell. -/
def tileValue (image : Image) (stage : Stage) (dim : ℕ) (radius : ℤ) (b : ℕ × ℕ)
    (cell : TileCell) : ℚ :=
  Cpu.loadSample (tapPixel image (stage.prologue.map PlannedOp.op)
    (tileOrigin dim radius b.1 + cell.2.2) (tileOrigin dim radius b.2 + cell.2.1) cell.1)

/-- The writes that put the right values into some cells. -/
def tileWrites (image : Image) (stage : Stage) (dim : ℕ) (radius : ℤ) (b : ℕ × ℕ)
    (cells : List TileCell) : List TileWrite :=
  cells.map fun cell => (cell, tileValue image stage dim radius b cell)

/-! ## Statements that write the tile -/

/-- Nothing but the named variables has changed, and the tile log has grown by `log`. -/
structure Staged (ints : List IntVar) (floats : List FloatVar) (log : List TileWrite)
    (s s' : ThreadState) : Prop where
  ints : ∀ name ∉ ints, s'.ints name = s.ints name
  floats : ∀ name ∉ floats, s'.floats name = s.floats name
  params : s'.params = s.params
  tileLog : s'.tileLog = s.tileLog ++ log
  dstLog : s'.dstLog = s.dstLog
  returned : s'.returned = s.returned

namespace Staged

variable {ints ints' : List IntVar} {floats floats' : List FloatVar} {log log' : List TileWrite}
  {s s' s'' : ThreadState}

lemma of_frame (h : Frame ints floats s s') : Staged ints floats [] s s' :=
  ⟨h.ints, h.floats, h.params, by rw [h.tileLog, List.append_nil], h.dstLog, h.returned⟩

lemma trans (h : Staged ints floats log s s') (h' : Staged ints floats log' s' s'') :
    Staged ints floats (log ++ log') s s'' :=
  ⟨fun name hname => (h'.ints name hname).trans (h.ints name hname),
    fun name hname => (h'.floats name hname).trans (h.floats name hname),
    h'.params.trans h.params, by rw [h'.tileLog, h.tileLog, List.append_assoc],
    h'.dstLog.trans h.dstLog, h'.returned.trans h.returned⟩

lemma mono (h : Staged ints floats log s s') (hints : ints ⊆ ints') (hfloats : floats ⊆ floats') :
    Staged ints' floats' log s s' :=
  ⟨fun name hname => h.ints name fun hmem => hname (hints hmem),
    fun name hname => h.floats name fun hmem => hname (hfloats hmem),
    h.params, h.tileLog, h.dstLog, h.returned⟩

end Staged

/-! ## One thread -/

/-- What one turn of the load loop writes besides the tile. -/
def turnInts : List IntVar := [.k, .ty, .tx]

/-- The `int` variables that the load phase may write to. -/
def loadInts : List IntVar := .tileX0 :: .tileY0 :: turnInts

section Thread

variable {env : Env} {image : Image} {stage : Stage} {dim edge : ℕ} {radius : ℤ} {b : ℕ × ℕ}
  {s : ThreadState}

/-- The tap helper is there, and so is the tile. -/
structure LoadsTile (env : Env) (image : Image) (stage : Stage) (edge : ℕ) : Prop where
  shape : env.tileShape = some ⟨Cpu.colorChannels image.channels, edge⟩
  tap : ∀ (x y : ℤ) (target : List (Option ℚ)),
    target.length = Cpu.colorChannels image.channels →
    env.tap x y target [] = some (registers (Cpu.colorChannels image.channels)
      (tapPixel image (stage.prologue.map PlannedOp.op) x y))

/-- The stores of one cell, plane by plane. -/
lemma setTile_runs {k : ℕ} (pixel : ℕ → UInt8) (hk : k < edge * edge)
    (hshape : env.tileShape = some ⟨Cpu.colorChannels image.channels, edge⟩)
    (hrow : s.ints .ty = ((k / edge : ℕ) : ℤ)) (hcolumn : s.ints .tx = ((k % edge : ℕ) : ℤ))
    (ht : s.floats .t = registers (Cpu.colorChannels image.channels) pixel) :
    (Stmt.forColors (Cpu.colorChannels image.channels) fun c =>
      .setTile c (.var .ty) (.var .tx) (.cell .t c)).Runs env s fun s' =>
        Staged [] [] ((planeCells (Cpu.colorChannels image.channels) edge k).map fun cell =>
          (cell, Cpu.loadSample (pixel cell.1))) s s' := by
  have hedge : 0 < edge := Nat.pos_of_ne_zero fun h => by simp [h] at hk
  refine Stmt.Runs.forColors (fun n s' => Staged [] [] ((planeCells n edge k).map fun cell =>
    (cell, Cpu.loadSample (pixel cell.1))) s s') (Staged.of_frame (Frame.refl s))
    fun c hc s' hs' => ?_
  have hcell : s'.cell .t c = some (Cpu.loadSample (pixel c)) :=
    cell_of_cells ((hs'.floats .t (by simp)).trans ht) hc
  have hwrites : (planeCells (c + 1) edge k).map (fun cell => (cell, Cpu.loadSample (pixel cell.1)))
      = (planeCells c edge k).map (fun cell => (cell, Cpu.loadSample (pixel cell.1)))
        ++ [((c, ((k / edge : ℕ) : ℤ), ((k % edge : ℕ) : ℤ)), Cpu.loadSample (pixel c))] := by
    simp [planeCells, List.range_succ]
  rw [hwrites]
  refine Stmt.Runs.setTile hshape ((hs'.ints .ty (by simp)).trans hrow)
    ((hs'.ints .tx (by simp)).trans hcolumn) hcell hc (Nat.div_lt_of_lt_mul hk)
    (Nat.mod_lt _ hedge) (hs'.trans ⟨fun _ _ => rfl, fun _ _ => rfl, rfl, rfl, rfl, rfl⟩)

/-- **One turn of the load loop** stages the planes of one cell. -/
lemma loadCell_runs {k : ℕ} (hk : k < edge * edge) (hload : LoadsTile env image stage edge)
    (hx : s.ints .tileX0 = tileOrigin dim radius b.1)
    (hy : s.ints .tileY0 = tileOrigin dim radius b.2) :
    (Stmt.all
      [.int .ty (.div (.var .k) (.lit edge)),
       .int .tx (.sub (.var .k) (.mul (.var .ty) (.lit edge))),
       .array .t (Cpu.colorChannels image.channels) none,
       .callTap (.add (.var .tileX0) (.var .tx)) (.add (.var .tileY0) (.var .ty)) .t [],
       .forColors (Cpu.colorChannels image.channels) fun c =>
        .setTile c (.var .ty) (.var .tx) (.cell .t c)]).Runs env (s.setInt .k k) fun s' =>
          Staged turnInts [.t] (tileWrites image stage dim radius b
            (planeCells (Cpu.colorChannels image.channels) edge k)) s s' := by
  have hk₀ : (s.setInt .k k).ints .k = k := setInt_ints_self _ _ _
  set s₀ := s.setInt .k k with hs₀
  have hdiv : (k : ℤ).tdiv edge = ((k / edge : ℕ) : ℤ) := Int.ofNat_tdiv k edge
  refine Stmt.Runs.via (fun s₁ => s₁ = s₀.setInt .ty ((k / edge : ℕ) : ℤ))
    (Stmt.Runs.int (by simp only [IntExpr.eval, hk₀, hdiv])) fun s₁ hs₁ => ?_
  refine Stmt.Runs.via (fun s₂ => s₂ = s₁.setInt .tx ((k % edge : ℕ) : ℤ))
    (Stmt.Runs.int ?_) fun s₂ hs₂ => ?_
  · have hmod := Nat.div_add_mod k edge
    have hty : s₁.ints .ty = ((k / edge : ℕ) : ℤ) := by rw [hs₁, setInt_ints_self]
    have hk₁ : s₁.ints .k = k := by rw [hs₁, setInt_ints_of_ne _ _ (by decide), hk₀]
    simp only [IntExpr.eval, hty, hk₁]
    congr 1
    rw [Nat.mul_comm] at hmod
    omega
  refine Stmt.Runs.via (fun s₃ =>
      s₃ = s₂.setArray .t (List.replicate (Cpu.colorChannels image.channels) none))
    (Stmt.Runs.array rfl) fun s₃ hs₃ => ?_
  have hframe₃ : Frame turnInts [.t] s s₃ := by
    rw [hs₃, hs₂, hs₁, hs₀]
    exact (((Frame.setInt _ _ (by simp [turnInts])).trans
      (Frame.setInt _ _ (by simp [turnInts]))).trans (Frame.setInt _ _ (by simp [turnInts]))).trans
      (Frame.setArray _ _ (by simp))
  have hty₃ : s₃.ints .ty = ((k / edge : ℕ) : ℤ) := by
    rw [hs₃, setArray_ints, hs₂, setInt_ints_of_ne _ _ (by decide), hs₁, setInt_ints_self]
  have htx₃ : s₃.ints .tx = ((k % edge : ℕ) : ℤ) := by
    rw [hs₃, setArray_ints, hs₂, setInt_ints_self]
  -- The tap helper fills `t`.
  let pixel := tapPixel image (stage.prologue.map PlannedOp.op)
    (tileOrigin dim radius b.1 + ((k % edge : ℕ) : ℤ))
    (tileOrigin dim radius b.2 + ((k / edge : ℕ) : ℤ))
  have htap := hload.tap (tileOrigin dim radius b.1 + ((k % edge : ℕ) : ℤ))
    (tileOrigin dim radius b.2 + ((k / edge : ℕ) : ℤ)) (s₃.floats .t) (by rw [hs₃]; simp)
  refine Stmt.Runs.via (fun s₄ =>
      s₄ = s₃.setArray .t (registers (Cpu.colorChannels image.channels) pixel))
    (Stmt.Runs.callTap rfl ?_ rfl) fun s₄ hs₄ => ?_
  · simp only [IntExpr.eval, hframe₃.ints .tileX0 (by simp [turnInts]),
      hframe₃.ints .tileY0 (by simp [turnInts]), hx, hy, hty₃, htx₃]
    exact htap
  refine Stmt.Runs.seq (setTile_runs pixel hk hload.shape ?_ ?_ ?_)
    fun s₅ hs₅ => Stmt.Runs.nop ?_
  · rw [hs₄, setArray_ints, hty₃]
  · rw [hs₄, setArray_ints, htx₃]
  · rw [hs₄, setArray_floats_self]
  · have hframe₄ : Frame turnInts [.t] s s₄ := by
      rw [hs₄]
      exact hframe₃.trans (Frame.setArray _ _ (by simp))
    have hwrites : (planeCells (Cpu.colorChannels image.channels) edge k).map
          (fun cell => (cell, Cpu.loadSample (pixel cell.1)))
        = tileWrites image stage dim radius b
          (planeCells (Cpu.colorChannels image.channels) edge k) := by
      refine List.map_congr_left fun cell hcell => ?_
      obtain ⟨-, hrow, hcolumn⟩ := mem_planeCells.mp hcell
      rw [tileValue, hrow, hcolumn]
    rw [← hwrites, ← List.nil_append (List.map _ _)]
    exact (Staged.of_frame hframe₄).trans (hs₅.mono (List.nil_subset _) (List.nil_subset _))

/-- The number a thread starts striding from. -/
lemma threadNumber_eval (dim : ℕ) {t : ℕ × ℕ} (hthread : env.thread = t) (ints : IntVar → ℤ) :
    (IntExpr.ofUnsigned (.add (.mul (.threadIdx .y) (.lit dim)) (.threadIdx .x))).eval env ints
      = (Grid.threadNumber dim t : ℕ) := by
  simp only [IntExpr.eval, hthread, Axis.of, Grid.threadNumber]
  push_cast
  rfl

/-- The cells a thread stages. -/
def threadCells (colors dim edge : ℕ) (t : ℕ × ℕ) : List TileCell :=
  (Grid.strideValues (Grid.threadNumber dim t) (edge * edge) (dim * dim)).flatMap
    (planeCells colors edge)

/-- **What one thread stages**: the cells that fall to it, each with the value that belongs there.
-/
theorem emitTileLoad_runs {t : ℕ × ℕ} {shape : TileShape} {load : Stmt}
    (hemit : emitTileLoad radius dim (Cpu.colorChannels image.channels) = .ok (shape, load))
    (hedge : edge = (dim + 2 * radius).toNat) (hdim : 0 < dim) (hblock : env.block = b)
    (hthread : env.thread = t) (hload : LoadsTile env image stage edge) :
    load.Runs env s fun s' => Staged loadInts [.t] (tileWrites image stage dim radius b
      (threadCells (Cpu.colorChannels image.channels) dim edge t)) s s' := by
  rw [emitTileLoad] at hemit
  split_ifs at hemit
  cases hemit
  rw [← hedge]
  have hsub : turnInts ⊆ loadInts := by simp [loadInts, turnInts]
  refine Stmt.Runs.via (fun s₁ => s₁ = s.setInt .tileX0 (tileOrigin dim radius b.1))
    (Stmt.Runs.int ?_) fun s₁ hs₁ => ?_
  · simp only [IntExpr.eval, hblock, Axis.of, tileOrigin]
    push_cast
    rfl
  refine Stmt.Runs.via (fun s₂ => s₂ = s₁.setInt .tileY0 (tileOrigin dim radius b.2))
    (Stmt.Runs.int ?_) fun s₂ hs₂ => ?_
  · simp only [IntExpr.eval, hblock, Axis.of, tileOrigin]
    push_cast
    rfl
  have hframe₂ : Frame loadInts [.t] s s₂ := by
    rw [hs₂, hs₁]
    exact (Frame.setInt _ _ (by simp [loadInts])).trans (Frame.setInt _ _ (by simp [loadInts]))
  have hx₂ : s₂.ints .tileX0 = tileOrigin dim radius b.1 := by
    rw [hs₂, setInt_ints_of_ne _ _ (by decide), hs₁, setInt_ints_self]
  have hy₂ : s₂.ints .tileY0 = tileOrigin dim radius b.2 := by rw [hs₂, setInt_ints_self]
  -- The loop, with the cells done so far as its invariant.
  refine Stmt.Runs.seq (Stmt.Runs.forBelow (fun done s' =>
    Staged turnInts [.t] (tileWrites image stage dim radius b
      (done.flatMap (planeCells (Cpu.colorChannels image.channels) edge))) s₂ s')
    (Staged.of_frame (Frame.refl s₂)) fun done k rest s' hsplit hs' => ?_) fun s' hs' => ?_
  · have hmem : k ∈ done ++ k :: rest := by simp
    rw [← hsplit] at hmem
    have hk := ((Grid.mem_strideValues (Nat.mul_pos hdim hdim)).mp hmem).1
    have hx' : s'.ints .tileX0 = tileOrigin dim radius b.1 := by
      rw [hs'.ints .tileX0 (by simp [turnInts]), hx₂]
    have hy' : s'.ints .tileY0 = tileOrigin dim radius b.2 := by
      rw [hs'.ints .tileY0 (by simp [turnInts]), hy₂]
    refine (loadCell_runs hk hload hx' hy').mono fun s'' hs'' => ?_
    rw [List.flatMap_append, List.flatMap_singleton, tileWrites, List.map_append]
    exact hs'.trans hs''
  · rw [threadNumber_eval dim hthread, Int.toNat_natCast] at hs'
    refine Stmt.Runs.nop ?_
    rw [← List.nil_append (tileWrites _ _ _ _ _ _)]
    exact (Staged.of_frame hframe₂).trans (hs'.mono hsub (List.Subset.refl _))

end Thread

/-! ## One block -/

section Block

variable {image : Image} {stage : Stage} {dim edge : ℕ} {radius : ℤ} {b : ℕ × ℕ}

/-- The tile log of a block: the writes of its threads, one thread after the other. -/
def blockLog (image : Image) (stage : Stage) (dim edge : ℕ) (radius : ℤ) (b : ℕ × ℕ) :
    List TileWrite :=
  (Grid.points dim dim).flatMap fun t => tileWrites image stage dim radius b
    (threadCells (Cpu.colorChannels image.channels) dim edge t)

/-- **The threads of a block write every cell of the tile once**, each with the value that belongs
there. -/
theorem blockLog_perm (hdim : 0 < dim) :
    (blockLog image stage dim edge radius b).Perm (tileWrites image stage dim radius b
      (tileCells (Cpu.colorChannels image.channels) edge)) := by
  have hshare := Grid.flatMap_threadStrides_perm (edge * edge) hdim
  have hcells := (hshare.flatMap_right (planeCells (Cpu.colorChannels image.channels) edge)).map
    fun cell => (cell, tileValue image stage dim radius b cell)
  rw [List.flatMap_assoc, List.map_flatMap] at hcells
  exact hcells

lemma map_fst_tileWrites (cells : List TileCell) :
    (tileWrites image stage dim radius b cells).map Prod.fst = cells := by
  simp [tileWrites, List.map_map, Function.comp_def]

/-- The tile behind the barrier, whatever the order in which the writes have landed. -/
def landed (order : List TileWrite → List TileWrite) (log : List TileWrite) :
    TileCell → Option ℚ :=
  WriteLog.applyLog (fun _ => none) ((order log).map fun write => (write.1, some write.2))

/-- **Behind the barrier the tile holds what belongs there.** -/
theorem landed_eq {order : List TileWrite → List TileWrite} (horder : ∀ log, (order log).Perm log)
    (hdim : 0 < dim) {cell : TileCell}
    (hcell : cell ∈ tileCells (Cpu.colorChannels image.channels) edge) :
    landed order (blockLog image stage dim edge radius b) cell
      = some (tileValue image stage dim radius b cell) := by
  have hperm := (horder (blockLog image stage dim edge radius b)).trans (blockLog_perm hdim)
  have hlog := hperm.map fun write : TileWrite => (write.1, some write.2)
  refine WriteLog.applyLog_of_mem ?_ (hlog.mem_iff.mpr ?_)
  · have hkeys := hlog.map Prod.fst
    rw [hkeys.nodup_iff, List.map_map]
    have hcomp : (Prod.fst ∘ fun write : TileWrite => (write.1, some write.2)) = Prod.fst := rfl
    rw [hcomp, map_fst_tileWrites]
    exact nodup_tileCells _ _
  · exact List.mem_map.mpr ⟨(cell, tileValue image stage dim radius b cell),
      List.mem_map_of_mem hcell, rfl⟩

/-- The cell a thread reads for a tap is inside the tile, and holds the naive tap at that offset. -/
theorem tap_cell (hedge : (edge : ℤ) = dim + 2 * radius) {t : ℕ × ℕ}
    (ht : t ∈ Grid.points dim dim) {dx dy : ℤ} (hdx : -radius ≤ dx ∧ dx ≤ radius)
    (hdy : -radius ≤ dy ∧ dy ≤ radius) {c : ℕ} (hc : c < Cpu.colorChannels image.channels) :
    (c, (t.2 : ℤ) + radius + dy, (t.1 : ℤ) + radius + dx)
        ∈ tileCells (Cpu.colorChannels image.channels) edge
      ∧ tileValue image stage dim radius b (c, (t.2 : ℤ) + radius + dy, (t.1 : ℤ) + radius + dx)
        = stageTap image stage (Grid.planePoint dim (b, t)) dx dy c := by
  rw [Grid.mem_points] at ht
  refine ⟨mem_tileCells.mpr ⟨hc, ⟨?_, ?_⟩, ?_, ?_⟩, ?_⟩
  · simp only
    omega
  · simp only
    omega
  · simp only
    omega
  · simp only
    omega
  · have hx : tileOrigin dim radius b.1 + ((t.1 : ℤ) + radius + dx)
        = ((Grid.planePoint dim (b, t)).1 : ℤ) + dx := by
      simp only [tileOrigin, Grid.planePoint]
      push_cast
      ring
    have hy : tileOrigin dim radius b.2 + ((t.2 : ℤ) + radius + dy)
        = ((Grid.planePoint dim (b, t)).2 : ℤ) + dy := by
      simp only [tileOrigin, Grid.planePoint]
      push_cast
      ring
    simp only [tileValue, stageTap, hx, hy]

end Block

end Cuda

end Imgjit
