import Imgjit.Cuda.StencilBody

/-!
# Kernels, pixel by pixel

Behind its load phase every kernel is the same: a thread stands for one pixel, returns when that
pixel is outside the image, and otherwise computes and stores it.  What differs between the kernels
is how a colour is computed.  So the passage from one thread to a whole picture is made here, once,
for any kernel whose threads compute their pixels.

**One thread.**  `emitPixel_spec` is what one thread stores: nothing beside the image, and within it
the colours that the body computes, with the alpha of the source.

**The whole grid.**  `launchStores_perm`: over the whole grid every pixel is stored once, by one
thread.  The grid reaches around the image, and the threads that stand for a pixel are in bijection
with the pixels.

**What a launch leaves behind.**  `StageCode.run_spec`: a launch whose blocks store their pixels
leaves the picture in `dst`, in whatever order the stores land.  Stores to different cells commute,
and no cell is stored twice, so the schedule plays no part.
-/

namespace Imgjit

namespace Cuda

/-! ## One thread -/

/-- The stores of one pixel: the colours, then the alpha of the source. -/
def pixelStores (image : Image) (pixel : ℕ → UInt8) (p : ℕ × ℕ) : List DstWrite :=
  (List.range image.channels).map fun c =>
    (p.2 * image.stride + p.1 * image.channels + c,
      if c < Cpu.colorChannels image.channels then pixel c else image.sampleAt p.1 p.2 c)

/-- What the body and the epilogue of a kernel may write. -/
def pixelInts : List IntVar := .lx :: .ly :: scratchInts

/-- The float variables that a kernel's pixel part may write to. -/
def pixelFloats : List FloatVar := .g :: .v :: scratchFloats

/-- At the pixel `p`, the statement leaves `pixel` in `v`. -/
def Computes (env : Env) (image : Image) (p : ℕ × ℕ) (body : Stmt) (s : ThreadState)
    (pixel : ℕ → UInt8) : Prop :=
  ∀ s', Frame [.x, .y, .i] [.v] s s' → s'.ints .x = p.1 → s'.ints .y = p.2 →
    s'.ints .i = ((p.2 : ℤ) * image.width + p.1) * image.channels →
    (s'.floats .v).length = Cpu.colorChannels image.channels →
    body.Runs env s' fun s'' => Frame pixelInts pixelFloats s' s''
      ∧ s''.floats .v = registers (Cpu.colorChannels image.channels) pixel

section Thread

variable {env : Env} {image : Image} {s : ThreadState} {pixel pixel' : ℕ → UInt8} {p : ℕ × ℕ}

/-- The byte under `i + c`. -/
lemma pixel_index (image : Image) (x y c : ℕ) :
    ((y : ℤ) * image.width + x) * image.channels + c
      = ((y * image.stride + x * image.channels + c : ℕ) : ℤ) := by
  simp only [Image.stride]
  push_cast
  ring

/-- The colour stores of a pixel. -/
lemma storeColors_runs (hp : p.1 < image.width ∧ p.2 < image.height)
    (hdst : image.byteCount ≤ env.dstSize)
    (hi : s.ints .i = ((p.2 : ℤ) * image.width + p.1) * image.channels)
    (hv : s.floats .v = registers (Cpu.colorChannels image.channels) pixel) :
    (Stmt.forColors (Cpu.colorChannels image.channels) fun c =>
      .setDst (.add (.var .i) (.lit c)) (.storeSample (.cell .v c))).Runs env s fun s' =>
        s' = s.stored ((List.range (Cpu.colorChannels image.channels)).map fun c =>
          (p.2 * image.stride + p.1 * image.channels + c, pixel c)) := by
  refine Stmt.Runs.forColors (fun n s' => s' = s.stored ((List.range n).map fun c =>
    (p.2 * image.stride + p.1 * image.channels + c, pixel c))) (by simp [ThreadState.stored])
    fun c hc s' hs' => ?_
  subst hs'
  have hbound := image.index_lt hp.1 hp.2 (hc.trans_le (Cpu.colorChannels_le image))
  rw [← image.packed] at hbound
  refine Stmt.Runs.setDst (b := pixel c) (n := p.2 * image.stride + p.1 * image.channels + c)
    ?_ ?_ (lt_of_lt_of_le hbound hdst) ?_
  · simp only [IntExpr.eval, ThreadState.stored, hi, pixel_index]
  · have hcell : s.cell .v c = some (Cpu.loadSample (pixel c)) := cell_of_cells hv hc
    simp only [ByteExpr.eval, FloatExpr.eval, stored_cell, hcell, Option.map_some,
      imgjitStoreSample_eq, Cpu.storeSample_loadSample]
  · simp [ThreadState.stored, List.range_succ]

/-- The alpha store of a pixel. -/
lemma storeAlpha_runs (hp : p.1 < image.width ∧ p.2 < image.height)
    (hdst : image.byteCount ≤ env.dstSize) (hsrc : Holds env.src image)
    (hi : s.ints .i = ((p.2 : ℤ) * image.width + p.1) * image.channels) :
    (if image.channels = 4 then
      Stmt.setDst (.add (.var .i) (.lit 3)) (.src (.add (.var .i) (.lit 3))) else .nop).Runs env s
      fun s' => s' = s.stored (if image.channels = 4 then
        [(p.2 * image.stride + p.1 * image.channels + 3, image.sampleAt p.1 p.2 3)] else []) := by
  split_ifs with h4
  · have hbound := image.index_lt hp.1 hp.2 (show 3 < image.channels by omega)
    have hread := hsrc.read hp.1 hp.2 (show 3 < image.channels by omega)
    rw [← image.packed] at hbound
    refine Stmt.Runs.setDst (n := p.2 * image.stride + p.1 * image.channels + 3) ?_ ?_
      (lt_of_lt_of_le hbound hdst) rfl
    · simp only [IntExpr.eval, hi]
      exact pixel_index image p.1 p.2 3
    · simp only [ByteExpr.eval, IntExpr.eval, hi]
      exact hread
  · exact Stmt.Runs.nop (by simp [ThreadState.stored])

/-- The two groups of stores are the stores of the pixel. -/
lemma pixelStores_eq (image : Image) (pixel : ℕ → UInt8) (p : ℕ × ℕ) :
    pixelStores image pixel p
      = ((List.range (Cpu.colorChannels image.channels)).map fun c =>
          (p.2 * image.stride + p.1 * image.channels + c, pixel c))
        ++ if image.channels = 4 then
          [(p.2 * image.stride + p.1 * image.channels + 3, image.sampleAt p.1 p.2 3)] else [] := by
  rcases image.supported with h | h | h <;>
    simp [pixelStores, Cpu.colorChannels, h, List.range_succ]

/-- **What one thread stores**: its pixel, if the image has it. -/
theorem emitPixel_spec {body epilogue : Stmt}
    (hp : (env.block.1 * env.blockDim + env.thread.1, env.block.2 * env.blockDim + env.thread.2) = p)
    (hwidth : s.ints .width = image.width) (hheight : s.ints .height = image.height)
    (hsrc : Holds env.src image) (hdst : image.byteCount ≤ env.dstSize)
    (hbody : p.1 < image.width ∧ p.2 < image.height → Computes env image p body s pixel)
    (hepilogue : ∀ s' : ThreadState, s'.params = s.params →
      s'.floats .v = registers (Cpu.colorChannels image.channels) pixel →
      epilogue.Runs env s' (PixelDone (Cpu.colorChannels image.channels) .v pixel' s')) :
    RunsItems env (emitPixel image.channels (Cpu.colorChannels image.channels) body epilogue) s
      fun s' => s'.dstLog = s.dstLog ++ if p.1 < image.width ∧ p.2 < image.height then
        pixelStores image pixel' p else [] := by
  subst hp
  set x := env.block.1 * env.blockDim + env.thread.1 with hx
  set y := env.block.2 * env.blockDim + env.thread.2 with hy
  let index : ℤ := ((y : ℤ) * image.width + x) * image.channels
  refine RunsItems.via (fun s' => s' = s.setInt .x x) (Stmt.Runs.int ?_) fun s₁ hs₁ => ?_
  · simp only [IntExpr.eval, Axis.of, hx]
    push_cast
    rfl
  subst hs₁
  refine RunsItems.via (fun s' => s' = (s.setInt .x x).setInt .y y) (Stmt.Runs.int ?_)
    fun s₂ hs₂ => ?_
  · simp only [IntExpr.eval, Axis.of, hy]
    push_cast
    rfl
  have hw₂ : s₂.ints .width = image.width := by rw [hs₂]; exact hwidth
  have hh₂ : s₂.ints .height = image.height := by rw [hs₂]; exact hheight
  have hx₂ : s₂.ints .x = x := by rw [hs₂]; rfl
  have hy₂ : s₂.ints .y = y := by rw [hs₂]; rfl
  have hframe₂ : Frame [.x, .y, .i] [.v] s s₂ := by
    rw [hs₂]
    exact (Frame.setInt _ _ (by simp)).trans (Frame.setInt _ _ (by simp))
  by_cases h : x < image.width ∧ y < image.height
  · refine RunsItems.returnIf_false ?_ ?_
    · simp only [IntCond.eval, IntExpr.eval, hx₂, hy₂, hw₂, hh₂, Bool.or_eq_false_iff,
        decide_eq_false_iff_not]
      omega
    refine RunsItems.via (fun s' => s' = s₂.setInt .i index) (Stmt.Runs.int ?_)
      fun s₃ hs₃ => ?_
    · simp only [sampleIndex, IntExpr.eval, hx₂, hy₂, hw₂, index]
    refine RunsItems.via (fun s' =>
        s' = s₃.setArray .v (List.replicate (Cpu.colorChannels image.channels) none))
      (Stmt.Runs.array rfl) fun s₄ hs₄ => ?_
    have hframe₄ : Frame [.x, .y, .i] [.v] s s₄ := by
      rw [hs₄, hs₃]
      exact (hframe₂.trans (Frame.setInt _ _ (by simp))).trans (Frame.setArray _ _ (by simp))
    have hi₄ : s₄.ints .i = index := by rw [hs₄, hs₃]; rfl
    -- The body, the epilogue, and the stores.
    refine RunsItems.stmt (hbody h s₄ hframe₄ (by rw [hs₄, hs₃]; exact hx₂)
      (by rw [hs₄, hs₃]; exact hy₂) hi₄ (by rw [hs₄, setArray_floats_self]; simp))
      fun s₅ hs₅ => ?_
    rcases hs₅ with ⟨hframe₅, hv₅⟩
    refine RunsItems.stmt (hepilogue s₅ (hframe₅.params.trans hframe₄.params) hv₅)
      fun s₆ hs₆ => ?_
    rcases hs₆ with ⟨hframe₆, hv₆⟩
    have hi₆ : s₆.ints .i = index := by
      rw [hframe₆.ints .i (by simp), hframe₅.ints .i (by simp [pixelInts, scratchInts]), hi₄]
    refine RunsItems.stmt (storeColors_runs (p := (x, y)) h hdst hi₆ hv₆) fun s₇ hs₇ => ?_
    refine RunsItems.stmt (storeAlpha_runs (p := (x, y)) h hdst hsrc (by rw [hs₇]; exact hi₆))
      fun s₈ hs₈ => RunsItems.nil ?_
    rw [hs₈, hs₇, if_pos h, pixelStores_eq]
    simp only [ThreadState.stored, hframe₆.dstLog, hframe₅.dstLog, hframe₄.dstLog,
      List.append_assoc]
  · refine RunsItems.returnIf_true ?_ ?_
    · simp only [IntCond.eval, IntExpr.eval, hx₂, hy₂, hw₂, hh₂, Bool.or_eq_true,
        decide_eq_true_eq]
      omega
    · rw [if_neg h, List.append_nil, ← hframe₂.dstLog]

end Thread

/-! ## Lists of runs -/

lemma mapM_exists {α β : Type} {f : α → Option β} {P : α → β → Prop} :
    ∀ {l : List α}, (∀ a ∈ l, ∃ b, f a = some b ∧ P a b) →
      ∃ bs, l.mapM f = some bs ∧ List.Forall₂ P l bs
  | [], _ => ⟨[], rfl, List.Forall₂.nil⟩
  | a :: l, h => by
      obtain ⟨b, hb, hP⟩ := h a List.mem_cons_self
      obtain ⟨bs, hbs, hPs⟩ := mapM_exists (l := l) fun a' hmem => h a' (List.mem_cons_of_mem _ hmem)
      exact ⟨b :: bs, by rw [List.mapM_cons, hb, hbs]; rfl, List.Forall₂.cons hP hPs⟩

lemma forall₂_of_mapM {α β : Type} {f : α → Option β} {l : List α} {bs : List β}
    (h : l.mapM f = some bs) : List.Forall₂ (fun a b => f a = some b) l bs := by
  induction l generalizing bs with
  | nil =>
      cases h
      exact .nil
  | cons a l ih =>
      rw [List.mapM_cons] at h
      rcases Option.bind_eq_some_iff.mp h with ⟨b, hb, h⟩
      rcases Option.bind_eq_some_iff.mp h with ⟨rest, hrest, h⟩
      cases h
      exact .cons hb (ih hrest)

lemma map_of_forall₂ {α β γ : Type} {P : α → β → Prop} {g : β → γ} {h : α → γ}
    (hgh : ∀ a b, P a b → g b = h a) {l : List α} {bs : List β} (hall : List.Forall₂ P l bs) :
    bs.map g = l.map h := by
  induction hall with
  | nil => rfl
  | cons hP _ ih => rw [List.map_cons, List.map_cons, ih, hgh _ _ hP]

lemma flatMap_of_forall₂ {α β γ : Type} {P : α → β → Prop} {g : β → List γ} {h : α → List γ}
    (hgh : ∀ a b, P a b → g b = h a) {l : List α} {bs : List β} (hall : List.Forall₂ P l bs) :
    bs.flatMap g = l.flatMap h := by
  rw [List.flatMap_def, List.flatMap_def, map_of_forall₂ hgh hall]

lemma exists_of_forall₂ {α β : Type} {P : α → β → Prop} {l : List α} {bs : List β}
    (hall : List.Forall₂ P l bs) : ∀ b ∈ bs, ∃ a ∈ l, P a b := by
  induction hall with
  | nil => exact fun b hb => absurd hb List.not_mem_nil
  | cons hP _ ih =>
      intro b hb
      rcases List.mem_cons.mp hb with rfl | hb
      · exact ⟨_, List.mem_cons_self, hP⟩
      · obtain ⟨a, ha, hPa⟩ := ih b hb
        exact ⟨a, List.mem_cons_of_mem _ ha, hPa⟩

/-! ## One block -/

section Block

variable {env : ℕ × ℕ → (TileCell → Option ℚ) → Env} {tile : TileCell → Option ℚ}
  {states : List ((ℕ × ℕ) × ThreadState)}

/-- One phase of a block. -/
lemma mapM_runItems {items : List Item} (P : ℕ × ℕ → ThreadState → Prop)
    (h : ∀ thread ∈ states, RunsItems (env thread.1 tile) items thread.2 (P thread.1)) :
    ∃ done, states.mapM (fun thread => do
        some (thread.1, ← runItems (env thread.1 tile) items thread.2)) = some done
      ∧ List.Forall₂ (fun thread done => done.1 = thread.1 ∧ P thread.1 done.2) states done := by
  refine mapM_exists fun thread hmem => ?_
  obtain ⟨s', hrun, hpost⟩ := h thread hmem
  exact ⟨(thread.1, s'), by simp only [hrun]; rfl, rfl, hpost⟩

/-- A block of a kernel without barriers. -/
lemma runPhases_single (order : List TileWrite → List TileWrite) {items : List Item}
    (stores : ℕ × ℕ → List DstWrite)
    (h : ∀ thread ∈ states, RunsItems (env thread.1 tile) items thread.2 fun s' =>
      s'.dstLog = stores thread.1) :
    ∃ run, runPhases env order [items] tile states = some run
      ∧ run.barriers = [] ∧ run.stores = (states.map Prod.fst).flatMap stores := by
  obtain ⟨done, hdone, hall⟩ := mapM_runItems (fun t s' => s'.dstLog = stores t) h
  refine ⟨_, by rw [runPhases, hdone]; rfl, rfl, ?_⟩
  rw [List.flatMap_map]
  exact flatMap_of_forall₂ (fun _ _ hP => hP.2) hall

end Block

/-! ## The whole grid -/

/-- What a thread stores: its pixel, if the image has it. -/
def threadStores (image : Image) (dim : ℕ) (pixel : ℕ × ℕ → ℕ → UInt8)
    (thread : (ℕ × ℕ) × (ℕ × ℕ)) : List DstWrite :=
  let p := Grid.planePoint dim thread
  if p.1 < image.width ∧ p.2 < image.height then pixelStores image (pixel p) p else []

/-- The stores of a picture, pixel by pixel. -/
def pictureStores (image : Image) (pixel : ℕ × ℕ → ℕ → UInt8) : List DstWrite :=
  (Grid.points image.width image.height).flatMap fun p => pixelStores image (pixel p) p

lemma flatMap_gridThreads {α : Type} (grid : ℕ × ℕ) (dim : ℕ)
    (f : (ℕ × ℕ) × (ℕ × ℕ) → List α) :
    ((Grid.points grid.1 grid.2).flatMap fun b => (Grid.points dim dim).flatMap fun t => f (b, t))
      = (Grid.gridThreads grid dim).flatMap f := by
  simp only [Grid.gridThreads, SProd.sprod, List.product, List.flatMap_assoc, List.flatMap_map]

/-- **Over the whole grid every pixel is stored once.** -/
theorem launchStores_perm {image : Image} {grid : ℕ × ℕ} {dim : ℕ} (hdim : 0 < dim)
    (hwidth : image.width ≤ grid.1 * dim) (hheight : image.height ≤ grid.2 * dim)
    (pixel : ℕ × ℕ → ℕ → UInt8) :
    ((Grid.gridThreads grid dim).flatMap (threadStores image dim pixel)).Perm
      (pictureStores image pixel) := by
  have hfilter : ∀ threads : List ((ℕ × ℕ) × (ℕ × ℕ)),
      threads.flatMap (threadStores image dim pixel)
        = ((threads.map (Grid.planePoint dim)).filter
            fun p => p.1 < image.width ∧ p.2 < image.height).flatMap
          fun p => pixelStores image (pixel p) p := by
    intro threads
    induction threads with
    | nil => rfl
    | cons thread threads ih =>
        rw [List.flatMap_cons, ih, List.map_cons, List.filter_cons, threadStores]
        by_cases h : (Grid.planePoint dim thread).1 < image.width
            ∧ (Grid.planePoint dim thread).2 < image.height
        · simp [h]
        · simp [h]
  rw [hfilter, pictureStores]
  exact (Grid.map_planePoint_perm hdim hwidth hheight).flatMap_right _

/-- The index of a sample tells its coordinates. -/
lemma index_inj {image : Image} {x y c x' y' c' : ℕ} (hx : x < image.width) (hx' : x' < image.width)
    (hc : c < image.channels) (hc' : c' < image.channels)
    (h : y * image.stride + x * image.channels + c = y' * image.stride + x' * image.channels + c') :
    (x, y) = (x', y') ∧ c = c' := by
  have hy : y = y' := by
    rw [← image.index_div_stride (y := y) hx hc, h, image.index_div_stride hx' hc']
  have hcc : c = c' := by
    rw [← image.index_mod_channels (x := x) (y := y) hc, h, image.index_mod_channels hc']
  subst hy hcc
  have hmul : x * image.channels = x' * image.channels := by omega
  rw [Nat.eq_of_mul_eq_mul_right image.channels_pos hmul]
  exact ⟨rfl, rfl⟩

/-- **The stores of a picture name every byte of it once.** -/
theorem pictureStores_keys (image : Image) (pixel : ℕ × ℕ → ℕ → UInt8) :
    ((pictureStores image pixel).map Prod.fst).Perm (List.range image.byteCount) := by
  have hkeys : (pictureStores image pixel).map Prod.fst
      = (Grid.points image.width image.height).flatMap fun p => (List.range image.channels).map
        fun c => p.2 * image.stride + p.1 * image.channels + c := by
    rw [pictureStores, List.map_flatMap]
    simp only [pixelStores, List.map_map]
    rfl
  rw [hkeys]
  refine (List.perm_ext_iff_of_nodup (List.nodup_flatMap.mpr ⟨fun p _ => ?_, ?_⟩)
    List.nodup_range).mpr fun i => ?_
  · exact List.nodup_range.map fun a b hab => by simpa using hab
  · refine (Grid.nodup_points _ _).pairwise_of_forall_ne fun p hp q hq hne i hpi hqi => hne ?_
    obtain ⟨c, hc, rfl⟩ := List.mem_map.mp hpi
    obtain ⟨c', hc', heq⟩ := List.mem_map.mp hqi
    rw [Grid.mem_points] at hp hq
    exact (index_inj hq.1 hp.1 (List.mem_range.mp hc') (List.mem_range.mp hc) heq).1.symm
  · simp only [List.mem_flatMap, Grid.mem_points, List.mem_map, List.mem_range]
    constructor
    · rintro ⟨p, ⟨hx, hy⟩, c, hc, rfl⟩
      have := image.index_lt hx hy hc
      rwa [← image.packed] at this
    · intro hi
      rw [image.byteCount_eq] at hi
      have hrow : i % image.stride < image.width * image.channels := Nat.mod_lt _ image.stride_pos
      refine ⟨(i % image.stride / image.channels, i / image.stride),
        ⟨Nat.div_lt_of_lt_mul (by rwa [Nat.mul_comm] at hrow), Nat.div_lt_of_lt_mul hi⟩,
        i % image.stride % image.channels, Nat.mod_lt _ image.channels_pos, ?_⟩
      simp only
      rw [Nat.add_assoc, Nat.div_add_mod', Nat.div_add_mod']

/-! ## What a launch leaves behind -/

/-- **Stores that name every byte of a picture once** put the picture in front of the buffer, and
leave the rest of it alone. -/
theorem storeAll_eq {dst : List UInt8} {log : List DstWrite} {picture : Image}
    (hlength : picture.byteCount ≤ dst.length)
    (hkeys : (log.map Prod.fst).Perm (List.range picture.byteCount))
    (hvalues : ∀ write ∈ log, picture.pixels[write.1]? = some write.2) :
    storeAll dst log = picture.pixels ++ dst.drop picture.byteCount := by
  have hnodup : (log.map Prod.fst).Nodup := hkeys.nodup_iff.mpr List.nodup_range
  refine List.ext_getElem? fun i => ?_
  by_cases hi : i < picture.byteCount
  · obtain ⟨write, hwrite, rfl⟩ := List.mem_map.mp (hkeys.mem_iff.mpr (List.mem_range.mpr hi))
    rw [storeAll, List.getElem?_map, List.getElem?_range (lt_of_lt_of_le hi hlength),
      Option.map_some, List.getElem?_append_left hi, hvalues write hwrite,
      WriteLog.applyLog_of_mem hnodup (show (write.1, write.2) ∈ log from hwrite)]
  · have hright : picture.pixels.length ≤ i := not_lt.mp hi
    have hkey : i ∉ log.map Prod.fst := fun h => hi (List.mem_range.mp (hkeys.mem_iff.mp h))
    rw [List.getElem?_append_right hright, List.getElem?_drop, Image.byteCount,
      Nat.add_sub_cancel' hright, storeAll, List.getElem?_map]
    by_cases hlt : i < dst.length
    · rw [List.getElem?_range hlt, Option.map_some, WriteLog.applyLog_of_not_mem hkey,
        List.getD_eq_getElem _ _ hlt, List.getElem?_eq_getElem hlt]
    · rw [List.getElem?_eq_none (by simpa using hlt), List.getElem?_eq_none (not_lt.mp hlt)]
      rfl

/-- A buffer a picture has been put in front of. -/
lemma holds_append (picture : Image) (rest : List UInt8) : Holds (picture.pixels ++ rest) picture :=
  List.take_left' rfl

/-- The picture whose pixels are computed one by one. -/
structure PictureOf (image picture : Image) (pixel : ℕ × ℕ → ℕ → UInt8) : Prop where
  width : picture.width = image.width
  height : picture.height = image.height
  channels : picture.channels = image.channels
  colors : ∀ x y c, x < image.width → y < image.height →
    c < Cpu.colorChannels image.channels → picture.sampleAt x y c = pixel (x, y) c
  alpha : ∀ x y c, x < image.width → y < image.height → c < image.channels →
    ¬c < Cpu.colorChannels image.channels → picture.sampleAt x y c = image.sampleAt x y c

lemma PictureOf.byteCount_eq {image picture : Image} {pixel : ℕ × ℕ → ℕ → UInt8}
    (h : PictureOf image picture pixel) : picture.byteCount = image.byteCount := by
  rw [Image.byteCount_eq, Image.byteCount_eq, Image.stride, Image.stride, h.width, h.height,
    h.channels]

/-- Each store of the picture puts a sample where it belongs. -/
lemma PictureOf.stores {image picture : Image} {pixel : ℕ × ℕ → ℕ → UInt8}
    (h : PictureOf image picture pixel) :
    ∀ write ∈ pictureStores image pixel, picture.pixels[write.1]? = some write.2 := by
  intro write hwrite
  simp only [pictureStores, pixelStores, List.mem_flatMap, List.mem_map, List.mem_range,
    Grid.mem_points] at hwrite
  obtain ⟨p, ⟨hx, hy⟩, c, hc, rfl⟩ := hwrite
  have hsample : picture.sampleAt p.1 p.2 c
      = if c < Cpu.colorChannels image.channels then pixel p c else image.sampleAt p.1 p.2 c := by
    split_ifs with hcolor
    · exact h.colors p.1 p.2 c hx hy hcolor
    · exact h.alpha p.1 p.2 c hx hy hc hcolor
  have hlt := image.index_lt hx hy hc
  rw [← image.packed, ← Image.byteCount, ← h.byteCount_eq] at hlt
  have hstride : picture.stride = image.stride := by
    rw [Image.stride, Image.stride, h.width, h.channels]
  simp only
  rw [← hsample, Image.sampleAt, hstride, h.channels, List.getD_eq_getElem _ _ hlt,
    List.getElem?_eq_getElem hlt]

/-- **A launch whose blocks store their pixels leaves the picture in `dst`.** -/
theorem StageCode.run_spec {stage : StageCode} {launch : Launch} {args : BoundArgs}
    {image picture : Image} {pixel : ℕ × ℕ → ℕ → UInt8} (schedule : Schedule)
    (Good : ℕ × ℕ → BlockRun → Prop) (hargs : stage.kernel.bindArgs launch.args = some args)
    (hdim : 0 < launch.blockDim) (hwidth : image.width ≤ launch.grid.1 * launch.blockDim)
    (hheight : image.height ≤ launch.grid.2 * launch.blockDim)
    (hpicture : PictureOf image picture pixel) (hdst : image.byteCount ≤ launch.dst.length)
    (hblocks : ∀ b ∈ Grid.points launch.grid.1 launch.grid.2, ∃ run,
      runPhases (stage.env launch args b) (schedule.tile b) stage.kernel.phases (fun _ => none)
          ((Grid.points launch.blockDim launch.blockDim).map fun t =>
            (t, StageCode.start launch args)) = some run
        ∧ run.stores = (Grid.points launch.blockDim launch.blockDim).flatMap
          (fun t => threadStores image launch.blockDim pixel (b, t)) ∧ Good b run) :
    ∃ run, stage.run launch schedule = some run
      ∧ run.dst = picture.pixels ++ launch.dst.drop image.byteCount
      ∧ (run.stores.map Prod.fst).Perm (List.range image.byteCount)
      ∧ List.Forall₂ Good (Grid.points launch.grid.1 launch.grid.2) run.blocks := by
  obtain ⟨blocks, hmap, hall⟩ := mapM_exists hblocks
  have hstores : (blocks.flatMap BlockRun.stores).Perm (pictureStores image pixel) := by
    rw [flatMap_of_forall₂ (g := BlockRun.stores) (fun _ _ hrun => hrun.1) hall,
      flatMap_gridThreads]
    exact launchStores_perm hdim hwidth hheight pixel
  have hlanded := (schedule.dst_perm (blocks.flatMap BlockRun.stores)).trans hstores
  refine ⟨⟨blocks, storeAll launch.dst (schedule.dst (blocks.flatMap BlockRun.stores))⟩,
    by rw [StageCode.run, hargs]; simp only [Option.bind_eq_bind, Option.bind_some, hmap], ?_,
    (hstores.map Prod.fst).trans (pictureStores_keys image pixel),
    hall.imp fun _ _ hrun => hrun.2⟩
  rw [← hpicture.byteCount_eq]
  refine storeAll_eq (hpicture.byteCount_eq ▸ hdst) ?_ fun write hwrite =>
    hpicture.stores write (hlanded.mem_iff.mp hwrite)
  rw [hpicture.byteCount_eq]
  exact (hlanded.map Prod.fst).trans (pictureStores_keys image pixel)

end Cuda

end Imgjit
