import Imgjit.Cuda.IntArithmetic
import Imgjit.Cuda.TiledStage

/-!
# The integers of the generated kernels

The host checks the size of a frame in 64 bits; the kernels index its samples in 32-bit `int`.  Here
the parts of a kernel are followed through their integers, for every thread of the grid, those that
stand beside the frame included: they compute their coordinates and compare them as well.

The parts are those of the emitters, and each has one result, in the judgement `Stmt.Within`.  Whole
kernels are in `StageRanges.lean`.

**Statements without integers.**  `Stmt.Silent` holds of the pointwise ops (`emitPointwise_silent`),
so all that matters is in the loads, the stencil and the stores.

**Samples.**  `sampleIndex_within` and `offset_within` bound the index of a sample, `tap_within` the
tap helper, which clamps before it indexes and is in range at any pair of `int`s.

**The window.**  `stencilBody_within` bounds the loops of a stencil around a fetch that is in range;
`naiveFetch_within` and `tiledFetch_within` are the two fetches.

**The pixel.**  `pixel_within` puts them together, behind the load phase if there is one: a thread
beside the frame returns at the bounds check, and the others find the pixel among the samples.
-/

namespace Imgjit

open Exceptions

namespace Cuda

/-- The sizes for which the index of a sample is a 32-bit `int`, and the coordinates of a pixel at
most `reach` to the right of the frame or below it are.  The number of samples may be one more than
an `int` holds, since the last index is one less. -/
structure Sized (width height channels reach : ℕ) : Prop where
  pos : 0 < reach
  samples : width * height * channels ≤ 2 ^ 31
  columns : width + reach ≤ 2 ^ 31
  rows : height + reach ≤ 2 ^ 31

/-! ## Statements without integers -/

section Silent

namespace Stmt

lemma Silent.seq {first second : Stmt} (hfirst : first.Silent) (hsecond : second.Silent) :
    (Stmt.seq first second).Silent := by
  intro env tap ints
  rcases hfirst env tap ints with ⟨htouches, hafter⟩
  rcases hsecond env tap ints with ⟨htouches', hafter'⟩
  refine ⟨?_, ?_⟩
  · rw [touches, htouches, hafter, htouches', List.nil_append]
  · rw [intsAfter, hafter, hafter']

lemma silent_all {stmts : List Stmt} (h : ∀ body ∈ stmts, body.Silent) :
    (Stmt.all stmts).Silent := by
  induction stmts with
  | nil => exact fun _ _ _ => ⟨rfl, rfl⟩
  | cons body stmts ih =>
      rcases List.forall_mem_cons.mp h with ⟨hbody, hrest⟩
      exact hbody.seq (ih hrest)

lemma silent_forColors (colors : ℕ) {emit : ℕ → Stmt} (h : ∀ c, (emit c).Silent) :
    (Stmt.forColors colors emit).Silent := by
  refine silent_all fun body hbody => ?_
  rcases List.mem_map.mp hbody with ⟨c, -, rfl⟩
  exact h c

end Stmt

variable {colors : ℕ} {var : FloatVar} {parameterized : Bool}

lemma emitPointwiseOp_silent {planned : PlannedOp} {body : Stmt}
    (h : emitPointwiseOp colors var parameterized planned = .ok body) : body.Silent := by
  have hparam : ∀ env ints, FloatExpr.touches env ints
      (if parameterized then .param planned.index else .lit planned.op.param) = [] := by
    intro env ints
    cases parameterized <;> rfl
  unfold emitPointwiseOp at h
  cases hkind : planned.op.kind <;> rw [hkind] at h <;> simp only [reduceCtorEq] at h
  case kGrayscale =>
    split_ifs at h
    · cases h
      exact fun _ _ _ => ⟨rfl, rfl⟩
    · cases h
      refine Stmt.silent_all (List.forall_mem_cons.mpr ⟨fun _ _ _ => ⟨rfl, rfl⟩, ?_⟩)
      exact List.forall_mem_singleton.mpr (Stmt.silent_forColors _ fun c _ _ _ => ⟨rfl, rfl⟩)
  all_goals
    cases h
    refine Stmt.silent_forColors _ fun c env tap ints => ⟨?_, rfl⟩
    simp only [Stmt.touches, FloatExpr.touches, hparam, List.append_nil]

/-- **A pointwise run has no integers.** -/
theorem emitPointwise_silent {ops : List PlannedOp} {body : Stmt}
    (h : emitPointwise colors var parameterized ops = .ok body) : body.Silent := by
  induction ops generalizing body with
  | nil =>
      cases h
      exact fun _ _ _ => ⟨rfl, rfl⟩
  | cons planned ops ih =>
      rcases bind_eq_ok h with ⟨first, hfirst, h⟩
      rcases bind_eq_ok h with ⟨second, hsecond, h⟩
      cases h
      exact (emitPointwiseOp_silent hfirst).seq (ih hsecond)

end Silent

/-! ## Samples -/

section Within

variable {width height channels reach : ℕ} {env : Env} {tap : ℤ → ℤ → List Access} {ints : Ints}

/-- The pixels before this one and its own samples are among the frame's. -/
lemma samples_le (channels : ℕ) {x y : ℤ} (hx : 0 ≤ x ∧ x < width) (hy : 0 ≤ y ∧ y < height) :
    0 ≤ y * width ∧ 0 ≤ (y * width + x) * channels
      ∧ (y * width + x) * channels + channels ≤ ((width * height * channels : ℕ) : ℤ) := by
  have hrows : 0 ≤ y * width := mul_nonneg hy.1 (Int.natCast_nonneg width)
  have hpixels : y * width + x + 1 ≤ (height : ℤ) * width := by
    calc y * width + x + 1 ≤ y * width + width := by omega
      _ = (y + 1) * width := by ring
      _ ≤ height * width := mul_le_mul_of_nonneg_right (by omega) (Int.natCast_nonneg width)
  refine ⟨hrows, mul_nonneg (by omega) (Int.natCast_nonneg channels), ?_⟩
  calc (y * width + x) * channels + channels = (y * width + x + 1) * channels := by ring
    _ ≤ height * width * channels :=
      mul_le_mul_of_nonneg_right hpixels (Int.natCast_nonneg channels)
    _ = ((width * height * channels : ℕ) : ℤ) := by push_cast; ring

/-- **The index of a pixel's first sample.** -/
theorem sampleIndex_within (env : Env) (hsize : Sized width height channels reach)
    (hchannels : 0 < channels ∧ channels ≤ 4)
    {column row : IntVar} (hwidth : ints .width = width)
    (hx : 0 ≤ ints column ∧ ints column < width) (hy : 0 ≤ ints row ∧ ints row < height) :
    (∀ access ∈ (sampleIndex column row channels).evaluated env ints,
        access.Fits (width * height * channels))
      ∧ 0 ≤ (sampleIndex column row channels).eval env ints
      ∧ (sampleIndex column row channels).eval env ints + channels
        ≤ ((width * height * channels : ℕ) : ℤ) := by
  rcases samples_le channels hx hy with ⟨hrows, hfirst, hlast⟩
  have hsamples := hsize.samples
  have hreach := hsize.pos
  have hcolumns := hsize.columns
  have hheight := hsize.rows
  have hpixel : ints row * width + ints column ≤ (ints row * width + ints column) * channels :=
    le_mul_of_one_le_right (by omega) (by omega)
  simp only [sampleIndex, IntExpr.evaluated, IntExpr.eval, hwidth, List.cons_append,
    List.nil_append, List.forall_mem_cons, Access.Fits]
  refine ⟨⟨by omega, by omega, by omega, by omega, by omega, by omega, by omega, ?_⟩, hfirst, hlast⟩
  exact List.forall_mem_nil _

/-- What `i` holds behind the index of a pixel: room for the samples of the pixel. -/
def AtPixel (width height channels : ℕ) (ints : Ints) : Prop :=
  0 ≤ ints .i ∧ ints .i + channels ≤ ((width * height * channels : ℕ) : ℤ)

/-- `i + c`, for a sample of the pixel. -/
lemma offset_within (env : Env) (hsize : Sized width height channels reach)
    (hchannels : 0 < channels ∧ channels ≤ 4) (h : AtPixel width height channels ints) {c : ℕ}
    (hc : c < channels) :
    (∀ access ∈ (IntExpr.add (.var .i) (.lit c)).evaluated env ints,
        access.Fits (width * height * channels))
      ∧ 0 ≤ (IntExpr.add (.var .i) (.lit c)).eval env ints
      ∧ (IntExpr.add (.var .i) (.lit c)).eval env ints < ((width * height * channels : ℕ) : ℤ) := by
  rcases h with ⟨hfirst, hlast⟩
  have hsamples := hsize.samples
  simp only [IntExpr.evaluated, IntExpr.eval, List.cons_append, List.nil_append,
    List.forall_mem_cons, Access.Fits]
  refine ⟨⟨by omega, by omega, by omega, ?_⟩, by omega, by omega⟩
  exact List.forall_mem_nil _

/-- The samples of a pixel, loaded one by one. -/
lemma loadSamples_within {colors : ℕ} (hsize : Sized width height channels reach)
    (hchannels : 0 < channels ∧ channels ≤ 4) (hcolors : colors ≤ channels)
    {post : Ints → Prop} (hpost : ∀ ints, post ints → AtPixel width height channels ints)
    (h : post ints) :
    (Stmt.forColors colors fun c => .set .v c (.loadSample (.add (.var .i) (.lit c)))).Within env
      tap (Access.Fits (width * height * channels)) ints post := by
  refine Stmt.Within.forColors h fun c hc ints' hints' => .float rfl rfl ?_ hints'
  rcases offset_within env hsize hchannels (hpost ints' hints') (hc.trans_le hcolors) with
    ⟨hevaluated, hindex⟩
  exact List.forall_mem_append.mpr ⟨hevaluated, List.forall_mem_singleton.mpr hindex⟩

lemma imgjitClampCoord_mem (v : ℤ) {limit : ℕ} (h : 0 < limit) :
    0 ≤ imgjitClampCoord v limit ∧ imgjitClampCoord v limit < limit := by
  rw [imgjitClampCoord]
  split_ifs <;> omega

/-- `const int name = imgjit_clamp_coord(v, limit);` -/
lemma clampCoord_within {name v limit : IntVar} {extent size : ℕ} {post : Ints → Prop}
    (hextent : 0 < extent ∧ extent < 2 ^ 31) (hlimit : ints limit = extent)
    (hv : (Access.int (ints v)).Fits size)
    (hpost : ∀ value : ℤ, 0 ≤ value ∧ value < extent → post (Function.update ints name value)) :
    (Stmt.int name (.clampCoord (.var v) (.var limit))).Within env tap (Access.Fits size) ints
      post := by
  have hvalue := imgjitClampCoord_mem (ints v) hextent.1
  refine .int ?_ (hpost _ ?_)
  · simp only [IntExpr.evaluated, IntExpr.eval, hlimit, List.cons_append, List.nil_append,
      List.forall_mem_cons]
    simp only [Access.Fits] at hv ⊢
    refine ⟨hv, by omega, by omega, by omega, List.forall_mem_nil _⟩
  · simpa only [IntExpr.eval, hlimit] using hvalue

/-- **The tap helper**, at any pair of `int`s: it clamps before it indexes. -/
theorem tap_within {stage : Stage} {colors : ℕ} {parameterized : Bool} {params : List ℕ}
    {helper : TapFunction} (hsize : Sized width height channels reach)
    (hpos : 0 < width ∧ 0 < height) (hchannels : 0 < channels ∧ channels ≤ 4)
    (hcolors : colors ≤ channels)
    (h : emitTapFunction stage channels colors parameterized params = .ok helper) {x y : ℤ}
    (hx : (Access.int x).Fits (width * height * channels))
    (hy : (Access.int y).Fits (width * height * channels)) :
    ∀ access ∈ helper.touches env width height x y, access.Fits (width * height * channels) := by
  rcases bind_eq_ok h with ⟨prologue, hprologue, h⟩
  cases h
  have hreach := hsize.pos
  have hcolumns := hsize.columns
  have hrows := hsize.rows
  refine Stmt.Within.accesses (fun _ => True) ?_
  refine .seq (fun ints => ints .width = width ∧ ints .height = height ∧ ints .y = y
    ∧ 0 ≤ ints .sx ∧ ints .sx < width) ?_ ?_
  · refine clampCoord_within ⟨hpos.1, by omega⟩ rfl hx fun value hvalue => ?_
    exact ⟨rfl, rfl, rfl, hvalue⟩
  rintro ints ⟨hwidth, hheight, rfl, hsx⟩
  refine .seq (fun ints => ints .width = width ∧ (0 ≤ ints .sx ∧ ints .sx < width)
    ∧ 0 ≤ ints .sy ∧ ints .sy < height) ?_ ?_
  · exact clampCoord_within ⟨hpos.2, by omega⟩ hheight hy fun value hvalue =>
      ⟨hwidth, hsx, hvalue⟩
  rintro ints ⟨hwidth, hsx, hsy⟩
  rcases sampleIndex_within env hsize hchannels hwidth hsx hsy with ⟨hindex, hat⟩
  refine .seq (AtPixel width height channels) (.int hindex hat) fun ints hat => ?_
  refine .seq _ (loadSamples_within hsize hchannels hcolors (fun _ hat => hat) hat) fun ints _ => ?_
  have hnop : Stmt.nop.Silent := fun _ _ _ => ⟨rfl, rfl⟩
  exact .silent ((emitPointwise_silent hprologue).seq hnop) trivial

/-! ## The window -/

/-- The loops of a stencil.  Their bounds read nothing that the loops assign. -/
lemma windowLoops_within {first last : IntExpr} {inner : Stmt} {radius : ℤ} {size : ℕ}
    (hradius : 0 ≤ radius ∧ radius ≤ 12)
    (hbounds : ∀ ints', Ints.Agree scratchInts ints ints' →
      first.eval env ints' = -radius ∧ last.eval env ints' = radius
        ∧ (∀ access ∈ first.evaluated env ints', access.Fits size)
        ∧ ∀ access ∈ last.evaluated env ints', access.Fits size)
    (hinner : ∀ ints', Ints.Agree scratchInts ints ints' →
      (-radius ≤ ints' .dy ∧ ints' .dy ≤ radius) → (-radius ≤ ints' .dx ∧ ints' .dx ≤ radius) →
      inner.Within env tap (Access.Fits size) ints' (Ints.Agree [.k] ints')) :
    (Stmt.forUpTo .dy first last (.forUpTo .dx first last inner)).Within env tap (Access.Fits size)
      ints (Ints.Agree scratchInts ints) := by
  have hcounter : ∀ value : ℤ, -radius ≤ value → value ≤ radius →
      (Access.int value).Fits size ∧ (Access.int (value + 1)).Fits size := by
    intro value hlow hhigh
    simp only [Access.Fits]
    omega
  rcases hbounds ints (.refl _ _) with ⟨hfirst, hlast, hfirstFits, hlastFits⟩
  refine .forUpTo _ (.refl _ _) hfirstFits hlastFits fun dy hlow hhigh ints' hints' => ?_
  rw [hfirst] at hlow
  rw [hlast] at hhigh
  refine ⟨(hcounter dy hlow hhigh).1, (hcounter dy hlow hhigh).2, ?_⟩
  have hrow := hints'.update .dy dy List.mem_cons_self
  rcases hbounds _ hrow with ⟨hfirst', hlast', hfirstFits', hlastFits'⟩
  have hcolumns : (Stmt.forUpTo .dx first last inner).Within env tap (Access.Fits size)
      (Function.update ints' .dy dy)
      fun ints'' => Ints.Agree scratchInts ints ints'' ∧ ints'' .dy = dy := by
    refine .forUpTo _ ⟨hrow, rfl⟩ hfirstFits' hlastFits' fun dx hlow' hhigh' ints'' hints'' => ?_
    rw [hfirst'] at hlow'
    rw [hlast'] at hhigh'
    refine ⟨(hcounter dx hlow' hhigh').1, (hcounter dx hlow' hhigh').2, ?_⟩
    have hcell := hints''.1.update .dx dx (List.mem_cons_of_mem _ List.mem_cons_self)
    have hdy : Function.update ints'' IntVar.dx dx .dy = dy := hints''.2
    refine (hinner _ hcell (hdy ▸ ⟨hlow, hhigh⟩) ⟨hlow', hhigh'⟩).mono fun ints₃ h₃ => ⟨?_, ?_⟩
    · exact hcell.trans (h₃.mono fun name hname =>
        List.mem_cons_of_mem _ (List.mem_cons_of_mem _ hname))
    · rw [h₃ .dy (by decide)]
      exact hdy
  exact hcolumns.mono fun _ h => h.1

/-- The fetch at these offsets, inside the loops. -/
def FetchWithin (env : Env) (tap : ℤ → ℤ → List Access) (size : ℕ) (radius : ℤ) (fetch : Stmt)
    (ints : Ints) : Prop :=
  ∀ ints', Ints.Agree scratchInts ints ints' →
    (-radius ≤ ints' .dy ∧ ints' .dy ≤ radius) → (-radius ≤ ints' .dx ∧ ints' .dx ≤ radius) →
    fetch.Within env tap (Access.Fits size) ints' fun ints'' => ints'' = ints'

/-- A naive fetch is a call of the tap helper within reach of the pixel. -/
lemma naiveFetch_within (hsize : Sized width height channels reach) {size colors : ℕ}
    {tapArgs : List ℕ} {radius : ℤ} (hradius : radius ≤ 12 ∧ radius ≤ reach)
    (hx : 0 ≤ ints .x ∧ ints .x < width) (hy : 0 ≤ ints .y ∧ ints .y < height)
    (htap : ∀ x y : ℤ, (Access.int x).Fits size → (Access.int y).Fits size →
      ∀ access ∈ tap x y, access.Fits size) :
    FetchWithin env tap size radius (emitFetch colors false tapArgs) ints := by
  intro ints' hints' hdy hdx
  have hcolumns := hsize.columns
  have hrows := hsize.rows
  rw [← hints' .x (by decide)] at hx
  rw [← hints' .y (by decide)] at hy
  refine ⟨?_, rfl⟩
  simp only [emitFetch, Bool.not_false, if_true, Stmt.touches, IntExpr.evaluated, IntExpr.eval,
    Stmt.intsAfter, List.cons_append, List.nil_append, List.forall_mem_cons]
  have hcolumn : (Access.int (ints' .x + ints' .dx)).Fits size := by
    simp only [Access.Fits]
    omega
  have hrow : (Access.int (ints' .y + ints' .dy)).Fits size := by
    simp only [Access.Fits]
    omega
  refine ⟨?_, ?_, hcolumn, ?_, ?_, hrow, htap _ _ hcolumn hrow⟩
  all_goals
    simp only [Access.Fits]
    omega

/-- A tiled fetch reads the tile near the pixel. -/
lemma tiledFetch_within {size dim colors : ℕ} {tapArgs : List ℕ} {radius : ℤ} (hdim : dim ≤ 32)
    (hradius : 0 ≤ radius ∧ radius ≤ 12) {lx ly : ℕ} (hlx : ints .lx = lx + radius)
    (hly : ints .ly = ly + radius) (hthread : lx < dim ∧ ly < dim) :
    FetchWithin env tap size radius (emitFetch colors true tapArgs) ints := by
  intro ints' hints' hdy hdx
  rw [← hints' .lx (by decide)] at hlx
  rw [← hints' .ly (by decide)] at hly
  refine .seq (fun ints'' => ints'' = ints') (.silent (fun _ _ _ => ⟨rfl, rfl⟩) rfl) ?_
  rintro _ rfl
  refine .forColors rfl fun c _ ints'' hints'' => ?_
  obtain rfl := hints''
  refine ⟨?_, rfl⟩
  simp only [Stmt.touches, FloatExpr.touches, IntExpr.evaluated, IntExpr.eval, List.cons_append,
    List.nil_append, List.forall_mem_cons, Access.Fits]
  exact ⟨by omega, by omega, by omega, by omega, by omega, by omega, List.forall_mem_nil _⟩

/-- An expression for the radius. -/
def ReadsRadius (env : Env) (r : IntExpr) (radius : ℤ) (ints : Ints) : Prop :=
  r.eval env ints = radius ∧ r.evaluated env ints = [.int radius]

/-- The loops of a gaussian. -/
lemma gaussianLoops_within {fetch : Stmt} {r : IntExpr} {weights : Table} {radius : ℤ}
    {size colors : ℕ} (hradius : 0 ≤ radius ∧ radius ≤ 12)
    (hr : ∀ ints', Ints.Agree scratchInts ints ints' → ReadsRadius env r radius ints')
    (hfetch : FetchWithin env tap size radius fetch ints) :
    (Stmt.forUpTo .dy (.neg r) r (.forUpTo .dx (.neg r) r (.all
      [fetch,
       .float .w (.mul (.table weights (.add (.var .dy) r)) (.table weights (.add (.var .dx) r))),
       .forColors colors fun c => .accumulate .acc c (.mul (.scalar .w) (.cell .t c))]))).Within env
      tap (Access.Fits size) ints (Ints.Agree scratchInts ints) := by
  refine windowLoops_within hradius (fun ints' hints' => ?_) fun ints' hints' hdy hdx => ?_
  · rcases hr ints' hints' with ⟨heval, hevaluated⟩
    simp only [IntExpr.eval, IntExpr.evaluated, heval, hevaluated, List.cons_append,
      List.nil_append, List.forall_mem_cons, Access.Fits, true_and]
    exact ⟨⟨by omega, by omega, List.forall_mem_nil _⟩, by omega, List.forall_mem_nil _⟩
  · refine .seq _ (hfetch ints' hints' hdy hdx) ?_
    rintro ints' rfl
    rcases hr _ hints' with ⟨heval, hevaluated⟩
    refine .seq (fun ints'' => ints'' = ints') (.float rfl rfl ?_ rfl) ?_
    · simp only [FloatExpr.touches, IntExpr.evaluated, IntExpr.eval, heval, hevaluated,
        List.cons_append, List.nil_append, List.forall_mem_cons, Access.Fits]
      exact ⟨by omega, by omega, by omega, by omega, by omega, by omega, List.forall_mem_nil _⟩
    · rintro ints' rfl
      have hnop : Stmt.nop.Silent := fun _ _ _ => ⟨rfl, rfl⟩
      exact .silent ((Stmt.silent_forColors _ fun c _ _ _ => ⟨rfl, rfl⟩).seq hnop) (.refl _ _)

/-- The loops of a sobel. -/
lemma sobelLoops_within {fetch : Stmt} {size colors : ℕ}
    (hfetch : FetchWithin env tap size 1 fetch ints) :
    (Stmt.forUpTo .dy (.lit (-1)) (.lit 1) (.forUpTo .dx (.lit (-1)) (.lit 1) (.all
      [fetch,
       .int .k (.add (.mul (.add (.var .dy) (.lit 1)) (.lit 3)) (.add (.var .dx) (.lit 1))),
       .forColors colors fun c => .seq
        (.accumulate .gx c (.mul (.table .gx (.var .k)) (.cell .t c)))
        (.accumulate .gy c (.mul (.table .gy (.var .k)) (.cell .t c)))]))).Within env tap
      (Access.Fits size) ints (Ints.Agree scratchInts ints) := by
  have hone : ∀ value : ℤ, -1 ≤ value → value ≤ 1 →
      ∀ access ∈ (IntExpr.lit value).evaluated env ints, access.Fits size := by
    intro value hlow hhigh
    refine List.forall_mem_singleton.mpr ?_
    simp only [Access.Fits]
    omega
  have hwindow : (0 : ℤ) ≤ 1 ∧ (1 : ℤ) ≤ 12 := by omega
  refine windowLoops_within hwindow (fun ints' hints' => ?_) fun ints' hints' hdy hdx => ?_
  · exact ⟨rfl, rfl, hone (-1) (by omega) (by omega), hone 1 (by omega) (by omega)⟩
  · refine .seq _ (hfetch ints' hints' hdy hdx) ?_
    rintro ints' rfl
    refine .seq (fun ints'' => Ints.Agree [.k] ints' ints'' ∧ 0 ≤ ints'' .k ∧ ints'' .k ≤ 8)
      (.int ?_ ⟨(Ints.Agree.refl _ _).update _ _ List.mem_cons_self, ?_⟩) ?_
    · simp only [IntExpr.evaluated, IntExpr.eval, List.cons_append, List.nil_append,
        List.forall_mem_cons, Access.Fits]
      exact ⟨by omega, by omega, by omega, by omega, by omega, by omega, by omega, by omega,
        by omega, List.forall_mem_nil _⟩
    · rw [Function.update_self]
      simp only [IntExpr.eval]
      omega
    · intro ints'' hints''
      refine .seq (fun ints₃ => ints₃ = ints'')
        (.forColors rfl fun c _ ints₃ hints₃ => ⟨?_, hints₃⟩) ?_
      · obtain rfl := hints₃
        simp only [Stmt.touches, FloatExpr.touches, IntExpr.evaluated, Stmt.intsAfter,
          List.cons_append, List.nil_append, List.forall_mem_cons, Access.Fits]
        exact ⟨by omega, by omega, List.forall_mem_nil _⟩
      · rintro ints'' rfl
        exact .silent (fun _ _ _ => ⟨rfl, rfl⟩) hints''.1

/-- The variables that a stencil body writes. -/
def bodyInts : List IntVar := .lx :: .ly :: scratchInts

/-- Where a tiled body stands in the tile. -/
def AtCell (env : Env) (tiled : Bool) (radius : ℤ) (ints : Ints) : Prop :=
  tiled = true → ints .lx = env.thread.1 + radius ∧ ints .ly = env.thread.2 + radius

lemma emitCoordinates_within {tiled : Bool} {r : IntExpr} {radius : ℤ} {size : ℕ}
    (hradius : 0 ≤ radius ∧ radius ≤ 12)
    (hthread : tiled = true → env.thread.1 < 32 ∧ env.thread.2 < 32)
    (hr : ∀ ints', Ints.Agree bodyInts ints ints' → ReadsRadius env r radius ints') :
    (emitCoordinates tiled r).Within env tap (Access.Fits size) ints fun ints' =>
      Ints.Agree [.lx, .ly] ints ints' ∧ AtCell env tiled radius ints' := by
  cases tiled with
  | false =>
      exact .silent (fun _ _ _ => ⟨rfl, rfl⟩) ⟨.refl _ _, fun h => absurd h Bool.false_ne_true⟩
  | true =>
      have hsub : ([.lx, .ly] : List IntVar) ⊆ bodyInts := by decide
      have hthread := hthread rfl
      have hcoordinate : ∀ (axis : Axis) (ints' : Ints), Ints.Agree [.lx, .ly] ints ints' →
          (∀ access ∈ (IntExpr.add (.ofUnsigned (.threadIdx axis)) r).evaluated env ints',
              access.Fits size)
            ∧ (IntExpr.add (.ofUnsigned (.threadIdx axis)) r).eval env ints'
              = (axis.of env.thread : ℕ) + radius := by
        intro axis ints' hints'
        rcases hr ints' (hints'.mono hsub) with ⟨heval, hevaluated⟩
        have haxis : axis.of env.thread < 32 := by
          cases axis
          · exact hthread.1
          · exact hthread.2
        simp only [IntExpr.evaluated, IntExpr.eval, heval, hevaluated, List.cons_append,
          List.nil_append, List.forall_mem_cons, Access.Fits]
        exact ⟨⟨by omega, by omega, by omega, List.forall_mem_nil _⟩, trivial⟩
      have hfirst := (Ints.Agree.refl [.lx, .ly] ints).update .lx
        ((IntExpr.add (.ofUnsigned (.threadIdx .x)) r).eval env ints) (by decide)
      have hsecond := hcoordinate .y _ hfirst
      refine .seq _ (.int (hcoordinate .x ints (.refl _ _)).1 rfl) ?_
      rintro _ rfl
      refine .seq _ (.int hsecond.1 rfl) ?_
      rintro _ rfl
      refine .silent (fun _ _ _ => ⟨rfl, rfl⟩) ⟨hfirst.update .ly _ (by decide), fun _ => ⟨?_, ?_⟩⟩
      · rw [Function.update_of_ne (by decide), Function.update_self]
        exact (hcoordinate .x ints (.refl _ _)).2
      · rw [Function.update_self]
        exact hsecond.2

/-- **The stencil body**, when its fetches are in range. -/
theorem stencilBody_within {stencil : Op} {baked radius : ℤ} {size colors : ℕ}
    {tiled runtimeRadius : Bool} {tapArgs : List ℕ} (hradius : 0 ≤ radius ∧ radius ≤ 12)
    (hsobel : stencil.kind ≠ .kGaussian → radius = 1)
    (hthread : tiled = true → env.thread.1 < 32 ∧ env.thread.2 < 32)
    (hr : ∀ ints', Ints.Agree bodyInts ints ints' →
      ReadsRadius env (radiusText baked runtimeRadius) radius ints')
    (hfetch : ∀ ints', Ints.Agree [.lx, .ly] ints ints' → AtCell env tiled radius ints' →
      FetchWithin env tap size radius (emitFetch colors tiled tapArgs) ints') :
    (emitStencilBody stencil baked colors tiled runtimeRadius tapArgs).Within env tap
      (Access.Fits size) ints (Ints.Agree bodyInts ints) := by
  have hnop : Stmt.nop.Silent := fun _ _ _ => ⟨rfl, rfl⟩
  have hset : ∀ value : ℕ → FloatExpr, (∀ c env ints, (value c).touches env ints = []) →
      (Stmt.forColors colors fun c => .set .v c (value c)).Silent :=
    fun value hvalue => Stmt.silent_forColors _ fun c env tap ints => ⟨hvalue c env ints, rfl⟩
  have hdone : ∀ {ints' ints'' : Ints}, Ints.Agree [.lx, .ly] ints ints' →
      Ints.Agree scratchInts ints' ints'' → Ints.Agree bodyInts ints ints'' := by
    intro ints' ints'' h h'
    exact (h.mono (by decide)).trans (h'.mono (by decide))
  have hcoordinates : (emitCoordinates tiled (radiusText baked runtimeRadius)).Within env tap
      (Access.Fits size) ints fun ints' =>
      Ints.Agree [.lx, .ly] ints ints' ∧ AtCell env tiled radius ints' :=
    emitCoordinates_within hradius hthread hr
  unfold emitStencilBody
  split_ifs with hkind
  · refine .seq _ hcoordinates fun ints' hints' => ?_
    refine .seq (fun ints'' => ints'' = ints') (.silent (fun _ _ _ => ⟨rfl, rfl⟩) rfl) ?_
    rintro ints' rfl
    refine .seq _ (gaussianLoops_within hradius (fun ints'' hints'' => ?_)
      (hfetch _ hints'.1 hints'.2)) fun ints'' hints'' => ?_
    · exact hr ints'' (hdone hints'.1 hints'')
    · exact .silent ((hset _ fun c _ _ => rfl).seq hnop) (hdone hints'.1 hints'')
  · rw [hsobel hkind] at hfetch hcoordinates
    refine .seq _ hcoordinates fun ints' hints' => ?_
    refine .seq (fun ints'' => ints'' = ints') (.silent (fun _ _ _ => ⟨rfl, rfl⟩) rfl) ?_
    rintro ints' rfl
    refine .seq (fun ints'' => ints'' = ints') (.silent (fun _ _ _ => ⟨rfl, rfl⟩) rfl) ?_
    rintro ints' rfl
    refine .seq _ (sobelLoops_within (hfetch _ hints'.1 hints'.2)) fun ints'' hints'' => ?_
    exact .silent ((hset _ fun c _ _ => rfl).seq hnop) (hdone hints'.1 hints'')

/-! ## The pixel -/

/-- The coordinates of the thread, which may stand beside the frame. -/
structure InGrid (env : Env) : Prop where
  column : env.block.1 * env.blockDim + env.thread.1 < 2 ^ 31
  row : env.block.2 * env.blockDim + env.thread.2 < 2 ^ 31

/-- A coordinate of the thread. -/
lemma coordinate_within (env : Env) (axis : Axis) (size : ℕ)
    (hthread : axis.of env.block * env.blockDim + axis.of env.thread < 2 ^ 31) (ints : Ints) :
    (∀ access ∈ (IntExpr.ofUnsigned (.add (.mul (.blockIdx axis) (.blockDim axis))
        (.threadIdx axis))).evaluated env ints, access.Fits size)
      ∧ 0 ≤ (IntExpr.ofUnsigned (.add (.mul (.blockIdx axis) (.blockDim axis))
        (.threadIdx axis))).eval env ints
      ∧ (IntExpr.ofUnsigned (.add (.mul (.blockIdx axis) (.blockDim axis))
        (.threadIdx axis))).eval env ints < 2 ^ 31 := by
  simp only [IntExpr.evaluated, IntExpr.eval, List.forall_mem_cons, Access.Fits]
  exact ⟨⟨by omega, List.forall_mem_nil _⟩, by omega, by omega⟩

/-- The bounds check of a kernel. -/
def outsideText : IntCond := .or (.ge (.var .x) (.var .width)) (.ge (.var .y) (.var .height))

/-- The bounds check compares what it has. -/
lemma boundsCheck_within (hsize : Sized width height channels reach) {size : ℕ}
    (hwidth : ints .width = width) (hheight : ints .height = height)
    (hx : 0 ≤ ints .x ∧ ints .x < 2 ^ 31) (hy : 0 ≤ ints .y ∧ ints .y < 2 ^ 31) :
    ∀ access ∈ outsideText.touches env ints, access.Fits size := by
  have hreach := hsize.pos
  have hcolumns := hsize.columns
  have hrows := hsize.rows
  have hright : ∀ access ∈ (IntCond.ge (.var .y) (.var .height)).touches env ints,
      access.Fits size := by
    simp only [IntCond.touches, IntExpr.evaluated, hheight, List.cons_append, List.nil_append,
      List.forall_mem_cons, Access.Fits]
    exact ⟨by omega, by omega, List.forall_mem_nil _⟩
  refine List.forall_mem_append.mpr ⟨?_, ?_⟩
  · simp only [IntCond.touches, IntExpr.evaluated, hwidth, List.cons_append, List.nil_append,
      List.forall_mem_cons, Access.Fits]
    exact ⟨by omega, by omega, List.forall_mem_nil _⟩
  · split_ifs
    · exact List.forall_mem_nil _
    · exact hright

/-- A thread that passes the bounds check has a pixel of the frame. -/
lemma inside_of_boundsCheck (hwidth : ints .width = width) (hheight : ints .height = height)
    (h : outsideText.eval env ints = false) : ints .x < width ∧ ints .y < height := by
  simpa only [outsideText, IntCond.eval, IntExpr.eval, hwidth, hheight, ge_iff_le,
    Bool.or_eq_false_iff, decide_eq_false_iff_not, not_le] using h

/-- The index of a sample of the pixel, for a store or for the load of its alpha. -/
lemma sampleAccess_within (env : Env) (hsize : Sized width height channels reach)
    (hchannels : 0 < channels ∧ channels ≤ 4) (hat : AtPixel width height channels ints) {c : ℕ}
    (hc : c < channels) :
    (∀ access ∈ (IntExpr.add (.var .i) (.lit c)).evaluated env ints
        ++ [.dst ((IntExpr.add (.var .i) (.lit c)).eval env ints)],
      access.Fits (width * height * channels))
      ∧ ∀ access ∈ (IntExpr.add (.var .i) (.lit c)).evaluated env ints
        ++ [.src ((IntExpr.add (.var .i) (.lit c)).eval env ints)],
      access.Fits (width * height * channels) := by
  rcases offset_within env hsize hchannels hat hc with ⟨hevaluated, hoffset⟩
  exact ⟨List.forall_mem_append.mpr ⟨hevaluated, List.forall_mem_singleton.mpr hoffset⟩,
    List.forall_mem_append.mpr ⟨hevaluated, List.forall_mem_singleton.mpr hoffset⟩⟩

/-- **The part of a kernel behind the load phase**, around a body that is in range. -/
theorem pixel_within (hsize : Sized width height channels reach)
    (hchannels : 0 < channels ∧ channels ≤ 4) {colors : ℕ} (hcolors : colors ≤ channels)
    (hthread : InGrid env) (hwidth : ints .width = width) (hheight : ints .height = height)
    {body epilogue : Stmt}
    (hbody : ∀ ints', Ints.Agree [.x, .y, .i] ints ints' →
      (0 ≤ ints' .x ∧ ints' .x < width) → (0 ≤ ints' .y ∧ ints' .y < height) →
      AtPixel width height channels ints' →
      body.Within env tap (Access.Fits (width * height * channels)) ints'
        (AtPixel width height channels))
    (hepilogue : epilogue.Silent) :
    WithinItems env tap (Access.Fits (width * height * channels))
      (emitPixel channels colors body epilogue) ints := by
  have hcolumn := coordinate_within env .x (width * height * channels) hthread.column
  have hrow := coordinate_within env .y (width * height * channels) hthread.row
  refine .stmt (fun ints' => Ints.Agree [.x, .y, .i] ints ints' ∧ 0 ≤ ints' .x ∧ ints' .x < 2 ^ 31)
    (.int (hcolumn ints).1 ⟨(Ints.Agree.refl _ _).update .x _ (by decide), ?_⟩) ?_
  · rw [Function.update_self]
    exact (hcolumn ints).2
  rintro ints' ⟨hints, hx⟩
  refine .stmt (fun ints'' => Ints.Agree [.x, .y, .i] ints ints''
      ∧ (0 ≤ ints'' .x ∧ ints'' .x < 2 ^ 31) ∧ 0 ≤ ints'' .y ∧ ints'' .y < 2 ^ 31)
    (.int (hrow ints').1 ⟨hints.update .y _ (by decide), hx, ?_⟩) ?_
  · rw [Function.update_self]
    exact (hrow ints').2
  rintro ints' ⟨hints, hx, hy⟩
  have hwidth' := (hints .width (by decide)).trans hwidth
  have hheight' := (hints .height (by decide)).trans hheight
  refine .returnIf (boundsCheck_within hsize hwidth' hheight' hx hy) fun hinside => ?_
  have hpixel := inside_of_boundsCheck hwidth' hheight' hinside
  replace hx := And.intro hx.1 hpixel.1
  replace hy := And.intro hy.1 hpixel.2
  rcases sampleIndex_within env hsize hchannels hwidth' hx hy with ⟨hindex, hat⟩
  refine .stmt (fun ints'' => Ints.Agree [.x, .y, .i] ints ints''
      ∧ (0 ≤ ints'' .x ∧ ints'' .x < width) ∧ (0 ≤ ints'' .y ∧ ints'' .y < height)
      ∧ AtPixel width height channels ints'')
    (.int hindex ⟨hints.update .i _ (by decide), hx, hy, hat⟩) ?_
  rintro ints' ⟨hints, hx, hy, hat⟩
  refine .stmt (fun ints'' => ints'' = ints') (.silent (fun _ _ _ => ⟨rfl, rfl⟩) rfl) ?_
  rintro ints' rfl
  refine .stmt _ (hbody ints' hints hx hy hat) fun ints'' hat => ?_
  refine .stmt _ (.silent hepilogue hat) fun ints'' hat => ?_
  refine .stmt _ (.forColors hat fun c hc ints₃ hat => ⟨?_, hat⟩) fun ints'' hat => ?_
  · refine List.forall_mem_append.mpr
      ⟨(sampleAccess_within env hsize hchannels hat (hc.trans_le hcolors)).1, ?_⟩
    exact List.forall_mem_nil _
  · refine .stmt (fun _ => True) ?_ fun _ _ => .nil
    split_ifs with hfour
    · have halpha := sampleAccess_within env hsize hchannels hat (c := 3) (by omega)
      exact ⟨List.forall_mem_append.mpr halpha, trivial⟩
    · exact .silent (fun _ _ _ => ⟨rfl, rfl⟩) trivial

end Within

end Cuda

end Imgjit
