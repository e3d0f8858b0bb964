import Imgjit.Cuda.FusionPlan
import Imgjit.Cuda.KernelRules

/-!
# Fused pointwise runs

The oracle applies one op to the whole image, stores bytes, and goes on to the next op.  A generated
kernel takes one pixel, keeps its colours in registers through a whole run of pointwise ops, and
stores once.  If registers kept their exact values between two ops, the results would drift apart;
the generated text therefore quantizes after each op, and this file shows that a quantized register
is what the oracle computes with a byte image between the ops.

**One op.**  `emitPointwiseOp_spec` is about the statements of one op, one case for each of the four
pointwise ops.  Parameters are literals, or are found in the thread's arguments.

**A run of ops.**  `pixelOps` is the oracle's ops, folded over one pixel, and `emitPointwise_spec`
says that a run turns the registers of a pixel into those of `pixelOps`.
`sampleAt_applyOps_pointwise` connects this with images: `pixelOps` is what the oracle does to a
pixel of a whole image, since a pointwise op looks at no other pixel.

**The tap helper.**  Ops fused in front of a stencil have to be applied to each of its taps.
`emitTapFunction_spec` says that the helper returns the clamped neighbour with the prologue applied.
-/

namespace Imgjit

namespace Cuda

/-! ## Quantized values -/

lemma imgjitQuantize_one_sub (v : UInt8) :
    imgjitQuantize (1 - Cpu.loadSample v) = Cpu.loadSample (255 - v) := by
  have hlt := UInt8.toNat_lt v
  have hle : v.toNat ≤ 255 := by omega
  have hsub : (255 - v).toNat = 255 - v.toNat := UInt8.toNat_sub_of_le _ _ hle
  have hvalue : 1 - Cpu.loadSample v = ((255 - v.toNat : ℕ) : ℚ) / 255 := by
    rw [Cpu.loadSample, Nat.cast_sub hle]
    field_simp
    norm_num
  rw [imgjitQuantize_eq, hvalue, Cpu.storeSample_of_nat (by omega), ← hsub, UInt8.ofNat_toNat]

lemma imgjitQuantize_zero : imgjitQuantize 0 = Cpu.loadSample 0 := by
  have := Cpu.storeSample_of_nat (n := 0) (by omega)
  rw [imgjitQuantize_eq]
  simpa using congrArg Cpu.loadSample this

lemma imgjitQuantize_one : imgjitQuantize 1 = Cpu.loadSample 255 := by
  have h := Cpu.storeSample_of_nat (n := 255) (by omega)
  rw [show ((255 : ℕ) : ℚ) / 255 = 1 by norm_num] at h
  rw [imgjitQuantize_eq, h]
  rfl

/-! ## One op in registers -/

/-- The registers that hold a pixel. -/
def registers (colors : ℕ) (pixel : ℕ → UInt8) : List (Option ℚ) :=
  cells colors fun c => Cpu.loadSample (pixel c)

@[simp] lemma length_registers (colors : ℕ) (pixel : ℕ → UInt8) :
    (registers colors pixel).length = colors := length_cells _ _

/-- The parameters a run reads are there: literals in a baked kernel, arguments otherwise. -/
def ParamsBound (parameterized : Bool) (ops : List PlannedOp) (params : ℕ → Option ℚ) : Prop :=
  parameterized = true → ∀ planned ∈ ops, (opSpec planned.op.kind).takesParam = true →
    params planned.index = some planned.op.param

/-- The old value is still there when its cell is about to be replaced. -/
lemma cell_overwritten {s : ThreadState} {name : FloatVar} {colors c : ℕ} {values : ℕ → ℚ}
    {pixel : ℕ → UInt8} (h : s.floats name = overwritten c values (registers colors pixel))
    (hc : c < colors) : s.cell name c = some (Cpu.loadSample (pixel c)) := by
  simp only [ThreadState.cell, h, getElem?_overwritten le_rfl]
  simp [registers, cells, hc]

section PointwiseOp

variable {env : Env} {s : ThreadState} {colors : ℕ} {var : FloatVar} {pixel : ℕ → UInt8}

/-- The parameter expression of an op. -/
lemma eval_param {parameterized : Bool} {planned : PlannedOp}
    (hparams : ParamsBound parameterized [planned] s.params)
    (htakes : (opSpec planned.op.kind).takesParam = true) :
    (if parameterized then FloatExpr.param planned.index else .lit planned.op.param).eval env s
      = some planned.op.param := by
  cases parameterized with
  | true => exact hparams rfl planned List.mem_cons_self htakes
  | false => rfl

/-- The outcome of one op of a run. -/
def PixelDone (colors : ℕ) (var : FloatVar) (pixel : ℕ → UInt8) (s s' : ThreadState) : Prop :=
  Frame [] [var, .g] s s' ∧ s'.floats var = registers colors pixel

/-- An op that maps each colour by itself. -/
lemma mapColors_runs {value : ℕ → FloatExpr} {result : ℕ → UInt8}
    (harray : s.floats var = registers colors pixel)
    (hvalue : ∀ c < colors, ∀ s' : ThreadState, s'.params = s.params →
      s'.cell var c = some (Cpu.loadSample (pixel c)) →
      (value c).eval env s' = some (Cpu.loadSample (result c))) :
    (Stmt.forColors colors fun c => .set var c (value c)).Runs env s
      (PixelDone colors var result s) := by
  refine Stmt.Runs.setColors (fun c => Cpu.loadSample (result c))
    (by rw [harray, length_registers]) (fun c hc s' hframe hcells => ?_)
    fun s' hframe hcells => ⟨hframe.mono (List.nil_subset _) (by simp), hcells⟩
  rw [harray] at hcells
  exact hvalue c hc s' hframe.params (cell_overwritten hcells hc)

/-- **One pointwise op** is emitted, and its statements turn the registers of a pixel into those of
the oracle's pixel. -/
theorem emitPointwiseOp_spec (hcolors : colors = 1 ∨ colors = 3) (hvar : var ≠ .g)
    (parameterized : Bool) {planned : PlannedOp}
    (hpointwise : (opSpec planned.op.kind).isStencil = false) :
    ∃ body, emitPointwiseOp colors var parameterized planned = .ok body
      ∧ ∀ env s pixel, ParamsBound parameterized [planned] s.params →
        s.floats var = registers colors pixel →
        body.Runs env s (PixelDone colors var (Cpu.pixelOp colors planned.op pixel) s) := by
  obtain ⟨⟨kind, param⟩, index⟩ := planned
  cases kind with
  | kGrayscale =>
      rcases hcolors with rfl | rfl
      · exact ⟨_, rfl, fun env s pixel _ harray => ⟨s, rfl, Frame.refl s, harray⟩⟩
      · refine ⟨_, rfl, fun env s pixel _ harray => ?_⟩
        set luma : ℚ := Cpu.kLumaRed * Cpu.loadSample (pixel 0)
          + Cpu.kLumaGreen * Cpu.loadSample (pixel 1) + Cpu.kLumaBlue * Cpu.loadSample (pixel 2)
        have hg : (FloatExpr.quantize (.luma (.cell var 0) (.cell var 1) (.cell var 2))).eval env s
            = some (Cpu.loadSample (Cpu.storeSample luma)) := by
          simp only [FloatExpr.eval, cell_of_cells harray (show 0 < 3 by omega),
            cell_of_cells harray (show 1 < 3 by omega), cell_of_cells harray (show 2 < 3 by omega)]
          simp only [Option.bind_eq_bind, Option.bind_some, Option.map_some, imgjitQuantize_eq]
          rfl
        refine Stmt.Runs.block (Stmt.Runs.via (fun s' => Frame [] [var, .g] s s'
          ∧ s'.floats var = registers 3 pixel
          ∧ s'.cell .g 0 = some (Cpu.loadSample (Cpu.storeSample luma)))
          (Stmt.Runs.float hg ⟨Frame.setArray _ _ (by simp), ?_, ?_⟩) fun s' hs' => ?_)
        · rw [← harray]
          exact Function.update_of_ne hvar _ _
        · simp [ThreadState.cell]
        · obtain ⟨hframe, harray', hg'⟩ := hs'
          refine Stmt.Runs.via (PixelDone 3 var (Cpu.pixelOp 3 ⟨.kGrayscale, param⟩ pixel) s)
            ?_ fun s'' hs'' => Stmt.Runs.nop hs''
          refine Stmt.Runs.setColors
            (fun c => Cpu.loadSample (Cpu.pixelOp 3 ⟨.kGrayscale, param⟩ pixel c))
            (by rw [harray', length_registers]) (fun c hc s'' hframe' _ => ?_)
            fun s'' hframe' hcells =>
              ⟨hframe.trans (hframe'.mono (List.nil_subset _) (by simp)), hcells⟩
          have hkeep := hframe'.floats .g (by simpa using hvar.symm)
          simp only [FloatExpr.eval, ThreadState.cell, hkeep]
          exact hg'
  | kInvert =>
      refine ⟨_, rfl, fun env s pixel _ harray => mapColors_runs harray fun c hc s' _ hcell => ?_⟩
      simp only [FloatExpr.eval, hcell, Option.bind_eq_bind, Option.bind_some, Option.map_some,
        imgjitQuantize_one_sub]
      rfl
  | kBrightness =>
      refine ⟨_, rfl, fun env s pixel hparams harray =>
        mapColors_runs harray fun c hc s' hsame hcell => ?_⟩
      rw [← hsame] at hparams
      simp only [FloatExpr.eval, hcell, eval_param hparams rfl, Option.bind_eq_bind,
        Option.bind_some, Option.map_some, imgjitQuantize_eq]
      rfl
  | kThreshold =>
      refine ⟨_, rfl, fun env s pixel hparams harray =>
        mapColors_runs harray fun c hc s' hsame hcell => ?_⟩
      rw [← hsame] at hparams
      simp only [FloatExpr.eval, hcell, eval_param hparams rfl, Option.bind_eq_bind,
        Option.bind_some, Cpu.pixelOp]
      split_ifs
      · simp only [Option.map_some, imgjitQuantize_one]
      · simp only [Option.map_some, imgjitQuantize_zero]
  | kGaussian => cases hpointwise
  | kSobel => cases hpointwise

end PointwiseOp

/-! ## A whole run -/

/-- The oracle's pointwise ops, folded over one pixel. -/
def pixelOps (colors : ℕ) (ops : List Op) (pixel : ℕ → UInt8) : ℕ → UInt8 :=
  ops.foldl (fun pixel op => Cpu.pixelOp colors op pixel) pixel

/-- **A fused run computes the oracle's ops**, one after the other, on the registers of a pixel. -/
theorem emitPointwise_spec {colors : ℕ} (hcolors : colors = 1 ∨ colors = 3) (var : FloatVar)
    (hvar : var ≠ .g) (parameterized : Bool) {ops : List PlannedOp} (hops : Pointwise ops) :
    ∃ body, emitPointwise colors var parameterized ops = .ok body
      ∧ ∀ env s pixel, ParamsBound parameterized ops s.params →
        s.floats var = registers colors pixel →
        body.Runs env s (PixelDone colors var (pixelOps colors (ops.map PlannedOp.op) pixel) s) := by
  induction ops with
  | nil => exact ⟨_, rfl, fun env s pixel _ harray => Stmt.Runs.nop ⟨Frame.refl s, harray⟩⟩
  | cons planned rest ih =>
      obtain ⟨first, hfirst, hruns⟩ :=
        emitPointwiseOp_spec hcolors hvar parameterized (hops planned List.mem_cons_self)
      obtain ⟨second, hsecond, hruns'⟩ :=
        ih fun planned' hmem => hops planned' (List.mem_cons_of_mem _ hmem)
      refine ⟨.seq first second, by rw [emitPointwise, hfirst, hsecond]; rfl,
        fun env s pixel hparams harray => ?_⟩
      have hhead : ParamsBound parameterized [planned] s.params := by
        intro hmode planned' hmem
        rw [List.mem_singleton.mp hmem]
        exact hparams hmode planned List.mem_cons_self
      refine (hruns env s pixel hhead harray).seq fun s' hs' => ?_
      have htail : ParamsBound parameterized rest s'.params := by
        rw [hs'.1.params]
        exact fun hmode planned' hmem => hparams hmode planned' (List.mem_cons_of_mem _ hmem)
      exact (hruns' env s' _ htail hs'.2).mono fun s'' hs'' => ⟨hs'.1.trans hs''.1, hs''.2⟩

/-- A pointwise op reads colours only. -/
lemma pixelOp_congr {colors : ℕ} (hcolors : colors = 1 ∨ colors = 3) (op : Op)
    {pixel pixel' : ℕ → UInt8} (h : ∀ c < colors, pixel c = pixel' c) :
    ∀ c < colors, Cpu.pixelOp colors op pixel c = Cpu.pixelOp colors op pixel' c := by
  intro c hc
  simp only [Cpu.pixelOp, h c hc]
  rcases hcolors with rfl | rfl
  · rfl
  · rw [h 0 (by omega), h 1 (by omega), h 2 (by omega)]

lemma pixelOps_congr {colors : ℕ} (hcolors : colors = 1 ∨ colors = 3) (ops : List Op)
    {pixel pixel' : ℕ → UInt8} (h : ∀ c < colors, pixel c = pixel' c) :
    ∀ c < colors, pixelOps colors ops pixel c = pixelOps colors ops pixel' c := by
  induction ops generalizing pixel pixel' with
  | nil => exact h
  | cons op ops ih => exact ih (pixelOp_congr hcolors op h)

section Oracle

variable {cmath : CMath} {x y c : ℕ}

/-- **What the oracle does to one pixel.**  A run of pointwise ops on a whole image is `pixelOps` at
each of its pixels. -/
theorem sampleAt_applyOps_pointwise {image : Image} {ops : List Op}
    (hops : ∀ op ∈ ops, (opSpec op.kind).isStencil = false) (hx : x < image.width)
    (hy : y < image.height) (hc : c < Cpu.colorChannels image.channels) :
    (Cpu.applyOps cmath image ops).sampleAt x y c
      = pixelOps (Cpu.colorChannels image.channels) ops (image.sampleAt x y) c := by
  induction ops generalizing image with
  | nil => rfl
  | cons op ops ih =>
      have hop := hops op List.mem_cons_self
      rw [Cpu.applyOps_cons, ih (fun op' hmem => hops op' (List.mem_cons_of_mem _ hmem))
        (by simpa using hx) (by simpa using hy) (by simpa using hc), Cpu.applyOp_channels]
      refine pixelOps_congr (Cpu.colorChannels_mem image) ops (fun c' hc' => ?_) c hc
      exact Cpu.sampleAt_applyOp_pointwise cmath hop hx hy hc'

/-- No op of a chain touches alpha. -/
theorem sampleAt_applyOps_alpha {image : Image} (ops : List Op) (hx : x < image.width)
    (hy : y < image.height) (hc : c < image.channels)
    (halpha : ¬c < Cpu.colorChannels image.channels) :
    (Cpu.applyOps cmath image ops).sampleAt x y c = image.sampleAt x y c := by
  induction ops generalizing image with
  | nil => rfl
  | cons op ops ih =>
      rw [Cpu.applyOps_cons, ih (by simpa using hx) (by simpa using hy) (by simpa using hc)
        (by simpa using halpha), Cpu.sampleAt_applyOp_alpha cmath op hx hy hc halpha]

end Oracle

/-! ## The tap helper -/

/-- A buffer that starts with an image. -/
def Holds (buffer : List UInt8) (image : Image) : Prop :=
  buffer.take image.byteCount = image.pixels

lemma Holds.length_le {buffer : List UInt8} {image : Image} (h : Holds buffer image) :
    image.byteCount ≤ buffer.length := by
  have := congrArg List.length h
  rw [List.length_take, ← Image.byteCount] at this
  omega

/-- The byte under `(y * width + x) * channels + c`. -/
lemma Holds.read {buffer : List UInt8} {image : Image} (h : Holds buffer image) {x y c : ℕ}
    (hx : x < image.width) (hy : y < image.height) (hc : c < image.channels) :
    atIndex buffer ((((y : ℤ) * image.width + x) * image.channels) + c)
      = some (image.sampleAt x y c) := by
  have hindex : (((y : ℤ) * image.width + x) * image.channels) + c
      = ((y * image.stride + x * image.channels + c : ℕ) : ℤ) := by
    simp only [Image.stride]
    push_cast
    ring
  have hlt := image.index_lt hx hy hc
  rw [← image.packed] at hlt
  rw [hindex, atIndex, if_pos (Int.natCast_nonneg _), Int.toNat_natCast, Image.sampleAt,
    List.getD_eq_getElem _ _ hlt, ← List.getElem?_eq_getElem hlt, ← h,
    List.getElem?_take_of_lt (by exact hlt)]

/-- The pixel a tap yields: the neighbour under the clamped coordinate, after the prologue. -/
def tapPixel (image : Image) (prologue : List Op) (x y : ℤ) : ℕ → UInt8 :=
  pixelOps (Cpu.colorChannels image.channels) prologue
    (image.sampleAt (Cpu.clampCoordinate x image.width) (Cpu.clampCoordinate y image.height))

/-- **The tap helper returns the clamped neighbour with the prologue applied.** -/
theorem emitTapFunction_spec (stage : Stage) (image : Image) (parameterized : Bool)
    (params : List ℕ) (hprologue : Pointwise stage.prologue) :
    ∃ tap, emitTapFunction stage image.channels (Cpu.colorChannels image.channels) parameterized
        params = .ok tap
      ∧ ∀ (env : Env) (x y : ℤ) (target : List (Option ℚ)) (scalars : List ℚ)
        (bound : ℕ → Option ℚ), Holds env.src image →
        target.length = Cpu.colorChannels image.channels →
        bindParams params (scalars.map .float) = some bound →
        ParamsBound parameterized stage.prologue bound →
        tap.call env image.width image.height x y target scalars
          = some (registers (Cpu.colorChannels image.channels)
            (tapPixel image (stage.prologue.map PlannedOp.op) x y)) := by
  set colors := Cpu.colorChannels image.channels with hcolors
  obtain ⟨prologue, hemit, hruns⟩ := emitPointwise_spec (Cpu.colorChannels_mem image)
    .v (by decide) parameterized hprologue
  refine ⟨_, by rw [emitTapFunction, hemit]; rfl,
    fun env x y target scalars bound hsrc hlength hbind hbound => ?_⟩
  let sx := Cpu.clampCoordinate x image.width
  let sy := Cpu.clampCoordinate y image.height
  have hsx : sx < image.width := Cpu.clampCoordinate_lt x image.width_pos
  have hsy : sy < image.height := Cpu.clampCoordinate_lt y image.height_pos
  let start : ThreadState := { params := bound }
  let frame := (((start.setInt .x x).setInt .y y).setInt .width image.width).setInt .height
    image.height
  suffices hbody : (Stmt.all
      [.int .sx (.clampCoord (.var .x) (.var .width)),
       .int .sy (.clampCoord (.var .y) (.var .height)),
       .int .i (sampleIndex .sx .sy image.channels),
       .forColors colors fun c => .set .v c (.loadSample (.add (.var .i) (.lit c))),
       prologue]).Runs env (frame.setArray .v target) fun s' => s'.floats .v
        = registers colors (tapPixel image (stage.prologue.map PlannedOp.op) x y) by
    obtain ⟨s', hexec, hdone⟩ := hbody
    simp only [TapFunction.call, hbind, Option.bind_eq_bind, Option.bind_some]
    rw [hexec, Option.bind_some, hdone]
  -- The three coordinates, one after the other.
  refine Stmt.Runs.via (fun s' => s' = (frame.setArray .v target).setInt .sx sx)
    (Stmt.Runs.int ?_) fun s₁ hs₁ => ?_
  · simp only [IntExpr.eval]
    exact congrArg _ (imgjitClampCoord_eq x image.width_pos)
  subst hs₁
  refine Stmt.Runs.via (fun s' =>
      s' = ((frame.setArray .v target).setInt .sx sx).setInt .sy sy)
    (Stmt.Runs.int ?_) fun s₂ hs₂ => ?_
  · simp only [IntExpr.eval]
    exact congrArg _ (imgjitClampCoord_eq y image.height_pos)
  subst hs₂
  refine Stmt.Runs.via (fun s' => s'.ints .i = ((sy : ℤ) * image.width + sx) * image.channels
      ∧ s'.floats .v = target ∧ s'.params = bound)
    (Stmt.Runs.int ⟨by rw [setInt_ints_self]; rfl, rfl, rfl⟩) fun s₃ ⟨hi, hv, hparams⟩ => ?_
  -- The clamped load.
  refine Stmt.Runs.via (fun s' => s'.params = bound
      ∧ s'.floats .v = registers colors (image.sampleAt sx sy)) ?_
    fun s₄ ⟨hparams', hv'⟩ => ?_
  · refine Stmt.Runs.setColors (fun c => Cpu.loadSample (image.sampleAt sx sy c))
      (by rw [hv, hlength]) (fun c hc s' hframe _ => ?_) fun s' hframe hcells =>
        ⟨hframe.params.trans hparams, hcells⟩
    have hread := hsrc.read hsx hsy (hc.trans_le (Cpu.colorChannels_le image))
    simp only [FloatExpr.eval, IntExpr.eval, hframe.ints .i (by simp), hi, hread, Option.map_some,
      imgjitLoadSample_eq]
  · rw [← hparams'] at hbound
    exact (hruns env s₄ _ hbound hv').seq fun s' hs' => Stmt.Runs.nop hs'.2

end Cuda

end Imgjit
