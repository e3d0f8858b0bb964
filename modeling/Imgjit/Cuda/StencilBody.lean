import Imgjit.Cuda.Fusion

/-!
# The stencil loops

The loops around a fetch accumulate what the oracle accumulates, in the oracle's order, whatever the
fetch does to get at a neighbour.  A naive kernel calls its tap helper and a tiled one reads the
tile; a baked kernel loops to a literal and a parameterized one to an argument.  The loops are the
same in all four, so what they need of the fetch and of the bounds is made a hypothesis.

**The fetch.**  `Fetches`: at every offset of the window the fetch leaves the neighbour's samples in
`t`, and nothing else changed that the loops rely on (`LoopFrame`).

**The two loops.**  `windowLoops_runs` is the rule for a loop over rows around a loop over columns,
with an accumulator that follows a fold; both stencils are instances of it.

**The two stencils.**  `Weighs` and `HasCoefficients` say that the weights, or the two coefficient
tables, are there.  `gaussianLoops_runs` and `sobelLoops_runs` are the loops, and
`emitStencilBody_spec` says that the body then leaves the oracle's stencil sample in `v`.
-/

namespace Imgjit

namespace Cuda

/-- The variables the loops write. -/
def scratchInts : List IntVar := [.dy, .dx, .k]

/-- The float variables that a stencil's body may write to. -/
def scratchFloats : List FloatVar := [.t, .acc, .gx, .gy, .w]

/-- Wherever the loops stand, the fetch yields the tap at the current offset. -/
def Fetches (env : Env) (colors : ℕ) (fetch : Stmt) (radius : ℤ) (tap : ℤ → ℤ → ℕ → ℚ)
    (s : ThreadState) : Prop :=
  ∀ s', Frame scratchInts scratchFloats s s' →
    (-radius ≤ s'.ints .dx ∧ s'.ints .dx ≤ radius) → (-radius ≤ s'.ints .dy ∧ s'.ints .dy ≤ radius) →
    fetch.Runs env s' fun s'' => Frame [] [.t] s' s''
      ∧ s''.floats .t = cells colors (tap (s'.ints .dx) (s'.ints .dy))

/-- Frames of the loops. -/
abbrev LoopFrame := Frame scratchInts scratchFloats

/-! ## The two loops over a window -/

/-- The offsets of a window. -/
def window (radius : ℤ) : List ℤ := Cpu.loopValues (-radius) radius

lemma mem_window {radius value : ℤ} : value ∈ window radius ↔ -radius ≤ value ∧ value ≤ radius :=
  Cpu.mem_loopValues

/-- **The loops over a window** fold over its offsets, row by row, when one turn of the body
performs one step of the fold on what the registers represent. -/
theorem windowLoops_runs {σ : Type} {env : Env} {s : ThreadState} (radius : ℤ)
    {first last : IntExpr} {body : Stmt} (represents : σ → (FloatVar → List (Option ℚ)) → Prop)
    (step : σ → ℤ → ℤ → σ) (start : σ)
    (hfirst : ∀ s', LoopFrame s s' → first.eval env s'.ints = -radius)
    (hlast : ∀ s', LoopFrame s s' → last.eval env s'.ints = radius)
    (hstart : represents start s.floats)
    (hbody : ∀ value s', LoopFrame s s' → represents value s'.floats →
      s'.ints .dx ∈ window radius → s'.ints .dy ∈ window radius →
      body.Runs env s' fun s'' => LoopFrame s s'' ∧ s''.ints .dy = s'.ints .dy
        ∧ represents (step value (s'.ints .dy) (s'.ints .dx)) s''.floats) :
    (Stmt.forUpTo .dy first last (.forUpTo .dx first last body)).Runs env s fun s' =>
      LoopFrame s s' ∧ represents
        ((window radius).foldl (fun value dy =>
          (window radius).foldl (fun value dx => step value dy dx) value) start) s'.floats := by
  have hwindow : ∀ s', LoopFrame s s' →
      Cpu.loopValues (first.eval env s'.ints) (last.eval env s'.ints) = window radius := by
    intro s' hframe
    rw [hfirst s' hframe, hlast s' hframe, window]
  have houter := hwindow s (Frame.refl s)
  have hloop := @Stmt.Runs.forUpTo env s .dy first last (.forUpTo .dx first last body)
    (fun done s' => LoopFrame s s' ∧ represents
      (done.foldl (fun value dy =>
        (window radius).foldl (fun value dx => step value dy dx) value) start) s'.floats)
    ⟨Frame.refl s, hstart⟩ fun done dy rest s₁ hsplit hs₁ => ?_
  · rwa [houter] at hloop
  -- One row.
  rcases hs₁ with ⟨hframe₁, hvalue₁⟩
  have hdy : dy ∈ window radius := by
    rw [← houter, hsplit]
    simp
  set value := done.foldl (fun value dy =>
    (window radius).foldl (fun value dx => step value dy dx) value) start with hdef
  have hframe₂ : LoopFrame s (s₁.setInt .dy dy) :=
    hframe₁.trans (Frame.setInt _ _ (by simp [scratchInts]))
  have hinner := hwindow _ hframe₂
  have hrow := @Stmt.Runs.forUpTo env (s₁.setInt .dy dy) .dx first last body
    (fun done s' => (LoopFrame s s' ∧ s'.ints .dy = dy)
      ∧ represents (done.foldl (fun value dx => step value dy dx) value) s'.floats)
    ⟨⟨hframe₂, setInt_ints_self _ _ _⟩, hvalue₁⟩ fun done' dx rest' s₃ hsplit' hs₃ => ?_
  · rw [hinner] at hrow
    refine hrow.mono fun s' hs' => ⟨hs'.1.1, ?_⟩
    rw [List.foldl_append]
    exact hs'.2
  · obtain ⟨⟨hframe₃, hdy₃⟩, hvalue₃⟩ := hs₃
    have hdx : dx ∈ window radius := by
      rw [← hinner, hsplit']
      simp
    have hdy₄ : (s₃.setInt .dx dx).ints .dy = dy := by
      rw [setInt_ints_of_ne _ _ (by decide), hdy₃]
    refine (hbody _ (s₃.setInt .dx dx)
      (hframe₃.trans (Frame.setInt _ _ (by simp [scratchInts]))) hvalue₃
      (by rwa [setInt_ints_self]) (by rwa [hdy₄])).mono fun s' hs' => ?_
    rcases hs' with ⟨hframe', hdy', hvalue'⟩
    rw [hdy₄, setInt_ints_self] at hvalue'
    refine ⟨⟨hframe', hdy'.trans hdy₄⟩, ?_⟩
    rw [List.foldl_append]
    exact hvalue'

/-- Folding functions is folding at each argument. -/
lemma foldl_apply {α ι σ : Type} (step : ι → σ → α → σ) (l : List α) (start : ι → σ) (i : ι) :
    l.foldl (fun values a i => step i (values i) a) start i = l.foldl (step i) (start i) := by
  induction l generalizing start with
  | nil => rfl
  | cons a l ih => rw [List.foldl_cons, ih, List.foldl_cons]

/-- The sums of all colours are accumulated at once. -/
lemma foldl_window_apply {ι σ : Type} (step : ι → σ → ℤ → ℤ → σ) (rows columns : List ℤ)
    (start : ι → σ) (i : ι) :
    rows.foldl (fun values dy =>
        columns.foldl (fun values dx i => step i (values i) dy dx) values) start i
      = rows.foldl (fun value dy => columns.foldl (fun value dx => step i value dy dx) value)
        (start i) := by
  induction rows generalizing start with
  | nil => rfl
  | cons dy rows ih =>
      rw [List.foldl_cons, ih, List.foldl_cons,
        foldl_apply (fun i value dx => step i value dy dx) columns start i]

/-! ## Gaussian -/

section Gaussian

variable {env : Env} {colors : ℕ} {fetch : Stmt} {tap : ℤ → ℤ → ℕ → ℚ} {s : ThreadState}
  {radius : ℤ} {r : IntExpr} {weights : List ℚ} {table : Table}

/-- The radius expression and the weights of a gaussian, as its loops read them. -/
structure Weighs (env : Env) (radius : ℤ) (r : IntExpr) (weights : List ℚ) (table : Table)
    (s : ThreadState) : Prop where
  radius_eq : ∀ s', Frame scratchInts scratchFloats s s' → r.eval env s'.ints = radius
  weights_eq : ∀ k : ℤ, -radius ≤ k → k ≤ radius →
    atIndex (env.table table) (k + radius) = some (weights.getD (k + radius).toNat 0)

/-- One row of the oracle's accumulation. -/
def gaussianRow (weights : List ℚ) (radius : ℤ) (tap : ℤ → ℤ → ℚ) (dy : ℤ) (sum : ℚ) (dx : ℤ) : ℚ :=
  sum + weights.getD (dy + radius).toNat 0 * weights.getD (dx + radius).toNat 0 * tap dx dy

lemma gaussianSum_eq (weights : List ℚ) (radius : ℤ) (tap : ℤ → ℤ → ℚ) :
    Cpu.gaussianSum weights radius tap = (Cpu.loopValues (-radius) radius).foldl (fun sum dy =>
      (Cpu.loopValues (-radius) radius).foldl (gaussianRow weights radius tap dy) sum) 0 := rfl

/-- One tap of a gaussian. -/
lemma gaussianTap_runs (hfetch : Fetches env colors fetch radius tap s)
    (hweighs : Weighs env radius r weights table s) {s' : ThreadState} {sums : ℕ → ℚ}
    (hframe : LoopFrame s s') (hacc : s'.floats .acc = cells colors sums)
    (hdx : -radius ≤ s'.ints .dx ∧ s'.ints .dx ≤ radius)
    (hdy : -radius ≤ s'.ints .dy ∧ s'.ints .dy ≤ radius) :
    (Stmt.all
      [fetch,
       .float .w (.mul (.table table (.add (.var .dy) r)) (.table table (.add (.var .dx) r))),
       .forColors colors fun c => .accumulate .acc c (.mul (.scalar .w) (.cell .t c))]).Runs env s'
      fun s'' => LoopFrame s' s'' ∧ s''.ints = s'.ints
        ∧ s''.floats .acc = cells colors fun c =>
          gaussianRow weights radius (fun dx dy => tap dx dy c) (s'.ints .dy) (sums c)
            (s'.ints .dx) := by
  refine (hfetch s' hframe hdx hdy).seq fun s₁ hs₁ => ?_
  rcases hs₁ with ⟨hframe₁, ht⟩
  have hints₁ : s₁.ints = s'.ints := funext fun name => hframe₁.ints name (by simp)
  have hloop₁ : LoopFrame s' s₁ := hframe₁.mono (List.nil_subset _) (by simp [scratchFloats])
  have hr : r.eval env s'.ints = radius := hweighs.radius_eq s' hframe
  set w := weights.getD (s'.ints .dy + radius).toNat 0
    * weights.getD (s'.ints .dx + radius).toNat 0 with hw
  have hwvalue : (FloatExpr.mul (.table table (.add (.var .dy) r))
      (.table table (.add (.var .dx) r))).eval env s₁ = some w := by
    simp only [FloatExpr.eval, IntExpr.eval, hr, hints₁, hweighs.weights_eq _ hdy.1 hdy.2,
      hweighs.weights_eq _ hdx.1 hdx.2, Option.bind_eq_bind, Option.bind_some, hw]
  refine Stmt.Runs.via (fun s₂ => s₂ = s₁.setArray .w [some w]) (Stmt.Runs.float hwvalue rfl)
    fun s₂ hs₂ => ?_
  have hframe₂ : LoopFrame s' s₂ := by
    rw [hs₂]
    exact hloop₁.trans (Frame.setArray _ _ (by simp [scratchFloats]))
  have hacc₂ : s₂.floats .acc = cells colors sums := by
    rw [hs₂, ← hacc, ← hframe₁.floats .acc (by simp)]
    exact setArray_floats_of_ne _ _ (by decide)
  have ht₂ : s₂.floats .t = cells colors (tap (s'.ints .dx) (s'.ints .dy)) := by
    rw [hs₂, ← ht]
    exact setArray_floats_of_ne _ _ (by decide)
  have hw₂ : s₂.cell .w 0 = some w := by
    rw [hs₂]
    simp [ThreadState.cell]
  have hints₂ : s₂.ints = s'.ints := by rw [hs₂]; exact hints₁
  let new : ℕ → ℚ := fun c => sums c + w * tap (s'.ints .dx) (s'.ints .dy) c
  refine Stmt.Runs.via (fun s₃ => LoopFrame s' s₃ ∧ s₃.ints = s'.ints
    ∧ s₃.floats .acc = cells colors new) ?_ fun s₃ hs₃ => Stmt.Runs.nop hs₃
  refine (Stmt.Runs.forColors (fun c s₃ => Frame [] [.acc] s₂ s₃
      ∧ s₃.floats .acc = overwritten c new (cells colors sums))
    ⟨Frame.refl _, by rw [hacc₂]; simp [overwritten, cells]⟩
    fun c hc s₃ hs₃ => ?_).mono fun s₃ hs₃ => ?_
  · rcases hs₃ with ⟨hframe₃, hacc₃⟩
    have hwkeep : s₃.cell .w 0 = some w := by
      rw [ThreadState.cell, hframe₃.floats .w (by simp)]
      exact hw₂
    have htkeep : s₃.cell .t c = some (tap (s'.ints .dx) (s'.ints .dy) c) :=
      cell_of_cells ((hframe₃.floats .t (by simp)).trans ht₂) hc
    refine Stmt.Runs.accumulateCell hacc₃ hc ?_ rfl fun s₄ hframe₄ hacc₄ =>
      ⟨hframe₃.trans hframe₄, hacc₄⟩
    simp only [FloatExpr.eval, hwkeep, htkeep, Option.bind_eq_bind, Option.bind_some]
  · rcases hs₃ with ⟨hframe₃, hacc₃⟩
    refine ⟨hframe₂.trans (hframe₃.mono (List.nil_subset _) (by simp [scratchFloats])), ?_, ?_⟩
    · rw [← hints₂]
      funext name
      exact hframe₃.ints name (by simp)
    · have hall := overwritten_all new (cells colors sums)
      rw [length_cells] at hall
      rw [hacc₃, hall]

/-- The outcome of a stencil body. -/
def StencilDone (colors : ℕ) (pixel : ℕ → UInt8) (s s' : ThreadState) : Prop :=
  Frame scratchInts (.v :: scratchFloats) s s' ∧ s'.floats .v = registers colors pixel

lemma replicate_zero (colors : ℕ) :
    List.replicate colors (some (0 : ℚ)) = cells colors fun _ => 0 := by
  simp [cells, List.map_const']

/-- The result of an array of per-colour values, quantized. -/
lemma quantizeColors_runs {value : ℕ → FloatExpr} (results : ℕ → ℚ)
    (hv : (s.floats .v).length = colors)
    (hvalue : ∀ c < colors, ∀ s', Frame [] [.v] s s' → (value c).eval env s' = some (results c)) :
    (Stmt.forColors colors fun c => .set .v c (.quantize (value c))).Runs env s fun s' =>
      Frame [] [.v] s s' ∧ s'.floats .v
        = registers colors fun c => Cpu.storeSample (results c) := by
  refine Stmt.Runs.setColors
    (fun c => Cpu.loadSample (Cpu.storeSample (results c))) hv
    (fun c hc s' hframe _ => ?_) fun s' hframe hcells => ⟨hframe, hcells⟩
  rw [FloatExpr.eval, hvalue c hc s' hframe, Option.map_some, imgjitQuantize_eq]

/-- **The gaussian loops compute the oracle's sum**, and quantize it. -/
theorem gaussianLoops_runs (hfetch : Fetches env colors fetch radius tap s)
    (hweighs : Weighs env radius r weights table s) (hv : (s.floats .v).length = colors) :
    (Stmt.all
      [.array .acc colors (some 0),
       .forUpTo .dy (.neg r) r (.forUpTo .dx (.neg r) r (.all
        [fetch,
         .float .w (.mul (.table table (.add (.var .dy) r)) (.table table (.add (.var .dx) r))),
         .forColors colors fun c => .accumulate .acc c (.mul (.scalar .w) (.cell .t c))])),
       .forColors colors fun c => .set .v c (.quantize (.cell .acc c))]).Runs env s fun s' =>
      StencilDone colors (fun c =>
        Cpu.storeSample (Cpu.gaussianSum weights radius fun dx dy => tap dx dy c)) s s' := by
  refine Stmt.Runs.via (fun s₁ => s₁ = s.setArray .acc (cells colors fun _ => 0))
    (Stmt.Runs.array (by rw [replicate_zero])) fun s₁ hs₁ => ?_
  have hframe₁ : LoopFrame s s₁ := by
    rw [hs₁]
    exact Frame.setArray _ _ (by simp [scratchFloats])
  refine Stmt.Runs.seq (windowLoops_runs radius
    (fun sums floats => floats .acc = cells colors sums)
    (fun sums dy dx c => gaussianRow weights radius (fun dx dy => tap dx dy c) dy (sums c) dx)
    (fun _ => 0) (fun s' hframe => ?_)
    (fun s' hframe => hweighs.radius_eq s' (hframe₁.trans hframe))
    (by rw [hs₁, setArray_floats_self]) fun sums s' hframe hacc hdx hdy => ?_)
    fun s' hs' => ?_
  · rw [IntExpr.eval, hweighs.radius_eq s' (hframe₁.trans hframe)]
  · refine (gaussianTap_runs hfetch hweighs (hframe₁.trans hframe) hacc (mem_window.mp hdx)
      (mem_window.mp hdy)).mono fun s'' hs'' => ?_
    rcases hs'' with ⟨hframe', hints, hacc'⟩
    exact ⟨hframe.trans hframe', by rw [hints], hacc'⟩
  · rcases hs' with ⟨hframe, hacc⟩
    have hloop : LoopFrame s s' := hframe₁.trans hframe
    refine Stmt.Runs.via (StencilDone colors _ s) ?_ fun s'' hs'' => Stmt.Runs.nop hs''
    refine (quantizeColors_runs (fun c =>
      Cpu.gaussianSum weights radius fun dx dy => tap dx dy c) ?_
      fun c hc s'' hframe' => ?_).mono fun s'' hs'' => ⟨?_, hs''.2⟩
    · rw [hloop.floats .v (by simp [scratchFloats]), hv]
    · have hkeep : s''.floats .acc = s'.floats .acc := hframe'.floats .acc (by simp)
      rw [FloatExpr.eval, cell_of_cells (hkeep.trans hacc) hc, gaussianSum_eq]
      refine congrArg some ?_
      exact foldl_window_apply (fun c sum dy dx =>
        gaussianRow weights radius (fun dx dy => tap dx dy c) dy sum dx) (window radius)
        (window radius) (fun _ => 0) c
    · exact (hloop.mono (List.Subset.refl _) (List.subset_cons_self _ _)).trans
        (hs''.1.mono (List.nil_subset _) (by simp))

end Gaussian

/-! ## Sobel -/

section Sobel

variable {env : Env} {colors : ℕ} {fetch : Stmt} {tap : ℤ → ℤ → ℕ → ℚ} {s : ThreadState}

/-- One tap of the oracle's two accumulators. -/
def sobelStep (tap : ℤ → ℤ → ℚ) (sums : ℚ × ℚ) (dy dx : ℤ) : ℚ × ℚ :=
  let k := ((dy + 1) * 3 + (dx + 1)).toNat
  (sums.1 + Cpu.kGx.getD k 0 * tap dx dy, sums.2 + Cpu.kGy.getD k 0 * tap dx dy)

/-- The oracle's two loops add up these taps. -/
lemma sobelSums_eq_steps (tap : ℤ → ℤ → ℚ) :
    Cpu.sobelSums tap = (window 1).foldl (fun sums dy =>
      (window 1).foldl (fun sums dx => sobelStep tap sums dy dx) sums) (0, 0) := rfl

/-- The coefficient tables of a sobel stage. -/
structure HasCoefficients (env : Env) : Prop where
  gx : env.table .gx = Cpu.kGx
  gy : env.table .gy = Cpu.kGy

/-- The index of a coefficient is inside its table. -/
lemma atIndex_coefficient {l : List ℚ} (hl : l.length = 9) {dy dx : ℤ} (hdy : dy ∈ window 1)
    (hdx : dx ∈ window 1) :
    atIndex l ((dy + 1) * 3 + (dx + 1)) = some (l.getD ((dy + 1) * 3 + (dx + 1)).toNat 0) := by
  rw [mem_window] at hdy hdx
  rw [atIndex, if_pos (by omega), List.getD_eq_getElem _ _ (by omega),
    List.getElem?_eq_getElem (by omega)]

/-- One tap of a sobel. -/
lemma sobelTap_runs (hfetch : Fetches env colors fetch 1 tap s) (htables : HasCoefficients env)
    {s' : ThreadState} {sums : ℕ → ℚ × ℚ} (hframe : LoopFrame s s')
    (hgx : s'.floats .gx = cells colors fun c => (sums c).1)
    (hgy : s'.floats .gy = cells colors fun c => (sums c).2)
    (hdx : s'.ints .dx ∈ window 1) (hdy : s'.ints .dy ∈ window 1) :
    (Stmt.all
      [fetch,
       .int .k (.add (.mul (.add (.var .dy) (.lit 1)) (.lit 3)) (.add (.var .dx) (.lit 1))),
       .forColors colors fun c => .seq
        (.accumulate .gx c (.mul (.table .gx (.var .k)) (.cell .t c)))
        (.accumulate .gy c (.mul (.table .gy (.var .k)) (.cell .t c)))]).Runs env s'
      fun s'' => LoopFrame s' s'' ∧ s''.ints .dy = s'.ints .dy
        ∧ s''.floats .gx = cells colors (fun c =>
          (sobelStep (fun dx dy => tap dx dy c) (sums c) (s'.ints .dy) (s'.ints .dx)).1)
        ∧ s''.floats .gy = cells colors (fun c =>
          (sobelStep (fun dx dy => tap dx dy c) (sums c) (s'.ints .dy) (s'.ints .dx)).2) := by
  refine (hfetch s' hframe (mem_window.mp hdx) (mem_window.mp hdy)).seq
    fun s₁ hs₁ => ?_
  rcases hs₁ with ⟨hframe₁, ht⟩
  set k := (s'.ints .dy + 1) * 3 + (s'.ints .dx + 1) with hk
  refine Stmt.Runs.via (fun s₂ => s₂ = s₁.setInt .k k) (Stmt.Runs.int ?_) fun s₂ hs₂ => ?_
  · simp only [IntExpr.eval, hframe₁.ints .dy (by simp), hframe₁.ints .dx (by simp), hk]
  have hframe₂ : LoopFrame s' s₂ := by
    rw [hs₂]
    exact (hframe₁.mono (List.nil_subset _) (by simp [scratchFloats])).trans
      (Frame.setInt _ _ (by simp [scratchInts]))
  have hfloats₂ : s₂.floats = s₁.floats := by rw [hs₂]; rfl
  have hk₂ : s₂.ints .k = k := by rw [hs₂, setInt_ints_self]
  have hdy₂ : s₂.ints .dy = s'.ints .dy := by
    rw [hs₂, setInt_ints_of_ne _ _ (by decide), hframe₁.ints .dy (by simp)]
  let new : ℕ → ℚ × ℚ := fun c =>
    sobelStep (fun dx dy => tap dx dy c) (sums c) (s'.ints .dy) (s'.ints .dx)
  refine Stmt.Runs.via (fun s₃ => LoopFrame s' s₃ ∧ s₃.ints .dy = s'.ints .dy
    ∧ s₃.floats .gx = cells colors (fun c => (new c).1)
    ∧ s₃.floats .gy = cells colors (fun c => (new c).2)) ?_ fun s₃ hs₃ => Stmt.Runs.nop hs₃
  refine (Stmt.Runs.forColors (fun c s₃ => Frame [] [.gx, .gy] s₂ s₃
      ∧ s₃.floats .gx = overwritten c (fun c => (new c).1) (cells colors fun c => (sums c).1)
      ∧ s₃.floats .gy = overwritten c (fun c => (new c).2) (cells colors fun c => (sums c).2))
    ⟨Frame.refl _, ?_, ?_⟩ fun c hc s₃ hs₃ => ?_).mono fun s₃ hs₃ => ?_
  · rw [hfloats₂, hframe₁.floats .gx (by simp), hgx]
    simp [overwritten, cells]
  · rw [hfloats₂, hframe₁.floats .gy (by simp), hgy]
    simp [overwritten, cells]
  · -- The two accumulations of one colour.
    rcases hs₃ with ⟨hframe₃, hgx₃, hgy₃⟩
    have hvalue : ∀ (name : Table) (l : List ℚ) (s₄ : ThreadState), env.table name = l →
        l.length = 9 → Frame [] [.gx, .gy] s₂ s₄ →
        (FloatExpr.mul (.table name (.var .k)) (.cell .t c)).eval env s₄
          = some (l.getD k.toNat 0 * tap (s'.ints .dx) (s'.ints .dy) c) := by
      intro name l s₄ htable hl hframe₄
      have htkeep : s₄.cell .t c = some (tap (s'.ints .dx) (s'.ints .dy) c) := by
        refine cell_of_cells ?_ hc
        rw [hframe₄.floats .t (by simp), hfloats₂, ht]
      simp only [FloatExpr.eval, IntExpr.eval, hframe₄.ints .k (by simp), hk₂, htable, htkeep,
        Option.bind_eq_bind, hk, atIndex_coefficient hl hdy hdx, Option.bind_some]
    refine Stmt.Runs.via (fun s₄ => Frame [] [.gx, .gy] s₂ s₄
      ∧ s₄.floats .gx = overwritten (c + 1) (fun c => (new c).1) (cells colors fun c => (sums c).1)
      ∧ s₄.floats .gy = overwritten c (fun c => (new c).2) (cells colors fun c => (sums c).2))
      (Stmt.Runs.accumulateCell hgx₃ hc (hvalue .gx _ s₃ htables.gx rfl hframe₃) rfl
        fun s₄ hframe₄ hgx₄ => ⟨hframe₃.trans (hframe₄.mono (List.nil_subset _) (by simp)), hgx₄,
          (hframe₄.floats .gy (by simp)).trans hgy₃⟩) fun s₄ hs₄ => ?_
    rcases hs₄ with ⟨hframe₄, hgx₄, hgy₄⟩
    exact Stmt.Runs.accumulateCell hgy₄ hc (hvalue .gy _ s₄ htables.gy rfl hframe₄) rfl
      fun s₅ hframe₅ hgy₅ => ⟨hframe₄.trans (hframe₅.mono (List.nil_subset _) (by simp)),
        (hframe₅.floats .gx (by simp)).trans hgx₄, hgy₅⟩
  · rcases hs₃ with ⟨hframe₃, hgx₃, hgy₃⟩
    refine ⟨hframe₂.trans (hframe₃.mono (List.nil_subset _) (by simp [scratchFloats])), ?_, ?_, ?_⟩
    · rw [hframe₃.ints .dy (by simp), hdy₂]
    · have hall := overwritten_all (fun c => (new c).1) (cells colors fun c => (sums c).1)
      rw [length_cells] at hall
      rw [hgx₃, hall]
    · have hall := overwritten_all (fun c => (new c).2) (cells colors fun c => (sums c).2)
      rw [length_cells] at hall
      rw [hgy₃, hall]

/-- **The sobel loops compute the oracle's two sums**, and quantize their magnitude. -/
theorem sobelLoops_runs (hfetch : Fetches env colors fetch 1 tap s) (htables : HasCoefficients env)
    (hv : (s.floats .v).length = colors) :
    (Stmt.all
      [.array .gx colors (some 0),
       .array .gy colors (some 0),
       .forUpTo .dy (.lit (-1)) (.lit 1) (.forUpTo .dx (.lit (-1)) (.lit 1) (.all
        [fetch,
         .int .k (.add (.mul (.add (.var .dy) (.lit 1)) (.lit 3)) (.add (.var .dx) (.lit 1))),
         .forColors colors fun c => .seq
          (.accumulate .gx c (.mul (.table .gx (.var .k)) (.cell .t c)))
          (.accumulate .gy c (.mul (.table .gy (.var .k)) (.cell .t c)))])),
       .forColors colors fun c => .set .v c (.quantize (.sqrtf
        (.add (.mul (.cell .gx c) (.cell .gx c)) (.mul (.cell .gy c) (.cell .gy c)))))]).Runs env s
      fun s' => StencilDone colors (fun c =>
        let sums := Cpu.sobelSums fun dx dy => tap dx dy c
        Cpu.storeSample (env.cmath.sqrt (sums.1 * sums.1 + sums.2 * sums.2))) s s' := by
  refine Stmt.Runs.via (fun s₁ => s₁ = s.setArray .gx (cells colors fun _ => 0))
    (Stmt.Runs.array (by rw [replicate_zero])) fun s₁ hs₁ => ?_
  refine Stmt.Runs.via (fun s₂ => s₂ = s₁.setArray .gy (cells colors fun _ => 0))
    (Stmt.Runs.array (by rw [replicate_zero])) fun s₂ hs₂ => ?_
  have hframe₂ : LoopFrame s s₂ := by
    rw [hs₂, hs₁]
    exact (Frame.setArray _ _ (by simp [scratchFloats])).trans
      (Frame.setArray _ _ (by simp [scratchFloats]))
  refine Stmt.Runs.seq (windowLoops_runs 1
    (fun (sums : ℕ → ℚ × ℚ) floats => floats .gx = cells colors (fun c => (sums c).1)
      ∧ floats .gy = cells colors (fun c => (sums c).2))
    (fun sums dy dx c => sobelStep (fun dx dy => tap dx dy c) (sums c) dy dx)
    (fun _ => (0, 0)) (fun s' _ => rfl) (fun s' _ => rfl) ⟨?_, ?_⟩
    fun sums s' hframe hsums hdx hdy => ?_) fun s' hs' => ?_
  · rw [hs₂, setArray_floats_of_ne _ _ (by decide), hs₁, setArray_floats_self]
  · rw [hs₂, setArray_floats_self]
  · exact (sobelTap_runs hfetch htables (hframe₂.trans hframe) hsums.1 hsums.2 hdx hdy).mono
      fun s'' hs'' => ⟨hframe.trans hs''.1, hs''.2⟩
  · rcases hs' with ⟨hframe, hgx, hgy⟩
    have hloop : LoopFrame s s' := hframe₂.trans hframe
    have hsums := fun c => foldl_window_apply (fun c sums dy dx =>
      sobelStep (fun dx dy => tap dx dy c) sums dy dx) (window 1) (window 1) (fun _ => (0, 0)) c
    refine Stmt.Runs.via (StencilDone colors _ s) ?_ fun s'' hs'' => Stmt.Runs.nop hs''
    refine (quantizeColors_runs (fun c =>
      let sums := Cpu.sobelSums fun dx dy => tap dx dy c
      env.cmath.sqrt (sums.1 * sums.1 + sums.2 * sums.2)) ?_
      fun c hc s'' hframe' => ?_).mono fun s'' hs'' => ⟨?_, hs''.2⟩
    · rw [hloop.floats .v (by simp [scratchFloats]), hv]
    · have hgxkeep := (hframe'.floats .gx (by simp)).trans hgx
      have hgykeep := (hframe'.floats .gy (by simp)).trans hgy
      simp only [FloatExpr.eval, cell_of_cells hgxkeep hc, cell_of_cells hgykeep hc,
        Option.bind_eq_bind, Option.bind_some, Option.map_some, hsums c]
      rw [sobelSums_eq_steps]
    · exact (hloop.mono (List.Subset.refl _) (List.subset_cons_self _ _)).trans
        (hs''.1.mono (List.nil_subset _) (by simp))

end Sobel

/-! ## The body -/

/-- The radius of a stencil's window. -/
def stencilRadius (op : Op) : ℤ := if op.kind = .kSobel then 1 else Cpu.gaussianRadius op.param

/-- The constants a stencil reads are there. -/
structure StencilReady (env : Env) (op : Op) (radius : ℤ) (runtimeRadius : Bool)
    (s : ThreadState) : Prop where
  gaussian : op.kind = .kGaussian → Weighs env (Cpu.gaussianRadius op.param)
    (radiusText radius runtimeRadius) (Cpu.gaussianWeights1d env.cmath op.param)
    (weightsText runtimeRadius) s
  sobel : op.kind = .kSobel → HasCoefficients env

/-- **The body leaves the oracle's stencil sample in `v`**, whatever the fetch does to get at the
taps. -/
theorem emitStencilBody_spec {env : Env} {op : Op} {radius : ℤ} {colors : ℕ}
    {tiled runtimeRadius : Bool} {tapArgs : List ℕ} {tap : ℤ → ℤ → ℕ → ℚ} {s : ThreadState}
    (hstencil : (opSpec op.kind).isStencil = true) (hv : (s.floats .v).length = colors)
    (hcoordinates : (emitCoordinates tiled (radiusText radius runtimeRadius)).Runs env s fun s₁ =>
      Frame [.lx, .ly] [] s s₁ ∧ StencilReady env op radius runtimeRadius s₁
        ∧ Fetches env colors (emitFetch colors tiled tapArgs) (stencilRadius op) tap s₁) :
    (emitStencilBody op radius colors tiled runtimeRadius tapArgs).Runs env s fun s' =>
      Frame (.lx :: .ly :: scratchInts) (.v :: scratchFloats) s s' ∧ s'.floats .v
        = registers colors fun c => Cpu.stencilSample env.cmath op fun dx dy => tap dx dy c := by
  have hwiden : ∀ {pixel : ℕ → UInt8} {s₁ s' : ThreadState}, Frame [.lx, .ly] [] s s₁ →
      StencilDone colors pixel s₁ s' →
      Frame (.lx :: .ly :: scratchInts) (.v :: scratchFloats) s s'
        ∧ s'.floats .v = registers colors pixel := by
    intro pixel s₁ s' hframe hdone
    exact ⟨(hframe.mono (by simp) (List.nil_subset _)).trans
      (hdone.1.mono (by simp [scratchInts]) (List.Subset.refl _)), hdone.2⟩
  have hkept : ∀ {s₁ : ThreadState}, Frame [.lx, .ly] [] s s₁ → (s₁.floats .v).length = colors := by
    intro s₁ hframe
    rw [hframe.floats .v (by simp)]
    exact hv
  obtain ⟨kind, param⟩ := op
  cases kind with
  | kGaussian =>
      rw [emitStencilBody, if_pos rfl]
      refine hcoordinates.seq fun s₁ hs₁ => ?_
      rcases hs₁ with ⟨hframe, hready, hfetch⟩
      exact (gaussianLoops_runs hfetch (hready.gaussian rfl) (hkept hframe)).mono
        fun s' hdone => hwiden hframe hdone
  | kSobel =>
      rw [emitStencilBody, if_neg (by simp)]
      refine hcoordinates.seq fun s₁ hs₁ => ?_
      rcases hs₁ with ⟨hframe, hready, hfetch⟩
      exact (sobelLoops_runs hfetch (hready.sobel rfl) (hkept hframe)).mono
        fun s' hdone => hwiden hframe hdone
  | _ => cases hstencil

end Cuda

end Imgjit
