import Imgjit.Cuda.StageRanges

/-!
# Indexable frames

The frames whose own threads stay in range, for every chain and in either variant of every kernel.
This is the exact condition under which no `int` of a kernel overflows and no index leaves its
buffer, and it is weaker than one might expect.  A stencil of radius 12 in tiles of 32 pixels
reaches 43 columns beyond the frame, but the cells there belong to threads beside the frame: near `2
^ 31` a frame is a single row or a single column, and of the cells that its own threads stage none
lies so far out.

* `Indexable` — the bounds: `2 ^ 31` samples, and 37 columns and 38 rows are left free.
* `apronColumns_clear`, `apronRows_clear` — the cells near `2 ^ 31`, tile by tile and radius by
  radius.  There are finitely many of both, and the claim is decided for each.
* `Indexable.cells_fit` — so all cells of a thread of the frame are in range.
* `Indexable.stage_within` — and with them all its accesses, through the results on the parts of a
  kernel in `StageRanges.lean`.

That the bounds cannot be relaxed is shown in `IntOverflow.lean`.
-/

namespace Imgjit

namespace Cuda

/-- The sizes that the kernels can index.  The number of samples may be one more than an `int`
holds, since the last index is one less.  The apron of a tile reaches over the right and the lower
edge of the frame. -/
structure Indexable (width height channels : ℕ) : Prop where
  samples : width * height * channels ≤ 2 ^ 31
  columns : width ≤ 2 ^ 31 - 37
  rows : height ≤ 2 ^ 31 - 38

/-! ## Cells near the last column and row -/

/-- A block that starts `38 + d` columns before `2 ^ 31`, and the cells that the thread at `(s, 0)`
stages: none is beyond. -/
lemma apronColumns_clear : ∀ t d : Fin 6,
    (38 + d.val) % (27 + t.val) = 2 ^ 31 % (27 + t.val) →
    ∀ s : Fin 6, s.val ≤ d.val → ∀ (r : Fin 12) (j : Fin 5),
    s.val + j * ((27 + t) * (27 + t)) < (27 + t + 2 * (1 + r)) * (27 + t + 2 * (1 + r.val)) →
    (s.val + j * ((27 + t) * (27 + t))) % (27 + t + 2 * (1 + r)) < 38 + d + (1 + r.val) := by
  decide +kernel

/-- The same for rows: a block that starts `39 + d` rows before, and the thread at `(0, s)`. -/
lemma apronRows_clear : ∀ (t : Fin 6) (d : Fin 5),
    (39 + d.val) % (27 + t.val) = 2 ^ 31 % (27 + t.val) →
    ∀ s : Fin 5, s.val ≤ d.val → ∀ (r : Fin 12) (j : Fin 5),
    s.val * (27 + t) + j * ((27 + t) * (27 + t))
      < (27 + t + 2 * (1 + r)) * (27 + t + 2 * (1 + r.val)) →
    (s.val * (27 + t) + j * ((27 + t) * (27 + t))) / (27 + t + 2 * (1 + r))
      < 39 + d + (1 + r.val) := by
  decide +kernel

/-- What remains of `2 ^ 31` behind whole blocks. -/
lemma rest_mod {dim blocks rest : ℕ} (h : blocks * dim + rest = 2 ^ 31) :
    rest % dim = 2 ^ 31 % dim := by
  rw [← h, Nat.mul_comm, Nat.mul_add_mod]

/-- The turns of a thread whose number is less than the number of threads. -/
lemma turn_eq {dim k first : ℕ} (hfirst : first < dim * dim)
    (hmod : k % (dim * dim) = first % (dim * dim)) : k = first + k / (dim * dim) * (dim * dim) := by
  rw [Nat.mod_eq_of_lt hfirst] at hmod
  have hdiv := Nat.div_add_mod k (dim * dim)
  rw [hmod, Nat.mul_comm (dim * dim)] at hdiv
  omega

/-- A cell of the tile, before the radius is taken off: where a thread reads for the column. -/
lemma apronColumn_lt {dim radius block thread k : ℕ} (hdim : dim ≤ 32)
    (hradius : 1 ≤ radius ∧ radius ≤ 12) (hthread : thread < dim)
    (hblock : block * dim + thread < 2 ^ 31 - 37) (hk : k < (dim + 2 * radius) * (dim + 2 * radius))
    (hmod : k % (dim * dim) = thread % (dim * dim)) :
    block * dim + k % (dim + 2 * radius) < 2 ^ 31 + radius := by
  by_contra hnot
  have hcell := Nat.mod_lt k (show 0 < dim + 2 * radius by omega)
  have hlarge : 27 ≤ dim := by omega
  have hsquare : 27 * 27 ≤ dim * dim := Nat.mul_le_mul hlarge hlarge
  have hedge : (dim + 2 * radius) * (dim + 2 * radius) ≤ 56 * 56 :=
    Nat.mul_le_mul (by omega) (by omega)
  have hturn := turn_eq (by omega) hmod
  have hturns : k / (dim * dim) < 5 := Nat.div_lt_of_lt_mul (by omega)
  rcases Nat.exists_eq_add_of_le hlarge with ⟨t, rfl⟩
  rcases Nat.exists_eq_add_of_le hradius.1 with ⟨r, rfl⟩
  have hd : ∃ d, block * (27 + t) + (38 + d) = 2 ^ 31 := ⟨2 ^ 31 - 38 - block * (27 + t), by omega⟩
  rcases hd with ⟨d, hd⟩
  have hclear := apronColumns_clear ⟨t, by omega⟩ ⟨d, by omega⟩ (rest_mod hd) ⟨thread, by omega⟩
    (show thread ≤ d by omega) ⟨r, by omega⟩ ⟨k / ((27 + t) * (27 + t)), hturns⟩
  simp only [← hturn] at hclear
  have hcolumn := hclear hk
  omega

/-- The same for the row. -/
lemma apronRow_lt {dim radius block thread k : ℕ} (hdim : dim ≤ 32)
    (hradius : 1 ≤ radius ∧ radius ≤ 12) (hthread : thread < dim)
    (hblock : block * dim + thread < 2 ^ 31 - 38) (hk : k < (dim + 2 * radius) * (dim + 2 * radius))
    (hmod : k % (dim * dim) = thread * dim % (dim * dim)) :
    block * dim + k / (dim + 2 * radius) < 2 ^ 31 + radius := by
  by_contra hnot
  have hcell : k / (dim + 2 * radius) < dim + 2 * radius := Nat.div_lt_of_lt_mul hk
  have hlarge : 27 ≤ dim := by omega
  have hsquare : 27 * 27 ≤ dim * dim := Nat.mul_le_mul hlarge hlarge
  have hedge : (dim + 2 * radius) * (dim + 2 * radius) ≤ 56 * 56 :=
    Nat.mul_le_mul (by omega) (by omega)
  have hturn := turn_eq (Nat.mul_lt_mul_of_pos_right hthread (by omega)) hmod
  have hturns : k / (dim * dim) < 5 := Nat.div_lt_of_lt_mul (by omega)
  rcases Nat.exists_eq_add_of_le hlarge with ⟨t, rfl⟩
  rcases Nat.exists_eq_add_of_le hradius.1 with ⟨r, rfl⟩
  have hd : ∃ d, block * (27 + t) + (39 + d) = 2 ^ 31 := ⟨2 ^ 31 - 39 - block * (27 + t), by omega⟩
  rcases hd with ⟨d, hd⟩
  have hclear := apronRows_clear ⟨t, by omega⟩ ⟨d, by omega⟩ (rest_mod hd) ⟨thread, by omega⟩
    (show thread ≤ d by omega) ⟨r, by omega⟩ ⟨k / ((27 + t) * (27 + t)), hturns⟩
  simp only [← hturn] at hclear
  have hrow := hclear hk
  omega

/-! ## A thread of the frame -/

namespace Indexable

variable {width height channels : ℕ}

lemma sized (h : Indexable width height channels) : Sized width height channels 12 := by
  have hcolumns := h.columns
  have hrows := h.rows
  exact ⟨by omega, h.samples, by omega, by omega⟩

/-- **No cell of a thread is out of range.**  Near `2 ^ 31` the frame is a single row or column, so
the thread is in the first one of its block. -/
theorem cells_fit (hsize : Indexable width height channels) (hchannels : 0 < channels)
    {dim radius : ℕ} {block thread : ℕ × ℕ} (hdim : dim ≤ 32) (hradius : 1 ≤ radius ∧ radius ≤ 12)
    (hthread : thread.1 < dim ∧ thread.2 < dim) (hcolumn : block.1 * dim + thread.1 < width)
    (hrow : block.2 * dim + thread.2 < height) : CellsFit block thread dim radius := by
  have hcolumns := hsize.columns
  have hrows := hsize.rows
  have hpixels : width * height ≤ 2 ^ 31 :=
    (Nat.le_mul_of_pos_right _ hchannels).trans hsize.samples
  intro k hk hmod
  constructor
  · by_cases hwide : width ≤ 2 ^ 31 - 43
    · have hcell := Nat.mod_lt k (show 0 < dim + 2 * radius by omega)
      omega
    have hheight : height < 2 := by
      by_contra htwo
      have hdouble : width * 2 ≤ width * height := Nat.mul_le_mul_left _ (not_lt.mp htwo)
      omega
    have hfirst : thread.2 = 0 := by omega
    rw [hfirst, Nat.zero_mul, Nat.zero_add] at hmod
    exact apronColumn_lt hdim hradius hthread.1 (by omega) hk hmod
  · by_cases htall : height ≤ 2 ^ 31 - 43
    · have hcell : k / (dim + 2 * radius) < dim + 2 * radius := Nat.div_lt_of_lt_mul hk
      omega
    have hwidth : width < 2 := by
      by_contra htwo
      have hdouble : 2 * height ≤ width * height := Nat.mul_le_mul_right _ (not_lt.mp htwo)
      omega
    have hfirst : thread.1 = 0 := by omega
    rw [hfirst, Nat.add_zero] at hmod
    exact apronRow_lt hdim hradius hthread.2 (by omega) hk hmod

/-- **A thread of an indexable frame.** -/
theorem stage_within (hsize : Indexable width height channels)
    (hchannels : 0 < channels ∧ channels ≤ 4) {colors tileSize : ℕ} (hcolors : colors ≤ channels)
    (htile : tileSize ≤ 32) {cmath : CMath} {name : KernelName} {stage : Stage}
    {parameterized : Bool} {code : StageCode} {generated : GeneratedStage}
    (h : emitStage cmath name stage channels colors tileSize parameterized = .ok (code, generated))
    (hnaive : parameterized = true → tileSize = 0) {launch : Launch} {args : BoundArgs}
    {block thread : ℕ × ℕ} (hranges : StageRanges stage code args)
    (hlaunch : LaunchOf launch generated thread width height)
    (hcolumn : block.1 * generated.blockDim + thread.1 < width)
    (hrow : block.2 * generated.blockDim + thread.2 < height) :
    ∀ access ∈ code.touches launch args block thread, access.Fits (width * height * channels) := by
  have hcolumns := hsize.columns
  have hrows := hsize.rows
  have hblock := (emitStage_header h).blockDim
  refine Cuda.stage_within hsize.sized hchannels hcolors htile h hnaive hranges hlaunch
    ⟨by omega, by omega⟩ ⟨by omega, by omega, fun stencil hstencil => ?_,
      fun stencil hstencil htiled => ?_⟩
  · exact (hranges.stageRadius_mem (hranges.stencil stencil hstencil).2).2
  · have hradius := stencilRadius_mem (hranges.stencil stencil hstencil).2
    rw [if_pos ⟨by rw [hstencil]; rfl, htiled⟩] at hblock
    have hinBlock := hlaunch.thread
    rw [hblock] at hcolumn hrow hinBlock
    exact hsize.cells_fit hchannels.1 htile ⟨by omega, by omega⟩ hinBlock hcolumn hrow

end Indexable

end Cuda

end Imgjit
