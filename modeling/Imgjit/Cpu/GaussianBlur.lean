import Imgjit.Cpu.StencilSymmetry
import Mathlib.Algebra.BigOperators.Ring.Finset
import Mathlib.Algebra.BigOperators.Ring.List

/-!
# What the blur does to a picture

`apply_gaussian` is one two-dimensional stencil, weighted by the outer product of a normalised
vector with itself.  Of the vector only two things matter here: its entries are not negative, and
they sum to one.  Everything a user expects of a blur follows from that, and the exponential in the
weights plays no part.

**Any weights.**  `convolve` is the loop of `apply_gaussian` over any vector of weights, and
`applyGaussian_eq_convolve` says that the op is this loop at the weights `gaussianTaps` of a sigma.
`Averaging` are the two properties of the weights; normalising positive numbers gives both.

**An averaging operator.**  `AveragingOperator` is what the two properties do for the picture: every
sample stays within its window, a constant picture stays as it is, and the blur keeps orders,
between pictures as well as along rows and columns.  The sum is an average of the window, which has
each of these properties, and loading, clamping and rounding keep the order of samples.

**One pass or two.**  The source computes the two-dimensional sum, since the generated kernel does,
and says that two passes would be the same filter.  `gaussianSum_two_passes` is that remark: the
stencil is a horizontal pass followed by a vertical one, before anything is rounded.
`applyGaussian_separable` is the same for a whole picture.
-/

namespace Imgjit

namespace Cpu

/-! ## The loop, over any weights -/

/-- The sample under a tap. -/
def windowSample (input : Image) (x y c : ℕ) (dx dy : ℤ) : UInt8 :=
  input.sampleAt (clampCoordinate (x + dx) input.width) (clampCoordinate (y + dy) input.height) c

/-- The triple loop of `apply_gaussian`, and its `copy_alpha`. -/
def convolve (weights : List ℚ) (radius : ℤ) (input : Image) : Image :=
  copyAlpha input <| forColors input fun x y c =>
    storeSample (gaussianSum weights radius (clampedTap input x y c))

/-- The second loop of `gaussian_weights_1d`. -/
def normalized (values : List ℚ) : List ℚ := values.map (· / values.foldl (· + ·) 0)

/-- **`apply_gaussian` is that loop** over the weights it computes. -/
theorem applyGaussian_eq_convolve (cmath : CMath) (input : Image) (sigma : ℚ) :
    applyGaussian cmath input sigma
      = convolve (gaussianWeights1d cmath sigma) (gaussianRadius sigma) input := rfl

/-- The taps of `gaussian_weights_1d`, before they are divided by their total. -/
def gaussianTaps (cmath : CMath) (sigma : ℚ) : List ℚ :=
  (loopValues (-gaussianRadius sigma) (gaussianRadius sigma)).map fun i =>
    cmath.exp (-(i * i : ℤ) / (2 * sigma * sigma))

/-- The weights are those taps, normalised. -/
lemma gaussianWeights1d_eq_normalized (cmath : CMath) (sigma : ℚ) :
    gaussianWeights1d cmath sigma = normalized (gaussianTaps cmath sigma) := rfl

/-- There is one tap for each pixel of the window. -/
lemma length_gaussianTaps (cmath : CMath) (sigma : ℚ) :
    (gaussianTaps cmath sigma).length = (2 * gaussianRadius sigma + 1).toNat := by
  rw [gaussianTaps, List.length_map, length_loopValues]
  congr 1
  ring

/-- A positive exponential makes positive taps. -/
lemma gaussianTaps_pos {cmath : CMath} (hexp : ∀ value, 0 < cmath.exp value) (sigma : ℚ) :
    ∀ value ∈ gaussianTaps cmath sigma, 0 < value := by
  intro value hvalue
  rcases List.mem_map.mp hvalue with ⟨i, -, rfl⟩
  exact hexp _

/-! ## The weights -/

/-- No weight is negative, and together they make one. -/
structure Averaging (weights : List ℚ) (radius : ℤ) : Prop where
  nonneg : ∀ d ∈ Finset.Icc (-radius) radius, 0 ≤ tapWeight weights radius d
  total : ∑ d ∈ Finset.Icc (-radius) radius, tapWeight weights radius d = 1

/-- The weights of all the taps are the whole vector. -/
lemma sum_tapWeight {weights : List ℚ} {radius : ℤ}
    (hlength : weights.length = (2 * radius + 1).toNat) :
    ∑ d ∈ Finset.Icc (-radius) radius, tapWeight weights radius d = weights.sum := by
  have hloop := foldl_loopValues (tapWeight weights radius) (-radius) radius 0
  have hweights : (loopValues (-radius) radius).map (tapWeight weights radius) = weights := by
    refine List.ext_getElem ?_ fun k hk hk' => ?_
    · rw [List.length_map, length_loopValues, hlength]
      congr 1
      ring
    · have hindex : (-radius + (k : ℤ) + radius).toNat = k := by omega
      simp only [List.getElem_map, loopValues, List.getElem_range, tapWeight, hindex]
      exact List.getD_eq_getElem _ _ hk'
  rw [zero_add] at hloop
  rw [← hloop, ← List.foldl_map (g := (· + ·)), hweights, ← List.sum_eq_foldl]

/-- **Positive numbers divided by their total average.** -/
theorem normalized_averaging {values : List ℚ} {radius : ℤ} (hradius : 0 ≤ radius)
    (hlength : values.length = (2 * radius + 1).toNat) (hpos : ∀ value ∈ values, 0 < value) :
    Averaging (normalized values) radius := by
  have hnonempty : values ≠ [] := by
    rintro rfl
    rw [List.length_nil] at hlength
    omega
  have htotal : values.foldl (· + ·) 0 = values.sum := List.sum_eq_foldl.symm
  have hsum : 0 < values.sum := List.sum_pos values hpos hnonempty
  have hlength' : (normalized values).length = (2 * radius + 1).toNat := by
    rw [normalized, List.length_map, hlength]
  refine ⟨fun d hd => ?_, ?_⟩
  · rw [Finset.mem_Icc] at hd
    have hlt : (d + radius).toNat < (normalized values).length := by omega
    rw [tapWeight, List.getD_eq_getElem _ _ hlt]
    simp only [normalized, List.getElem_map, htotal]
    exact div_nonneg (hpos _ (List.getElem_mem _)).le hsum.le
  · rw [sum_tapWeight hlength', normalized, htotal]
    simp only [div_eq_mul_inv]
    rw [List.sum_map_mul_right, List.map_id', mul_inv_cancel₀ hsum.ne']

/-! ## The weighted sum -/

section Sum

variable {weights : List ℚ} {radius : ℤ}

/-- Larger taps make a larger sum. -/
lemma gaussianSum_mono (h : Averaging weights radius) (tap tap' : ℤ → ℤ → ℚ)
    (htap : ∀ dx ∈ Finset.Icc (-radius) radius, ∀ dy ∈ Finset.Icc (-radius) radius,
      tap dx dy ≤ tap' dx dy) :
    gaussianSum weights radius tap ≤ gaussianSum weights radius tap' := by
  rw [gaussianSum_eq_sum, gaussianSum_eq_sum]
  refine Finset.sum_le_sum fun dy hdy => Finset.sum_le_sum fun dx hdx => ?_
  exact mul_le_mul_of_nonneg_left (htap dx hdx dy hdy)
    (mul_nonneg (h.nonneg dy hdy) (h.nonneg dx hdx))

/-- Taps that are all the same average to what they are. -/
lemma gaussianSum_const (h : Averaging weights radius) (value : ℚ) :
    gaussianSum weights radius (fun _ _ => value) = value := by
  have hrow : ∀ dy, ∑ dx ∈ Finset.Icc (-radius) radius,
      tapWeight weights radius dy * tapWeight weights radius dx * value
        = tapWeight weights radius dy * value := by
    intro dy
    rw [← Finset.sum_mul, ← Finset.mul_sum, h.total, mul_one]
  rw [gaussianSum_eq_sum, Finset.sum_congr rfl fun dy _ => hrow dy, ← Finset.sum_mul, h.total,
    one_mul]

/-- The sum lies between any two bounds on its taps. -/
lemma gaussianSum_mem_Icc (h : Averaging weights radius) (tap : ℤ → ℤ → ℚ) {low high : ℚ}
    (htap : ∀ dx ∈ Finset.Icc (-radius) radius, ∀ dy ∈ Finset.Icc (-radius) radius,
      low ≤ tap dx dy ∧ tap dx dy ≤ high) :
    low ≤ gaussianSum weights radius tap ∧ gaussianSum weights radius tap ≤ high := by
  have hlow := gaussianSum_mono h (fun _ _ => low) tap fun dx hdx dy hdy =>
    (htap dx hdx dy hdy).1
  have hhigh := gaussianSum_mono h tap (fun _ _ => high) fun dx hdx dy hdy =>
    (htap dx hdx dy hdy).2
  rw [gaussianSum_const h] at hlow hhigh
  exact ⟨hlow, hhigh⟩

end Sum

/-! ## Loading and storing keep the order -/

lemma loadSample_le {a b : UInt8} : loadSample a ≤ loadSample b ↔ a ≤ b := by
  rw [loadSample, loadSample, div_le_div_iff_of_pos_right (by norm_num), Nat.cast_le,
    UInt8.le_iff_toNat_le]

lemma loadSample_mem_Icc (value : UInt8) : 0 ≤ loadSample value ∧ loadSample value ≤ 1 := by
  have hlt : (value.toNat : ℚ) ≤ 255 := by exact_mod_cast Nat.le_of_lt_succ (UInt8.toNat_lt value)
  rw [loadSample]
  exact ⟨by positivity, (div_le_one (by norm_num)).mpr hlt⟩

lemma storeSample_mono {a b : ℚ} (h : a ≤ b) : storeSample a ≤ storeSample b := by
  rcases lround_clamped a with ⟨hround, hlow, hhigh⟩
  rcases lround_clamped b with ⟨hround', hlow', hhigh'⟩
  have hmono : max 0 (min a 1) * 255 ≤ max 0 (min b 1) * 255 :=
    mul_le_mul_of_nonneg_right (max_le_max_left 0 (min_le_min_right 1 h)) (by norm_num)
  have hle := Rounding.roundAway_mono hmono
  rw [UInt8.le_iff_toNat_le, storeSample, storeSample, hround, hround', ← Int.ofNat_le,
    toNat_uInt8_ofInt hlow hhigh, toNat_uInt8_ofInt hlow' hhigh']
  exact hle

/-- A value that is a colour already passes the clamp unchanged. -/
lemma clamp_idle {value : ℚ} (h0 : 0 ≤ value) (h1 : value ≤ 1) : max 0 (min value 1) = value := by
  rw [min_eq_left h1, max_eq_right h0]

lemma clampCoordinate_mono {a b : ℤ} (h : a ≤ b) (limit : ℕ) :
    clampCoordinate a limit ≤ clampCoordinate b limit := by
  rw [clampCoordinate, clampCoordinate]
  omega

/-! ## The blur averages -/

/-- What an averaging blur does. -/
structure AveragingOperator (weights : List ℚ) (radius : ℤ) (blur : Image → Image) : Prop where
  /-- No colour sample leaves the range of its window. -/
  within : ∀ (input : Image) (x y c : ℕ), x < input.width → y < input.height →
    c < colorChannels input.channels →
      (∃ dx ∈ Finset.Icc (-radius) radius, ∃ dy ∈ Finset.Icc (-radius) radius,
          windowSample input x y c dx dy ≤ (blur input).sampleAt x y c)
        ∧ ∃ dx ∈ Finset.Icc (-radius) radius, ∃ dy ∈ Finset.Icc (-radius) radius,
          (blur input).sampleAt x y c ≤ windowSample input x y c dx dy
  /-- So `std::clamp` has nothing to do. -/
  clampIdle : ∀ (input : Image) (x y c : ℕ),
    max 0 (min (gaussianSum weights radius (clampedTap input x y c)) 1)
      = gaussianSum weights radius (clampedTap input x y c)
  constant : ∀ input : Image,
    (∀ x y c, x < input.width → y < input.height → c < colorChannels input.channels →
      input.sampleAt x y c = input.sampleAt 0 0 c) → blur input = input
  /-- Raising samples lowers none. -/
  monotone : ∀ a b : Image, a.width = b.width → a.height = b.height → a.channels = b.channels →
    (∀ x y c, x < a.width → y < a.height → c < colorChannels a.channels →
      a.sampleAt x y c ≤ b.sampleAt x y c) →
    ∀ x y c, x < a.width → y < a.height → c < colorChannels a.channels →
      (blur a).sampleAt x y c ≤ (blur b).sampleAt x y c
  rows : ∀ (input : Image) (c : ℕ), c < input.channels →
    (∀ y x x', y < input.height → x ≤ x' → x' < input.width →
      input.sampleAt x y c ≤ input.sampleAt x' y c) →
    ∀ y x x', y < input.height → x ≤ x' → x' < input.width →
      (blur input).sampleAt x y c ≤ (blur input).sampleAt x' y c
  columns : ∀ (input : Image) (c : ℕ), c < input.channels →
    (∀ x y y', x < input.width → y ≤ y' → y' < input.height →
      input.sampleAt x y c ≤ input.sampleAt x y' c) →
    ∀ x y y', x < input.width → y ≤ y' → y' < input.height →
      (blur input).sampleAt x y c ≤ (blur input).sampleAt x y' c

section Convolve

variable {weights : List ℚ} {radius : ℤ} {input : Image} {x y c : ℕ}

lemma sampleAt_convolve (weights : List ℚ) (radius : ℤ) (hx : x < input.width)
    (hy : y < input.height) (hc : c < colorChannels input.channels) :
    (convolve weights radius input).sampleAt x y c
      = storeSample (gaussianSum weights radius (clampedTap input x y c)) := by
  rw [convolve, sampleAt_copyAlpha_forColors hx hy (hc.trans_le (colorChannels_le input)),
    if_pos hc]

lemma sampleAt_convolve_alpha (weights : List ℚ) (radius : ℤ) (hx : x < input.width)
    (hy : y < input.height) (hc : c < input.channels) (hα : ¬c < colorChannels input.channels) :
    (convolve weights radius input).sampleAt x y c = input.sampleAt x y c := by
  rw [convolve, sampleAt_copyAlpha_forColors hx hy hc, if_neg hα]

/-- The one inequality behind every order the blur keeps: a window that is nowhere larger gives a
sample that is no larger, wherever the two windows are. -/
lemma convolve_le (h : Averaging weights radius) {other : Image} {x' y' : ℕ}
    (hx : x < input.width) (hy : y < input.height) (hc : c < colorChannels input.channels)
    (hx' : x' < other.width) (hy' : y' < other.height) (hc' : c < colorChannels other.channels)
    (hwindow : ∀ dx dy, windowSample input x y c dx dy ≤ windowSample other x' y' c dx dy) :
    (convolve weights radius input).sampleAt x y c
      ≤ (convolve weights radius other).sampleAt x' y' c := by
  rw [sampleAt_convolve weights radius hx hy hc, sampleAt_convolve weights radius hx' hy' hc']
  exact storeSample_mono (gaussianSum_mono h _ _ fun dx _ dy _ => loadSample_le.mpr (hwindow dx dy))

/-- A window that is all the same stores what it is. -/
lemma convolve_const (h : Averaging weights radius) (hx : x < input.width)
    (hy : y < input.height) (hc : c < colorChannels input.channels) {value : UInt8}
    (hwindow : ∀ dx dy, windowSample input x y c dx dy = value) :
    (convolve weights radius input).sampleAt x y c = value := by
  have htap : clampedTap input x y c = fun _ _ => loadSample value := by
    funext dx dy
    exact congrArg loadSample (hwindow dx dy)
  rw [sampleAt_convolve weights radius hx hy hc, htap, gaussianSum_const h, storeSample_loadSample]

/-- The smallest and the largest tap of a window bound what is stored. -/
lemma convolve_within (h : Averaging weights radius) (hradius : 0 ≤ radius) (hx : x < input.width)
    (hy : y < input.height) (hc : c < colorChannels input.channels) :
    (∃ dx ∈ Finset.Icc (-radius) radius, ∃ dy ∈ Finset.Icc (-radius) radius,
        windowSample input x y c dx dy ≤ (convolve weights radius input).sampleAt x y c)
      ∧ ∃ dx ∈ Finset.Icc (-radius) radius, ∃ dy ∈ Finset.Icc (-radius) radius,
        (convolve weights radius input).sampleAt x y c ≤ windowSample input x y c dx dy := by
  let window := Finset.Icc (-radius) radius ×ˢ Finset.Icc (-radius) radius
  let tap : ℤ × ℤ → ℚ := fun offset => clampedTap input x y c offset.1 offset.2
  have hcentre : (0 : ℤ) ∈ Finset.Icc (-radius) radius := Finset.mem_Icc.mpr (by omega)
  have hwindow : window.Nonempty := ⟨(0, 0), Finset.mk_mem_product hcentre hcentre⟩
  rcases window.exists_min_image tap hwindow with ⟨low, hlow, hmin⟩
  rcases window.exists_max_image tap hwindow with ⟨high, hhigh, hmax⟩
  have hbounds := gaussianSum_mem_Icc h (clampedTap input x y c) fun dx hdx dy hdy =>
    ⟨hmin (dx, dy) (Finset.mk_mem_product hdx hdy), hmax (dx, dy) (Finset.mk_mem_product hdx hdy)⟩
  rw [Finset.mem_product] at hlow hhigh
  rw [sampleAt_convolve weights radius hx hy hc]
  refine ⟨⟨low.1, hlow.1, low.2, hlow.2, ?_⟩, high.1, hhigh.1, high.2, hhigh.2, ?_⟩
  · rw [← storeSample_loadSample (windowSample input x y c low.1 low.2)]
    exact storeSample_mono hbounds.1
  · rw [← storeSample_loadSample (windowSample input x y c high.1 high.2)]
    exact storeSample_mono hbounds.2

end Convolve

/-- **Averaging weights make an averaging blur.** -/
theorem convolve_averages {weights : List ℚ} {radius : ℤ} (h : Averaging weights radius)
    (hradius : 0 ≤ radius) : AveragingOperator weights radius (convolve weights radius) where
  within input x y c hx hy hc := convolve_within h hradius hx hy hc
  clampIdle input x y c := by
    have hbounds := gaussianSum_mem_Icc h (clampedTap input x y c)
      fun dx _ dy _ => loadSample_mem_Icc (windowSample input x y c dx dy)
    exact clamp_idle hbounds.1 hbounds.2
  constant input hconst := by
    refine Image.ext_sampleAt (by simp [convolve]) (by simp [convolve]) (by simp [convolve])
      fun x y c hx hy hc => ?_
    simp only [convolve, copyAlpha_width, copyAlpha_height, copyAlpha_channels, forColors_width,
      forColors_height, forColors_channels] at hx hy hc
    by_cases hcolor : c < colorChannels input.channels
    · rw [convolve_const h hx hy hcolor fun dx dy =>
        hconst _ _ c (clampCoordinate_lt _ input.width_pos) (clampCoordinate_lt _ input.height_pos)
          hcolor]
      exact (hconst x y c hx hy hcolor).symm
    · exact sampleAt_convolve_alpha weights radius hx hy hc hcolor
  monotone a b hwidth hheight hchannels hle x y c hx hy hc := by
    refine convolve_le h hx hy hc (hwidth ▸ hx) (hheight ▸ hy) (hchannels ▸ hc) fun dx dy => ?_
    rw [windowSample, windowSample, ← hwidth, ← hheight]
    exact hle _ _ c (clampCoordinate_lt _ a.width_pos) (clampCoordinate_lt _ a.height_pos) hc
  rows input c hc hle y x x' hy hx hx' := by
    by_cases hcolor : c < colorChannels input.channels
    · -- Clamping keeps the order of two columns, at both borders.
      refine convolve_le h (hx.trans_lt hx') hy hcolor hx' hy hcolor fun dx dy => ?_
      exact hle _ _ _ (clampCoordinate_lt _ input.height_pos)
        (clampCoordinate_mono (by omega) input.width) (clampCoordinate_lt _ input.width_pos)
    · rw [sampleAt_convolve_alpha weights radius (hx.trans_lt hx') hy hc hcolor,
        sampleAt_convolve_alpha weights radius hx' hy hc hcolor]
      exact hle y x x' hy hx hx'
  columns input c hc hle x y y' hx hy hy' := by
    by_cases hcolor : c < colorChannels input.channels
    · refine convolve_le h hx (hy.trans_lt hy') hcolor hx hy' hcolor fun dx dy => ?_
      exact hle _ _ _ (clampCoordinate_lt _ input.width_pos)
        (clampCoordinate_mono (by omega) input.height) (clampCoordinate_lt _ input.height_pos)
    · rw [sampleAt_convolve_alpha weights radius hx (hy.trans_lt hy') hc hcolor,
        sampleAt_convolve_alpha weights radius hx hy' hc hcolor]
      exact hle x y y' hx hy hy'

/-- **`apply_gaussian` is an averaging operator**, with the weights it computes from any positive
exponential, and with any other positive numbers in their place. -/
theorem applyGaussian_averages (sigma : ℚ) :
    (∀ cmath : CMath, (∀ value, 0 < cmath.exp value) →
        AveragingOperator (gaussianWeights1d cmath sigma) (gaussianRadius sigma)
          fun input => applyGaussian cmath input sigma)
      ∧ ∀ values : List ℚ, values.length = (2 * gaussianRadius sigma + 1).toNat →
        (∀ value ∈ values, 0 < value) →
          AveragingOperator (normalized values) (gaussianRadius sigma)
            (convolve (normalized values) (gaussianRadius sigma)) := by
  have hradius : 0 ≤ gaussianRadius sigma := le_trans zero_le_one (le_max_left _ _)
  refine ⟨fun cmath hexp => ?_, fun values hlength hpos => ?_⟩
  · have hweights := normalized_averaging hradius (length_gaussianTaps cmath sigma)
      (gaussianTaps_pos hexp sigma)
    simp only [applyGaussian_eq_convolve, gaussianWeights1d_eq_normalized]
    exact convolve_averages hweights hradius
  · exact convolve_averages (normalized_averaging hradius hlength hpos) hradius

/-- Three columns, one row, one channel. -/
lemma ramp_shaped : Image.Shaped 3 1 1 := by decide

/-- One row of three samples. -/
def ramp : Image := Image.ofShaped ramp_shaped [0, 100, 200] rfl

/-- The samples of the row do not fall. -/
lemma ramp_sorted : ∀ y x x', y < ramp.height → x ≤ x' → x' < ramp.width →
    ramp.sampleAt x y 0 ≤ ramp.sampleAt x' y 0 := by
  have hsorted : ∀ y < 1, ∀ x' < 3, ∀ x ≤ x', ramp.sampleAt x y 0 ≤ ramp.sampleAt x' y 0 := by
    decide
  exact fun y x x' hy hx hx' => hsorted y hy x' hx' x hx

/-- A tenth of a pixel is the narrowest blur: its window is three pixels wide. -/
lemma gaussianRadius_tenth : gaussianRadius (1 / 10) = 1 := by
  have hceil : ⌈(3 * (1 / 10) : ℚ)⌉ = 1 := by
    rw [Int.ceil_eq_iff]
    norm_num
  rw [gaussianRadius, hceil, max_self]

/-- The narrowest blur keeps the row in order, with the weights `apply_gaussian` computes from a
flat exponential as well as with taps that weigh 1, 2 and 1. -/
theorem applyGaussian_averages_ramp :
    (applyGaussian ⟨fun _ => 1, id⟩ ramp (1 / 10)).sampleAt 0 0 0
        ≤ (applyGaussian ⟨fun _ => 1, id⟩ ramp (1 / 10)).sampleAt 2 0 0
      ∧ (convolve (normalized [1, 2, 1]) 1 ramp).sampleAt 0 0 0
        ≤ (convolve (normalized [1, 2, 1]) 1 ramp).sampleAt 2 0 0 := by
  have hblur := (applyGaussian_averages (1 / 10)).1 ⟨fun _ => 1, id⟩ (fun _ => zero_lt_one)
  have htaps := (applyGaussian_averages (1 / 10)).2 [1, 2, 1]
    (by rw [gaussianRadius_tenth]; rfl) (by simp)
  rw [gaussianRadius_tenth] at htaps
  exact ⟨hblur.rows ramp 0 (by decide) ramp_sorted 0 0 2 (by decide) (by decide) (by decide),
    htaps.rows ramp 0 (by decide) ramp_sorted 0 0 2 (by decide) (by decide) (by decide)⟩

/-! ## One pass or two -/

/-- The first pass of `separable_gaussian_reference`, along the row. -/
def horizontalPass (weights : List ℚ) (radius : ℤ) (input : Image) (x y c : ℕ) : ℚ :=
  (loopValues (-radius) radius).foldl (fun sum d =>
    sum + weights.getD (d + radius).toNat 0
      * loadSample (input.sampleAt (clampCoordinate (x + d) input.width) y c)) 0

/-- The second pass, along the column of what the first one left. -/
def verticalPass (weights : List ℚ) (radius : ℤ) (height : ℕ) (horizontal : ℕ → ℕ → ℕ → ℚ)
    (x y c : ℕ) : ℚ :=
  (loopValues (-radius) radius).foldl (fun sum d =>
    sum + weights.getD (d + radius).toNat 0
      * horizontal x (clampCoordinate (y + d) height) c) 0

/-- `separable_gaussian_reference`, over any weights. -/
def separableGaussianReference (weights : List ℚ) (radius : ℤ) (input : Image) : Image :=
  copyAlpha input <| forColors input fun x y c =>
    storeSample (verticalPass weights radius input.height (horizontalPass weights radius input)
      x y c)

/-- **The stencil is the two passes**: a row's sum does not depend on the weight of its row, and
each coordinate is clamped by itself. -/
theorem gaussianSum_two_passes (weights : List ℚ) (radius : ℤ) (input : Image) (x y c : ℕ) :
    gaussianSum weights radius (clampedTap input x y c)
      = verticalPass weights radius input.height (horizontalPass weights radius input) x y c := by
  have hrow : ∀ sy, horizontalPass weights radius input x sy c
      = ∑ dx ∈ Finset.Icc (-radius) radius, tapWeight weights radius dx
          * loadSample (input.sampleAt (clampCoordinate (x + dx) input.width) sy c) := by
    intro sy
    have hloop := foldl_loopValues (fun dx => tapWeight weights radius dx
      * loadSample (input.sampleAt (clampCoordinate (x + dx) input.width) sy c)) (-radius) radius 0
    rw [zero_add] at hloop
    exact hloop
  have hcolumn := foldl_loopValues (fun dy => tapWeight weights radius dy
    * horizontalPass weights radius input x (clampCoordinate (y + dy) input.height) c)
    (-radius) radius 0
  rw [zero_add] at hcolumn
  calc gaussianSum weights radius (clampedTap input x y c)
      = ∑ dy ∈ Finset.Icc (-radius) radius, ∑ dx ∈ Finset.Icc (-radius) radius,
          tapWeight weights radius dy * tapWeight weights radius dx
            * clampedTap input x y c dx dy := gaussianSum_eq_sum weights radius _
    _ = ∑ dy ∈ Finset.Icc (-radius) radius, tapWeight weights radius dy
          * horizontalPass weights radius input x (clampCoordinate (y + dy) input.height) c := by
        refine Finset.sum_congr rfl fun dy _ => ?_
        rw [hrow, Finset.mul_sum]
        exact Finset.sum_congr rfl fun dx _ => mul_assoc _ _ _
    _ = verticalPass weights radius input.height (horizontalPass weights radius input) x y c :=
        hcolumn.symm

/-- **The two-dimensional convolution is separable**, for every picture and every vector of weights:
before rounding, at every pixel, and so in every image it stores. -/
theorem applyGaussian_separable (input : Image) :
    (∀ (weights : List ℚ) (radius : ℤ) (x y c : ℕ),
        gaussianSum weights radius (clampedTap input x y c)
          = verticalPass weights radius input.height (horizontalPass weights radius input) x y c)
      ∧ ∀ (cmath : CMath) (sigma : ℚ), applyGaussian cmath input sigma
        = separableGaussianReference (gaussianWeights1d cmath sigma) (gaussianRadius sigma)
            input := by
  refine ⟨fun weights radius => gaussianSum_two_passes weights radius input, fun cmath sigma => ?_⟩
  rw [applyGaussian, separableGaussianReference]
  simp only [gaussianSum_two_passes]

end Cpu

end Imgjit
