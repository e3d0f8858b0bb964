import Imgjit.Core.Image
import Imgjit.Core.OpChain

/-!
# The CPU oracle

The scalar implementation of the closed op set, against which every GPU path is compared.  Colour is
normalised to `[0, 1]`, every op ends by storing bytes again, coordinates outside the image are
clamped to its edge, and alpha is copied through.

**The functions of the source.**  `applyOp` and `applyChain` are the ops and their left-to-right
fold, written loop by loop as the source has them.  Arithmetic is exact; the two transcendental
functions come from one `CMath`, of which nothing is assumed.

**What an op computes at one sample.**  The loops are the right thing to compare with the source and
the wrong thing to reason about.  `pixelOp` is what a pointwise op does to the samples of one pixel
(`sampleAt_applyOp_pointwise`), and `stencilSample` what a stencil computes from its taps
(`sampleAt_applyOp_stencil`); together with `sampleAt_applyOp_alpha` they say what every op leaves
at every coordinate, and no later file unfolds an op.

**Bytes.**  Between two ops a sample is stored as a byte and loaded again.  A fused GPU kernel does
not do so between its pointwise ops; `storeSample_loadSample` says that a byte survives being loaded
and stored again, which is what the comparison turns on.
-/

namespace Imgjit

namespace Cpu

/-! ## Samples and coordinates -/

/-- The red weight of a pixel's luminance. -/
def kLumaRed : ℚ := 0.299

/-- The green weight. -/
def kLumaGreen : ℚ := 0.587

/-- The blue weight. -/
def kLumaBlue : ℚ := 0.114

/-- Number of colour channels an op touches: everything but the alpha of an RGBA image. -/
def colorChannels (channels : ℕ) : ℕ := if channels = 4 then 3 else channels

/-- A byte as a sample between `0` and `1`. -/
def loadSample (value : UInt8) : ℚ := value.toNat / 255

/-- A sample as a byte: clamped, scaled and rounded. -/
def storeSample (value : ℚ) : UInt8 :=
  UInt8.ofInt (lround (max 0 (min value 1) * 255))

/-- `std::clamp(value, 0, limit - 1)`. -/
def clampCoordinate (value : ℤ) (limit : ℕ) : ℕ := (max 0 (min value (limit - 1))).toNat

/-- The values of `for (int i = first; i <= last; ++i)`, in order. -/
def loopValues (first last : ℤ) : List ℤ :=
  (List.range (last + 1 - first).toNat).map fun k : ℕ => first + k

/-! ## The ops -/

/-- The triple loop every op shares: the colour samples of a zero-filled output. -/
def forColors (input : Image) (sample : ℕ → ℕ → ℕ → UInt8) : Image :=
  input.generate fun x y c => if c < colorChannels input.channels then sample x y c else 0

/-- `copy_alpha`: "alpha is never touched" holds in exactly one place. -/
def copyAlpha (input output : Image) : Image :=
  if input.channels ≠ 4 then output
  else output.generate fun x y c => if c = 3 then input.sampleAt x y 3 else output.sampleAt x y c

/-- Every colour becomes the pixel's luminance. -/
def applyGrayscale (input : Image) : Image :=
  let colors := colorChannels input.channels
  copyAlpha input <| forColors input fun x y c =>
    -- A 1-channel image is already luminance.
    if colors = 1 then input.sampleAt x y c
    else
      storeSample (kLumaRed * loadSample (input.sampleAt x y 0)
        + kLumaGreen * loadSample (input.sampleAt x y 1)
        + kLumaBlue * loadSample (input.sampleAt x y 2))

/-- Integer op, deliberately: no float round trip. -/
def applyInvert (input : Image) : Image :=
  copyAlpha input <| forColors input fun x y c => 255 - input.sampleAt x y c

/-- Every colour is shifted by the same amount. -/
def applyBrightness (input : Image) (delta : ℚ) : Image :=
  copyAlpha input <| forColors input fun x y c =>
    storeSample (loadSample (input.sampleAt x y c) + delta)

/-- Every colour becomes white or black, by the threshold. -/
def applyThreshold (input : Image) (threshold : ℚ) : Image :=
  copyAlpha input <| forColors input fun x y c =>
    if loadSample (input.sampleAt x y c) ≥ threshold then 255 else 0

/-- `gaussian_radius`: three sigma, at least one pixel. -/
def gaussianRadius (sigma : ℚ) : ℤ := max 1 ⌈3 * sigma⌉

/-- `gaussian_weights_1d`: `2 * radius + 1` taps, divided by their total. -/
def gaussianWeights1d (cmath : CMath) (sigma : ℚ) : List ℚ :=
  let radius := gaussianRadius sigma
  let values := (loopValues (-radius) radius).map fun i =>
    cmath.exp (-(i * i : ℤ) / (2 * sigma * sigma))
  let total := values.foldl (· + ·) 0
  values.map (· / total)

/-- The accumulation of `apply_gaussian` at one sample: `dy` outer, `dx` inner, over a `tap` that
yields the neighbour's sample. -/
def gaussianSum (weights : List ℚ) (radius : ℤ) (tap : ℤ → ℤ → ℚ) : ℚ :=
  (loopValues (-radius) radius).foldl (fun sum dy =>
    let wy := weights.getD (dy + radius).toNat 0
    (loopValues (-radius) radius).foldl (fun sum dx =>
      let wx := weights.getD (dx + radius).toNat 0
      sum + wy * wx * tap dx dy) sum) 0

/-- The input sample under a tap, with clamped addressing. -/
def clampedTap (input : Image) (x y c : ℕ) (dx dy : ℤ) : ℚ :=
  loadSample (input.sampleAt (clampCoordinate (x + dx) input.width)
    (clampCoordinate (y + dy) input.height) c)

/-- Every colour becomes the weighted sum of its window. -/
def applyGaussian (cmath : CMath) (input : Image) (sigma : ℚ) : Image :=
  let weights := gaussianWeights1d cmath sigma
  let radius := gaussianRadius sigma
  copyAlpha input <| forColors input fun x y c =>
    storeSample (gaussianSum weights radius (clampedTap input x y c))

/-- `kGx`, row by row. -/
def kGx : List ℚ := [-1, 0, 1, -2, 0, 2, -1, 0, 1]

/-- `kGy`, row by row. -/
def kGy : List ℚ := [-1, -2, -1, 0, 0, 0, 1, 2, 1]

/-- The two accumulators of `apply_sobel` at one sample. -/
def sobelSums (tap : ℤ → ℤ → ℚ) : ℚ × ℚ :=
  (loopValues (-1) 1).foldl (fun sums dy =>
    (loopValues (-1) 1).foldl (fun (gx, gy) dx =>
      let k := ((dy + 1) * 3 + (dx + 1)).toNat
      (gx + kGx.getD k 0 * tap dx dy, gy + kGy.getD k 0 * tap dx dy)) sums) (0, 0)

/-- Every colour becomes the length of the gradient at it. -/
def applySobel (cmath : CMath) (input : Image) : Image :=
  copyAlpha input <| forColors input fun x y c =>
    let (gx, gy) := sobelSums (clampedTap input x y c)
    storeSample (cmath.sqrt (gx * gx + gy * gy))

/-- `apply_op`: one op of the closed set. -/
def applyOp (cmath : CMath) (input : Image) (op : Op) : Image :=
  match op.kind with
  | .kGrayscale => applyGrayscale input
  | .kInvert => applyInvert input
  | .kBrightness => applyBrightness input op.param
  | .kThreshold => applyThreshold input op.param
  | .kGaussian => applyGaussian cmath input op.param
  | .kSobel => applySobel cmath input

/-- The fold over a list of ops, left to right. -/
def applyOps (cmath : CMath) (input : Image) (ops : List Op) : Image :=
  ops.foldl (applyOp cmath) input

/-- `apply_chain`.  Order is semantically load-bearing. -/
def applyChain (cmath : CMath) (input : Image) (chain : OpChain) : Image :=
  applyOps cmath input chain.ops

/-! ## Colour counts and clamping -/

lemma colorChannels_le (image : Image) : colorChannels image.channels ≤ image.channels := by
  simp only [colorChannels]
  split_ifs <;> omega

lemma colorChannels_mem (image : Image) :
    colorChannels image.channels = 1 ∨ colorChannels image.channels = 3 := by
  rcases image.supported with h | h | h <;> simp [colorChannels, h]

/-- A channel beyond the colours is the alpha of an RGBA image. -/
lemma alpha_of_not_lt {image : Image} {c : ℕ} (hc : c < image.channels)
    (h : ¬c < colorChannels image.channels) : image.channels = 4 ∧ c = 3 := by
  simp only [colorChannels] at h
  split_ifs at h with h4
  · omega
  · omega

lemma clampCoordinate_lt (value : ℤ) {limit : ℕ} (h : 0 < limit) :
    clampCoordinate value limit < limit := by
  simp only [clampCoordinate]
  omega

lemma mem_loopValues {first last i : ℤ} : i ∈ loopValues first last ↔ first ≤ i ∧ i ≤ last := by
  simp only [loopValues, List.mem_map, List.mem_range]
  constructor
  · rintro ⟨k, hk, rfl⟩
    omega
  · rintro ⟨h1, h2⟩
    exact ⟨(i - first).toNat, by omega, by omega⟩

@[simp] lemma length_loopValues (first last : ℤ) :
    (loopValues first last).length = (last + 1 - first).toNat := by
  simp [loopValues]

/-- The cap on sigma is what bounds the radius. -/
lemma gaussianRadius_le {sigma : ℚ} (h : sigma ≤ 4) : gaussianRadius sigma ≤ 12 := by
  refine max_le (by norm_num) (Int.ceil_le.mpr ?_)
  push_cast
  linarith

@[simp] lemma length_gaussianWeights1d (cmath : CMath) (sigma : ℚ) :
    (gaussianWeights1d cmath sigma).length = (2 * gaussianRadius sigma + 1).toNat := by
  simp only [gaussianWeights1d, List.length_map, length_loopValues]
  congr 1
  ring

/-! ## Stored bytes -/

lemma toNat_uInt8_ofInt {n : ℤ} (h0 : 0 ≤ n) (h1 : n ≤ 255) :
    ((UInt8.ofInt n).toNat : ℤ) = n := by
  have hsize : (UInt8.ofInt n).toNat = (n % 2 ^ 8).toNat % 2 ^ 8 := rfl
  rw [hsize]
  omega

/-- Clamping brings any value into the range where `lround` rounds and nothing saturates. -/
lemma lround_clamped (value : ℚ) :
    lround (max 0 (min value 1) * 255) = Rounding.roundAway (max 0 (min value 1) * 255)
      ∧ 0 ≤ Rounding.roundAway (max 0 (min value 1) * 255)
      ∧ Rounding.roundAway (max 0 (min value 1) * 255) ≤ 255 := by
  have h0 : (0 : ℚ) ≤ max 0 (min value 1) := le_max_left _ _
  have h1 : max 0 (min value 1) ≤ (1 : ℚ) := max_le zero_le_one (min_le_right _ _)
  have hlow : ((0 : ℤ) : ℚ) ≤ max 0 (min value 1) * 255 := by push_cast; linarith
  have hhigh : max 0 (min value 1) * 255 ≤ ((255 : ℤ) : ℚ) := by push_cast; linarith
  obtain ⟨hmin, hmax⟩ := Rounding.roundAway_mem_Icc hlow hhigh
  exact ⟨lround_of_mem hlow hhigh (by decide) (by decide), hmin, hmax⟩

lemma storeSample_of_nat {n : ℕ} (h : n ≤ 255) : storeSample (n / 255 : ℚ) = UInt8.ofNat n := by
  have hcast : (n : ℚ) ≤ 255 := by exact_mod_cast h
  have hclamp : max 0 (min (n / 255 : ℚ) 1) * 255 = ((n : ℤ) : ℚ) := by
    rw [min_eq_left (by rw [div_le_one (by norm_num)]; exact hcast),
      max_eq_right (by positivity)]
    push_cast
    field_simp
  rw [storeSample, hclamp, lround_intCast (le_trans (by decide) (Int.natCast_nonneg n))
    (le_trans (Int.ofNat_le.mpr h) (by decide))]
  apply UInt8.toNat.inj
  have := toNat_uInt8_ofInt (n := n) (by omega) (by omega)
  rw [UInt8.toNat_ofNat']
  omega

/-- **A stored byte survives being loaded and stored again.** -/
@[simp] theorem storeSample_loadSample (value : UInt8) : storeSample (loadSample value) = value := by
  have hlt := UInt8.toNat_lt value
  rw [loadSample, storeSample_of_nat (by omega), UInt8.ofNat_toNat]

/-! ## What an op computes at one sample -/

/-- The samples of a pixel after a pointwise op.  Stencils do not look at one pixel only and leave
it alone here. -/
def pixelOp (colors : ℕ) (op : Op) (pixel : ℕ → UInt8) (c : ℕ) : UInt8 :=
  match op.kind with
  | .kGrayscale =>
      if colors = 1 then pixel c
      else storeSample (kLumaRed * loadSample (pixel 0) + kLumaGreen * loadSample (pixel 1)
        + kLumaBlue * loadSample (pixel 2))
  | .kInvert => 255 - pixel c
  | .kBrightness => storeSample (loadSample (pixel c) + op.param)
  | .kThreshold => if loadSample (pixel c) ≥ op.param then 255 else 0
  | .kGaussian => pixel c
  | .kSobel => pixel c

/-- The sample a stencil stores, from the taps around it.  Pointwise ops have no taps. -/
def stencilSample (cmath : CMath) (op : Op) (tap : ℤ → ℤ → ℚ) : UInt8 :=
  match op.kind with
  | .kGaussian =>
      storeSample (gaussianSum (gaussianWeights1d cmath op.param) (gaussianRadius op.param) tap)
  | .kSobel =>
      let (gx, gy) := sobelSums tap
      storeSample (cmath.sqrt (gx * gx + gy * gy))
  | _ => storeSample (tap 0 0)

section Samples

variable {input : Image} {sample : ℕ → ℕ → ℕ → UInt8} {x y c : ℕ}

@[simp] lemma copyAlpha_width (input output : Image) :
    (copyAlpha input output).width = output.width := by
  simp only [copyAlpha]; split_ifs <;> simp

@[simp] lemma copyAlpha_height (input output : Image) :
    (copyAlpha input output).height = output.height := by
  simp only [copyAlpha]; split_ifs <;> simp

@[simp] lemma copyAlpha_channels (input output : Image) :
    (copyAlpha input output).channels = output.channels := by
  simp only [copyAlpha]; split_ifs <;> simp

@[simp] lemma forColors_width : (forColors input sample).width = input.width := rfl
@[simp] lemma forColors_height : (forColors input sample).height = input.height := rfl
@[simp] lemma forColors_channels : (forColors input sample).channels = input.channels := rfl

/-- The colour loop followed by `copyAlpha`, sample by sample. -/
lemma sampleAt_copyAlpha_forColors (hx : x < input.width) (hy : y < input.height)
    (hc : c < input.channels) :
    (copyAlpha input (forColors input sample)).sampleAt x y c
      = if c < colorChannels input.channels then sample x y c else input.sampleAt x y c := by
  have hloop : (forColors input sample).sampleAt x y c
      = if c < colorChannels input.channels then sample x y c else 0 :=
    input.sampleAt_generate _ hx hy hc
  by_cases hch : input.channels = 4
  · rw [copyAlpha, if_neg (not_not.mpr hch),
      (forColors input sample).sampleAt_generate _ hx hy hc, hloop]
    by_cases hcolor : c < colorChannels input.channels
    · have : c ≠ 3 := by
        rw [hch] at hcolor
        exact Nat.ne_of_lt hcolor
      rw [if_neg this, if_pos hcolor, if_pos hcolor]
    · obtain ⟨-, rfl⟩ := alpha_of_not_lt hc hcolor
      rw [if_pos rfl, if_neg hcolor]
  · rw [copyAlpha, if_pos hch, hloop]
    by_cases hcolor : c < colorChannels input.channels
    · rw [if_pos hcolor, if_pos hcolor]
    · exact absurd (alpha_of_not_lt hc hcolor).1 hch

/-- Every op runs the shared loop, on a sample function of its own. -/
lemma applyOp_eq (cmath : CMath) (input : Image) (op : Op) :
    applyOp cmath input op = copyAlpha input (forColors input fun x y c =>
      if (opSpec op.kind).isStencil then stencilSample cmath op (clampedTap input x y c)
      else pixelOp (colorChannels input.channels) op (input.sampleAt x y) c) := by
  rcases op with ⟨kind, param⟩
  cases kind <;> rfl

@[simp] lemma applyOp_width (cmath : CMath) (input : Image) (op : Op) :
    (applyOp cmath input op).width = input.width := by
  rw [applyOp_eq, copyAlpha_width, forColors_width]

@[simp] lemma applyOp_height (cmath : CMath) (input : Image) (op : Op) :
    (applyOp cmath input op).height = input.height := by
  rw [applyOp_eq, copyAlpha_height, forColors_height]

@[simp] lemma applyOp_channels (cmath : CMath) (input : Image) (op : Op) :
    (applyOp cmath input op).channels = input.channels := by
  rw [applyOp_eq, copyAlpha_channels, forColors_channels]

/-- **A pointwise op acts on each pixel by itself.** -/
theorem sampleAt_applyOp_pointwise (cmath : CMath) {op : Op}
    (hop : (opSpec op.kind).isStencil = false) (hx : x < input.width) (hy : y < input.height)
    (hc : c < colorChannels input.channels) :
    (applyOp cmath input op).sampleAt x y c
      = pixelOp (colorChannels input.channels) op (input.sampleAt x y) c := by
  rw [applyOp_eq, sampleAt_copyAlpha_forColors hx hy (hc.trans_le (colorChannels_le input)),
    if_pos hc, if_neg (by simp [hop])]

/-- **A stencil acts on the clamped neighbourhood, one channel at a time.** -/
theorem sampleAt_applyOp_stencil (cmath : CMath) {op : Op}
    (hop : (opSpec op.kind).isStencil = true) (hx : x < input.width) (hy : y < input.height)
    (hc : c < colorChannels input.channels) :
    (applyOp cmath input op).sampleAt x y c
      = stencilSample cmath op (clampedTap input x y c) := by
  rw [applyOp_eq, sampleAt_copyAlpha_forColors hx hy (hc.trans_le (colorChannels_le input)),
    if_pos hc, if_pos hop]

/-- **Alpha is never touched.** -/
theorem sampleAt_applyOp_alpha (cmath : CMath) (op : Op) (hx : x < input.width)
    (hy : y < input.height) (hc : c < input.channels) (hα : ¬c < colorChannels input.channels) :
    (applyOp cmath input op).sampleAt x y c = input.sampleAt x y c := by
  rw [applyOp_eq, sampleAt_copyAlpha_forColors hx hy hc, if_neg hα]

end Samples

/-! ## Folding a chain -/

lemma applyOps_cons (cmath : CMath) (input : Image) (op : Op) (ops : List Op) :
    applyOps cmath input (op :: ops) = applyOps cmath (applyOp cmath input op) ops := rfl

lemma applyOps_append (cmath : CMath) (input : Image) (ops ops' : List Op) :
    applyOps cmath input (ops ++ ops') = applyOps cmath (applyOps cmath input ops) ops' :=
  List.foldl_append

@[simp] lemma applyOps_width (cmath : CMath) (input : Image) (ops : List Op) :
    (applyOps cmath input ops).width = input.width := by
  induction ops generalizing input with
  | nil => rfl
  | cons op ops ih => rw [applyOps_cons, ih, applyOp_width]

@[simp] lemma applyOps_height (cmath : CMath) (input : Image) (ops : List Op) :
    (applyOps cmath input ops).height = input.height := by
  induction ops generalizing input with
  | nil => rfl
  | cons op ops ih => rw [applyOps_cons, ih, applyOp_height]

@[simp] lemma applyOps_channels (cmath : CMath) (input : Image) (ops : List Op) :
    (applyOps cmath input ops).channels = input.channels := by
  induction ops generalizing input with
  | nil => rfl
  | cons op ops ih => rw [applyOps_cons, ih, applyOp_channels]

end Cpu

end Imgjit
