import Imgjit.Cpu.StencilSymmetry

/-!
# Images that show the same picture

Chains do not see everything there is to see in an image: not its alpha, not whether it is stored as
three equal colours or as one, and not from which side it is looked at.  Each of the three would
take an induction over the chain and a case for every op, and the three inductions would be the same
one.  So they are made one relation between images, and every op preserves it.

**The relation.**  `Shows` says that `b` shows `a`, moved, colour by colour; a single channel may
stand for every colour.  `Shows.applyOp` is one op, with one case for the pointwise ops and one for
the stencils, and `Shows.applyOps` any number of them.

**The images.**  `dropAlpha`, `plane`, `replicate` and `Motion.move` are the images that the
relation is used for.

**The results.**

* `alpha_independent` — alpha is kept through every chain, and neither influences colour nor is
  influenced by it.
* `replicate_applyChain` — three equal colours are processed like one, and stay equal.
* `move_applyChain` — mirroring and transposing commute with every chain.
-/

namespace Imgjit

namespace Cpu

/-! ## Images of another shape -/

/-- The image of a shape whose sample at `(x, y, channel)` is `sample x y channel`. -/
def ofSamples (width height channels : ℕ) (hwidth : 0 < width ∧ width < 2 ^ 31)
    (hheight : 0 < height ∧ height < 2 ^ 31)
    (hchannels : channels = 1 ∨ channels = 3 ∨ channels = 4) (sample : ℕ → ℕ → ℕ → UInt8) : Image :=
  Image.generate
    { width, height, channels, pixels := List.replicate (width * channels * height) 0
      width_pos := hwidth.1, width_lt := hwidth.2, height_pos := hheight.1, height_lt := hheight.2
      supported := hchannels, packed := List.length_replicate } sample

/-- The image without its alpha. -/
def dropAlpha (image : Image) : Image :=
  ofSamples image.width image.height 3 ⟨image.width_pos, image.width_lt⟩
    ⟨image.height_pos, image.height_lt⟩ rgb_supported image.sampleAt

/-- One channel by itself. -/
def plane (image : Image) (channel : ℕ) : Image :=
  ofSamples image.width image.height 1 ⟨image.width_pos, image.width_lt⟩
    ⟨image.height_pos, image.height_lt⟩ gray_supported fun x y _ => image.sampleAt x y channel

/-- A single channel, three times. -/
def replicate (image : Image) : Image :=
  ofSamples image.width image.height 3 ⟨image.width_pos, image.width_lt⟩
    ⟨image.height_pos, image.height_lt⟩ rgb_supported fun x y _ => image.sampleAt x y 0

namespace Motion

/-- The dimensions after the motion. -/
def size : Motion → Image → ℕ × ℕ
  | transpose, image => (image.height, image.width)
  | _, image => (image.width, image.height)

/-- The pixel of the image that the motion brings to `(x, y)`. -/
def source : Motion → Image → ℕ → ℕ → ℕ × ℕ
  | still, _, x, y => (x, y)
  | flipX, image, x, y => (image.width - 1 - x, y)
  | flipY, image, x, y => (x, image.height - 1 - y)
  | transpose, _, x, y => (y, x)

lemma size_fst (m : Motion) (image : Image) :
    0 < (m.size image).1 ∧ (m.size image).1 < 2 ^ 31 := by
  cases m
  case transpose => exact ⟨image.height_pos, image.height_lt⟩
  all_goals exact ⟨image.width_pos, image.width_lt⟩

lemma size_snd (m : Motion) (image : Image) :
    0 < (m.size image).2 ∧ (m.size image).2 < 2 ^ 31 := by
  cases m
  case transpose => exact ⟨image.width_pos, image.width_lt⟩
  all_goals exact ⟨image.height_pos, image.height_lt⟩

/-- The image, moved. -/
def move (m : Motion) (image : Image) : Image :=
  ofSamples (m.size image).1 (m.size image).2 image.channels (m.size_fst image)
    (m.size_snd image) image.supported fun x y c =>
      image.sampleAt (m.source image x y).1 (m.source image x y).2 c

/-- Where a pixel comes from depends on the dimensions only. -/
lemma source_congr (m : Motion) {a b : Image} (hwidth : a.width = b.width)
    (hheight : a.height = b.height) (x y : ℕ) : m.source a x y = m.source b x y := by
  cases m <;> simp only [source, hwidth, hheight]

lemma size_congr (m : Motion) {a b : Image} (hwidth : a.width = b.width)
    (hheight : a.height = b.height) : m.size a = m.size b := by
  cases m <;> simp only [size, hwidth, hheight]

lemma source_lt (m : Motion) {image : Image} {x y : ℕ} (hx : x < (m.size image).1)
    (hy : y < (m.size image).2) :
    (m.source image x y).1 < image.width ∧ (m.source image x y).2 < image.height := by
  have hwidth := image.width_pos
  have hheight := image.height_pos
  cases m <;> simp only [size, source] at hx hy ⊢ <;> omega

/-- **Clamping commutes with the motion**, at the borders as well as inside. -/
theorem source_clamped (m : Motion) {image : Image} {x y : ℕ} (hx : x < (m.size image).1)
    (hy : y < (m.size image).2) (dx dy : ℤ) :
    m.source image (clampCoordinate (x + dx) (m.size image).1)
        (clampCoordinate (y + dy) (m.size image).2)
      = (clampCoordinate ((m.source image x y).1 + (m.offset dx dy).1) image.width,
         clampCoordinate ((m.source image x y).2 + (m.offset dx dy).2) image.height) := by
  have hwidth := image.width_pos
  have hheight := image.height_pos
  cases m <;> simp only [size, source, offset, clampCoordinate, Prod.mk.injEq, and_true,
    true_and] at hx hy ⊢ <;> omega

end Motion

/-! ## The relation -/

/-- The channel that colour `c` is shown from. -/
def sourceChannel (image : Image) (c : ℕ) : ℕ := if image.channels = 1 then 0 else c

/-- `b` shows `a`, moved: colour by colour, or all colours from the only channel there is. -/
structure Shows (m : Motion) (a b : Image) : Prop where
  width : b.width = (m.size a).1
  height : b.height = (m.size a).2
  colors : colorChannels b.channels = colorChannels a.channels ∨ a.channels = 1
  sample : ∀ x y c, x < b.width → y < b.height → c < colorChannels b.channels →
    b.sampleAt x y c = a.sampleAt (m.source a x y).1 (m.source a x y).2 (sourceChannel a c)

namespace Shows

variable {m : Motion} {a b : Image} {x y c : ℕ}

lemma source_lt (h : Shows m a b) (hx : x < b.width) (hy : y < b.height) :
    (m.source a x y).1 < a.width ∧ (m.source a x y).2 < a.height :=
  m.source_lt (h.width ▸ hx) (h.height ▸ hy)

lemma sourceChannel_lt (h : Shows m a b) (hc : c < colorChannels b.channels) :
    sourceChannel a c < colorChannels a.channels := by
  rw [sourceChannel]
  split_ifs with h1
  · rw [h1]
    decide
  · rcases h.colors with hcolors | h1'
    · rwa [← hcolors]
    · exact absurd h1' h1

/-- The taps of `b` are the taps of `a`, moved. -/
lemma taps (h : Shows m a b) (hx : x < b.width) (hy : y < b.height)
    (hc : c < colorChannels b.channels) :
    clampedTap b x y c
      = m.taps (clampedTap a (m.source a x y).1 (m.source a x y).2 (sourceChannel a c)) := by
  funext dx dy
  have hclamped := m.source_clamped (h.width ▸ hx) (h.height ▸ hy) dx dy
  rw [← h.width, ← h.height] at hclamped
  rw [clampedTap, h.sample _ _ _ (clampCoordinate_lt _ b.width_pos)
    (clampCoordinate_lt _ b.height_pos) hc, hclamped]
  rfl

/-- The luma weights sum to one. -/
lemma luma_self (value : ℚ) :
    kLumaRed * value + kLumaGreen * value + kLumaBlue * value = value := by
  rw [kLumaRed, kLumaGreen, kLumaBlue]
  ring

/-- A pointwise op does the same to the shown pixel. -/
lemma pixelOp_eq (h : Shows m a b) (hx : x < b.width) (hy : y < b.height)
    (hc : c < colorChannels b.channels) (op : Op) :
    pixelOp (colorChannels b.channels) op (b.sampleAt x y) c
      = pixelOp (colorChannels a.channels) op
          (a.sampleAt (m.source a x y).1 (m.source a x y).2) (sourceChannel a c) := by
  rcases op with ⟨kind, param⟩
  cases kind with
  | kGrayscale =>
      simp only [pixelOp]
      rcases colorChannels_mem b with hb | hb
      · -- One colour on both sides.
        have ha : colorChannels a.channels = 1 := by
          rcases h.colors with hcolors | h1
          · rwa [← hcolors]
          · rw [h1]
            rfl
        rw [if_pos hb, if_pos ha, h.sample x y c hx hy hc]
      · have hsample : ∀ k < 3, b.sampleAt x y k
            = a.sampleAt (m.source a x y).1 (m.source a x y).2 (sourceChannel a k) :=
          fun k hk => h.sample x y k hx hy (by omega)
        rw [if_neg (by omega), hsample 0 (by omega), hsample 1 (by omega), hsample 2 (by omega)]
        by_cases h1 : a.channels = 1
        · have ha : colorChannels a.channels = 1 := by
            rw [h1]
            rfl
          simp only [sourceChannel, if_pos h1, ha, luma_self, storeSample_loadSample, if_true]
        · have ha : colorChannels a.channels = 3 := by
            rw [← h.colors.resolve_right h1, hb]
          simp only [sourceChannel, if_neg h1, ha]
          rfl
  | kInvert => simp only [pixelOp, h.sample x y c hx hy hc]
  | kBrightness => simp only [pixelOp, h.sample x y c hx hy hc]
  | kThreshold => simp only [pixelOp, h.sample x y c hx hy hc]
  | kGaussian => simp only [pixelOp, h.sample x y c hx hy hc]
  | kSobel => simp only [pixelOp, h.sample x y c hx hy hc]

/-- **Every op preserves what is shown.** -/
theorem applyOp (h : Shows m a b) (cmath : CMath) (op : Op) :
    Shows m (applyOp cmath a op) (applyOp cmath b op) where
  width := by
    rw [applyOp_width, h.width, m.size_congr (applyOp_width cmath a op) (applyOp_height cmath a op)]
  height := by
    rw [applyOp_height, h.height,
      m.size_congr (applyOp_width cmath a op) (applyOp_height cmath a op)]
  colors := by
    rw [applyOp_channels, applyOp_channels]
    exact h.colors
  sample := by
    intro x y c hx hy hc
    rw [applyOp_width] at hx
    rw [applyOp_height] at hy
    rw [applyOp_channels] at hc
    have hsource := h.source_lt hx hy
    have hchannel := h.sourceChannel_lt hc
    rw [m.source_congr (applyOp_width cmath a op) (applyOp_height cmath a op), sourceChannel,
      applyOp_channels, ← sourceChannel]
    cases hop : (opSpec op.kind).isStencil with
    | true =>
        rw [sampleAt_applyOp_stencil cmath hop hx hy hc,
          sampleAt_applyOp_stencil cmath hop hsource.1 hsource.2 hchannel, h.taps hx hy hc,
          stencilSample_offset cmath hop]
    | false =>
        rw [sampleAt_applyOp_pointwise cmath hop hx hy hc,
          sampleAt_applyOp_pointwise cmath hop hsource.1 hsource.2 hchannel,
          h.pixelOp_eq hx hy hc]

/-- **So does every chain.** -/
theorem applyOps (h : Shows m a b) (cmath : CMath) (ops : List Op) :
    Shows m (applyOps cmath a ops) (applyOps cmath b ops) := by
  induction ops generalizing a b with
  | nil => exact h
  | cons op ops ih => exact ih (h.applyOp cmath op)

/-- Two images that show the same one differ in their alpha only. -/
lemma eq {b' : Image} (h : Shows m a b) (h' : Shows m a b') (hchannels : b.channels = b'.channels)
    (halpha : ∀ x y c, x < b.width → y < b.height → c < b.channels →
      ¬c < colorChannels b.channels → b.sampleAt x y c = b'.sampleAt x y c) : b = b' := by
  have hwidth : b.width = b'.width := by rw [h.width, h'.width]
  have hheight : b.height = b'.height := by rw [h.height, h'.height]
  refine Image.ext_sampleAt hwidth hheight hchannels fun x y c hx hy hc => ?_
  by_cases hcolor : c < colorChannels b.channels
  · rw [h.sample x y c hx hy hcolor,
      h'.sample x y c (hwidth ▸ hx) (hheight ▸ hy) (hchannels ▸ hcolor)]
  · exact halpha x y c hx hy hc hcolor

end Shows

/-- A chain leaves alpha where it was. -/
lemma sampleAt_applyOps_alpha (cmath : CMath) (image : Image) (ops : List Op) {x y c : ℕ}
    (hx : x < image.width) (hy : y < image.height) (hc : c < image.channels)
    (halpha : ¬c < colorChannels image.channels) :
    (applyOps cmath image ops).sampleAt x y c = image.sampleAt x y c := by
  induction ops generalizing image with
  | nil => rfl
  | cons op ops ih =>
      rw [applyOps_cons, ih _ (by rwa [applyOp_width]) (by rwa [applyOp_height])
        (by rwa [applyOp_channels]) (by rwa [applyOp_channels]),
        sampleAt_applyOp_alpha cmath op hx hy hc halpha]

/-! ## Alpha -/

section Samples

variable {width height channels : ℕ} {hwidth : 0 < width ∧ width < 2 ^ 31}
  {hheight : 0 < height ∧ height < 2 ^ 31}
  {hchannels : channels = 1 ∨ channels = 3 ∨ channels = 4} {sample : ℕ → ℕ → ℕ → UInt8}

lemma sampleAt_ofSamples {x y c : ℕ} (hx : x < width) (hy : y < height) (hc : c < channels) :
    (ofSamples width height channels hwidth hheight hchannels sample).sampleAt x y c
      = sample x y c :=
  Image.sampleAt_generate _ sample hx hy hc

lemma sampleAt_plane (image : Image) (channel : ℕ) {x y : ℕ} (hx : x < image.width)
    (hy : y < image.height) : (plane image channel).sampleAt x y 0 = image.sampleAt x y channel :=
  sampleAt_ofSamples hx hy Nat.one_pos

lemma sampleAt_move (m : Motion) (image : Image) {x y c : ℕ} (hx : x < (m.size image).1)
    (hy : y < (m.size image).2) (hc : c < image.channels) :
    (m.move image).sampleAt x y c
      = image.sampleAt (m.source image x y).1 (m.source image x y).2 c :=
  sampleAt_ofSamples hx hy hc

end Samples

lemma shows_dropAlpha {image : Image} (h4 : image.channels = 4) :
    Shows .still image (dropAlpha image) where
  width := rfl
  height := rfl
  colors := by
    rw [h4]
    exact .inl rfl
  sample := by
    intro x y c hx hy hc
    have hchannel : sourceChannel image c = c := if_neg (by omega)
    rw [hchannel]
    exact sampleAt_ofSamples hx hy hc

/-- Dropping alpha before a chain or after it is the same. -/
lemma dropAlpha_applyOps (cmath : CMath) {image : Image} (h4 : image.channels = 4)
    (ops : List Op) :
    dropAlpha (applyOps cmath image ops) = applyOps cmath (dropAlpha image) ops := by
  have hchannels : (dropAlpha (applyOps cmath image ops)).channels
      = (applyOps cmath (dropAlpha image) ops).channels := by
    rw [applyOps_channels]
    rfl
  refine (shows_dropAlpha (by rwa [applyOps_channels])).eq
    ((shows_dropAlpha h4).applyOps cmath ops) hchannels fun x y c _ _ hc halpha => ?_
  exact absurd hc halpha

/-- A plane beyond the colours survives every chain. -/
lemma plane_applyOps (cmath : CMath) {image : Image} (h4 : image.channels = 4) (ops : List Op) :
    plane (applyOps cmath image ops) 3 = plane image 3 := by
  refine Image.ext_sampleAt (applyOps_width cmath image ops) (applyOps_height cmath image ops) rfl
    fun x y c hx hy hc => ?_
  have hx' : x < image.width := by rwa [← applyOps_width cmath image ops]
  have hy' : y < image.height := by rwa [← applyOps_height cmath image ops]
  have hbeyond : ¬3 < colorChannels image.channels := by
    rw [h4]
    decide
  rw [Nat.lt_one_iff.mp hc, sampleAt_plane (applyOps cmath image ops) 3 hx hy,
    sampleAt_plane image 3 hx' hy',
    sampleAt_applyOps_alpha cmath image ops hx' hy' (by omega) hbeyond]

/-- **Alpha and colour do not influence each other.**  A chain keeps the shape and the alpha of an
RGBA image, its colours are those of the chain on the image without alpha, and so two images that
agree on colour give outputs that do, whatever their alphas, and the other way round. -/
theorem alpha_independent (cmath : CMath) (chain : OpChain) {image : Image}
    (h4 : image.channels = 4) :
    (applyChain cmath image chain).width = image.width
      ∧ (applyChain cmath image chain).height = image.height
      ∧ (applyChain cmath image chain).channels = image.channels
      ∧ plane (applyChain cmath image chain) 3 = plane image 3
      ∧ dropAlpha (applyChain cmath image chain) = applyChain cmath (dropAlpha image) chain
      ∧ (∀ other : Image, other.channels = 4 → dropAlpha other = dropAlpha image →
          dropAlpha (applyChain cmath other chain) = dropAlpha (applyChain cmath image chain))
      ∧ ∀ other : Image, other.channels = 4 → plane other 3 = plane image 3 →
          plane (applyChain cmath other chain) 3 = plane (applyChain cmath image chain) 3 := by
  refine ⟨applyOps_width _ _ _, applyOps_height _ _ _, applyOps_channels _ _ _,
    plane_applyOps cmath h4 _, dropAlpha_applyOps cmath h4 _, fun other hother heq => ?_,
    fun other hother heq => ?_⟩
  · rw [applyChain, applyChain, dropAlpha_applyOps cmath hother, dropAlpha_applyOps cmath h4, heq]
  · rw [applyChain, applyChain, plane_applyOps cmath hother, plane_applyOps cmath h4, heq]

/-- Three columns, two rows, colour and alpha. -/
lemma translucent_shaped : Image.Shaped 3 2 4 := by decide

/-- Six pixels of different colours, none of them opaque. -/
def translucent : Image :=
  Image.ofShaped translucent_shaped
    [10, 20, 30, 128, 40, 50, 60, 0, 70, 80, 90, 254,
      15, 25, 35, 1, 45, 55, 65, 99, 255, 0, 7, 200] rfl

/-- The same colours with six other alphas. -/
def faint : Image :=
  Image.ofShaped translucent_shaped
    [10, 20, 30, 3, 40, 50, 60, 5, 70, 80, 90, 7,
      15, 25, 35, 11, 45, 55, 65, 13, 255, 0, 7, 17] rfl

/-- Inverting the six pixels, and looking at their edges, leaves their alpha, and the edges found do
not depend on it. -/
theorem alpha_independent_translucent :
    plane (applyChain ⟨fun _ => 1, id⟩ translucent ⟨[⟨.kInvert, 0⟩, ⟨.kSobel, 0⟩]⟩) 3
        = plane translucent 3
      ∧ dropAlpha (applyChain ⟨fun _ => 1, id⟩ faint ⟨[⟨.kInvert, 0⟩, ⟨.kSobel, 0⟩]⟩)
        = dropAlpha (applyChain ⟨fun _ => 1, id⟩ translucent ⟨[⟨.kInvert, 0⟩, ⟨.kSobel, 0⟩]⟩) := by
  have h := alpha_independent ⟨fun _ => 1, id⟩ ⟨[⟨.kInvert, 0⟩, ⟨.kSobel, 0⟩]⟩
    (show translucent.channels = 4 from rfl)
  exact ⟨h.2.2.2.1, h.2.2.2.2.2.1 faint rfl (by decide +kernel)⟩

/-! ## One channel for three -/

lemma shows_replicate {image : Image} (h1 : image.channels = 1) :
    Shows .still image (replicate image) where
  width := rfl
  height := rfl
  colors := .inr h1
  sample := by
    intro x y c hx hy hc
    have hchannel : sourceChannel image c = 0 := if_pos h1
    rw [hchannel]
    exact sampleAt_ofSamples hx hy hc

/-- An image with equal colours shows its first one. -/
lemma shows_plane {image : Image}
    (h : ∀ x y c, x < image.width → y < image.height → c < colorChannels image.channels →
      image.sampleAt x y c = image.sampleAt x y 0) : Shows .still (plane image 0) image where
  width := rfl
  height := rfl
  colors := .inr rfl
  sample := by
    intro x y c hx hy hc
    exact (h x y c hx hy hc).trans (sampleAt_plane image 0 hx hy).symm

/-- What `apply_grayscale` leaves behind. -/
lemma grayscale_equal (cmath : CMath) (image : Image) (param : ℚ) (x y c : ℕ)
    (hx : x < image.width) (hy : y < image.height) (hc : c < colorChannels image.channels) :
    (applyOp cmath image ⟨.kGrayscale, param⟩).sampleAt x y c
      = (applyOp cmath image ⟨.kGrayscale, param⟩).sampleAt x y 0 := by
  rw [sampleAt_applyOp_pointwise cmath rfl hx hy hc,
    sampleAt_applyOp_pointwise cmath rfl hx hy (Nat.zero_lt_of_lt hc)]
  simp only [pixelOp]
  split_ifs with h1
  · rw [h1, Nat.lt_one_iff] at hc
    rw [hc]
  · rfl

/-- Equal colours stay equal. -/
lemma equal_applyOps (cmath : CMath) {image : Image}
    (h : ∀ x y c, x < image.width → y < image.height → c < colorChannels image.channels →
      image.sampleAt x y c = image.sampleAt x y 0) (ops : List Op) (x y c : ℕ)
    (hx : x < image.width) (hy : y < image.height) (hc : c < colorChannels image.channels) :
    (applyOps cmath image ops).sampleAt x y c = (applyOps cmath image ops).sampleAt x y 0 := by
  have hshows := (shows_plane h).applyOps cmath ops
  have hplane : sourceChannel (applyOps cmath (plane image 0) ops) c
      = sourceChannel (applyOps cmath (plane image 0) ops) 0 := by
    rw [sourceChannel, sourceChannel, applyOps_channels]
    rfl
  rw [← applyOps_width cmath image ops] at hx
  rw [← applyOps_height cmath image ops] at hy
  rw [← applyOps_channels cmath image ops] at hc
  rw [hshows.sample x y c hx hy hc, hshows.sample x y 0 hx hy (Nat.zero_lt_of_lt hc), hplane]

/-- **Three equal colours are processed like one**, and from the first grayscale op on the colours
of any image are equal. -/
theorem replicate_applyChain (cmath : CMath) (chain : OpChain) :
    (∀ gray : Image, gray.channels = 1 →
        applyChain cmath (replicate gray) chain = replicate (applyChain cmath gray chain))
      ∧ ∀ (image : Image) (before after : List Op) (param : ℚ),
          chain.ops = before ++ ⟨.kGrayscale, param⟩ :: after →
          ∀ x y c, x < image.width → y < image.height → c < colorChannels image.channels →
            (applyChain cmath image chain).sampleAt x y c
              = (applyChain cmath image chain).sampleAt x y 0 := by
  constructor
  · intro gray h1
    have hchannels : (applyChain cmath (replicate gray) chain).channels
        = (replicate (applyChain cmath gray chain)).channels := by
      rw [applyChain, applyOps_channels]
      rfl
    refine ((shows_replicate h1).applyOps cmath chain.ops).eq
      (shows_replicate ((applyOps_channels cmath gray chain.ops).trans h1)) hchannels
      fun x y c _ _ hc halpha => ?_
    rw [applyOps_channels] at hc halpha
    exact absurd hc halpha
  · intro image before after param hops x y c hx hy hc
    rw [applyChain, hops, applyOps_append, applyOps_cons]
    refine equal_applyOps cmath (fun x y c hx hy hc => ?_) after x y c (by simpa) (by simpa)
      (by simpa)
    rw [applyOp_width] at hx
    rw [applyOp_height] at hy
    rw [applyOp_channels] at hc
    exact grayscale_equal cmath _ param x y c hx hy hc

/-- The red of the translucent pixels, blurred as one channel and as three; and the pixels behind
a grayscale op, which have three equal colours once they are blurred. -/
theorem replicate_applyChain_red :
    applyChain ⟨fun _ => 1, id⟩ (replicate (plane translucent 0)) ⟨[⟨.kGaussian, 1⟩]⟩
        = replicate (applyChain ⟨fun _ => 1, id⟩ (plane translucent 0) ⟨[⟨.kGaussian, 1⟩]⟩)
      ∧ (applyChain ⟨fun _ => 1, id⟩ translucent ⟨[⟨.kGrayscale, 0⟩, ⟨.kGaussian, 1⟩]⟩).sampleAt 1 1 2
        = (applyChain ⟨fun _ => 1, id⟩ translucent
            ⟨[⟨.kGrayscale, 0⟩, ⟨.kGaussian, 1⟩]⟩).sampleAt 1 1 0 :=
  ⟨(replicate_applyChain ⟨fun _ => 1, id⟩ ⟨[⟨.kGaussian, 1⟩]⟩).1 (plane translucent 0) rfl,
    (replicate_applyChain ⟨fun _ => 1, id⟩ ⟨[⟨.kGrayscale, 0⟩, ⟨.kGaussian, 1⟩]⟩).2 translucent []
      [⟨.kGaussian, 1⟩] 0 rfl 1 1 2 (by decide) (by decide) (by decide)⟩

/-! ## Mirroring and transposing -/

lemma shows_move (m : Motion) (image : Image) : Shows m image (m.move image) where
  width := rfl
  height := rfl
  colors := .inl rfl
  sample := by
    intro x y c hx hy hc
    have hc' : c < image.channels := hc.trans_le (colorChannels_le image)
    have hchannel : sourceChannel image c = c := by
      rw [sourceChannel]
      split_ifs with h1
      · omega
      · rfl
    rw [hchannel]
    exact sampleAt_ofSamples hx hy hc'

/-- **Mirroring and transposing commute with every chain**, for every image size. -/
theorem move_applyChain (cmath : CMath) (m : Motion) (image : Image) (chain : OpChain) :
    applyChain cmath (m.move image) chain = m.move (applyChain cmath image chain) := by
  have hsize : m.size (applyChain cmath image chain) = m.size image :=
    m.size_congr (applyOps_width _ _ _) (applyOps_height _ _ _)
  have hwhere : m.source (applyChain cmath image chain) = m.source image :=
    funext₂ fun x y => m.source_congr (applyOps_width _ _ _) (applyOps_height _ _ _) x y
  have hchannels : (applyChain cmath (m.move image) chain).channels
      = (m.move (applyChain cmath image chain)).channels := by
    rw [applyChain, applyOps_channels]
    exact (applyOps_channels cmath image chain.ops).symm
  refine ((shows_move m image).applyOps cmath chain.ops).eq
    (shows_move m (applyChain cmath image chain)) hchannels fun x y c hx hy hc halpha => ?_
  rw [applyOps_width] at hx
  rw [applyOps_height] at hy
  rw [applyOps_channels] at hc halpha
  have hsource := m.source_lt hx hy
  calc (applyOps cmath (m.move image) chain.ops).sampleAt x y c
      = (m.move image).sampleAt x y c := sampleAt_applyOps_alpha cmath _ _ hx hy hc halpha
    _ = image.sampleAt (m.source image x y).1 (m.source image x y).2 c :=
        sampleAt_move m image hx hy hc
    _ = (applyChain cmath image chain).sampleAt (m.source image x y).1 (m.source image x y).2 c :=
        (sampleAt_applyOps_alpha cmath _ _ hsource.1 hsource.2 hc halpha).symm
    _ = (m.move (applyChain cmath image chain)).sampleAt x y c := by
        rw [sampleAt_move m (applyChain cmath image chain) (hsize ▸ hx) (hsize ▸ hy)
          (applyOps_channels cmath image chain.ops ▸ hc), hwhere]

end Cpu

end Imgjit
