import Imgjit.Core.Image

/-!
# Images in memory

The class `Image` as its header declares it: `int` dimensions, a row stride, and one block of bytes
that is indexed in `std::size_t`, that is modulo `2 ^ 64`.  `Core/Image.lean` has the abstract
image, in which nothing can go wrong; this file has the object, in which a multiplication can wrap,
an allocation can be refused and a `memcpy` can leave its block.  What a well-formed object stands
for is an image of the abstract level, and the constructors of the two levels agree.

**The object.**  `ImageBuffer.initialized` has the members as the initializer list of the
constructor sets them.  `ImageBuffer.construct` and `ImageBuffer.fromBytes` are the two
constructors, with their arithmetic, with the largest size of a vector, and with every `memcpy` into
the pixels.

**Addresses.**  `ImageBuffer.Layout` is the address arithmetic of a shape: nothing wraps, and the
valid coordinates are in bijection with the bytes.  It holds of every admitted shape, also of one
that is too large to be allocated.

**Refinement.**  `ImageBuffer.Valid` is what both constructors leave behind, and
`ImageBuffer.toImage` is the image it stands for.  `ImageBuffer.fromBytes_refines` says that the two
levels construct the same image, as far as a vector can hold it.

**Repacking.**  `ImageBuffer.fromBytes_repacks` is the result: a padded source is repacked sample by
sample, a narrow one is refused, and a shape that no vector can hold ends in `std::length_error`
before the stride of the source is looked at.  `ImageBuffer.fromBytes_largest` shows the last case
at the largest dimensions there are.
-/

namespace Imgjit

/-- `class Image`. -/
structure ImageBuffer where
  width : Int32 := 0
  height : Int32 := 0
  channels : Int32 := 0
  stride : UInt64 := 0
  pixels : List UInt8 := []
  deriving DecidableEq, Repr

namespace ImageBuffer

/-- `byte_count()`. -/
def byteCount (image : ImageBuffer) : ℕ := image.pixels.length

/-- `row(y)`, counted from `data()`. -/
def row (image : ImageBuffer) (y : Int32) : UInt64 := sizeT y * image.stride

/-- The subscript of `at(x, y, channel)` behind `row(y)`. -/
def column (image : ImageBuffer) (x channel : Int32) : UInt64 :=
  sizeT x * sizeT image.channels + sizeT channel

/-- Where `at(x, y, channel)` is, counted from `data()`. -/
def offset (image : ImageBuffer) (x y channel : Int32) : ℕ :=
  (image.row y).toNat + (image.column x channel).toNat

/-- `at(x, y, channel)`.  Outside the pixels there is no sample. -/
def sampleAt (image : ImageBuffer) (x y channel : Int32) : Option UInt8 :=
  image.pixels[image.offset x y channel]?

/-- `std::vector<std::uint8_t>::max_size()`: no object is larger than the largest difference of two
pointers. -/
def maxSize : ℕ := 2 ^ 63 - 1

/-- The members as the initializer list of the constructor sets them, for any three `int`s. -/
def initialized (width height channels : Int32) : ImageBuffer where
  width := width
  height := height
  channels := channels
  stride := sizeT width * sizeT channels

/-- `Image::Image(int, int, int)`: the initializer list, the check, and `pixels_.assign`, which
throws for a size that no vector can have. -/
def construct (width height channels : Int32) : Except Exn ImageBuffer :=
  let image := initialized width height channels
  let size := (image.stride * sizeT height).toNat
  if width.toInt ≤ 0 ∨ height.toInt ≤ 0 ∨ !isSupportedChannelCount channels then
    .error (.invalidArgument ("Image: bad dimensions " ++ toString width.toInt ++ "x"
      ++ toString height.toInt ++ "x" ++ toString channels.toInt))
  else if maxSize < size then
    .error (.lengthError "cannot create std::vector larger than max_size()")
  else
    .ok { image with pixels := List.replicate size 0 }

/-- `memcpy` of `count` bytes, from place `start` of the source to place `target` of the pixels.
Beyond the end of either it has no defined result. -/
def memcpy (pixels : List UInt8) (target : ℕ) (source : List UInt8) (start count : ℕ) :
    Except Exn (List UInt8) :=
  if start + count ≤ source.length ∧ target + count ≤ pixels.length then
    .ok (pixels.take target ++ (source.drop start).take count ++ pixels.drop (target + count))
  else .error .outOfBounds

/-- One turn of the row loop. -/
def copyRow (source : List UInt8) (sourceStride : UInt64) (image : ImageBuffer) (y : Int32) :
    Except Exn ImageBuffer := do
  let pixels ← memcpy image.pixels (image.row y).toNat source (sizeT y * sourceStride).toNat
    image.stride.toNat
  .ok { image with pixels := pixels }

/-- `Image::from_bytes`. -/
def fromBytes (width height channels : Int32) (source : List UInt8) (sourceStride : UInt64) :
    Except Exn ImageBuffer := do
  let image ← construct width height channels
  if sourceStride < image.stride then
    .error (.invalidArgument "Image::from_bytes: source stride is narrower than a packed row")
  else
    (List.range height.toInt.toNat).foldlM
      (fun image y => copyRow source sourceStride image (Int32.ofNat y)) image

/-! ## Valid buffers -/

/-- What the initializer list leaves behind for an admitted shape: its address arithmetic does not
need the bytes to be there. -/
structure Shaped (image : ImageBuffer) : Prop where
  shaped : Image.Shaped image.width image.height image.channels
  stride_eq : image.stride = sizeT image.width * sizeT image.channels

/-- What the constructor leaves behind: an admitted shape, and as many bytes as it takes. -/
structure Valid (image : ImageBuffer) : Prop extends image.Shaped where
  packed : image.pixels.length
    = image.width.toInt.toNat * image.channels.toInt.toNat * image.height.toInt.toNat

/-- The image a valid buffer stands for. -/
def toImage (image : ImageBuffer) (h : image.Valid) : Image :=
  Image.ofShaped h.shaped image.pixels <| by
    rw [h.packed, Image.byteCount_no_wrap h.shaped.1 h.shaped.2.1 h.shaped.2.2]

lemma toNat_sizeT_ofNat {n : ℕ} (h : n < 2 ^ 31) : (sizeT (Int32.ofNat n)).toNat = n := by
  have hint : (Int32.ofNat n).toInt = n := Int32.toInt_ofNat_of_lt h
  rw [toNat_sizeT _ (by omega), hint, Int.toNat_natCast]

/-- The constructor's test, as the model of images has it. -/
lemma not_shaped_iff {width height channels : Int32} :
    (width.toInt ≤ 0 ∨ height.toInt ≤ 0 ∨ (!isSupportedChannelCount channels) = true)
      ↔ ¬Image.Shaped width height channels := by
  rw [Image.Shaped, not_and_or, not_and_or, not_lt, not_lt, Bool.not_eq_true', Bool.not_eq_true]

/-- The image that the constructor makes of an admitted shape: packed rows, zero-filled. -/
def blank (width height channels : Int32) : ImageBuffer :=
  { initialized width height channels with
    pixels := List.replicate (sizeT width * sizeT channels * sizeT height).toNat 0 }

/-- The number of bytes of a shape, with nothing that could wrap. -/
def shapeBytes (width height channels : Int32) : ℕ :=
  width.toInt.toNat * channels.toInt.toNat * height.toInt.toNat

lemma toNat_size {width height channels : Int32} (h : Image.Shaped width height channels) :
    (sizeT width * sizeT channels * sizeT height).toNat = shapeBytes width height channels :=
  Image.byteCount_no_wrap h.1 h.2.1 h.2.2

lemma construct_ok {width height channels : Int32} (h : Image.Shaped width height channels)
    (hsize : shapeBytes width height channels ≤ maxSize) :
    construct width height channels = .ok (blank width height channels) := by
  have hroom : ¬maxSize < (sizeT width * sizeT channels * sizeT height).toNat := by
    rw [toNat_size h]
    exact not_lt.mpr hsize
  exact (if_neg (mt not_shaped_iff.mp (not_not.mpr h))).trans (if_neg hroom)

/-- **A shape that no vector can hold** is not constructed. -/
lemma construct_tooLarge {width height channels : Int32} (h : Image.Shaped width height channels)
    (hsize : maxSize < shapeBytes width height channels) :
    construct width height channels
      = .error (.lengthError "cannot create std::vector larger than max_size()") := by
  have hfull : maxSize < (sizeT width * sizeT channels * sizeT height).toNat := by
    rwa [toNat_size h]
  exact (if_neg (mt not_shaped_iff.mp (not_not.mpr h))).trans (if_pos hfull)

lemma initialized_shaped {width height channels : Int32}
    (h : Image.Shaped width height channels) : (initialized width height channels).Shaped :=
  ⟨h, rfl⟩

lemma blank_valid {width height channels : Int32} (h : Image.Shaped width height channels) :
    (blank width height channels).Valid := by
  refine ⟨⟨h, rfl⟩, ?_⟩
  rw [blank, List.length_replicate, toNat_size h]
  rfl

namespace Shaped

variable {image : ImageBuffer}

lemma toNat_stride (h : image.Shaped) :
    image.stride.toNat = image.width.toInt.toNat * image.channels.toInt.toNat := by
  rw [h.stride_eq, Image.stride_no_wrap h.shaped.1 h.shaped.2.2]

/-- **The product of stride and height does not wrap.** -/
lemma toNat_stride_mul_height (h : image.Shaped) :
    (image.stride * sizeT image.height).toNat
      = image.stride.toNat * image.height.toInt.toNat := by
  rw [h.toNat_stride, h.stride_eq,
    Image.byteCount_no_wrap h.shaped.1 h.shaped.2.1 h.shaped.2.2]

lemma size_lt (h : image.Shaped) : image.stride.toNat * image.height.toInt.toNat < 2 ^ 64 := by
  rw [← h.toNat_stride_mul_height]
  exact (image.stride * sizeT image.height).toNat_lt

lemma channels_pos (h : image.Shaped) : 0 < image.channels.toInt.toNat := by
  have hchannels := (isSupportedChannelCount_iff _).mp h.shaped.2.2
  omega

/-- Nor does the start of a row. -/
lemma toNat_row (h : image.Shaped) {y : Int32} (hy : 0 ≤ y.toInt)
    (hlt : y.toInt < image.height.toInt) :
    (image.row y).toNat = y.toInt.toNat * image.stride.toNat := by
  have hbytes := h.size_lt
  have hle : y.toInt.toNat * image.stride.toNat
      ≤ image.stride.toNat * image.height.toInt.toNat := by
    rw [Nat.mul_comm]
    exact Nat.mul_le_mul_left _ (by omega)
  rw [row, UInt64.toNat_mul, toNat_sizeT y hy, Nat.mod_eq_of_lt (by omega)]

/-- Nor does the place in the row. -/
lemma toNat_column (h : image.Shaped) {x channel : Int32} (hx : 0 ≤ x.toInt)
    (hxlt : x.toInt < image.width.toInt) (hc : 0 ≤ channel.toInt)
    (hclt : channel.toInt < image.channels.toInt) :
    (image.column x channel).toNat
      = x.toInt.toNat * image.channels.toInt.toNat + channel.toInt.toNat := by
  have hchannels := (isSupportedChannelCount_iff _).mp h.shaped.2.2
  have hplace : x.toInt.toNat * image.channels.toInt.toNat + channel.toInt.toNat
      < image.width.toInt.toNat * image.channels.toInt.toNat :=
    RowMajor.column_lt (by omega) (by omega)
  have hstride := image.stride.toNat_lt
  rw [h.toNat_stride] at hstride
  rw [column, UInt64.toNat_add, UInt64.toNat_mul, toNat_sizeT x hx, toNat_sizeT channel hc,
    toNat_sizeT image.channels (by omega),
    Nat.mod_eq_of_lt (a := x.toInt.toNat * image.channels.toInt.toNat) (by omega),
    Nat.mod_eq_of_lt (by omega)]

end Shaped

lemma Valid.byteCount_eq {image : ImageBuffer} (h : image.Valid) :
    image.byteCount = image.stride.toNat * image.height.toInt.toNat := by
  rw [byteCount, h.packed, h.toNat_stride]

/-! ## Coordinates -/

/-- The coordinates `(x, y, channel)` of the samples of a shape. -/
def Coordinates (width height channels : Int32) : Set (Int32 × Int32 × Int32) :=
  {p | (0 ≤ p.1.toInt ∧ p.1.toInt < width.toInt) ∧ (0 ≤ p.2.1.toInt ∧ p.2.1.toInt < height.toInt)
    ∧ 0 ≤ p.2.2.toInt ∧ p.2.2.toInt < channels.toInt}

/-- The values of a loop `for (int v = 0; v < limit; ++v)`. -/
lemma bijOn_toNat (limit : Int32) : Set.BijOn (fun v : Int32 => v.toInt.toNat)
    {v | 0 ≤ v.toInt ∧ v.toInt < limit.toInt} (Set.Iio limit.toInt.toNat) := by
  have hlimit := Int32.toInt_lt limit
  have hvalue : ∀ {n : ℕ}, n < limit.toInt.toNat → (Int32.ofNat n).toInt = n :=
    fun hn => Int32.toInt_ofNat_of_lt (by omega)
  refine ⟨?_, ?_, ?_⟩
  · rintro v ⟨hv, hlt⟩
    exact (Int.toNat_lt_toNat (hv.trans_lt hlt)).mpr hlt
  · rintro v ⟨hv, -⟩ w ⟨hw, -⟩ heq
    refine Int32.toInt_inj.mp ?_
    rw [← Int.toNat_of_nonneg hv, ← Int.toNat_of_nonneg hw]
    exact congrArg _ heq
  · intro n hn
    refine ⟨Int32.ofNat n, ⟨?_, ?_⟩, ?_⟩
    · rw [hvalue hn]
      exact Int.natCast_nonneg n
    · rw [hvalue hn]
      exact Int.lt_toNat.mp hn
    · change (Int32.ofNat n).toInt.toNat = n
      rw [hvalue hn, Int.toNat_natCast]

/-- The natural numbers of a coordinate. -/
def naturals (p : Int32 × Int32 × Int32) : ℕ × ℕ × ℕ :=
  (p.1.toInt.toNat, p.2.1.toInt.toNat, p.2.2.toInt.toNat)

lemma bijOn_naturals (width height channels : Int32) :
    Set.BijOn naturals (Coordinates width height channels)
      (RowMajor.Inside width.toInt.toNat height.toInt.toNat channels.toInt.toNat) :=
  (bijOn_toNat width).prodMap ((bijOn_toNat height).prodMap (bijOn_toNat channels))

namespace Shaped

variable {image : ImageBuffer}

/-- **The address arithmetic is exact** on the coordinates of the image. -/
theorem offset_eq (h : image.Shaped) {p : Int32 × Int32 × Int32}
    (hp : p ∈ Coordinates image.width image.height image.channels) :
    image.offset p.1 p.2.1 p.2.2
      = p.2.1.toInt.toNat * image.stride.toNat + p.1.toInt.toNat * image.channels.toInt.toNat
        + p.2.2.toInt.toNat := by
  obtain ⟨⟨hx, hxlt⟩, ⟨hy, hylt⟩, hc, hclt⟩ := hp
  rw [offset, h.toNat_row hy hylt, h.toNat_column hx hxlt hc hclt, Nat.add_assoc]

lemma offset_eq_index (h : image.Shaped) {p : Int32 × Int32 × Int32}
    (hp : p ∈ Coordinates image.width image.height image.channels) :
    image.offset p.1 p.2.1 p.2.2
      = RowMajor.index image.width.toInt.toNat image.channels.toInt.toNat (naturals p) := by
  rw [h.offset_eq hp, h.toNat_stride]
  rfl

/-- **The coordinates address every byte**, each once. -/
theorem offset_bijOn (h : image.Shaped) :
    Set.BijOn (fun p : Int32 × Int32 × Int32 => image.offset p.1 p.2.1 p.2.2)
      (Coordinates image.width image.height image.channels)
      (Set.Iio (image.stride.toNat * image.height.toInt.toNat)) := by
  rw [h.toNat_stride]
  refine ((RowMajor.bijOn_index _ _ h.channels_pos).comp (bijOn_naturals _ _ _)).congr ?_
  exact fun p hp => (h.offset_eq_index hp).symm

end Shaped

/-! ## The row loop -/

variable {source : List UInt8} {sourceStride : UInt64}

/-- The bytes that row `y` is copied from. -/
def sourceRow (source : List UInt8) (sourceStride : UInt64) (stride y : ℕ) : List UInt8 :=
  (source.drop (y * sourceStride.toNat)).take stride

lemma length_sourceRow {stride y : ℕ} (h : y * sourceStride.toNat + stride ≤ source.length) :
    (sourceRow source sourceStride stride y).length = stride := by
  rw [sourceRow, List.length_take, List.length_drop]
  omega

lemma getElem?_sourceRow {stride y k : ℕ} (hk : k < stride) :
    (sourceRow source sourceStride stride y)[k]? = source[y * sourceStride.toNat + k]? := by
  rw [sourceRow, List.getElem?_take_of_lt hk, List.getElem?_drop]

/-- The row loop up to row `n`, of rows that the source holds and `std::size_t` can address. -/
structure Readable (source : List UInt8) (sourceStride : UInt64) (stride n : ℕ) : Prop where
  held : ∀ y < n, y * sourceStride.toNat + stride ≤ source.length
  addressed : ∀ y < n, y * sourceStride.toNat < 2 ^ 64

/-- **One turn**: behind the rows that are done, the next row is replaced. -/
lemma copyRow_ok {image : ImageBuffer} (h : image.Valid) {y : ℕ}
    (hy : y < image.height.toInt.toNat)
    (hheld : y * sourceStride.toNat + image.stride.toNat ≤ source.length)
    (haddressed : y * sourceStride.toNat < 2 ^ 64) {done rest : List UInt8}
    (hpixels : image.pixels = done ++ rest) (hdone : done.length = y * image.stride.toNat) :
    copyRow source sourceStride image (Int32.ofNat y) = .ok { image with
      pixels := done ++ sourceRow source sourceStride image.stride.toNat y
        ++ rest.drop image.stride.toNat } := by
  have hheight := Int32.toInt_lt image.height
  have hint : (Int32.ofNat y).toInt = y := Int32.toInt_ofNat_of_lt (by omega)
  have hrow : (image.row (Int32.ofNat y)).toNat = done.length := by
    rw [h.toNat_row (by omega) (by omega), hint, Int.toNat_natCast, hdone]
  have hstart : (sizeT (Int32.ofNat y) * sourceStride).toNat = y * sourceStride.toNat := by
    rw [UInt64.toNat_mul, toNat_sizeT_ofNat (by omega), Nat.mod_eq_of_lt haddressed]
  have hroom : done.length + image.stride.toNat ≤ image.pixels.length := by
    have hbytes : image.pixels.length = _ := h.byteCount_eq
    rw [hbytes, hdone, ← Nat.succ_mul, Nat.mul_comm]
    exact Nat.mul_le_mul_left _ hy
  rw [copyRow, hrow, hstart, memcpy, if_pos ⟨hheld, hroom⟩, hpixels, List.take_left,
    List.drop_length_add_append]
  rfl

/-- **The loop**: the rows of the source in front, and what was there before behind them. -/
lemma copyRows_ok {image : ImageBuffer} (h : image.Valid) {n : ℕ}
    (hn : n ≤ image.height.toInt.toNat)
    (hread : Readable source sourceStride image.stride.toNat n) :
    (List.range n).foldlM (fun image y => copyRow source sourceStride image (Int32.ofNat y)) image
      = .ok { image with
        pixels := (List.range n).flatMap (sourceRow source sourceStride image.stride.toNat)
          ++ image.pixels.drop (n * image.stride.toNat) } := by
  induction n with
  | zero =>
      rw [Nat.zero_mul, List.drop_zero]
      rfl
  | succ n ih =>
      have hbelow : Readable source sourceStride image.stride.toNat n :=
        ⟨fun y hy => hread.held y (Nat.lt_succ_of_lt hy),
          fun y hy => hread.addressed y (Nat.lt_succ_of_lt hy)⟩
      have hblocks : ((List.range n).flatMap
          (sourceRow source sourceStride image.stride.toNat)).length = n * image.stride.toNat :=
        RowMajor.length_blocks fun y hy => length_sourceRow (hbelow.held y hy)
      have hroom : n * image.stride.toNat ≤ image.pixels.length := by
        have hbytes : image.pixels.length = _ := h.byteCount_eq
        rw [hbytes, Nat.mul_comm]
        exact Nat.mul_le_mul_left _ (Nat.le_of_succ_le hn)
      -- What the first `n` turns leave is a valid buffer again, so the next one goes through.
      let copied : ImageBuffer := { image with
        pixels := (List.range n).flatMap (sourceRow source sourceStride image.stride.toNat)
          ++ image.pixels.drop (n * image.stride.toNat) }
      have hvalid : copied.Valid := by
        refine ⟨⟨h.shaped, h.stride_eq⟩, ?_⟩
        rw [List.length_append, hblocks, List.length_drop, Nat.add_sub_of_le hroom]
        exact h.packed
      have hturn := copyRow_ok hvalid hn (hread.held n n.lt_succ_self)
        (hread.addressed n n.lt_succ_self) rfl hblocks
      rw [List.drop_drop, ← Nat.succ_mul] at hturn
      rw [List.range_succ, List.foldlM_append, ih (Nat.le_of_succ_le hn) hbelow,
        List.flatMap_append, List.flatMap_singleton]
      change (do
        let image' ← copyRow source sourceStride copied (Int32.ofNat n)
        Except.ok image') = _
      rw [hturn]
      rfl

/-! ## Repacking a source -/

section Repacking

variable {width height channels : Int32}

/-- One past the last byte that the last row is copied from. -/
def reach (width height channels : Int32) (sourceStride : UInt64) : ℕ :=
  (height.toInt.toNat - 1) * sourceStride.toNat + width.toInt.toNat * channels.toInt.toNat

lemma row_le_reach {y : ℕ} (hy : y < height.toInt.toNat) :
    y * sourceStride.toNat + width.toInt.toNat * channels.toInt.toNat
      ≤ reach width height channels sourceStride :=
  Nat.add_le_add_right (Nat.mul_le_mul_right _ (Nat.le_sub_one_of_lt hy)) _

lemma length_row (hheld : reach width height channels sourceStride ≤ source.length) :
    ∀ y < height.toInt.toNat, (sourceRow source sourceStride
      (width.toInt.toNat * channels.toInt.toNat) y).length
        = width.toInt.toNat * channels.toInt.toNat :=
  fun _ hy => length_sourceRow ((row_le_reach hy).trans hheld)

/-- The image that `fromBytes` makes of a source: its rows without their padding. -/
def repacked (width height channels : Int32) (source : List UInt8) (sourceStride : UInt64) :
    ImageBuffer where
  width := width
  height := height
  channels := channels
  stride := sizeT width * sizeT channels
  pixels := (List.range height.toInt.toNat).flatMap
    (sourceRow source sourceStride (width.toInt.toNat * channels.toInt.toNat))

lemma repacked_valid (h : Image.Shaped width height channels)
    (hheld : reach width height channels sourceStride ≤ source.length) :
    (repacked width height channels source sourceStride).Valid := by
  refine ⟨⟨h, rfl⟩, ?_⟩
  rw [repacked, RowMajor.length_blocks (length_row hheld), Nat.mul_comm]

/-- A source that is narrower than the image is refused. -/
lemma fromBytes_narrow (h : Image.Shaped width height channels)
    (hsize : shapeBytes width height channels ≤ maxSize)
    (hnarrow : sourceStride.toNat < width.toInt.toNat * channels.toInt.toNat) :
    fromBytes width height channels source sourceStride = .error (.invalidArgument
      "Image::from_bytes: source stride is narrower than a packed row") := by
  have hless : sourceStride < (blank width height channels).stride := by
    rw [UInt64.lt_iff_toNat_lt, (blank_valid h).toNat_stride]
    exact hnarrow
  rw [fromBytes, construct_ok h hsize]
  exact if_pos hless

/-- **A source whose rows are wide enough** is repacked. -/
theorem fromBytes_ok (h : Image.Shaped width height channels)
    (hsize : shapeBytes width height channels ≤ maxSize)
    (hwide : width.toInt.toNat * channels.toInt.toNat ≤ sourceStride.toNat)
    (hheld : reach width height channels sourceStride ≤ source.length)
    (haddressed : reach width height channels sourceStride < 2 ^ 64) :
    fromBytes width height channels source sourceStride
      = .ok (repacked width height channels source sourceStride) := by
  have hvalid := blank_valid h
  have hstride : (blank width height channels).stride.toNat
      = width.toInt.toNat * channels.toInt.toNat := hvalid.toNat_stride
  have hwide' : ¬sourceStride < (blank width height channels).stride := by
    rw [UInt64.lt_iff_toNat_lt, hstride]
    exact not_lt.mpr hwide
  have hread : Readable source sourceStride (blank width height channels).stride.toNat
      height.toInt.toNat := by
    rw [hstride]
    exact ⟨fun y hy => (row_le_reach hy).trans hheld,
      fun y hy => ((Nat.le_add_right _ _).trans (row_le_reach hy)).trans_lt haddressed⟩
  have hloop := copyRows_ok hvalid (le_refl height.toInt.toNat) hread
  -- Behind the last row nothing of the blank image is left.
  have hbehind : (blank width height channels).pixels.drop
      (height.toInt.toNat * (blank width height channels).stride.toNat) = [] := by
    rw [List.drop_eq_nil_iff, Nat.mul_comm]
    exact hvalid.byteCount_eq.le
  rw [hbehind, List.append_nil, hstride] at hloop
  rw [fromBytes, construct_ok h hsize]
  exact (if_neg hwide').trans hloop

/-- **A shape that no vector can hold** is refused whatever the source is. -/
lemma fromBytes_tooLarge (h : Image.Shaped width height channels)
    (hsize : maxSize < shapeBytes width height channels) (source : List UInt8)
    (sourceStride : UInt64) : fromBytes width height channels source sourceStride
      = .error (.lengthError "cannot create std::vector larger than max_size()") := by
  rw [fromBytes, construct_tooLarge h hsize]
  rfl

/-- **Nothing behind `reach` is read**: the bytes there may be any, and none need be there. -/
theorem repacked_frame (hheld : reach width height channels sourceStride ≤ source.length)
    (rest : List UInt8) :
    repacked width height channels
        (source.take (reach width height channels sourceStride) ++ rest) sourceStride
      = repacked width height channels source sourceStride := by
  have hrow : ∀ y ∈ List.range height.toInt.toNat,
      sourceRow (source.take (reach width height channels sourceStride) ++ rest) sourceStride
          (width.toInt.toNat * channels.toInt.toNat) y
        = sourceRow source sourceStride (width.toInt.toNat * channels.toInt.toNat) y := by
    intro y hy
    have hle : y * sourceStride.toNat + width.toInt.toNat * channels.toInt.toNat
        ≤ (source.take (reach width height channels sourceStride)).length := by
      rw [List.length_take, min_eq_left hheld]
      exact row_le_reach (List.mem_range.mp hy)
    have hsplit := Image.take_drop_append hle
      (source.drop (reach width height channels sourceStride))
    rw [List.take_append_drop] at hsplit
    rw [sourceRow, sourceRow, Image.take_drop_append hle rest, hsplit]
  rw [repacked, repacked, List.flatMap_congr hrow]

/-- **Sample by sample**, the image is the source. -/
theorem sampleAt_repacked (h : Image.Shaped width height channels)
    (hheld : reach width height channels sourceStride ≤ source.length)
    {p : Int32 × Int32 × Int32} (hp : p ∈ Coordinates width height channels) :
    ∃ sample, (repacked width height channels source sourceStride).sampleAt p.1 p.2.1 p.2.2
        = some sample
      ∧ source[p.2.1.toInt.toNat * sourceStride.toNat
        + p.1.toInt.toNat * channels.toInt.toNat + p.2.2.toInt.toNat]? = some sample := by
  have hvalid := repacked_valid h hheld
  obtain ⟨hx, hy, hc⟩ := (bijOn_naturals width height channels).mapsTo hp
  have hcolumn := RowMajor.column_lt hx hc
  have hsample : (repacked width height channels source sourceStride).sampleAt p.1 p.2.1 p.2.2
      = source[p.2.1.toInt.toNat * sourceStride.toNat
        + p.1.toInt.toNat * channels.toInt.toNat + p.2.2.toInt.toNat]? := by
    rw [sampleAt, hvalid.offset_eq hp, hvalid.toNat_stride, Nat.add_assoc, Nat.add_assoc]
    exact (RowMajor.getElem?_blocks (length_row hheld) hy hcolumn).trans
      (getElem?_sourceRow hcolumn)
  have hlt : p.2.1.toInt.toNat * sourceStride.toNat
      + p.1.toInt.toNat * channels.toInt.toNat + p.2.2.toInt.toNat < source.length := by
    rw [Nat.add_assoc]
    exact (Nat.add_lt_add_left hcolumn _).trans_le ((row_le_reach hy).trans hheld)
  exact ⟨_, hsample.trans (List.getElem?_eq_getElem hlt), List.getElem?_eq_getElem hlt⟩

/-! ## The image it stands for -/

/-- The buffer holds the image. -/
def Represents (image : ImageBuffer) (model : Image) : Prop :=
  ∃ h : image.Valid, image.toImage h = model

/-- The same exception, or a buffer and the image it holds. -/
def Refines : Except Exn ImageBuffer → Except Exn Image → Prop
  | .ok image, .ok model => image.Represents model
  | .error error, .error error' => error = error'
  | _, _ => False

lemma construct_error (h : ¬Image.Shaped width height channels) :
    ∃ error, construct width height channels = .error error
      ∧ Image.construct width height channels = .error error :=
  ⟨_, if_pos (not_shaped_iff.mpr h), dif_neg h⟩

/-- The constructor makes the same image on both levels, as far as a vector can hold it. -/
theorem construct_refines (hsize : shapeBytes width height channels ≤ maxSize) :
    Refines (construct width height channels) (Image.construct width height channels) := by
  by_cases h : Image.Shaped width height channels
  · rw [construct_ok h hsize, Image.construct, dif_pos h]
    exact ⟨blank_valid h, rfl⟩
  · obtain ⟨error, hbuffer, himage⟩ := construct_error h
    rw [hbuffer, himage]
    exact rfl

/-- **So does `fromBytes`**, of every source that holds the rows. -/
theorem fromBytes_refines (hsize : shapeBytes width height channels ≤ maxSize)
    (hheld : reach width height channels sourceStride ≤ source.length)
    (haddressed : reach width height channels sourceStride < 2 ^ 64) :
    Refines (fromBytes width height channels source sourceStride)
      (Image.fromBytes width height channels source sourceStride) := by
  by_cases h : Image.Shaped width height channels
  · rcases lt_or_ge sourceStride.toNat (width.toInt.toNat * channels.toInt.toNat) with hlt | hge
    · rw [fromBytes_narrow h hsize hlt, Image.fromBytes_narrow h hlt]
      exact rfl
    · obtain ⟨size, hmodel⟩ := Image.fromBytes_eq h hge fun y hy => (row_le_reach hy).trans hheld
      rw [fromBytes_ok h hsize hge hheld haddressed, hmodel]
      exact ⟨repacked_valid h hheld, rfl⟩
  · obtain ⟨error, hbuffer, himage⟩ := construct_error h
    rw [fromBytes, Image.fromBytes, hbuffer, himage]
    exact rfl

/-- **A sample is the same** on both levels, wherever there is one. -/
theorem Represents.sampleAt {image : ImageBuffer} {model : Image} (h : image.Represents model)
    {p : Int32 × Int32 × Int32} (hp : p ∈ Coordinates image.width image.height image.channels) :
    image.sampleAt p.1 p.2.1 p.2.2
      = some (model.sampleAt p.1.toInt.toNat p.2.1.toInt.toNat p.2.2.toInt.toNat) := by
  obtain ⟨hvalid, rfl⟩ := h
  have hlt : image.offset p.1 p.2.1 p.2.2 < image.pixels.length := by
    have hmem := hvalid.offset_bijOn.mapsTo hp
    rwa [← hvalid.byteCount_eq] at hmem
  have hindex := hvalid.offset_eq_index hp
  rw [ImageBuffer.sampleAt, Image.sampleAt, List.getD_eq_getElem?_getD,
    List.getElem?_eq_getElem hlt]
  change _ = some (image.pixels[RowMajor.index image.width.toInt.toNat
    image.channels.toInt.toNat (naturals p)]?.getD 0)
  rw [← hindex, List.getElem?_eq_getElem hlt, Option.getD_some]

/-! ## Every shape is addressed exactly -/

/-- The members of an image of this shape, and what their address arithmetic comes to. -/
structure Layout (image : ImageBuffer) (width height channels : Int32) : Prop where
  shape : image.width = width ∧ image.height = height ∧ image.channels = channels
  stride_eq : image.stride.toNat = width.toInt.toNat * channels.toInt.toNat
  /-- `stride * height` does not wrap. -/
  size_eq : (image.stride * sizeT height).toNat = shapeBytes width height channels
  /-- Nor does any offset. -/
  offset_eq : ∀ p ∈ Coordinates width height channels, image.offset p.1 p.2.1 p.2.2
    = p.2.1.toInt.toNat * image.stride.toNat + p.1.toInt.toNat * channels.toInt.toNat
      + p.2.2.toInt.toNat
  /-- Every byte is addressed, by one sample. -/
  bijOn : Set.BijOn (fun p : Int32 × Int32 × Int32 => image.offset p.1 p.2.1 p.2.2)
    (Coordinates width height channels) (Set.Iio (image.stride * sizeT height).toNat)

lemma Shaped.layout {image : ImageBuffer} (h : image.Shaped) :
    image.Layout image.width image.height image.channels where
  shape := ⟨rfl, rfl, rfl⟩
  stride_eq := h.toNat_stride
  size_eq := by
    rw [h.toNat_stride_mul_height, h.toNat_stride]
    rfl
  offset_eq := fun _ hp => h.offset_eq hp
  bijOn := by
    rw [h.toNat_stride_mul_height]
    exact h.offset_bijOn

/-- An image of this shape, with all its bytes. -/
structure Addressed (image : ImageBuffer) (width height channels : Int32) : Prop extends
    image.Layout width height channels where
  byteCount_eq : image.byteCount = (image.stride * sizeT height).toNat

lemma Valid.addressed {image : ImageBuffer} (h : image.Valid) :
    image.Addressed image.width image.height image.channels where
  toLayout := h.layout
  byteCount_eq := h.byteCount_eq.trans h.toNat_stride_mul_height.symm

/-- An object in memory: its size is a `std::size_t`. -/
structure Allocation where
  bytes : List UInt8
  size_lt : bytes.length < 2 ^ 64

/-- What becomes of a source.  Its rows are at least as wide as the image's, and it ends with the
last one or later; or it is narrower. -/
structure Repacks (width height channels : Int32) (source : Allocation) (sourceStride : UInt64) :
    Prop where
  /-- The image is the source, sample by sample, and nothing behind the last row is read. -/
  wide : width.toInt.toNat * channels.toInt.toNat ≤ sourceStride.toNat →
    reach width height channels sourceStride ≤ source.bytes.length →
    ∃ image, fromBytes width height channels source.bytes sourceStride = .ok image
      ∧ image.Addressed width height channels
      ∧ (∀ p ∈ Coordinates width height channels, ∃ sample,
        image.sampleAt p.1 p.2.1 p.2.2 = some sample
          ∧ source.bytes[p.2.1.toInt.toNat * sourceStride.toNat
            + p.1.toInt.toNat * channels.toInt.toNat + p.2.2.toInt.toNat]? = some sample)
      ∧ (∀ rest, fromBytes width height channels
          (source.bytes.take (reach width height channels sourceStride) ++ rest) sourceStride
        = .ok image)
      ∧ Refines (.ok image)
        (Image.fromBytes width height channels source.bytes sourceStride)
      ∧ ∀ model, Image.fromBytes width height channels source.bytes sourceStride = .ok model →
        ∀ p ∈ Coordinates width height channels, image.sampleAt p.1 p.2.1 p.2.2
          = some (model.sampleAt p.1.toInt.toNat p.2.1.toInt.toNat p.2.2.toInt.toNat)
  narrow : sourceStride.toNat < width.toInt.toNat * channels.toInt.toNat →
    fromBytes width height channels source.bytes sourceStride = .error (.invalidArgument
      "Image::from_bytes: source stride is narrower than a packed row")

lemma repacks_of_shaped (hshaped : Image.Shaped width height channels)
    (hsize : shapeBytes width height channels ≤ maxSize) (source : Allocation)
    (sourceStride : UInt64) : Repacks width height channels source sourceStride := by
  refine ⟨fun hwide hheld => ?_, fromBytes_narrow hshaped hsize⟩
  have haddressed := hheld.trans_lt source.size_lt
  have hok := fromBytes_ok hshaped hsize hwide hheld haddressed
  have hrefines := fromBytes_refines hsize hheld haddressed
  rw [hok] at hrefines
  refine ⟨_, hok, (repacked_valid hshaped hheld).addressed,
    fun p hp => sampleAt_repacked hshaped hheld hp, fun rest => ?_, hrefines, ?_⟩
  · have hheld' : reach width height channels sourceStride
        ≤ (source.bytes.take (reach width height channels sourceStride) ++ rest).length := by
      rw [List.length_append, List.length_take, min_eq_left hheld]
      exact Nat.le_add_right _ _
    rw [fromBytes_ok hshaped hsize hwide hheld' haddressed, repacked_frame hheld rest]
  · intro model hmodel p hp
    rw [hmodel] at hrefines
    have hrepresents : Represents _ model := hrefines
    exact hrepresents.sampleAt hp

/-- **Every shape can be addressed, and every source be repacked into one that a vector can hold.**
The arithmetic is exact for all positive dimensions and the channel counts of the protocol.  Up to
`2 ^ 63 - 1` bytes the image is constructed, and a source of any stride that is wide enough is
copied into it, sample by sample; a narrower one is refused.  A larger shape ends in
`std::length_error`, whatever the source is. -/
theorem fromBytes_repacks (hwidth : 0 < width.toInt) (hheight : 0 < height.toInt)
    (hchannels : channels.toInt = 1 ∨ channels.toInt = 3 ∨ channels.toInt = 4) :
    (initialized width height channels).Layout width height channels
      ∧ (shapeBytes width height channels ≤ maxSize →
        (∃ image, construct width height channels = .ok image
          ∧ image.Addressed width height channels
          ∧ Refines (.ok image) (Image.construct width height channels))
        ∧ ∀ source sourceStride, Repacks width height channels source sourceStride)
      ∧ (maxSize < shapeBytes width height channels → ∀ source sourceStride,
        construct width height channels
            = .error (.lengthError "cannot create std::vector larger than max_size()")
          ∧ fromBytes width height channels source sourceStride
            = .error (.lengthError "cannot create std::vector larger than max_size()")) := by
  have hshaped : Image.Shaped width height channels :=
    ⟨hwidth, hheight, (isSupportedChannelCount_iff channels).mpr hchannels⟩
  refine ⟨(initialized_shaped hshaped).layout, fun hsize => ⟨?_, ?_⟩, fun hsize source stride => ?_⟩
  · have hok := construct_ok hshaped hsize
    exact ⟨_, hok, (blank_valid hshaped).addressed, hok ▸ construct_refines hsize⟩
  · exact repacks_of_shaped hshaped hsize
  · exact ⟨construct_tooLarge hshaped hsize, fromBytes_tooLarge hshaped hsize source stride⟩

/-- Two rows of two gray samples, three bytes apart. -/
def paddedPair : Allocation := ⟨[10, 20, 0, 30, 40], by decide⟩

/-- The padded pair is repacked: the sample of the second row comes from behind the padding. -/
theorem fromBytes_repacks_paddedPair : ∃ image, fromBytes 2 2 1 paddedPair.bytes 3 = .ok image
    ∧ image.sampleAt 1 1 0 = some 40 := by
  obtain ⟨image, himage, -, hsamples, -⟩ :=
    (((@fromBytes_repacks 2 2 1 (by decide) (by decide) (by decide)).2.1 (by decide)).2
      paddedPair 3).wide (by decide) (by decide)
  obtain ⟨sample, hsample, hsource⟩ := hsamples (1, 1, 0)
    ⟨⟨by decide, by decide⟩, ⟨by decide, by decide⟩, by decide, by decide⟩
  exact ⟨image, himage, hsample.trans hsource.symm⟩

/-- The largest dimensions that an `int` has: a source with packed rows is there, all its offsets
are below `2 ^ 64`, and no image comes of it.  Nor is a narrower stride what is complained of. -/
theorem fromBytes_largest : ∃ source : Allocation,
    reach 2147483647 2147483647 4 8589934588 ≤ source.bytes.length
      ∧ (2147483647 : Int32).toInt.toNat * (4 : Int32).toInt.toNat ≤ (8589934588 : UInt64).toNat
      ∧ fromBytes 2147483647 2147483647 4 source.bytes 8589934588
        = .error (.lengthError "cannot create std::vector larger than max_size()")
      ∧ fromBytes 2147483647 2147483647 4 source.bytes 1
        = .error (.lengthError "cannot create std::vector larger than max_size()") := by
  have hshaped : Image.Shaped 2147483647 2147483647 4 := by decide
  have hsize : maxSize < shapeBytes 2147483647 2147483647 4 := by decide
  refine ⟨⟨List.replicate (reach 2147483647 2147483647 4 8589934588) 0, ?_⟩, ?_, by decide,
    fromBytes_tooLarge hshaped hsize _ _, fromBytes_tooLarge hshaped hsize _ _⟩
  · rw [List.length_replicate]
    decide
  · rw [List.length_replicate]

end Repacking

end ImageBuffer

end Imgjit
