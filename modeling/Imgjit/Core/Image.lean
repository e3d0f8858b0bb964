import Imgjit.Core.CppTypes
import Imgjit.Library.RowMajor
import Mathlib.Data.List.GetD
import Mathlib.Tactic.Ring

/-!
# Images

The one image representation of the project: 8-bit samples, 1, 3 or 4 interleaved channels,
row-major, packed rows.  Every backend, the wire protocol and the reference client speak of images
in this form, so it is also the form in which the theorems about pixels are stated.

**The type.**  `Image` carries its own well-formedness, so an image with impossible dimensions or
with the wrong number of bytes cannot be written down, and no theorem about an image has to assume
that it is sensible.  The default-constructed `Image{}`, which the sources use for "no picture
here", is `none : Option Image` wherever it occurs.

**Construction.**  `Image.construct` and `Image.fromBytes` are the two ways the sources make one.
Both do their size arithmetic in `std::size_t`, that is modulo `2 ^ 64`; `byteCount_no_wrap` says
that for every shape the constructor admits nothing wraps.

**What is read.**  `fromBytes` reads its source through `memcpyRow`, which refuses to read past the
end of the buffer it is given.  `fromBytes_append` turns that into the frame property the server
needs: when the call succeeds on a prefix of a buffer, what lies behind the prefix does not matter.
`RowRead` lists the reads one by one, and `copyRows_bytes` says that the pixels are what the reads
bring, in order.

**Sample by sample.**  `Image.generate` builds an image from a function of the coordinates;
`sampleAt_generate` and `Image.ext_sampleAt` say that an image is exactly its shape and its samples.
This is how the operations of the oracle and the kernels of the GPU are compared.
-/

namespace Imgjit

/-- `is_supported_channel_count`: gray, RGB and RGBA are the only channel counts on the wire. -/
def isSupportedChannelCount (channels : Int32) : Bool :=
  channels == 1 || channels == 3 || channels == 4

lemma isSupportedChannelCount_iff (channels : Int32) :
    isSupportedChannelCount channels = true
      ↔ channels.toInt = 1 ∨ channels.toInt = 3 ∨ channels.toInt = 4 := by
  simp only [isSupportedChannelCount, Bool.or_eq_true, beq_iff_eq, or_assoc, ← Int32.toInt_inj]
  rfl

lemma gray_supported : 1 = 1 ∨ 1 = 3 ∨ 1 = 4 := .inl rfl

lemma rgb_supported : 3 = 1 ∨ 3 = 3 ∨ 3 = 4 := .inr (.inl rfl)

lemma one_lt_extent : 1 < 2 ^ 31 := by decide

/-- An image: packed rows of interleaved samples, with the shape the constructor admits. -/
structure Image where
  width : ℕ
  height : ℕ
  channels : ℕ
  pixels : List UInt8
  width_pos : 0 < width
  width_lt : width < 2 ^ 31
  height_pos : 0 < height
  height_lt : height < 2 ^ 31
  supported : channels = 1 ∨ channels = 3 ∨ channels = 4
  packed : pixels.length = width * channels * height
  deriving DecidableEq, Repr

namespace Image

/-- Bytes in one packed row. -/
def stride (image : Image) : ℕ := image.width * image.channels

/-- `pixels_.size()`. -/
def byteCount (image : Image) : ℕ := image.pixels.length

/-- `at(x, y, channel)` (`at` is a keyword of Lean): no bounds checking, the callers clamp. -/
def sampleAt (image : Image) (x y channel : ℕ) : UInt8 :=
  image.pixels.getD (y * image.stride + x * image.channels + channel) 0

lemma channels_pos (image : Image) : 0 < image.channels := by
  rcases image.supported with h | h | h <;> omega

lemma stride_pos (image : Image) : 0 < image.stride :=
  Nat.mul_pos image.width_pos image.channels_pos

lemma byteCount_eq (image : Image) : image.byteCount = image.stride * image.height :=
  image.packed

/-! ## Construction -/

/-- **No admitted shape wraps.**  The largest one is within a few gigabytes of `2 ^ 64`, and fits.
-/
theorem byteCount_no_wrap {width height channels : Int32} (hw : 0 < width.toInt)
    (hh : 0 < height.toInt) (hc : isSupportedChannelCount channels = true) :
    (sizeT width * sizeT channels * sizeT height).toNat
      = width.toInt.toNat * channels.toInt.toNat * height.toInt.toNat := by
  have hc' := (isSupportedChannelCount_iff channels).mp hc
  have hwlt := Int32.toInt_lt width
  have hhlt := Int32.toInt_lt height
  rw [UInt64.toNat_mul, UInt64.toNat_mul, toNat_sizeT width (by omega),
    toNat_sizeT channels (by omega), toNat_sizeT height (by omega)]
  have hrow : width.toInt.toNat * channels.toInt.toNat ≤ (2 ^ 31 - 1) * 4 :=
    Nat.mul_le_mul (by omega) (by omega)
  have hall : width.toInt.toNat * channels.toInt.toNat * height.toInt.toNat
      ≤ (2 ^ 31 - 1) * 4 * (2 ^ 31 - 1) := Nat.mul_le_mul hrow (by omega)
  rw [Nat.mod_eq_of_lt (a := width.toInt.toNat * channels.toInt.toNat) (by omega),
    Nat.mod_eq_of_lt (by omega)]

/-- The same for one row. -/
lemma stride_no_wrap {width channels : Int32} (hw : 0 < width.toInt)
    (hc : isSupportedChannelCount channels = true) :
    (sizeT width * sizeT channels).toNat = width.toInt.toNat * channels.toInt.toNat := by
  have hc' := (isSupportedChannelCount_iff channels).mp hc
  have hwlt := Int32.toInt_lt width
  rw [UInt64.toNat_mul, toNat_sizeT width (by omega), toNat_sizeT channels (by omega)]
  have hrow : width.toInt.toNat * channels.toInt.toNat ≤ (2 ^ 31 - 1) * 4 :=
    Nat.mul_le_mul (by omega) (by omega)
  exact Nat.mod_eq_of_lt (by omega)

/-- The constructor's test: positive dimensions and a channel count of the protocol. -/
def Shaped (width height channels : Int32) : Prop :=
  0 < width.toInt ∧ 0 < height.toInt ∧ isSupportedChannelCount channels = true

/-- Whether a shape is one the constructor admits can be computed. -/
instance (width height channels : Int32) : Decidable (Shaped width height channels) :=
  inferInstanceAs (Decidable (_ ∧ _ ∧ _))

/-- An image of an admitted shape around `pixels`. -/
def ofShaped {width height channels : Int32} (h : Shaped width height channels)
    (pixels : List UInt8)
    (size : pixels.length = (sizeT width * sizeT channels * sizeT height).toNat) : Image where
  width := width.toInt.toNat
  height := height.toInt.toNat
  channels := channels.toInt.toNat
  pixels := pixels
  width_pos := by have := h.1; omega
  width_lt := by have := Int32.toInt_lt width; omega
  height_pos := by have := h.2.1; omega
  height_lt := by have := Int32.toInt_lt height; omega
  supported := by have := (isSupportedChannelCount_iff channels).mp h.2.2; omega
  packed := by rw [size, byteCount_no_wrap h.1 h.2.1 h.2.2]

/-- `Image::Image(int, int, int)`: packed rows, zero-filled. -/
def construct (width height channels : Int32) : Except Exn Image :=
  if h : Shaped width height channels then
    .ok (ofShaped h (List.replicate (sizeT width * sizeT channels * sizeT height).toNat 0)
      List.length_replicate)
  else
    .error (.invalidArgument ("Image: bad dimensions " ++ toString width.toInt ++ "x"
      ++ toString height.toInt ++ "x" ++ toString channels.toInt))

/-- One `memcpy` out of the source buffer.  Reading past its end has no defined result. -/
def memcpyRow (source : List UInt8) (offset count : ℕ) :
    Except Exn { row : List UInt8 // row.length = count } :=
  if h : offset + count ≤ source.length then
    .ok ⟨(source.drop offset).take count, by rw [List.length_take, List.length_drop]; omega⟩
  else
    .error .outOfBounds

/-- The row loop of `from_bytes`, from row `y` on, with `rows` rows left. -/
def copyRows (source : List UInt8) (sourceStride stride : ℕ) :
    (y rows : ℕ) → Except Exn { bytes : List UInt8 // bytes.length = stride * rows }
  | _, 0 => .ok ⟨[], rfl⟩
  | y, rows + 1 => do
      let row ← memcpyRow source (y * sourceStride) stride
      let rest ← copyRows source sourceStride stride (y + 1) rows
      .ok ⟨row.1 ++ rest.1, by rw [List.length_append, row.2, rest.2]; ring⟩

/-- `Image::from_bytes`: `height` rows of `width * channels` bytes, `sourceStride` apart. -/
def fromBytes (width height channels : Int32) (source : List UInt8) (sourceStride : UInt64) :
    Except Exn Image := do
  let image ← construct width height channels
  if sourceStride.toNat < image.stride then
    .error (.invalidArgument "Image::from_bytes: source stride is narrower than a packed row")
  else
    let rows ← copyRows source sourceStride.toNat image.stride 0 image.height
    .ok { image with pixels := rows.1, packed := rows.2 }

/-! ## What `fromBytes` reads -/

/-- A slice that lies in the first of two lists. -/
lemma take_drop_append {bytes : List UInt8} {offset count : ℕ} (h : offset + count ≤ bytes.length)
    (rest : List UInt8) : ((bytes ++ rest).drop offset).take count
      = (bytes.drop offset).take count := by
  rw [List.drop_append_of_le_length (by omega), List.take_append_of_le_length]
  rw [List.length_drop]
  omega

lemma memcpyRow_append {source : List UInt8} {offset count : ℕ}
    (h : offset + count ≤ source.length) (rest : List UInt8) :
    memcpyRow (source ++ rest) offset count = memcpyRow source offset count := by
  have h' : offset + count ≤ (source ++ rest).length := by rw [List.length_append]; omega
  simp only [memcpyRow, h, h', dite_true, take_drop_append h]

/-- Every row lies below `(y + rows - 1) * sourceStride + stride`, so a source that reaches that
far is all the loop looks at. -/
lemma copyRows_append {source : List UInt8} {sourceStride stride : ℕ} (rest : List UInt8) :
    ∀ y rows : ℕ, (∀ k < rows, (y + k) * sourceStride + stride ≤ source.length) →
      copyRows (source ++ rest) sourceStride stride y rows
        = copyRows source sourceStride stride y rows
  | _, 0, _ => rfl
  | y, rows + 1, h => by
      have hfirst : y * sourceStride + stride ≤ source.length := h 0 (Nat.succ_pos rows)
      have hrest : ∀ k < rows, (y + 1 + k) * sourceStride + stride ≤ source.length := by
        intro k hk
        have := h (k + 1) (by omega)
        rwa [show y + (k + 1) = y + 1 + k by ring] at this
      simp only [copyRows, memcpyRow_append hfirst, copyRows_append rest (y + 1) rows hrest]

/-- The loop takes the first `stride` bytes of every source row. -/
lemma copyRows_eq {source : List UInt8} {sourceStride stride : ℕ} :
    ∀ y rows : ℕ, (∀ k < rows, (y + k) * sourceStride + stride ≤ source.length) →
      ∃ bytes, copyRows source sourceStride stride y rows = .ok bytes
        ∧ bytes.1 = (List.range rows).flatMap fun k =>
          (source.drop ((y + k) * sourceStride)).take stride
  | _, 0, _ => ⟨_, rfl, rfl⟩
  | y, rows + 1, h => by
      have hfirst : y * sourceStride + stride ≤ source.length := h 0 (Nat.succ_pos rows)
      have hshift : ∀ k, y + (k + 1) = y + 1 + k := fun k => by omega
      have hrest : ∀ k < rows, (y + 1 + k) * sourceStride + stride ≤ source.length := by
        intro k hk
        rw [← hshift]
        exact h (k + 1) (Nat.succ_lt_succ hk)
      obtain ⟨bytes, hbytes, hvalue⟩ := copyRows_eq (y + 1) rows hrest
      simp only [copyRows, memcpyRow, hfirst, dite_true, hbytes]
      refine ⟨_, rfl, ?_⟩
      change (source.drop (y * sourceStride)).take stride ++ bytes.1 = _
      rw [hvalue, List.range_succ_eq_map, List.flatMap_cons, List.flatMap_map]
      simp only [Nat.succ_eq_add_one, ← hshift, Nat.add_zero]

lemma copyRows_ok {source : List UInt8} {sourceStride stride : ℕ} (y rows : ℕ)
    (h : ∀ k < rows, (y + k) * sourceStride + stride ≤ source.length) :
    ∃ bytes, copyRows source sourceStride stride y rows = .ok bytes :=
  (copyRows_eq y rows h).imp fun _ hbytes => hbytes.1

/-- A source that is narrower than a packed row is refused. -/
lemma fromBytes_narrow {width height channels : Int32} (h : Shaped width height channels)
    {source : List UInt8} {sourceStride : UInt64}
    (hnarrow : sourceStride.toNat < width.toInt.toNat * channels.toInt.toNat) :
    fromBytes width height channels source sourceStride = .error (.invalidArgument
      "Image::from_bytes: source stride is narrower than a packed row") := by
  simp only [fromBytes, construct, dif_pos h, bind, Except.bind, ofShaped, stride, hnarrow, if_true]

/-- What `fromBytes` makes of a wide enough source that holds all its rows. -/
lemma fromBytes_eq {width height channels : Int32} (h : Shaped width height channels)
    {source : List UInt8} {sourceStride : UInt64}
    (hwide : width.toInt.toNat * channels.toInt.toNat ≤ sourceStride.toNat)
    (hheld : ∀ y < height.toInt.toNat,
      y * sourceStride.toNat + width.toInt.toNat * channels.toInt.toNat ≤ source.length) :
    ∃ size, fromBytes width height channels source sourceStride
      = .ok (ofShaped h ((List.range height.toInt.toNat).flatMap fun y =>
        (source.drop (y * sourceStride.toNat)).take (width.toInt.toNat * channels.toInt.toNat))
          size) := by
  have hrows : ∀ k < height.toInt.toNat, (0 + k) * sourceStride.toNat
      + width.toInt.toNat * channels.toInt.toNat ≤ source.length := by
    intro k hk
    rw [Nat.zero_add]
    exact hheld k hk
  obtain ⟨⟨bytes, hlength⟩, hbytes, hvalue⟩ := copyRows_eq 0 height.toInt.toNat hrows
  simp only [Nat.zero_add] at hvalue
  subst hvalue
  refine ⟨by rw [hlength, byteCount_no_wrap h.1 h.2.1 h.2.2], ?_⟩
  simp only [fromBytes, construct, dif_pos h, bind, Except.bind, ofShaped, stride,
    not_lt.mpr hwide, if_false, hbytes]

/-- The rows of a packed source end inside it. -/
lemma packed_rows_le {stride height size : ℕ} (h : stride * height ≤ size) :
    ∀ k < height, (0 + k) * stride + stride ≤ size := by
  intro k hk
  have hle : stride * (k + 1) ≤ stride * height := Nat.mul_le_mul_left stride hk
  calc (0 + k) * stride + stride = stride * (k + 1) := by ring
    _ ≤ size := le_trans hle h

/-- **The frame property of a packed read.**  When the source holds a whole packed image, bytes
behind it are never looked at: a slot larger than its payload yields the same picture. -/
theorem fromBytes_append (width height channels : Int32) (source rest : List UInt8)
    (hsize : ∀ image, construct width height channels = .ok image →
      image.stride * image.height ≤ source.length) :
    fromBytes width height channels (source ++ rest) (sizeT width * sizeT channels)
      = fromBytes width height channels source (sizeT width * sizeT channels) := by
  by_cases h : Shaped width height channels
  · have hstride := stride_no_wrap h.1 h.2.2
    have hrows := packed_rows_le (hsize _ (by rw [construct, dif_pos h]))
    simp only [fromBytes, construct, dif_pos h, bind, Except.bind]
    simp only [ofShaped, stride] at hrows ⊢
    rw [hstride, copyRows_append rest 0 _ hrows]
  · simp only [fromBytes, construct, dif_neg h, bind, Except.bind]

/-- Packed rows, one after the other. -/
lemma copyRows_packed {source : List UInt8} {stride : ℕ} :
    ∀ y rows : ℕ, (y + rows) * stride ≤ source.length →
      ∃ bytes, copyRows source stride stride y rows = .ok bytes
        ∧ bytes.1 = (source.drop (y * stride)).take (stride * rows)
  | _, 0, _ => ⟨_, rfl, by simp⟩
  | y, rows + 1, h => by
      have hexp : (y + (rows + 1)) * stride = y * stride + stride + stride * rows := by ring
      obtain ⟨bytes, hbytes, hvalue⟩ := copyRows_packed (y + 1) rows (by
        rwa [show y + 1 + rows = y + (rows + 1) by omega])
      have hfirst : y * stride + stride ≤ source.length := by omega
      simp only [copyRows, memcpyRow, hfirst, dite_true, hbytes]
      refine ⟨_, rfl, ?_⟩
      change (source.drop (y * stride)).take stride ++ bytes.1 = _
      rw [hvalue, show (y + 1) * stride = y * stride + stride by ring, ← List.drop_drop,
        show stride * (rows + 1) = stride + stride * rows by ring, List.take_add]

/-- An `int` shape that is the image's. -/
structure HasShape (image : Image) (width height channels : Int32) : Prop where
  width : width.toInt = image.width
  height : height.toInt = image.height
  channels : channels.toInt = image.channels

lemma HasShape.shaped {image : Image} {width height channels : Int32}
    (h : image.HasShape width height channels) : Shaped width height channels := by
  refine ⟨?_, ?_, (isSupportedChannelCount_iff channels).mpr ?_⟩
  · have := image.width_pos
    rw [h.width]
    omega
  · have := image.height_pos
    rw [h.height]
    omega
  · have := image.supported
    rw [h.channels]
    omega

/-- A constructed image has the shape it was asked for. -/
lemma construct_hasShape {image : Image} {width height channels : Int32}
    (h : construct width height channels = .ok image) :
    Shaped width height channels ∧ image.HasShape width height channels := by
  rw [construct] at h
  split_ifs at h with hshaped
  cases h
  have hchannels := (isSupportedChannelCount_iff channels).mp hshaped.2.2
  exact ⟨hshaped, Int.eq_natCast_toNat.mpr hshaped.1.le, Int.eq_natCast_toNat.mpr hshaped.2.1.le,
    Int.eq_natCast_toNat.mpr (by omega)⟩

/-- **Reading an image back**: a buffer that starts with its pixels yields the image. -/
theorem fromBytes_pixels {image : Image} {width height channels : Int32}
    (h : image.HasShape width height channels) {buffer : List UInt8}
    (hbuffer : buffer.take image.byteCount = image.pixels) :
    fromBytes width height channels buffer (sizeT width * sizeT channels) = .ok image := by
  have hshaped := h.shaped
  obtain ⟨hw, hh, hc⟩ := h
  obtain ⟨w, ht, c, pixels, _, _, _, _, _, packed⟩ := image
  simp only [byteCount] at hw hh hc hbuffer
  obtain rfl : w = width.toInt.toNat := by omega
  obtain rfl : ht = height.toInt.toNat := by omega
  obtain rfl : c = channels.toInt.toNat := by omega
  have hlength : pixels.length ≤ buffer.length := by
    rw [← hbuffer, List.length_take]
    exact min_le_right _ _
  have hread : (0 + height.toInt.toNat) * (width.toInt.toNat * channels.toInt.toNat)
      ≤ buffer.length := by
    rw [Nat.zero_add, Nat.mul_comm, ← packed]
    exact hlength
  obtain ⟨rows, hrows, hvalue⟩ := copyRows_packed 0 height.toInt.toNat hread
  have hpixels : rows.1 = pixels := by
    rw [hvalue, Nat.zero_mul, List.drop_zero, ← packed, hbuffer]
  have hstride := stride_no_wrap hshaped.1 hshaped.2.2
  simp only [fromBytes, construct, dif_pos hshaped, bind, Except.bind, ofShaped, stride, hstride,
    lt_irrefl, if_false, hrows, hpixels]

/-! ## The reads, one by one -/

/-- One `memcpy` out of the source buffer: where it starts and how many bytes it takes. -/
structure RowRead where
  offset : ℕ
  count : ℕ
  deriving DecidableEq, Repr

/-- The reads of `copyRows`, in their order. -/
def rowReads (sourceStride stride : ℕ) : (y rows : ℕ) → List RowRead
  | _, 0 => []
  | y, rows + 1 => ⟨y * sourceStride, stride⟩ :: rowReads sourceStride stride (y + 1) rows

/-- The reads of `fromBytes`.  A call that throws before the loop reads nothing. -/
def fromBytesReads (width height channels : Int32) (sourceStride : UInt64) : List RowRead :=
  match construct width height channels with
  | .error _ => []
  | .ok image =>
      if sourceStride.toNat < image.stride then []
      else rowReads sourceStride.toNat image.stride 0 image.height

/-- **The row loop makes these reads and no others.** -/
theorem copyRows_reads (source : List UInt8) (sourceStride stride : ℕ) : ∀ y rows : ℕ,
    (copyRows source sourceStride stride y rows).map Subtype.val
      = ((rowReads sourceStride stride y rows).mapM fun read =>
          (memcpyRow source read.offset read.count).map Subtype.val).map List.flatten
  | _, 0 => rfl
  | y, rows + 1 => by
      have hrest := copyRows_reads source sourceStride stride (y + 1) rows
      simp only [copyRows, rowReads, List.mapM_cons]
      generalize (rowReads sourceStride stride (y + 1) rows).mapM (fun read =>
        (memcpyRow source read.offset read.count).map Subtype.val) = reads at hrest ⊢
      cases memcpyRow source (y * sourceStride) stride with
      | error error => rfl
      | ok row =>
          cases hrows : copyRows source sourceStride stride (y + 1) rows with
          | error error =>
              rw [hrows] at hrest
              cases reads with
              | error error' =>
                  cases hrest
                  rfl
              | ok rows => cases hrest
          | ok bytes =>
              rw [hrows] at hrest
              cases reads with
              | error error' => cases hrest
              | ok rows =>
                  have hbytes : bytes.1 = rows.flatten := Except.ok.inj hrest
                  simp [bind, Except.bind, Except.map, pure, Except.pure, hbytes]

/-- What a read brings. -/
def RowRead.bytes (source : List UInt8) (read : RowRead) : List UInt8 :=
  (source.drop read.offset).take read.count

/-- A read that stays inside the source brings its bytes. -/
lemma memcpyRow_bytes {source : List UInt8} {read : RowRead} {row : List UInt8}
    (h : (memcpyRow source read.offset read.count).map Subtype.val = .ok row) :
    row = read.bytes source := by
  rw [memcpyRow] at h
  split_ifs at h
  · cases h
    rfl
  · cases h

/-- Several reads bring their bytes one after the other. -/
lemma mapM_memcpyRow {source : List UInt8} {reads : List RowRead} {rows : List (List UInt8)}
    (h : (reads.mapM fun read => (memcpyRow source read.offset read.count).map Subtype.val)
      = .ok rows) : rows = reads.map (RowRead.bytes source) := by
  induction reads generalizing rows with
  | nil =>
      cases h
      rfl
  | cons read reads ih =>
      rw [List.mapM_cons] at h
      cases hrow : (memcpyRow source read.offset read.count).map Subtype.val with
      | error error =>
          rw [hrow] at h
          cases h
      | ok row =>
          rw [hrow] at h
          cases hrest : reads.mapM fun read =>
              (memcpyRow source read.offset read.count).map Subtype.val with
          | error error =>
              rw [hrest] at h
              cases h
          | ok rest =>
              rw [hrest] at h
              cases h
              rw [List.map_cons, memcpyRow_bytes hrow, ih hrest]

/-- **The pixels of a finished loop are what its reads bring.** -/
theorem copyRows_bytes {source : List UInt8} {sourceStride stride y rows : ℕ}
    {pixels : { bytes : List UInt8 // bytes.length = stride * rows }}
    (h : copyRows source sourceStride stride y rows = .ok pixels) :
    pixels.1 = (rowReads sourceStride stride y rows).flatMap (RowRead.bytes source) := by
  have hreads := copyRows_reads source sourceStride stride y rows
  rw [h] at hreads
  cases hrows : (rowReads sourceStride stride y rows).mapM fun read =>
      (memcpyRow source read.offset read.count).map Subtype.val with
  | error error =>
      rw [hrows] at hreads
      cases hreads
  | ok pieces =>
      rw [hrows] at hreads
      have hpixels : pixels.1 = pieces.flatten := Except.ok.inj hreads
      rw [hpixels, mapM_memcpyRow hrows, List.flatMap_def]

lemma rowReads_eq (sourceStride stride : ℕ) : ∀ y rows : ℕ, rowReads sourceStride stride y rows
    = (List.range rows).map fun k => ⟨(y + k) * sourceStride, stride⟩
  | _, 0 => rfl
  | y, rows + 1 => by
      rw [rowReads, rowReads_eq sourceStride stride (y + 1) rows, List.range_succ_eq_map,
        List.map_cons, List.map_map, Nat.add_zero]
      refine congrArg _ (List.map_congr_left fun k _ => ?_)
      simp only [Function.comp_apply, Nat.succ_eq_add_one]
      rw [show y + 1 + k = y + (k + 1) by omega]

/-! ## Images sample by sample -/

/-- An image of the shape of `like` whose sample at `(x, y, channel)` is `sample x y channel`. -/
def generate (like : Image) (sample : ℕ → ℕ → ℕ → UInt8) : Image :=
  { like with
    pixels := (List.range (like.width * like.channels * like.height)).map fun i =>
      sample (i % like.stride / like.channels) (i / like.stride) (i % like.channels)
    packed := by rw [List.length_map, List.length_range] }

@[simp] lemma generate_width (like : Image) (sample : ℕ → ℕ → ℕ → UInt8) :
    (like.generate sample).width = like.width := rfl

@[simp] lemma generate_height (like : Image) (sample : ℕ → ℕ → ℕ → UInt8) :
    (like.generate sample).height = like.height := rfl

@[simp] lemma generate_channels (like : Image) (sample : ℕ → ℕ → ℕ → UInt8) :
    (like.generate sample).channels = like.channels := rfl

@[simp] lemma generate_stride (like : Image) (sample : ℕ → ℕ → ℕ → UInt8) :
    (like.generate sample).stride = like.stride := rfl

/-- A valid coordinate names a byte of the image. -/
lemma index_lt (image : Image) {x y channel : ℕ} (hx : x < image.width) (hy : y < image.height)
    (hc : channel < image.channels) :
    y * image.stride + x * image.channels + channel
      < image.width * image.channels * image.height :=
  RowMajor.index_lt hx hy hc

lemma index_div_stride (image : Image) {x y channel : ℕ} (hx : x < image.width)
    (hc : channel < image.channels) :
    (y * image.stride + x * image.channels + channel) / image.stride = y :=
  RowMajor.index_div_row hx hc

lemma index_mod_stride (image : Image) {x y channel : ℕ} (hx : x < image.width)
    (hc : channel < image.channels) :
    (y * image.stride + x * image.channels + channel) % image.stride
      = x * image.channels + channel :=
  RowMajor.index_mod_row hx hc

lemma index_mod_channels (image : Image) {x y channel : ℕ} (hc : channel < image.channels) :
    (y * image.stride + x * image.channels + channel) % image.channels = channel :=
  RowMajor.index_mod_depth hc

/-- **Reading back what was written.**  The interleaved index is injective on valid coordinates. -/
theorem sampleAt_generate (like : Image) (sample : ℕ → ℕ → ℕ → UInt8) {x y channel : ℕ}
    (hx : x < like.width) (hy : y < like.height) (hc : channel < like.channels) :
    (like.generate sample).sampleAt x y channel = sample x y channel := by
  have hlt := like.index_lt hx hy hc
  have hcol : (x * like.channels + channel) / like.channels = x := RowMajor.column_div hc
  simp only [Image.sampleAt, generate_stride, generate_channels]
  simp only [generate]
  rw [List.getD_eq_getElem?_getD, List.getElem?_map, List.getElem?_range hlt, Option.map_some,
    Option.getD_some, like.index_div_stride hx hc, like.index_mod_stride hx hc,
    like.index_mod_channels hc, hcol]

/-- **An image is its shape and its samples.** -/
theorem ext_sampleAt {a b : Image} (hw : a.width = b.width) (hh : a.height = b.height)
    (hc : a.channels = b.channels)
    (hat : ∀ x y channel, x < a.width → y < a.height → channel < a.channels →
      a.sampleAt x y channel = b.sampleAt x y channel) : a = b := by
  have hstride : a.stride = b.stride := by simp only [stride, hw, hc]
  have hpixels : a.pixels = b.pixels := by
    refine List.ext_getElem (by rw [a.packed, b.packed, hw, hh, hc]) fun i hia hib => ?_
    have hi : i ∈ Set.Iio (a.width * a.channels * a.height) := by
      rw [← a.packed]
      exact hia
    obtain ⟨⟨x, y, channel⟩, ⟨hx, hy, hchannel⟩, hidx⟩ :=
      (RowMajor.bijOn_index a.width a.height a.channels_pos).surjOn hi
    change y * a.stride + x * a.channels + channel = i at hidx
    have hsample := hat x y channel hx hy hchannel
    simp only [Image.sampleAt, ← hstride, ← hc, hidx] at hsample
    rwa [List.getD_eq_getElem _ _ hia, List.getD_eq_getElem _ _ hib] at hsample
  cases a
  cases b
  simp only at hw hh hc hpixels
  subst hw hh hc hpixels
  rfl

end Image

end Imgjit
