import Imgjit.Library.FixedLayout
import Imgjit.Net.Protocol

/-!
# The header formats are bijections

The tables of `docs/PROTOCOL.md` as layouts, and the encoders and decoders of `protocol.cpp` as
codecs of them.  The document gives an offset and a size for every field; the code has shifts and
masks at literal positions, once for packing and once for unpacking.  The library's `Codec` is what
all of them have in common.

* `requestLayout`, `responseLayout` — offset, size and value of every field, as the document has
  them.
* `littleEndian_u32`, `getU32_bytes` — shifts and masks are base-256 digits, in both directions.
* `request_codec`, `response_codec` — both encoders and decoders are codecs of their layouts.
* `headers_bijective` — every string of 25 bytes is one request header, every string of 23 bytes is
  one response header, and a string of another length is neither.  In particular any bytes at all
  decode, so validation has to be ready for every value of every field.
-/

namespace Imgjit

open FixedLayout

/-! ## The tables of the document -/

/-- The table of a request header. -/
def requestLayout (header : RequestHeader) : List Field :=
  [⟨0, 4, header.magic.toNat⟩, ⟨4, 1, header.version.toNat⟩, ⟨5, 1, header.flags.toNat⟩,
   ⟨6, 4, header.seqNum.toNat⟩, ⟨10, 4, header.width.toNat⟩, ⟨14, 4, header.height.toNat⟩,
   ⟨18, 1, header.channels.toNat⟩, ⟨19, 4, header.payloadLen.toNat⟩,
   ⟨23, 2, header.chainLen.toNat⟩]

/-- The table of a response header. -/
def responseLayout (header : ResponseHeader) : List Field :=
  [⟨0, 4, header.magic.toNat⟩, ⟨4, 1, header.version.toNat⟩, ⟨5, 1, header.status.toByte.toNat⟩,
   ⟨6, 4, header.seqNum.toNat⟩, ⟨10, 4, header.width.toNat⟩, ⟨14, 4, header.height.toNat⟩,
   ⟨18, 1, header.channels.toNat⟩, ⟨19, 4, header.payloadLen.toNat⟩]

/-! ## Digits -/

lemma littleEndian_u8 (value : UInt8) : littleEndian 1 value.toNat = [value] := by
  simp only [littleEndian, UInt8.ofNat_toNat]

lemma littleEndian_u16 (value : UInt16) :
    littleEndian 2 value.toNat
      = [(value &&& 0xFF).toUInt8, ((value >>> 8) &&& 0xFF).toUInt8] := by
  simp only [littleEndian, List.cons.injEq, ← UInt8.toNat_inj, and_true, UInt8.toNat_ofNat',
    UInt16.toNat_toUInt8, UInt16.toNat_and, UInt16.toNat_shiftRight, UInt16.reduceToNat,
    Nat.reduceMod, Nat.shiftRight_eq_div_pow, show (255 : ℕ) = 2 ^ 8 - 1 from rfl,
    Nat.and_two_pow_sub_one_eq_mod]
  omega

lemma littleEndian_u32 (value : UInt32) :
    littleEndian 4 value.toNat
      = [(value &&& 0xFF).toUInt8, ((value >>> 8) &&& 0xFF).toUInt8,
         ((value >>> 16) &&& 0xFF).toUInt8, ((value >>> 24) &&& 0xFF).toUInt8] := by
  simp only [littleEndian, List.cons.injEq, ← UInt8.toNat_inj, and_true, UInt8.toNat_ofNat',
    UInt32.toNat_toUInt8, UInt32.toNat_and, UInt32.toNat_shiftRight, UInt32.reduceToNat,
    Nat.reduceMod, Nat.shiftRight_eq_div_pow, show (255 : ℕ) = 2 ^ 8 - 1 from rfl,
    Nat.and_two_pow_sub_one_eq_mod]
  omega

/-- A 32-bit field read from four bytes is cut into the same four bytes again. -/
lemma getU32_bytes (bytes : List UInt8) (offset : ℕ) :
    (getU32 bytes offset &&& 0xFF).toUInt8 = getU8 bytes offset
      ∧ ((getU32 bytes offset >>> 8) &&& 0xFF).toUInt8 = getU8 bytes (offset + 1)
      ∧ ((getU32 bytes offset >>> 16) &&& 0xFF).toUInt8 = getU8 bytes (offset + 2)
      ∧ ((getU32 bytes offset >>> 24) &&& 0xFF).toUInt8 = getU8 bytes (offset + 3) := by
  have h0 := (getU8 bytes offset).toNat_lt
  have h1 := (getU8 bytes (offset + 1)).toNat_lt
  have h2 := (getU8 bytes (offset + 2)).toNat_lt
  have h3 := (getU8 bytes (offset + 3)).toNat_lt
  have hvalue := toNat_getU32 bytes offset
  simp only [← UInt8.toNat_inj, UInt32.toNat_toUInt8, UInt32.toNat_and, UInt32.toNat_shiftRight,
    UInt32.reduceToNat, Nat.reduceMod, Nat.shiftRight_eq_div_pow,
    show (255 : ℕ) = 2 ^ 8 - 1 from rfl, Nat.and_two_pow_sub_one_eq_mod]
  omega

lemma getU16_bytes (bytes : List UInt8) (offset : ℕ) :
    (getU16 bytes offset &&& 0xFF).toUInt8 = getU8 bytes offset
      ∧ ((getU16 bytes offset >>> 8) &&& 0xFF).toUInt8 = getU8 bytes (offset + 1) := by
  have h0 := (getU8 bytes offset).toNat_lt
  have h1 := (getU8 bytes (offset + 1)).toNat_lt
  have hvalue := toNat_getU16 bytes offset
  simp only [← UInt8.toNat_inj, UInt16.toNat_toUInt8, UInt16.toNat_and, UInt16.toNat_shiftRight,
    UInt16.reduceToNat, Nat.reduceMod, Nat.shiftRight_eq_div_pow,
    show (255 : ℕ) = 2 ^ 8 - 1 from rfl, Nat.and_two_pow_sub_one_eq_mod]
  omega

/-- A string is its bytes, read one by one. -/
lemma eq_map_getU8 (bytes : List UInt8) : bytes = (List.range bytes.length).map (getU8 bytes) := by
  refine List.ext_getElem (by simp) fun i hi _ => ?_
  rw [List.getElem_map, List.getElem_range, getU8, List.getD_eq_getElem _ _ hi]

/-- Every byte is a status, and is written as it was read. -/
lemma Status.toByte_ofByte (byte : UInt8) : (Status.ofByte byte).toByte = byte := by
  rw [Status.ofByte]
  split_ifs with houtside h0 h1 h2 h3 h4 h5
  · rfl
  · exact h0.symm
  · exact h1.symm
  · exact h2.symm
  · exact h3.symm
  · exact h4.symm
  · exact h5.symm
  · simp only [← UInt8.toNat_inj, UInt8.reduceToNat] at h0 h1 h2 h3 h4 h5
    rw [← UInt8.toNat_inj]
    show 6 = byte.toNat
    omega

/-! ## The codecs -/

/-- **A request header is a string of 25 bytes.** -/
theorem request_codec :
    Codec kRequestHeaderBytes requestLayout encodeRequestHeader decodeRequestHeader := by
  refine Codec.of_packed (fun header => ?_) (fun header => ?_) decode_encodeRequestHeader
    (fun bytes hlength => ?_) fun bytes hlength => ?_
  · simp [requestLayout, Tiles, kRequestHeaderBytes]
  · rw [encodeRequestHeader_eq]
    simp only [requestLayout, pack, Field.bytes, List.flatMap_cons, List.flatMap_nil,
      littleEndian_u8, littleEndian_u16, littleEndian_u32, List.cons_append, List.nil_append]
  · refine ⟨_, by rw [decodeRequestHeader, if_neg (not_not.mpr hlength)], ?_⟩
    rw [encodeRequestHeader_eq]
    simp only [getU32_bytes, getU16_bytes, Nat.reduceAdd]
    have hbytes := eq_map_getU8 bytes
    rw [hlength] at hbytes
    exact hbytes.symm
  · rw [decodeRequestHeader, if_pos hlength]

/-- **A response header is a string of 23 bytes**, whatever its status byte. -/
theorem response_codec :
    Codec kResponseHeaderBytes responseLayout encodeResponseHeader decodeResponseHeader := by
  refine Codec.of_packed (fun header => ?_) (fun header => ?_) decode_encodeResponseHeader
    (fun bytes hlength => ?_) fun bytes hlength => ?_
  · simp [responseLayout, Tiles, kResponseHeaderBytes]
  · rw [encodeResponseHeader_eq]
    simp only [responseLayout, pack, Field.bytes, List.flatMap_cons, List.flatMap_nil,
      littleEndian_u8, littleEndian_u32, List.cons_append, List.nil_append]
  · refine ⟨_, by rw [decodeResponseHeader, if_neg (not_not.mpr hlength)], ?_⟩
    rw [encodeResponseHeader_eq]
    simp only [getU32_bytes, Status.toByte_ofByte, Nat.reduceAdd]
    have hbytes := eq_map_getU8 bytes
    rw [hlength] at hbytes
    exact hbytes.symm
  · rw [decodeResponseHeader, if_pos hlength]

/-- **Headers and strings of their length are the same thing.**  Encoding and decoding are inverse
functions between them, every other length is refused, and every field is at its offset in the
document, the low byte first. -/
theorem headers_bijective :
    Codec kRequestHeaderBytes requestLayout encodeRequestHeader decodeRequestHeader
      ∧ Codec kResponseHeaderBytes responseLayout encodeResponseHeader decodeResponseHeader
      ∧ (∀ bytes header,
        decodeRequestHeader bytes = some header ↔ encodeRequestHeader header = bytes)
      ∧ ∀ bytes header,
        decodeResponseHeader bytes = some header ↔ encodeResponseHeader header = bytes :=
  ⟨request_codec, response_codec, request_codec.bijective.2, response_codec.bijective.2⟩

end Imgjit
