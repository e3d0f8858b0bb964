import Mathlib.Data.List.Basic

/-!
# Records of a fixed layout

A record of which every field has an offset and a size of its own, in bytes, the low one first.  A
program usually has a packing function and a parsing function, each with its own list of offsets,
and the two agree for no better reason than that they were written by the same hand.

* `littleEndian` — a number in a given number of bytes.
* `Field`, `pack` — the fields with their values, and the bytes they make, one field after the
  other.
* `Tiles` — fields that follow one another without gap or overlap.
* `slice_pack` — a field of a tiled record is found where its offset says.
* `Codec` — packing and unpacking as inverse functions between records and strings of one length; it
  is built from the offsets of both sides, and `Codec.bijective` is what it is for.
-/

namespace FixedLayout

/-- The low `size` bytes of a number, the lowest first. -/
def littleEndian : ℕ → ℕ → List UInt8
  | 0, _ => []
  | size + 1, value => UInt8.ofNat value :: littleEndian size (value / 256)

@[simp] lemma length_littleEndian (size value : ℕ) : (littleEndian size value).length = size := by
  induction size generalizing value with
  | zero => rfl
  | succ size ih => rw [littleEndian, List.length_cons, ih]

/-- A field: where it begins, how many bytes it has, and its value. -/
structure Field where
  offset : ℕ
  size : ℕ
  value : ℕ
  deriving DecidableEq, Repr

/-- The bytes of a field. -/
def Field.bytes (field : Field) : List UInt8 := littleEndian field.size field.value

/-- The fields laid end to end. -/
def pack (fields : List Field) : List UInt8 := fields.flatMap Field.bytes

/-- The fields follow one another from `start` to `stop`. -/
def Tiles : ℕ → List Field → ℕ → Prop
  | start, [], stop => start = stop
  | start, field :: fields, stop =>
      field.offset = start ∧ Tiles (start + field.size) fields stop

/-- **Every field of a tiled record is at its offset.** -/
theorem slice_pack {start stop : ℕ} {fields : List Field} (h : Tiles start fields stop)
    {before : List UInt8} (hbefore : before.length = start) :
    ∀ field ∈ fields,
      ((before ++ pack fields).drop field.offset).take field.size = field.bytes := by
  induction fields generalizing start before with
  | nil => exact fun _ hmem => by cases hmem
  | cons head fields ih =>
      have hhead : head.bytes.length = head.size := length_littleEndian _ _
      have hpack : before ++ pack (head :: fields) = before ++ head.bytes ++ pack fields := by
        rw [pack, List.flatMap_cons, ← pack, List.append_assoc]
      intro field hmem
      rw [hpack]
      rcases List.mem_cons.mp hmem with rfl | hmem
      · rw [List.append_assoc, h.1, ← hbefore, List.drop_left, ← hhead, List.take_left]
      · refine ih h.2 ?_ field hmem
        rw [List.length_append, hbefore, hhead]

/-- Packing and unpacking are inverse to each other, between all records and all strings of `size`
bytes, and every field is at its place in the string. -/
structure Codec {α : Type*} (size : ℕ) (layout : α → List Field) (encode : α → List UInt8)
    (decode : List UInt8 → Option α) : Prop where
  decode_encode : ∀ record, decode (encode record) = some record
  encode_decode : ∀ bytes, bytes.length = size →
    ∃ record, decode bytes = some record ∧ encode record = bytes
  refuse : ∀ bytes, bytes.length ≠ size → decode bytes = none
  tiles : ∀ record, Tiles 0 (layout record) size
  placed : ∀ record, ∀ field ∈ layout record,
    ((encode record).drop field.offset).take field.size = field.bytes

namespace Codec

variable {α : Type*} {size : ℕ} {layout : α → List Field} {encode : α → List UInt8}
  {decode : List UInt8 → Option α}

/-- What has to be proved of a codec: that it packs its layout, and that nothing is lost either
way. -/
theorem of_packed (htiles : ∀ record, Tiles 0 (layout record) size)
    (hpacked : ∀ record, encode record = pack (layout record))
    (hdecode : ∀ record, decode (encode record) = some record)
    (hencode : ∀ bytes, bytes.length = size →
      ∃ record, decode bytes = some record ∧ encode record = bytes)
    (hrefuse : ∀ bytes, bytes.length ≠ size → decode bytes = none) :
    Codec size layout encode decode where
  decode_encode := hdecode
  encode_decode := hencode
  refuse := hrefuse
  tiles := htiles
  placed record field hmem := by
    have hslice := slice_pack (htiles record) (List.length_nil : ([] : List UInt8).length = 0)
      field hmem
    rwa [List.nil_append, ← hpacked] at hslice

/-- Unpacking is a bijection from the strings of the right length to the records. -/
theorem bijective (h : Codec size layout encode decode) :
    (∀ record, (encode record).length = size)
      ∧ ∀ bytes record, decode bytes = some record ↔ encode record = bytes := by
  have hlength : ∀ record, (encode record).length = size := by
    intro record
    by_contra hne
    have hnone := h.refuse _ hne
    rw [h.decode_encode] at hnone
    cases hnone
  refine ⟨hlength, fun bytes record => ⟨fun hdecode => ?_, fun hencode => ?_⟩⟩
  · have hsize : bytes.length = size := by
      by_contra hne
      rw [h.refuse _ hne] at hdecode
      cases hdecode
    rcases h.encode_decode bytes hsize with ⟨record', hdecode', hencode⟩
    rw [hdecode] at hdecode'
    cases hdecode'
    exact hencode
  · rw [← hencode, h.decode_encode]

end Codec

end FixedLayout
