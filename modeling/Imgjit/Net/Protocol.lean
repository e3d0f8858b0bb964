import Imgjit.Core.Image

/-!
# The wire protocol

`docs/PROTOCOL.md` as pure functions: pack, unpack, validate.  No socket appears here; the reader,
the writer and the client call these functions on buffers of their own.

**Headers.**  `RequestHeader` and `ResponseHeader` are decoded views, every field at its wire width.
`Status` is an 8-bit enumeration whose decoded values need not be among the named ones, so the
remaining bytes are values too (`Status.unnamed`).

**Packing and unpacking.**  `encodeRequestHeader`, `decodeRequestHeader` and their response
counterparts pack field by field, little-endian, at the offsets of the document.
`decode_encodeRequestHeader` is the direction the reader thread relies on.

**Validation.**  `validateRequestHeader` runs the checks in the documented order.  The document
describes an arithmetic without a word size, and `AcceptanceContract` is that description over the
natural numbers; the code forms its dimension product in 64 bits.  `acceptance_contract_iff` says
for exactly which headers that is not enough: those whose true product is too large by a multiple of
`2 ^ 64`.  `wrappedHeader` is one of them.
-/

namespace Imgjit

/-! ## Constants -/

/-- The first four bytes of every header. -/
def kMagic : UInt32 := 0xDEADBEEF

/-- The version of the protocol. -/
def kVersion : UInt8 := 1

/-- The size of a request header. -/
def kRequestHeaderBytes : ℕ := 25

/-- The size of a response header. -/
def kResponseHeaderBytes : ℕ := 23

/-- The default cap on payloads, and the client's. -/
def kMaxPayloadBytes : UInt32 := 64 * 1024 * 1024

/-- The longest chain descriptor. -/
def kMaxChainLen : UInt16 := 256

/-- The client wants the picture sent back. -/
def kFlagEcho : UInt8 := (1 : UInt8) <<< 0

/-- The server is to write the picture to a file. -/
def kFlagServerWrite : UInt8 := (1 : UInt8) <<< 1

/-! ## Status codes -/

/-- `enum class Status : std::uint8_t`.  A byte off the wire is cast to it unchecked, so a value
outside the named ones is possible: `unnamed`. -/
inductive Status where
  | kOk
  | kBadMagic
  | kUnsupportedVersion
  | kPayloadTooLarge
  | kBadChain
  | kLengthMismatch
  | kInternalError
  | unnamed (code : UInt8) (outside : 6 < code.toNat)
  deriving DecidableEq, Repr

namespace Status

/-- `static_cast<std::uint8_t>(status)`. -/
def toByte : Status → UInt8
  | kOk => 0
  | kBadMagic => 1
  | kUnsupportedVersion => 2
  | kPayloadTooLarge => 3
  | kBadChain => 4
  | kLengthMismatch => 5
  | kInternalError => 6
  | unnamed code _ => code

/-- `static_cast<Status>(byte)`. -/
def ofByte (byte : UInt8) : Status :=
  if h : 6 < byte.toNat then unnamed byte h
  else if byte = 0 then kOk
  else if byte = 1 then kBadMagic
  else if byte = 2 then kUnsupportedVersion
  else if byte = 3 then kPayloadTooLarge
  else if byte = 4 then kBadChain
  else if byte = 5 then kLengthMismatch
  else kInternalError

/-- Named or not, a status is the one of its byte. -/
theorem ofByte_toByte (status : Status) : ofByte status.toByte = status := by
  cases status with
  | unnamed code outside => exact dif_pos outside
  | _ => rfl

end Status

/-- What the connection does after an error response. -/
inductive Disposition where
  | kContinue
  | kDrain
  | kClose
  deriving DecidableEq, Repr

/-- `disposition_for`.  A value outside the named ones falls through the switch and closes. -/
def dispositionFor : Status → Disposition
  | .kOk => .kContinue
  | .kInternalError => .kContinue
  | .kBadChain => .kDrain
  | .kLengthMismatch => .kDrain
  | .kBadMagic => .kClose
  | .kUnsupportedVersion => .kClose
  | .kPayloadTooLarge => .kClose
  | .unnamed _ _ => .kClose

/-! ## Headers -/

/-- A request header, as it is decoded. -/
structure RequestHeader where
  magic : UInt32 := kMagic
  version : UInt8 := kVersion
  flags : UInt8 := 0
  seqNum : UInt32 := 0
  width : UInt32 := 0
  height : UInt32 := 0
  channels : UInt8 := 0
  payloadLen : UInt32 := 0
  chainLen : UInt16 := 0
  deriving DecidableEq, Repr

/-- A response header, as it is decoded. -/
structure ResponseHeader where
  magic : UInt32 := kMagic
  version : UInt8 := kVersion
  status : Status := .kOk
  seqNum : UInt32 := 0
  width : UInt32 := 0
  height : UInt32 := 0
  channels : UInt8 := 0
  payloadLen : UInt32 := 0
  deriving DecidableEq, Repr

/-- The limits that a header is validated against. -/
structure Limits where
  maxPayloadBytes : UInt32 := kMaxPayloadBytes
  maxChainLen : UInt16 := kMaxChainLen
  deriving DecidableEq, Repr

/-! ## Little-endian fields

Written out byte by byte, so the result does not depend on the host's byte order.
-/

/-- A byte at an offset. -/
def putU8 (out : List UInt8) (offset : ℕ) (value : UInt8) : List UInt8 :=
  out.set offset value

/-- Two bytes at an offset, the low one first. -/
def putU16 (out : List UInt8) (offset : ℕ) (value : UInt16) : List UInt8 :=
  (out.set offset (value &&& 0xFF).toUInt8).set (offset + 1) ((value >>> 8) &&& 0xFF).toUInt8

/-- Four bytes at an offset, the low one first. -/
def putU32 (out : List UInt8) (offset : ℕ) (value : UInt32) : List UInt8 :=
  (((out.set offset (value &&& 0xFF).toUInt8).set
    (offset + 1) ((value >>> 8) &&& 0xFF).toUInt8).set
    (offset + 2) ((value >>> 16) &&& 0xFF).toUInt8).set
    (offset + 3) ((value >>> 24) &&& 0xFF).toUInt8

/-- The byte at an offset. -/
def getU8 (bytes : List UInt8) (offset : ℕ) : UInt8 :=
  bytes.getD offset 0

/-- The number in two bytes, the low one first. -/
def getU16 (bytes : List UInt8) (offset : ℕ) : UInt16 :=
  (getU8 bytes offset).toUInt16 ||| ((getU8 bytes (offset + 1)).toUInt16 <<< 8)

/-- The number in four bytes, the low one first. -/
def getU32 (bytes : List UInt8) (offset : ℕ) : UInt32 :=
  (getU8 bytes offset).toUInt32 |||
    ((getU8 bytes (offset + 1)).toUInt32 <<< 8) |||
    ((getU8 bytes (offset + 2)).toUInt32 <<< 16) |||
    ((getU8 bytes (offset + 3)).toUInt32 <<< 24)

lemma or_shiftLeft {low k : ℕ} (byte : ℕ) (h : low < 2 ^ k) :
    low ||| byte <<< k = low + byte * 2 ^ k := by
  rw [Nat.or_comm, ← Nat.shiftLeft_add_eq_or_of_lt h, Nat.shiftLeft_eq, Nat.add_comm]

lemma byte_shiftLeft_mod {k width : ℕ} (byte : UInt8) (h : 8 + k ≤ width) :
    byte.toNat <<< k % 2 ^ width = byte.toNat <<< k := by
  refine Nat.mod_eq_of_lt ?_
  rw [Nat.shiftLeft_eq]
  calc byte.toNat * 2 ^ k < 2 ^ 8 * 2 ^ k :=
        Nat.mul_lt_mul_of_pos_right byte.toNat_lt (Nat.two_pow_pos k)
    _ = 2 ^ (8 + k) := (Nat.pow_add 2 8 k).symm
    _ ≤ 2 ^ width := Nat.pow_le_pow_right (by omega) h

/-- Shift and mask are base-256 positional notation. -/
theorem toNat_getU32 (bytes : List UInt8) (offset : ℕ) :
    (getU32 bytes offset).toNat
      = (getU8 bytes offset).toNat + (getU8 bytes (offset + 1)).toNat * 2 ^ 8
        + (getU8 bytes (offset + 2)).toNat * 2 ^ 16
        + (getU8 bytes (offset + 3)).toNat * 2 ^ 24 := by
  have h0 := (getU8 bytes offset).toNat_lt
  have h1 := (getU8 bytes (offset + 1)).toNat_lt
  have h2 := (getU8 bytes (offset + 2)).toNat_lt
  simp only [getU32, UInt32.toNat_or, UInt32.toNat_shiftLeft, UInt8.toNat_toUInt32,
    UInt32.reduceToNat, Nat.reduceMod]
  rw [byte_shiftLeft_mod _ (by omega), byte_shiftLeft_mod _ (by omega),
    byte_shiftLeft_mod _ (by omega), or_shiftLeft (k := 8) _ h0,
    or_shiftLeft (k := 16) _ (by omega), or_shiftLeft (k := 24) _ (by omega)]

/-- Two bytes are the digits of their number. -/
theorem toNat_getU16 (bytes : List UInt8) (offset : ℕ) :
    (getU16 bytes offset).toNat
      = (getU8 bytes offset).toNat + (getU8 bytes (offset + 1)).toNat * 2 ^ 8 := by
  have h0 := (getU8 bytes offset).toNat_lt
  simp only [getU16, UInt16.toNat_or, UInt16.toNat_shiftLeft, UInt8.toNat_toUInt16,
    UInt16.reduceToNat, Nat.reduceMod]
  rw [byte_shiftLeft_mod _ (by omega), or_shiftLeft _ h0]

/-- Four masked bytes in a row read back as the field they were cut from. -/
lemma getU32_of_bytes {bytes : List UInt8} {offset : ℕ} {value : UInt32}
    (h0 : getU8 bytes offset = (value &&& 0xFF).toUInt8)
    (h1 : getU8 bytes (offset + 1) = ((value >>> 8) &&& 0xFF).toUInt8)
    (h2 : getU8 bytes (offset + 2) = ((value >>> 16) &&& 0xFF).toUInt8)
    (h3 : getU8 bytes (offset + 3) = ((value >>> 24) &&& 0xFF).toUInt8) :
    getU32 bytes offset = value := by
  have hlt := value.toNat_lt
  apply UInt32.toNat_inj.mp
  rw [toNat_getU32, h0, h1, h2, h3]
  simp only [UInt32.toNat_toUInt8, UInt32.toNat_and, UInt32.toNat_shiftRight, UInt32.reduceToNat,
    Nat.reduceMod, Nat.shiftRight_eq_div_pow, show (255 : ℕ) = 2 ^ 8 - 1 from rfl,
    Nat.and_two_pow_sub_one_eq_mod]
  omega

lemma getU16_of_bytes {bytes : List UInt8} {offset : ℕ} {value : UInt16}
    (h0 : getU8 bytes offset = (value &&& 0xFF).toUInt8)
    (h1 : getU8 bytes (offset + 1) = ((value >>> 8) &&& 0xFF).toUInt8) :
    getU16 bytes offset = value := by
  have hlt := value.toNat_lt
  apply UInt16.toNat_inj.mp
  rw [toNat_getU16, h0, h1]
  simp only [UInt16.toNat_toUInt8, UInt16.toNat_and, UInt16.toNat_shiftRight, UInt16.reduceToNat,
    Nat.reduceMod, Nat.shiftRight_eq_div_pow, show (255 : ℕ) = 2 ^ 8 - 1 from rfl,
    Nat.and_two_pow_sub_one_eq_mod]
  omega

/-! ## Packing and unpacking -/

/-- `encode_request_header`. -/
def encodeRequestHeader (header : RequestHeader) : List UInt8 :=
  let out := List.replicate kRequestHeaderBytes 0
  let out := putU32 out 0 header.magic
  let out := putU8 out 4 header.version
  let out := putU8 out 5 header.flags
  let out := putU32 out 6 header.seqNum
  let out := putU32 out 10 header.width
  let out := putU32 out 14 header.height
  let out := putU8 out 18 header.channels
  let out := putU32 out 19 header.payloadLen
  putU16 out 23 header.chainLen

/-- `encode_response_header`. -/
def encodeResponseHeader (header : ResponseHeader) : List UInt8 :=
  let out := List.replicate kResponseHeaderBytes 0
  let out := putU32 out 0 header.magic
  let out := putU8 out 4 header.version
  let out := putU8 out 5 header.status.toByte
  let out := putU32 out 6 header.seqNum
  let out := putU32 out 10 header.width
  let out := putU32 out 14 header.height
  let out := putU8 out 18 header.channels
  putU32 out 19 header.payloadLen

/-- `decode_request_header`: unpack only, no judgement; refuses every length but 25. -/
def decodeRequestHeader (bytes : List UInt8) : Option RequestHeader :=
  if bytes.length ≠ kRequestHeaderBytes then none
  else some {
    magic := getU32 bytes 0
    version := getU8 bytes 4
    flags := getU8 bytes 5
    seqNum := getU32 bytes 6
    width := getU32 bytes 10
    height := getU32 bytes 14
    channels := getU8 bytes 18
    payloadLen := getU32 bytes 19
    chainLen := getU16 bytes 23 }

/-- `decode_response_header`: refuses every length but 23. -/
def decodeResponseHeader (bytes : List UInt8) : Option ResponseHeader :=
  if bytes.length ≠ kResponseHeaderBytes then none
  else some {
    magic := getU32 bytes 0
    version := getU8 bytes 4
    status := Status.ofByte (getU8 bytes 5)
    seqNum := getU32 bytes 6
    width := getU32 bytes 10
    height := getU32 bytes 14
    channels := getU8 bytes 18
    payloadLen := getU32 bytes 19 }

/-- The 25 bytes of a packed request header, in wire order. -/
lemma encodeRequestHeader_eq (header : RequestHeader) :
    encodeRequestHeader header =
      [(header.magic &&& 0xFF).toUInt8, ((header.magic >>> 8) &&& 0xFF).toUInt8,
       ((header.magic >>> 16) &&& 0xFF).toUInt8, ((header.magic >>> 24) &&& 0xFF).toUInt8,
       header.version, header.flags,
       (header.seqNum &&& 0xFF).toUInt8, ((header.seqNum >>> 8) &&& 0xFF).toUInt8,
       ((header.seqNum >>> 16) &&& 0xFF).toUInt8, ((header.seqNum >>> 24) &&& 0xFF).toUInt8,
       (header.width &&& 0xFF).toUInt8, ((header.width >>> 8) &&& 0xFF).toUInt8,
       ((header.width >>> 16) &&& 0xFF).toUInt8, ((header.width >>> 24) &&& 0xFF).toUInt8,
       (header.height &&& 0xFF).toUInt8, ((header.height >>> 8) &&& 0xFF).toUInt8,
       ((header.height >>> 16) &&& 0xFF).toUInt8, ((header.height >>> 24) &&& 0xFF).toUInt8,
       header.channels,
       (header.payloadLen &&& 0xFF).toUInt8, ((header.payloadLen >>> 8) &&& 0xFF).toUInt8,
       ((header.payloadLen >>> 16) &&& 0xFF).toUInt8,
       ((header.payloadLen >>> 24) &&& 0xFF).toUInt8,
       (header.chainLen &&& 0xFF).toUInt8, ((header.chainLen >>> 8) &&& 0xFF).toUInt8] := by
  simp only [encodeRequestHeader, putU32, putU16, putU8, kRequestHeaderBytes, List.replicate,
    List.set_cons_zero, List.set_cons_succ]

@[simp] lemma length_encodeRequestHeader (header : RequestHeader) :
    (encodeRequestHeader header).length = kRequestHeaderBytes := by
  rw [encodeRequestHeader_eq]
  rfl

/-- **Unpacking undoes packing**, for every value of every field. -/
theorem decode_encodeRequestHeader (header : RequestHeader) :
    decodeRequestHeader (encodeRequestHeader header) = some header := by
  rw [decodeRequestHeader, if_neg (by simp), encodeRequestHeader_eq]
  refine congrArg some ?_
  cases header
  refine RequestHeader.mk.injEq .. |>.mpr ⟨?_, rfl, rfl, ?_, ?_, ?_, rfl, ?_, ?_⟩
  · exact getU32_of_bytes rfl rfl rfl rfl
  · exact getU32_of_bytes rfl rfl rfl rfl
  · exact getU32_of_bytes rfl rfl rfl rfl
  · exact getU32_of_bytes rfl rfl rfl rfl
  · exact getU32_of_bytes rfl rfl rfl rfl
  · exact getU16_of_bytes rfl rfl

/-- The 23 bytes of a packed response header, in wire order. -/
lemma encodeResponseHeader_eq (header : ResponseHeader) :
    encodeResponseHeader header =
      [(header.magic &&& 0xFF).toUInt8, ((header.magic >>> 8) &&& 0xFF).toUInt8,
       ((header.magic >>> 16) &&& 0xFF).toUInt8, ((header.magic >>> 24) &&& 0xFF).toUInt8,
       header.version, header.status.toByte,
       (header.seqNum &&& 0xFF).toUInt8, ((header.seqNum >>> 8) &&& 0xFF).toUInt8,
       ((header.seqNum >>> 16) &&& 0xFF).toUInt8, ((header.seqNum >>> 24) &&& 0xFF).toUInt8,
       (header.width &&& 0xFF).toUInt8, ((header.width >>> 8) &&& 0xFF).toUInt8,
       ((header.width >>> 16) &&& 0xFF).toUInt8, ((header.width >>> 24) &&& 0xFF).toUInt8,
       (header.height &&& 0xFF).toUInt8, ((header.height >>> 8) &&& 0xFF).toUInt8,
       ((header.height >>> 16) &&& 0xFF).toUInt8, ((header.height >>> 24) &&& 0xFF).toUInt8,
       header.channels,
       (header.payloadLen &&& 0xFF).toUInt8, ((header.payloadLen >>> 8) &&& 0xFF).toUInt8,
       ((header.payloadLen >>> 16) &&& 0xFF).toUInt8,
       ((header.payloadLen >>> 24) &&& 0xFF).toUInt8] := by
  simp only [encodeResponseHeader, putU32, putU8, kResponseHeaderBytes, List.replicate,
    List.set_cons_zero, List.set_cons_succ]

@[simp] lemma length_encodeResponseHeader (header : ResponseHeader) :
    (encodeResponseHeader header).length = kResponseHeaderBytes := by
  rw [encodeResponseHeader_eq]
  rfl

/-- A response header survives packing and unpacking. -/
theorem decode_encodeResponseHeader (header : ResponseHeader) :
    decodeResponseHeader (encodeResponseHeader header) = some header := by
  rw [decodeResponseHeader, if_neg (by simp), encodeResponseHeader_eq]
  refine congrArg some ?_
  cases header
  refine ResponseHeader.mk.injEq .. |>.mpr ⟨?_, rfl, ?_, ?_, ?_, ?_, rfl, ?_⟩
  · exact getU32_of_bytes rfl rfl rfl rfl
  · exact Status.ofByte_toByte _
  · exact getU32_of_bytes rfl rfl rfl rfl
  · exact getU32_of_bytes rfl rfl rfl rfl
  · exact getU32_of_bytes rfl rfl rfl rfl
  · exact getU32_of_bytes rfl rfl rfl rfl

/-! ## Validation -/

/-- `validate_request_header`: everything checkable from the header alone, in the order of
`docs/PROTOCOL.md`.  The dimension product is a `std::uint64_t`. -/
def validateRequestHeader (header : RequestHeader) (limits : Limits) : Status :=
  if header.magic ≠ kMagic then .kBadMagic
  else if header.version ≠ kVersion then .kUnsupportedVersion
  else if header.payloadLen > limits.maxPayloadBytes then .kPayloadTooLarge
  else if header.chainLen > limits.maxChainLen then .kBadChain
  else if !isSupportedChannelCount header.channels.toUInt32.toInt32 || header.width == 0
      || header.height == 0 then .kLengthMismatch
  else
    let product : UInt64 :=
      header.width.toUInt64 * header.height.toUInt64 * header.channels.toUInt64
    if product ≠ header.payloadLen.toUInt64 then .kLengthMismatch
    else .kOk

/-- The product of the three dimension fields as a natural number. -/
def RequestHeader.trueProduct (header : RequestHeader) : ℕ :=
  header.width.toNat * header.height.toNat * header.channels.toNat

/-- The dimension fields make sense on their own. -/
def RequestHeader.DimensionsUsable (header : RequestHeader) : Prop :=
  (header.channels = 1 ∨ header.channels = 3 ∨ header.channels = 4)
    ∧ header.width ≠ 0 ∧ header.height ≠ 0

/-- Whether the dimensions are usable can be computed. -/
instance (header : RequestHeader) : Decidable header.DimensionsUsable :=
  inferInstanceAs (Decidable (_ ∧ _ ∧ _))

/-- The checks that come before the dimensions. -/
def RequestHeader.Framed (header : RequestHeader) (limits : Limits) : Prop :=
  header.magic = kMagic ∧ header.version = kVersion
    ∧ header.payloadLen.toNat ≤ limits.maxPayloadBytes.toNat
    ∧ header.chainLen.toNat ≤ limits.maxChainLen.toNat

/-- Whether a header passes the checks in front can be computed. -/
instance (header : RequestHeader) (limits : Limits) : Decidable (header.Framed limits) :=
  inferInstanceAs (Decidable (_ ∧ _ ∧ _ ∧ _))

/-! ### The documented contract, over the natural numbers -/

/-- The documented checks in their order, each with the status that reports its failure. -/
def documentedChecks (header : RequestHeader) (limits : Limits) : List (Bool × Status) :=
  [(header.magic = kMagic, .kBadMagic),
   (header.version = kVersion, .kUnsupportedVersion),
   (header.payloadLen.toNat ≤ limits.maxPayloadBytes.toNat, .kPayloadTooLarge),
   (header.chainLen.toNat ≤ limits.maxChainLen.toNat, .kBadChain),
   (header.DimensionsUsable ∧ header.trueProduct = header.payloadLen.toNat, .kLengthMismatch)]

/-- The status of the first documented check that fails, if any does. -/
def firstFailedCheck (header : RequestHeader) (limits : Limits) : Option Status :=
  ((documentedChecks header limits).find? fun check => !check.1).map Prod.snd

/-- **The acceptance contract** of one header under one set of limits: success exactly when every
documented check holds, and otherwise the status of the first one that does not. -/
def AcceptanceContract (header : RequestHeader) (limits : Limits) : Prop :=
  (validateRequestHeader header limits = .kOk
      ↔ header.Framed limits ∧ header.DimensionsUsable
        ∧ header.trueProduct = header.payloadLen.toNat)
    ∧ ∀ status, firstFailedCheck header limits = some status →
        validateRequestHeader header limits = status

/-- A header whose dimension product has left 64 bits and come back as its own `payload_len`. -/
def RequestHeader.WrapsOntoPayload (header : RequestHeader) : Prop :=
  2 ^ 64 ≤ header.trueProduct ∧ header.trueProduct % 2 ^ 64 = header.payloadLen.toNat

/-- Whether a header's product wraps onto its payload can be computed. -/
instance (header : RequestHeader) : Decidable header.WrapsOntoPayload :=
  inferInstanceAs (Decidable (_ ∧ _))

/-! ### What the code accepts -/

lemma supported_channels_iff (channels : UInt8) :
    isSupportedChannelCount channels.toUInt32.toInt32 = true
      ↔ channels = 1 ∨ channels = 3 ∨ channels = 4 := by
  rw [isSupportedChannelCount_iff, toInt_toInt32_uInt8]
  simp only [← UInt8.toNat_inj, UInt8.reduceToNat]
  omega

/-- The 64-bit product is the true product modulo `2 ^ 64`. -/
lemma product_toNat (header : RequestHeader) :
    (header.width.toUInt64 * header.height.toUInt64 * header.channels.toUInt64).toNat
      = header.trueProduct % 2 ^ 64 := by
  simp only [UInt64.toNat_mul, UInt32.toNat_toUInt64, UInt8.toNat_toUInt64,
    RequestHeader.trueProduct, Nat.mod_mul_mod]

/-- Past the framing checks only the dimensions decide, and they are compared modulo `2 ^ 64`. -/
theorem validate_of_framed {header : RequestHeader} {limits : Limits}
    (h : header.Framed limits) :
    validateRequestHeader header limits
      = if header.DimensionsUsable ∧ header.trueProduct % 2 ^ 64 = header.payloadLen.toNat then
          .kOk
        else .kLengthMismatch := by
  obtain ⟨hmagic, hversion, hpayload, hchain⟩ := h
  have hnotLarge : ¬ header.payloadLen > limits.maxPayloadBytes := by
    rw [gt_iff_lt, UInt32.lt_iff_toNat_lt]; omega
  have hnotLong : ¬ header.chainLen > limits.maxChainLen := by
    rw [gt_iff_lt, UInt16.lt_iff_toNat_lt]; omega
  have hproduct : header.width.toUInt64 * header.height.toUInt64 * header.channels.toUInt64
      = header.payloadLen.toUInt64 ↔ header.trueProduct % 2 ^ 64 = header.payloadLen.toNat := by
    rw [← UInt64.toNat_inj, product_toNat, UInt32.toNat_toUInt64]
  have husable : (!isSupportedChannelCount header.channels.toUInt32.toInt32 || header.width == 0
      || header.height == 0) = true ↔ ¬ header.DimensionsUsable := by
    simp only [Bool.or_eq_true, Bool.not_eq_true', ← Bool.not_eq_true, supported_channels_iff,
      beq_iff_eq, RequestHeader.DimensionsUsable]
    tauto
  rw [validateRequestHeader, if_neg (not_not.mpr hmagic), if_neg (not_not.mpr hversion),
    if_neg hnotLarge, if_neg hnotLong]
  by_cases hd : header.DimensionsUsable
  · have huse : ¬ _ := fun h => husable.mp h hd
    by_cases hp : header.trueProduct % 2 ^ 64 = header.payloadLen.toNat
    · have hboth : header.DimensionsUsable ∧ header.trueProduct % 2 ^ 64
          = header.payloadLen.toNat := ⟨hd, hp⟩
      rw [if_neg huse, if_pos hboth]
      exact if_neg (not_not.mpr (hproduct.mpr hp))
    · have hone : ¬ (header.DimensionsUsable ∧ header.trueProduct % 2 ^ 64
          = header.payloadLen.toNat) := fun h => hp h.2
      rw [if_neg huse, if_neg hone]
      exact if_pos (fun h => hp (hproduct.mp h))
  · rw [if_pos (husable.mpr hd), if_neg (fun h => hd h.1)]

/-- A framing check that fails is reported, and it is the first documented one to fail. -/
theorem validate_of_not_framed {header : RequestHeader} {limits : Limits}
    (h : ¬ header.Framed limits) :
    validateRequestHeader header limits ≠ .kOk
      ∧ firstFailedCheck header limits = some (validateRequestHeader header limits) := by
  simp only [firstFailedCheck, documentedChecks, validateRequestHeader]
  by_cases hmagic : header.magic = kMagic
  · by_cases hversion : header.version = kVersion
    · by_cases hpayload : header.payloadLen.toNat ≤ limits.maxPayloadBytes.toNat
      · have hchain : ¬ header.chainLen.toNat ≤ limits.maxChainLen.toNat :=
          fun hchain => h ⟨hmagic, hversion, hpayload, hchain⟩
        have hnotLarge : ¬ limits.maxPayloadBytes < header.payloadLen := by
          rw [UInt32.lt_iff_toNat_lt]; omega
        have hlong : limits.maxChainLen < header.chainLen := by
          rw [UInt16.lt_iff_toNat_lt]; omega
        simp [hmagic, hversion, hpayload, hchain, hnotLarge, hlong]
      · have hlarge : limits.maxPayloadBytes < header.payloadLen := by
          rw [UInt32.lt_iff_toNat_lt]; omega
        simp [hmagic, hversion, hpayload, hlarge]
    · simp [hmagic, hversion]
  · simp [hmagic]

/-- What an accepted header has passed. -/
lemma product_of_valid {header : RequestHeader} {limits : Limits}
    (h : validateRequestHeader header limits = .kOk) :
    header.Framed limits ∧ header.DimensionsUsable
      ∧ header.trueProduct % 2 ^ 64 = header.payloadLen.toNat := by
  by_cases hf : header.Framed limits
  · rw [validate_of_framed hf] at h
    split_ifs at h with hproduct
    exact ⟨hf, hproduct⟩
  · exact absurd h (validate_of_not_framed hf).1

/-- Past the framing checks, the dimension check is the only documented one that can fail. -/
lemma firstFailedCheck_of_framed {header : RequestHeader} {limits : Limits}
    (h : header.Framed limits) :
    firstFailedCheck header limits
      = if header.DimensionsUsable ∧ header.trueProduct = header.payloadLen.toNat then none
        else some .kLengthMismatch := by
  obtain ⟨hmagic, hversion, hpayload, hchain⟩ := h
  simp only [firstFailedCheck, documentedChecks, hmagic, hversion, hpayload, hchain]
  by_cases hd : header.DimensionsUsable ∧ header.trueProduct = header.payloadLen.toNat
  · simp [hd]
  · simp [hd]

lemma payloadLen_lt (header : RequestHeader) : header.payloadLen.toNat < 2 ^ 64 :=
  lt_trans header.payloadLen.toNat_lt (by decide)

/-- The code's comparison agrees with the true one unless the product wraps onto `payload_len`. -/
lemma product_mod_eq_iff (header : RequestHeader) :
    header.trueProduct % 2 ^ 64 = header.payloadLen.toNat
      ↔ header.trueProduct = header.payloadLen.toNat ∨ header.WrapsOntoPayload := by
  have hlt := payloadLen_lt header
  simp only [RequestHeader.WrapsOntoPayload]
  omega

/-- **When validation meets its contract**: for every header and every limits, exactly unless the
header passes the framing checks with usable dimensions whose product is at least `2 ^ 64` and
reduces to `payload_len`. -/
theorem acceptance_contract_iff (header : RequestHeader) (limits : Limits) :
    AcceptanceContract header limits
      ↔ ¬ (header.Framed limits ∧ header.DimensionsUsable ∧ header.WrapsOntoPayload) := by
  by_cases hf : header.Framed limits
  · have hwrong : header.WrapsOntoPayload → header.trueProduct ≠ header.payloadLen.toNat := by
      have hlt := payloadLen_lt header
      rintro ⟨hge, _⟩
      omega
    simp only [AcceptanceContract, validate_of_framed hf, firstFailedCheck_of_framed hf,
      product_mod_eq_iff]
    by_cases hd : header.DimensionsUsable
    · by_cases hw : header.WrapsOntoPayload
      · simp [hf, hd, hw, hwrong hw]
      · by_cases hp : header.trueProduct = header.payloadLen.toNat
        · simp [hf, hd, hw, hp]
        · simp [hf, hd, hw, hp]
    · simp [hd]
  · obtain ⟨hne, hfirst⟩ := validate_of_not_framed hf
    have hholds : AcceptanceContract header limits := by
      refine ⟨⟨fun h => absurd h hne, fun h => absurd h.1 hf⟩, fun status hstatus => ?_⟩
      rw [hfirst] at hstatus
      exact Option.some.inj hstatus
    exact ⟨fun _ h => hf h.1, fun _ => hholds⟩

/-- A header of the kind validation gets wrong: `2 ^ 31` by `2 ^ 31` RGBA pixels and no payload. -/
def wrappedHeader : RequestHeader where
  width := 0x80000000
  height := 0x80000000
  channels := 4
  payloadLen := 0

/-- Under the default limits it is accepted, although its true product is `2 ^ 64`. -/
theorem wrappedHeader_accepted :
    ¬ ∀ (header : RequestHeader) (limits : Limits), AcceptanceContract header limits := by
  intro hall
  have hok : validateRequestHeader wrappedHeader {} = .kOk := by decide
  have htrue : wrappedHeader.trueProduct = wrappedHeader.payloadLen.toNat :=
    (((hall wrappedHeader {}).1).mp hok).2.2
  exact absurd htrue (by decide)

end Imgjit
