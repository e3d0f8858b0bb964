import Imgjit.Net.Client
import Imgjit.Net.ExactTransfer

/-!
# What the client takes from a server it does not trust

`Client::receive` on any 23 bytes and whatever follows them.  The size check multiplies in 64 bits
and may wrap; the dimensions are narrowed to `int` and may turn negative; the channel count is any
byte.  The image constructor refuses what the check lets through, with an exception of its own.

Two questions are asked of such a call, and they have different answers.

**Is memory safe?**  `payloadBuffer` is the check and the allocation, up to the payload read.
`receive_in_bounds`: the buffer is exactly as long as the payload, whatever the header says, so no
`recv` writes behind it.

**Does it keep its promise?**  `ReceiveContract` is what the header file promises of one call: a
response or a `std::runtime_error`, and a map that changes only with a response.
`receive_contract_iff`: a call keeps the promise exactly unless its frame has a shape that agrees
with its size and is no image's.  Then `std::invalid_argument` comes out of the constructor.
`receive_contract_broken` is such a frame.
-/

namespace Imgjit

/-! ## Response headers -/

namespace ResponseHeader

/-- The product of the three dimension fields as a natural number. -/
def trueProduct (header : ResponseHeader) : ℕ :=
  header.width.toNat * header.height.toNat * header.channels.toNat

/-- What the size check lets through: the product in 64 bits, and the cap. -/
def SizeAgrees (header : ResponseHeader) : Prop :=
  header.trueProduct % 2 ^ 64 = header.payloadLen.toNat
    ∧ header.payloadLen.toNat ≤ kMaxPayloadBytes.toNat

/-- An image can have these dimensions. -/
def ImageShaped (header : ResponseHeader) : Prop :=
  (0 < header.width.toNat ∧ header.width.toNat < 2 ^ 31)
    ∧ (0 < header.height.toNat ∧ header.height.toNat < 2 ^ 31)
    ∧ (header.channels = 1 ∨ header.channels = 3 ∨ header.channels = 4)

/-- The right magic, and no payload or one that has the true size of its dimensions, within the cap
and with a supported channel count. -/
def WellFormed (header : ResponseHeader) : Prop :=
  header.magic = kMagic
    ∧ (header.payloadLen = 0
      ∨ header.trueProduct = header.payloadLen.toNat
        ∧ header.payloadLen.toNat ≤ kMaxPayloadBytes.toNat
        ∧ (header.channels = 1 ∨ header.channels = 3 ∨ header.channels = 4))

variable {header : ResponseHeader}

lemma shaped_iff :
    Image.Shaped header.width.toInt32 header.height.toInt32 header.channels.toUInt32.toInt32
      ↔ header.ImageShaped := by
  have hpositive : ∀ value : UInt32,
      0 < value.toInt32.toInt ↔ 0 < value.toNat ∧ value.toNat < 2 ^ 31 := by
    intro value
    have hlt := UInt32.toNat_lt value
    rw [toInt_toInt32]
    split_ifs <;> omega
  rw [Image.Shaped, hpositive, hpositive, supported_channels_iff, ImageShaped]

/-- The product of an image's dimensions does not reach 64 bits. -/
lemma ImageShaped.trueProduct_lt (h : header.ImageShaped) : header.trueProduct < 2 ^ 64 := by
  rcases h with ⟨⟨-, hw⟩, ⟨-, hh⟩, hc⟩
  have hchannels : header.channels.toNat ≤ 4 := by rcases hc with hc | hc | hc <;> simp [hc]
  have harea : header.width.toNat * header.height.toNat ≤ (2 ^ 31 - 1) * (2 ^ 31 - 1) :=
    Nat.mul_le_mul (by omega) (by omega)
  have hall := Nat.mul_le_mul harea hchannels
  rw [trueProduct]
  omega

/-- A payload that has the true size of its dimensions has the dimensions of an image. -/
lemma WellFormed.imageShaped (h : header.WellFormed) (hpayload : header.payloadLen ≠ 0) :
    header.SizeAgrees ∧ header.ImageShaped := by
  rcases h.2 with hzero | ⟨hproduct, hcap, hchannels⟩
  · exact absurd hzero hpayload
  · have hpositive : 0 < header.payloadLen.toNat := by
      refine Nat.pos_of_ne_zero fun hzero => hpayload ?_
      exact UInt32.toNat_inj.mp hzero
    have hcap' : header.payloadLen.toNat ≤ 67108864 := hcap
    have hlt := UInt32.toNat_lt header.payloadLen
    rw [trueProduct] at hproduct
    have hfactors : 0 < header.width.toNat ∧ 0 < header.height.toNat
        ∧ 0 < header.channels.toNat := by
      rw [← hproduct] at hpositive
      exact ⟨Nat.pos_of_mul_pos_right (Nat.pos_of_mul_pos_right hpositive),
        Nat.pos_of_mul_pos_left (Nat.pos_of_mul_pos_right hpositive),
        Nat.pos_of_mul_pos_left hpositive⟩
    have hwidth : header.width.toNat ≤ header.payloadLen.toNat := by
      rw [← hproduct, Nat.mul_assoc]
      exact Nat.le_mul_of_pos_right _ (Nat.mul_pos hfactors.2.1 hfactors.2.2)
    have hheight : header.height.toNat ≤ header.payloadLen.toNat := by
      rw [← hproduct, Nat.mul_right_comm]
      exact Nat.le_mul_of_pos_left _ (Nat.mul_pos hfactors.1 hfactors.2.2)
    refine ⟨⟨?_, hcap⟩, ⟨hfactors.1, by omega⟩, ⟨hfactors.2.1, by omega⟩, hchannels⟩
    rw [trueProduct, hproduct]
    exact Nat.mod_eq_of_lt (by omega)

/-- And conversely: an image's dimensions leave no room for the product to wrap. -/
lemma wellFormed_of_shaped (hmagic : header.magic = kMagic) (hsize : header.SizeAgrees)
    (hshaped : header.ImageShaped) : header.WellFormed := by
  have hproduct := hsize.1
  rw [Nat.mod_eq_of_lt hshaped.trueProduct_lt] at hproduct
  exact ⟨hmagic, .inr ⟨hproduct, hsize.2, hshaped.2.2⟩⟩

end ResponseHeader

/-! ## Up to the payload read -/

/-- The size check of `receive` and the image it allocates. -/
def payloadBuffer (header : ResponseHeader) : Except Exn Image :=
  let expected : UInt64 :=
    header.width.toUInt64 * header.height.toUInt64 * header.channels.toUInt64
  if expected ≠ header.payloadLen.toUInt64 ∨ header.payloadLen > kMaxPayloadBytes then
    .error (.runtimeError "imgjit client: response payload disagrees with its dimensions")
  else
    Image.construct header.width.toInt32 header.height.toInt32 header.channels.toUInt32.toInt32

section Buffer

variable {header : ResponseHeader}

lemma sizeAgrees_iff :
    ¬(header.width.toUInt64 * header.height.toUInt64 * header.channels.toUInt64
        ≠ header.payloadLen.toUInt64 ∨ header.payloadLen > kMaxPayloadBytes)
      ↔ header.SizeAgrees := by
  have hproduct :
      (header.width.toUInt64 * header.height.toUInt64 * header.channels.toUInt64).toNat
        = header.trueProduct % 2 ^ 64 := by
    simp only [UInt64.toNat_mul, UInt32.toNat_toUInt64, UInt8.toNat_toUInt64,
      ResponseHeader.trueProduct, Nat.mod_mul_mod]
  rw [not_or, not_not, ← UInt64.toNat_inj, hproduct, UInt32.toNat_toUInt64, gt_iff_lt,
    UInt32.lt_iff_toNat_lt, not_lt, ResponseHeader.SizeAgrees]

/-- The size check throws `std::runtime_error`, the constructor `std::invalid_argument`; past both
there is an image with the header's dimensions. -/
theorem payloadBuffer_cases (header : ResponseHeader) :
    (¬header.SizeAgrees ∧ ∃ what, payloadBuffer header = .error (.runtimeError what))
      ∨ (header.SizeAgrees ∧ ¬header.ImageShaped
        ∧ ∃ what, payloadBuffer header = .error (.invalidArgument what))
      ∨ (header.SizeAgrees ∧ header.ImageShaped ∧ ∃ image, payloadBuffer header = .ok image
        ∧ image.width = header.width.toNat ∧ image.height = header.height.toNat
        ∧ image.channels = header.channels.toNat
        ∧ image.byteCount = header.payloadLen.toNat) := by
  by_cases hsize : header.SizeAgrees
  · have hpass := sizeAgrees_iff.mpr hsize
    by_cases hshaped : header.ImageShaped
    · refine .inr (.inr ⟨hsize, hshaped, ?_⟩)
      have hbuild := header.shaped_iff.mpr hshaped
      have hwidth := toInt_toInt32_of_lt hshaped.1.2
      have hheight := toInt_toInt32_of_lt hshaped.2.1.2
      have hchannels := toInt_toInt32_uInt8 header.channels
      refine ⟨_, by rw [payloadBuffer, if_neg hpass, Image.construct, dif_pos hbuild], ?_, ?_, ?_,
        ?_⟩
      · simp only [Image.ofShaped, hwidth, Int.toNat_natCast]
      · simp only [Image.ofShaped, hheight, Int.toNat_natCast]
      · simp only [Image.ofShaped, hchannels, Int.toNat_natCast]
      · have hproduct := hsize.1
        rw [Nat.mod_eq_of_lt hshaped.trueProduct_lt] at hproduct
        rw [Image.byteCount_eq, Image.stride, ← hproduct, ResponseHeader.trueProduct]
        simp only [Image.ofShaped, hwidth, hheight, hchannels, Int.toNat_natCast]
        exact Nat.mul_right_comm _ _ _
    · refine .inr (.inl ⟨hsize, hshaped, ?_⟩)
      rw [payloadBuffer, if_neg hpass, Image.construct,
        dif_neg fun hbuild => hshaped (header.shaped_iff.mp hbuild)]
      exact ⟨_, rfl⟩
  · refine .inl ⟨hsize, ?_⟩
    rw [payloadBuffer, if_pos (by_contra fun hpass => hsize (sizeAgrees_iff.mp hpass))]
    exact ⟨_, rfl⟩

/-- **Where the payload read is reached, the image is exactly as long as the payload.** -/
theorem byteCount_payloadBuffer {image : Image} (h : payloadBuffer header = .ok image) :
    image.byteCount = header.payloadLen.toNat
      ∧ header.payloadLen.toNat ≤ kMaxPayloadBytes.toNat := by
  rcases payloadBuffer_cases header with
    ⟨-, what, herror⟩ | ⟨-, -, what, herror⟩ | ⟨hsize, -, built, hok, -, -, -, hcount⟩
  · rw [herror] at h
    cases h
  · rw [herror] at h
    cases h
  · rw [hok] at h
    cases h
    exact ⟨hcount, hsize.2⟩

/-- So nothing of the read goes past the buffer. -/
theorem receiveImage_eq (client : Client) (header : ResponseHeader) :
    client.receiveImage header
      = match payloadBuffer header with
        | .error error => (.error error, client)
        | .ok image =>
            match client.read header.payloadLen.toNat with
            | (.kOk, bytes, client') => (.ok (image.overwrite bytes), client')
            | (_, _, client') =>
                (.error (.runtimeError "imgjit client: connection closed mid-payload"),
                  client') := by
  rw [Client.receiveImage]
  cases hbuffer : payloadBuffer header with
  | error error =>
      rw [payloadBuffer] at hbuffer
      split_ifs at hbuffer ⊢ with hsize
      · cases hbuffer
        rfl
      · simp only [hbuffer]
  | ok image =>
      have hcount := (byteCount_payloadBuffer hbuffer).1
      rw [payloadBuffer] at hbuffer
      split_ifs at hbuffer ⊢ with hsize
      have hfits : ¬header.payloadLen.toNat > image.byteCount := hcount ▸ lt_irrefl _
      rw [hbuffer]
      exact if_neg hfits

end Buffer

/-! ## The contract -/

/-- The header that the first 23 bytes of a wire make, if they arrive. -/
def frameHeader (wire : Wire) : Option ResponseHeader :=
  if kResponseHeaderBytes ≤ wire.delivered.length then
    decodeResponseHeader (wire.delivered.take kResponseHeaderBytes)
  else none

/-- A response says what its frame says. -/
structure ClientResponse.Decodes (response : ClientResponse) (header : ResponseHeader)
    (payload : List UInt8) : Prop where
  version : response.version = header.version
  status : response.status = header.status
  seqNum : response.seqNum = header.seqNum
  noImage : header.payloadLen = 0 → response.image = none
  image : header.payloadLen ≠ 0 → ∃ image, response.image = some image ∧ image.pixels = payload
    ∧ image.width = header.width.toNat ∧ image.height = header.height.toNat
    ∧ image.channels = header.channels.toNat

/-- One call of `receive` either returns what a complete, well-formed frame says, or throws
`std::runtime_error` and leaves the pending map as it was. -/
structure ReceiveContract (client : Client) : Prop where
  returns : ∀ response client', client.receive = (.ok response, client') →
    ∃ header, frameHeader client.incoming = some header ∧ header.WellFormed
      ∧ kResponseHeaderBytes + header.payloadLen.toNat ≤ client.incoming.delivered.length
      ∧ response.Decodes header
        ((client.incoming.delivered.drop kResponseHeaderBytes).take header.payloadLen.toNat)
  throws : ∀ error client', client.receive = (.error error, client') →
    (∃ what, error = .runtimeError what) ∧ client'.pending = client.pending

/-- The frame on the wire has a shape that agrees with its size, and is no image's. -/
def ShapeRefused (wire : Wire) : Prop :=
  ∃ header, frameHeader wire = some header ∧ header.magic = kMagic ∧ header.payloadLen ≠ 0
    ∧ header.SizeAgrees ∧ ¬header.ImageShaped

/-! ## Every outcome of a call -/

namespace Client

variable {client : Client} {count : ℕ}

lemma read_enough (h : count ≤ client.incoming.delivered.length) :
    ∃ wire, client.read count
        = (.kOk, client.incoming.delivered.take count, { client with incoming := wire })
      ∧ Taken client.incoming count wire := by
  obtain ⟨wire, hread, htaken⟩ := readExact_enough h []
  exact ⟨wire, by rw [read, hread, List.nil_append], htaken⟩

lemma read_short (h : client.incoming.delivered.length < count) :
    ∃ result bytes wire, client.read count = (result, bytes, { client with incoming := wire })
      ∧ result ≠ .kOk :=
  ⟨_, _, _, rfl, readExact_short h []⟩

/-- Matching fills in the request and nothing else. -/
lemma matchResponse_decodes {header : ResponseHeader} {payload : List UInt8}
    {response : ClientResponse} (h : response.Decodes header payload) :
    (client.matchResponse response).1.Decodes header payload := by
  rw [matchResponse]
  split
  · exact h
  · exact ⟨h.version, h.status, h.seqNum, h.noImage, h.image⟩

/-- What becomes of a frame's payload. -/
lemma receiveImage_cases (client : Client) {header : ResponseHeader}
    (hmagic : header.magic = kMagic) :
    (∃ image client', client.receiveImage header = (.ok image, client')
        ∧ header.WellFormed ∧ header.payloadLen.toNat ≤ client.incoming.delivered.length
        ∧ image.pixels = client.incoming.delivered.take header.payloadLen.toNat
        ∧ image.width = header.width.toNat ∧ image.height = header.height.toNat
        ∧ image.channels = header.channels.toNat)
      ∨ (∃ what client', client.receiveImage header = (.error (.runtimeError what), client')
        ∧ (header.SizeAgrees → header.ImageShaped) ∧ client'.pending = client.pending)
      ∨ ∃ what client', client.receiveImage header = (.error (.invalidArgument what), client')
        ∧ header.SizeAgrees ∧ ¬header.ImageShaped := by
  rw [receiveImage_eq]
  rcases payloadBuffer_cases header with
    ⟨hsize, what, hbuffer⟩ | ⟨hsize, hshaped, what, hbuffer⟩
      | ⟨hsize, hshaped, image, hbuffer, hwidth, hheight, hchannels, hcount⟩ <;> rw [hbuffer]
  · exact .inr (.inl ⟨what, client, rfl, fun h => absurd h hsize, rfl⟩)
  · exact .inr (.inr ⟨what, client, rfl, hsize, hshaped⟩)
  · by_cases henough : header.payloadLen.toNat ≤ client.incoming.delivered.length
    · obtain ⟨wire, hread, -⟩ := read_enough henough
      refine .inl ⟨image.overwrite (client.incoming.delivered.take header.payloadLen.toNat),
        { client with incoming := wire }, by simp only [hread],
        header.wellFormed_of_shaped hmagic hsize hshaped, henough, ?_, hwidth, hheight, hchannels⟩
      have hlength : (client.incoming.delivered.take header.payloadLen.toNat).length
          = image.pixels.length := by
        rw [List.length_take, Nat.min_eq_left henough, ← hcount, Image.byteCount]
      simp only [Image.overwrite, Image.byteCount]
      rw [hlength, List.drop_length, List.append_nil, ← hlength, List.take_length]
    · obtain ⟨result, bytes, wire, hread, hfailed⟩ := read_short (Nat.lt_of_not_le henough)
      refine .inr (.inl ⟨"imgjit client: connection closed mid-payload",
        { client with incoming := wire }, ?_, fun _ => hshaped, rfl⟩)
      simp only [hread]

/-- **The three outcomes of a call**: it returns what a well-formed frame says, it throws
`std::runtime_error`, or the constructor throws from inside it. -/
theorem receive_cases (client : Client) :
    (¬ShapeRefused client.incoming ∧ ∃ header response client',
        client.receive = (.ok response, client') ∧ frameHeader client.incoming = some header
        ∧ header.WellFormed
        ∧ kResponseHeaderBytes + header.payloadLen.toNat ≤ client.incoming.delivered.length
        ∧ response.Decodes header
          ((client.incoming.delivered.drop kResponseHeaderBytes).take header.payloadLen.toNat))
      ∨ (¬ShapeRefused client.incoming ∧ ∃ what client',
        client.receive = (.error (.runtimeError what), client')
        ∧ client'.pending = client.pending)
      ∨ (ShapeRefused client.incoming ∧ ∃ what client',
        client.receive = (.error (.invalidArgument what), client')) := by
  by_cases hheader : kResponseHeaderBytes ≤ client.incoming.delivered.length
  · obtain ⟨wire, hread, htaken⟩ := read_enough hheader
    have hdecode : decodeResponseHeader (client.incoming.delivered.take kResponseHeaderBytes)
        = frameHeader client.incoming := by rw [frameHeader, if_pos hheader]
    have hlength : (client.incoming.delivered.take kResponseHeaderBytes).length
        = kResponseHeaderBytes := by rw [List.length_take, Nat.min_eq_left hheader]
    have hsome : ∃ header, frameHeader client.incoming = some header := by
      rw [← hdecode, decodeResponseHeader, if_neg (not_not.mpr hlength)]
      exact ⟨_, rfl⟩
    rcases hsome with ⟨header, hframe⟩
    have hrefused : ShapeRefused client.incoming
        ↔ header.magic = kMagic ∧ header.payloadLen ≠ 0 ∧ header.SizeAgrees
          ∧ ¬header.ImageShaped := by
      constructor
      · rintro ⟨other, hother, hrest⟩
        rw [hframe] at hother
        cases hother
        exact hrest
      · exact fun hrest => ⟨header, hframe, hrest⟩
    rw [hrefused]
    simp only [receive, hread, hdecode, hframe]
    by_cases hmagic : header.magic = kMagic
    · rw [if_neg (not_not.mpr hmagic)]
      by_cases hpayload : header.payloadLen = 0
      · have hzero : ¬header.payloadLen > 0 := by rw [hpayload]; decide
        rw [if_neg hzero]
        refine .inl ⟨fun h => h.2.1 hpayload, header, _, _, rfl, rfl, ⟨hmagic, .inl hpayload⟩, ?_,
          matchResponse_decodes
            ⟨rfl, rfl, rfl, fun _ => rfl, fun hne => absurd hpayload hne⟩⟩
        rw [hpayload]
        exact hheader
      · have hpositive : header.payloadLen > 0 := by
          rw [gt_iff_lt, UInt32.lt_iff_toNat_lt]
          exact Nat.pos_of_ne_zero fun hzero => hpayload (UInt32.toNat_inj.mp hzero)
        rw [if_pos hpositive]
        rcases receiveImage_cases { client with incoming := wire } hmagic with
          ⟨image, client', himage, hformed, henough, hpixels, hwidth, hheight, hchannels⟩
            | ⟨what, client', himage, hshape, hpending⟩ | ⟨what, client', himage, hsize, hshaped⟩
        · simp only at henough hpixels
          rw [htaken.delivered] at henough hpixels
          rw [List.length_drop] at henough
          simp only [himage]
          refine .inl ⟨fun h => h.2.2.2 (hformed.imageShaped hpayload).2, header, _, _, rfl, rfl,
            hformed, by omega, matchResponse_decodes ⟨rfl, rfl, rfl,
              fun hzero => absurd hzero hpayload, fun _ => ⟨image, rfl, hpixels, hwidth, hheight,
                hchannels⟩⟩⟩
        · simp only [himage]
          exact .inr (.inl ⟨fun h => h.2.2.2 (hshape h.2.2.1), what, client', rfl, hpending⟩)
        · simp only [himage]
          exact .inr (.inr ⟨⟨hmagic, hpayload, hsize, hshaped⟩, what, client', rfl⟩)
    · rw [if_pos hmagic]
      exact .inr (.inl ⟨fun h => hmagic h.1, _, _, rfl, rfl⟩)
  · obtain ⟨result, bytes, wire, hread, hfailed⟩ := read_short (Nat.lt_of_not_le hheader)
    refine .inr (.inl ⟨?_, "imgjit client: connection closed while awaiting a response",
      { client with incoming := wire }, ?_, rfl⟩)
    · rintro ⟨header, hframe, -⟩
      rw [frameHeader, if_neg hheader] at hframe
      cases hframe
    · rw [receive]
      simp only [hread]

end Client

/-- **`receive` never writes past the image it allocated.**  Whatever 23 bytes the server sends, the
buffer behind the size check has exactly `payload_len` bytes, no more than the cap; every call of
the payload read stays inside it; and no call of `receive` ends out of bounds. -/
theorem receive_in_bounds :
    (∀ (header : ResponseHeader) (image : Image), payloadBuffer header = .ok image →
        image.byteCount = header.payloadLen.toNat
          ∧ header.payloadLen.toNat ≤ kMaxPayloadBytes.toNat
          ∧ ∀ wire, ∀ call ∈ readExactCalls wire header.payloadLen.toNat 0,
            call.received + call.requested ≤ image.byteCount)
      ∧ (∀ (client : Client) (header : ResponseHeader), client.receiveImage header
        = match payloadBuffer header with
          | .error error => (.error error, client)
          | .ok image =>
              match client.read header.payloadLen.toNat with
              | (.kOk, bytes, client') => (.ok (image.overwrite bytes), client')
              | (_, _, client') =>
                  (.error (.runtimeError "imgjit client: connection closed mid-payload"),
                    client'))
      ∧ ∀ client : Client, client.receive.1 ≠ .error .outOfBounds := by
  refine ⟨fun header image hbuffer => ?_, receiveImage_eq, fun client hbounds => ?_⟩
  · rcases byteCount_payloadBuffer hbuffer with ⟨hcount, hcap⟩
    refine ⟨hcount, hcap, fun wire call hcall => ?_⟩
    have := readExactCalls_le call hcall
    omega
  · rcases client.receive_cases with
      ⟨-, header, response, client', hok, -⟩ | ⟨-, what, client', herror, -⟩
        | ⟨-, what, client', herror⟩
    · rw [hok] at hbounds
      cases hbounds
    · rw [herror] at hbounds
      cases hbounds
    · rw [herror] at hbounds
      cases hbounds

/-- **When a call keeps its promise**: exactly unless the frame's size check passes and its shape is
no image's. -/
theorem receive_contract_iff (client : Client) :
    ReceiveContract client ↔ ¬ShapeRefused client.incoming := by
  rcases client.receive_cases with
    ⟨hshape, header, response, client', hok, hframe, hformed, henough, hdecodes⟩
      | ⟨hshape, what, client', herror, hpending⟩ | ⟨hshape, what, client', herror⟩
  · refine iff_of_true ⟨fun response' client'' h => ?_, fun error client'' h => ?_⟩ hshape
    · rw [hok] at h
      cases h
      exact ⟨header, hframe, hformed, henough, hdecodes⟩
    · rw [hok] at h
      cases h
  · refine iff_of_true ⟨fun response client'' h => ?_, fun error client'' h => ?_⟩ hshape
    · rw [herror] at h
      cases h
    · rw [herror] at h
      cases h
      exact ⟨⟨what, rfl⟩, hpending⟩
  · refine iff_of_false (fun hcontract => ?_) (not_not.mpr hshape)
    rcases (hcontract.throws _ client' herror).1 with ⟨text, htext⟩
    cases htext

/-! ## A shape that is refused -/

namespace TwoChannels

/-- One pixel of two channels, and its two bytes. -/
def client : Client where
  incoming := [.segment 0xEF [0xBE, 0xAD, 0xDE, 1, 0, 1, 0, 0, 0, 1, 0, 0, 0, 1, 0, 0, 0, 2, 2, 0,
    0, 0, 7, 7]]
  sends := []
  pending := [(1, {})]

/-- A response of one pixel with two channels. -/
def header : ResponseHeader where
  seqNum := 1
  width := 1
  height := 1
  channels := 2
  payloadLen := 2

lemma frameHeader_client : frameHeader client.incoming = some header := by decide

lemma refused : ShapeRefused client.incoming := by
  refine ⟨header, frameHeader_client, rfl, by decide, ⟨by decide, by decide⟩, fun hshaped => ?_⟩
  rcases hshaped.2.2 with h | h | h <;> exact absurd h (by decide)

/-- **The promise is broken**: the size check passes, and the constructor throws
`std::invalid_argument`. -/
theorem receive_contract_broken :
    (∃ what, client.receive.1 = .error (.invalidArgument what)) ∧ ¬ReceiveContract client := by
  rcases client.receive_cases with ⟨hshape, -⟩ | ⟨hshape, -⟩ | ⟨-, what, client', herror⟩
  · exact absurd refused hshape
  · exact absurd refused hshape
  · refine ⟨⟨what, by rw [herror]⟩, fun hcontract => ?_⟩
    rcases (hcontract.throws _ client' herror).1 with ⟨text, htext⟩
    cases htext

end TwoChannels

end Imgjit
