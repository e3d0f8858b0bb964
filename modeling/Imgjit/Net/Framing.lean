import Imgjit.Net.Protocol
import Imgjit.Library.SelfDelimiting

/-!
# Request frames on the wire

A request is a 25-byte header, `chain_len` bytes of chain descriptor and `payload_len` bytes of
pixels, laid end to end with the next one.  There is no marker between two frames; where one ends is
known from its header alone.

* `RequestFrame` — one such frame; its parts have the lengths its header announces.
* `RequestFrame.take` — the frame at the front of a stream, if all of it is there.
* `requestFormat` — the frame format as a self-delimiting encoding, so that a stream has exactly one
  reading as frames (`requestFrames`).

Nothing here says whether a frame is a good one.  A frame that the server refuses has the same
extent as one that it accepts, and a reader that goes on behind a refused frame has to agree with
its client on where that is.
-/

namespace Imgjit

/-- One request as it lies on the wire.  The header bytes are arbitrary; `header` is what they
decode to. -/
structure RequestFrame where
  head : List UInt8
  chain : List UInt8
  payload : List UInt8
  header : RequestHeader
  decoded : decodeRequestHeader head = some header
  chain_length : chain.length = header.chainLen.toNat
  payload_length : payload.length = header.payloadLen.toNat

namespace RequestFrame

/-- The bytes of a frame. -/
def bytes (frame : RequestFrame) : List UInt8 := frame.head ++ (frame.chain ++ frame.payload)

/-- Header bytes decode exactly when there are 25 of them. -/
lemma head_length (frame : RequestFrame) : frame.head.length = kRequestHeaderBytes := by
  have h := frame.decoded
  rw [decodeRequestHeader] at h
  split_ifs at h with hlength
  exact not_not.mp hlength

lemma length_bytes (frame : RequestFrame) :
    frame.bytes.length = kRequestHeaderBytes + frame.header.chainLen.toNat
      + frame.header.payloadLen.toNat := by
  simp only [bytes, List.length_append, frame.head_length, frame.chain_length,
    frame.payload_length, Nat.add_assoc]

/-- The header is no freedom of its own: a frame is its bytes. -/
lemma ext_bytes {a b : RequestFrame} (hhead : a.head = b.head) (hchain : a.chain = b.chain)
    (hpayload : a.payload = b.payload) : a = b := by
  have hheader : a.header = b.header := by
    have := a.decoded.symm.trans (hhead ▸ b.decoded)
    exact Option.some.inj this
  cases a
  cases b
  simp only at hhead hchain hpayload hheader
  subst hhead hchain hpayload hheader
  rfl

/-- The frame a request with these header fields, chain and payload makes. -/
def ofHeader (header : RequestHeader) (chain payload : List UInt8)
    (hchain : chain.length = header.chainLen.toNat)
    (hpayload : payload.length = header.payloadLen.toNat) : RequestFrame where
  head := encodeRequestHeader header
  chain := chain
  payload := payload
  header := header
  decoded := decode_encodeRequestHeader header
  chain_length := hchain
  payload_length := hpayload

/-- The frame at the front of a stream. -/
def take (stream : List UInt8) : Option (RequestFrame × List UInt8) :=
  match h : decodeRequestHeader (stream.take kRequestHeaderBytes) with
  | none => none
  | some header =>
      let body := stream.drop kRequestHeaderBytes
      if hlength : header.chainLen.toNat + header.payloadLen.toNat ≤ body.length then
        some ({
          head := stream.take kRequestHeaderBytes
          chain := body.take header.chainLen.toNat
          payload := (body.drop header.chainLen.toNat).take header.payloadLen.toNat
          header := header
          decoded := h
          chain_length := by rw [List.length_take]; omega
          payload_length := by rw [List.length_take, List.length_drop]; omega
        }, (body.drop header.chainLen.toNat).drop header.payloadLen.toNat)
      else none

/-- A frame at the front of a stream is found there. -/
theorem take_bytes (frame : RequestFrame) (rest : List UInt8) :
    take (frame.bytes ++ rest) = some (frame, rest) := by
  have hhead : (frame.bytes ++ rest).take kRequestHeaderBytes = frame.head := by
    rw [bytes, List.append_assoc, ← frame.head_length, List.take_left]
  have hbody : (frame.bytes ++ rest).drop kRequestHeaderBytes
      = frame.chain ++ (frame.payload ++ rest) := by
    rw [bytes, List.append_assoc, List.append_assoc, ← frame.head_length, List.drop_left]
  have hlength : frame.header.chainLen.toNat + frame.header.payloadLen.toNat
      ≤ (frame.chain ++ (frame.payload ++ rest)).length := by
    simp only [List.length_append, frame.chain_length, frame.payload_length]
    omega
  unfold take
  split
  · rename_i hnone
    rw [hhead, frame.decoded] at hnone
    cases hnone
  · rename_i header hsome
    rw [hhead, frame.decoded] at hsome
    cases hsome
    simp only [hbody]
    rw [dif_pos hlength]
    refine congrArg some (Prod.ext (ext_bytes hhead ?_ ?_) ?_)
    · simp only
      rw [← frame.chain_length, List.take_left]
    · simp only
      rw [← frame.chain_length, List.drop_left, ← frame.payload_length, List.take_left]
    · simp only
      rw [← frame.chain_length, List.drop_left, ← frame.payload_length, List.drop_left]

/-- What is found at the front of a stream is there. -/
theorem bytes_take {stream rest : List UInt8} {frame : RequestFrame}
    (h : take stream = some (frame, rest)) : stream = frame.bytes ++ rest := by
  unfold take at h
  split at h
  · cases h
  · dsimp only at h
    split_ifs at h
    cases h
    simp only [bytes, List.append_assoc, List.take_append_drop]

lemma bytes_ne_nil (frame : RequestFrame) : frame.bytes ≠ [] := by
  intro h
  have hlength := frame.length_bytes
  rw [h, List.length_nil, kRequestHeaderBytes] at hlength
  omega

end RequestFrame

/-- The frame format: nothing but the 25 header bytes says where a frame ends. -/
def requestFormat : SelfDelimiting.Format UInt8 RequestFrame where
  encode := RequestFrame.bytes
  decode := RequestFrame.take
  decode_encode := RequestFrame.take_bytes
  encode_decode := RequestFrame.bytes_take
  encode_ne_nil := RequestFrame.bytes_ne_nil

/-- The complete request frames of a byte stream, in order. -/
def requestFrames (stream : List UInt8) : List RequestFrame := requestFormat.split stream

end Imgjit
