import Imgjit.Net.ReaderLoop
import Imgjit.Net.ServerAccounts
import Imgjit.Cpu.Ops

/-!
# What a reader has received

The reader automaton seen from the past: at every place in the loop the bytes received so far are
whole frames followed by a part of one, and the place says which part.  A header that has been
decoded is that of the current frame, a chain that has been parsed is its chain, and what lies in
the claimed slot is the part of its payload that has come.

* `ReaderPc.At` — the part of the current frame that has been received at a place.
* `silent_at`, `received_at` — how the part grows; a frame that ends is one more whole frame.
* `okResponse` — the response a frame deserves when it is processed: `apply_chain` of its own
  payload under its own chain.  What `apply_chain` computes is a parameter.
* `fromBytes_slot` — a slot that starts with the payload yields the payload's picture, whatever an
  earlier frame has left behind it.

Nothing here is about other threads; `ServerPixels.lean` follows the bytes from the slot on.
-/

namespace Imgjit

/-! ## The part of a frame at a place -/

/-- A header and the first bytes of its body, with `unread` to come. -/
def Partial (header : RequestHeader) (unread : ℕ) (received : List UInt8) : Prop :=
  ∃ head body, decodeRequestHeader head = some header ∧ received = head ++ body
    ∧ body.length + unread = header.chainLen.toNat + header.payloadLen.toNat

/-- A valid header and its chain, of a frame whose payload is still to come. -/
def Headed (config : ReaderConfig) (header : RequestHeader) (chain : OpChain)
    (received : List UInt8) : Prop :=
  ∃ head text, decodeRequestHeader head = some header ∧ received = head ++ text
    ∧ text.length = header.chainLen.toNat
    ∧ validateRequestHeader header config.limits = .kOk ∧ config.parse text = some chain

/-- What has been received of the current frame.  A reader that is giving up no longer follows the
frames. -/
def ReaderPc.At (config : ReaderConfig) (memory : ℕ → List UInt8) (received : List UInt8) :
    ReaderPc → Prop
  | loopHead => received = []
  | reading .header remaining buffer =>
      received = buffer ∧ buffer.length + remaining = kRequestHeaderBytes
  | reading (.chain header) remaining buffer =>
      ∃ head, decodeRequestHeader head = some header ∧ received = head ++ buffer
        ∧ buffer.length + remaining = header.chainLen.toNat
        ∧ validateRequestHeader header config.limits = .kOk
  | reading (.payload header chain slot) remaining buffer =>
      ∃ start, Headed config header chain start ∧ received = start ++ buffer
        ∧ buffer.length + remaining = header.payloadLen.toNat
        ∧ (memory slot).take buffer.length = buffer
  | reading (.scratch left) remaining _ => ∃ header, Partial header (remaining + left) received
  | respond header status unread => status ≠ .kOk ∧ Partial header unread received
  | drain left => ∃ header, Partial header left received
  | claim header chain => Headed config header chain received
  | submit header chain slot =>
      ∃ frame : RequestFrame, frame.bytes = received ∧ frame.header = header
        ∧ verdict config frame = .accepted chain
        ∧ (memory slot).take frame.payload.length = frame.payload
  | push header chain slot =>
      ∃ frame : RequestFrame, frame.bytes = received ∧ frame.header = header
        ∧ verdict config frame = .accepted chain
        ∧ (memory slot).take frame.payload.length = frame.payload
  | pushFailed _ => True
  | giveBack _ => True
  | returned => True

variable {config : ReaderConfig} {memory : ℕ → List UInt8} {received : List UInt8}

/-- A header with its whole body is a frame. -/
lemma frame_of_partial {header : RequestHeader} (h : Partial header 0 received) :
    ∃ frame : RequestFrame, frame.bytes = received := by
  obtain ⟨head, body, hhead, rfl, hlength⟩ := h
  refine ⟨⟨head, body.take header.chainLen.toNat, body.drop header.chainLen.toNat, header, hhead,
    by rw [List.length_take]; omega, by rw [List.length_drop]; omega⟩, ?_⟩
  simp only [RequestFrame.bytes, List.take_append_drop]

/-- A valid header, its chain and its whole payload are an accepted frame. -/
lemma frame_of_headed {header : RequestHeader} {chain : OpChain} (payload : List UInt8)
    (h : Headed config header chain received) (hlength : payload.length = header.payloadLen.toNat) :
    ∃ frame : RequestFrame, frame.bytes = received ++ payload ∧ frame.header = header
      ∧ frame.payload = payload ∧ verdict config frame = .accepted chain := by
  obtain ⟨head, text, hhead, rfl, htext, hvalid, hparse⟩ := h
  refine ⟨⟨head, text, payload, header, hhead, htext, hlength⟩, ?_, rfl, rfl, ?_⟩
  · simp only [RequestFrame.bytes, List.append_assoc]
  · simp only [verdict, hvalid, hparse]

/-- **A silent move follows the frames.**  It leaves the part as it is, or finds that a drained
frame has ended. -/
theorem silent_at {pc pc' : ReaderPc} (h : pc.At config memory received)
    (hsilent : pc.silent config = some pc') :
    pc'.At config memory received
      ∨ ∃ frame : RequestFrame, frame.bytes = received ∧ pc'.At config memory [] := by
  unfold ReaderPc.silent at hsilent
  split at hsilent
  · cases hsilent
    simp only [ReaderPc.At] at h ⊢
    exact .inl ⟨h, by simp⟩
  · rename_i into buffer
    cases hsilent
    cases into with
    | header =>
        obtain ⟨rfl, hlength⟩ := h
        simp only [ReaderPc.readDone, ReaderPc.headerRead]
        split
        · exact .inl trivial
        · rename_i header hheader
          split
          · rename_i hvalid
            exact .inl ⟨received, hheader, by simp, by simp, hvalid⟩
          · rename_i hvalid
            exact .inl ⟨hvalid, received, [], hheader, by simp, by simp⟩
    | chain header =>
        obtain ⟨head, hhead, rfl, hlength, hvalid⟩ := h
        simp only [ReaderPc.readDone, ReaderPc.chainRead]
        split
        · rename_i chain hparse
          exact .inl ⟨head, buffer, hhead, rfl, by omega, hvalid, hparse⟩
        · exact .inl ⟨by simp, head, buffer, hhead, rfl, by omega⟩
    | payload header chain slot =>
        obtain ⟨start, hstart, rfl, hlength, hmemory⟩ := h
        obtain ⟨frame, hbytes, hheader, hpayload, hverdict⟩ :=
          frame_of_headed buffer hstart (by omega)
        exact .inl ⟨frame, hbytes, hheader, hverdict, by rw [hpayload]; exact hmemory⟩
    | scratch left =>
        obtain ⟨header, hpartial⟩ := h
        exact .inl ⟨header, by simpa using hpartial⟩
  · rename_i left
    cases hsilent
    obtain ⟨header, hpartial⟩ := h
    simp only [ReaderPc.drained]
    split_ifs with hleft
    · subst hleft
      obtain ⟨frame, hframe⟩ := frame_of_partial hpartial
      exact .inr ⟨frame, hframe, rfl⟩
    · refine .inl ⟨header, ?_⟩
      rwa [show min left kScratchBytes + (left - min left kScratchBytes) = left
        by omega]
  · cases hsilent

/-- **Received bytes extend the part of the frame**, and a payload's go to its slot. -/
theorem received_at {into : ReadInto} {remaining : ℕ} {buffer : List UInt8} {outcome : Recv}
    (h : (ReaderPc.reading into remaining buffer).At config memory received)
    (hlength : ∀ bytes, outcome = .data bytes → bytes.length ≤ remaining) :
    (ReaderPc.received into remaining buffer outcome).At config
      (into.store buffer.length memory outcome) (received ++ outcome.bytes) := by
  cases outcome with
  | data bytes =>
      have hle := hlength bytes rfl
      cases into with
      | header =>
          obtain ⟨rfl, hcount⟩ := h
          exact ⟨rfl, by rw [List.length_append]; omega⟩
      | chain header =>
          obtain ⟨head, hhead, rfl, hcount, hvalid⟩ := h
          exact ⟨head, hhead, List.append_assoc .., by rw [List.length_append]; omega, hvalid⟩
      | payload header chain slot =>
          obtain ⟨start, hstart, rfl, hcount, hmemory⟩ := h
          refine ⟨start, hstart, List.append_assoc .., by rw [List.length_append]; omega, ?_⟩
          simp only [ReadInto.store, Function.update_self]
          exact take_writeAt bytes hmemory
      | scratch left =>
          obtain ⟨header, head, body, hhead, rfl, hcount⟩ := h
          exact ⟨header, head, body ++ bytes, hhead, List.append_assoc ..,
            by rw [List.length_append]; omega⟩
  | interrupted => simpa [ReaderPc.received, ReadInto.store, Recv.bytes] using h
  | eof => cases into <;> trivial
  | error => cases into <;> trivial

/-- Behind the error response comes the drain, or nothing. -/
lemma responded_at {header : RequestHeader} {status : Status} {unread : ℕ}
    (h : (ReaderPc.respond header status unread).At config memory received) :
    (ReaderPc.responded status unread).At config memory received := by
  simp only [ReaderPc.responded]
  split_ifs
  · trivial
  · exact ⟨header, h.2⟩

lemma claimed_at {header : RequestHeader} {chain : OpChain} (slot : ℕ)
    (h : (ReaderPc.claim header chain).At config memory received) :
    (ReaderPc.claimed header chain slot).At config memory received :=
  ⟨received, h, by simp, by simp, rfl⟩

/-- The place only speaks of the memory of the slot the reader holds. -/
lemma at_of_memory {memory' : ℕ → List UInt8} {pc : ReaderPc} (h : pc.At config memory received)
    (hmemory : ∀ slot, pc.heldSlot = some slot → memory' slot = memory slot) :
    pc.At config memory' received := by
  cases pc with
  | reading into remaining buffer =>
      cases into with
      | payload header chain slot =>
          simp only [ReaderPc.At, hmemory slot rfl]
          exact h
      | _ => exact h
  | submit header chain slot =>
      simp only [ReaderPc.At, hmemory slot rfl]
      exact h
  | push header chain slot =>
      simp only [ReaderPc.At, hmemory slot rfl]
      exact h
  | _ => exact h

/-! ## The response a frame deserves -/

/-- The `kOk` response to a job with this picture. -/
def okAnswer (seqNum : UInt32) (flags : UInt8) (picture : Image) : Response where
  seqNum := seqNum
  status := .kOk
  echo := echoFlag flags
  writeFile := writeFlag flags
  image := some picture

/-- What a backend computes for `apply_chain`, on whatever arithmetic it has. -/
abbrev ApplyChain := Image → OpChain → Image

/-- The picture a request is asking for: `apply_chain` of its own payload under its own chain. -/
def requestedPicture (applyChain : ApplyChain) (header : RequestHeader) (chain : OpChain)
    (payload : List UInt8) : Option Image :=
  let width := header.width.toInt32
  let channels := header.channels.toUInt32.toInt32
  match Image.fromBytes width header.height.toInt32 channels payload
      (sizeT width * sizeT channels) with
  | .ok image => some (applyChain image chain)
  | .error _ => none

/-- The successful response to a frame, if it deserves one. -/
def okResponse (config : ReaderConfig) (applyChain : ApplyChain) (frame : RequestFrame) :
    Option Response :=
  match verdict config frame with
  | .accepted chain =>
      (requestedPicture applyChain frame.header chain frame.payload).map
        (okAnswer frame.header.seqNum frame.header.flags)
  | .rejected _ _ => none

/-- A valid header with a constructible shape announces exactly its picture's bytes: the product
that validation compares has not wrapped. -/
lemma packed_of_valid {header : RequestHeader} {limits : Limits} {image : Image}
    (hvalid : validateRequestHeader header limits = .kOk)
    (himage : Image.construct header.width.toInt32 header.height.toInt32
      header.channels.toUInt32.toInt32 = .ok image) :
    image.stride * image.height = header.payloadLen.toNat := by
  obtain ⟨-, ⟨hchannels, -, -⟩, hproduct⟩ := product_of_valid hvalid
  rw [Image.construct] at himage
  split_ifs at himage with hshape
  cases himage
  obtain ⟨hwidth, hheight, -⟩ := hshape
  -- A dimension from `2 ^ 31` on would have become negative.
  have hw : header.width.toNat < 2 ^ 31 := by
    by_contra hge
    have := toInt_toInt32_neg (show 2 ^ 31 ≤ header.width.toNat by omega)
    omega
  have hh : header.height.toNat < 2 ^ 31 := by
    by_contra hge
    have := toInt_toInt32_neg (show 2 ^ 31 ≤ header.height.toNat by omega)
    omega
  have hbytes : header.trueProduct < 2 ^ 64 := by
    have hc : header.channels.toNat ≤ 4 := by
      rcases hchannels with h | h | h <;> rw [h] <;> decide
    calc header.trueProduct ≤ (2 ^ 31 - 1) * (2 ^ 31 - 1) * 4 :=
          Nat.mul_le_mul (Nat.mul_le_mul (by omega) (by omega)) hc
      _ < 2 ^ 64 := by decide
  rw [Nat.mod_eq_of_lt hbytes] at hproduct
  simp only [Image.stride, Image.ofShaped, toInt_toInt32_of_lt hw, toInt_toInt32_of_lt hh,
    toInt_toInt32_uInt8, Int.toNat_natCast]
  rw [← hproduct, RequestHeader.trueProduct]
  ring

/-- **A slot that starts with the payload yields the payload's picture**, whatever an earlier frame
left behind it. -/
theorem fromBytes_slot {header : RequestHeader} {limits : Limits} {slot payload : List UInt8}
    (hvalid : validateRequestHeader header limits = .kOk)
    (hpayload : payload.length = header.payloadLen.toNat)
    (hslot : slot.take payload.length = payload) :
    Image.fromBytes header.width.toInt32 header.height.toInt32 header.channels.toUInt32.toInt32
        slot (sizeT header.width.toInt32 * sizeT header.channels.toUInt32.toInt32)
      = Image.fromBytes header.width.toInt32 header.height.toInt32
        header.channels.toUInt32.toInt32 payload
        (sizeT header.width.toInt32 * sizeT header.channels.toUInt32.toInt32) := by
  have hparts : slot = payload ++ slot.drop payload.length := by
    conv_lhs => rw [← List.take_append_drop payload.length slot, hslot]
  rw [hparts]
  refine Image.fromBytes_append _ _ _ _ _ fun image himage => ?_
  rw [packed_of_valid hvalid himage, hpayload]

end Imgjit
