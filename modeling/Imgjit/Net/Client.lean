import Imgjit.Core.Image
import Imgjit.Net.Framing
import Imgjit.Net.Transfer

/-!
# The reference client

One connection, and a map from sequence numbers to the frames that wait for an answer.

**The object.**  `Client`, `Client.send` and `Client.receive` are the object and its two operations.
What the network will do is part of the object: the bytes to come, and the outcomes of the calls of
`send`.  A call that throws leaves the object as the exception found it, and that is part of the
model: a frame is entered in the map before it is sent, and a failed send leaves it there.

**What a send writes.**  `SendCall.Fits` says that the lengths survive the narrowing into the
header.  The client validates nothing; a chain whose text is longer than its length field can say is
written in full, behind a header that announces a part of it.

**One frame per call.**  `send_frames_iff`: the bytes of a sequence of calls read as one frame per
call, each with what the call was given, exactly when every call fits.  `long_chain_splits_not` is a
call that does not.

**What a receive matches.**  `receive_found` says what a call returns that finds its number in the
map, and what it leaves there.
-/

namespace Imgjit

/-! ## Images that may be `Image{}` -/

/-- The width of an image that may be `Image{}`. -/
def widthOf (image : Option Image) : ℕ := (image.map Image.width).getD 0

/-- The height of an image that may be `Image{}`. -/
def heightOf (image : Option Image) : ℕ := (image.map Image.height).getD 0

/-- The channels of an image that may be `Image{}`. -/
def channelsOf (image : Option Image) : ℕ := (image.map Image.channels).getD 0

/-- `data()`, `byte_count()` bytes of it. -/
def pixelsOf (image : Option Image) : List UInt8 := (image.map Image.pixels).getD []

lemma Image.length_overwrite (image : Image) (bytes : List UInt8) :
    ((bytes ++ image.pixels.drop bytes.length).take image.byteCount).length
      = image.width * image.channels * image.height := by
  rw [← image.packed, Image.byteCount, List.length_take, List.length_append, List.length_drop]
  omega

/-- The image after bytes have been received at the start of its buffer. -/
def Image.overwrite (image : Image) (bytes : List UInt8) : Image :=
  { image with
    pixels := (bytes ++ image.pixels.drop bytes.length).take image.byteCount
    packed := image.length_overwrite bytes }

/-! ## The client -/

/-- What was sent, kept for the response.  The time stamp is left out. -/
structure PendingFrame where
  seqNum : UInt32 := 0
  chain : List UInt8 := []
  width : ℕ := 0
  height : ℕ := 0
  channels : ℕ := 0
  flags : UInt8 := 0
  deriving DecidableEq, Repr

/-- What `receive` returns: the header's fields, the picture, and the frame it belongs to. -/
structure ClientResponse where
  version : UInt8 := 0
  status : Status := .kOk
  seqNum : UInt32 := 0
  image : Option Image := none
  /-- The client has sent a frame of this number and had no answer to it before. -/
  matched : Bool := false
  request : PendingFrame := {}
  deriving DecidableEq, Repr

/-- The members of `Client`, and what the network will do. -/
structure Client where
  /-- What is still to arrive on the connection. -/
  incoming : Wire
  /-- What the next calls of `send` will return. -/
  sends : List Sent
  /-- The bytes the connection has taken so far. -/
  written : List UInt8 := []
  nextSeqNum : UInt32 := 1
  pending : List (UInt32 × PendingFrame) := []

/-- The arguments of one `Client::send`. -/
structure SendCall where
  image : Option Image
  chain : List UInt8
  flags : UInt8 := kFlagEcho

/-- The header `send` fills in. -/
def SendCall.header (call : SendCall) (seqNum : UInt32) : RequestHeader where
  flags := call.flags
  seqNum := seqNum
  width := UInt32.ofNat (widthOf call.image)
  height := UInt32.ofNat (heightOf call.image)
  channels := UInt8.ofNat (channelsOf call.image)
  payloadLen := UInt32.ofNat (pixelsOf call.image).length
  chainLen := UInt16.ofNat call.chain.length

/-- The bytes of one call, when every write succeeds. -/
def SendCall.bytes (call : SendCall) (seqNum : UInt32) : List UInt8 :=
  encodeRequestHeader (call.header seqNum) ++ (call.chain ++ pixelsOf call.image)

/-- The frame that a call enters in the map. -/
def SendCall.pendingFrame (call : SendCall) (seqNum : UInt32) : PendingFrame where
  seqNum := seqNum
  chain := call.chain
  width := widthOf call.image
  height := heightOf call.image
  channels := channelsOf call.image
  flags := call.flags

/-- `pending_.emplace`: an existing entry stays. -/
def emplacePending (pending : List (UInt32 × PendingFrame)) (seqNum : UInt32)
    (frame : PendingFrame) : List (UInt32 × PendingFrame) :=
  if pending.any (·.1 == seqNum) then pending else (seqNum, frame) :: pending

namespace Client

/-- One `write_exact`. -/
def write (client : Client) (bytes : List UInt8) : IoResult × Client :=
  let (result, written, sends) := writeExact client.sends bytes
  (result, { client with sends := sends, written := client.written ++ written })

/-- One `write_exact` after the other, up to the first that fails. -/
def writeParts (client : Client) : List (List UInt8) → IoResult × Client
  | [] => (.kOk, client)
  | part :: parts =>
      match client.write part with
      | (.kOk, client') => client'.writeParts parts
      | (result, client') => (result, client')

/-- `Client::send`. -/
def send (client : Client) (call : SendCall) : Except Exn UInt32 × Client :=
  let header := call.header client.nextSeqNum
  let client' := { client with nextSeqNum := client.nextSeqNum + 1 }
  match client'.writeParts [encodeRequestHeader header, call.chain, pixelsOf call.image] with
  | (.kOk, client'') =>
      (.ok header.seqNum, { client'' with
        pending := emplacePending client''.pending header.seqNum
          (call.pendingFrame header.seqNum) })
  | (_, client'') =>
      (.error (.runtimeError ("imgjit client: connection closed while sending frame "
        ++ toString header.seqNum.toNat)), client'')

/-- `read_exact`, over the connection's incoming bytes. -/
def read (client : Client) (count : ℕ) : IoResult × List UInt8 × Client :=
  let (result, bytes, incoming) := readExact client.incoming count []
  (result, bytes, { client with incoming := incoming })

/-- The payload of a response, received straight into a new image. -/
def receiveImage (client : Client) (header : ResponseHeader) : Except Exn Image × Client :=
  let expected : UInt64 :=
    header.width.toUInt64 * header.height.toUInt64 * header.channels.toUInt64
  if expected ≠ header.payloadLen.toUInt64 ∨ header.payloadLen > kMaxPayloadBytes then
    (.error (.runtimeError "imgjit client: response payload disagrees with its dimensions"), client)
  else
    match Image.construct header.width.toInt32 header.height.toInt32
        header.channels.toUInt32.toInt32 with
    | .error error => (.error error, client)
    | .ok image =>
        -- More bytes than the image has would go past the end of its buffer.
        if header.payloadLen.toNat > image.byteCount then (.error .outOfBounds, client)
        else
          match client.read header.payloadLen.toNat with
          | (.kOk, bytes, client') => (.ok (image.overwrite bytes), client')
          | (_, _, client') =>
              (.error (.runtimeError "imgjit client: connection closed mid-payload"), client')

/-- `pending_.find` and `pending_.erase`: the response with its request, if it has one. -/
def matchResponse (client : Client) (response : ClientResponse) : ClientResponse × Client :=
  match client.pending.find? (·.1 == response.seqNum) with
  | none => (response, client)
  | some entry =>
      ({ response with matched := true, request := entry.2 },
        { client with pending := client.pending.eraseP (·.1 == response.seqNum) })

/-- `Client::receive`. -/
def receive (client : Client) : Except Exn ClientResponse × Client :=
  match client.read kResponseHeaderBytes with
  | (.kOk, bytes, client') =>
      match decodeResponseHeader bytes with
      | none => (.error (.runtimeError "imgjit client: response frame has a bad magic"), client')
      | some header =>
          if header.magic ≠ kMagic then
            (.error (.runtimeError "imgjit client: response frame has a bad magic"), client')
          else
            let response : ClientResponse :=
              { version := header.version, status := header.status, seqNum := header.seqNum }
            if header.payloadLen > 0 then
              match client'.receiveImage header with
              | (.error error, client'') => (.error error, client'')
              | (.ok image, client'') =>
                  let (response', client''') :=
                    client''.matchResponse { response with image := some image }
                  (.ok response', client''')
            else
              let (response', client'') := client'.matchResponse response
              (.ok response', client'')
  | (_, _, client') =>
      (.error (.runtimeError "imgjit client: connection closed while awaiting a response"), client')

/-- `pending_count`. -/
def pendingCount (client : Client) : ℕ := client.pending.length

/-- One `send` after the other, up to the first that throws. -/
def sendAll (client : Client) : List SendCall → Except Exn (List UInt32) × Client
  | [] => (.ok [], client)
  | call :: calls =>
      match client.send call with
      | (.error error, client') => (.error error, client')
      | (.ok seqNum, client') =>
          match client'.sendAll calls with
          | (.error error, client'') => (.error error, client'')
          | (.ok seqNums, client'') => (.ok (seqNum :: seqNums), client'')

/-- One `receive` after the other, `count` times, up to the first that throws. -/
def receiveAll (client : Client) : ℕ → Except Exn (List ClientResponse) × Client
  | 0 => (.ok [], client)
  | count + 1 =>
      match client.receive with
      | (.error error, client') => (.error error, client')
      | (.ok response, client') =>
          match client'.receiveAll count with
          | (.error error, client'') => (.error error, client'')
          | (.ok responses, client'') => (.ok (response :: responses), client'')

/-! ## What a send writes -/

section Send

variable {client client' : Client} {call : SendCall}

lemma write_kOk {bytes : List UInt8} (h : client.write bytes = (.kOk, client')) :
    client'.written = client.written ++ bytes ∧ client'.nextSeqNum = client.nextSeqNum
      ∧ client'.pending = client.pending := by
  simp only [write, Prod.mk.injEq] at h
  obtain ⟨hresult, rfl⟩ := h
  exact ⟨by rw [writeExact_kOk hresult], rfl, rfl⟩

lemma writeParts_kOk {parts : List (List UInt8)} (h : client.writeParts parts = (.kOk, client')) :
    client'.written = client.written ++ parts.flatten ∧ client'.nextSeqNum = client.nextSeqNum
      ∧ client'.pending = client.pending := by
  induction parts generalizing client with
  | nil =>
      cases h
      simp
  | cons part parts ih =>
      rcases hwrite : client.write part with ⟨result, middle⟩
      simp only [writeParts, hwrite] at h
      cases result with
      | kOk =>
          obtain ⟨hwritten, hnext, hpending⟩ := write_kOk hwrite
          obtain ⟨hrest, hnext', hpending'⟩ := ih h
          refine ⟨?_, hnext'.trans hnext, hpending'.trans hpending⟩
          rw [hrest, hwritten, List.flatten_cons, List.append_assoc]
      | kEof => cases h
      | kError => cases h

lemma send_ok {seqNum : UInt32} (h : client.send call = (.ok seqNum, client')) :
    seqNum = client.nextSeqNum ∧ client'.nextSeqNum = client.nextSeqNum + 1
      ∧ client'.written = client.written ++ call.bytes seqNum := by
  simp only [send] at h
  rcases hparts : ({ client with nextSeqNum := client.nextSeqNum + 1 } : Client).writeParts
      [encodeRequestHeader (call.header client.nextSeqNum), call.chain, pixelsOf call.image]
    with ⟨result, middle⟩
  simp only [hparts] at h
  cases result with
  | kOk =>
      cases h
      obtain ⟨hwritten, hnext, -⟩ := writeParts_kOk hparts
      have hseqNum : (call.header client.nextSeqNum).seqNum = client.nextSeqNum := rfl
      refine ⟨rfl, hnext, ?_⟩
      simpa [SendCall.bytes, hseqNum] using hwritten
  | kEof => cases h
  | kError => cases h

/-- A send over a connection that takes each of the three buffers in one call. -/
lemma send_accepted {header chain pixels : ℕ} {sends : List Sent}
    (hsends : client.sends = .accepted header :: .accepted chain :: .accepted pixels :: sends)
    (hheader : kRequestHeaderBytes ≤ header) (hchain : call.chain.length ≤ chain)
    (hpixels : (pixelsOf call.image).length ≤ pixels) (hne : call.chain ≠ [])
    (hne' : pixelsOf call.image ≠ []) : client.send call = (.ok client.nextSeqNum,
      { client with
        sends := sends
        written := client.written ++ call.bytes client.nextSeqNum
        nextSeqNum := client.nextSeqNum + 1
        pending := emplacePending client.pending client.nextSeqNum
          (call.pendingFrame client.nextSeqNum) }) := by
  have hbytes : encodeRequestHeader (call.header client.nextSeqNum) ≠ [] := by
    intro hnil
    have hlength := length_encodeRequestHeader (call.header client.nextSeqNum)
    rw [hnil] at hlength
    cases hlength
  have hlength : (encodeRequestHeader (call.header client.nextSeqNum)).length ≤ header := by
    rw [length_encodeRequestHeader]
    exact hheader
  have hseqNum : (call.header client.nextSeqNum).seqNum = client.nextSeqNum := rfl
  simp only [send, writeParts, write, hsends, writeExact_accepted _ hbytes hlength,
    writeExact_accepted _ hne hchain, writeExact_accepted _ hne' hpixels, hseqNum, SendCall.bytes,
    List.append_assoc]

end Send

/-! ## What a call leaves alone -/

section Kept

variable {client client' : Client} {call : SendCall}

lemma writeParts_kept (client : Client) (parts : List (List UInt8)) :
    (client.writeParts parts).2.nextSeqNum = client.nextSeqNum
      ∧ (client.writeParts parts).2.pending = client.pending
      ∧ (client.writeParts parts).2.incoming = client.incoming := by
  induction parts generalizing client with
  | nil => exact ⟨rfl, rfl, rfl⟩
  | cons part parts ih =>
      rcases hwrite : client.write part with ⟨result, middle⟩
      have hkept : middle.nextSeqNum = client.nextSeqNum ∧ middle.pending = client.pending
          ∧ middle.incoming = client.incoming := by
        simp only [write, Prod.mk.injEq] at hwrite
        rcases hwrite with ⟨-, rfl⟩
        exact ⟨rfl, rfl, rfl⟩
      cases result with
      | kOk =>
          simp only [writeParts, hwrite]
          rcases ih middle with ⟨hnext, hpending, hincoming⟩
          exact ⟨hnext.trans hkept.1, hpending.trans hkept.2.1, hincoming.trans hkept.2.2⟩
      | kEof =>
          simp only [writeParts, hwrite]
          exact hkept
      | kError =>
          simp only [writeParts, hwrite]
          exact hkept

/-- A send takes the next number and files its frame under it, or throws and files nothing. -/
lemma send_cases (client : Client) (call : SendCall) :
    (client.send call).2.nextSeqNum = client.nextSeqNum + 1
      ∧ (client.send call).2.incoming = client.incoming
      ∧ (((client.send call).1 = .ok client.nextSeqNum
          ∧ (client.send call).2.pending = emplacePending client.pending client.nextSeqNum
            (call.pendingFrame client.nextSeqNum))
        ∨ ∃ error, (client.send call).1 = .error error
          ∧ (client.send call).2.pending = client.pending) := by
  have hseqNum : (call.header client.nextSeqNum).seqNum = client.nextSeqNum := rfl
  rcases hparts : ({ client with nextSeqNum := client.nextSeqNum + 1 } : Client).writeParts
      [encodeRequestHeader (call.header client.nextSeqNum), call.chain, pixelsOf call.image]
    with ⟨result, middle⟩
  have hkept := writeParts_kept { client with nextSeqNum := client.nextSeqNum + 1 }
    [encodeRequestHeader (call.header client.nextSeqNum), call.chain, pixelsOf call.image]
  rw [hparts] at hkept
  rcases hkept with ⟨hnext, hpending, hincoming⟩
  simp only at hnext hpending hincoming
  cases result with
  | kOk =>
      simp only [send, hparts, hseqNum]
      exact ⟨hnext, hincoming, .inl ⟨trivial, by rw [hpending]⟩⟩
  | kEof =>
      simp only [send, hparts]
      exact ⟨hnext, hincoming, .inr ⟨_, rfl, hpending⟩⟩
  | kError =>
      simp only [send, hparts]
      exact ⟨hnext, hincoming, .inr ⟨_, rfl, hpending⟩⟩

/-! ## What a receive matches -/

lemma receiveImage_kept (client : Client) (header : ResponseHeader) :
    (client.receiveImage header).2.nextSeqNum = client.nextSeqNum
      ∧ (client.receiveImage header).2.pending = client.pending := by
  simp only [receiveImage]
  split_ifs
  · exact ⟨rfl, rfl⟩
  · split
    · exact ⟨rfl, rfl⟩
    · split_ifs
      · exact ⟨rfl, rfl⟩
      · split <;> rename_i hread <;> simp only [read, Prod.mk.injEq] at hread <;>
          rcases hread with ⟨-, -, rfl⟩ <;> exact ⟨rfl, rfl⟩

/-- A response whose number is pending takes its frame out of the map. -/
lemma matchResponse_found {response response' : ClientResponse} {entry : UInt32 × PendingFrame}
    (h : client.matchResponse response = (response', client'))
    (hfind : client.pending.find? (·.1 == response'.seqNum) = some entry) :
    response'.matched = true ∧ response'.request = entry.2
      ∧ client'.pending = client.pending.eraseP (·.1 == response'.seqNum)
      ∧ client'.nextSeqNum = client.nextSeqNum := by
  unfold matchResponse at h
  split at h
  · rename_i hnone
    cases h
    rw [hnone] at hfind
    cases hfind
  · rename_i found hsome
    cases h
    rw [hsome] at hfind
    cases hfind
    exact ⟨rfl, rfl, rfl, rfl⟩

/-- **And so does a whole receive.** -/
theorem receive_found {received : ClientResponse} {entry : UInt32 × PendingFrame}
    (h : client.receive = (.ok received, client'))
    (hfind : client.pending.find? (·.1 == received.seqNum) = some entry) :
    received.matched = true ∧ received.request = entry.2
      ∧ client'.pending = client.pending.eraseP (·.1 == received.seqNum)
      ∧ client'.nextSeqNum = client.nextSeqNum := by
  rcases hread : client.read kResponseHeaderBytes with ⟨result, bytes, afterHeader⟩
  have hkept : afterHeader.pending = client.pending
      ∧ afterHeader.nextSeqNum = client.nextSeqNum := by
    simp only [read, Prod.mk.injEq] at hread
    rcases hread with ⟨-, -, rfl⟩
    exact ⟨rfl, rfl⟩
  unfold receive at h
  rw [hread] at h
  cases result with
  | kEof => cases h
  | kError => cases h
  | kOk =>
      simp only at h
      split at h
      · cases h
      · rename_i header _
        split_ifs at h
        · cases h
        · rcases himage : afterHeader.receiveImage header with ⟨result, afterImage⟩
          have hkept' := receiveImage_kept afterHeader header
          rw [himage] at h hkept'
          cases result with
          | error error => cases h
          | ok image =>
              simp only [Prod.mk.injEq, Except.ok.injEq] at h
              have hstep : afterImage.matchResponse _ = (received, client') := Prod.ext h.1 h.2
              have hmatch := matchResponse_found hstep (by rwa [hkept'.2, hkept.1])
              rw [hkept'.1, hkept'.2, hkept.1, hkept.2] at hmatch
              exact hmatch
        · simp only [Prod.mk.injEq, Except.ok.injEq] at h
          have hstep : afterHeader.matchResponse _ = (received, client') := Prod.ext h.1 h.2
          have hmatch := matchResponse_found hstep (by rwa [hkept.1])
          rw [hkept.1, hkept.2] at hmatch
          exact hmatch

lemma matchResponse_written (client : Client) (response : ClientResponse) :
    (client.matchResponse response).2.written = client.written := by
  simp only [matchResponse]
  split <;> rfl

lemma receiveImage_written (client : Client) (header : ResponseHeader) :
    (client.receiveImage header).2.written = client.written := by
  simp only [receiveImage]
  split_ifs
  · rfl
  · split
    · rfl
    · split_ifs
      · rfl
      · split <;> rename_i hread <;>
          exact (congrArg (fun result => result.2.2.written) hread).symm

/-- A `receive` writes nothing. -/
lemma receive_written (client : Client) : client.receive.2.written = client.written := by
  unfold receive
  split
  · rename_i bytes afterHeader hread
    have hheader : afterHeader.written = client.written :=
      (congrArg (fun result => result.2.2.written) hread).symm
    split
    · exact hheader
    · split_ifs
      · exact hheader
      · dsimp only
        split
        · rename_i himage
          have hpayload := congrArg (fun result => result.2.written) himage
          rw [receiveImage_written] at hpayload
          exact hpayload.symm.trans hheader
        · rename_i himage
          have hpayload := congrArg (fun result => result.2.written) himage
          rw [receiveImage_written] at hpayload
          exact (matchResponse_written _ _).trans (hpayload.symm.trans hheader)
      · exact (matchResponse_written _ _).trans hheader
  · rename_i afterHeader _ hread
    exact (congrArg (fun result => result.2.2.written) hread).symm

end Kept

end Client

/-! ## One frame per call -/

/-- The header can say how long the chain and the payload are. -/
structure SendCall.Fits (call : SendCall) : Prop where
  chain : call.chain.length < 2 ^ 16
  payload : (pixelsOf call.image).length < 2 ^ 32

/-- The frame says what the call was given. -/
structure SendCall.Carries (call : SendCall) (frame : RequestFrame) : Prop where
  magic : frame.header.magic = kMagic
  version : frame.header.version = kVersion
  flags : frame.header.flags = call.flags
  width : frame.header.width.toNat = widthOf call.image
  height : frame.header.height.toNat = heightOf call.image
  channels : frame.header.channels.toNat = channelsOf call.image
  chain : frame.chain = call.chain
  payload : frame.payload = pixelsOf call.image

/-- The stream is one frame per call, in order, and nothing else. -/
structure SplitsInto (calls : List SendCall) (stream : List UInt8) : Prop where
  whole : requestFormat.encodeAll (requestFrames stream) = stream
  frames : List.Forall₂ SendCall.Carries calls (requestFrames stream)

section Frames

variable {call : SendCall} {calls : List SendCall} {client client' : Client}

lemma widthOf_lt (image : Option Image) : widthOf image < 2 ^ 31 := by
  cases image with
  | none => simp [widthOf]
  | some image => exact image.width_lt

lemma heightOf_lt (image : Option Image) : heightOf image < 2 ^ 31 := by
  cases image with
  | none => simp [heightOf]
  | some image => exact image.height_lt

lemma channelsOf_lt (image : Option Image) : channelsOf image < 2 ^ 8 := by
  cases image with
  | none => simp [channelsOf]
  | some image =>
      have hsupported := image.supported
      simp only [channelsOf, Option.map_some, Option.getD_some]
      omega

lemma SendCall.Fits.chainLen (h : call.Fits) (seqNum : UInt32) :
    call.chain.length = (call.header seqNum).chainLen.toNat := by
  simp only [SendCall.header, UInt16.toNat_ofNat']
  exact (Nat.mod_eq_of_lt h.chain).symm

lemma SendCall.Fits.payloadLen (h : call.Fits) (seqNum : UInt32) :
    (pixelsOf call.image).length = (call.header seqNum).payloadLen.toNat := by
  simp only [SendCall.header, UInt32.toNat_ofNat']
  exact (Nat.mod_eq_of_lt h.payload).symm

/-- The frame of a call that fits. -/
def SendCall.frame (call : SendCall) (seqNum : UInt32) (h : call.Fits) : RequestFrame :=
  .ofHeader (call.header seqNum) call.chain (pixelsOf call.image) (h.chainLen seqNum)
    (h.payloadLen seqNum)

lemma bytes_frame (seqNum : UInt32) (h : call.Fits) :
    requestFormat.encode (call.frame seqNum h) = call.bytes seqNum := by
  simp only [requestFormat, RequestFrame.bytes, SendCall.frame, RequestFrame.ofHeader,
    SendCall.bytes]

/-- **A call that fits is carried by its frame.** -/
lemma carries_frame (seqNum : UInt32) (h : call.Fits) : call.Carries (call.frame seqNum h) := by
  refine ⟨rfl, rfl, rfl, ?_, ?_, ?_, rfl, rfl⟩
  · have hlt := widthOf_lt call.image
    simp only [SendCall.frame, RequestFrame.ofHeader, SendCall.header, UInt32.toNat_ofNat']
    omega
  · have hlt := heightOf_lt call.image
    simp only [SendCall.frame, RequestFrame.ofHeader, SendCall.header, UInt32.toNat_ofNat']
    omega
  · have hlt := channelsOf_lt call.image
    simp only [SendCall.frame, RequestFrame.ofHeader, SendCall.header, UInt8.toNat_ofNat']
    omega

/-- A frame announces its lengths, so what it carries fits. -/
lemma fits_of_carries {frame : RequestFrame} (h : call.Carries frame) : call.Fits := by
  refine ⟨?_, ?_⟩
  · rw [← h.chain, frame.chain_length]
    exact UInt16.toNat_lt _
  · rw [← h.payload, frame.payload_length]
    exact UInt32.toNat_lt _

lemma fits_of_frames {frames : List RequestFrame} (h : List.Forall₂ SendCall.Carries calls frames) :
    ∀ call ∈ calls, call.Fits := by
  induction h with
  | nil => simp
  | cons hcarries _ ih =>
      intro call hcall
      rcases List.mem_cons.mp hcall with rfl | hcall
      · exact fits_of_carries hcarries
      · exact ih call hcall

/-- Calls that fit write their frames, one behind the other. -/
lemma sendAll_frames {seqNums : List UInt32} (h : client.sendAll calls = (.ok seqNums, client'))
    (hfits : ∀ call ∈ calls, call.Fits) : ∃ frames, List.Forall₂ SendCall.Carries calls frames
      ∧ client'.written = client.written ++ requestFormat.encodeAll frames := by
  induction calls generalizing client seqNums with
  | nil =>
      cases h
      exact ⟨[], .nil, by simp⟩
  | cons call calls ih =>
      have hcall : call.Fits := hfits call List.mem_cons_self
      have hcalls : ∀ call ∈ calls, call.Fits := fun call h => hfits call (List.mem_cons_of_mem _ h)
      rcases hsend : client.send call with ⟨result, middle⟩
      simp only [Client.sendAll, hsend] at h
      cases result with
      | error error => cases h
      | ok seqNum =>
          rcases hrest : middle.sendAll calls with ⟨results, last⟩
          simp only [hrest] at h
          cases results with
          | error error => cases h
          | ok numbers =>
              cases h
              obtain ⟨frames, hframes, hwritten⟩ := ih hrest hcalls
              obtain ⟨-, -, hfirst⟩ := Client.send_ok hsend
              refine ⟨call.frame seqNum hcall :: frames, .cons (carries_frame seqNum hcall) hframes,
                ?_⟩
              rw [hwritten, hfirst, SelfDelimiting.Format.encodeAll_cons, bytes_frame,
                List.append_assoc]

/-- **The stream of a client splits into one frame per call exactly when every call fits its
header.**  The lengths are narrowed into 16 and 32 bits, the data is written in full. -/
theorem send_frames_iff {seqNums : List UInt32} (hfresh : client.written = [])
    (h : client.sendAll calls = (.ok seqNums, client')) :
    SplitsInto calls client'.written ↔ ∀ call ∈ calls, call.Fits := by
  constructor
  · intro hsplits
    exact fits_of_frames hsplits.frames
  · intro hfits
    obtain ⟨frames, hframes, hwritten⟩ := sendAll_frames h hfits
    rw [hfresh, List.nil_append] at hwritten
    have hsplit : requestFrames client'.written = frames := by
      have hall := requestFormat.split_append frames []
      have hnone : requestFormat.split [] = [] := by
        rw [SelfDelimiting.Format.split]
        rfl
      rw [hnone, List.append_nil, List.append_nil] at hall
      rw [requestFrames, hwritten, hall]
    exact ⟨by rw [hsplit, hwritten], hsplit ▸ hframes⟩

end Frames

/-! ## A chain text that does not fit -/

namespace LongChain

/-- One gray pixel. -/
def pixel : Image where
  width := 1
  height := 1
  channels := 1
  pixels := [7]
  width_pos := Nat.one_pos
  width_lt := one_lt_extent
  height_pos := Nat.one_pos
  height_lt := one_lt_extent
  supported := gray_supported
  packed := Eq.refl 1

/-- A chain text of 65536 spaces, which the parser would accept as the empty chain. -/
def call : SendCall := { image := some pixel, chain := List.replicate 65536 32 }

/-- A connection that takes whatever it is given. -/
def client : Client :=
  { incoming := [], sends := [.accepted 25, .accepted 65536, .accepted 1] }

lemma chain_length : call.chain.length = 65536 := List.length_replicate

lemma chain_ne_nil : call.chain ≠ [] := by
  intro hnil
  have hlength := chain_length
  rw [hnil] at hlength
  cases hlength

/-- The client after the send. -/
def sent : Client :=
  { incoming := [], sends := [], written := call.bytes 1, nextSeqNum := 2
    pending := [(1, call.pendingFrame 1)] }

/-- All three writes succeed. -/
lemma send_call : client.sendAll [call] = (.ok [1], sent) := by
  have hsend : client.send call = (.ok 1, sent) :=
    Client.send_accepted rfl le_rfl (le_of_eq chain_length) le_rfl chain_ne_nil (by decide)
  rw [Client.sendAll, hsend]
  rfl

/-- **The bytes of one call do not split into one frame.**  The header announces an empty chain and
one byte of payload, and 65536 bytes of text follow. -/
theorem long_chain_splits_not : client.sendAll [call] = (.ok [1], sent)
    ∧ (call.header 1).chainLen = 0 ∧ ¬SplitsInto [call] sent.written := by
  refine ⟨send_call, ?_, fun hsplits => ?_⟩
  · simp only [SendCall.header, chain_length]
    decide
  · have hfits := (fits_of_frames hsplits.frames call (List.mem_singleton.mpr rfl)).chain
    rw [chain_length] at hfits
    exact absurd hfits (by decide)

/-- The same pixel with the chain `invert`. -/
def shortCall : SendCall := { image := some pixel, chain := [105, 110, 118, 101, 114, 116] }

/-- Two columns, one row, colour. -/
lemma pair_shaped : Image.Shaped 2 1 3 := by decide

/-- Two coloured pixels. -/
def pair : Image := Image.ofShaped pair_shaped [1, 2, 3, 4, 5, 6] rfl

/-- The two pixels with the chain `sobel`, to be sent back and written to a file. -/
def widerCall : SendCall :=
  { image := some pair, chain := [115, 111, 98, 101, 108], flags := kFlagEcho ||| kFlagServerWrite }

/-- A connection that takes the three buffers of both calls. -/
def patient : Client :=
  { incoming := []
    sends := [.accepted 25, .accepted 6, .accepted 1, .accepted 25, .accepted 5, .accepted 6] }

/-- The client between the two calls. -/
def shortSent : Client :=
  { incoming := [], sends := [.accepted 25, .accepted 5, .accepted 6]
    written := shortCall.bytes 1, nextSeqNum := 2
    pending := [(1, shortCall.pendingFrame 1)] }

/-- The client behind the second call. -/
def bothSent : Client :=
  { incoming := [], sends := [], written := shortCall.bytes 1 ++ widerCall.bytes 2, nextSeqNum := 3
    pending := emplacePending shortSent.pending 2 (widerCall.pendingFrame 2) }

/-- Two calls of different lengths split at their boundary, in the order of the calls. -/
theorem send_frames_iff_short : SplitsInto [shortCall, widerCall] bothSent.written := by
  have hfirst : patient.send shortCall = (.ok 1, shortSent) :=
    Client.send_accepted rfl le_rfl (by decide) le_rfl (by decide) (by decide)
  have hsecond : shortSent.send widerCall = (.ok 2, bothSent) :=
    Client.send_accepted rfl le_rfl (by decide) (by decide) (by decide) (by decide)
  have hall : patient.sendAll [shortCall, widerCall] = (.ok [1, 2], bothSent) := by
    simp only [Client.sendAll, hfirst, hsecond]
  refine (send_frames_iff rfl hall).mpr fun call hcall => ?_
  rcases List.mem_cons.mp hcall with rfl | hcall
  · exact ⟨by decide, by decide⟩
  · rw [List.mem_singleton.mp hcall]
    exact ⟨by decide, by decide⟩

end LongChain

end Imgjit
