import Imgjit.Net.Client
import Imgjit.Net.Connection

/-!
# The writer thread

`writer_loop` turns the responses of an outbox into bytes, and `Client::receive` turns the bytes
back into responses.  The two are separate code and agree on when a payload follows a header; there
is no flag for it in the header, so each has its own reading of the status and of the dimensions.

**The loop.**  `Writer` and `writerLoop` are the loop, over the outcomes of its calls of `send` and
of the file writes.  A response may ask for a file to be written; if that fails, it becomes an error
response, without a picture.

**One round.**  `Response.bytes` is the frame of one response, and `writerLoop_eq` the loop as
rounds.

**Reading a response back.**  `receive_response`: one `receive` reads one frame back, whatever the
pieces it arrives in.

**A whole run.**  `writer_contract`: the frames round trip, and after a failed write the loop drains
the outbox in silence, so that nobody who pushes to it is ever kept waiting.
-/

namespace Imgjit

/-! ## The loop -/

/-- What a writer thread reads of its surroundings. -/
structure WriterConfig where
  outputDir : String
  connection : ℕ
  /-- Whether an image can be written to a path. -/
  disk : String → Image → Bool

/-- `save_png`. -/
def savePng (disk : String → Image → Bool) (path : String) : Option Image → Except Exn Unit
  | none => .error (.runtimeError ("save_png: refusing to write an empty image to " ++ path))
  | some image =>
      if disk path image then .ok ()
      else .error (.runtimeError ("save_png: cannot write " ++ path))

/-- The server assigns the file's name: the protocol carries none. -/
def WriterConfig.path (config : WriterConfig) (response : Response) : String :=
  config.outputDir ++ "/frame_" ++ toString config.connection ++ "_"
    ++ toString response.seqNum.toNat ++ ".png"

/-- The response once its file has been written, if it asked for one. -/
def Response.filed (config : WriterConfig) (response : Response) : Response :=
  if response.writeFile ∧ response.status = .kOk then
    match savePng config.disk (config.path response) response.image with
    | .ok _ => response
    | .error _ => { response with status := .kInternalError }
  else response

/-- The header the loop fills in.  Dimensions go with `kOk` only, and a length only with an echo. -/
def Response.header (response : Response) : ResponseHeader :=
  if response.status = .kOk then
    { status := response.status
      seqNum := response.seqNum
      width := UInt32.ofNat (widthOf response.image)
      height := UInt32.ofNat (heightOf response.image)
      channels := UInt8.ofNat (channelsOf response.image)
      payloadLen :=
        if response.echo then UInt32.ofNat (pixelsOf response.image).length else 0 }
  else { status := response.status, seqNum := response.seqNum }

/-- The locals of the loop: the socket's state, and what has gone out over it. -/
structure Writer where
  socketAlive : Bool := true
  /-- What the next calls of `send` will return. -/
  sends : List Sent
  written : List UInt8 := []

namespace Writer

/-- One `write_exact`. -/
def write (writer : Writer) (bytes : List UInt8) : IoResult × Writer :=
  let (result, written, sends) := writeExact writer.sends bytes
  (result, { writer with sends := sends, written := writer.written ++ written })

/-- The header, and the payload behind it if the header announces one. -/
def send (writer : Writer) (response : Response) : IoResult × Writer :=
  match writer.write (encodeResponseHeader response.header) with
  | (.kOk, writer') =>
      if response.header.payloadLen > 0 then
        writer'.write ((pixelsOf response.image).take response.header.payloadLen.toNat)
      else (.kOk, writer')
  | failed => failed

/-- One round of the loop. -/
def respond (config : WriterConfig) (writer : Writer) (popped : Response) : Writer :=
  let response := popped.filed config
  -- A dead socket: keep draining, the reader may still be queueing responses.
  if !writer.socketAlive then writer
  else
    match writer.send response with
    | (.kOk, writer') => writer'
    | (_, writer') => { writer' with socketAlive := false }

end Writer

/-- `writer_loop`, until `pop` waits or returns false. -/
def writerLoop (config : WriterConfig) (writer : Writer) (outbox : Outbox) : Writer × Outbox :=
  match _h : outbox.pop with
  | some (some response, outbox') => writerLoop config (writer.respond config response) outbox'
  | _ => (writer, outbox)
  termination_by outbox.items.length
  decreasing_by
    rw [(Outbox.pop_some _h).1, List.length_cons]
    exact Nat.lt_succ_self _

/-- The frame of a response. -/
def Response.bytes (response : Response) : List UInt8 :=
  encodeResponseHeader response.header
    ++ (pixelsOf response.image).take response.header.payloadLen.toNat

/-! ## One round -/

section Round

variable {config : WriterConfig} {writer writer' : Writer} {response : Response}

lemma write_written {bytes : List UInt8} (h : writer.write bytes = (.kOk, writer')) :
    writer'.written = writer.written ++ bytes ∧ writer'.socketAlive = writer.socketAlive := by
  simp only [Writer.write, Prod.mk.injEq] at h
  obtain ⟨hresult, rfl⟩ := h
  exact ⟨by rw [writeExact_kOk hresult], rfl⟩

/-- A response that is sent is sent as its frame. -/
lemma send_written (h : writer.send response = (.kOk, writer')) :
    writer'.written = writer.written ++ response.bytes
      ∧ writer'.socketAlive = writer.socketAlive := by
  rcases hheader : writer.write (encodeResponseHeader response.header) with ⟨result, middle⟩
  simp only [Writer.send, hheader] at h
  cases result with
  | kOk =>
      obtain ⟨hfirst, halive⟩ := write_written hheader
      dsimp only at h
      split_ifs at h with hpayload
      · obtain ⟨hrest, halive'⟩ := write_written h
        refine ⟨?_, halive'.trans halive⟩
        rw [hrest, hfirst, Response.bytes, List.append_assoc]
      · cases h
        have hzero : response.header.payloadLen = 0 := by
          rw [gt_iff_lt, UInt32.lt_iff_toNat_lt] at hpayload
          exact UInt32.toNat_inj.mp (by simpa using hpayload)
        refine ⟨?_, halive⟩
        rw [hfirst, Response.bytes, hzero]
        simp
  | kEof => cases h
  | kError => cases h

/-- A socket that is alive after a round was alive before it, and the frame is out. -/
lemma respond_alive (h : (writer.respond config response).socketAlive = true) :
    writer.socketAlive = true ∧ (writer.respond config response).written
      = writer.written ++ (response.filed config).bytes := by
  cases halive : writer.socketAlive with
  | false =>
      simp only [Writer.respond, halive, Bool.not_false, if_true] at h
      cases h
  | true =>
      rcases hsend : writer.send (response.filed config) with ⟨result, middle⟩
      simp only [Writer.respond, halive, Bool.not_true, Bool.false_eq_true, if_false, hsend] at h ⊢
      cases result with
      | kOk => exact ⟨trivial, (send_written hsend).1⟩
      | kEof => cases h
      | kError => cases h

/-- A dead socket is left alone. -/
lemma respond_dead (h : writer.socketAlive = false) : writer.respond config response = writer := by
  simp only [Writer.respond, h, Bool.not_false, if_true]

lemma foldl_dead (h : writer.socketAlive = false) (responses : List Response) :
    responses.foldl (Writer.respond config) writer = writer := by
  induction responses with
  | nil => rfl
  | cons response responses ih => rw [List.foldl_cons, respond_dead h, ih]

/-- A run whose writes all succeed writes the frames, one behind the other. -/
lemma foldl_alive {responses : List Response}
    (h : (responses.foldl (Writer.respond config) writer).socketAlive = true) :
    writer.socketAlive = true ∧ (responses.foldl (Writer.respond config) writer).written
      = writer.written ++ (responses.map fun response => (response.filed config).bytes).flatten := by
  induction responses generalizing writer with
  | nil => exact ⟨h, by simp⟩
  | cons response responses ih =>
      rw [List.foldl_cons] at h ⊢
      obtain ⟨hmiddle, hrest⟩ := ih h
      obtain ⟨halive, hfirst⟩ := respond_alive hmiddle
      refine ⟨halive, ?_⟩
      rw [hrest, hfirst, List.map_cons, List.flatten_cons, List.append_assoc]

/-- **The loop takes the responses in order, and leaves none behind.** -/
theorem writerLoop_eq (config : WriterConfig) (writer : Writer) (outbox : Outbox) :
    writerLoop config writer outbox
      = (outbox.items.foldl (Writer.respond config) writer, { outbox with items := [] }) := by
  rcases outbox with ⟨items, closed⟩
  induction items generalizing writer with
  | nil =>
      rw [writerLoop]
      cases closed <;> rfl
  | cons response items ih =>
      rw [writerLoop]
      exact ih (writer.respond config response)

end Round

/-! ## Reading a response back -/

/-- What the client makes of a response. -/
structure Response.Answered (response : Response) (received : ClientResponse) : Prop where
  version : received.version = kVersion
  seqNum : received.seqNum = response.seqNum
  status : received.status = response.status
  image : received.image = if response.status = .kOk ∧ response.echo = true then response.image
    else none

/-- A successful response carries at most `kMaxPayloadBytes` bytes. -/
def Response.Sendable (response : Response) : Prop :=
  response.status = .kOk → (pixelsOf response.image).length ≤ kMaxPayloadBytes.toNat

section Receive

variable {client : Client} {response : Response} {rest : List UInt8}

/-- The network may cut the bytes as it likes, but it brings them. -/
structure Client.Brings (client : Client) (bytes : List UInt8) : Prop where
  clean : client.incoming.Clean
  bytes : client.incoming.bytes = bytes

lemma Client.Brings.of_incoming {client' : Client} (h : client.Brings rest)
    (hincoming : client'.incoming = client.incoming) : client'.Brings rest :=
  ⟨hincoming ▸ h.clean, hincoming ▸ h.bytes⟩

lemma Client.Brings.read {wanted : List UInt8} (h : client.Brings (wanted ++ rest)) :
    ∃ client', client.read wanted.length = (.kOk, wanted, client') ∧ client'.Brings rest := by
  obtain ⟨incoming, hclean, hbytes, hread⟩ := readExact_delivers h.clean h.bytes []
  refine ⟨{ client with incoming := incoming }, ?_, hclean, hbytes⟩
  simp only [Client.read, hread, List.nil_append]

lemma matchResponse_spec (client : Client) (response : ClientResponse) :
    ∃ response' client', client.matchResponse response = (response', client')
      ∧ response'.version = response.version ∧ response'.seqNum = response.seqNum
      ∧ response'.status = response.status ∧ response'.image = response.image
      ∧ client'.incoming = client.incoming := by
  cases hfind : client.pending.find? (·.1 == response.seqNum) with
  | none =>
      refine ⟨response, client, ?_, rfl, rfl, rfl, rfl, rfl⟩
      simp only [Client.matchResponse, hfind]
  | some entry =>
      refine ⟨{ response with matched := true, request := entry.2 }, { client with
        pending := client.pending.eraseP (·.1 == response.seqNum) }, ?_, rfl, rfl, rfl, rfl, rfl⟩
      simp only [Client.matchResponse, hfind]

/-- The image's own dimensions make an image of its shape. -/
lemma construct_of_hasShape {image : Image} {width height channels : Int32}
    (h : image.HasShape width height channels) :
    ∃ blank, Image.construct width height channels = .ok blank ∧ blank.width = image.width
      ∧ blank.height = image.height ∧ blank.channels = image.channels := by
  refine ⟨_, by rw [Image.construct, dif_pos h.shaped], ?_, ?_, ?_⟩
  · simp only [Image.ofShaped, h.width, Int.toNat_natCast]
  · simp only [Image.ofShaped, h.height, Int.toNat_natCast]
  · simp only [Image.ofShaped, h.channels, Int.toNat_natCast]

/-- An image of the right shape becomes the image whose pixels it receives. -/
lemma overwrite_pixels {blank image : Image} (hwidth : blank.width = image.width)
    (hheight : blank.height = image.height) (hchannels : blank.channels = image.channels) :
    blank.overwrite image.pixels = image := by
  have hcount : blank.byteCount = image.pixels.length := by
    rw [Image.byteCount, blank.packed, image.packed, hwidth, hheight, hchannels]
  obtain ⟨w, h, c, pixels, _, _, _, _, _, _⟩ := image
  simp only at hwidth hheight hchannels hcount
  subst hwidth hheight hchannels
  simp only [Image.overwrite, hcount, List.take_left]

/-- The pixels of an image that fits are all there are, and the header says how many. -/
lemma Response.Sendable.payloadLen (h : response.Sendable) : response.header.payloadLen.toNat
    = if response.status = .kOk ∧ response.echo = true then (pixelsOf response.image).length
      else 0 := by
  by_cases hok : response.status = .kOk
  · have hlength := h hok
    have hcap : kMaxPayloadBytes.toNat < 2 ^ 32 := UInt32.toNat_lt _
    cases hecho : response.echo with
    | false => simp [Response.header, hok, hecho]
    | true =>
        simp only [Response.header, hok, hecho, if_true, and_self, UInt32.toNat_ofNat']
        omega
  · simp [Response.header, hok]

/-- The payload of an echoed image comes back as the image. -/
lemma receiveImage_image {image : Image} (hok : response.status = .kOk)
    (hecho : response.echo = true) (himage : response.image = some image)
    (hsendable : response.Sendable) (hbrings : client.Brings (image.pixels ++ rest)) :
    ∃ client', client.receiveImage response.header = (.ok image, client')
      ∧ client'.Brings rest := by
  have hlength : image.pixels.length ≤ kMaxPayloadBytes.toNat := by
    have hfits := hsendable hok
    rwa [himage] at hfits
  have hcap : kMaxPayloadBytes.toNat < 2 ^ 32 := UInt32.toNat_lt _
  have hpacked := image.packed
  have hwidthLt := image.width_lt
  have hheightLt := image.height_lt
  have hsupported := image.supported
  have hpayload : response.header.payloadLen.toNat = image.pixels.length := by
    rw [hsendable.payloadLen, if_pos ⟨hok, hecho⟩, himage]
    rfl
  -- The header's fields are the image's, and none of them is narrowed.
  have hwidth : response.header.width.toNat = image.width := by
    simp only [Response.header, hok, if_true, himage, widthOf, Option.map_some, Option.getD_some,
      UInt32.toNat_ofNat']
    omega
  have hheight : response.header.height.toNat = image.height := by
    simp only [Response.header, hok, if_true, himage, heightOf, Option.map_some, Option.getD_some,
      UInt32.toNat_ofNat']
    omega
  have hchannels : response.header.channels.toNat = image.channels := by
    simp only [Response.header, hok, if_true, himage, channelsOf, Option.map_some,
      Option.getD_some, UInt8.toNat_ofNat']
    omega
  have hexpected : response.header.width.toUInt64 * response.header.height.toUInt64
      * response.header.channels.toUInt64 = response.header.payloadLen.toUInt64 := by
    have hproduct : image.width * image.height * image.channels = image.pixels.length := by
      rw [hpacked]
      ring
    have harea : image.width * image.height ≤ image.pixels.length := by
      rw [← hproduct]
      exact Nat.le_mul_of_pos_right _ image.channels_pos
    apply UInt64.toNat_inj.mp
    simp only [UInt64.toNat_mul, UInt32.toNat_toUInt64, UInt8.toNat_toUInt64, hwidth, hheight,
      hchannels, hpayload]
    rw [Nat.mod_eq_of_lt (show image.width * image.height < 2 ^ 64 by omega), hproduct,
      Nat.mod_eq_of_lt (by omega)]
  have hshape : image.HasShape response.header.width.toInt32 response.header.height.toInt32
      response.header.channels.toUInt32.toInt32 := by
    refine ⟨?_, ?_, ?_⟩
    · rw [toInt_toInt32_of_lt (by omega), hwidth]
    · rw [toInt_toInt32_of_lt (by omega), hheight]
    · rw [toInt_toInt32_uInt8, hchannels]
  obtain ⟨blank, hblank, hblankWidth, hblankHeight, hblankChannels⟩ := construct_of_hasShape hshape
  have hcount : blank.byteCount = image.pixels.length := by
    rw [Image.byteCount, blank.packed, image.packed, hblankWidth, hblankHeight, hblankChannels]
  have hnotLarge : ¬response.header.payloadLen > kMaxPayloadBytes := by
    rw [gt_iff_lt, UInt32.lt_iff_toNat_lt, hpayload]
    omega
  obtain ⟨client', hread, hbrings'⟩ := hbrings.read
  refine ⟨client', ?_, hbrings'⟩
  simp only [Client.receiveImage, hexpected, ne_eq, not_true_eq_false, hnotLarge, or_self, if_false,
    hblank, hpayload, hcount, gt_iff_lt, lt_irrefl, hread,
    overwrite_pixels hblankWidth hblankHeight hblankChannels]

/-- What the header says of every response, whatever its status. -/
lemma Response.header_fields (response : Response) : response.header.magic = kMagic
    ∧ response.header.version = kVersion ∧ response.header.status = response.status
    ∧ response.header.seqNum = response.seqNum := by
  simp only [Response.header]
  split_ifs <;> exact ⟨rfl, rfl, rfl, rfl⟩

/-- **One `receive` reads one frame back.** -/
theorem receive_response (hsendable : response.Sendable)
    (hbrings : client.Brings (response.bytes ++ rest)) : ∃ received client',
      client.receive = (.ok received, client') ∧ response.Answered received
        ∧ client'.Brings rest := by
  obtain ⟨hmagic, hversion, hstatus, hseqNum⟩ := response.header_fields
  rw [Response.bytes, List.append_assoc] at hbrings
  obtain ⟨afterHeader, hread, hbrings'⟩ := hbrings.read
  rw [length_encodeResponseHeader] at hread
  have hlength := hsendable.payloadLen
  by_cases hpayload : response.header.payloadLen > 0
  · -- A payload follows: the response is a `kOk` with an echo, and it has an image.
    have hpositive : 0 < response.header.payloadLen.toNat := UInt32.lt_iff_toNat_lt.mp hpayload
    have hcarries : response.status = .kOk ∧ response.echo = true := by
      by_contra hnot
      rw [hlength, if_neg hnot] at hpositive
      omega
    obtain ⟨image, himage⟩ : ∃ image, response.image = some image := by
      cases himage : response.image with
      | none =>
          rw [hlength, if_pos hcarries, himage] at hpositive
          exact absurd hpositive (by decide)
      | some image => exact ⟨image, rfl⟩
    have hpixels : (pixelsOf response.image).take response.header.payloadLen.toNat
        = image.pixels := by
      rw [hlength, if_pos hcarries, List.take_length, himage]
      rfl
    rw [hpixels] at hbrings'
    obtain ⟨afterPayload, himageRead, hbrings''⟩ :=
      receiveImage_image hcarries.1 hcarries.2 himage hsendable hbrings'
    obtain ⟨received, client', hmatch, hversion', hseqNum', hstatus', himage', hincoming⟩ :=
      matchResponse_spec afterPayload
        { version := response.header.version, status := response.header.status
          seqNum := response.header.seqNum, image := some image }
    refine ⟨received, client', ?_, ⟨hversion'.trans hversion, hseqNum'.trans hseqNum,
      hstatus'.trans hstatus, ?_⟩, ?_⟩
    · simp only [Client.receive, hread, decode_encodeResponseHeader, hmagic, ne_eq,
        not_true_eq_false, if_false, hpayload, if_true, himageRead, hmatch]
    · rw [himage', if_pos hcarries, himage]
    · exact hbrings''.of_incoming hincoming
  · have hzero : response.header.payloadLen.toNat = 0 := by
      rw [gt_iff_lt, UInt32.lt_iff_toNat_lt] at hpayload
      simpa using hpayload
    rw [hzero, List.take_zero, List.nil_append] at hbrings'
    obtain ⟨received, client', hmatch, hversion', hseqNum', hstatus', himage', hincoming⟩ :=
      matchResponse_spec afterHeader
        { version := response.header.version, status := response.header.status
          seqNum := response.header.seqNum }
    refine ⟨received, client', ?_, ⟨hversion'.trans hversion, hseqNum'.trans hseqNum,
      hstatus'.trans hstatus, ?_⟩, ?_⟩
    · simp only [Client.receive, hread, decode_encodeResponseHeader, hmagic, ne_eq,
        not_true_eq_false, if_false, hpayload, hmatch]
    · rw [himage']
      split_ifs with hcarries
      · -- An echoed image without pixels is `Image{}`.
        rw [hlength, if_pos hcarries] at hzero
        cases himage : response.image with
        | none => rfl
        | some image =>
            rw [himage] at hzero
            have hpacked := image.packed
            have hpositive := Nat.mul_pos image.stride_pos image.height_pos
            rw [Image.stride] at hpositive
            simp only [pixelsOf, Option.map_some, Option.getD_some] at hzero
            omega
      · rfl
    · exact hbrings'.of_incoming hincoming

/-- Frame by frame. -/
theorem receiveAll_responses {responses : List Response}
    (hsendable : ∀ response ∈ responses, response.Sendable)
    (hbrings : client.Brings ((responses.map Response.bytes).flatten ++ rest)) :
    ∃ received client', client.receiveAll responses.length = (.ok received, client')
      ∧ List.Forall₂ Response.Answered responses received ∧ client'.Brings rest := by
  induction responses generalizing client with
  | nil => exact ⟨[], client, rfl, .nil, by simpa using hbrings⟩
  | cons response responses ih =>
      rw [List.map_cons, List.flatten_cons, List.append_assoc] at hbrings
      obtain ⟨first, middle, hreceive, hanswered, hbrings'⟩ :=
        receive_response (hsendable response List.mem_cons_self) hbrings
      obtain ⟨others, last, hreceiveAll, hothers, hrest⟩ :=
        ih (fun response h => hsendable response (List.mem_cons_of_mem _ h)) hbrings'
      refine ⟨first :: others, last, ?_, .cons hanswered hothers, hrest⟩
      simp only [List.length_cons, Client.receiveAll, hreceive, hreceiveAll]

end Receive

/-! ## A whole run -/

/-- What a connection can rely on, whatever the outbox holds and however long the run is. -/
structure WriterContract (config : WriterConfig) : Prop where
  /-- If every file and every byte gets out, the client reads back what was popped. -/
  roundTrip : ∀ (sends : List Sent) (responses : List Response) (closed : Bool) (client : Client),
    (∀ response ∈ responses, response.Sendable) →
    (∀ response ∈ responses, response.writeFile = true → response.status = .kOk →
      savePng config.disk (config.path response) response.image = .ok ()) →
    (writerLoop config { sends := sends } ⟨responses, closed⟩).1.socketAlive = true →
    client.Brings (writerLoop config { sends := sends } ⟨responses, closed⟩).1.written →
    (writerLoop config { sends := sends } ⟨responses, closed⟩).1.written
        = (responses.map Response.bytes).flatten
      ∧ ∃ received client', client.receiveAll responses.length = (.ok received, client')
        ∧ List.Forall₂ Response.Answered responses received ∧ client'.Brings []
  /-- An error response is a header without dimensions and nothing behind it. -/
  errors : ∀ response : Response, response.status ≠ .kOk → response.bytes
    = encodeResponseHeader { status := response.status, seqNum := response.seqNum }
  /-- Once a write has failed nothing more is written, and the outbox is drained all the same. -/
  silence : ∀ (writer : Writer) (response : Response) (later : List Response) (closed : Bool),
    writer.socketAlive = true → (writer.send (response.filed config)).1 ≠ .kOk →
    (writerLoop config writer ⟨response :: later, closed⟩).1.written
        = (writer.send (response.filed config)).2.written
      ∧ (writerLoop config writer ⟨response :: later, closed⟩).2 = ⟨[], closed⟩

section Contract

variable {config : WriterConfig} {response : Response}

/-- A response whose file could be written goes out as it was popped. -/
lemma filed_of_saved (h : response.writeFile = true → response.status = .kOk →
    savePng config.disk (config.path response) response.image = .ok ()) :
    response.filed config = response := by
  simp only [Response.filed]
  split_ifs with hfile
  · rw [h hfile.1 hfile.2]
  · rfl

lemma respond_failed {writer : Writer} (halive : writer.socketAlive = true)
    (hfailed : (writer.send (response.filed config)).1 ≠ .kOk) :
    (writer.respond config response).socketAlive = false
      ∧ (writer.respond config response).written
        = (writer.send (response.filed config)).2.written := by
  rcases hsend : writer.send (response.filed config) with ⟨result, middle⟩
  rw [hsend] at hfailed
  simp only [Writer.respond, halive, Bool.not_true, Bool.false_eq_true, if_false, hsend]
  cases result with
  | kOk => exact absurd rfl hfailed
  | kEof => exact ⟨trivial, trivial⟩
  | kError => exact ⟨trivial, trivial⟩

/-- **Writer and client agree on every stream of responses**, and a write that fails silences the
writer without stopping it. -/
theorem writer_contract (config : WriterConfig) : WriterContract config := by
  refine ⟨fun sends responses closed client hsendable hsaved halive hbrings => ?_,
    fun response herror => ?_, fun writer response later closed halive hfailed => ?_⟩
  · rw [writerLoop_eq] at halive hbrings ⊢
    have hfiled : (responses.map fun response => (response.filed config).bytes)
        = responses.map Response.bytes := by
      refine List.map_congr_left fun response hresponse => ?_
      rw [filed_of_saved (hsaved response hresponse)]
    have hwritten := (foldl_alive halive).2
    rw [hfiled, List.nil_append] at hwritten
    refine ⟨hwritten, ?_⟩
    rw [hwritten, ← List.append_nil (List.map Response.bytes responses).flatten] at hbrings
    exact receiveAll_responses hsendable hbrings
  · have hheader : response.header
        = { status := response.status, seqNum := response.seqNum } := by
      rw [Response.header, if_neg herror]
    simp [Response.bytes, hheader]
  · obtain ⟨hdead, hwritten⟩ := respond_failed halive hfailed
    rw [writerLoop_eq, List.foldl_cons, foldl_dead hdead]
    exact ⟨hwritten, rfl⟩

end Contract

/-! ## Two responses, read back -/

namespace TwoResponses

/-- A writer whose files can all be written. -/
def config : WriterConfig := { outputDir := ".", connection := 1, disk := fun _ _ => true }

/-- An echoed pixel that is also written to a file, and an error. -/
def responses : List Response :=
  [{ seqNum := 5, echo := true, writeFile := true, image := some LongChain.pixel },
    { seqNum := 6, status := .kBadChain }]

/-- Some calls of `send`: the first takes a part of a header, the second is interrupted. -/
def sends : List Sent := [.accepted 20, .interrupted, .accepted 3, .accepted 1, .accepted 23]

/-- The client receives everything in one piece. -/
def client : Client :=
  { incoming := match (responses.map Response.bytes).flatten with
      | [] => []
      | byte :: bytes => [.segment byte bytes]
    sends := [] }

/-- Two responses are written piece by piece, and both are read back. -/
theorem writer_contract_two : ∃ received client', client.receiveAll 2 = (.ok received, client')
    ∧ List.Forall₂ Response.Answered responses received := by
  have hloop : writerLoop config { sends := sends } ⟨responses, true⟩
      = ({ sends := [], written := (responses.map Response.bytes).flatten }, ⟨[], true⟩) := by
    rw [writerLoop_eq]
    rfl
  have hsendable : ∀ response ∈ responses, response.Sendable := by
    intro response hresponse _
    rcases List.mem_cons.mp hresponse with rfl | hresponse
    · decide
    · rw [List.mem_singleton.mp hresponse]
      decide
  have hsaved : ∀ response ∈ responses, response.writeFile = true → response.status = .kOk →
      savePng config.disk (config.path response) response.image = .ok () := by
    intro response hresponse _ hok
    rcases List.mem_cons.mp hresponse with rfl | hresponse
    · rfl
    · rw [List.mem_singleton.mp hresponse] at hok
      cases hok
  have hbrings : client.Brings (responses.map Response.bytes).flatten := ⟨by decide, by decide⟩
  obtain ⟨-, received, client', hreceived, hanswered, -⟩ :=
    (writer_contract config).roundTrip sends responses true client hsendable hsaved
      (by rw [hloop]) (by rw [hloop]; exact hbrings)
  exact ⟨received, client', hreceived, hanswered⟩

end TwoResponses

end Imgjit
