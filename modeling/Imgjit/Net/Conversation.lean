import Imgjit.Net.AnswerOrder
import Imgjit.Net.ClientReceive
import Imgjit.Net.ClientRuns

/-!
# A client and a server in conversation

The reference client on one end of a connection, the server with all its threads on the other.  The
bytes of the one are what the other receives, in any pieces and with any delay, up to the end of the
connection, which may come at any time.  Both programs have been looked at with any peer; here each
has the other one, and what they make of one another's bytes becomes a theorem about the images that
went in and came out.

**The system.**  `Endpoint` is a server as a system of its own, and `Endpoint.Refines` what is asked
of it, so that the server on any backend can take the place.  `Conversation.Step` is one call of the
client, one step of the server or one round of the writer between them.

**The end of the connection.**  A `receive` that comes to it finds a `Remnant`: less than a
response.  `meetEnd_throws` says that it throws `std::runtime_error` and leaves the map as it was.

**What a call asks for.**  `okResponse_frame`: a call deserves the oracle's picture of its own
image.

**Histories.**  `extends_step`: what a connection has received, and what its writer has taken,
stays.  So what has once been on its way keeps its meaning, whatever the threads do later.
-/

namespace Imgjit

/-! ## The system -/

/-- A server, one of its connections, and where that connection's files go. -/
structure Endpoint (σ : Type) where
  system : Transition.System σ
  view : σ → State
  connection : ℕ
  writer : WriterConfig

namespace Endpoint

variable {σ : Type}

/-- The connection, as the server sees it. -/
def link (e : Endpoint σ) (s : σ) : Connection := (e.view s).connections e.connection

/-- Every run is a run of the server on a backend that keeps the oracle's promise. -/
structure Refines (e : Endpoint σ) (config : ServerConfig) (cmath : CMath) : Prop where
  reachable : ∀ {s}, e.system.Reachable s →
    (config.system (oracleContract cmath)).Reachable (e.view s)
  steps : ∀ {s s'}, e.system.Reachable s → e.system.step s s' →
    Relation.ReflTransGen (Imgjit.Step config (oracleContract cmath)) (e.view s) (e.view s')

end Endpoint

/-- The two ends of a connection, and what has passed between them. -/
structure Conversation (σ : Type) where
  server : σ
  writer : Writer
  /-- How many of the responses that were popped the writer is done with. -/
  rounds : ℕ
  run : ClientRun
  /-- What the calls of `receive` returned or threw that came to the end of the connection. -/
  atEnd : List (Except Exn ClientResponse) := []

/-- A `receive` with this much left on the wire.  What it does not take is of no use any more. -/
def ClientRun.meetEnd (run : ClientRun) (last : Wire) : Except Exn ClientResponse × ClientRun :=
  let (result, client) := ({ run.client with incoming := last } : Client).receive
  (result, { run with client := { run.client with pending := client.pending } })

namespace Conversation

variable {σ : Type}

/-- The response that would come next: the oldest one on its way or, if there is none, one that the
writer has taken. -/
def Coming (e : Endpoint σ) (c : Conversation σ) (response : Response) : Prop :=
  match c.run.inFlight with
  | next :: _ => response = next
  | [] => ∃ taken ∈ (e.link c.server).popped, response = taken.filed e.writer

/-- What arrives before the connection ends: nothing, or the beginning of a response. -/
def Remnant (e : Endpoint σ) (c : Conversation σ) (last : Wire) : Prop :=
  last.delivered = [] ∨ ∃ response, c.Coming e response ∧ last.delivered <+: response.bytes
    ∧ last.delivered.length < response.bytes.length

/-- One call of the client, one step of the server, or one round of `writer_loop`. -/
inductive Step (e : Endpoint σ) : Conversation σ → Conversation σ → Prop
  | send {c : Conversation σ} {call : SendCall} {seqNum : UInt32} {client : Client}
      (fits : call.Fits) (returns : c.run.client.send call = (.ok seqNum, client)) :
      Step e c { c with run := c.run.send call }
  /-- A `send` that throws before anything is out.  One that throws later leaves a part of a frame
  on the wire, and the conversation ends there. -/
  | refused {c : Conversation σ} {call : SendCall} {error : Exn} {client : Client}
      (throws : c.run.client.send call = (.error error, client))
      (nothing : client.written = c.run.client.written) :
      Step e c { c with run := c.run.send call }
  /-- `receive` blocks until there is a response. -/
  | receive {c : Conversation σ} (arrived : c.run.inFlight ≠ []) (lasts : c.atEnd = []) :
      Step e c { c with run := c.run.receive }
  /-- Or until the connection ends. -/
  | ended {c : Conversation σ} {last : Wire} (remnant : c.Remnant e last) :
      Step e c { c with
        run := (c.run.meetEnd last).2
        atEnd := c.atEnd ++ [(c.run.meetEnd last).1] }
  /-- What the server receives is what the client has written. -/
  | serve {c : Conversation σ} {s' : σ} (step : e.system.step c.server s')
      (received : (e.link s').consumed <+: c.run.client.written) :
      Step e c { c with server := s' }
  /-- What the writer writes is what the client will receive. -/
  | deliver {c : Conversation σ} {response : Response} {got : List UInt8} {incoming : Wire}
      (next : (e.link c.server).popped[c.rounds]? = some response)
      (alive : (c.writer.respond e.writer response).socketAlive = true)
      (wrote : (c.writer.respond e.writer response).written = c.writer.written ++ got)
      (clean : incoming.Clean)
      (brings : incoming.bytes = c.run.client.incoming.bytes ++ got) :
      Step e c { c with
        writer := c.writer.respond e.writer response
        rounds := c.rounds + 1
        run := c.run.answer (response.filed e.writer) incoming }
  /-- The socket is dead, or it dies now. -/
  | drop {c : Conversation σ} {response : Response}
      (next : (e.link c.server).popped[c.rounds]? = some response)
      (dead : (c.writer.respond e.writer response).socketAlive = false) :
      Step e c { c with
        writer := c.writer.respond e.writer response
        rounds := c.rounds + 1 }

/-- A fresh client connects to a server that has started. -/
structure Started (e : Endpoint σ) (c : Conversation σ) : Prop where
  server : e.system.init c.server
  link : e.link c.server = {}
  rounds : c.rounds = 0
  run : ∃ sends, c.run = .start sends
  atEnd : c.atEnd = []

/-- The runs of a conversation, from a started server and a fresh client on. -/
def system (e : Endpoint σ) : Transition.System (Conversation σ) where
  init := Started e
  step := Step e

end Conversation

/-! ## The end of the connection -/

section End

variable {response : Response} {last : Wire}

lemma Wire.delivered_segment (first : UInt8) (rest : List UInt8) :
    Wire.delivered [.segment first rest] = first :: rest := List.append_nil _

lemma response_bytes_ne_nil (response : Response) : response.bytes ≠ [] := by
  intro hnil
  have hlength := congrArg List.length hnil
  rw [Response.bytes, List.length_append, length_encodeResponseHeader] at hlength
  exact absurd hlength (by simp [kResponseHeaderBytes])

/-- No frame is longer than its header says. -/
lemma length_response_bytes (response : Response) :
    response.bytes.length ≤ kResponseHeaderBytes + response.header.payloadLen.toNat := by
  rw [Response.bytes, List.length_append, length_encodeResponseHeader, List.length_take]
  omega

/-- The beginning of a frame says what its whole header says, or nothing. -/
lemma frameHeader_of_begins (h : last.delivered <+: response.bytes) {header : ResponseHeader}
    (hframe : frameHeader last = some header) : header = response.header := by
  rw [frameHeader] at hframe
  split_ifs at hframe with hlong
  rcases h with ⟨later, hlater⟩
  have htake : last.delivered.take kResponseHeaderBytes
      = encodeResponseHeader response.header := by
    have hall := congrArg (List.take kResponseHeaderBytes) hlater
    rw [List.take_append_of_le_length hlong, Response.bytes,
      List.take_left' (length_encodeResponseHeader _)] at hall
    exact hall
  rw [htake, decode_encodeResponseHeader] at hframe
  exact (Option.some.inj hframe).symm

/-- The server's own headers are well formed: a client that gets the whole frame returns it. -/
lemma header_wellFormed (h : response.Sendable) : response.header.WellFormed := by
  rcases List.exists_cons_of_ne_nil (response_bytes_ne_nil response) with ⟨first, rest, hcons⟩
  set client : Client := { incoming := [.segment first rest], sends := [] }
  have hdelivered : client.incoming.delivered = response.bytes :=
    (Wire.delivered_segment first rest).trans hcons.symm
  have hbrings : client.Brings (response.bytes ++ []) := by
    refine ⟨by simp [client, Wire.Clean], ?_⟩
    rw [List.append_nil, hcons]
    exact List.append_nil _
  rcases receive_response h hbrings with ⟨received, client', hreceive, -⟩
  rcases client.receive_cases with
    ⟨-, header, -, -, -, hframe, hformed, -⟩ | ⟨-, what, client'', herror, -⟩
      | ⟨-, what, client'', herror⟩
  · have hwhole : client.incoming.delivered <+: response.bytes := ⟨[], by rw [hdelivered]; simp⟩
    rwa [frameHeader_of_begins hwhole hframe] at hformed
  · rw [hreceive] at herror
    cases herror
  · rw [hreceive] at herror
    cases herror

/-- **A frame that is cut short** makes `receive` throw `std::runtime_error`. -/
theorem receive_cut {client : Client} (hsendable : response.Sendable)
    (hbegins : client.incoming.delivered <+: response.bytes)
    (hshort : client.incoming.delivered.length < response.bytes.length) :
    ∃ what client', client.receive = (.error (.runtimeError what), client')
      ∧ client'.pending = client.pending := by
  have hle := length_response_bytes response
  rcases client.receive_cases with
    ⟨-, header, -, -, -, hframe, -, henough, -⟩ | ⟨-, hthrows⟩ | ⟨hrefused, -⟩
  · rw [frameHeader_of_begins hbegins hframe] at henough
    omega
  · exact hthrows
  · rcases hrefused with ⟨header, hframe, -, hpayload, -, hshaped⟩
    obtain rfl := frameHeader_of_begins hbegins hframe
    exact absurd ((header_wellFormed hsendable).imageShaped hpayload).2 hshaped

/-- **At the end of the connection** `receive` throws `std::runtime_error`, and nothing changes. -/
theorem meetEnd_throws {σ : Type} {e : Endpoint σ} {c : Conversation σ}
    (hsendable : ∀ response, c.Coming e response → response.Sendable) (h : c.Remnant e last) :
    ∃ what, c.run.meetEnd last = (.error (.runtimeError what), c.run) := by
  obtain ⟨what, client', hreceive, hpending⟩ : ∃ what client',
      ({ c.run.client with incoming := last } : Client).receive
        = (.error (.runtimeError what), client') ∧ client'.pending = c.run.client.pending := by
    rcases h with hnone | ⟨response, hcoming, hbegins, hshort⟩
    · have hrefusal : ({ status := .kBadChain } : Response).Sendable := nofun
      refine receive_cut hrefusal ?_ ?_
      · exact hnone ▸ List.nil_prefix
      · show last.delivered.length < _
        rw [hnone]
        exact List.length_pos_of_ne_nil (response_bytes_ne_nil _)
    · exact receive_cut (hsendable response hcoming) hbegins hshort
  refine ⟨what, ?_⟩
  simp only [ClientRun.meetEnd, hreceive, hpending]

end End

/-! ## What a call asks for -/

/-- The oracle's picture of the image of a call, under its chain. -/
def SendCall.picture (config : ReaderConfig) (cmath : CMath) (call : SendCall) : Option Image :=
  call.image.bind fun image => (config.parse call.chain).map (Cpu.applyChain cmath image)

section Picture

variable {config : ReaderConfig} {cmath : CMath} {call : SendCall} {seqNum : UInt32}

lemma length_applyChain (cmath : CMath) (image : Image) (chain : OpChain) :
    (Cpu.applyChain cmath image chain).pixels.length = image.pixels.length := by
  rw [Image.packed, Image.packed, Cpu.applyChain, Cpu.applyOps_width, Cpu.applyOps_height,
    Cpu.applyOps_channels]

/-- The header of a call has the shape of its image. -/
lemma SendCall.header_hasShape {image : Image} (himage : call.image = some image)
    (seqNum : UInt32) :
    image.HasShape (call.header seqNum).width.toInt32 (call.header seqNum).height.toInt32
      (call.header seqNum).channels.toUInt32.toInt32 := by
  have hwidthLt := image.width_lt
  have hheightLt := image.height_lt
  have hsupported := image.supported
  have hwidth : (call.header seqNum).width.toNat = image.width := by
    simp only [SendCall.header, himage, widthOf, Option.map_some, Option.getD_some,
      UInt32.toNat_ofNat']
    omega
  have hheight : (call.header seqNum).height.toNat = image.height := by
    simp only [SendCall.header, himage, heightOf, Option.map_some, Option.getD_some,
      UInt32.toNat_ofNat']
    omega
  have hchannels : (call.header seqNum).channels.toNat = image.channels := by
    simp only [SendCall.header, himage, channelsOf, Option.map_some, Option.getD_some,
      UInt8.toNat_ofNat']
    omega
  refine ⟨?_, ?_, ?_⟩
  · rw [toInt_toInt32_of_lt (by omega), hwidth]
  · rw [toInt_toInt32_of_lt (by omega), hheight]
  · rw [toInt_toInt32_uInt8, hchannels]

/-- **What a call deserves is the picture it asks for**, and no larger than its image. -/
theorem okResponse_frame {hfits : call.Fits} {response : Response}
    (h : okResponse config (Cpu.applyChain cmath) (call.frame seqNum hfits) = some response) :
    ∃ picture, call.picture config cmath = some picture
      ∧ response = okAnswer seqNum call.flags picture
      ∧ picture.pixels.length ≤ config.limits.maxPayloadBytes.toNat := by
  have hheader : (call.frame seqNum hfits).header = call.header seqNum := rfl
  have hpayload : (call.frame seqNum hfits).payload = pixelsOf call.image := rfl
  unfold okResponse at h
  split at h
  · rename_i chain hverdict
    rcases verdict_accepted hverdict with ⟨hvalid, hparse⟩
    rw [Option.map_eq_some_iff] at h
    rcases h with ⟨picture, hpicture, rfl⟩
    rw [hheader, hpayload, requestedPicture] at hpicture
    cases himage : call.image with
    | none =>
        -- A header without a width makes no image.
        have hnone : Image.construct (call.header seqNum).width.toInt32
            (call.header seqNum).height.toInt32 (call.header seqNum).channels.toUInt32.toInt32
              = .error (.invalidArgument "Image: bad dimensions 0x0x0") := by
          simp only [SendCall.header, himage]
          rfl
        simp only [Image.fromBytes, hnone, bind, Except.bind, reduceCtorEq] at hpicture
    | some image =>
        have hread : Image.fromBytes (call.header seqNum).width.toInt32
            (call.header seqNum).height.toInt32 (call.header seqNum).channels.toUInt32.toInt32
            (pixelsOf call.image) (sizeT (call.header seqNum).width.toInt32
              * sizeT (call.header seqNum).channels.toUInt32.toInt32) = .ok image := by
          refine Image.fromBytes_pixels (SendCall.header_hasShape himage seqNum) ?_
          rw [himage]
          exact List.take_length
        simp only [hread, Option.some.injEq] at hpicture
        subst hpicture
        refine ⟨_, ?_, rfl, ?_⟩
        · rw [SendCall.picture, himage, Option.bind_some]
          exact Option.map_eq_some_iff.mpr ⟨chain, hparse, rfl⟩
        · have hlength : image.pixels.length = (call.header seqNum).payloadLen.toNat := by
            have hcall := hfits.payloadLen seqNum
            rw [himage] at hcall
            exact hcall
          rw [length_applyChain, hlength]
          exact payload_le_of_valid hvalid
  · cases h

end Picture

/-! ## Histories only grow -/

section History

variable {config : ServerConfig} {contract : Contract} {s s' : State}

/-- What was received and what was taken stays. -/
structure Connection.Extends (k k' : Connection) : Prop where
  consumed : k.consumed <+: k'.consumed
  popped : k.popped <+: k'.popped

lemma Connection.Extends.refl (k : Connection) : k.Extends k :=
  ⟨List.prefix_refl _, List.prefix_refl _⟩

lemma Connection.Extends.trans {k k' k'' : Connection} (h : k.Extends k') (h' : k'.Extends k'') :
    k.Extends k'' :=
  ⟨h.consumed.trans h'.consumed, h.popped.trans h'.popped⟩

lemma extends_update {c : ℕ} {k : Connection} (h : (s.connections c).Extends k) (c' : ℕ) :
    (s.connections c').Extends (Function.update s.connections c k c') := by
  by_cases hc : c' = c
  · rw [hc, Function.update_self]
    exact h
  · rw [Function.update_of_ne hc]
    exact .refl _

lemma extends_step (hstep : Step config contract s s') :
    ∀ c, (s.connections c).Extends (s'.connections c) := by
  have hsame : ∀ {c : ℕ} {k : Connection}, k.consumed = (s.connections c).consumed →
      k.popped = (s.connections c).popped →
      ∀ c', (s.connections c').Extends (Function.update s.connections c k c') :=
    fun hconsumed hpopped => extends_update
      ⟨hconsumed ▸ List.prefix_refl _, hpopped ▸ List.prefix_refl _⟩
  cases hstep with
  | recv accepted place fits =>
      exact extends_update ⟨List.prefix_append _ _, List.prefix_refl _⟩
  | writerPop accepted running popped =>
      exact extends_update ⟨List.prefix_refl _, List.prefix_append _ _⟩
  | pushFailed accepted place =>
      exact hsame (by simp [Connection.jobRetired]) (by simp [Connection.jobRetired])
  | readerFinished accepted place first =>
      exact hsame (by simp [Connection.readerFinished]) (by simp [Connection.readerFinished])
  | handBackRetired place =>
      exact hsame (by simp [Connection.jobRetired]) (by simp [Connection.jobRetired])
  | silent | respond | claim | claimClosed | jobSubmitted | push | pushClosed | giveBack
  | connectionEnd | writerExit | handBackPush => exact hsame rfl rfl
  | _ => exact fun c => .refl _

lemma extends_steps (hsteps : Relation.ReflTransGen (Step config contract) s s') (c : ℕ) :
    (s.connections c).Extends (s'.connections c) := by
  induction hsteps with
  | refl => exact .refl _
  | tail _ hlast ih => exact ih.trans (extends_step hlast c)

end History

end Imgjit
