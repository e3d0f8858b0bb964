import Imgjit.Net.ConversationRuns
import Imgjit.Net.CudaServerRuns
import Mathlib.Tactic.IntervalCases

/-!
# A client in conversation with the CUDA server

The client, the threads of the server, the driver and the streams of the device, with the network in
between: the results of the conversation, for the program as it runs.  Everything below has been put
together layer by layer, from the kernels over the queues of the device and the backend to the books
of the server; at this point none of it is visible any more but the images that `send` was given and
the responses that `receive` returned.

* `CudaServer.endpoint` — a connection of the server on its CUDA backend.
* `cuda_conversation` — every response that `receive` returns is the one to its own request, with
  the oracle's picture of the image that was sent.  Floats are exact; integers are the machine's,
  and the payload limit keeps every frame in the range in which they suffice.
* `cuda_conversation_complete` — and when nothing is under way, every request has had its response.

The example is one image that is sent, processed by a kernel and received, over a connection that
ends behind it.
-/

namespace Imgjit

open Conversation

section Cuda

variable (config : ServerConfig) (cmath : CMath) (frames : JobHandle → FrameJob) (connection : ℕ)
  (writer : WriterConfig)

/-- A connection of the server on its CUDA backend, as one end of a conversation. -/
def CudaServer.endpoint : Endpoint (CudaServer cmath) where
  system := CudaServer.system config cmath frames
  view := CudaServer.account
  connection := connection
  writer := writer

lemma endpoint_refines : (CudaServer.endpoint config cmath frames connection writer).Refines
    config cmath where
  reachable h := (sound_of_reachable h).1
  steps h hstep := by
    rcases sound_of_reachable h with ⟨haccount, hsound⟩
    exact (sound_step haccount hsound hstep).steps

variable {config cmath frames connection writer} {c : Conversation (CudaServer cmath)}

/-- **The client hears what it asked for.**  In every run of the client, the server, the driver and
the device, with exact floats, with every segmentation and every delay of the network, and with
fewer than `2 ^ 32` calls of `send`: a `receive` that finds a whole response returns it, as the
response to a request of its own, once, and a success brings the oracle's picture of the image that
was sent under its chain; one that comes to the end of the connection throws `std::runtime_error`.
The client's own limit on payloads (64 MiB) keeps every kernel from overflowing. -/
theorem cuda_conversation (hlimit : config.maxPayloadBytes.toNat ≤ kMaxPayloadBytes.toNat)
    (h : (Conversation.system
      (CudaServer.endpoint config cmath frames connection writer)).Reachable c)
    (hcalls : c.run.calls < 2 ^ 32) :
    (∃ responses, Hears config.reader cmath c.run responses)
      ∧ (∀ result ∈ c.atEnd, ∃ what, result = .error (.runtimeError what))
      ∧ ∀ stream item rest, c.server.gpu.device.queues stream = item :: rest →
        Cuda.NoOverflow cmath frames item c.server.gpu.memory := by
  have hrefines := endpoint_refines config cmath frames connection writer
  have hindexable : config.maxPayloadBytes.toNat ≤ 2 ^ 31 - 43 := hlimit.trans (by decide)
  have hserver : (CudaServer.system config cmath frames).Reachable c.server := server_of_reachable h
  rcases Imgjit.sound_of_reachable hserver with ⟨haccount, hsound⟩
  exact ⟨hears_of_reachable hrefines hlimit h hcalls, throws_of_reachable hrefines hlimit h hcalls,
    fun stream item rest hfront => (hsound.front haccount hindexable hfront).2⟩

/-- **No request is lost.**  When the server has received what the client has written and waits for
the next frame, holds no job and no response of the connection, and the client has read what was
written to it, then every request has had exactly one response and the client's map is empty. -/
theorem cuda_conversation_complete
    (hlimit : config.maxPayloadBytes.toNat ≤ kMaxPayloadBytes.toNat)
    (h : (Conversation.system
      (CudaServer.endpoint config cmath frames connection writer)).Reachable c)
    (hcalls : c.run.calls < 2 ^ 32)
    (hidle : Idle (CudaServer.endpoint config cmath frames connection writer) c) :
    c.run.client.pending = [] ∧ ∃ responses, Hears config.reader cmath c.run responses
      ∧ (responses.map ClientResponse.seqNum).Perm (c.run.sent.map Prod.fst) :=
  complete_of_idle (endpoint_refines config cmath frames connection writer) hlimit h hcalls hidle

end Cuda

/-! ## One request, sent and heard -/

namespace PaintedRequest

open Cuda FilteredFrame

/-- The image that is sent. -/
def image : Image where
  width := 1
  height := 1
  channels := 3
  pixels := OneRequest.payload
  width_pos := Nat.one_pos
  width_lt := one_lt_extent
  height_pos := Nat.one_pos
  height_lt := one_lt_extent
  supported := rgb_supported
  packed := rfl

/-- The call that sends it. -/
def call : SendCall := { image := some image, chain := OneRequest.chainBytes }

/-- Six calls of `send` are refused; the seventh gets through, in three pieces. -/
def sends : List Sent := List.replicate 6 .error ++ [.accepted 25, .accepted 6, .accepted 3]

/-- The client, behind some calls of `send`. -/
def requests : ℕ → ClientRun
  | 0 => .start sends
  | n + 1 => (requests n).send call

/-- A disk on which every file can be written. -/
def filing : WriterConfig := { outputDir := ".", connection := 1, disk := fun _ _ => true }

/-- The first connection of the server. -/
def connection : Endpoint (CudaServer plainMath) :=
  CudaServer.endpoint OneRequest.config plainMath frames 1 filing

/-- The writer, and what its calls of `send` will return. -/
def writer : Writer := { sends := [.accepted 23, .accepted 3] }

/-- The response to the image. -/
def answer : Response := okAnswer 7 kFlagEcho OneRequest.picture

/-- The answer arrives in one piece, and is read. -/
def heard : ClientRun :=
  ((requests 7).answer answer (ClientRun.Overtaken.inOnePiece answer.bytes)).receive

lemma link_world (s : State) (backend : CudaBackend plainMath) (b : Bench) :
    connection.link (world s (.idle backend) b) = s.connections 1 := rfl

lemma refused_run {s : CudaServer plainMath} {n : ℕ} (hn : n < 6)
    (h : (Conversation.system connection).Reachable ⟨s, writer, 0, requests n, []⟩) :
    (Conversation.system connection).Reachable ⟨s, writer, 0, requests (n + 1), []⟩ := by
  have hthrows : ∃ error client, (requests n).client.send call = (.error error, client)
      ∧ client.written = (requests n).client.written := by
    interval_cases n <;> exact ⟨_, _, rfl, rfl⟩
  rcases hthrows with ⟨error, client, hthrows, hnothing⟩
  exact h.step (.refused (c := ⟨s, writer, 0, requests n, []⟩) hthrows hnothing)

/-- All seven calls have been made. -/
lemma requested_run {s : CudaServer plainMath}
    (h : (Conversation.system connection).Reachable ⟨s, writer, 0, requests 0, []⟩) :
    (Conversation.system connection).Reachable ⟨s, writer, 0, requests 7, []⟩ := by
  have hrefused : ∀ n ≤ 6,
      (Conversation.system connection).Reachable ⟨s, writer, 0, requests n, []⟩ := by
    intro n hn
    induction n with
    | zero => exact h
    | succ n ih => exact refused_run hn (ih (Nat.le_of_succ_le hn))
  have hreturns : ∃ client, (requests 6).client.send call = (.ok 7, client) := ⟨_, rfl⟩
  rcases hreturns with ⟨client, hreturns⟩
  exact (hrefused 6 le_rfl).step
    (.send (c := ⟨s, writer, 0, requests 6, []⟩) ⟨by decide, by decide⟩ hreturns)

lemma heard_reachable : ∃ backend b, (Conversation.system connection).Reachable
    ⟨world OneRequest.served (.idle backend) b, writer.respond filing answer, 1, heard, []⟩ := by
  rcases served_reaches with ⟨backend, b, hserved⟩
  rcases hserved.exists_steps with ⟨s₀, hinit, hsteps⟩
  have hlink : connection.link s₀ = {} :=
    (congrFun (s₀.engine.books_connections s₀.server) 1).trans (hinit.server.connections 1)
  have hstart : (Conversation.system connection).Reachable ⟨s₀, writer, 0, requests 0, []⟩ :=
    .init ⟨hinit, hlink, rfl, ⟨_, rfl⟩, rfl⟩
  have hsent := requested_run hstart
  have hreceived : (connection.link (world OneRequest.served (.idle backend) b)).consumed
      <+: (requests 7).client.written := by
    rw [link_world]
    exact List.prefix_refl _
  have hanswered := serve_steps (endpoint_refines OneRequest.config plainMath frames 1 filing)
    (.init hinit) hsteps hreceived hsent
  have hnext : (connection.link (world OneRequest.served (.idle backend) b)).popped[0]?
      = some answer := rfl
  have halive : (writer.respond filing answer).socketAlive = true := by decide
  have hwrote : (writer.respond filing answer).written = writer.written ++ answer.bytes := by
    decide
  have hbrings : (ClientRun.Overtaken.inOnePiece answer.bytes).bytes
      = (requests 7).client.incoming.bytes ++ answer.bytes := rfl
  have hdelivered := hanswered.step (.deliver
    (c := ⟨world OneRequest.served (.idle backend) b, writer, 0, requests 7, []⟩)
    hnext halive hwrote (by decide) hbrings)
  exact ⟨backend, b, hdelivered.step (.receive (List.cons_ne_nil _ _) rfl)⟩

/-- What the client has got. -/
def got : ClientResponse where
  version := kVersion
  status := .kOk
  seqNum := 7
  image := some OneRequest.picture
  matched := true
  request := call.pendingFrame 7

lemma heard_results : heard.results = [.ok got] := by decide +kernel

lemma heard_calls : heard.calls < 2 ^ 32 := by decide

lemma limit : OneRequest.config.maxPayloadBytes.toNat ≤ kMaxPayloadBytes.toNat := by decide

/-- The header of another answer and one of its three samples, and then the connection ends. -/
def cut : Wire := ClientRun.Overtaken.inOnePiece (answer.bytes.take 24)

lemma heard_cut : (heard.meetEnd cut).1
    = .error (.runtimeError "imgjit client: connection closed mid-payload") := by decide +kernel

/-- The client reads its answer, and the connection ends in the middle of the next one. -/
theorem cuda_conversation_painted : ∃ c : Conversation (CudaServer plainMath),
    (Conversation.system connection).Reachable c ∧ c.run.results = [.ok got]
      ∧ c.atEnd = [.error (.runtimeError "imgjit client: connection closed mid-payload")]
      ∧ (∃ responses, Hears OneRequest.config.reader plainMath c.run responses)
      ∧ ∀ result ∈ c.atEnd, ∃ what, result = .error (.runtimeError what) := by
  rcases heard_reachable with ⟨backend, b, hreachable⟩
  have hremnant : Conversation.Remnant connection
      ⟨world OneRequest.served (.idle backend) b, writer.respond filing answer, 1, heard, []⟩ cut :=
    .inr ⟨answer, ⟨answer, List.mem_singleton_self _, rfl⟩, by decide, by decide⟩
  have hended := hreachable.step (.ended hremnant)
  have hconversation := cuda_conversation limit hended heard_calls
  exact ⟨_, hended, heard_results, congrArg (fun result => [] ++ [result]) heard_cut,
    hconversation.1, hconversation.2.1⟩

lemma heard_written : heard.client.written = (requests 7).client.written :=
  Client.receive_written _

lemma heard_idle (backend : CudaBackend plainMath) (b : Bench) : Conversation.Idle connection
    ⟨world OneRequest.served (.idle backend) b, writer.respond filing answer, 1, heard, []⟩ where
  received := heard_written.symm
  waiting := .inl rfl
  jobs := List.forall_mem_nil _
  outbox := rfl
  alive := show (writer.respond filing answer).socketAlive = true by decide
  rounds := rfl
  inFlight := rfl

/-- Behind the answer nothing is under way, and nothing is missing. -/
theorem cuda_conversation_complete_painted : ∃ c : Conversation (CudaServer plainMath),
    (Conversation.system connection).Reachable c ∧ c.run.sent = [(7, call)]
      ∧ c.run.client.pending = []
      ∧ ∃ responses, Hears OneRequest.config.reader plainMath c.run responses
        ∧ (responses.map ClientResponse.seqNum).Perm [7] := by
  rcases heard_reachable with ⟨backend, b, hreachable⟩
  exact ⟨_, hreachable, rfl,
    cuda_conversation_complete limit hreachable heard_calls (heard_idle backend b)⟩

end PaintedRequest

end Imgjit
