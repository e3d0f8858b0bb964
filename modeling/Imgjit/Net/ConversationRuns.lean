import Imgjit.Net.Conversation

/-!
# Every run of a conversation

The server refuses a frame or answers it, later and in another order; the client matches the answers
to its requests.  Neither knows what the other has in hand, and between them lies the network.  What
is true of a response when the client reads it was settled when the client sent its frame, so the
invariant follows each frame through everything in between.

**The invariant.**  `Conversation.Sound`: the frames on the wire are those of the calls, the answers
on their way back are right, and the client's run is one of `ClientRuns.lean`, in which each request
is answered once.  `sound_step` has a case for each kind of step; for a step of the server it needs
of the server no more than `Endpoint.Refines`.

**What the client hears.**  `Conversation.hears_of_reachable`: every response that `receive` returns
is the one to its own request.  `Conversation.throws_of_reachable`: at the end of the connection
`receive` throws `std::runtime_error`.

**Nothing is lost.**  `Conversation.complete_of_idle`: once nothing is under way, no response is
missing.
-/

namespace Imgjit

namespace Conversation

/-! ## The invariant -/

/-- The frame on the wire is that of the request. -/
def Carried (request : UInt32 × SendCall) (frame : RequestFrame) : Prop :=
  ∃ fits : request.2.Fits, frame = request.2.frame request.1 fits

/-- The response serves a call that was made. -/
def Serves (config : ReaderConfig) (cmath : CMath) (sent : List (UInt32 × SendCall))
    (response : Response) : Prop :=
  ∃ call picture, (response.seqNum, call) ∈ sent ∧ call.picture config cmath = some picture
    ∧ response = okAnswer response.seqNum call.flags picture

/-- What a caller of `receive` has got: the picture it asked for, or none. -/
structure Right (config : ReaderConfig) (cmath : CMath) (sent : List (UInt32 × SendCall))
    (received : ClientResponse) : Prop where
  served : received.status = .kOk → ∃ call picture, (received.seqNum, call) ∈ sent
    ∧ call.picture config cmath = some picture
    ∧ received.image = if echoFlag call.flags = true then some picture else none
  failed : received.status ≠ .kOk → received.image = none

/-- **The invariant.** -/
structure Sound {σ : Type} (config : ServerConfig) (cmath : CMath) (e : Endpoint σ)
    (c : Conversation σ) : Prop where
  run : ClientRun.system.Reachable c.run
  /-- The frames on the wire are those of the calls. -/
  stream : ∃ frames, c.run.client.written = requestFormat.encodeAll frames.reverse
    ∧ List.Forall₂ Carried c.run.sent frames
  received : (e.link c.server).consumed <+: c.run.client.written
  rounds : c.rounds ≤ (e.link c.server).popped.length
  answered : c.writer.socketAlive = true →
    c.run.answered = ((e.link c.server).popped.take c.rounds).map Response.seqNum
  inFlight : ∀ response ∈ c.run.inFlight, response.status = .kOk →
    Serves config.reader cmath c.run.sent response
  results : ∀ received, .ok received ∈ c.run.results →
    Right config.reader cmath c.run.sent received
  /-- A call that came to the end of the connection threw. -/
  atEnd : ∀ result ∈ c.atEnd, ∃ what, result = .error (.runtimeError what)

variable {σ : Type} {config : ServerConfig} {cmath : CMath} {e : Endpoint σ}
  {c c' : Conversation σ}

lemma numbers_of_carried {sent : List (UInt32 × SendCall)} {frames : List RequestFrame}
    (h : List.Forall₂ Carried sent frames) :
    frames.map (fun frame => frame.header.seqNum) = sent.map Prod.fst := by
  induction h with
  | nil => rfl
  | cons hcarried _ ih =>
      rcases hcarried with ⟨fits, rfl⟩
      rw [List.map_cons, List.map_cons, ih]
      rfl

lemma Serves.mono {sent sent' : List (UInt32 × SendCall)} {response : Response}
    (h : Serves config.reader cmath sent response) (hsub : sent ⊆ sent') :
    Serves config.reader cmath sent' response := by
  rcases h with ⟨call, picture, hcall, hrest⟩
  exact ⟨call, picture, hsub hcall, hrest⟩

lemma Right.mono {sent sent' : List (UInt32 × SendCall)} {received : ClientResponse}
    (h : Right config.reader cmath sent received) (hsub : sent ⊆ sent') :
    Right config.reader cmath sent' received := by
  refine ⟨fun hok => ?_, h.failed⟩
  rcases h.served hok with ⟨call, picture, hcall, hrest⟩
  exact ⟨call, picture, hsub hcall, hrest⟩

/-- **What the writer takes serves a call**, or reports a failure. -/
lemma Sound.serves (h : Sound config cmath e c) (hrefines : e.Refines config cmath)
    (hserver : e.system.Reachable c.server) {response : Response}
    (hpopped : response ∈ (e.link c.server).popped) (hok : response.status = .kOk) :
    Serves config.reader cmath c.run.sent response
      ∧ (pixelsOf response.image).length ≤ config.maxPayloadBytes.toNat := by
  rcases (pixels_of_reachable (hrefines.reachable hserver)).stream e.connection with
    ⟨requests, received, hbytes, -, hdeserved⟩
  rcases h.stream with ⟨frames, hwritten, hcarried⟩
  have harrived := h.received
  rw [hwritten, show (e.link c.server).consumed = _ from hbytes] at harrived
  rcases requestFormat.frames_of_arrived harrived with ⟨later, hframes, -⟩
  have hcount : 0 < (requests.filterMap
      (okResponse config.reader (Cpu.applyChain cmath))).count response := by
    have hpositive := List.count_pos_iff.mpr hpopped
    have hle := hdeserved response hok
    exact hpositive.trans_le (by unfold Endpoint.link at *; omega)
  rcases List.mem_filterMap.mp (List.count_pos_iff.mp hcount) with ⟨frame, hframe, hresponse⟩
  have hmem : frame ∈ frames := by
    rw [← List.mem_reverse, hframes]
    exact List.mem_append_left _ hframe
  obtain ⟨request, hrequest, fits, rfl⟩ : ∃ request ∈ c.run.sent, Carried request frame := by
    rcases List.mem_iff_getElem.mp hmem with ⟨i, hi, rfl⟩
    have hlength := hcarried.length_eq
    exact ⟨_, List.getElem_mem (hlength ▸ hi), hcarried.get (hlength ▸ hi) hi⟩
  rcases okResponse_frame hresponse with ⟨picture, hpicture, rfl, hsize⟩
  exact ⟨⟨request.2, picture, hrequest, hpicture, rfl⟩, hsize⟩

/-- The numbers of what the writer takes are distinct, and were sent. -/
lemma Sound.popped (h : Sound config cmath e c) (hrefines : e.Refines config cmath)
    (hserver : e.system.Reachable c.server) (hcalls : c.run.calls < 2 ^ 32) :
    ((e.link c.server).popped.map Response.seqNum).Nodup
      ∧ ∀ response ∈ (e.link c.server).popped, response.seqNum ∈ c.run.sent.map Prod.fst := by
  rcases h.stream with ⟨frames, hwritten, hcarried⟩
  rcases ClientRun.accounted_of_reachable h.run hcalls with ⟨responses, hsound⟩
  have hnumbers := numbers_of_carried hcarried
  have harrived := h.received
  rw [hwritten] at harrived
  have hnodup : (frames.reverse.map fun frame => frame.header.seqNum).Nodup := by
    rw [List.map_reverse, List.nodup_reverse, hnumbers]
    exact hsound.distinct
  rcases popped_nodup (hrefines.reachable hserver) harrived hnodup with ⟨honce, hknown⟩
  refine ⟨honce, fun response hresponse => ?_⟩
  have hmem := hknown response hresponse
  rw [List.map_reverse, List.mem_reverse, hnumbers] at hmem
  exact hmem

/-! ## Every step keeps it -/

lemma sound_of_started (h : Started e c) : Sound config cmath e c := by
  rcases h.run with ⟨sends, hrun⟩
  constructor
  · exact .init h.run
  · refine ⟨[], ?_, ?_⟩
    · rw [hrun]
      rfl
    · rw [hrun]
      exact .nil
  · rw [h.link]
    exact List.nil_prefix
  · rw [h.rounds]
    exact Nat.zero_le _
  · intro halive
    rw [hrun, h.rounds]
    rfl
  · rw [hrun]
    exact List.forall_mem_nil _
  · rw [hrun]
    intro received hreceived
    cases hreceived
  · rw [h.atEnd]
    exact List.forall_mem_nil _

/-- A call of the client leaves what was sent and what was answered. -/
lemma Sound.call (h : Sound config cmath e c) {run : ClientRun}
    (hreach : ClientRun.system.Reachable run)
    (hstream : ∃ frames, run.client.written = requestFormat.encodeAll frames.reverse
      ∧ List.Forall₂ Carried run.sent frames)
    (hwritten : c.run.client.written <+: run.client.written) (hsent : c.run.sent ⊆ run.sent)
    (hanswered : run.answered = c.run.answered)
    (hinFlight : ∀ response ∈ run.inFlight, response ∈ c.run.inFlight)
    (hresults : ∀ received, .ok received ∈ run.results → .ok received ∈ c.run.results
      ∨ Right config.reader cmath c.run.sent received) :
    Sound config cmath e { c with run := run } where
  run := hreach
  stream := hstream
  received := h.received.trans hwritten
  rounds := h.rounds
  answered halive := hanswered.trans (h.answered halive)
  inFlight response hresponse hok :=
    (h.inFlight response (hinFlight response hresponse) hok).mono hsent
  results received hreceived := by
    rcases hresults received hreceived with hold | hnew
    · exact (h.results received hold).mono hsent
    · exact hnew.mono hsent
  atEnd := h.atEnd

lemma Sound.send (h : Sound config cmath e c) {call : SendCall} {seqNum : UInt32}
    {client : Client} (fits : call.Fits)
    (returns : c.run.client.send call = (.ok seqNum, client)) :
    Sound config cmath e { c with run := c.run.send call } := by
  have hreach : ClientRun.system.Reachable (c.run.send call) := h.run.step (.send _ _)
  have hwritten := (Client.send_ok returns).2.2
  rcases h.stream with ⟨frames, hstream, hcarried⟩
  have hframe : Carried (seqNum, call) (call.frame seqNum fits) := ⟨fits, rfl⟩
  simp only [ClientRun.send, returns] at hreach ⊢
  refine h.call hreach ⟨_, ?_, .cons hframe hcarried⟩ ?_ (List.subset_cons_self _ _) rfl
    (fun _ => id) fun _ => .inl
  · rw [List.reverse_cons, SelfDelimiting.Format.encodeAll_append,
      SelfDelimiting.Format.encodeAll_cons, SelfDelimiting.Format.encodeAll_nil, bytes_frame,
      List.append_nil, ← hstream]
    exact hwritten
  · simp only [hwritten]
    exact List.prefix_append _ _

lemma Sound.refused (h : Sound config cmath e c) {call : SendCall} {error : Exn}
    {client : Client} (throws : c.run.client.send call = (.error error, client))
    (nothing : client.written = c.run.client.written) :
    Sound config cmath e { c with run := c.run.send call } := by
  have hreach : ClientRun.system.Reachable (c.run.send call) := h.run.step (.send _ _)
  simp only [ClientRun.send, throws] at hreach ⊢
  refine h.call hreach ?_ ?_ (List.Subset.refl _) rfl (fun _ => id) fun _ => .inl
  · simp only [nothing]
    exact h.stream
  · simp only [nothing]
    exact List.prefix_refl _

/-- The oldest answer is read, as it was given. -/
lemma Sound.receive (h : Sound config cmath e c) (hcalls : c.run.calls < 2 ^ 32)
    (arrived : c.run.inFlight ≠ []) : Sound config cmath e { c with run := c.run.receive } := by
  have hreach : ClientRun.system.Reachable c.run.receive := h.run.step (.receive _ arrived)
  rcases ClientRun.accounted_of_reachable h.run hcalls with ⟨responses, hsound⟩
  rcases List.exists_cons_of_ne_nil arrived with ⟨response, later, hcons⟩
  have hfirst : response ∈ c.run.inFlight := hcons ▸ List.mem_cons_self
  have hbrings := hsound.brings
  rw [hcons, List.map_cons, List.flatten_cons] at hbrings
  rcases receive_response (hsound.sendable response hfirst) hbrings with
    ⟨received, client, hreceive, hanswered, -⟩
  have hright : Right config.reader cmath c.run.sent received := by
    refine ⟨fun hok => ?_, fun hfailed => ?_⟩
    · rw [hanswered.status] at hok
      rcases h.inFlight response hfirst hok with ⟨call, picture, hcall, hpicture, hresponse⟩
      refine ⟨call, picture, hanswered.seqNum ▸ hcall, hpicture, ?_⟩
      rw [hanswered.image, hresponse]
      simp only [okAnswer, true_and]
    · rw [hanswered.status] at hfailed
      rw [hanswered.image, if_neg fun hboth => hfailed hboth.1]
  have hwritten : client.written = c.run.client.written := by
    rw [← c.run.client.receive_written, hreceive]
  simp only [ClientRun.receive, hreceive] at hreach ⊢
  refine h.call hreach ?_ ?_ (List.Subset.refl _) rfl (fun _ => List.mem_of_mem_tail) ?_
  · rw [hwritten]
    exact h.stream
  · exact hwritten ▸ List.prefix_refl _
  · intro other hother
    rcases List.mem_append.mp hother with hold | hnew
    · exact .inl hold
    · obtain rfl : other = received := Except.ok.inj (List.mem_singleton.mp hnew)
      exact .inr hright

/-- Filing changes nothing in a response that is still a success. -/
lemma filed_of_kOk {writer : WriterConfig} {response : Response}
    (hok : (response.filed writer).status = .kOk) : response.filed writer = response := by
  simp only [Response.filed] at hok ⊢
  split_ifs at hok ⊢
  · split at hok
    · rfl
    · cases hok
  · rfl

lemma filed_seqNum (writer : WriterConfig) (response : Response) :
    (response.filed writer).seqNum = response.seqNum := by
  simp only [Response.filed]
  split_ifs
  · split <;> rfl
  · rfl

/-- The connection has ended. -/
lemma Sound.ended (h : Sound config cmath e c) (hrefines : e.Refines config cmath)
    (hlimit : config.maxPayloadBytes.toNat ≤ kMaxPayloadBytes.toNat)
    (hserver : e.system.Reachable c.server) (hcalls : c.run.calls < 2 ^ 32) {last : Wire}
    (remnant : c.Remnant e last) : Sound config cmath e { c with
      run := (c.run.meetEnd last).2
      atEnd := c.atEnd ++ [(c.run.meetEnd last).1] } := by
  rcases ClientRun.accounted_of_reachable h.run hcalls with ⟨responses, hclient⟩
  have hsendable : ∀ response, c.Coming e response → response.Sendable := by
    intro response hcoming hok
    unfold Coming at hcoming
    split at hcoming
    · rename_i next later hcons
      rw [hcoming] at hok ⊢
      exact hclient.sendable next (hcons ▸ List.mem_cons_self) hok
    · rcases hcoming with ⟨taken, htaken, rfl⟩
      have hsame := filed_of_kOk hok
      rw [hsame] at hok ⊢
      exact (h.serves hrefines hserver htaken hok).2.trans hlimit
  rcases meetEnd_throws hsendable remnant with ⟨what, hthrows⟩
  rw [hthrows]
  refine { h with atEnd := ?_ }
  intro result hresult
  rcases List.mem_append.mp hresult with hold | hnew
  · exact h.atEnd result hold
  · exact ⟨what, List.mem_singleton.mp hnew⟩

lemma Sound.serve (h : Sound config cmath e c) (hrefines : e.Refines config cmath)
    (hserver : e.system.Reachable c.server) {s' : σ} (step : e.system.step c.server s')
    (received : (e.link s').consumed <+: c.run.client.written) :
    Sound config cmath e { c with server := s' } := by
  have hextends : (e.link c.server).Extends (e.link s') :=
    extends_steps (hrefines.steps hserver step) e.connection
  refine { h with received := received, rounds := ?_, answered := ?_ }
  · exact h.rounds.trans hextends.popped.length_le
  · intro halive
    rcases hextends.popped with ⟨later, hlater⟩
    rw [h.answered halive, ← hlater, List.take_append_of_le_length h.rounds]

lemma Sound.deliver (h : Sound config cmath e c) (hrefines : e.Refines config cmath)
    (hlimit : config.maxPayloadBytes.toNat ≤ kMaxPayloadBytes.toNat)
    (hserver : e.system.Reachable c.server) (hcalls : c.run.calls < 2 ^ 32)
    {response : Response} {got : List UInt8} {incoming : Wire}
    (next : (e.link c.server).popped[c.rounds]? = some response)
    (alive : (c.writer.respond e.writer response).socketAlive = true)
    (wrote : (c.writer.respond e.writer response).written = c.writer.written ++ got)
    (clean : incoming.Clean) (brings : incoming.bytes = c.run.client.incoming.bytes ++ got) :
    Sound config cmath e { c with
      writer := c.writer.respond e.writer response
      rounds := c.rounds + 1
      run := c.run.answer (response.filed e.writer) incoming } := by
  have hpopped : response ∈ (e.link c.server).popped := List.mem_of_getElem? next
  have hlt : c.rounds < (e.link c.server).popped.length :=
    (List.getElem?_eq_some_iff.mp next).1
  have htake : (e.link c.server).popped.take (c.rounds + 1)
      = (e.link c.server).popped.take c.rounds ++ [response] := by
    rw [List.take_add_one, next]
    rfl
  rcases respond_alive alive with ⟨halive, hbytes⟩
  have hanswered := h.answered halive
  have hgot : got = (response.filed e.writer).bytes :=
    List.append_cancel_left (wrote.symm.trans hbytes)
  rcases h.popped hrefines hserver hcalls with ⟨honce, hknown⟩
  have hserves : (response.filed e.writer).status = .kOk →
      Serves config.reader cmath c.run.sent (response.filed e.writer)
        ∧ (pixelsOf (response.filed e.writer).image).length ≤ config.maxPayloadBytes.toNat := by
    intro hok
    have hsame := filed_of_kOk hok
    rw [hsame] at hok ⊢
    exact h.serves hrefines hserver hpopped hok
  have hanswers : c.run.Answers (response.filed e.writer) incoming := by
    refine ⟨?_, ?_, fun hok => (hserves hok).2.trans hlimit, clean, hgot ▸ brings⟩
    · rw [filed_seqNum]
      exact hknown response hpopped
    · -- The numbers up to this one are distinct, and it comes last.
      rw [filed_seqNum, hanswered]
      have harrived := (List.take_sublist (c.rounds + 1) (e.link c.server).popped).map
        Response.seqNum
      have hnodup := honce.sublist harrived
      rw [htake, List.map_append, List.map_cons, List.map_nil] at hnodup
      intro hmem
      exact (List.nodup_append.mp hnodup).2.2 _ hmem _ (List.mem_singleton_self _) rfl
  refine { h with
    run := h.run.step (.answer _ hanswers), rounds := hlt, answered := ?_, inFlight := ?_ }
  · intro _
    simp only [ClientRun.answer, hanswered, htake, List.map_append, List.map_cons, List.map_nil,
      filed_seqNum]
  · intro other hother hok
    rcases List.mem_append.mp hother with hold | hnew
    · exact h.inFlight other hold hok
    · rw [List.mem_singleton.mp hnew] at hok ⊢
      exact (hserves hok).1

lemma Sound.drop (h : Sound config cmath e c) {response : Response}
    (next : (e.link c.server).popped[c.rounds]? = some response)
    (dead : (c.writer.respond e.writer response).socketAlive = false) :
    Sound config cmath e { c with
      writer := c.writer.respond e.writer response
      rounds := c.rounds + 1 } := by
  refine { h with rounds := (List.getElem?_eq_some_iff.mp next).1, answered := ?_ }
  intro halive
  rw [dead] at halive
  cases halive

/-! ## Every run -/

section Runs

variable (hrefines : e.Refines config cmath)
  (hlimit : config.maxPayloadBytes.toNat ≤ kMaxPayloadBytes.toNat)

lemma calls_step (hstep : Step e c c') : c.run.calls ≤ c'.run.calls := by
  cases hstep with
  | send fits returns =>
      rw [ClientRun.calls_send]
      exact Nat.le_succ _
  | refused throws nothing =>
      rw [ClientRun.calls_send]
      exact Nat.le_succ _
  | _ => exact le_rfl

include hrefines hlimit in
/-- **Every step keeps the conversation sound.** -/
theorem sound_step (h : Sound config cmath e c) (hserver : e.system.Reachable c.server)
    (hcalls : c'.run.calls < 2 ^ 32) (hstep : Step e c c') : Sound config cmath e c' := by
  have hbefore : c.run.calls < 2 ^ 32 := (calls_step hstep).trans_lt hcalls
  cases hstep with
  | send fits returns => exact h.send fits returns
  | refused throws nothing => exact h.refused throws nothing
  | receive arrived lasts => exact h.receive hbefore arrived
  | ended remnant => exact h.ended hrefines hlimit hserver hbefore remnant
  | serve step received => exact h.serve hrefines hserver step received
  | deliver next alive wrote clean brings =>
      exact h.deliver hrefines hlimit hserver hbefore next alive wrote clean brings
  | drop next dead => exact h.drop next dead

lemma server_of_reachable (h : (system e).Reachable c) : e.system.Reachable c.server := by
  induction h with
  | init hstart => exact .init hstart.server
  | step _ hstep ih =>
      cases hstep with
      | serve step received => exact ih.step step
      | _ => exact ih

/-- Sound, unless the numbers have come round. -/
def Accounted {σ : Type} (config : ServerConfig) (cmath : CMath) (e : Endpoint σ)
    (c : Conversation σ) : Prop := c.run.calls < 2 ^ 32 → Sound config cmath e c

include hrefines hlimit in
lemma accounted_of_reachable (h : (system e).Reachable c) : Accounted config cmath e c := by
  refine h.invariant ?_ ?_
  · exact fun c hstart _ => sound_of_started hstart
  · intro c c' hreach ih hstep hcalls
    have hbefore : c.run.calls < 2 ^ 32 := (calls_step hstep).trans_lt hcalls
    exact sound_step hrefines hlimit (ih hbefore) (server_of_reachable hreach) hcalls hstep

include hrefines in
/-- The server may do on its own whatever its client's bytes allow. -/
lemma serve_steps {s s' : σ} {writer : Writer} {rounds : ℕ} {run : ClientRun}
    (hserver : e.system.Reachable s) (hsteps : Relation.ReflTransGen e.system.step s s')
    (received : (e.link s').consumed <+: run.client.written)
    (h : (system e).Reachable ⟨s, writer, rounds, run, []⟩) :
    (system e).Reachable ⟨s', writer, rounds, run, []⟩ := by
  induction hsteps with
  | refl => exact h
  | tail hbefore hlast ih =>
      have hextends : (e.link _).Extends (e.link _) :=
        extends_steps (hrefines.steps (hserver.steps hbefore) hlast) e.connection
      exact (ih (hextends.consumed.trans received)).step (.serve hlast received)

/-! ## What the client hears -/

/-- What the calls of `receive` have returned, each of them for its own request. -/
structure Hears (config : ReaderConfig) (cmath : CMath) (run : ClientRun)
    (responses : List ClientResponse) : Prop where
  distinct : (run.sent.map Prod.fst).Nodup
  tracks : run.Tracks responses
  right : ∀ received ∈ responses, ∃ call, (received.seqNum, call) ∈ run.sent
    ∧ received.request = call.pendingFrame received.seqNum
    ∧ (received.status = .kOk → ∃ picture, call.picture config cmath = some picture
      ∧ received.image = if echoFlag call.flags = true then some picture else none)
    ∧ (received.status ≠ .kOk → received.image = none)

/-- A number stands for one call. -/
lemma call_unique {sent : List (UInt32 × SendCall)} (hnodup : (sent.map Prod.fst).Nodup)
    {seqNum : UInt32} {call call' : SendCall} (h : (seqNum, call) ∈ sent)
    (h' : (seqNum, call') ∈ sent) : call = call' :=
  congrArg Prod.snd (List.inj_on_of_nodup_map hnodup h h' rfl)

include hrefines hlimit in
/-- **The client hears what it asked for**, in whatever order. -/
theorem hears_of_reachable (h : (system e).Reachable c) (hcalls : c.run.calls < 2 ^ 32) :
    ∃ responses, Hears config.reader cmath c.run responses := by
  have hsound := accounted_of_reachable hrefines hlimit h hcalls
  rcases ClientRun.accounted_of_reachable hsound.run hcalls with ⟨responses, hclient⟩
  refine ⟨responses, hclient.distinct, hclient.tracks, fun received hreceived => ?_⟩
  rcases hclient.taken_entry hreceived with ⟨call, hcall, hrequest⟩
  have hright : Right config.reader cmath c.run.sent received := by
    refine hsound.results received ?_
    rw [hclient.results]
    exact List.mem_map_of_mem hreceived
  refine ⟨call, hcall, hrequest, fun hok => ?_, hright.failed⟩
  rcases hright.served hok with ⟨other, picture, hother, hpicture, himage⟩
  rw [call_unique hclient.distinct hcall hother]
  exact ⟨picture, hpicture, himage⟩

include hrefines hlimit in
/-- **The end of the connection** is heard as `std::runtime_error`. -/
theorem throws_of_reachable (h : (system e).Reachable c) (hcalls : c.run.calls < 2 ^ 32) :
    ∀ result ∈ c.atEnd, ∃ what, result = .error (.runtimeError what) :=
  (accounted_of_reachable hrefines hlimit h hcalls).atEnd

/-! ## Nothing is lost -/

/-- Nothing is under way between the two ends, and the connection is up. -/
structure Idle (e : Endpoint σ) (c : Conversation σ) : Prop where
  received : (e.link c.server).consumed = c.run.client.written
  waiting : (e.link c.server).reader = .loopHead
    ∨ (e.link c.server).reader = .reading .header kRequestHeaderBytes []
  jobs : ∀ job ∈ (e.view c.server).jobs.unanswered, job.connection ≠ e.connection
  outbox : (e.link c.server).outbox.items = []
  alive : c.writer.socketAlive = true
  rounds : c.rounds = (e.link c.server).popped.length
  inFlight : c.run.inFlight = []

include hrefines in
/-- The server has answered each request. -/
lemma Idle.popped_perm (hidle : Idle e c) (h : Sound config cmath e c)
    (hserver : e.system.Reachable c.server) :
    ((e.link c.server).popped.map Response.seqNum).Perm (c.run.sent.map Prod.fst) := by
  have hreach := hrefines.reachable hserver
  rcases h.stream with ⟨frames, hwritten, hcarried⟩
  rcases sequenced_of_reachable hreach e.connection with
    ⟨requests, received, current, hbytes, hat, hsettled, hnumbers⟩
  have hempty : received = [] ∧ current = [] := by
    rcases hidle.waiting with hreader | hreader <;>
      rw [show State.connections _ _ = e.link c.server from rfl, hreader] at hat hsettled
    · exact ⟨hat, hsettled⟩
    · exact ⟨hat.1, hsettled⟩
  rw [hempty.1, List.append_nil] at hbytes
  rw [hempty.2, List.append_nil] at hnumbers
  have hall : requestFormat.encodeAll requests = requestFormat.encodeAll frames.reverse := by
    rw [← hbytes, ← hwritten]
    exact hidle.received
  have hframes : requests = frames.reverse := by
    have hsplit := congrArg requestFormat.split hall
    have hrequests := requestFormat.split_append requests []
    have hreversed := requestFormat.split_append frames.reverse []
    rw [List.append_nil] at hrequests hreversed
    rw [hrequests, hreversed] at hsplit
    exact List.append_cancel_right hsplit
  have hanswered : ∀ q, (e.link c.server).answered.count q
      = ((e.link c.server).popped.map Response.seqNum).count q := by
    intro q
    have hledger := ((accounts_of_reachable hreach).ledger e.connection).answered q
    have hjobs : (e.view c.server).jobs.unanswered.countP (InFlight.numbered e.connection q) = 0 := by
      refine List.countP_eq_zero.mpr fun job hjob hmatch => hidle.jobs job hjob ?_
      simp only [InFlight.numbered, Bool.and_eq_true, beq_iff_eq] at hmatch
      exact hmatch.1
    have houtbox := hidle.outbox
    unfold Endpoint.link at houtbox ⊢
    simp only [hledger, hjobs, houtbox, List.map_nil, List.count_nil, Nat.add_zero]
  have hperm : (e.link c.server).answered.Perm ((e.link c.server).popped.map Response.seqNum) :=
    List.perm_iff_count.mpr hanswered
  refine hperm.symm.trans ?_
  rw [show (e.link c.server).answered = _ from hnumbers, hframes, List.map_reverse,
    numbers_of_carried hcarried]
  exact List.reverse_perm _

include hrefines hlimit in
/-- **No request is left without its response** once nothing is under way, and the client's map is
empty. -/
theorem complete_of_idle (h : (system e).Reachable c) (hcalls : c.run.calls < 2 ^ 32)
    (hidle : Idle e c) : c.run.client.pending = [] ∧ ∃ responses,
      Hears config.reader cmath c.run responses
        ∧ (responses.map ClientResponse.seqNum).Perm (c.run.sent.map Prod.fst) := by
  have hsound := accounted_of_reachable hrefines hlimit h hcalls
  have hperm := hidle.popped_perm hrefines hsound (server_of_reachable h)
  rcases hears_of_reachable hrefines hlimit h hcalls with ⟨responses, hhears⟩
  rcases ClientRun.accounted_of_reachable hsound.run hcalls with ⟨others, hclient⟩
  obtain rfl : responses = others := by
    have hresults := hhears.tracks.returned.symm.trans hclient.results
    exact List.map_injective_iff.mpr (fun _ _ => Except.ok.inj) hresults
  have horder := hclient.order
  rw [hidle.inFlight, List.map_nil, List.append_nil, hsound.answered hidle.alive, hidle.rounds,
    List.take_length] at horder
  rw [← horder] at hperm
  refine ⟨hhears.tracks.drained fun request hrequest => ?_, responses, hhears, hperm⟩
  exact hperm.symm.subset (List.mem_map_of_mem hrequest)

end Runs

end Conversation

end Imgjit
