import Imgjit.Net.ServerPixels

/-!
# In which order a connection's frames are answered

The reader answers a frame when it refuses it, and when it queues it.  It does either once, and goes
on to the next frame only then.  The client numbers its frames, and the server only copies the
numbers; so what a client may conclude from the numbers it hears depends on the reader alone, and
that the responses come in another order does not matter.

* `Opens` — what has been received begins with a header of this number.
* `ReaderPc.Settled` — the answers already given to the frame that is being received.
* `Sequenced` — the invariant: the numbers answered are those of the whole frames, in their order,
  and then that of the current one if it has been refused.
* `sequenced_step` — every step of the server keeps it, for every connection.
* `answered_in_order` — so a client that sends these frames is answered from the first on.
* `popped_nodup` — and what the writer takes answers none of them twice, if the client has numbered
  them apart.

The conversation with the client rests on this file: there the frames are those that `send` wrote.
-/

namespace Imgjit

/-! ## The frame that is being received -/

/-- What has been received begins with a header of this number. -/
def Opens (received : List UInt8) (seqNum : UInt32) : Prop :=
  ∃ header head body, decodeRequestHeader head = some header ∧ received = head ++ body
    ∧ header.seqNum = seqNum

/-- The answers already given to the frame that is being received.  It is drained after its answer,
and a reader that gives up may have given it. -/
def ReaderPc.Settled (received : List UInt8) (current : List UInt32) : ReaderPc → Prop
  | drain _ => ∃ seqNum, Opens received seqNum ∧ current = [seqNum]
  | reading (.scratch _) _ _ => ∃ seqNum, Opens received seqNum ∧ current = [seqNum]
  | pushFailed _ => current = [] ∨ ∃ seqNum, Opens received seqNum ∧ current = [seqNum]
  | giveBack _ => current = [] ∨ ∃ seqNum, Opens received seqNum ∧ current = [seqNum]
  | returned => current = [] ∨ ∃ seqNum, Opens received seqNum ∧ current = [seqNum]
  | _ => current = []

variable {config : ReaderConfig} {memory : ℕ → List UInt8} {received : List UInt8}
  {current : List UInt32} {pc pc' : ReaderPc}

lemma length_header {head : List UInt8} {header : RequestHeader}
    (h : decodeRequestHeader head = some header) : head.length = kRequestHeaderBytes := by
  rw [decodeRequestHeader] at h
  split_ifs at h with hlength
  exact not_not.mp hlength

lemma Opens.append {seqNum : UInt32} (h : Opens received seqNum) (bytes : List UInt8) :
    Opens (received ++ bytes) seqNum := by
  rcases h with ⟨header, head, body, hhead, rfl, hnumber⟩
  exact ⟨header, head, body ++ bytes, hhead, List.append_assoc .., hnumber⟩

lemma opens_of_header {header : RequestHeader} {unread : ℕ}
    (h : Partial header unread received) : Opens received header.seqNum := by
  rcases h with ⟨head, body, hhead, hreceived, -⟩
  exact ⟨header, head, body, hhead, hreceived, rfl⟩

/-- The number is that of the frame at the front. -/
lemma Opens.seqNum_eq {seqNum : UInt32} (h : Opens received seqNum) {frame : RequestFrame}
    {rest : List UInt8} (harrived : received <+: frame.bytes ++ rest) :
    frame.header.seqNum = seqNum := by
  rcases h with ⟨header, head, body, hhead, rfl, rfl⟩
  rcases harrived with ⟨tail, htail⟩
  rw [List.append_assoc, RequestFrame.bytes, List.append_assoc] at htail
  have hsame : head = frame.head := by
    refine List.append_inj_left htail ?_
    rw [length_header hhead, frame.head_length]
  have hdecoded := frame.decoded
  rw [← hsame, hhead] at hdecoded
  cases hdecoded
  rfl

lemma Opens.ne_nil {seqNum : UInt32} (h : Opens received seqNum) : received ≠ [] := by
  rintro rfl
  rcases h with ⟨header, head, body, hhead, hnil, -⟩
  have hlength := length_header hhead
  rw [(List.append_eq_nil_iff.mp hnil.symm).1] at hlength
  cases hlength

/-! ## The moves of a reader -/

/-- A frame ends where its last byte has been drained, or where it is pushed. -/
lemma silent_at_same (h : pc.At config memory received) (hsilent : pc.silent config = some pc')
    (hdrain : pc ≠ .drain 0) : pc'.At config memory received := by
  rcases silent_at h hsilent with hplace | ⟨frame, rfl, hplace⟩
  · exact hplace
  · -- At a place that follows the frames, a header at least has been received.
    have hempty : ∀ {header : RequestHeader} {unread : ℕ}, ¬Partial header unread [] :=
      fun hpartial => (opens_of_header hpartial).ne_nil rfl
    have hheader : ∀ {head : List UInt8} {header : RequestHeader} {rest : List UInt8},
        decodeRequestHeader head = some header → [] ≠ head ++ rest := fun hhead hnil =>
      Opens.ne_nil ⟨_, _, _, hhead, hnil, rfl⟩ rfl
    unfold ReaderPc.silent at hsilent
    split at hsilent
    · exact absurd h (RequestFrame.bytes_ne_nil frame)
    · rename_i into buffer
      cases hsilent
      cases into with
      | header =>
          simp only [ReaderPc.readDone, ReaderPc.headerRead] at hplace ⊢
          split at hplace
          · trivial
          · split at hplace
            · rcases hplace with ⟨head, hhead, hnil, -⟩
              exact absurd hnil (hheader hhead)
            · exact absurd hplace.2 hempty
      | chain header =>
          simp only [ReaderPc.readDone, ReaderPc.chainRead] at hplace ⊢
          split at hplace
          · rcases hplace with ⟨head, text, hhead, hnil, -⟩
            exact absurd hnil (hheader hhead)
          · exact absurd hplace.2 hempty
      | payload header chain slot =>
          rcases hplace with ⟨other, hnil, -⟩
          exact absurd hnil (RequestFrame.bytes_ne_nil other)
      | scratch left =>
          rcases hplace with ⟨header, hpartial⟩
          exact absurd hpartial hempty
    · rename_i left
      cases hsilent
      have hleft : left ≠ 0 := fun hzero => hdrain (by rw [hzero])
      rw [ReaderPc.drained, if_neg hleft] at hplace
      rcases hplace with ⟨header, hpartial⟩
      exact absurd hpartial hempty
    · cases hsilent

lemma silent_settled (h : pc.Settled received current) (hsilent : pc.silent config = some pc')
    (hdrain : pc ≠ .drain 0) : pc'.Settled received current := by
  unfold ReaderPc.silent at hsilent
  split at hsilent
  · cases hsilent
    exact h
  · rename_i into buffer
    cases hsilent
    cases into with
    | header =>
        simp only [ReaderPc.readDone, ReaderPc.headerRead]
        split
        · exact .inl h
        · split <;> exact h
    | chain header =>
        simp only [ReaderPc.readDone, ReaderPc.chainRead]
        split <;> exact h
    | payload header chain slot => exact h
    | scratch left => exact h
  · rename_i left
    cases hsilent
    have hleft : left ≠ 0 := fun hzero => hdrain (by rw [hzero])
    rw [ReaderPc.drained, if_neg hleft]
    exact h
  · cases hsilent

lemma received_settled {into : ReadInto} {remaining : ℕ} {buffer : List UInt8}
    (h : (ReaderPc.reading into remaining buffer).Settled received current) (outcome : Recv) :
    (ReaderPc.received into remaining buffer outcome).Settled (received ++ outcome.bytes)
      current := by
  have hscratch : ∀ bytes, (∃ seqNum, Opens received seqNum ∧ current = [seqNum]) →
      ∃ seqNum, Opens (received ++ bytes) seqNum ∧ current = [seqNum] := by
    rintro bytes ⟨seqNum, hopens, hcurrent⟩
    exact ⟨seqNum, hopens.append bytes, hcurrent⟩
  cases into with
  | scratch left =>
      cases outcome with
      | data bytes => exact hscratch bytes h
      | interrupted => exact hscratch [] h
      | eof => exact .inr (hscratch [] h)
      | error => exact .inr (hscratch [] h)
  | _ =>
      cases outcome with
      | data bytes => exact h
      | interrupted => exact h
      | eof => exact .inl h
      | error => exact .inl h

/-! ## The invariant -/

/-- **The invariant.** -/
def Sequenced (config : ReaderConfig) (memory : ℕ → List UInt8) (k : Connection) : Prop :=
  ∃ frames received current, k.consumed = requestFormat.encodeAll frames ++ received
    ∧ k.reader.At config memory received ∧ k.reader.Settled received current
    ∧ k.answered = frames.map (fun frame => frame.header.seqNum) ++ current

section Sequenced

variable {k k' : Connection} {memory' : ℕ → List UInt8}

/-- The reader has moved within its frame, without an answer. -/
lemma Sequenced.move (h : Sequenced config memory k) (hconsumed : k'.consumed = k.consumed)
    (hanswered : k'.answered = k.answered)
    (hplace : ∀ received current, k.reader.At config memory received →
      k.reader.Settled received current →
        k'.reader.At config memory' received ∧ k'.reader.Settled received current) :
    Sequenced config memory' k' := by
  rcases h with ⟨frames, received, current, hbytes, hat, hsettled, hnumbers⟩
  rcases hplace received current hat hsettled with ⟨hat', hsettled'⟩
  exact ⟨frames, received, current, hconsumed.trans hbytes, hat', hsettled',
    hanswered.trans hnumbers⟩

lemma Sequenced.keep (h : Sequenced config memory k) (hconsumed : k'.consumed = k.consumed)
    (hanswered : k'.answered = k.answered) (hreader : k'.reader = k.reader) :
    Sequenced config memory k' := by
  refine h.move hconsumed hanswered fun received current hat hsettled => ?_
  rw [hreader]
  exact ⟨hat, hsettled⟩

lemma Sequenced.silent (h : Sequenced config memory k) (place : k.reader.silent config = some pc) :
    Sequenced config memory { k with reader := pc } := by
  by_cases hdrain : k.reader = .drain 0
  · rcases h with ⟨frames, received, current, hbytes, hat, hsettled, hnumbers⟩
    rw [hdrain] at place hat hsettled
    cases place
    rcases hat with ⟨header, hpartial⟩
    rcases hsettled with ⟨seqNum, hopens, rfl⟩
    rcases frame_of_partial hpartial with ⟨frame, rfl⟩
    have hnumber : frame.header.seqNum = seqNum :=
      hopens.seqNum_eq (List.prefix_append frame.bytes [])
    refine ⟨frames ++ [frame], [], [], ?_, rfl, rfl, ?_⟩
    · simp only [hbytes, SelfDelimiting.Format.encodeAll_append,
        SelfDelimiting.Format.encodeAll_cons, SelfDelimiting.Format.encodeAll_nil, List.append_nil]
      rfl
    · simp only [hnumbers, List.map_append, List.map_cons, List.map_nil, hnumber, List.append_nil]
  · exact h.move rfl rfl fun received current hat hsettled =>
      ⟨silent_at_same hat place hdrain, silent_settled hsettled place hdrain⟩

lemma Sequenced.recv {into : ReadInto} {remaining : ℕ} {buffer : List UInt8} {outcome : Recv}
    (h : Sequenced config memory k) (place : k.reader = .reading into remaining buffer)
    (hfits : outcome.Fits remaining) :
    Sequenced config (into.store buffer.length memory outcome) { k with
      reader := .received into remaining buffer outcome
      consumed := k.consumed ++ outcome.bytes } := by
  rcases h with ⟨frames, received, current, hbytes, hat, hsettled, hnumbers⟩
  rw [place] at hat hsettled
  refine ⟨frames, received ++ outcome.bytes, current, ?_, ?_, received_settled hsettled outcome,
    hnumbers⟩
  · simp only [hbytes, List.append_assoc]
  · refine received_at hat fun bytes heq => ?_
    rw [heq] at hfits
    exact hfits.2

/-- The frame in hand is refused. -/
lemma Sequenced.respond {header : RequestHeader} {status : Status} {unread : ℕ}
    (h : Sequenced config memory k) (place : k.reader = .respond header status unread)
    (outbox : Outbox) :
    Sequenced config memory { k with
      outbox := outbox
      reader := .responded status unread
      answered := k.answered ++ [header.seqNum] } := by
  rcases h with ⟨frames, received, current, hbytes, hat, hsettled, hnumbers⟩
  rw [place] at hat hsettled
  have hcurrent : current = [] := hsettled
  subst hcurrent
  have hopens : ∃ seqNum, Opens received seqNum ∧ [header.seqNum] = [seqNum] :=
    ⟨_, opens_of_header hat.2, rfl⟩
  refine ⟨frames, received, [header.seqNum], hbytes, responded_at hat, ?_, ?_⟩
  · simp only [ReaderPc.responded]
    split_ifs
    · exact .inr hopens
    · exact hopens
  · simp only [hnumbers, List.append_nil]

/-- The frame in hand is queued. -/
lemma Sequenced.push {header : RequestHeader} {chain : OpChain} {slot : ℕ}
    (h : Sequenced config memory k) (place : k.reader = .push header chain slot) :
    Sequenced config memory { k with
      reader := .loopHead
      answered := k.answered ++ [header.seqNum] } := by
  rcases h with ⟨frames, received, current, hbytes, hat, hsettled, hnumbers⟩
  rw [place] at hat hsettled
  have hcurrent : current = [] := hsettled
  subst hcurrent
  rcases hat with ⟨frame, rfl, rfl, -, -⟩
  refine ⟨frames ++ [frame], [], [], ?_, rfl, rfl, ?_⟩
  · simp only [hbytes, SelfDelimiting.Format.encodeAll_append, SelfDelimiting.Format.encodeAll_cons,
      SelfDelimiting.Format.encodeAll_nil, List.append_nil]
    rfl
  · simp only [hnumbers, List.map_append, List.map_cons, List.map_nil, List.append_nil]

/-- A reader that gives up may have answered its frame or not. -/
lemma Sequenced.giveUp (h : Sequenced config memory k) (hconsumed : k'.consumed = k.consumed)
    (hanswered : k'.answered = k.answered)
    (hplace : ∀ received current, k.reader.Settled received current →
      current = [] ∨ ∃ seqNum, Opens received seqNum ∧ current = [seqNum])
    (hreader : k'.reader = .returned ∨ ∃ slot, k'.reader = .giveBack slot
      ∨ k'.reader = .pushFailed slot) : Sequenced config memory' k' := by
  refine h.move hconsumed hanswered fun received current _ hsettled => ?_
  rcases hreader with hreader | ⟨slot, hreader | hreader⟩ <;>
    exact hreader ▸ ⟨trivial, hplace received current hsettled⟩

end Sequenced

/-! ## Every run -/

section Steps

variable {config : ServerConfig} {contract : Contract} {s s' : State}

/-- The reader of `c` has moved; if it received anything, into the slot it holds. -/
lemma sequenced_update (hcustody : Custody s)
    (h : ∀ c, Sequenced config.reader s.memory (s.connections c)) {c : ℕ} {k : Connection}
    {memory : ℕ → List UInt8} (hk : Sequenced config.reader memory k)
    (hmemory : ∀ slot, (s.connections c).reader.heldSlot ≠ some slot →
      memory slot = s.memory slot) (c' : ℕ) :
    Sequenced config.reader memory (Function.update s.connections c k c') := by
  by_cases hc : c' = c
  · rw [hc, Function.update_self]
    exact hk
  · rw [Function.update_of_ne hc]
    refine (h c').move rfl rfl fun received current hat hsettled => ⟨?_, hsettled⟩
    refine at_of_memory hat fun slot hslot => hmemory slot fun hheld => hc ?_
    exact hcustody.readers c' c slot hslot hheld

/-- Every step of the server keeps the answers of every connection in sequence. -/
theorem sequenced_step (hcustody : Custody s)
    (h : ∀ c, Sequenced config.reader s.memory (s.connections c))
    (hstep : Step config contract s s') :
    ∀ c, Sequenced config.reader s'.memory (s'.connections c) := by
  have hsame : ∀ {c : ℕ} {k : Connection}, Sequenced config.reader s.memory k →
      ∀ c', Sequenced config.reader s.memory (Function.update s.connections c k c') :=
    fun hk => sequenced_update hcustody h hk fun _ _ => rfl
  cases hstep with
  | @silent c pc accepted place => exact hsame ((h c).silent place)
  | @recv c into remaining buffer outcome accepted place fits =>
      refine sequenced_update hcustody h ((h c).recv place fits) fun slot hheld => ?_
      rw [place] at hheld
      cases outcome with
      | data bytes =>
          cases into with
          | payload header chain target =>
              have hne : slot ≠ target := fun heq => hheld (by rw [heq]; rfl)
              simp only [ReadInto.store, Function.update_of_ne hne]
          | _ => rfl
      | _ => rfl
  | @respond c header status unread accepted place => exact hsame ((h c).respond place _)
  | @claim c header chain slot pool accepted place claimed =>
      refine hsame ((h c).move rfl rfl fun received current hat hsettled => ?_)
      rw [place] at hat hsettled
      exact ⟨claimed_at slot hat, hsettled⟩
  | @claimClosed c header chain pool accepted place closed =>
      refine hsame ((h c).giveUp rfl rfl (fun received current hsettled => ?_) (.inl rfl))
      rw [place] at hsettled
      exact .inl hsettled
  | @jobSubmitted c header chain slot accepted place =>
      refine hsame ((h c).move rfl rfl fun received current hat hsettled => ?_)
      rw [place] at hat hsettled
      exact ⟨hat, hsettled⟩
  | @push c header chain slot queue accepted place pushed => exact hsame ((h c).push place)
  | @pushClosed c header chain slot queue accepted place closed =>
      refine hsame ((h c).giveUp rfl rfl (fun received current hsettled => ?_)
        (.inr ⟨slot, .inr rfl⟩))
      rw [place] at hsettled
      exact .inl hsettled
  | @pushFailed c slot accepted place =>
      refine hsame ((h c).giveUp ?_ ?_ (fun received current hsettled => ?_)
        (.inr ⟨slot, .inl rfl⟩))
      · simp only [Connection.jobRetired, Connection.closeOutboxIfDone_consumed]
      · simp only [Connection.jobRetired, Connection.closeOutboxIfDone_answered]
      · rw [place] at hsettled
        exact hsettled
  | @giveBack c slot pool accepted place released =>
      refine hsame ((h c).giveUp rfl rfl (fun received current hsettled => ?_) (.inl rfl))
      rw [place] at hsettled
      exact hsettled
  | @readerFinished c accepted place first =>
      refine hsame ((h c).keep ?_ ?_ ?_)
      · simp only [Connection.readerFinished, Connection.closeOutboxIfDone_consumed]
      · simp only [Connection.readerFinished, Connection.closeOutboxIfDone_answered]
      · simp only [Connection.readerFinished, Connection.closeOutboxIfDone_reader]
  | @connectionEnd c accepted done joined => exact hsame ((h c).keep rfl rfl rfl)
  | @writerPop c response outbox accepted running popped => exact hsame ((h c).keep rfl rfl rfl)
  | @writerExit c outbox accepted running drained => exact hsame ((h c).keep rfl rfl rfl)
  | @handBackPush job response next place => exact hsame ((h job.connection).keep rfl rfl rfl)
  | @handBackRetired job response next place =>
      refine hsame ((h job.connection).keep ?_ ?_ ?_)
      · simp only [Connection.jobRetired, Connection.closeOutboxIfDone_consumed]
      · simp only [Connection.jobRetired, Connection.closeOutboxIfDone_answered]
      · simp only [Connection.jobRetired, Connection.closeOutboxIfDone_reader]
  | _ => exact h

lemma sequenced_of_reachable (h : (config.system contract).Reachable s) :
    ∀ c, Sequenced config.reader s.memory (s.connections c) := by
  induction h with
  | init hstart =>
      intro c
      rw [hstart.connections]
      exact ⟨[], [], [], rfl, rfl, rfl, rfl⟩
  | step hreach hstep ih => exact sequenced_step (accounts_of_reachable hreach).custody ih hstep

/-- **A client is answered in the order of its frames.**  `later` is what has not arrived. -/
theorem answered_in_order (h : (config.system contract).Reachable s) {c : ℕ}
    {requests : List RequestFrame}
    (harrived : (s.connections c).consumed <+: requestFormat.encodeAll requests) :
    (s.connections c).answered <+: requests.map fun frame => frame.header.seqNum := by
  rcases sequenced_of_reachable h c with
    ⟨frames, received, current, hbytes, -, hsettled, hnumbers⟩
  rw [hbytes] at harrived
  rcases requestFormat.frames_of_arrived harrived with ⟨later, rfl, hreceived⟩
  rw [hnumbers, List.map_append]
  refine (List.prefix_append_right_inj _).mpr ?_
  have hcurrent : current = [] ∨ ∃ seqNum, Opens received seqNum ∧ current = [seqNum] := by
    revert hsettled
    cases hreader : (s.connections c).reader with
    | reading into remaining buffer =>
        cases into with
        | scratch left => exact .inr
        | _ => exact .inl
    | drain left => exact .inr
    | pushFailed slot => exact id
    | giveBack slot => exact id
    | returned => exact id
    | _ => exact .inl
  rcases hcurrent with rfl | ⟨seqNum, hopens, rfl⟩
  · exact List.nil_prefix
  · cases later with
    | nil =>
        rw [SelfDelimiting.Format.encodeAll_nil, List.prefix_nil] at hreceived
        exact absurd hreceived hopens.ne_nil
    | cons frame later =>
        have hnumber : frame.header.seqNum = seqNum := hopens.seqNum_eq hreceived
        rw [List.map_cons, hnumber]
        exact ⟨_, rfl⟩

/-- **No frame is answered twice**, if no two have the same number. -/
theorem popped_nodup (h : (config.system contract).Reachable s) {c : ℕ}
    {requests : List RequestFrame}
    (harrived : (s.connections c).consumed <+: requestFormat.encodeAll requests)
    (hnodup : (requests.map fun frame => frame.header.seqNum).Nodup) :
    ((s.connections c).popped.map Response.seqNum).Nodup
      ∧ ∀ response ∈ (s.connections c).popped,
        response.seqNum ∈ requests.map fun frame => frame.header.seqNum := by
  have hanswered := answered_in_order h harrived
  have hle : ∀ q, ((s.connections c).popped.map Response.seqNum).count q
      ≤ (s.connections c).answered.count q := by
    intro q
    have hledger := ((accounts_of_reachable h).ledger c).answered q
    omega
  constructor
  · refine List.nodup_iff_count_le_one.mpr fun q => (hle q).trans ?_
    exact List.nodup_iff_count_le_one.mp (hnodup.sublist hanswered.sublist) q
  · intro response hresponse
    have hcount := List.count_pos_iff.mpr (List.mem_map_of_mem (f := Response.seqNum) hresponse)
    exact hanswered.subset (List.count_pos_iff.mp (hcount.trans_le (hle _)))

end Steps

end Imgjit
