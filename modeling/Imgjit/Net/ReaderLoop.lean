import Imgjit.Net.ExactTransfer
import Imgjit.Net.Reader

/-!
# One connection, read to its end

`reader_loop` run on one byte stream, every claim and push succeeding.  The loop never sees a frame;
it sees what `recv` returns, decides from a header how much is to come, and has to know for every
frame that it refuses how many bytes to skip.  A mistake of one byte would make it read pixels as
headers from there on.

**The run.**  `Session.step` and `Session.run` are the automaton of `Reader` driven by a wire.  The
wire decides how the bytes are segmented and where calls are interrupted.  `ReaderEvent` is what an
observer sees: where each header read starts, error responses, drains, queued frames with the
payload found in their slot.

**One `read_exact`, one `drain_exactly`.**  `Session.reaches_readExact` and
`Session.reaches_drainExactly`: the steps of the automaton inside one of these calls come to what
`readExact` and `drainExactly` compute, on every wire.  Everything about segmentation is in these
two.

**The specification.**  `verdict` judges a frame by its own bytes alone, and `streamEvents` puts the
events of the frames together.

**The whole connection.**  `readerLoop_frames`: the run of a wire that carries frames laid end to
end produces exactly the specified events and returns.  The example has a frame that is queued, one
that is drained and one that ends the connection.
-/

namespace Imgjit

/-! ## The run -/

/-- What an observer of the loop sees. -/
inductive ReaderEvent where
  /-- A header read starts, `offset` bytes into the stream. -/
  | header (offset : ℕ)
  | response (seqNum : UInt32) (status : Status)
  /-- `drain_exactly` is called for `count` bytes. -/
  | discard (count : ℕ)
  | queued (frame : QueuedFrame) (payload : List UInt8)
  deriving DecidableEq, Repr

/-- A reader on its connection, and what it has done so far. -/
structure Session where
  pc : ReaderPc
  wire : Wire
  memory : ℕ → List UInt8
  /-- Bytes read off the connection so far. -/
  consumed : ℕ
  /-- Slots claimed so far. -/
  claims : ℕ

/-- What a session depends on: `slots k` is the slot the pool hands out at the `k`-th claim. -/
structure SessionConfig extends ReaderConfig where
  connection : ℕ
  slots : ℕ → ℕ

namespace Session

/-- How many bytes a `recv` took off the stream. -/
def receivedCount : Recv → ℕ
  | .data bytes => bytes.length
  | _ => 0

/-- The reader's next step.  A session that has returned stays where it is. -/
def step (config : SessionConfig) (s : Session) : List ReaderEvent × Session :=
  match s.pc with
  | .loopHead => ([.header s.consumed], { s with pc := .reading .header kRequestHeaderBytes [] })
  | .reading into remaining buffer =>
      if remaining = 0 then ([], { s with pc := .readDone config.toReaderConfig into buffer })
      else
        let (outcome, wire) := recv s.wire remaining
        ([], { s with
          pc := .received into remaining buffer outcome
          wire := wire
          memory := into.store buffer.length s.memory outcome
          consumed := s.consumed + receivedCount outcome })
  | .respond header status unread =>
      (.response header.seqNum status ::
          (if dispositionFor status = .kClose then [] else [.discard unread]),
        { s with pc := .responded status unread })
  | .drain left => ([], { s with pc := .drained left })
  | .claim header chain =>
      ([], { s with pc := .claimed header chain (config.slots s.claims), claims := s.claims + 1 })
  | .submit header chain slot => ([], { s with pc := .push header chain slot })
  | .push header chain slot =>
      ([.queued (queuedFrame config.connection header chain slot)
          ((s.memory slot).take header.payloadLen.toNat)],
        { s with pc := .loopHead })
  | .pushFailed slot => ([], { s with pc := .giveBack slot })
  | .giveBack _ => ([], { s with pc := .returned })
  | .returned => ([], s)

/-- So many steps, with the events of each. -/
def run (config : SessionConfig) : ℕ → Session → List ReaderEvent × Session
  | 0, s => ([], s)
  | fuel + 1, s =>
      let (events, s') := step config s
      let (later, final) := run config fuel s'
      (events ++ later, final)

/-- A fresh connection. -/
def start (wire : Wire) (memory : ℕ → List UInt8) : Session where
  pc := .loopHead
  wire := wire
  memory := memory
  consumed := 0
  claims := 0

/-- `s'` is reached from `s` with `events` on the way. -/
def Reaches (config : SessionConfig) (s : Session) (events : List ReaderEvent) (s' : Session) :
    Prop :=
  ∃ fuel, run config fuel s = (events, s')

variable {config : SessionConfig} {s s' s'' : Session} {events events' : List ReaderEvent}

lemma Reaches.refl (config : SessionConfig) (s : Session) : Reaches config s [] s := ⟨0, rfl⟩

lemma Reaches.head (hstep : step config s = (events, s')) (h : Reaches config s' events' s'') :
    Reaches config s (events ++ events') s'' := by
  obtain ⟨fuel, hfuel⟩ := h
  exact ⟨fuel + 1, by simp only [run, hstep, hfuel]⟩

/-- A silent first step. -/
lemma Reaches.silent (hstep : step config s = ([], s')) (h : Reaches config s' events s'') :
    Reaches config s events s'' := h.head hstep

lemma Reaches.trans (h : Reaches config s events s') (h' : Reaches config s' events' s'') :
    Reaches config s (events ++ events') s'' := by
  obtain ⟨fuel, hfuel⟩ := h
  induction fuel generalizing s events with
  | zero =>
      cases hfuel
      exact h'
  | succ fuel ih =>
      simp only [run] at hfuel
      cases hfuel
      rw [List.append_assoc]
      exact Reaches.head rfl (ih rfl)

/-- Once returned, more fuel changes nothing. -/
lemma run_returned (h : s.pc = .returned) : ∀ fuel, run config fuel s = ([], s)
  | 0 => rfl
  | fuel + 1 => by
      have hstep : step config s = ([], s) := by simp only [step, h]
      simp only [run, hstep, run_returned h fuel, List.nil_append]

lemma Reaches.enough (h : Reaches config s events s') (hpc : s'.pc = .returned) :
    ∃ fuel, ∀ more, run config (fuel + more) s = (events, s') := by
  obtain ⟨fuel, hfuel⟩ := h
  refine ⟨fuel, fun more => ?_⟩
  induction fuel generalizing s events with
  | zero =>
      cases hfuel
      rw [Nat.zero_add, run_returned hpc]
  | succ fuel ih =>
      simp only [run] at hfuel
      cases hfuel
      rw [Nat.add_right_comm]
      simp only [run, ih rfl]

end Session

namespace ReaderPc

/-- Where the loop goes on when `read_exact` returns. -/
def afterRead (config : ReaderConfig) (into : ReadInto) : IoResult × List UInt8 × Wire → ReaderPc
  | (.kOk, buffer, _) => readDone config into buffer
  | (_, _, _) => readFailed into

/-- Where the loop goes on when `drain_exactly` returns. -/
def afterDrain : IoResult → ReaderPc
  | .kOk => loopHead
  | _ => returned

lemma afterRead_failed {config : ReaderConfig} {into : ReadInto}
    {result : IoResult × List UInt8 × Wire} (h : result.1 ≠ .kOk) :
    afterRead config into result = readFailed into := by
  rcases result with ⟨outcome, buffer, wire⟩
  cases outcome with
  | kOk => exact absurd rfl h
  | kEof => rfl
  | kError => rfl

end ReaderPc

namespace Session

variable {config : SessionConfig} {s s' : Session}

/-! ## One `read_exact`, one `drain_exactly` -/

lemma step_recv {into : ReadInto} {remaining : ℕ} {buffer : List UInt8} {outcome : Recv}
    {wire : Wire} (hpc : s.pc = .reading into remaining buffer) (hpos : remaining ≠ 0)
    (hrecv : recv s.wire remaining = (outcome, wire)) :
    step config s = ([], { s with
      pc := .received into remaining buffer outcome
      wire := wire
      memory := into.store buffer.length s.memory outcome
      consumed := s.consumed + receivedCount outcome }) := by
  simp only [step, hpc, if_neg hpos, hrecv]

/-- A piece that fits behind the cursor leaves every slot its size. -/
lemma length_store {into : ReadInto} {memory : ℕ → List UInt8} {cursor : ℕ} {got : List UInt8}
    (hroom : ∀ header chain slot, into = .payload header chain slot →
      cursor + got.length ≤ (memory slot).length) (slot : ℕ) :
    (into.store cursor memory (.data got) slot).length = (memory slot).length := by
  simp only [ReadInto.store]
  split
  · rename_i header chain slot'
    have hfits := hroom header chain slot' rfl
    by_cases h : slot = slot'
    · subst h
      rw [Function.update_self, length_writeAt hfits]
    · rw [Function.update_of_ne h]
  · rfl

/-- **The steps of a `read_exact` compute `readExact`**, on every wire.  The session goes on with
its result and its wire, has counted its bytes, and holds them in the payload's slot. -/
theorem reaches_readExact (config : SessionConfig) {into : ReadInto} {remaining : ℕ}
    {buffer : List UInt8} {s : Session} (hpc : s.pc = .reading into remaining buffer)
    (hslot : ∀ header chain slot, into = .payload header chain slot →
      (s.memory slot).take buffer.length = buffer
        ∧ buffer.length + remaining ≤ (s.memory slot).length) :
    ∃ bytes memory, (readExact s.wire remaining buffer).2.1 = buffer ++ bytes
      ∧ Reaches config s []
          { s with
            pc := .afterRead config.toReaderConfig into (readExact s.wire remaining buffer)
            wire := (readExact s.wire remaining buffer).2.2
            memory := memory
            consumed := s.consumed + bytes.length }
      ∧ (∀ slot, (memory slot).length = (s.memory slot).length)
      ∧ ∀ header chain slot, into = .payload header chain slot →
        (memory slot).take (buffer ++ bytes).length = buffer ++ bytes := by
  induction hsize : s.wire.size using Nat.strong_induction_on generalizing s remaining buffer with
  | _ size ih =>
  by_cases hzero : remaining = 0
  · have hstep : step config s
        = ([], { s with pc := .readDone config.toReaderConfig into buffer }) := by
      simp only [step, hpc, if_pos hzero]
    refine ⟨[], s.memory, ?_, ?_, fun _ => rfl, fun header chain slot hinto => ?_⟩
    · rw [readExact, dif_pos hzero, List.append_nil]
    · rw [readExact, dif_pos hzero]
      exact Reaches.silent hstep (Reaches.refl config _)
    · rw [List.append_nil]
      exact (hslot header chain slot hinto).1
  · rcases hrecv : recv s.wire remaining with ⟨outcome, wire'⟩
    have hstep : step config s = _ := step_recv hpc hzero hrecv
    rw [readExact, dif_neg hzero, hrecv]
    cases outcome with
    | eof =>
        exact ⟨[], s.memory, (List.append_nil _).symm,
          Reaches.silent hstep (Reaches.refl config _), fun _ => rfl,
          fun header chain slot hinto => by
            rw [List.append_nil]
            exact (hslot header chain slot hinto).1⟩
    | error =>
        exact ⟨[], s.memory, (List.append_nil _).symm,
          Reaches.silent hstep (Reaches.refl config _), fun _ => rfl,
          fun header chain slot hinto => by
            rw [List.append_nil]
            exact (hslot header chain slot hinto).1⟩
    | interrupted =>
        have hsmaller := recv_size_lt hzero hrecv (by simp)
        obtain ⟨bytes, memory, hbytes, hreach, hrest⟩ := ih wire'.size (hsize ▸ hsmaller)
          (s := { s with
            pc := .reading into remaining buffer
            wire := wire' }) rfl hslot rfl
        exact ⟨bytes, memory, hbytes, Reaches.silent hstep hreach, hrest⟩
    | data got =>
        -- The piece goes to the cursor; the rest of the call is a shorter call of the same kind.
        have hsmaller := recv_size_lt hzero hrecv (by simp)
        have hle : got.length ≤ remaining := recv_length_le hrecv
        let memory' := into.store buffer.length s.memory (.data got)
        have hlength : ∀ slot, (memory' slot).length = (s.memory slot).length := by
          refine length_store fun header chain slot hinto => ?_
          have hroom := (hslot header chain slot hinto).2
          omega
        obtain ⟨bytes, memory, hbytes, hreach, hlengths, hfilled⟩ :=
          ih wire'.size (hsize ▸ hsmaller) (s := { s with
              pc := .reading into (remaining - got.length) (buffer ++ got)
              wire := wire'
              memory := memory'
              consumed := s.consumed + got.length }) rfl (by
            rintro header chain slot rfl
            obtain ⟨hgot, hroom⟩ := hslot header chain slot rfl
            refine ⟨?_, by rw [hlength, List.length_append]; omega⟩
            simp only [memory', ReadInto.store, Function.update_self]
            exact take_writeAt got hgot) rfl
        refine ⟨got ++ bytes, memory, by rw [hbytes, List.append_assoc], ?_,
          fun slot => (hlengths slot).trans (hlength slot), fun header chain slot hinto => ?_⟩
        · rw [List.length_append, ← Nat.add_assoc]
          exact Reaches.silent hstep hreach
        · rw [← List.append_assoc]
          exact hfilled header chain slot hinto

/-- **The chunks of a `drain_exactly` compute `drainExactly`**, on every wire.  One that succeeds
has taken as many bytes as it was asked for. -/
theorem reaches_drainExactly (config : SessionConfig) {left : ℕ} {s : Session}
    (hpc : s.pc = .drain left) :
    ∃ count memory, Reaches config s []
        { s with
          pc := .afterDrain (drainExactly s.wire left).1
          wire := (drainExactly s.wire left).2
          memory := memory
          consumed := s.consumed + count }
      ∧ ((drainExactly s.wire left).1 = .kOk → count = left)
      ∧ ∀ slot, (memory slot).length = (s.memory slot).length := by
  induction left using Nat.strong_induction_on generalizing s with
  | _ left ih =>
  have hstep : step config s = ([], { s with pc := .drained left }) := by
    simp only [step, hpc]
  rw [drainExactly]
  by_cases hzero : left = 0
  · rw [dif_pos hzero]
    refine ⟨0, s.memory, ?_, fun _ => hzero.symm, fun _ => rfl⟩
    refine Reaches.silent hstep ?_
    rw [ReaderPc.drained, if_pos hzero]
    exact Reaches.refl config _
  · -- One chunk of at most 4096 bytes, then the loop test again.
    have hless : left - min left kScratchBytes < left := by
      simp only [kScratchBytes]
      omega
    rw [dif_neg hzero]
    have hreading : ReaderPc.drained left
        = .reading (.scratch (left - min left kScratchBytes)) (min left kScratchBytes) [] := by
      rw [ReaderPc.drained, if_neg hzero]
    obtain ⟨bytes, memory, hbytes, hreach, hlengths, -⟩ := reaches_readExact config
      (s := { s with pc := .drained left }) hreading (fun _ _ _ hinto => by cases hinto)
    rcases hresult : readExact s.wire (min left kScratchBytes) [] with ⟨result, buffer, wire'⟩
    have hlength : result = .kOk → buffer.length = min left kScratchBytes := by
      rintro rfl
      have hlength := readExact_length (congrArg Prod.fst hresult)
      rwa [hresult, List.length_nil, Nat.zero_add] at hlength
    simp only [hresult, List.nil_append] at hbytes hreach ⊢
    obtain rfl := hbytes
    cases result with
    | kOk =>
        obtain ⟨count, memory', hreach', hcount, hlengths'⟩ := ih _ hless (s := { s with
          pc := .drain (left - min left kScratchBytes)
          wire := wire'
          memory := memory
          consumed := s.consumed + buffer.length }) rfl
        refine ⟨buffer.length + count, memory', ?_, fun hok => ?_,
          fun slot => (hlengths' slot).trans (hlengths slot)⟩
        · rw [← Nat.add_assoc]
          exact Reaches.silent hstep (hreach.trans hreach')
        · rw [hlength rfl, hcount hok]
          omega
    | kEof =>
        exact ⟨_, memory, Reaches.silent hstep hreach, (fun hok => by cases hok), hlengths⟩
    | kError =>
        exact ⟨_, memory, Reaches.silent hstep hreach, (fun hok => by cases hok), hlengths⟩

/-- A session with `rest` still to read, over slots of `size` bytes. -/
structure Facing (size : ℕ) (s : Session) (rest : List UInt8) : Prop where
  clean : s.wire.Clean
  bytes : s.wire.bytes = rest
  slots : ∀ slot, (s.memory slot).length = size

variable {size : ℕ} {rest : List UInt8}

/-- A whole `read_exact` whose bytes are on the way gets exactly these. -/
lemma Facing.read (config : SessionConfig) (into : ReadInto) {wanted : List UInt8}
    (h : Facing size s (wanted ++ rest))
    (hpc : s.pc = .reading into wanted.length [])
    (hroom : ∀ header chain slot, into = .payload header chain slot → wanted.length ≤ size) :
    ∃ s', Reaches config s [] s' ∧ s'.pc = .readDone config.toReaderConfig into wanted
      ∧ Facing size s' rest ∧ s'.consumed = s.consumed + wanted.length ∧ s'.claims = s.claims
      ∧ ∀ header chain slot, into = .payload header chain slot →
        (s'.memory slot).take wanted.length = wanted := by
  obtain ⟨wire', hclean, hrest, hread⟩ := readExact_delivers h.clean h.bytes []
  obtain ⟨bytes, memory, hbytes, hreach, hlengths, hfilled⟩ :=
    reaches_readExact config hpc fun header chain slot hinto =>
      ⟨rfl, by simpa [h.slots slot] using hroom header chain slot hinto⟩
  simp only [hread, List.nil_append] at hbytes hreach hfilled
  obtain rfl := hbytes
  exact ⟨_, hreach, rfl, ⟨hclean, hrest, fun slot => (hlengths slot).trans (h.slots slot)⟩, rfl,
    rfl, hfilled⟩

/-- A step that touches nothing but the place in the loop. -/
lemma Facing.jump (h : Facing size s rest) (pc : ReaderPc) : Facing size { s with pc := pc } rest :=
  ⟨h.clean, h.bytes, h.slots⟩

/-- **`drain_exactly` skips exactly what it is asked to**, in chunks of its scratch buffer. -/
theorem Facing.drain (config : SessionConfig) {skipped : List UInt8}
    (h : Facing size s (skipped ++ rest)) (hpc : s.pc = .drain skipped.length) :
    ∃ s', Reaches config s [] s' ∧ s'.pc = .loopHead ∧ Facing size s' rest
      ∧ s'.consumed = s.consumed + skipped.length ∧ s'.claims = s.claims := by
  have henough : skipped.length ≤ s.wire.delivered.length := by
    rw [h.clean.delivered, h.bytes, List.length_append]
    exact Nat.le_add_right _ _
  obtain ⟨wire', hdrain, htaken⟩ := drainExactly_enough henough
  have hclean := drainExactly_clean h.clean skipped.length
  obtain ⟨count, memory, hreach, hcount, hlengths⟩ := reaches_drainExactly config hpc
  simp only [hdrain] at hreach hcount hclean
  obtain rfl := hcount trivial
  refine ⟨_, hreach, rfl, ⟨hclean, ?_, fun slot => (hlengths slot).trans (h.slots slot)⟩, rfl, rfl⟩
  rw [htaken.bytes, h.bytes, List.drop_left]

end Session

/-! ## The specification -/

/-- What a frame deserves, judged by its own bytes. -/
inductive Verdict where
  | accepted (chain : OpChain)
  /-- An error response, with `unread` bytes of the frame behind the point of detection. -/
  | rejected (status : Status) (unread : ℕ)
  deriving DecidableEq, Repr

/-- The header is judged first; the chain only counts once the header is in order. -/
def verdict (config : ReaderConfig) (frame : RequestFrame) : Verdict :=
  match validateRequestHeader frame.header config.limits with
  | .kOk =>
      match config.parse frame.chain with
      | some chain => .accepted chain
      | none => .rejected .kBadChain frame.payload.length
  | status => .rejected status (frame.chain.length + frame.payload.length)

/-- **The specification of `reader_loop`**: every header read starts at a frame boundary; an
accepted frame is queued with its own chain and payload; a rejected one gets one error response and
is skipped to its end, or ends the connection. -/
def streamEvents (config : SessionConfig) :
    (offset claims : ℕ) → List RequestFrame → List ReaderEvent
  | offset, _, [] => [.header offset]
  | offset, claims, frame :: frames =>
      .header offset ::
        match verdict config.toReaderConfig frame with
        | .accepted chain =>
            .queued (queuedFrame config.connection frame.header chain (config.slots claims))
                frame.payload ::
              streamEvents config (offset + frame.bytes.length) (claims + 1) frames
        | .rejected status unread =>
            .response frame.header.seqNum status ::
              if dispositionFor status = .kClose then []
              else
                .discard unread ::
                  streamEvents config (offset + frame.bytes.length) claims frames

/-! ## What validation promises the reader -/

/-- An accepted frame fits the slot. -/
lemma payload_le_of_valid {header : RequestHeader} {limits : Limits}
    (h : validateRequestHeader header limits = .kOk) :
    header.payloadLen.toNat ≤ limits.maxPayloadBytes.toNat := by
  simp only [validateRequestHeader] at h
  split_ifs at h with _ _ hlarge
  rw [gt_iff_lt, UInt32.lt_iff_toNat_lt] at hlarge
  omega

/-- What is drained is bounded: a draining status is only reached behind the payload cap. -/
lemma payload_le_of_draining {header : RequestHeader} {limits : Limits}
    (h : dispositionFor (validateRequestHeader header limits) ≠ .kClose) :
    header.payloadLen.toNat ≤ limits.maxPayloadBytes.toNat := by
  simp only [validateRequestHeader] at h
  split_ifs at h with _ _ hlarge <;> simp only [dispositionFor, ne_eq, not_true_eq_false] at h <;>
    rw [gt_iff_lt, UInt32.lt_iff_toNat_lt] at hlarge <;> omega

/-- Where a rejection comes from. -/
lemma verdict_rejected {config : ReaderConfig} {frame : RequestFrame} {status : Status}
    {unread : ℕ} (h : verdict config frame = .rejected status unread) :
    (validateRequestHeader frame.header config.limits = .kOk ∧ config.parse frame.chain = none
        ∧ status = .kBadChain ∧ unread = frame.payload.length)
      ∨ (validateRequestHeader frame.header config.limits ≠ .kOk
        ∧ status = validateRequestHeader frame.header config.limits
        ∧ unread = frame.chain.length + frame.payload.length) := by
  unfold verdict at h
  split at h
  · rename_i hvalid
    split at h
    · cases h
    · rename_i hparse
      cases h
      exact .inl ⟨hvalid, hparse, rfl, rfl⟩
  · rename_i hvalid
    cases h
    exact .inr ⟨hvalid, rfl, rfl⟩

lemma verdict_accepted {config : ReaderConfig} {frame : RequestFrame} {chain : OpChain}
    (h : verdict config frame = .accepted chain) :
    validateRequestHeader frame.header config.limits = .kOk
      ∧ config.parse frame.chain = some chain := by
  unfold verdict at h
  split at h
  · rename_i hvalid
    split at h
    · rename_i hparse
      cases h
      exact ⟨hvalid, hparse⟩
    · cases h
  · cases h

/-- **No frame makes the server discard more than a payload and a chain's worth of bytes.** -/
theorem unread_le {config : ReaderConfig} {frame : RequestFrame} {status : Status} {unread : ℕ}
    (h : verdict config frame = .rejected status unread) (hstatus : dispositionFor status ≠ .kClose) :
    unread ≤ config.limits.maxPayloadBytes.toNat + 65535 := by
  have hchain : frame.chain.length ≤ 65535 := by
    have := frame.header.chainLen.toNat_lt
    rw [frame.chain_length]
    omega
  rcases verdict_rejected h with ⟨hvalid, -, -, rfl⟩ | ⟨-, rfl, rfl⟩
  · have := payload_le_of_valid hvalid
    rw [frame.payload_length]
    omega
  · have := payload_le_of_draining hstatus
    rw [frame.payload_length]
    omega

lemma discard_le {config : SessionConfig} {count : ℕ} :
    ∀ {offset claims : ℕ} {frames : List RequestFrame},
      .discard count ∈ streamEvents config offset claims frames →
        count ≤ config.limits.maxPayloadBytes.toNat + 65535
  | _, _, [], h => by simp [streamEvents] at h
  | offset, claims, frame :: frames, h => by
      simp only [streamEvents, List.mem_cons, reduceCtorEq, false_or] at h
      split at h
      · simp only [List.mem_cons, reduceCtorEq, false_or] at h
        exact discard_le h
      · rename_i status unread hverdict
        simp only [List.mem_cons, reduceCtorEq, false_or] at h
        split_ifs at h with hstatus
        · cases h
        · rcases List.mem_cons.mp h with h | h
          · cases h
            exact unread_le hverdict hstatus
          · exact discard_le h

/-! ## One frame -/

namespace Session

variable (config : SessionConfig) {s : Session} {size : ℕ} {rest : List UInt8}

/-- An error response, and then the rest of the frame. -/
lemma Facing.respond {header : RequestHeader} {status : Status} {skipped : List UInt8}
    (h : Facing size s (skipped ++ rest)) (hpc : s.pc = .respond header status skipped.length) :
    if dispositionFor status = .kClose then
      ∃ s', Reaches config s [.response header.seqNum status] s' ∧ s'.pc = .returned
    else
      ∃ s', Reaches config s [.response header.seqNum status, .discard skipped.length] s'
        ∧ s'.pc = .loopHead ∧ Facing size s' rest ∧ s'.consumed = s.consumed + skipped.length
        ∧ s'.claims = s.claims := by
  split_ifs with hstatus
  · have hstep : step config s = ([.response header.seqNum status],
        { s with pc := .responded status skipped.length }) := by
      simp only [step, hpc, if_pos hstatus]
    refine ⟨_, Reaches.head hstep (Reaches.refl config _), ?_⟩
    simp only [ReaderPc.responded, if_pos hstatus]
  · have hstep : step config s = ([.response header.seqNum status, .discard skipped.length],
        { s with pc := .responded status skipped.length }) := by
      simp only [step, hpc, if_neg hstatus]
    obtain ⟨s', hreach, hrest⟩ := (h.jump (.responded status skipped.length)).drain config
      (by simp only [ReaderPc.responded, if_neg hstatus])
    exact ⟨s', Reaches.head hstep hreach, hrest⟩

/-- The header of the next frame. -/
lemma Facing.header {frame : RequestFrame} (h : Facing size s (frame.bytes ++ rest))
    (hpc : s.pc = .loopHead) :
    ∃ s', Reaches config s [.header s.consumed] s'
      ∧ s'.pc = .headerRead config.toReaderConfig frame.head
      ∧ Facing size s' (frame.chain ++ (frame.payload ++ rest))
      ∧ s'.consumed = s.consumed + kRequestHeaderBytes ∧ s'.claims = s.claims := by
  have hstep : step config s
      = ([.header s.consumed], { s with pc := .reading .header kRequestHeaderBytes [] }) := by
    simp only [step, hpc]
  have hfacing := h.jump (.reading .header kRequestHeaderBytes [])
  rw [RequestFrame.bytes, List.append_assoc, List.append_assoc] at hfacing
  obtain ⟨s', hreach, hpc', hfacing', hconsumed, hclaims, -⟩ :=
    hfacing.read config .header (by rw [frame.head_length])
      (fun _ _ _ hinto => by cases hinto)
  exact ⟨s', Reaches.head hstep hreach, hpc', hfacing', by rw [hconsumed, frame.head_length],
    hclaims⟩

/-- The chain bytes behind a header that is in order. -/
lemma Facing.chain {frame : RequestFrame}
    (h : Facing size s (frame.chain ++ (frame.payload ++ rest)))
    (hpc : s.pc = .headerRead config.toReaderConfig frame.head)
    (hvalid : validateRequestHeader frame.header config.limits = .kOk) :
    ∃ s', Reaches config s [] s'
      ∧ s'.pc = .chainRead config.toReaderConfig frame.header frame.chain
      ∧ Facing size s' (frame.payload ++ rest)
      ∧ s'.consumed = s.consumed + frame.chain.length ∧ s'.claims = s.claims := by
  have hpc' : s.pc = .reading (.chain frame.header) frame.chain.length [] := by
    rw [hpc, ReaderPc.headerRead, frame.decoded, frame.chain_length]
    simp only [hvalid]
  obtain ⟨s', hreach, hpc', hfacing, hconsumed, hclaims, -⟩ :=
    h.read config (.chain frame.header) hpc' (fun _ _ _ hinto => by cases hinto)
  exact ⟨s', hreach, hpc', hfacing, hconsumed, hclaims⟩

/-- The payload: claimed, received into its slot, queued. -/
lemma Facing.payload {frame : RequestFrame} {chain : OpChain}
    (h : Facing size s (frame.payload ++ rest)) (hpc : s.pc = .claim frame.header chain)
    (hroom : frame.payload.length ≤ size) :
    ∃ s', Reaches config s
        [.queued (queuedFrame config.connection frame.header chain (config.slots s.claims))
          frame.payload] s'
      ∧ s'.pc = .loopHead ∧ Facing size s' rest
      ∧ s'.consumed = s.consumed + frame.payload.length ∧ s'.claims = s.claims + 1 := by
  let slot := config.slots s.claims
  have hclaim : step config s = ([], { s with
      pc := .claimed frame.header chain slot
      claims := s.claims + 1 }) := by
    simp only [step, hpc, slot]
  have hfacing : Facing size { s with
      pc := .claimed frame.header chain slot
      claims := s.claims + 1 } (frame.payload ++ rest) := ⟨h.clean, h.bytes, h.slots⟩
  obtain ⟨s₁, hreach, hpc₁, hfacing₁, hconsumed, hclaims, hfilled⟩ :=
    hfacing.read config (.payload frame.header chain slot)
      (by rw [frame.payload_length]; rfl) (fun _ _ _ _ => hroom)
  have hsubmit : step config s₁ = ([], { s₁ with pc := .push frame.header chain slot }) := by
    simp only [step, hpc₁, ReaderPc.readDone]
  have hpush : step config { s₁ with pc := .push frame.header chain slot }
      = ([.queued (queuedFrame config.connection frame.header chain slot) frame.payload],
        { s₁ with pc := .loopHead }) := by
    simp only [step, ← frame.payload_length, hfilled _ _ _ rfl]
  exact ⟨_, Reaches.silent hclaim (hreach.trans (Reaches.silent hsubmit
    (Reaches.head hpush (Reaches.refl config _)))), rfl, hfacing₁.jump _, hconsumed, hclaims⟩

/-- At the end of the stream a read fails, after any number of interrupted calls. -/
lemma Facing.eof {into : ReadInto} {remaining : ℕ} (h : Facing size s [])
    (hpc : s.pc = .reading into (remaining + 1) [])
    (hinto : ∀ header chain slot, into ≠ .payload header chain slot) :
    ∃ s', Reaches config s [] s' ∧ s'.pc = .readFailed into := by
  have hshort : s.wire.delivered.length < remaining + 1 := by
    rw [h.clean.delivered, h.bytes, List.length_nil]
    exact Nat.succ_pos remaining
  obtain ⟨bytes, memory, -, hreach, -⟩ := reaches_readExact config hpc
    fun header chain slot heq => absurd heq (hinto header chain slot)
  exact ⟨_, hreach, ReaderPc.afterRead_failed (readExact_short hshort [])⟩

end Session

/-! ## The whole connection -/

open Session in
/-- The frames that are still to come, from a frame boundary on. -/
lemma reaches_streamEvents (config : SessionConfig) {size : ℕ}
    (hsize : size = config.limits.maxPayloadBytes.toNat) :
    ∀ (frames : List RequestFrame) {s : Session}, s.pc = .loopHead →
      Facing size s (requestFormat.encodeAll frames) →
      ∃ s', Reaches config s (streamEvents config s.consumed s.claims frames) s'
        ∧ s'.pc = .returned
  | [], s, hpc, h => by
      have hstep : step config s
          = ([.header s.consumed], { s with pc := .reading .header kRequestHeaderBytes [] }) := by
        simp only [step, hpc]
      obtain ⟨s', hreach, hpc'⟩ := (h.jump (.reading .header kRequestHeaderBytes [])).eof config
        rfl (fun _ _ _ hinto => by cases hinto)
      exact ⟨s', Reaches.head hstep hreach, hpc'⟩
  | frame :: frames, s, hpc, h => by
      obtain ⟨s₁, hheader, hpc₁, hfacing₁, hconsumed₁, hclaims₁⟩ := h.header config hpc
      rw [streamEvents]
      cases hverdict : verdict config.toReaderConfig frame with
      | accepted chain =>
          obtain ⟨hvalid, hparse⟩ := verdict_accepted hverdict
          obtain ⟨s₂, hchain, hpc₂, hfacing₂, hconsumed₂, hclaims₂⟩ :=
            hfacing₁.chain config hpc₁ hvalid
          have hroom : frame.payload.length ≤ size := by
            rw [hsize, frame.payload_length]
            exact payload_le_of_valid hvalid
          obtain ⟨s₃, hpayload, hpc₃, hfacing₃, hconsumed₃, hclaims₃⟩ := hfacing₂.payload
            config (by rw [hpc₂, ReaderPc.chainRead, hparse]) hroom
          obtain ⟨s', hlater, hpc'⟩ := reaches_streamEvents config hsize frames hpc₃ hfacing₃
          have hoffset : s₃.consumed = s.consumed + frame.bytes.length := by
            rw [hconsumed₃, hconsumed₂, hconsumed₁, frame.length_bytes, frame.chain_length,
              frame.payload_length]
            omega
          have hcount : s₃.claims = s.claims + 1 := by rw [hclaims₃, hclaims₂, hclaims₁]
          rw [hoffset, hcount] at hlater
          rw [hclaims₂, hclaims₁] at hpayload
          exact ⟨s', (hheader.trans hchain).trans (hpayload.trans hlater), hpc'⟩
      | rejected status unread =>
          -- Both kinds of rejection leave a tail of the frame unread; they differ in its length.
          obtain ⟨s₂, skipped, hreach₂, hpc₂, hfacing₂, hclaims₂, hunread, hoffset⟩ :
              ∃ s₂, ∃ skipped : List UInt8, Reaches config s [.header s.consumed] s₂
                ∧ s₂.pc = .respond frame.header status skipped.length
                ∧ Facing size s₂ (skipped ++ requestFormat.encodeAll frames)
                ∧ s₂.claims = s.claims ∧ unread = skipped.length
                ∧ s₂.consumed + skipped.length = s.consumed + frame.bytes.length := by
            rcases verdict_rejected hverdict with ⟨hvalid, hparse, rfl, rfl⟩ | ⟨hvalid, rfl, rfl⟩
            · obtain ⟨s₂, hchain, hpc₂, hfacing₂, hconsumed₂, hclaims₂⟩ :=
                hfacing₁.chain config hpc₁ hvalid
              refine ⟨s₂, frame.payload, by simpa using hheader.trans hchain, ?_, hfacing₂,
                hclaims₂.trans hclaims₁, rfl, ?_⟩
              · rw [hpc₂, ReaderPc.chainRead, hparse, frame.payload_length]
              · rw [hconsumed₂, hconsumed₁, frame.length_bytes, frame.chain_length,
                  frame.payload_length]
                omega
            · refine ⟨s₁, frame.chain ++ frame.payload, hheader, ?_, ?_, hclaims₁, ?_, ?_⟩
              · rw [hpc₁, ReaderPc.headerRead, frame.decoded, List.length_append,
                  frame.chain_length, frame.payload_length]
                simp only
              · rw [List.append_assoc]
                exact hfacing₁
              · rw [List.length_append]
              · rw [hconsumed₁, frame.length_bytes, List.length_append, frame.chain_length,
                  frame.payload_length]
                omega
          have hrespond := hfacing₂.respond config hpc₂
          simp only
          split_ifs at hrespond ⊢ with hstatus
          · obtain ⟨s', hlater, hpc'⟩ := hrespond
            exact ⟨s', hreach₂.trans hlater, hpc'⟩
          · obtain ⟨s₃, hskip, hpc₃, hfacing₃, hconsumed₃, hclaims₃⟩ := hrespond
            obtain ⟨s', hlater, hpc'⟩ := reaches_streamEvents config hsize frames hpc₃ hfacing₃
            rw [hconsumed₃, hoffset, hclaims₃, hclaims₂] at hlater
            rw [hunread]
            exact ⟨s', hreach₂.trans (hskip.trans hlater), hpc'⟩

/-- **`reader_loop` handles a stream of frames exactly as specified.**  For every sequence of frames
laid end to end, however the bytes are segmented and interrupted, the run ends, its events are those
of `streamEvents`, and no single discard exceeds a payload and a chain's worth of bytes. -/
theorem readerLoop_frames (config : SessionConfig) (frames : List RequestFrame) (wire : Wire)
    (memory : ℕ → List UInt8) (hclean : wire.Clean)
    (hbytes : wire.bytes = requestFormat.encodeAll frames)
    (hmemory : ∀ slot, (memory slot).length = config.limits.maxPayloadBytes.toNat) :
    (∃ final : Session, final.pc = .returned ∧ ∃ fuel, ∀ more,
        (Session.start wire memory).run config (fuel + more)
          = (streamEvents config 0 0 frames, final))
      ∧ ∀ count, .discard count ∈ streamEvents config 0 0 frames →
          count ≤ config.limits.maxPayloadBytes.toNat + 65535 := by
  refine ⟨?_, fun count => discard_le⟩
  obtain ⟨final, hreach, hpc⟩ := reaches_streamEvents config rfl frames
    (s := Session.start wire memory) rfl ⟨hclean, hbytes, hmemory⟩
  exact ⟨final, hpc, hreach.enough hpc⟩

/-- The header of a 1x1 RGB frame with an empty chain. -/
def goodHeader : RequestHeader :=
  { seqNum := 7, width := 1, height := 1, channels := 3, payloadLen := 3 }

/-- A header that promises six bytes of pixels and announces three, behind a chain of two bytes. -/
def shortHeader : RequestHeader :=
  { seqNum := 9, chainLen := 2, width := 2, height := 1, channels := 3, payloadLen := 3 }

/-- A header with the wrong magic. -/
def badHeader : RequestHeader := { magic := 0, seqNum := 8, payloadLen := 2 }

/-- The good header announces no chain bytes. -/
lemma goodHeader_chain : ([] : List UInt8).length = goodHeader.chainLen.toNat := rfl

/-- It announces three payload bytes. -/
lemma goodHeader_payload : [10, 20, (30 : UInt8)].length = goodHeader.payloadLen.toNat := rfl

/-- The short header announces two chain bytes. -/
lemma shortHeader_chain : [97, (98 : UInt8)].length = shortHeader.chainLen.toNat := rfl

/-- It announces three payload bytes, which are half of its picture. -/
lemma shortHeader_payload : [1, 2, (3 : UInt8)].length = shortHeader.payloadLen.toNat := rfl

/-- The bad header announces no chain bytes. -/
lemma badHeader_chain : ([] : List UInt8).length = badHeader.chainLen.toNat := rfl

/-- It announces two payload bytes. -/
lemma badHeader_payload : [1, (2 : UInt8)].length = badHeader.payloadLen.toNat := rfl

/-- One frame of each disposition: accepted, answered and drained, answered and closed. -/
def threeFrames : List RequestFrame :=
  [.ofHeader goodHeader [] [10, 20, 30] goodHeader_chain goodHeader_payload,
   .ofHeader shortHeader [97, 98] [1, 2, 3] shortHeader_chain shortHeader_payload,
   .ofHeader badHeader [] [1, 2] badHeader_chain badHeader_payload]

/-- The same three frames arriving byte by byte, behind an interrupted call. -/
def threeFramesWire : Wire :=
  .interrupt :: (requestFormat.encodeAll threeFrames).map fun byte => .segment byte []

/-- One byte at a time is still the same stream. -/
lemma bytes_singly (bytes : List UInt8) :
    Wire.bytes (bytes.map fun byte => .segment byte []) = bytes := by
  induction bytes with
  | nil => rfl
  | cons byte bytes ih =>
      rw [List.map_cons, Wire.bytes, ih]
      rfl

/-- A connection whose payloads may have four bytes. -/
def threeFramesConfig : SessionConfig where
  limits := { maxPayloadBytes := 4 }
  strtof := fun _ => none
  connection := 1
  slots := fun _ => 0

/-- The three frames read off their wire: the first is queued, the five bytes of the second are
drained, and the third closes the connection. -/
theorem readerLoop_frames_threeFrames :
    ∃ final : Session, final.pc = .returned ∧ ∃ fuel, ∀ more,
      (Session.start threeFramesWire fun _ => [0, 0, 0, 0]).run threeFramesConfig (fuel + more)
        = ([.header 0, .queued ⟨1, 7, 0, 0, 1, 1, 3, ⟨[]⟩⟩ [10, 20, 30], .header 28,
            .response 9 .kLengthMismatch, .discard 5, .header 58, .response 8 .kBadMagic],
          final) :=
  (readerLoop_frames threeFramesConfig threeFrames threeFramesWire (fun _ => [0, 0, 0, 0])
    (by decide) (bytes_singly _) (fun _ => rfl)).1

end Imgjit
