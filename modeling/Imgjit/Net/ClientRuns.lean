import Imgjit.Library.Transition
import Imgjit.Net.Writer
import Mathlib.Data.List.Nodup

/-!
# Runs of the reference client

Calls of `send` and `receive` in any order, over a connection whose other end answers each request
once, under its own number, whenever it likes and in whatever order.  `receive` blocks until a
response is there, so it takes its step only when one is.

The client's map is keyed by sequence numbers of 32 bits, which start anew after `2 ^ 32` calls.  A
number that comes round while an older frame with it is still waiting would find the wrong frame; so
the result has a bound, and it is the exact one.

* `ClientRun` — the client with what its history was: the requests it sent, the numbers that were
  answered, the responses still on their way, and what the calls of `receive` returned.
* `ClientRun.Sound` — the invariant: the frames the receives took out, and those still in the map,
  are together the frames of the requests.
* `client_runs` — as long as no sequence number comes round again, every receive hands back the
  frame of its own request, and the map holds what is outstanding and nothing else.
-/

namespace Imgjit

lemma find?_perm {α : Type} {p : α → Bool} {a : α} {l : List α} (h : l.find? p = some a) :
    (a :: l.eraseP p).Perm l := by
  rcases List.find?_eq_some_iff_append.mp h with ⟨hp, before, behind, rfl, hbefore⟩
  have hnot : ∀ x ∈ before, ¬p x = true := by
    intro x hx
    simpa using hbefore x hx
  rw [List.eraseP_append_right _ hnot, List.eraseP_cons_of_pos hp]
  exact List.perm_middle.symm

/-- A client and its history. -/
structure ClientRun where
  client : Client
  /-- How often `send` was called.  A call that throws uses its number up too. -/
  calls : ℕ := 0
  /-- The calls of `send` that returned, under the numbers they returned, the last one first. -/
  sent : List (UInt32 × SendCall) := []
  /-- The numbers the server has answered. -/
  answered : List UInt32 := []
  /-- The answers that `receive` has not read. -/
  inFlight : List Response := []
  /-- What the calls of `receive` returned or threw. -/
  results : List (Except Exn ClientResponse) := []

namespace ClientRun

/-- A fresh client, about whose writes nothing is assumed. -/
def start (sends : List Sent) : ClientRun where
  client := { incoming := [], sends := sends }

/-- A call of `send`, entered in the history. -/
def send (run : ClientRun) (call : SendCall) : ClientRun :=
  match run.client.send call with
  | (.ok seqNum, client) =>
      { run with client := client, calls := run.calls + 1, sent := (seqNum, call) :: run.sent }
  | (.error _, client) => { run with client := client, calls := run.calls + 1 }

/-- An answer, and what the network makes of the bytes that have not been read. -/
def answer (run : ClientRun) (response : Response) (incoming : Wire) : ClientRun :=
  { run with
    client := { run.client with incoming := incoming }
    answered := run.answered ++ [response.seqNum]
    inFlight := run.inFlight ++ [response] }

/-- A call of `receive`, entered in the history. -/
def receive (run : ClientRun) : ClientRun :=
  let (result, client) := run.client.receive
  { run with
    client := client
    inFlight := run.inFlight.tail
    results := run.results ++ [result] }

/-- The server answers requests that were sent, each of them once. -/
structure Answers (run : ClientRun) (response : Response) (incoming : Wire) : Prop where
  sent : response.seqNum ∈ run.sent.map Prod.fst
  once : response.seqNum ∉ run.answered
  sendable : response.Sendable
  clean : incoming.Clean
  bytes : incoming.bytes = run.client.incoming.bytes ++ response.bytes

/-- A call of the client, or an answer of the other end. -/
inductive Step : ClientRun → ClientRun → Prop
  | send (run : ClientRun) (call : SendCall) : Step run (run.send call)
  | answer (run : ClientRun) {response : Response} {incoming : Wire}
      (h : run.Answers response incoming) : Step run (run.answer response incoming)
  | receive (run : ClientRun) (h : run.inFlight ≠ []) : Step run run.receive

/-- The runs of a fresh client, whatever its calls of `send` will come to. -/
def system : Transition.System ClientRun where
  init run := ∃ sends, run = start sends
  step := Step

/-! ## The invariant -/

/-- What the map holds for a request. -/
def entry (request : UInt32 × SendCall) : UInt32 × PendingFrame :=
  (request.1, request.2.pendingFrame request.1)

/-- What a receive took out of the map. -/
def taken (response : ClientResponse) : UInt32 × PendingFrame :=
  (response.seqNum, response.request)

/-- What holds of a run whose receives have returned these responses. -/
structure Sound (run : ClientRun) (responses : List ClientResponse) : Prop where
  results : run.results = responses.map .ok
  matched : ∀ response ∈ responses, response.matched = true
  entries : (responses.map taken ++ run.client.pending).Perm (run.sent.map entry)
  order : responses.map ClientResponse.seqNum ++ run.inFlight.map Response.seqNum = run.answered
  once : run.answered.Nodup
  known : ∀ seqNum ∈ run.answered, seqNum ∈ run.sent.map Prod.fst
  next : run.client.nextSeqNum.toNat = (run.calls + 1) % 2 ^ 32
  issued : ∀ seqNum ∈ run.sent.map Prod.fst, seqNum.toNat ≤ run.calls
  distinct : (run.sent.map Prod.fst).Nodup
  brings : run.client.Brings (run.inFlight.map Response.bytes).flatten
  sendable : ∀ response ∈ run.inFlight, response.Sendable

variable {run run' : ClientRun} {responses : List ClientResponse}

lemma sound_start (sends : List Sent) : (start sends).Sound [] where
  results := rfl
  matched := by simp
  entries := .refl _
  order := rfl
  once := List.nodup_nil
  known := by simp [start]
  next := rfl
  issued := by simp [start]
  distinct := List.nodup_nil
  brings := ⟨List.not_mem_nil, rfl⟩
  sendable := by simp [start]

lemma calls_send (run : ClientRun) (call : SendCall) : (run.send call).calls = run.calls + 1 := by
  simp only [send]
  split <;> rfl

namespace Sound

/-- The keys of the map are numbers that were sent. -/
lemma key_sent (h : run.Sound responses) {found : UInt32 × PendingFrame}
    (hfound : found ∈ run.client.pending) : found.1 ∈ run.sent.map Prod.fst := by
  have hentry := h.entries.subset (List.mem_append_right _ hfound)
  rcases List.mem_map.mp hentry with ⟨request, hrequest, rfl⟩
  exact List.mem_map_of_mem hrequest

/-- The next number is not in use, so the new frame goes into the map. -/
lemma send (h : run.Sound responses) (hcalls : run.calls + 1 < 2 ^ 32) (call : SendCall) :
    (run.send call).Sound responses := by
  have hnext : run.client.nextSeqNum.toNat = run.calls + 1 := by
    rw [h.next, Nat.mod_eq_of_lt hcalls]
  have hfresh : run.client.nextSeqNum ∉ run.sent.map Prod.fst := by
    intro hmem
    have hle := h.issued _ hmem
    omega
  have hadvanced : (run.client.nextSeqNum + 1).toNat = (run.calls + 1 + 1) % 2 ^ 32 := by
    rw [UInt32.toNat_add, hnext]
    rfl
  rcases hsend : run.client.send call with ⟨result, client⟩
  have hcases := run.client.send_cases call
  rw [hsend] at hcases
  rcases hcases with ⟨hseqNum, hincoming, ⟨hresult, hpending⟩ | ⟨error, hresult, hpending⟩⟩
  · simp only at hseqNum hincoming hresult hpending
    subst hresult
    have hnone : run.client.pending.any (·.1 == run.client.nextSeqNum) = false := by
      rw [List.any_eq_false]
      intro found hfound hkey
      rw [← eq_of_beq hkey] at hfresh
      exact hfresh (h.key_sent hfound)
    rw [emplacePending, hnone] at hpending
    simp only [ClientRun.send, hsend]
    refine { h with
      entries := ?_, known := ?_, next := ?_, issued := ?_, distinct := ?_, brings := ?_ }
    · rw [hpending]
      exact List.perm_middle.trans (h.entries.cons _)
    · intro seqNum hseqNum
      exact List.mem_cons_of_mem _ (h.known seqNum hseqNum)
    · rw [hseqNum, hadvanced]
    · intro seqNum hmem
      rcases List.mem_cons.mp hmem with rfl | hmem
      · exact hnext.le
      · exact (h.issued seqNum hmem).trans (Nat.le_succ _)
    · exact List.nodup_cons.mpr ⟨hfresh, h.distinct⟩
    · exact h.brings.of_incoming hincoming
  · simp only at hseqNum hincoming hresult hpending
    subst hresult
    simp only [ClientRun.send, hsend]
    refine { h with entries := ?_, next := ?_, issued := ?_, brings := ?_ }
    · rw [hpending]
      exact h.entries
    · rw [hseqNum, hadvanced]
    · intro seqNum hmem
      exact (h.issued seqNum hmem).trans (Nat.le_succ _)
    · exact h.brings.of_incoming hincoming

lemma answer (h : run.Sound responses) {response : Response} {incoming : Wire}
    (hanswers : run.Answers response incoming) :
    (run.answer response incoming).Sound responses := by
  refine { h with order := ?_, once := ?_, known := ?_, brings := ?_, sendable := ?_ }
  · simp only [ClientRun.answer, List.map_append, List.map_cons, List.map_nil]
    rw [← List.append_assoc, h.order]
  · refine List.nodup_append.mpr ⟨h.once, List.nodup_singleton _, ?_⟩
    intro seqNum hold other hnew hsame
    rw [List.mem_singleton.mp hnew] at hsame
    exact hanswers.once (hsame ▸ hold)
  · intro seqNum hmem
    rcases List.mem_append.mp hmem with hold | hnew
    · exact h.known seqNum hold
    · rw [List.mem_singleton.mp hnew]
      exact hanswers.sent
  · refine ⟨hanswers.clean, ?_⟩
    simp only [ClientRun.answer, List.map_append, List.map_cons, List.map_nil, List.flatten_append,
      List.flatten_cons, List.flatten_nil, List.append_nil]
    rw [hanswers.bytes, h.brings.bytes]
  · intro other hother
    rcases List.mem_append.mp hother with hold | hnew
    · exact h.sendable other hold
    · rw [List.mem_singleton.mp hnew]
      exact hanswers.sendable

/-- A number that was answered and not received is in the map. -/
lemma find (h : run.Sound responses) {response : Response} {later : List Response}
    (hinFlight : run.inFlight = response :: later) :
    ∃ found, run.client.pending.find? (·.1 == response.seqNum) = some found
      ∧ found.1 = response.seqNum := by
  have horder := h.order
  rw [hinFlight, List.map_cons] at horder
  have hanswered : response.seqNum ∈ run.answered := by
    rw [← horder]
    exact List.mem_append_right _ List.mem_cons_self
  have hunread : response.seqNum ∉ responses.map ClientResponse.seqNum := by
    intro hread
    have hnodup := h.once
    rw [← horder] at hnodup
    exact (List.nodup_append.mp hnodup).2.2 _ hread _ List.mem_cons_self rfl
  rcases List.mem_map.mp (h.known _ hanswered) with ⟨request, hrequest, hnumber⟩
  have hentry : entry request ∈ responses.map taken ++ run.client.pending :=
    h.entries.symm.subset (List.mem_map_of_mem hrequest)
  have hpending : entry request ∈ run.client.pending := by
    rcases List.mem_append.mp hentry with htaken | hpending
    · rcases List.mem_map.mp htaken with ⟨received, hreceived, heq⟩
      have hsame : received.seqNum = response.seqNum := (congrArg Prod.fst heq).trans hnumber
      exact absurd (hsame ▸ List.mem_map_of_mem hreceived) hunread
    · exact hpending
  cases hfind : run.client.pending.find? (·.1 == response.seqNum) with
  | none =>
      have hnot := List.find?_eq_none.mp hfind _ hpending
      exact absurd (beq_iff_eq.mpr hnumber) hnot
  | some found =>
      have hkey := List.find?_some hfind
      exact ⟨found, rfl, eq_of_beq hkey⟩

/-- **A receive returns the oldest answer**, with the frame of its request. -/
lemma receive (h : run.Sound responses) (hinFlight : run.inFlight ≠ []) :
    ∃ received, run.receive.Sound (responses ++ [received]) := by
  rcases List.exists_cons_of_ne_nil hinFlight with ⟨response, later, hcons⟩
  have hbrings := h.brings
  rw [hcons, List.map_cons, List.flatten_cons] at hbrings
  have hsendable : response.Sendable := h.sendable response (hcons ▸ List.mem_cons_self)
  rcases receive_response hsendable hbrings with ⟨received, client, hreceive, hanswered, hrest⟩
  rcases h.find hcons with ⟨found, hfind, hkey⟩
  rw [← hanswered.seqNum] at hfind hkey
  rcases Client.receive_found hreceive hfind with ⟨hmatched, hrequest, hpending, hnext⟩
  have htaken : taken received = found := by rw [taken, ← hkey, hrequest]
  refine ⟨received, ?_⟩
  simp only [ClientRun.receive, hreceive, hcons, List.tail_cons]
  refine { h with
    results := ?_, matched := ?_, entries := ?_, order := ?_, next := ?_, brings := hrest
    sendable := ?_ }
  · rw [h.results, List.map_append, List.map_cons, List.map_nil]
  · intro other hother
    rcases List.mem_append.mp hother with hold | hnew
    · exact h.matched other hold
    · rw [List.mem_singleton.mp hnew]
      exact hmatched
  · rw [hpending, List.map_append, List.append_assoc, List.map_cons, List.map_nil,
      List.singleton_append, htaken]
    exact ((find?_perm hfind).append_left _).trans h.entries
  · rw [← h.order, hcons, List.map_append, List.append_assoc, List.map_cons, List.map_cons,
      List.map_nil, List.singleton_append, hanswered.seqNum]
  · rw [hnext]
    exact h.next
  · intro other hother
    exact h.sendable other (hcons ▸ List.mem_cons_of_mem _ hother)

end Sound

lemma calls_step (hstep : Step run run') : run.calls ≤ run'.calls := by
  cases hstep with
  | send call =>
      rw [calls_send]
      exact Nat.le_succ _
  | answer h => exact le_rfl
  | receive h => exact le_rfl

/-- **Every step keeps the run sound**, up to the call that would use a number again. -/
theorem sound_step (h : run.Sound responses) (hcalls : run'.calls < 2 ^ 32)
    (hstep : Step run run') : ∃ responses', run'.Sound responses' := by
  cases hstep with
  | send call =>
      rw [calls_send] at hcalls
      exact ⟨responses, h.send hcalls call⟩
  | answer hanswers => exact ⟨responses, h.answer hanswers⟩
  | receive hinFlight =>
      rcases h.receive hinFlight with ⟨received, hsound⟩
      exact ⟨responses ++ [received], hsound⟩

/-- Sound, unless the numbers have come round. -/
def Accounted (run : ClientRun) : Prop := run.calls < 2 ^ 32 → ∃ responses, run.Sound responses

lemma accounted_of_reachable (h : system.Reachable run) : run.Accounted := by
  refine h.invariant ?_ ?_
  · rintro run ⟨sends, rfl⟩ -
    exact ⟨[], sound_start sends⟩
  · intro run run' _ ih hstep hcalls
    rcases ih ((calls_step hstep).trans_lt hcalls) with ⟨responses, hsound⟩
    exact sound_step hsound hcalls hstep

/-! ## What the client promises -/

/-- The requests without a response among these. -/
def outstanding (run : ClientRun) (responses : List ClientResponse) : List (UInt32 × SendCall) :=
  run.sent.filter fun request => request.1 ∉ responses.map ClientResponse.seqNum

/-- What the calls of `receive` have returned, and what that leaves in the map. -/
structure Tracks (run : ClientRun) (responses : List ClientResponse) : Prop where
  /-- None of them threw. -/
  returned : run.results = responses.map .ok
  order : responses.map ClientResponse.seqNum <+: run.answered
  matched : ∀ response ∈ responses, response.matched = true ∧ ∃ call,
    (response.seqNum, call) ∈ run.sent ∧ response.request = call.pendingFrame response.seqNum
  /-- The map is the outstanding requests. -/
  pending : run.client.pending.Perm ((run.outstanding responses).map entry)
  pendingCount : run.client.pendingCount = (run.outstanding responses).length
  drained : (∀ request ∈ run.sent, request.1 ∈ responses.map ClientResponse.seqNum) →
    run.client.pending = []

namespace Sound

/-- A taken frame is the frame of a request of its number. -/
lemma taken_entry (h : run.Sound responses) {response : ClientResponse}
    (hresponse : response ∈ responses) : ∃ call, (response.seqNum, call) ∈ run.sent
      ∧ response.request = call.pendingFrame response.seqNum := by
  have htaken : taken response ∈ run.sent.map entry :=
    h.entries.subset (List.mem_append_left _ (List.mem_map_of_mem hresponse))
  rcases List.mem_map.mp htaken with ⟨⟨seqNum, call⟩, hrequest, heq⟩
  have hnumber : seqNum = response.seqNum := congrArg Prod.fst heq
  subst hnumber
  exact ⟨call, hrequest, (congrArg Prod.snd heq).symm⟩

/-- No number is both received and in the map. -/
lemma unread (h : run.Sound responses) {found : UInt32 × PendingFrame}
    (hfound : found ∈ run.client.pending) : found.1 ∉ responses.map ClientResponse.seqNum := by
  have hkeys : ((responses.map taken ++ run.client.pending).map Prod.fst).Nodup := by
    refine (h.entries.map Prod.fst).nodup_iff.mpr ?_
    have hfst : (run.sent.map entry).map Prod.fst = run.sent.map Prod.fst := by
      simp only [List.map_map, Function.comp_def, entry]
    rw [hfst]
    exact h.distinct
  intro hmem
  rcases List.mem_map.mp hmem with ⟨response, hresponse, hnumber⟩
  rw [List.map_append] at hkeys
  exact (List.nodup_append.mp hkeys).2.2 _
    (List.mem_map_of_mem (List.mem_map_of_mem hresponse)) _ (List.mem_map_of_mem hfound) hnumber

/-- The map is what is left of the requests. -/
lemma pending_perm (h : run.Sound responses) :
    run.client.pending.Perm ((run.outstanding responses).map entry) := by
  have hfilter := h.entries.filter fun found => found.1 ∉ responses.map ClientResponse.seqNum
  have hgone : (responses.map taken).filter
      (fun found => found.1 ∉ responses.map ClientResponse.seqNum) = [] := by
    rw [List.filter_eq_nil_iff]
    intro found hfound
    rcases List.mem_map.mp hfound with ⟨response, hresponse, rfl⟩
    simpa [taken] using ⟨response, hresponse, rfl⟩
  have hkept : run.client.pending.filter
      (fun found => found.1 ∉ responses.map ClientResponse.seqNum) = run.client.pending := by
    rw [List.filter_eq_self]
    intro found hfound
    exact decide_eq_true (h.unread hfound)
  rw [List.filter_append, hgone, hkept, List.nil_append, List.filter_map] at hfilter
  exact hfilter

lemma tracks (h : run.Sound responses) : run.Tracks responses where
  returned := h.results
  order := ⟨_, h.order⟩
  matched response hresponse := ⟨h.matched response hresponse, h.taken_entry hresponse⟩
  pending := h.pending_perm
  pendingCount := by
    rw [Client.pendingCount, h.pending_perm.length_eq, List.length_map]
  drained hall := by
    have hnone : run.outstanding responses = [] := by
      rw [outstanding, List.filter_eq_nil_iff]
      intro request hrequest
      simpa using hall request hrequest
    have hperm := h.pending_perm
    rw [hnone, List.map_nil] at hperm
    exact hperm.eq_nil

end Sound

/-- **The map tracks exactly what is outstanding**, however sends, answers and receives are
interleaved.  With fewer than `2 ^ 32` calls of `send` the numbers it returned are distinct; no
`receive` throws, and each returns the frame that was sent under its number; the map holds the
requests that have not been received, and is empty when there are none. -/
theorem client_runs (h : system.Reachable run) (hcalls : run.calls < 2 ^ 32) :
    (run.sent.map Prod.fst).Nodup ∧ ∃ responses, run.Tracks responses := by
  rcases accounted_of_reachable h hcalls with ⟨responses, hsound⟩
  exact ⟨hsound.distinct, responses, hsound.tracks⟩

/-! ## Two requests, answered the other way round -/

namespace Overtaken

/-- A request without pixels. -/
def call (chain : List UInt8) : SendCall := { image := none, chain := chain }

/-- Both requests have gone out. -/
def requested : ClientRun :=
  ((start [.accepted 40, .accepted 40, .accepted 40, .accepted 40]).send (call [105])).send
    (call [103])

/-- A refusal under a number. -/
def refusal (seqNum : UInt32) : Response := { seqNum := seqNum, status := .kBadChain }

/-- A wire that brings these bytes in one piece. -/
def inOnePiece : List UInt8 → Wire
  | [] => []
  | byte :: bytes => [.segment byte bytes]

/-- The second is answered first, and that answer has been read. -/
def overtaken : ClientRun :=
  (requested.answer (refusal 2) (inOnePiece (refusal 2).bytes)).receive

lemma requested_reachable : system.Reachable requested :=
  .step (.step (.init ⟨_, rfl⟩) (.send _ _)) (.send _ _)

lemma overtaken_reachable : system.Reachable overtaken := by
  have hanswers : requested.Answers (refusal 2) (inOnePiece (refusal 2).bytes) := by
    refine ⟨by decide, by decide, ?_, by decide, by decide⟩
    intro hok
    cases hok
  exact .step (.step requested_reachable (.answer _ hanswers)) (.receive _ (by decide))

/-- One request is still in the map. -/
theorem client_runs_overtaken :
    (overtaken.sent.map Prod.fst).Nodup ∧ ∃ responses, overtaken.Tracks responses :=
  client_runs overtaken_reachable (by decide)

end Overtaken

end ClientRun

end Imgjit
