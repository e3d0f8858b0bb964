import Imgjit.Net.Lifecycle

/-!
# How deep an outbox can get

The outbox has no capacity of its own.  Its comment says the depth is bounded anyway, by the frames
a connection may have in flight: a client that never reads stops its writer, then its reader.  But
nothing connects the writer to the reader.  A slot is released when its job completes, not when the
answer is sent, and an error response needs no slot at all.

So a client that sends and never reads can let its outbox grow for as long as it sends.  The
cheapest way is a header that is refused: 25 bytes for a response, and the reader goes on to the
next one.

* `probe` — a bad header.
* `Flooded` — the client has sent `k` bad headers and its writer has not moved.
* `flooded_reachable` — every `k` can be reached, by induction on it.
* `outbox_bounded_iff` — so the depth is bounded only for a configuration that cannot be started.
-/

namespace Imgjit

/-! ## A client that only writes -/

/-- A configuration without storage cannot be started. -/
lemma not_started {config : ServerConfig} {s : State}
    (h : config.numSlots = 0 ∨ config.maxPayloadBytes = 0) : ¬Started config s := by
  intro hstarted
  have hpool := hstarted.pool
  rcases h with h | h <;> simp [SlotPool.make, h] at hpool

/-- A header that fails validation and announces nothing behind it. -/
def probe : RequestHeader := {}

/-- The writer of connection 1 has left `k` answers in the outbox, and the reader is at `pc`. -/
structure Flooded (k : ℕ) (pc : ReaderPc) (s : State) : Prop where
  accepted : s.Accepted 1
  reader : (s.connections 1).reader = pc
  outbox : (s.connections 1).outbox.closed = false
  depth : (s.connections 1).outbox.items.length = k

section Flood

variable {config : ServerConfig} {contract : Contract} {s : State} {k : ℕ} {pc pc' : ReaderPc}

lemma headerRead_probe (config : ReaderConfig) :
    ReaderPc.headerRead config (encodeRequestHeader probe) = .respond probe .kLengthMismatch 0 := by
  have hpayload : ¬probe.payloadLen > config.limits.maxPayloadBytes := by
    simp [probe, UInt32.lt_iff_toNat_lt]
  have hchain : ¬probe.chainLen > config.limits.maxChainLen := by
    simp [probe, UInt16.lt_iff_toNat_lt]
  have hstatus : validateRequestHeader probe config.limits = .kLengthMismatch := by
    rw [validateRequestHeader, if_neg (by decide), if_neg (by decide), if_neg hpayload,
      if_neg hchain, if_pos (by decide)]
  simp only [ReaderPc.headerRead, decode_encodeRequestHeader, hstatus]
  rfl

lemma flooded_silent (h : (config.startedOnce contract).Reachable s) (hflooded : Flooded k pc s)
    (hpc : pc.silent config.reader = some pc') :
    ∃ s', (config.startedOnce contract).Reachable s' ∧ Flooded k pc' s' := by
  obtain ⟨haccepted, hreader, houtbox, hdepth⟩ := hflooded
  rw [← hreader] at hpc
  refine ⟨_, h.step (.silent haccepted hpc), haccepted, ?_, ?_, ?_⟩
  · simp [State.setReader, State.withConnection]
  · simpa [State.setReader, State.withConnection] using houtbox
  · simpa [State.setReader, State.withConnection] using hdepth

/-- The probe arrives in one piece. -/
lemma flooded_recv (h : (config.startedOnce contract).Reachable s)
    (hflooded : Flooded k (.reading .header kRequestHeaderBytes []) s) :
    ∃ s', (config.startedOnce contract).Reachable s'
      ∧ Flooded k (.reading .header 0 (encodeRequestHeader probe)) s' := by
  obtain ⟨haccepted, hreader, houtbox, hdepth⟩ := hflooded
  have hfits : (Recv.data (encodeRequestHeader probe)).Fits 25 := ⟨by decide, by decide⟩
  refine ⟨_, h.step (.recv haccepted hreader hfits), haccepted, ?_, ?_, ?_⟩
  · simp only [State.withConnection, Function.update_self]
    rfl
  · simpa [State.withConnection] using houtbox
  · simpa [State.withConnection] using hdepth

lemma flooded_respond {header : RequestHeader} {status : Status} {unread : ℕ}
    (h : (config.startedOnce contract).Reachable s)
    (hflooded : Flooded k (.respond header status unread) s) :
    ∃ s', (config.startedOnce contract).Reachable s'
      ∧ Flooded (k + 1) (.responded status unread) s' := by
  obtain ⟨haccepted, hreader, houtbox, hdepth⟩ := hflooded
  refine ⟨_, h.step (.respond haccepted hreader), haccepted, ?_, ?_, ?_⟩
  · simp [State.withConnection]
  · simp [State.withConnection, Outbox.push_open houtbox, houtbox]
  · simp [State.withConnection, Outbox.push_open houtbox, hdepth]

/-- One more header, one more answer. -/
lemma flooded_succ (h : (config.startedOnce contract).Reachable s)
    (hflooded : Flooded k .loopHead s) :
    ∃ s', (config.startedOnce contract).Reachable s' ∧ Flooded (k + 1) .loopHead s' := by
  obtain ⟨s₁, h₁, hhead⟩ := flooded_silent h hflooded rfl
  obtain ⟨s₂, h₂, hread⟩ := flooded_recv h₁ hhead
  obtain ⟨s₃, h₃, hchecked⟩ :=
    flooded_silent h₂ hread (congrArg some (headerRead_probe config.reader))
  obtain ⟨s₄, h₄, hanswered⟩ := flooded_respond h₃ hchecked
  exact flooded_silent h₄ hanswered rfl

/-- **Any number of answers can pile up**, while the writer stands still and no slot is taken. -/
theorem flooded_reachable (hslots : config.numSlots ≠ 0) (hbytes : config.maxPayloadBytes ≠ 0)
    (k : ℕ) : ∃ s, (config.startedOnce contract).Reachable s ∧ Flooded k .loopHead s := by
  induction k with
  | zero =>
      obtain ⟨pool, hpool⟩ := ServerConfig.exists_pool hslots hbytes
      have hstarted : (config.startedOnce contract).Reachable
          (config.launched (.make config.queueCapacity) pool) :=
        .init ⟨ServerConfig.launched_started hpool rfl, rfl, rfl⟩
      exact ⟨_, hstarted.step (.accept rfl), ⟨le_rfl, Nat.lt_add_one 1⟩, rfl, rfl, rfl⟩
  | succ k ih =>
      obtain ⟨s, h, hflooded⟩ := ih
      exact flooded_succ h hflooded

lemma not_reachable (hrefused : config.numSlots = 0 ∨ config.maxPayloadBytes = 0) :
    ¬(config.startedOnce contract).Reachable s := by
  intro h
  induction h with
  | init hinit => exact not_started hrefused hinit.1
  | step _ _ ih => exact ih

variable (config contract) in
/-- **The depth of an outbox has a bound exactly when the server cannot be started.** -/
theorem outbox_bounded_iff : (∃ bound, ∀ s c, (config.startedOnce contract).Reachable s →
      (s.connections c).outbox.items.length ≤ bound)
    ↔ config.numSlots = 0 ∨ config.maxPayloadBytes = 0 := by
  constructor
  · rintro ⟨bound, hbound⟩
    by_contra hstarts
    obtain ⟨hslots, hbytes⟩ := not_or.mp hstarts
    obtain ⟨s, h, hflooded⟩ : ∃ s, (config.startedOnce contract).Reachable s
        ∧ Flooded (bound + 1) .loopHead s := flooded_reachable hslots hbytes _
    have hdepth := hbound s 1 h
    rw [hflooded.depth] at hdepth
    omega
  · intro hrefused
    refine ⟨0, fun s c h => ?_⟩
    exact absurd h (not_reachable hrefused)

/-- No function of the three numbers bounds the depth. -/
theorem outbox_unbounded : ¬∃ bound : ℕ → ℕ → ℕ → ℕ, ∀ (config : ServerConfig) (s : State) (c : ℕ),
    (config.startedOnce fun _ _ _ => True).Reachable s → (s.connections c).outbox.items.length
      ≤ bound config.numSlots config.slotsPerConnection config.queueCapacity := by
  rintro ⟨bound, hbound⟩
  obtain ⟨s, h, hflooded⟩ : ∃ s, (OneRequest.config.startedOnce fun _ _ _ => True).Reachable s
      ∧ Flooded (bound 1 1 1 + 1) .loopHead s := flooded_reachable (by decide) (by decide) _
  have hdepth := hbound OneRequest.config s 1 h
  rw [hflooded.depth] at hdepth
  exact absurd hdepth (Nat.not_succ_le_self _)

end Flood

end Imgjit
