import Imgjit.Net.ServerPixels

/-!
# What the checks of the reader leave for the worker

The reader checks a header and parses a chain; the backend, much later and on another thread, relies
on both.  The results on backends assume that a chain comes from the parser and that a frame fits
its slot, since a backend does not check the one and cannot check the other.  Here it is shown that
the server keeps to that.

* `WithinLimit` — the payload of a frame is within the server's limit.
* `QueuedFrame.Vetted` — the chain is one that the parser admits, and the pixels fit a slot.
* `Vetted` — so it is of every frame on its way and every job, and every slot keeps its size.
* `vetted_step` — every step keeps it.  A frame is vetted when its reader has parsed its chain, and
  from there on it is handed from place to place.
* `vetted_of_reachable` — in every run, with any bytes from the clients.
-/

namespace Imgjit

/-! ## One frame -/

/-- A picture with a valid header has the size that the header announces. -/
lemma payload_of_shaped {header : RequestHeader} {limits : Limits}
    (hvalid : validateRequestHeader header limits = .kOk)
    (hshaped : Image.Shaped header.width.toInt32 header.height.toInt32
      header.channels.toUInt32.toInt32) :
    (sizeT header.width.toInt32 * sizeT header.channels.toUInt32.toInt32
      * sizeT header.height.toInt32).toNat = header.payloadLen.toNat := by
  have hpacked := packed_of_valid hvalid (dif_pos hshaped)
  rw [Image.byteCount_no_wrap hshaped.1 hshaped.2.1 hshaped.2.2]
  exact hpacked

/-- A picture of these dimensions is within the payload limit. -/
def WithinLimit (config : ServerConfig) (width height channels : Int32) : Prop :=
  Image.Shaped width height channels →
    (sizeT width * sizeT channels * sizeT height).toNat ≤ config.maxPayloadBytes.toNat

/-- The frame has passed the checks of the reader. -/
structure QueuedFrame.Vetted (config : ServerConfig) (frame : QueuedFrame) : Prop where
  admitted : AdmittedChain frame.chain
  fits : WithinLimit config frame.width frame.height frame.channels

lemma vetted_of_accepted {config : ServerConfig} {frame : RequestFrame} {chain : OpChain}
    (h : verdict config.reader frame = .accepted chain) (c slot : ℕ) :
    (queuedFrame c frame.header chain slot).Vetted config := by
  obtain ⟨hvalid, hparse⟩ := verdict_accepted h
  constructor
  · simp only [ReaderConfig.parse] at hparse
    cases hresult : parseOpChain config.reader.strtof
        (frame.chain.map fun byte => Char.ofNat byte.toNat) with
    | error error => simp [hresult, Except.toOption] at hparse
    | ok parsed =>
        simp only [hresult, Except.toOption, Option.some.injEq] at hparse
        subst hparse
        exact parseOpChain_admitted hresult
  · intro hshaped
    show (sizeT frame.header.width.toInt32 * sizeT frame.header.channels.toUInt32.toInt32
      * sizeT frame.header.height.toInt32).toNat ≤ _
    rw [payload_of_shaped hvalid hshaped]
    exact payload_le_of_valid hvalid

/-! ## The invariant -/

/-- **The invariant.**  A slot keeps the size it was made with. -/
structure Vetted (config : ServerConfig) (s : State) : Prop where
  memory : ∀ slot, (s.memory slot).length = config.maxPayloadBytes.toNat
  queued : ∀ frame ∈ s.queue.items, frame.Vetted config
  worker : ∀ frame, s.worker = .submit frame → frame.Vetted config
  issued : ∀ entry ∈ s.issued, WithinLimit config entry.2.width entry.2.height entry.2.channels

section Steps

variable {config : ServerConfig} {cmath : CMath} {s s' : State}

/-- No new frame is on its way. -/
lemma Vetted.same (h : Vetted config s) (hmemory : s'.memory = s.memory)
    (hqueue : s'.queue.items = s.queue.items)
    (hissued : s'.issued = s.issued)
    (hworker : ∀ frame, s'.worker = .submit frame → s.worker = .submit frame) :
    Vetted config s' where
  memory := by
    rw [hmemory]
    exact h.memory
  queued := by
    rw [hqueue]
    exact h.queued
  worker frame hplace := h.worker frame (hworker frame hplace)
  issued := by
    rw [hissued]
    exact h.issued

/-- Received bytes stay within the slot. -/
lemma length_store {into : ReadInto} {remaining : ℕ} {buffer received : List UInt8}
    {outcome : Recv} {memory : ℕ → List UInt8}
    (hmemory : ∀ slot, (memory slot).length = config.maxPayloadBytes.toNat)
    (hplace : (ReaderPc.reading into remaining buffer).At config.reader memory received)
    (hfits : outcome.Fits remaining) (slot : ℕ) :
    (into.store buffer.length memory outcome slot).length = config.maxPayloadBytes.toNat := by
  cases outcome with
  | data bytes =>
      cases into with
      | payload header chain target =>
          by_cases hslot : slot = target
          · subst hslot
            obtain ⟨start, ⟨-, -, -, -, -, hvalid, -⟩, -, hcount, -⟩ := hplace
            have hle := payload_le_of_valid hvalid
            have hbytes := hfits.2
            simp only [ReadInto.store, Function.update_self]
            rw [length_writeAt, hmemory]
            rw [hmemory]
            exact le_trans (by omega) hle
          · simp only [ReadInto.store, Function.update_of_ne hslot]
            exact hmemory slot
      | _ => exact hmemory slot
  | _ => exact hmemory slot

lemma vetted_of_started (h : Started config s) : Vetted config s where
  memory := h.memory
  queued := by
    rw [h.queue]
    exact List.forall_mem_nil _
  worker := by
    intro frame hplace
    rw [h.worker] at hplace
    cases hplace
  issued := by
    rw [h.issued]
    exact List.forall_mem_nil _

/-- Every step keeps the frames vetted. -/
theorem vetted_step (hpixels : Pixels config (Cpu.applyChain cmath) s) (h : Vetted config s)
    (hstep : Step config (oracleContract cmath) s s') : Vetted config s' := by
  cases hstep with
  | @recv c into remaining buffer outcome accepted place fits =>
      obtain ⟨frames, received, -, hplace, -⟩ := hpixels.stream c
      rw [place] at hplace
      exact ⟨length_store h.memory hplace fits, h.queued, h.worker, h.issued⟩
  | @push c header chain slot queue accepted place pushed =>
      obtain ⟨-, hitems⟩ := BoundedQueue.push_true pushed
      refine ⟨h.memory, ?_, h.worker, h.issued⟩
      intro frame hframe
      rw [show State.queue _ = queue from rfl, hitems] at hframe
      rcases List.mem_append.mp hframe with hframe | hframe
      · exact h.queued frame hframe
      · obtain ⟨frames, received, -, hplace, -⟩ := hpixels.stream c
        rw [place] at hplace
        obtain ⟨request, -, rfl, hverdict, -⟩ := hplace
        rw [List.mem_singleton.mp hframe]
        exact vetted_of_accepted hverdict c slot
  | @pushClosed c header chain slot queue accepted place closed =>
      obtain ⟨-, rfl⟩ := BoundedQueue.push_false closed
      exact h.same rfl rfl rfl fun _ => id
  | @workerPop frame queue place popped =>
      have hitems := BoundedQueue.tryPop_some (BoundedQueue.tryPop_of_either popped)
      refine ⟨h.memory, ?_, ?_, h.issued⟩
      · intro other hother
        exact h.queued other (hitems ▸ List.mem_cons_of_mem _ hother)
      · rintro other ⟨⟩
        exact h.queued frame (hitems ▸ List.mem_cons_self)
  | @workerNoWork queue place busy empty =>
      obtain ⟨-, rfl⟩ := BoundedQueue.tryPop_none empty
      exact h.same rfl rfl rfl fun _ hplace => by cases hplace
  | @workerExit queue place idle drained =>
      obtain ⟨-, rfl⟩ := BoundedQueue.pop_none drained
      exact h.same rfl rfl rfl fun _ hplace => by cases hplace
  | @handBackRetired job response next place =>
      exact h.same rfl rfl rfl fun _ hplace => by cases next <;> cases hplace
  | @submit frame input handle place storage fresh =>
      refine ⟨h.memory, h.queued, ?_, ?_⟩
      · rintro other ⟨⟩
      · intro entry hentry
        rcases List.mem_cons.mp hentry with rfl | hentry
        · exact (h.worker frame place).fits
        · exact h.issued entry hentry
  | submitThrows | poll | retire | retireUnknown | retired | handBackRelease | handBackPush =>
      exact h.same rfl rfl rfl fun _ hplace => by cases hplace
  | _ => exact h.same rfl rfl rfl fun _ => id

/-- Every frame on its way has been checked, in every reachable state. -/
theorem vetted_of_reachable (h : (config.system (oracleContract cmath)).Reachable s) :
    Vetted config s := by
  refine h.invariant (fun _ => vetted_of_started) fun t t' hreach ht hstep => ?_
  exact vetted_step (pixels_of_reachable hreach) ht hstep

end Steps

end Imgjit
