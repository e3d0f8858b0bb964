import Imgjit.Net.CudaServerRuns

/-!
# Readers and copies do not meet

A frame is received into its slot by a reader, and copied out of it by the backend or by the device,
much later and on its own.  A copy to the device is only queued by `submit`, and the bytes are read
when the stream comes to it; no lock is held, and the driver knows nothing of readers.  Nothing but
the accounts of the slots keeps the two apart.

* `Tracked` — a job that is not completed yet is in the table of the worker, and so holds its slot.
* `tracked_of_reachable` — in every run of the server, whatever its backend.
* `slot_undisturbed` — as long as a job is not completed, no step of any thread, of the driver or of
  a stream changes the bytes in its slot; and what is pending copies from such slots only.

The result is about all runs on from a state, and so about everything that can happen between a
submit and its completion.  The example is a state in which the copy is still pending.
-/

namespace Imgjit

open Interaction RelyGuarantee Cuda CudaBackend CudaServer

/-! ## Jobs in the table -/

/-- **The invariant.**  Jobs leave the table when their completion has been handed out. -/
structure Tracked (s : State) : Prop where
  completions : ∀ completion ∈ s.worker.completions, completion.handle ∈ s.completed
  table : ∀ entry ∈ s.issued, entry.1 ∉ s.completed → entry.1 ∈ s.inFlight.map Prod.fst

section Steps

variable {config : ServerConfig} {contract : Contract} {s s' : State}

/-- A step that neither submits nor polls, and leaves the table alone. -/
lemma Tracked.same (h : Tracked s) (hissued : s'.issued = s.issued)
    (hcompleted : s'.completed = s.completed) (htable : s'.inFlight = s.inFlight)
    (hworker : s'.worker.completions <:+ s.worker.completions) : Tracked s' where
  completions completion hmem := by
    rw [hcompleted]
    exact h.completions completion (hworker.subset hmem)
  table := by
    rw [hissued, hcompleted, htable]
    exact h.table

lemma tracked_of_started (h : Started config s) : Tracked s where
  completions := by
    rw [h.worker]
    exact List.forall_mem_nil _
  table := by
    rw [h.issued]
    exact List.forall_mem_nil _

lemma mem_eraseInFlight {table : List (JobHandle × InFlight)} {handle other : JobHandle}
    (hne : other ≠ handle) (h : other ∈ table.map Prod.fst) :
    other ∈ (eraseInFlight table handle).map Prod.fst := by
  rcases List.mem_map.mp h with ⟨entry, hentry, rfl⟩
  refine List.mem_map_of_mem ?_
  rw [eraseInFlight, List.mem_eraseP_of_neg (by simpa using hne)]
  exact hentry

/-- Every step keeps the uncompleted jobs in the table. -/
theorem tracked_step (h : Tracked s) (hstep : Step config contract s s') : Tracked s' := by
  cases hstep with
  | @submit frame input handle place storage fresh =>
      refine ⟨List.forall_mem_nil _, ?_⟩
      intro entry hentry hpending
      rcases List.mem_cons.mp hentry with rfl | hentry
      · rcases exists_emplaceInFlight s.inFlight handle frame.entry with ⟨held, hheld, hhandle⟩
        exact List.mem_map.mpr ⟨held, hheld, hhandle⟩
      · have hheld := h.table entry hentry hpending
        show entry.1 ∈ (emplaceInFlight s.inFlight handle frame.entry).map Prod.fst
        unfold emplaceInFlight
        split
        · exact hheld
        · exact List.mem_cons_of_mem _ hheld
  | @poll completions place allowed =>
      refine ⟨fun completion hmem => List.mem_append_left _ (List.mem_map_of_mem hmem), ?_⟩
      intro entry hentry hpending
      exact h.table entry hentry fun hcompleted => hpending (List.mem_append_right _ hcompleted)
  | @retire completion rest job handle place found =>
      have hworker := h.completions
      rw [place] at hworker
      refine ⟨fun other hmem => hworker other (List.mem_cons_of_mem _ hmem), ?_⟩
      intro entry hentry hpending
      refine mem_eraseInFlight ?_ (h.table entry hentry hpending)
      intro hsame
      exact hpending (hsame ▸ hworker completion List.mem_cons_self)
  | @retireUnknown completion rest place missing =>
      refine h.same rfl rfl rfl ?_
      rw [place]
      exact List.suffix_cons _ _
  | @retired place =>
      refine h.same rfl rfl rfl ?_
      rw [place]
      exact List.suffix_refl _
  | @handBackRelease job response next pool place released =>
      refine h.same rfl rfl rfl ?_
      rw [place]
      cases next <;> exact List.suffix_refl _
  | @handBackPush job response next place =>
      refine h.same rfl rfl rfl ?_
      rw [place]
      cases next <;> exact List.suffix_refl _
  | @handBackRetired job response next place =>
      refine h.same rfl rfl rfl ?_
      rw [place]
      cases next <;> exact List.suffix_refl _
  | workerPop | workerNoWork | workerExit | submitThrows =>
      exact h.same rfl rfl rfl List.nil_suffix
  | _ => exact h.same rfl rfl rfl (List.suffix_refl _)

/-- In every run they are there. -/
theorem tracked_of_reachable (h : (config.system contract).Reachable s) : Tracked s := by
  refine h.invariant (fun _ => tracked_of_started) fun t t' _ ht hstep => ?_
  exact tracked_step ht hstep

/-- Memory changes where a reader receives a payload. -/
lemma memory_step (hstep : Step config contract s s') (slot : ℕ) :
    s'.memory slot = s.memory slot ∨ ∃ c, (s.connections c).reader.heldSlot = some slot := by
  cases hstep with
  | @recv c into remaining buffer outcome accepted place fits =>
      cases into with
      | payload header chain target =>
          by_cases hslot : slot = target
          · subst hslot
            exact .inr ⟨c, by rw [place]; rfl⟩
          · cases outcome with
            | data bytes => exact .inl (Function.update_of_ne hslot _ _)
            | _ => exact .inl rfl
      | _ => cases outcome <;> exact .inl rfl
  | _ => exact .inl rfl

/-- What was submitted or completed stays so. -/
lemma history_step (hstep : Step config contract s s') :
    s.issued <:+ s'.issued ∧ s.completed <:+ s'.completed := by
  cases hstep with
  | submit place storage fresh => exact ⟨List.suffix_cons _ _, List.suffix_refl _⟩
  | poll place allowed => exact ⟨List.suffix_refl _, List.suffix_append _ _⟩
  | _ => exact ⟨List.suffix_refl _, List.suffix_refl _⟩

end Steps

/-! ## A job and its slot -/

section Slot

variable {config : ServerConfig} {cmath : CMath} {s s' : State} {handle : JobHandle} {job : FrameJob}
  {slot : ℕ}

/-- No reader holds the slot of a job that is not completed. -/
lemma not_held_of_pending (hreach : (config.system (oracleContract cmath)).Reachable s)
    (hissued : (handle, job) ∈ s.issued) (hpending : handle ∉ s.completed)
    (hinput : job.input = some slot) (c : ℕ) : (s.connections c).reader.heldSlot ≠ some slot := by
  intro hheld
  have hpixels := pixels_of_reachable hreach
  have htable := (tracked_of_reachable hreach).table (handle, job) hissued hpending
  rcases List.mem_map.mp htable with ⟨entry, hentry, hhandle⟩
  rcases hpixels.jobs entry hentry with ⟨other, hother, hslot⟩
  rw [hhandle, issuedJob_of_mem hpixels.issued hissued] at hother
  obtain rfl := Option.some.inj hother
  obtain rfl : slot = entry.2.slot := Option.some.inj (hinput.symm.trans hslot)
  exact ((accounts_of_reachable hreach).custody.exclusive c _ hheld).2.2 entry hentry rfl

/-- One step leaves the slot of the job alone. -/
lemma slot_step (hreach : (config.system (oracleContract cmath)).Reachable s)
    (hissued : (handle, job) ∈ s.issued) (hpending : handle ∉ s.completed)
    (hinput : job.input = some slot) (hstep : Step config (oracleContract cmath) s s') :
    s'.memory slot = s.memory slot := by
  rcases memory_step hstep slot with hsame | ⟨c, hheld⟩
  · exact hsame
  · exact absurd hheld (not_held_of_pending hreach hissued hpending hinput c)

/-- So do all the steps until it is completed. -/
lemma slot_run (hreach : (config.system (oracleContract cmath)).Reachable s)
    (hissued : (handle, job) ∈ s.issued) (hinput : job.input = some slot)
    (hsteps : Relation.ReflTransGen (Step config (oracleContract cmath)) s s')
    (hpending : handle ∉ s'.completed) :
    (handle, job) ∈ s'.issued ∧ s'.memory slot = s.memory slot := by
  induction hsteps with
  | refl => exact ⟨hissued, rfl⟩
  | @tail t t' hsteps hlast ih =>
      rcases history_step hlast with ⟨hgrows, hcompleted⟩
      have hbefore : handle ∉ t.completed := fun hmem => hpending (hcompleted.subset hmem)
      rcases ih hbefore with ⟨hmem, hmemory⟩
      refine ⟨hgrows.subset hmem, ?_⟩
      rw [← hmemory]
      exact slot_step (hreach.steps hsteps) hmem hbefore hinput hlast

end Slot

/-! ## On the CUDA backend -/

section Cuda

variable {config : ServerConfig} {cmath : CMath} {frames : JobHandle → FrameJob}
  {c c' : CudaServer cmath}

/-- A run from here is a run of the books. -/
lemma books_of_steps (h : (CudaServer.system config cmath frames).Reachable c)
    (hsteps : Relation.ReflTransGen (CudaServer.Step config cmath frames) c c') :
    (CudaServer.system config cmath frames).Reachable c'
      ∧ Relation.ReflTransGen (Step config (oracleContract cmath)) c.account c'.account := by
  induction hsteps with
  | refl => exact ⟨h, .refl⟩
  | tail _ hlast ih =>
      rcases sound_of_reachable ih.1 with ⟨haccount, hsound⟩
      exact ⟨ih.1.step hlast, ih.2.trans (sound_step haccount hsound hlast).steps⟩

/-- **Nobody writes to a slot that may still be copied.**  From the moment at which the worker calls
`submit` until the completion of the job is handed out, the bytes in its slot stay as they are, in
every run from any reachable state.  What is pending on the streams copies from such slots only. -/
theorem slot_undisturbed (h : (CudaServer.system config cmath frames).Reachable c) :
    (∀ handle job slot, (handle, job) ∈ c.account.issued → job.input = some slot →
      ∀ c', Relation.ReflTransGen (CudaServer.Step config cmath frames) c c' →
        handle ∉ c'.server.completed → c'.gpu.memory.slots slot = c.gpu.memory.slots slot)
      ∧ ∀ stream, ∀ item ∈ c.gpu.device.queues stream, ∀ destination slot bytes,
        item.op = .cuMemcpyHtoDAsync destination slot bytes → item.frame ∉ c.server.completed
          ∧ ∃ job, (item.frame, job) ∈ c.account.issued ∧ job.input = some slot := by
  rcases sound_of_reachable h with ⟨haccount, hsound⟩
  constructor
  · intro handle job slot hissued hinput c' hsteps hpending
    rcases books_of_steps h hsteps with ⟨hreach', hbooks⟩
    have hsound' := (sound_of_reachable hreach').2
    have hrun := (slot_run haccount hissued hinput hbooks
      (by rwa [account, Engine.books_completed])).2
    rw [account, account, Engine.books_memory, Engine.books_memory] at hrun
    rw [← hsound.memory, ← hsound'.memory]
    exact hrun
  · intro stream item hitem destination slot bytes hop
    rcases hsound.attributed stream item hitem with ⟨hpending, hissued, hinput⟩
    exact ⟨hpending, frames item.frame, hissued, hinput destination slot bytes hop⟩

end Cuda

/-! ## While the copy is pending -/

namespace PaintedRequest

open FilteredFrame

/-- The frame is received and submitted. -/
def submitted : Option (Bench × Except Exn JobHandle × Bench) :=
  (onBench (allocateSlots 1 4) backend bench).bind fun managed =>
    (onBench (submit (OneRequest.frame.job 0) 1) managed.1.2 (receive managed.2)).map
      fun submitted => (managed.2, submitted.1.1, submitted.2)

lemma submitted_shown : submitted.map (fun run => (run.1.memory.copied, run.2.1.toOption,
      run.2.2.queue.head?.map QueuedOp.op, run.2.2.memory.slots 0))
    = some ([], some 1, some (.cuMemcpyHtoDAsync 4 0 3), [10, 20, 30, 0]) := by
  decide +kernel

/-- The copy of the one request is pending, and its slot stays as it is until the job is completed.
-/
theorem slot_undisturbed_submitted : ∃ c : CudaServer plainMath,
    (CudaServer.system OneRequest.config plainMath frames).Reachable c
      ∧ (c.gpu.device.queues 0).head?.map QueuedOp.op = some (.cuMemcpyHtoDAsync 4 0 3)
      ∧ ∀ c', Relation.ReflTransGen (CudaServer.Step OneRequest.config plainMath frames) c c' →
        1 ∉ c'.server.completed → c'.gpu.memory.slots 0 = [10, 20, 30, 0] := by
  rcases Option.map_eq_some_iff.mp submitted_shown with ⟨run, hrun, hseen⟩
  rcases Option.bind_eq_some_iff.mp hrun with ⟨⟨⟨managed, after₁⟩, b₁⟩, h₁, hrun⟩
  rcases Option.map_eq_some_iff.mp hrun with ⟨⟨⟨submitted, after₂⟩, b₂⟩, h₂, rfl⟩
  have hcopied : b₁.memory.copied = [] := congrArg Prod.fst hseen
  have hresults := congrArg Prod.snd hseen
  have hqueue : b₂.queue.head?.map QueuedOp.op = some (.cuMemcpyHtoDAsync 4 0 3) :=
    congrArg (fun results => results.2.1) hresults
  have hslot : b₂.memory.slots 0 = [10, 20, 30, 0] := congrArg (fun results => results.2.2) hresults
  cases submitted with
  | error error => cases congrArg Prod.fst hresults
  | ok handle =>
      obtain rfl : handle = 1 := Option.some.inj (congrArg Prod.fst hresults)
      have hreach := submitted_run h₂ (popped_run (started_run h₁ hcopied))
      refine ⟨_, hreach, hqueue, fun c' hsteps hpending => ?_⟩
      rw [← hslot]
      exact (slot_undisturbed hreach).1 1 (OneRequest.frame.job 0) 0 List.mem_cons_self rfl c'
        hsteps hpending

end PaintedRequest

end Imgjit
