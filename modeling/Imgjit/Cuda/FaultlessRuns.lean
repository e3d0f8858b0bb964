import Imgjit.Cuda.ObligingDriver

/-!
# Runs in which the driver does what it is asked

A `CudaBackend` promises much for the case that something fails.  This file is about the other case:
the driver answers every call as it is asked to, and what is submitted comes from the parser and has
kernels of a shape that every device accepts.  Then nothing is torn down, every frame that can be
served is served, and every other one is refused.

Without such a theorem, a backend that failed every job would satisfy all the others: an error entry
for each handle keeps the accounts, disturbs no frame and owns nothing it should not.

**The runs.**  `FaultlessStep` is one call of a caller that sets its backend up before it submits
anything, and `faultlessSystem` its runs.  They are runs of `cudaSystem`, so everything that is
known of those is known of these.

**The invariant.**  `Serving` says that a completion is a success or the refusal of a frame that
cannot be served, and that such a refusal is there for every frame of the kind.  Each call keeps it,
by the results of `Cuda/ObligingDriver` on single calls.

**The result.**  `cuda_serves` puts the invariant together with the accounts of the handles: success
and service are the same, and a poll behind the last frame leaves nothing behind.
-/

namespace Imgjit

open Interaction Cuda CudaBackend

variable {cmath : CMath} {env : Environment DriverCall DriverAnswer}

/-! ## The runs -/

/-- **The calls of a careful caller**: the slots are allocated before the first frame is submitted,
no context is torn down by hand, and every frame is one that a device can launch. -/
inductive FaultlessStep : CudaRun cmath env → CudaRun cmath env → Prop
  | allocate {s : CudaRun cmath env} {result : Except Exn Unit} {after : CudaBackend cmath}
      {driver : env.State} (count bytes : UInt64) : s.submitted = [] →
      (allocateSlots count bytes s.backend).Returns env s.driver (result, after) driver →
      FaultlessStep s { s with backend := after, driver := driver }
  | prewarm {s : CudaRun cmath env} {result : Except Exn Unit} {after : CudaBackend cmath}
      {driver : env.State} (chain : OpChain) (channels : Int32) :
      (CudaBackend.prewarm chain channels s.backend).Returns env s.driver (result, after) driver →
      FaultlessStep s { s with backend := after, driver := driver }
  | submit {s : CudaRun cmath env} {handle : JobHandle} {after : CudaBackend cmath}
      {driver : env.State} (job : FrameJob) (turns : ℕ) : job.Launchable s.backend.config →
      (CudaBackend.submit job turns s.backend).Returns env s.driver (.ok handle, after) driver →
      FaultlessStep s
        { s with backend := after, driver := driver, submitted := (handle, job) :: s.submitted }
  | poll {s : CudaRun cmath env} {completions : List Completion} {after : CudaBackend cmath}
      {driver : env.State} :
      (pollCompletions s.backend).Returns env s.driver (.ok completions, after) driver →
      FaultlessStep s
        { s with backend := after, driver := driver, delivered := s.delivered ++ completions }

/-- The runs of a careful caller, from the construction of the backend on. -/
def faultlessSystem (cmath : CMath) (env : Environment DriverCall DriverAnswer)
    (start : ℕ → env.State → Prop) : Transition.System (CudaRun cmath env) where
  init := (cudaSystem cmath env start).init
  step := FaultlessStep

variable {start : ℕ → env.State → Prop} {s s' : CudaRun cmath env}

/-- Each of these calls is one that any caller may make. -/
lemma FaultlessStep.cudaStep (h : FaultlessStep s s') : CudaStep s s' := by
  cases h with
  | allocate count bytes _ hreturns => exact .manage (.allocateSlots count bytes) hreturns
  | prewarm chain channels hreturns => exact .manage (.prewarm chain channels) hreturns
  | submit job turns _ hreturns => exact .submit job turns hreturns
  | poll hreturns => exact .poll hreturns

/-- So what holds of all runs holds of these. -/
lemma reachable_of_faultless (h : (faultlessSystem cmath env start).Reachable s) :
    (cudaSystem cmath env start).Reachable s := by
  induction h with
  | init h => exact .init h
  | step _ hstep ih => exact .step ih hstep.cudaStep

/-! ## The invariant -/

namespace CudaRun

/-- Every completion there has been, taken or not. -/
def answers (s : CudaRun cmath env) : List Completion := s.backend.completed ++ s.delivered

/-- What a call appends to the completed entries is among the answers after it. -/
lemma mem_answers (s : CudaRun cmath env) {completed more : List Completion}
    (hmore : completed = s.backend.completed ++ more) (completion : Completion) :
    completion ∈ completed ++ s.delivered ↔ completion ∈ s.answers ∨ completion ∈ more := by
  simp only [answers, hmore, List.mem_append]
  tauto

end CudaRun

/-- **The invariant.**  The backend is as it was built, a completion is a success or a refusal, and
whatever cannot be served has been refused. -/
structure Serving (s : CudaRun cmath env) : Prop where
  fit : Fit s.backend
  recreations : s.backend.contextRecreations = 0
  judged : ∀ completion ∈ s.answers, completion.status = .kOk
    ∨ ∃ job, (completion.handle, job) ∈ s.submitted ∧ ¬job.Serviceable s.backend.slotBytes
  refused : ∀ entry ∈ s.submitted, ¬entry.2.Serviceable s.backend.slotBytes →
    ∃ completion ∈ s.answers, completion.handle = entry.1 ∧ completion.status = .kError

/-- Nothing is submitted yet, so nothing has been answered. -/
lemma answers_nil (hin : InOrder s) (hnone : s.submitted = []) : s.answers = [] := by
  have hissued : s.issued = [] := by rw [CudaRun.issued, hnone, List.map_nil]
  have hplaced := hin.placed
  rw [hissued] at hplaced
  rcases List.append_eq_nil_iff.mp hplaced.eq_nil with ⟨houtstanding, hdelivered⟩
  rw [outstanding, List.append_eq_nil_iff] at houtstanding
  rw [CudaRun.answers, List.map_eq_nil_iff.mp houtstanding.2, List.map_eq_nil_iff.mp hdelivered,
    List.append_nil]

/-- A backend that has just been constructed serves. -/
lemma serving_of_init (h : (faultlessSystem cmath env start).init s) : Serving s := by
  rcases h with ⟨context, ordinal, streamCount, config, hconstruct, -, hsubmitted, hdelivered⟩
  unfold construct at hconstruct
  split at hconstruct
  · cases hconstruct
  split at hconstruct
  · cases hconstruct
  · rename_i htile hconstants
    rw [Bool.not_eq_true', Bool.not_eq_false] at htile hconstants
    have hbackend := Except.ok.inj hconstruct
    have hanswers : s.answers = [] := by rw [CudaRun.answers, ← hbackend, hdelivered]; rfl
    refine ⟨?_, by rw [← hbackend], ?_, ?_⟩
    · rw [← hbackend]
      refine ⟨Option.some_ne_none context, htile, hconstants, ?_, fun hslots => absurd rfl hslots⟩
      show (if streamCount = 0 then 1 else streamCount) ≠ 0
      split_ifs <;> omega
    · rw [hanswers]
      exact List.forall_mem_nil _
    · rw [hsubmitted]
      exact List.forall_mem_nil _

/-- A call after which the backend is as before, but for answers that are successes. -/
lemma Serving.flawless (h : Serving s) {after : CudaBackend cmath} {driver : env.State}
    (hafter : Flawless s.backend after) :
    Serving { s with backend := after, driver := driver } := by
  rcases hafter.completed with ⟨more, hmore, hok⟩
  have hanswers := s.mem_answers hmore
  refine ⟨h.fit.steady hafter, hafter.recreations.trans h.recreations, ?_, ?_⟩
  · intro completion hmem
    rcases (hanswers completion).mp hmem with hold | hnew
    · rw [hafter.slotBytes]
      exact h.judged completion hold
    · exact .inl ((hok completion hnew).resolve_right id)
  · intro entry hentry hrefused
    rw [hafter.slotBytes] at hrefused
    rcases h.refused entry hentry hrefused with ⟨completion, hmem, hcompletion⟩
    exact ⟨completion, (hanswers completion).mpr (.inl hmem), hcompletion⟩

/-- A frame more, which is refused or not. -/
lemma Serving.submitted (h : Serving s) {job : FrameJob} {after : CudaBackend cmath}
    {driver : env.State} (hafter : Judged job s.backend after) :
    Serving { s with
      backend := after, driver := driver
      submitted := (s.backend.nextHandle, job) :: s.submitted } := by
  have hsteady := hafter.steady
  rcases hsteady.completed with ⟨more, hmore, hok⟩
  have hanswers := s.mem_answers hmore
  refine ⟨h.fit.steady hsteady, hsteady.recreations.trans h.recreations, ?_, ?_⟩
  · intro completion hmem
    rw [hsteady.slotBytes]
    rcases (hanswers completion).mp hmem with hold | hnew
    · refine (h.judged completion hold).imp id ?_
      rintro ⟨other, hother, hrefused⟩
      exact ⟨other, List.mem_cons_of_mem _ hother, hrefused⟩
    · refine (hok completion hnew).imp id ?_
      rintro ⟨hhandle, hrefused⟩
      exact ⟨job, hhandle ▸ List.mem_cons_self, hrefused⟩
  · intro entry hentry hrefused
    rw [hsteady.slotBytes] at hrefused
    rcases List.mem_cons.mp hentry with rfl | hentry
    · rcases hafter.refused hrefused with ⟨completion, hmem, hcompletion⟩
      exact ⟨completion, List.mem_append_left _ hmem, hcompletion⟩
    · rcases h.refused entry hentry hrefused with ⟨completion, hmem, hcompletion⟩
      exact ⟨completion, (hanswers completion).mpr (.inl hmem), hcompletion⟩

/-- The completed entries are handed out. -/
lemma Serving.polled (h : Serving s) {middle : CudaBackend cmath} {driver : env.State}
    (hmiddle : Flawless s.backend middle) :
    Serving { s with
      backend := { middle with completed := [] }, driver := driver
      delivered := s.delivered ++ middle.completed } := by
  have hserving : Serving { s with backend := middle, driver := driver } := h.flawless hmiddle
  have hanswers : ∀ completion, completion ∈ [] ++ (s.delivered ++ middle.completed) ↔
      completion ∈ middle.completed ++ s.delivered := by
    intro completion
    simp only [List.nil_append, List.mem_append]
    exact or_comm
  have hfit := hserving.fit
  refine ⟨⟨hfit.context, hfit.tile, hfit.constants, hfit.count, hfit.slots⟩, hserving.recreations,
    ?_, ?_⟩
  · exact fun completion hmem => hserving.judged completion ((hanswers completion).mp hmem)
  · intro entry hentry hrefused
    rcases hserving.refused entry hentry hrefused with ⟨completion, hmem, hcompletion⟩
    exact ⟨completion, (hanswers completion).mpr hmem, hcompletion⟩

/-! ## Every call keeps it -/

/-- **Every call keeps the invariant**, if the driver does what it is asked. -/
theorem Serving.step (hdriver : ObligingDriver env) (hin : InOrder s) (h : Serving s)
    (hstep : FaultlessStep s s') : Serving s' := by
  cases hstep with
  | @allocate result after driver count bytes hnone hreturns =>
      have hafter : Fit after ∧ after.contextRecreations = s.backend.contextRecreations
          ∧ after.config = s.backend.config ∧ after.completed = s.backend.completed :=
        Prog.wp_iff_returns.mp (allocateSlots_fit hdriver hin.wellFormed h.fit count bytes) _ _
          hreturns
      rcases hafter with ⟨hfit, hrecreations, -, hcompleted⟩
      have hanswers : after.completed ++ s.delivered = [] := by
        rw [hcompleted]
        exact answers_nil hin hnone
      refine ⟨hfit, hrecreations.trans h.recreations, ?_, ?_⟩
      · rw [CudaRun.answers, hanswers]
        exact List.forall_mem_nil _
      · rw [hnone]
        exact List.forall_mem_nil _
  | @prewarm result after driver chain channels hreturns =>
      have hafter : Flawless s.backend after :=
        Prog.wp_iff_returns.mp (prewarm_flawless hdriver chain channels) _ _ hreturns
      exact h.flawless hafter
  | @submit handle after driver job turns hjob hreturns =>
      have hjudged : Judged job s.backend after :=
        Prog.wp_iff_returns.mp (submit_judged hdriver hin.wellFormed h.fit hjob turns) _ _ hreturns
      have hsubmitted : Submitted s.backend (.ok handle) after :=
        Prog.wp_iff_returns.mp (submit_submitted hin.wellFormed job turns) _ _ hreturns
      obtain rfl := Except.ok.inj hsubmitted.result
      exact h.submitted hjudged
  | @poll completions after driver hreturns =>
      have hafter : ∃ middle, Flawless s.backend middle
          ∧ (.ok completions : Except Exn (List Completion)) = .ok middle.completed
          ∧ after = { middle with completed := [] } :=
        Prog.wp_iff_returns.mp (pollCompletions_flawless hdriver hin.wellFormed) _ _ hreturns
      rcases hafter with ⟨middle, hmiddle, hresult, rfl⟩
      obtain rfl := Except.ok.inj hresult
      exact h.polled hmiddle

/-- **Every run keeps it.** -/
theorem reachable_serving (hdriver : ObligingDriver env)
    (h : (faultlessSystem cmath env start).Reachable s) : Serving s := by
  refine h.invariant (fun _ => serving_of_init) fun t t' hreach ht hstep => ?_
  exact ht.step hdriver (reachable_inOrder (reachable_of_faultless hreach)) hstep

/-! ## What the caller gets -/

/-- What the caller may count on. -/
structure Served (order : EventOrder env) (s : CudaRun cmath env) : Prop where
  recreations : s.backend.contextRecreations = 0
  /-- A frame succeeds exactly if it can be served. -/
  answered : ∀ completion ∈ s.answers, ∃ job, (completion.handle, job) ∈ s.submitted
    ∧ (completion.status = .kOk ↔ job.Serviceable s.backend.slotBytes)
  /-- Once the device is done, one poll brings every completion that is missing. -/
  drained : (∀ slot ∈ s.backend.streams, slot.busy = true → order.Complete s.driver slot.done) →
    Routine.total env pollCompletions (fun result after _ => after.busyHandles = []
      ∧ ∃ completions, result = .ok completions
        ∧ ((s.delivered ++ completions).map Completion.handle).Perm s.issued) s.backend s.driver

/-- The handles of the answers are distinct, and were issued. -/
lemma InOrder.answers (h : InOrder s) : (s.answers.map Completion.handle).Nodup
    ∧ ∀ completion ∈ s.answers, completion.handle ∈ s.issued := by
  have hsub : (s.answers.map Completion.handle).Sublist
      (s.backend.outstanding ++ s.deliveredHandles) := by
    rw [CudaRun.answers, List.map_append]
    exact (List.sublist_append_right _ _).append (List.Sublist.refl _)
  have hnodup := h.placed.nodup_iff.mpr h.fresh
  exact ⟨hnodup.sublist hsub, fun completion hmem =>
    h.placed.subset (hsub.subset (List.mem_map_of_mem hmem))⟩

/-- Success and service are the same. -/
lemma Serving.answered (h : Serving s) (hin : InOrder s) {completion : Completion}
    (hmem : completion ∈ s.answers) : ∃ job, (completion.handle, job) ∈ s.submitted
      ∧ (completion.status = .kOk ↔ job.Serviceable s.backend.slotBytes) := by
  rcases hin.answers with ⟨hnodup, hissued⟩
  rcases List.mem_map.mp (hissued completion hmem) with ⟨⟨handle, job⟩, hentry, rfl⟩
  refine ⟨job, hentry, fun hok => ?_, fun hserviceable => ?_⟩
  · -- Otherwise there would be a refusal under the same handle.
    by_contra hrefused
    rcases h.refused _ hentry hrefused with ⟨other, hother, hhandle, herror⟩
    obtain rfl := List.inj_on_of_nodup_map hnodup hother hmem hhandle
    rw [hok] at herror
    cases herror
  · refine (h.judged completion hmem).resolve_right ?_
    rintro ⟨other, hother, hrefused⟩
    have hsame := List.inj_on_of_nodup_map hin.fresh hother hentry rfl
    obtain rfl : other = job := congrArg Prod.snd hsame
    exact hrefused hserviceable

/-- **Every frame that can be served is served.**  Take any run of a backend against a driver that
does what it is asked, in which the slots are allocated first and all frames come from the parser
and have kernels of a shape that every device accepts.  No context is ever rebuilt.  A frame is
completed as a success exactly if it has an input, dimensions that make sense, rows without padding
and, unless its chain is empty, room in a slot; otherwise it is refused.  And once the events of the
frames on the device have completed, one poll returns and leaves no frame without its completion. -/
theorem cuda_serves (hdriver : ObligingDriver env) (order : EventOrder env)
    (h : (faultlessSystem cmath env start).Reachable s) : Served order s := by
  have hin := reachable_inOrder (reachable_of_faultless h)
  have hserving := reachable_serving hdriver h
  refine ⟨hserving.recreations, fun _ => hserving.answered hin, fun hdone => ?_⟩
  have hpoll := (pollCompletions_empties hdriver order hin.wellFormed hdone).and
    (pollCompletions_polled hin.wellFormed)
  refine pollCompletions_ends.total (hpoll.mono ?_)
  rintro result after e' ⟨hempty, hpolled⟩
  rcases hpolled.delivered with ⟨completions, hresult, hperm⟩
  refine ⟨hempty, completions, hresult, ?_⟩
  rw [hempty, List.nil_append] at hperm
  rw [List.map_append]
  exact List.perm_append_comm.trans ((hperm.append_right _).trans hin.placed)

/-! ## A frame that is served, and one that is not -/

namespace FilteredFrame

/-- Two rows more than the slot has room for. -/
def large : FrameJob := { job with height := 3 }

/-- A run of one method. -/
def promptly {α : Type} (routine : Method plainMath α) (backend : CudaBackend plainMath)
    (d : Device) : Option ((Except Exn α × CudaBackend plainMath) × Device) :=
  (routine backend).eval prompt d

/-- A slot is built, both frames are submitted, and the completions are polled. -/
def careful : Option (Except Exn JobHandle × Except Exn JobHandle × Except Exn (List Completion)
    × Device) :=
  (promptly (allocateSlots 1 1) backend {}).bind fun managed =>
    (promptly (submit job 2) managed.1.2 managed.2).bind fun first =>
      (promptly (submit large 2) first.1.2 first.2).bind fun second =>
        (promptly pollCompletions second.1.2 second.2).map fun polled =>
          (first.1.1, second.1.1, polled.1.1, polled.2)

/-- What the run returns: two handles, then the refusal and the success. -/
lemma careful_seen : careful.map (fun run => (run.1.toOption, run.2.1.toOption,
    run.2.2.1.toOption.map (List.map fun c => (c.handle, c.status))))
      = some (some 1, some 2, some [(2, .kError), (1, .kOk)]) := by
  decide +kernel

/-- The device does what it is asked. -/
lemma prompt_obliging (d : Device) (call : DriverCall) : Obliging call (prompt d call).1 := by
  cases call with
  | cuCtxCreate => exact ⟨d.next, rfl⟩
  | create resource => exact ⟨d.next, rfl⟩
  | enqueue stream frame op =>
      cases op with
      | cuLaunchKernel launch source destination => exact fun _ => rfl
      | _ => rfl
  | cuEventQuery event => exact fun what => CUresult.noConfusion
  | load program => rfl
  | cuMemHostRegister => rfl
  | cuEventSynchronize event => rfl
  | cuEventElapsedTime first last => rfl
  | _ => trivial

lemma returns_of_obliging {α : Type} {routine : Method plainMath α} {backend : CudaBackend plainMath}
    {d d' : Device} {value : Except Exn α × CudaBackend plainMath}
    (h : promptly routine backend d = some (value, d')) :
    (routine backend).Returns (device.only Obliging) d value d' :=
  @Prog.returns_of_eval _ _ _ (device.only Obliging) prompt
    (fun d call => ⟨prompt_responds d call, prompt_obliging d call⟩) _ _ _ _ h

/-- Without a stencil the blocks are those of a naive kernel, in every configuration. -/
lemma job_launchable (config : BackendConfig) : job.Launchable config ∧ large.Launchable config := by
  have hparsed : Parsed job.chain :=
    @Parsed.exact job.chain halfOrQuarter "invert".toList (by decide +kernel)
  have hnone : hasStencil job.chain.ops = false := by decide
  have hedge : ∀ channels, blockEdge (config.keyFor job.chain channels) = kNaiveBlockDim := by
    intro channels
    rw [blockEdge, if_neg]
    rintro ⟨-, hstencil⟩
    exact absurd (hnone.symm.trans hstencil) Bool.false_ne_true
  refine ⟨⟨hparsed, fun _ => ?_⟩, ⟨hparsed, fun _ => ?_⟩⟩
  · rw [hedge]
    decide
  · rw [show large.chain = job.chain from rfl, hedge]
    decide

/-- The small frame is a success; the large one has been refused before. -/
theorem cuda_serves_careful : ∃ s : CudaRun plainMath (device.only Obliging),
    (faultlessSystem plainMath (device.only Obliging) freshDevice).Reachable s
      ∧ s.delivered.map (fun c => (c.handle, c.status)) = [(2, .kError), (1, .kOk)]
      ∧ Served (deviceEvents.only Obliging) s := by
  rcases Option.map_eq_some_iff.mp careful_seen with ⟨run, hrun, hseen⟩
  rcases Option.bind_eq_some_iff.mp hrun with ⟨⟨⟨managed, b₁⟩, d₁⟩, h₁, hrun⟩
  rcases Option.bind_eq_some_iff.mp hrun with ⟨⟨⟨first, b₂⟩, d₂⟩, h₂, hrun⟩
  rcases Option.bind_eq_some_iff.mp hrun with ⟨⟨⟨second, b₃⟩, d₃⟩, h₃, hrun⟩
  rcases Option.map_eq_some_iff.mp hrun with ⟨⟨⟨polled, b₄⟩, d₄⟩, h₄, rfl⟩
  have hinit : (faultlessSystem plainMath (device.only Obliging) freshDevice).Reachable
      { backend := backend, driver := ({} : Device) } :=
    .init ⟨0, 0, 1, {}, rfl, ⟨rfl, fun _ => rfl⟩, rfl, rfl⟩
  cases first with
  | error error => cases congrArg Prod.fst hseen
  | ok handle =>
      cases second with
      | error error => cases congrArg (fun seen => seen.2.1) hseen
      | ok other =>
          cases polled with
          | error error => cases congrArg (fun seen => seen.2.2) hseen
          | ok completions =>
              have hreach := (((hinit.step (.allocate 1 1 rfl (returns_of_obliging h₁))).step
                (.submit job 2 (job_launchable _).1 (returns_of_obliging h₂))).step
                (.submit large 2 (job_launchable _).2 (returns_of_obliging h₃))).step
                (.poll (returns_of_obliging h₄))
              exact ⟨_, hreach, Option.some.inj (congrArg (fun seen => seen.2.2) hseen),
                cuda_serves (obliging_only device) (deviceEvents.only Obliging) hreach⟩

end FilteredFrame

end Imgjit
