import Imgjit.Cuda.BackendAccounts
import Imgjit.Library.Transition

/-!
# Runs of a CUDA backend

Sequences of calls on one `CudaBackend`, with every answer its driver may give.  A step is a whole
call of a method, from the constructor's backend on: the worker calls one method at a time, and the
driver's state is between the calls.

* `BackendCall` — the calls of startup and recovery; those of the worker are steps of their own,
  since the caller keeps what they return.
* `CudaRun`, `cudaSystem` — the backend, its driver, and what the caller has got from it so far.
* `Accounted` — every handle is new, and in one place.
* `cuda_accounts` — that is so in every run, and no exception leaves `submit` or `pollCompletions`.

A run that is meant as an example should not have its driver's answers written out.  `CudaCall` is a
call of any kind, `CudaRun.perform` makes it with the first answers of a driver that answers by a
function, and `reachable_performAll` says that what such a run computes is reachable.  The run at
the end goes through a chain without ops, a frame that is queued and a frame whose failure takes the
queued one down with it.
-/

namespace Imgjit

open Interaction Cuda CudaBackend

variable {cmath : CMath} {env : Environment DriverCall DriverAnswer}

/-! ## Runs -/

/-- The calls that may throw at their caller. -/
inductive BackendCall where
  | allocateSlots (count bytes : UInt64)
  | prewarm (chain : OpChain) (channels : Int32)
  | recreateContext (reason : String)

/-- The method that a call runs. -/
def BackendCall.method : BackendCall → Method cmath Unit
  | allocateSlots count bytes => CudaBackend.allocateSlots count bytes
  | prewarm chain channels => CudaBackend.prewarm chain channels
  | recreateContext reason => CudaBackend.recreateContext reason

/-- A backend, its driver, and what the caller has got so far. -/
structure CudaRun (cmath : CMath) (env : Environment DriverCall DriverAnswer) where
  backend : CudaBackend cmath
  driver : env.State
  /-- What `submit` has returned, newest first, each with its job. -/
  submitted : List (JobHandle × FrameJob) := []
  /-- What `pollCompletions` has returned. -/
  delivered : List Completion := []

namespace CudaRun

/-- The handles that `submit` has returned. -/
def issued (s : CudaRun cmath env) : List JobHandle := s.submitted.map Prod.fst

/-- The handles whose completion has been handed out. -/
def deliveredHandles (s : CudaRun cmath env) : List JobHandle :=
  s.delivered.map Completion.handle

end CudaRun

/-- One call, with any answers of the driver. -/
inductive CudaStep : CudaRun cmath env → CudaRun cmath env → Prop
  | manage {s : CudaRun cmath env} {result : Except Exn Unit} {after : CudaBackend cmath}
      {driver : env.State} (call : BackendCall) :
      (call.method s.backend).Returns env s.driver (result, after) driver →
      CudaStep s { s with backend := after, driver := driver }
  | submit {s : CudaRun cmath env} {handle : JobHandle} {after : CudaBackend cmath}
      {driver : env.State} (job : FrameJob) (turns : ℕ) :
      (CudaBackend.submit job turns s.backend).Returns env s.driver (.ok handle, after) driver →
      CudaStep s
        { s with backend := after, driver := driver, submitted := (handle, job) :: s.submitted }
  | poll {s : CudaRun cmath env} {completions : List Completion} {after : CudaBackend cmath}
      {driver : env.State} :
      (pollCompletions s.backend).Returns env s.driver (.ok completions, after) driver →
      CudaStep s
        { s with backend := after, driver := driver, delivered := s.delivered ++ completions }

/-- The runs of one backend, from its construction on.  `start` says in which states the driver may
be when it has made this context. -/
def cudaSystem (cmath : CMath) (env : Environment DriverCall DriverAnswer)
    (start : ℕ → env.State → Prop) : Transition.System (CudaRun cmath env) where
  init s := ∃ context deviceOrdinal streamCount config,
    construct context deviceOrdinal streamCount config = .ok s.backend ∧ start context s.driver
      ∧ s.submitted = [] ∧ s.delivered = []
  step := CudaStep

/-! ## The accounts of a run -/

/-- Each handle that was ever returned is new, and is in one place: on one busy slot, in one entry
of the completed list, or handed out once. -/
structure Accounted (s : CudaRun cmath env) : Prop where
  fresh : s.issued.Nodup
  placed : (s.backend.busyHandles ++ s.backend.completed.map Completion.handle
    ++ s.deliveredHandles).Perm s.issued
  few : s.backend.busyHandles.length ≤ s.backend.streamCount

/-- With what carries it from call to call. -/
structure InOrder (s : CudaRun cmath env) : Prop where
  wellFormed : s.backend.WellFormed
  fresh : s.issued.Nodup
  placed : (s.backend.outstanding ++ s.deliveredHandles).Perm s.issued
  below : ∀ handle ∈ s.issued, handle < s.backend.nextHandle

variable {start : ℕ → env.State → Prop} {s s' : CudaRun cmath env}

lemma construct_wellFormed {context streamCount : ℕ} {ordinal : Int32} {config : BackendConfig}
    {backend : CudaBackend cmath}
    (h : construct context ordinal streamCount config = .ok backend) :
    backend.WellFormed ∧ backend.outstanding = [] := by
  unfold construct at h
  split at h
  · cases h
  split at h
  · cases h
  · cases h
    exact ⟨⟨Nat.zero_le _, fun _ hslot => absurd hslot List.not_mem_nil, fun _ => ⟨rfl, rfl⟩⟩, rfl⟩

lemma manage_keeps (h : s.backend.WellFormed) (call : BackendCall) :
    Routine.wp env (call.method) (fun _ after _ => Keeps [] s.backend after) s.backend
      s.driver := by
  cases call with
  | allocateSlots count bytes => exact allocateSlots_keeps h count bytes
  | prewarm chain channels => exact prewarm_keeps h chain channels
  | recreateContext reason =>
      exact (recreateContext_torn h).mono fun _ _ _ hafter => hafter.keeps

lemma InOrder.step (h : InOrder s) (hstep : CudaStep s s') : InOrder s' := by
  cases hstep with
  | manage call hreturns =>
      have hkeeps := Prog.wp_iff_returns.mp (manage_keeps h.wellFormed call) _ _ hreturns
      refine ⟨hkeeps.wellFormed, h.fresh, (hkeeps.outstanding.append_right _).trans h.placed, ?_⟩
      intro handle hhandle
      rw [hkeeps.nextHandle]
      exact h.below handle hhandle
  | submit job turns hreturns =>
      have hsubmitted := Prog.wp_iff_returns.mp (submit_submitted h.wellFormed job turns) _ _
        hreturns
      obtain rfl := Except.ok.inj hsubmitted.result
      refine ⟨hsubmitted.wellFormed, ?_, ?_, ?_⟩
      · refine List.nodup_cons.mpr ⟨?_, h.fresh⟩
        intro hmem
        exact absurd (h.below _ hmem) (lt_irrefl _)
      · exact (hsubmitted.outstanding.append_right _).trans (h.placed.cons _)
      · intro handle hhandle
        rw [hsubmitted.nextHandle]
        rcases List.mem_cons.mp hhandle with rfl | hhandle
        · exact Nat.lt_succ_self _
        · exact Nat.lt_succ_of_lt (h.below handle hhandle)
  | @poll completions after driver hreturns =>
      have hpolled : Polled s.backend (.ok completions) after :=
        Prog.wp_iff_returns.mp (pollCompletions_polled h.wellFormed) _ _ hreturns
      rcases hpolled.delivered with ⟨_, hresult, hperm⟩
      obtain rfl := Except.ok.inj hresult
      refine ⟨hpolled.wellFormed, h.fresh, List.Perm.trans ?_ h.placed, ?_⟩
      · have houtstanding : after.outstanding = after.busyHandles := by
          rw [outstanding, hpolled.completed, List.map_nil, List.append_nil]
        simp only [houtstanding, CudaRun.deliveredHandles, List.map_append]
        refine (List.perm_append_comm.append_left _).trans ?_
        rw [← List.append_assoc]
        exact hperm.append_right _
      · intro handle hhandle
        rw [hpolled.nextHandle]
        exact h.below handle hhandle

/-- In every run the handles are in order: the step lemma, over all calls. -/
theorem reachable_inOrder (h : (cudaSystem cmath env start).Reachable s) : InOrder s := by
  refine h.invariant ?_ fun _ _ _ hs hstep => hs.step hstep
  rintro s ⟨context, ordinal, streamCount, config, hconstruct, -, hsubmitted, hdelivered⟩
  rcases construct_wellFormed hconstruct with ⟨hwell, hempty⟩
  refine ⟨hwell, ?_, ?_, ?_⟩
  all_goals simp only [CudaRun.issued, CudaRun.deliveredHandles, hsubmitted, hdelivered, hempty,
    List.map_nil, List.nodup_nil, List.append_nil, List.Perm.refl, List.not_mem_nil, false_implies,
    implies_true]

lemma InOrder.accounted (h : InOrder s) : Accounted s where
  fresh := h.fresh
  placed := h.placed
  few := by
    rw [busyHandles, List.length_map]
    exact (List.length_filter_le _ _).trans h.wellFormed.few

/-- **No frame is lost, doubled or handed out twice.**  Take any sequence of calls on a backend,
and any answers of the driver and of NVRTC inside them.  Every handle is new and in one place, and
the busy frames are no more than the streams.  The next submit returns a handle not seen before and
the next poll returns as well, neither with an exception.  Whenever a context is recreated, here or
inside those two, and however far the rebuild gets, the frames on the device become error entries
of the completed list. -/
theorem cuda_accounts (h : (cudaSystem cmath env start).Reachable s) :
    Accounted s
      ∧ (∀ job turns, Routine.wp env (submit job turns)
        (fun result _ _ => ∃ handle, result = .ok handle ∧ handle ∉ s.issued) s.backend s.driver)
      ∧ Routine.wp env pollCompletions
        (fun result after _ => (∃ completions, result = .ok completions) ∧ after.completed = [])
        s.backend s.driver
      ∧ s.backend.WellFormed
      ∧ ∀ (backend : CudaBackend cmath) (driver : env.State) (reason : String),
        backend.WellFormed → Routine.wp env (recreateContext reason)
          (fun _ after _ => Torn reason backend after) backend driver := by
  have hs := reachable_inOrder h
  refine ⟨hs.accounted, ?_, ?_, hs.wellFormed, fun _ _ _ hwell => recreateContext_torn hwell⟩
  · intro job turns
    refine (submit_submitted hs.wellFormed job turns).mono ?_
    intro result after _ hafter
    refine ⟨s.backend.nextHandle, hafter.result, ?_⟩
    intro hmem
    exact absurd (hs.below _ hmem) (lt_irrefl _)
  · refine (pollCompletions_polled hs.wellFormed).mono ?_
    rintro result after _ hafter
    rcases hafter.delivered with ⟨completions, hresult, -⟩
    exact ⟨⟨completions, hresult⟩, hafter.completed⟩

/-! ## Runs that are computed -/

/-- A call of the owner, or one of the worker. -/
inductive CudaCall where
  | manage (call : BackendCall)
  | submit (job : FrameJob) (turns : ℕ)
  | poll

namespace CudaRun

/-- What is to be seen of a run. -/
structure Seen where
  issued : List JobHandle
  busy : List JobHandle
  completed : List (JobHandle × JobStatus)
  delivered : List (JobHandle × JobStatus)
  recreations : ℕ
  deriving DecidableEq

/-- The handles, where they are, and how often the context was recreated. -/
def seen (s : CudaRun cmath env) : Seen where
  issued := s.issued
  busy := s.backend.busyHandles
  completed := s.backend.completed.map fun c => (c.handle, c.status)
  delivered := s.delivered.map fun c => (c.handle, c.status)
  recreations := s.backend.contextRecreations

variable (respond : env.State → (call : DriverCall) → DriverAnswer call × env.State)

/-- One call, with a driver whose answers are computed. -/
def perform (s : CudaRun cmath env) : CudaCall → Option (CudaRun cmath env)
  | .manage call => ((call.method s.backend).eval respond s.driver).map fun run =>
      { s with backend := run.1.2, driver := run.2 }
  | .submit job turns =>
      match (CudaBackend.submit job turns s.backend).eval respond s.driver with
      | some ((.ok handle, after), driver) => some
          { s with backend := after, driver := driver, submitted := (handle, job) :: s.submitted }
      | _ => none
  | .poll =>
      match (pollCompletions s.backend).eval respond s.driver with
      | some ((.ok completions, after), driver) => some
          { s with backend := after, driver := driver, delivered := s.delivered ++ completions }
      | _ => none

/-- One call after the other. -/
def performAll (s : CudaRun cmath env) : List CudaCall → Option (CudaRun cmath env)
  | [] => some s
  | call :: calls => (s.perform respond call).bind fun s' => s'.performAll calls

end CudaRun

variable {respond : env.State → (call : DriverCall) → DriverAnswer call × env.State}

/-- A computed call is a step, if the driver may give the computed answers. -/
lemma step_of_perform
    (hrespond : ∀ e call, env.respond e call (respond e call).1 (respond e call).2)
    {call : CudaCall} (h : s.perform respond call = some s') : CudaStep s s' := by
  cases call with
  | manage call =>
      rcases Option.map_eq_some_iff.mp h with ⟨⟨⟨result, after⟩, driver⟩, heval, rfl⟩
      exact .manage call (Prog.returns_of_eval hrespond heval)
  | submit job turns =>
      simp only [CudaRun.perform] at h
      split at h
      · rename_i heval
        cases h
        exact .submit job turns (Prog.returns_of_eval hrespond heval)
      · cases h
  | poll =>
      simp only [CudaRun.perform] at h
      split at h
      · rename_i heval
        cases h
        exact .poll (Prog.returns_of_eval hrespond heval)
      · cases h

/-- **A computed run is a run**. -/
theorem reachable_performAll
    (hrespond : ∀ e call, env.respond e call (respond e call).1 (respond e call).2)
    (hreach : (cudaSystem cmath env start).Reachable s) {calls : List CudaCall}
    (h : s.performAll respond calls = some s') : (cudaSystem cmath env start).Reachable s' := by
  induction calls generalizing s with
  | nil =>
      cases h
      exact hreach
  | cons call calls ih =>
      rcases Option.bind_eq_some_iff.mp h with ⟨middle, hcall, hcalls⟩
      exact ih (hreach.step (step_of_perform hrespond hcall)) hcalls

/-! ## A frame without ops, and a frame that takes another down -/

namespace InlineFrame

/-- Any answer may come. -/
def anyDriver : Environment DriverCall DriverAnswer where
  State := Unit
  respond _ _ _ _ := True

/-- Everything succeeds, and every byte that is read is 7. -/
def agreeable (call : DriverCall) : DriverAnswer call :=
  match call with
  | .cuCtxCreate => .ok 0
  | .create _ => .ok 0
  | .load _ => .loaded
  | .read _ _ bytes => ⟨List.replicate bytes 7, List.length_replicate⟩
  | .cuInit | .cuDeviceGet _ | .cuCtxDestroy _ | .cuMemHostRegister | .cuMemHostUnregister
  | .destroy _ _ | .enqueue _ _ _ | .cuEventQuery _ | .cuEventSynchronize _
  | .cuEventElapsedTime _ _ => CUresult.CUDA_SUCCESS

/-- The same, but no event completes, and the kernels of the third frame cannot be launched. -/
def picky (call : DriverCall) : DriverAnswer call :=
  match call with
  | .enqueue _ 3 (.cuLaunchKernel _ _ _) => CUresult.failure "CUDA_ERROR_LAUNCH_FAILED"
  | .cuEventQuery _ => CUresult.CUDA_ERROR_NOT_READY "CUDA_ERROR_NOT_READY"
  | call => agreeable call

/-- A backend with two streams. -/
def backend : CudaBackend plainMath where
  context := some 0
  streamCount := 2
  config := {}

/-- One gray pixel, through no ops. -/
def job : FrameJob := { input := some 0, width := 1, height := 1, channels := 1, stride := 1 }

/-- The same pixel, through `invert`. -/
def filteredJob : FrameJob := { job with chain := { ops := [{ kind := .kInvert }] } }

/-- The slots are built, and four frames are submitted: one without ops, one that stays on the
device, one that fails and takes it down, and one for the new context.  A poll hands three of them
out, and a fifth frame without ops is submitted. -/
def calls : List CudaCall :=
  [.manage (.allocateSlots 1 1), .submit job 1, .submit filteredJob 1, .submit filteredJob 1,
    .submit filteredJob 1, .poll, .submit job 1]

/-- The run of these calls. -/
def torn : Option (CudaRun plainMath anyDriver) :=
  ({ backend := backend, driver := () } : CudaRun plainMath anyDriver).performAll
    (fun _ call => (picky call, ())) calls

/-- The second frame goes down with the third, and the fourth is on the device in the end. -/
def accounts : CudaRun.Seen where
  issued := [5, 4, 3, 2, 1]
  busy := [4]
  completed := [(5, .kOk)]
  delivered := [(1, .kOk), (3, .kError), (2, .kError)]
  recreations := 1

/-- That is what the run computes. -/
lemma torn_seen : torn.map CudaRun.seen = some accounts := by decide +kernel

/-- The five frames are accounted for, though the context of two of them is gone. -/
theorem cuda_accounts_torn :
    ∃ s : CudaRun plainMath anyDriver, (cudaSystem plainMath anyDriver fun _ _ => True).Reachable s
      ∧ s.seen = accounts ∧ Accounted s := by
  rcases Option.map_eq_some_iff.mp torn_seen with ⟨s, hrun, hseen⟩
  have hreach : (cudaSystem plainMath anyDriver fun _ _ => True).Reachable s :=
    reachable_performAll (fun _ _ => trivial)
      (.init ⟨0, 0, 2, {}, rfl, trivial, rfl, rfl⟩) hrun
  exact ⟨s, hreach, hseen, (cuda_accounts hreach).1⟩

end InlineFrame

end Imgjit
