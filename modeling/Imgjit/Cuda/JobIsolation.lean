import Imgjit.Cuda.LaunchShape
import Imgjit.Cuda.Refusals

/-!
# A bad job stays by itself

The `try` of `CudaBackend::submit` holds bad jobs and driver failures alike, and `NvrtcError` is a
`CudaError`.  Which handler is entered decides whether every other frame is lost: one handler makes
an error entry for the job, the other tears the context down and takes the frames on the device with
it.  A client must not be able to choose the second.

**Bad jobs.**  `CudaBackend.Rejected` are the jobs that fail before a slot is claimed: malformed
ones, those whose chain does not compile, and those with ops that are larger than a slot.

**Refusals of the code generator.**  `CudaBackend.NeverCuda` says of a method that what it throws is
no driver error; the code generator's refusals never are.

**What a rejected job leaves.**  `CudaBackend.launch_rejected` says that the launch throws, with the
cache loaded at most once and everything else as it was.  `CudaBackend.bad_jobs_isolated` is the
whole call: the job is one error entry, and all else is as it was.

**The order of the checks.**  The size of a frame is looked at behind the short cut for empty
chains, and behind the cache.  `OversizedFrame.oversized_not_isolated` shows what that amounts to: a
frame without ops is not refused for its size, and a program that cannot be loaded is a driver error
before the size is looked at.
-/

namespace Imgjit

open Interaction Cuda

namespace CudaBackend

variable {cmath : CMath} {env : Environment DriverCall DriverAnswer}

/-! ## Refusals of the code generator -/

/-- Whatever is thrown, it is not a driver error. -/
def NeverCuda {α : Type} (result : Except Exn α) : Prop :=
  ∀ what, result ≠ .error (.cudaError what)

/-- **A key without a source** is refused with an ordinary exception. -/
theorem emitCudaSource_neverCuda (key : KernelKey) : NeverCuda (emitCudaSource cmath key) := by
  intro what hwhat
  obtain ⟨text, htext⟩ := emitCudaSource_invalidArgument key _ hwhat
  cases htext

/-! ## Bad jobs -/

/-- No input, unusable dimensions, or rows that are not packed. -/
def Malformed (job : FrameJob) : Prop :=
  job.input = none ∨ ¬Image.Shaped job.width job.height job.channels
    ∨ job.stride ≠ sizeT job.width * sizeT job.channels

/-- The job's chain is not in the cache. -/
def Missed (backend : CudaBackend cmath) (job : FrameJob) : Prop :=
  backend.cache.find (backend.config.keyFor job.chain job.channels) = none

/-- What the driver may answer to the load of the job's program, where a load is needed. -/
def LoadAnswers (env : Environment DriverCall DriverAnswer) (backend : CudaBackend cmath)
    (job : FrameJob) (e : env.State) (answer : LoadResult) : Prop :=
  Missed backend job ∧ ∃ program e',
    emitCudaSource cmath (backend.config.keyFor job.chain job.channels) = .ok program
      ∧ env.respond e (.load program) answer e'

/-- The job's chain is not in the cache, and its source is refused, by the generator or by NVRTC. -/
def Uncompilable (env : Environment DriverCall DriverAnswer) (backend : CudaBackend cmath)
    (job : FrameJob) (e : env.State) : Prop :=
  job.chain.ops ≠ [] ∧ Missed backend job
    ∧ ∀ answer, LoadAnswers env backend job e answer → ∃ what, answer = .nvrtcError what

/-- The frame has ops and is larger than a slot, and the driver does not fail in its load. -/
def Oversized (env : Environment DriverCall DriverAnswer) (backend : CudaBackend cmath)
    (job : FrameJob) (e : env.State) : Prop :=
  job.chain.ops ≠ []
    ∧ backend.slotBytes < sizeT job.width * sizeT job.channels * sizeT job.height
    ∧ ∀ what, ¬LoadAnswers env backend job e (.cudaError what)

/-- The three kinds of bad jobs. -/
def Rejected (env : Environment DriverCall DriverAnswer) (backend : CudaBackend cmath)
    (job : FrameJob) (e : env.State) : Prop :=
  Malformed job ∨ Uncompilable env backend job e ∨ Oversized env backend job e

/-! ## What a rejected job leaves -/

/-- The driver has been asked for one load at most. -/
def LoadsOnce (env : Environment DriverCall DriverAnswer) (e e' : env.State) : Prop :=
  e' = e ∨ ∃ program answer, env.respond e (.load program) answer e'

/-- The cache may have a new entry; everything else is as it was. -/
def Cached (before after : CudaBackend cmath) : Prop :=
  ∃ cache, after = { before with cache := cache } ∧ before.cache.entries <:+ cache.entries

/-- A launch, or a part of it, up to the claim of a slot. -/
structure Unclaimed {α : Type} (before : CudaBackend cmath) (e : env.State) (result : Except Exn α)
    (after : CudaBackend cmath) (e' : env.State) : Prop where
  neverCuda : NeverCuda result
  cached : Cached before after
  loads : LoadsOnce env e e'

/-- One error entry under a fresh handle, and nothing else. -/
structure Isolated (before : CudaBackend cmath) (e : env.State) (result : Except Exn JobHandle)
    (after : CudaBackend cmath) (e' : env.State) : Prop where
  handle : result = .ok before.nextHandle
  rest : ∃ reason, Cached
    { before with
      nextHandle := before.nextHandle + 1
      completed := before.completed ++ [failure before.nextHandle reason] } after
  loads : LoadsOnce env e e'

variable {backend : CudaBackend cmath} {job : FrameJob} {e : env.State}

lemma unclaimed_refl {α : Type} {result : Except Exn α} (h : NeverCuda result) :
    Unclaimed backend e result backend e :=
  ⟨h, ⟨backend.cache, rfl, List.suffix_rfl⟩, .inl rfl⟩

/-- A lookup that fails leaves the cache; one that compiles puts its entry in front. -/
lemma get_suffix (cache : KernelCache cmath) (key : KernelKey) (failure : Option Exn) :
    cache.entries <:+ (cache.get key failure).2.entries := by
  rcases hget : cache.get key failure with ⟨error | compiled, cache'⟩
  · obtain rfl := (KernelCache.get_error hget).1
    exact List.suffix_rfl
  · rcases KernelCache.get_ok hget with ⟨_, _, _, _, rfl⟩ | ⟨_, entry, _, _, hentries, _⟩
    · exact List.suffix_rfl
    · rw [hentries]
      exact List.suffix_cons entry cache.entries

lemma get_neverCuda (cache : KernelCache cmath) (key : KernelKey) {failure : Option Exn}
    (h : ∀ what, failure ≠ some (.cudaError what)) : NeverCuda (cache.get key failure).1 := by
  intro what hwhat
  rcases (KernelCache.get_error (Prod.ext hwhat rfl)).2.2 with hemit | hfailure
  · exact emitCudaSource_neverCuda key what hemit
  · exact h what hfailure

lemma get_throws {cache : KernelCache cmath} {key : KernelKey} {failure : Option Exn}
    (hmissed : cache.find key = none)
    (h : ∀ program, emitCudaSource cmath key = .ok program → failure ≠ none) :
    ∀ compiled, (cache.get key failure).1 ≠ .ok compiled := by
  intro compiled hcompiled
  rw [KernelCache.get] at hcompiled
  split at hcompiled
  · rename_i entry hentry
    rw [hmissed] at hentry
    cases hentry
  · split at hcompiled
    · cases hcompiled
    · rename_i program hemit
      split at hcompiled
      · cases hcompiled
      · exact h program hemit rfl

/-- **The lookup of a program** is not stopped by the driver if the load is not; and it throws if
the source is refused. -/
theorem cacheGet_unclaimed (h : ∀ what, ¬LoadAnswers env backend job e (.cudaError what)) :
    Routine.total env (cacheGet (backend.config.keyFor job.chain job.channels))
      (fun result after e' => Unclaimed backend e result after e'
        ∧ (Uncompilable env backend job e → ∀ compiled, result ≠ .ok compiled)) backend e := by
  generalize hkey : backend.config.keyFor job.chain job.channels = key
  have htail : ∀ (failure : Option Exn) (e₁ : env.State), LoadsOnce env e e₁ →
      (∀ what, failure ≠ some (.cudaError what)) →
      (Uncompilable env backend job e →
        ∀ program, emitCudaSource cmath key = .ok program → failure ≠ none) →
      Routine.total env (do
        modify fun backend => { backend with cache := (backend.cache.get key failure).2 }
        ofExcept (backend.cache.get key failure).1 : Method cmath CompiledChain)
        (fun result after e' => Unclaimed backend e result after e'
          ∧ (Uncompilable env backend job e → ∀ compiled, result ≠ .ok compiled)) backend e₁ := by
    intro failure e₁ hloads hcuda hfails
    have hresult : NeverCuda (backend.cache.get key failure).1 := get_neverCuda _ _ hcuda
    have hthrows : Uncompilable env backend job e →
        ∀ compiled, (backend.cache.get key failure).1 ≠ .ok compiled := by
      intro hjob
      have hmissed : backend.cache.find key = none := hkey ▸ hjob.2.1
      exact get_throws hmissed (hfails hjob)
    have hcached : Cached backend { backend with cache := (backend.cache.get key failure).2 } :=
      ⟨_, rfl, get_suffix backend.cache key failure⟩
    refine Routine.total_modify_bind.mpr ?_
    cases hget : (backend.cache.get key failure).1 with
    | ok compiled => exact ⟨⟨hget ▸ hresult, hcached, hloads⟩, hget ▸ hthrows⟩
    | error error => exact ⟨⟨hget ▸ hresult, hcached, hloads⟩, hget ▸ hthrows⟩
  refine Routine.total_get_bind.mpr ?_
  split
  · rename_i program hmissed hemit
    intro answer e₁ hanswer
    have hloads : LoadAnswers env backend job e answer := by
      subst hkey
      exact ⟨hmissed, program, e₁, hemit, hanswer⟩
    refine htail _ e₁ (.inr ⟨program, answer, hanswer⟩) ?_ ?_
    · intro what hwhat
      cases answer with
      | loaded => cases hwhat
      | nvrtcError text => cases hwhat
      | cudaError text => exact h text hloads
    · intro hjob _ _
      rcases hjob.2.2 answer hloads with ⟨what, rfl⟩
      exact Option.some_ne_none _
  · rename_i hother
    refine htail none e (.inl rfl) (fun _ hwhat => by cases hwhat) ?_
    intro hjob program hemit
    exact (hother program (hkey ▸ hjob.2.1) hemit).elim

/-- **A rejected job throws before a slot is claimed**, and what it throws is no driver error. -/
theorem launch_rejected (h : Rejected env backend job e) (handle : JobHandle) (turns : ℕ) :
    Routine.total env (launch job handle turns)
      (fun result after e' => (∃ error, result = .error error)
        ∧ Unclaimed backend e result after e') backend e := by
  have hthrow : ∀ error : Exn, (∀ what, error ≠ .cudaError what) →
      (∃ thrown, (.error error : Except Exn Unit) = .error thrown)
        ∧ Unclaimed backend e (.error error : Except Exn Unit) backend e := by
    intro error herror
    refine ⟨⟨error, rfl⟩, unclaimed_refl ?_⟩
    rintro what ⟨⟩
    exact herror what rfl
  refine Routine.total_get_bind.mpr ?_
  split
  · exact hthrow _ fun _ hwhat => by cases hwhat
  split
  · exact hthrow _ fun _ hwhat => by cases hwhat
  rename_i input hinput
  dsimp only
  split
  · exact hthrow _ fun _ hwhat => by cases hwhat
  rename_i hshaped
  split
  · exact hthrow _ fun _ hwhat => by cases hwhat
  rename_i hstride
  have hjob : Uncompilable env backend job e ∨ Oversized env backend job e := by
    rcases h with hnone | hjob
    · rcases hnone with hnone | hbad | hbad
      · rw [hinput] at hnone
        cases hnone
      · exact absurd hbad hshaped
      · exact absurd hbad hstride
    · exact hjob
  have hops : job.chain.ops ≠ [] := hjob.elim And.left And.left
  have hload : ∀ what, ¬LoadAnswers env backend job e (.cudaError what) := by
    rcases hjob with hjob | hjob
    · intro what hanswer
      rcases hjob.2.2 _ hanswer with ⟨_, hother⟩
      cases hother
    · exact hjob.2.2
  rw [if_neg hops]
  refine Routine.total_get_bind.mpr ((cacheGet_unclaimed hload).bind ?_ ?_)
  · rintro compiled after e₁ ⟨hunclaimed, hthrows⟩
    rcases hjob with hjob | hjob
    · exact absurd rfl (hthrows hjob compiled)
    · rw [if_pos (.inr hjob.2.1)]
      refine ⟨⟨_, rfl⟩, ?_, hunclaimed.cached, hunclaimed.loads⟩
      rintro what ⟨⟩
  · rintro error after e₁ ⟨hunclaimed, -⟩
    refine ⟨⟨error, rfl⟩, ?_, hunclaimed.cached, hunclaimed.loads⟩
    rintro what ⟨⟩
    exact hunclaimed.neverCuda what rfl

/-! ## The whole call -/

/-- The handler of a job that failed without the driver. -/
lemma failJob_isolated {after : CudaBackend cmath} {e' : env.State} (reason : String)
    (hcached : Cached { backend with nextHandle := backend.nextHandle + 1 } after)
    (hloads : LoadsOnce env e e') :
    Routine.total env (failJob backend.nextHandle reason)
      (fun result after e' => result = .ok ()
        ∧ Isolated backend e (.ok backend.nextHandle) after e') after e' := by
  rcases hcached with ⟨cache, rfl, hsuffix⟩
  exact ⟨rfl, rfl, ⟨reason, cache, rfl, hsuffix⟩, hloads⟩

/-- **A rejected job is isolated**, whatever the state of the backend and the turns it is given. -/
theorem submit_isolated (h : Rejected env backend job e) (turns : ℕ) :
    Routine.total env (submit job turns) (Isolated backend e) backend e := by
  refine Routine.total_get_bind.mpr (Routine.total_modify_bind.mpr ?_)
  have hbumped : Rejected env { backend with nextHandle := backend.nextHandle + 1 } job e := h
  refine Routine.total.bind (P := fun result after e' => result = .ok ()
    ∧ Isolated backend e (.ok backend.nextHandle) after e')
    ((launch_rejected hbumped backend.nextHandle turns).handled ?_ ?_) ?_ ?_
  · rintro _ _ _ ⟨⟨_, hresult⟩, -⟩
    cases hresult
  · rintro error after e₁ ⟨-, hunclaimed⟩
    have hfail := fun reason =>
      failJob_isolated reason hunclaimed.cached hunclaimed.loads
    cases error with
    | cudaError what => exact absurd rfl (hunclaimed.neverCuda what)
    | nvrtcError what => exact hfail what
    | invalidArgument what => exact hfail what
    | logicError what => exact hfail what
    | outOfRange what => exact hfail what
    | lengthError what => exact hfail what
    | runtimeError what => exact hfail what
    | outOfBounds => exact hfail ""
  · rintro _ _ _ ⟨-, hisolated⟩
    exact hisolated
  · rintro _ _ _ ⟨herror, -⟩
    cases herror

/-- **One bad job is one error entry.**  Take any state of a backend, and a job without input, with
unusable dimensions or with padded rows, or one whose chain is not cached and is refused by the
generator or by NVRTC, or one with ops that is larger than a slot, unless the driver fails in the
load of its program.  `submit` comes to an end and returns the next handle, which no run has seen
before.  It appends one error entry for that handle.  The context and the recreations, every slot
with its flag, handle and order, the entries that were there, and every program of the cache are as
they were, and the driver has been asked for nothing but the load. -/
theorem bad_jobs_isolated (h : Rejected env backend job e) (turns : ℕ) :
    Routine.total env (submit job turns) (Isolated backend e) backend e
      ∧ ∀ (start : ℕ → env.State → Prop) (s : CudaRun cmath env),
        (cudaSystem cmath env start).Reachable s → s.backend = backend →
          backend.nextHandle ∉ s.issued := by
  refine ⟨submit_isolated h turns, ?_⟩
  rintro start s hreach rfl hmem
  exact absurd ((reachable_inOrder hreach).below _ hmem) (lt_irrefl _)

end CudaBackend

/-! ## A frame of two pixels for slots of one -/

namespace OversizedFrame

open CudaBackend TallFrame

/-- Everything succeeds but a load. -/
def unloading (call : DriverCall) : DriverAnswer call :=
  match call with
  | .load _ => LoadResult.cudaError "out of memory"
  | call => InlineFrame.agreeable call

/-- A driver that answers every call in the same way each time. -/
def unloadingDriver : Environment DriverCall DriverAnswer where
  State := Unit
  respond _ call answer _ := answer = unloading call

/-- Two gray pixels, through `chain`. -/
def pair (chain : OpChain) : FrameJob :=
  { input := some 0, width := 2, height := 1, channels := 1, stride := 2, chain := chain }

/-- The chain without ops. -/
def identity : OpChain := ⟨[]⟩

/-- A submit to an idle backend. -/
def submitted (chain : OpChain) :
    Option ((Except Exn JobHandle × CudaBackend plainMath) × Unit) :=
  (submit (pair chain) 1 idle).eval (fun _ call => (unloading call, ())) ()

/-- Without ops the frame is a success; with one it is the driver error that takes the context down.
-/
theorem submitted_outcome : (submitted identity).map outcome = some (some 1, [(1, .kOk)], 0)
    ∧ (submitted inverted).map outcome = some (some 1, [(1, .kError)], 1) := by
  decide +kernel

/-- A run, and what has become of the frame and of the context. -/
lemma submitted_returns {chain : OpChain} {completions : List (JobHandle × JobStatus)}
    {recreations : ℕ}
    (h : (submitted chain).map outcome = some (some 1, completions, recreations)) :
    ∃ after, (submit (pair chain) 1 idle).Returns unloadingDriver () (.ok 1, after) ()
      ∧ after.completed.map (fun c => (c.handle, c.status)) = completions
      ∧ after.contextRecreations = recreations := by
  rcases Option.map_eq_some_iff.mp h with ⟨⟨⟨result, after⟩, _⟩, hrun, houtcome⟩
  simp only [outcome, Prod.mk.injEq] at houtcome
  rcases houtcome with ⟨hresult, hcompleted, hrecreations⟩
  cases result with
  | error error => cases hresult
  | ok handle =>
      cases hresult
      exact ⟨after, @Prog.returns_of_eval _ _ _ unloadingDriver
        (fun _ call => (unloading call, ())) (fun _ _ => rfl) _ _ _ _ hrun, hcompleted,
        hrecreations⟩

/-- **A frame larger than a slot** is completed if it has no ops; and if the driver fails in the
load of its program, which comes before its size is looked at, the context is torn down. -/
theorem oversized_not_isolated :
    (∀ chain, idle.slotBytes < sizeT (pair chain).width * sizeT (pair chain).channels
        * sizeT (pair chain).height)
      ∧ (∃ after, (submit (pair identity) 1 idle).Returns unloadingDriver () (.ok 1, after) ()
        ∧ after.completed.map (fun c => (c.handle, c.status)) = [(1, .kOk)]
        ∧ ¬@Isolated _ unloadingDriver idle () (.ok 1) after ())
      ∧ ∃ after, (submit (pair inverted) 1 idle).Returns unloadingDriver () (.ok 1, after) ()
        ∧ after.contextRecreations = 1
        ∧ ¬@Isolated _ unloadingDriver idle () (.ok 1) after () := by
  have hsize : idle.slotBytes < sizeT 2 * sizeT 1 * sizeT 1 := by decide +kernel
  refine ⟨fun _ => hsize, ?_, ?_⟩
  · rcases submitted_returns submitted_outcome.1 with ⟨after, hreturns, hcompleted, -⟩
    refine ⟨after, hreturns, hcompleted, ?_⟩
    intro hisolated
    rcases hisolated.rest with ⟨reason, cache, rfl, -⟩
    cases hcompleted
  · rcases submitted_returns submitted_outcome.2 with ⟨after, hreturns, -, hrecreations⟩
    refine ⟨after, hreturns, hrecreations, ?_⟩
    intro hisolated
    rcases hisolated.rest with ⟨reason, cache, rfl, -⟩
    cases hrecreations

/-- The same pixels, with ops, without an input. -/
def orphan : FrameJob := { pair inverted with input := none }

/-- Two slots of one byte are built, one gray pixel is submitted, and then a frame without input. -/
def crowded : Option (CudaRun plainMath strictDriver) :=
  ({ backend := fresh, driver := () } : CudaRun plainMath strictDriver).performAll
    (fun _ call => (strict call, ()))
    [.manage (.allocateSlots 4 1), .submit pixelJob 1, .submit orphan 1]

/-- What the backend is then busy with, and whether it has the program of the two pixels. -/
def burden (s : CudaRun plainMath strictDriver) : CudaRun.Seen × JobHandle × UInt64 × Bool :=
  (s.seen, s.backend.nextHandle, s.backend.slotBytes,
    (s.backend.cache.find (s.backend.config.keyFor (pair inverted).chain
      (pair inverted).channels)).isSome)

/-- A slot is busy, an entry is completed, and a program is cached. -/
lemma crowded_burden : crowded.map burden
    = some (⟨[2, 1], [1], [(2, .kError)], [], 0⟩, 3, 1, true) := by
  decide +kernel

/-- To that backend two bad jobs are submitted, one without input and one too large for a slot, and
each is isolated. -/
theorem bad_jobs_isolated_crowded :
    ∃ s : CudaRun plainMath strictDriver, (cudaSystem plainMath strictDriver fun _ _ => True).Reachable s
      ∧ s.seen = ⟨[2, 1], [1], [(2, .kError)], [], 0⟩
      ∧ ∀ job ∈ [orphan, pair inverted], ∃ after,
        (submit job 0 s.backend).Returns strictDriver () (.ok 3, after) ()
          ∧ @Isolated _ strictDriver s.backend () (.ok 3) after () := by
  rcases Option.map_eq_some_iff.mp crowded_burden with ⟨s, hrun, hburden⟩
  have hreach : (cudaSystem plainMath strictDriver fun _ _ => True).Reachable s := by
    refine reachable_performAll ?_ (.init ⟨0, 0, 2, {}, rfl, trivial, rfl, rfl⟩) hrun
    exact fun _ _ => rfl
  simp only [burden, Prod.mk.injEq] at hburden
  rcases hburden with ⟨hseen, hnext, hbytes, hcached⟩
  refine ⟨s, hreach, hseen, fun job hjob => ?_⟩
  have hrejected : @Rejected _ strictDriver s.backend job () := by
    rcases List.mem_cons.mp hjob with rfl | hjob
    · exact .inl (.inl rfl)
    · obtain rfl := List.mem_singleton.mp hjob
      refine .inr (.inr ⟨List.cons_ne_nil _ _, ?_, ?_⟩)
      · rw [hbytes]
        decide +kernel
      · -- The program is there, so the driver is not asked to load one.
        rintro what ⟨hmissed, -⟩
        rw [hmissed] at hcached
        cases hcached
  have hspec := (@bad_jobs_isolated plainMath strictDriver s.backend job () hrejected 0).1
  rcases Prog.total.returns (fun _ call => ⟨strict call, (), rfl⟩) hspec with
    ⟨⟨result, after⟩, _, hreturns, hisolated⟩
  have hresult : result = .ok 3 := hisolated.handle.trans (congrArg Except.ok hnext)
  subst hresult
  exact ⟨after, hreturns, hisolated⟩

end OversizedFrame

end Imgjit
