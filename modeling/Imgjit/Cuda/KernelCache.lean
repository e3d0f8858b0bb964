import Imgjit.Cuda.NaiveProgram
import Imgjit.Cuda.ParameterErasure

/-!
# The kernel cache

`KernelKey` to compiled program.  Lookup is by hash and equality of keys, and equality ignores
parameters on a parameterized key, so one entry serves frames with other parameters than those it
was compiled for.  A reader has to be told that such a frame does not run with somebody else's
parameters.

**The cache.**  `CacheEntry` is a key and what was compiled for it; that the two belong together is
part of the entry, so no cache with a mismatched entry can be written down.  `KernelCache.get`
compiles on a miss and returns the existing entry on a hit.  A compilation that fails is no entry.

**What a frame runs.**  `framePlan` is what the launcher makes of a compiled program and a job: the
kernels in order, each with the arguments that it takes from the job's own chain.

**Histories.**  `CacheRequest` and `CacheRun` are prewarming and frame launches on one backend, one
after the other, any of which may fail.  `CacheRun.Sound` is the invariant.  `cached_plan_eq_fresh`
says that in every such history a frame gets what compiling its own key would give, and that a key
that has been compiled is not compiled again.
-/

namespace Imgjit

namespace Cuda

/-! ## The cache -/

/-- What was compiled for a key. -/
structure CacheEntry (cmath : CMath) where
  key : KernelKey
  compiled : CompiledChain
  emitted : emitCudaSource cmath key = .ok compiled.program
  loaded : compileProgram compiled.program = some compiled

/-- The cache: its entries, and how many programs it has compiled. -/
structure KernelCache (cmath : CMath) where
  entries : List (CacheEntry cmath) := []
  /-- Never reset by `clear`. -/
  compileCount : ℕ := 0

namespace KernelCache

variable {cmath : CMath}

/-- `entries_.find(key)`. -/
def find (cache : KernelCache cmath) (key : KernelKey) : Option (CacheEntry cmath) :=
  cache.entries.find? fun entry =>
    hashKernelKey entry.key == hashKernelKey key && entry.key.beq key

/-- `get`.  `failure` is what NVRTC or the loader throws, if they do; they are only asked on a miss,
and only for a key that has a source. -/
def get (cache : KernelCache cmath) (key : KernelKey) (failure : Option Exn) :
    Except Exn CompiledChain × KernelCache cmath :=
  match cache.find key with
  | some entry => (.ok entry.compiled, cache)
  | none =>
      match emitted : emitCudaSource cmath key with
      | .error error => (.error error, cache)
      | .ok program =>
          match failure with
          | some error => (.error error, cache)
          | none =>
              let compiled : CompiledChain := ⟨program, program.source.stages⟩
              (.ok compiled, {
                entries := ⟨key, compiled, emitted, compileProgram_ok emitted⟩ :: cache.entries
                compileCount := cache.compileCount + 1 })

/-- `clear`, as a recreation of the context does it. -/
def clear (cache : KernelCache cmath) : KernelCache cmath := { cache with entries := [] }

/-! ## Finding and inserting -/

/-- The hash never hides an equal key. -/
lemma find_eq (cache : KernelCache cmath) (key : KernelKey) :
    cache.find key = cache.entries.find? fun entry => entry.key.beq key := by
  rw [find]
  congr 1
  funext entry
  cases hbeq : entry.key.beq key with
  | true => rw [KernelKey.hash_of_beq hbeq, beq_self_eq_true, Bool.and_true]
  | false => rw [Bool.and_false]

lemma find_some {cache : KernelCache cmath} {key : KernelKey} {entry : CacheEntry cmath}
    (h : cache.find key = some entry) : entry ∈ cache.entries ∧ entry.key.beq key = true := by
  rw [find_eq] at h
  have hbeq := @List.find?_some _ (fun entry : CacheEntry cmath => entry.key.beq key) _ _ h
  exact ⟨List.mem_of_find?_eq_some h, hbeq⟩

lemma find_none {cache : KernelCache cmath} {key : KernelKey} (h : cache.find key = none) :
    ∀ entry ∈ cache.entries, entry.key.beq key = false := by
  rw [find_eq, List.find?_eq_none] at h
  intro entry hmem
  simpa using h entry hmem

/-- **What a successful `get` does.**  It hits and changes nothing, or it compiles this very key and
counts it. -/
theorem get_ok {cache cache' : KernelCache cmath} {key : KernelKey} {failure : Option Exn}
    {compiled : CompiledChain} (h : cache.get key failure = (.ok compiled, cache')) :
    (∃ entry ∈ cache.entries, entry.key.beq key = true ∧ entry.compiled = compiled
        ∧ cache' = cache)
      ∨ (∀ entry ∈ cache.entries, entry.key.beq key = false)
        ∧ ∃ entry : CacheEntry cmath, entry.key = key ∧ entry.compiled = compiled
          ∧ cache'.entries = entry :: cache.entries
          ∧ cache'.compileCount = cache.compileCount + 1 := by
  unfold get at h
  split at h
  · rename_i entry hfind
    cases h
    exact .inl ⟨entry, (find_some hfind).1, (find_some hfind).2, rfl, rfl⟩
  · rename_i hfind
    split at h
    · cases h
    · rename_i program emitted
      split at h
      · cases h
      · cases h
        exact .inr ⟨find_none hfind, _, rfl, rfl, rfl, rfl⟩

/-- **A failed `get` leaves the cache as it was**; it is a miss. -/
theorem get_error {cache cache' : KernelCache cmath} {key : KernelKey} {failure : Option Exn}
    {error : Exn} (h : cache.get key failure = (.error error, cache')) :
    cache' = cache ∧ (∀ entry ∈ cache.entries, entry.key.beq key = false)
      ∧ (emitCudaSource cmath key = .error error ∨ failure = some error) := by
  unfold get at h
  split at h
  · cases h
  · rename_i hfind
    split at h
    · rename_i emitted
      cases h
      exact ⟨rfl, find_none hfind, .inl emitted⟩
    · split at h
      · cases h
        exact ⟨rfl, find_none hfind, .inr rfl⟩
      · cases h

end KernelCache

/-! ## What a frame runs -/

/-- One `cuLaunchKernel`: the function, its shape, and the values behind the four common
arguments. -/
structure KernelLaunch where
  function : StageCode
  gridX : UInt32
  gridY : UInt32
  block : UInt32
  /-- `none` where the source would write past `taps`. -/
  args : Option (List KernelArg)
  deriving DecidableEq, Repr

/-- The launch of one stage.  Shape and values come from the job, the function from the cache. -/
def kernelLaunch (cmath : CMath) (job : FrameJob) (function : StageCode) (stage : GeneratedStage) :
    KernelLaunch :=
  let block := UInt32.ofNat stage.blockDim
  { function := function
    gridX := gridDim job.width block
    gridY := gridDim job.height block
    block := block
    args := stageArguments cmath job.chain stage }

/-- The launches of a frame, front to back. -/
def framePlan (cmath : CMath) (job : FrameJob) (compiled : CompiledChain) : List KernelLaunch :=
  (compiled.stageFunctions.zip compiled.program.stages).map fun pair =>
    kernelLaunch cmath job pair.1 pair.2

/-- How a backend's keys are made: the constructor's arguments. -/
structure BackendConfig where
  tile : TileVariant := .kNaive
  tileSize : Int32 := 0
  constants : ConstantsMode := .kBaked

/-- `key_for`. -/
def BackendConfig.keyFor (config : BackendConfig) (chain : OpChain) (channels : Int32) :
    KernelKey where
  chain := chain
  channels := channels
  tile := config.tile
  tileSize := config.tileSize
  constants := config.constants

/-- What a frame would run if its own key had just been compiled. -/
def freshPlan (cmath : CMath) (config : BackendConfig) (job : FrameJob) :
    Except Exn (List KernelLaunch) := do
  let program ← emitCudaSource cmath (config.keyFor job.chain job.channels)
  .ok (framePlan cmath job ⟨program, program.source.stages⟩)

/-! ## Histories -/

/-- What the cache is asked: by a prewarming, or by the launch of a frame. -/
inductive CacheRequest where
  | prewarm (chain : OpChain) (channels : Int32)
  | frame (job : FrameJob)

namespace CacheRequest

/-- The chain that a program is wanted for. -/
def chain : CacheRequest → OpChain
  | prewarm chain _ => chain
  | frame job => job.chain

/-- The channels that a program is wanted for. -/
def channels : CacheRequest → Int32
  | prewarm _ channels => channels
  | frame job => job.channels

end CacheRequest

/-- The outcome of a request: nothing for an empty chain, which never reaches the cache. -/
abbrev CacheOutcome := Option (Except Exn CompiledChain)

/-- One request on a backend, with what its compilation would throw. -/
def serveRequest {cmath : CMath} (config : BackendConfig) (cache : KernelCache cmath)
    (request : CacheRequest) (failure : Option Exn) : CacheOutcome × KernelCache cmath :=
  if request.chain.ops = [] then (none, cache)
  else
    let result := cache.get (config.keyFor request.chain request.channels) failure
    (some result.1, result.2)

/-- The state of a history: the cache, and the keys `get` has answered so far. -/
structure CacheRun (cmath : CMath) where
  cache : KernelCache cmath := {}
  answered : List KernelKey := []

/-- One request, served and entered in the history. -/
def CacheRun.serve {cmath : CMath} (config : BackendConfig) (run : CacheRun cmath)
    (step : CacheRequest × Option Exn) : CacheRun cmath :=
  let result := serveRequest config run.cache step.1 step.2
  { cache := result.2
    answered :=
      match result.1 with
      | some (.ok _) => config.keyFor step.1.chain step.1.channels :: run.answered
      | _ => run.answered }

/-- A whole history, from an empty cache. -/
def CacheRun.after {cmath : CMath} (config : BackendConfig)
    (history : List (CacheRequest × Option Exn)) : CacheRun cmath :=
  history.foldl (CacheRun.serve config) {}

/-- What holds of the cache at any point of a history. -/
structure CacheRun.Sound {cmath : CMath} (run : CacheRun cmath) : Prop where
  admitted : ∀ entry ∈ run.cache.entries, AdmittedChain entry.key.chain
  /-- A key has an entry exactly when an equal key has been answered. -/
  covered : ∀ key, (∃ entry ∈ run.cache.entries, entry.key.beq key = true)
    ↔ ∃ earlier ∈ run.answered, earlier.beq key = true

/-- Every chain of a history was returned by the parser. -/
def ParsedHistory (strtof : List Char → Option ℚ) (history : List (CacheRequest × Option Exn)) :
    Prop :=
  ∀ step ∈ history, ∃ text, parseOpChain strtof text = .ok step.1.chain

section Histories

variable {cmath : CMath} {config : BackendConfig}

/-- **One request keeps the cache sound.** -/
theorem CacheRun.Sound.serve {run : CacheRun cmath} (h : run.Sound)
    {step : CacheRequest × Option Exn} (hchain : AdmittedChain step.1.chain) :
    (run.serve config step).Sound := by
  rcases step with ⟨request, failure⟩
  simp only at hchain
  simp only [CacheRun.serve, serveRequest]
  split_ifs with hempty
  · exact ⟨h.admitted, h.covered⟩
  generalize hkey : config.keyFor request.chain request.channels = key
  have hadmitted : AdmittedChain key.chain := by
    rw [← hkey]
    exact hchain
  rcases hget : run.cache.get key failure with ⟨result, cache'⟩
  cases result with
  | error error =>
      rw [(KernelCache.get_error hget).1]
      exact ⟨h.admitted, h.covered⟩
  | ok compiled =>
      rcases KernelCache.get_ok hget
        with ⟨entry, hentry, hbeq, -, rfl⟩ | ⟨-, entry, rfl, -, hentries, -⟩
      · refine ⟨h.admitted, fun other => ⟨fun hother => ?_, fun hother => ?_⟩⟩
        · rcases (h.covered other).mp hother with ⟨earlier, hearlier, heq⟩
          exact ⟨earlier, List.mem_cons_of_mem _ hearlier, heq⟩
        · rcases hother with ⟨earlier, hearlier, heq⟩
          rcases List.mem_cons.mp hearlier with rfl | hearlier
          · exact ⟨entry, hentry, KernelKey.beq_trans hbeq heq⟩
          · exact (h.covered other).mpr ⟨earlier, hearlier, heq⟩
      · refine ⟨fun other hother => ?_, fun other => ?_⟩
        · rw [hentries] at hother
          rcases List.mem_cons.mp hother with rfl | hother
          · exact hadmitted
          · exact h.admitted other hother
        · simp only [hentries, List.exists_mem_cons_iff, h.covered other]

/-- Before the first request there is nothing to know. -/
lemma CacheRun.sound_empty : ({} : CacheRun cmath).Sound :=
  ⟨fun _ h => absurd h List.not_mem_nil, fun _ => by simp⟩

/-- **The cache is sound throughout a history.** -/
theorem CacheRun.sound_after {strtof : List Char → Option ℚ}
    {history : List (CacheRequest × Option Exn)} (h : ParsedHistory strtof history) :
    (CacheRun.after config history : CacheRun cmath).Sound := by
  have hfold : ∀ (steps : List (CacheRequest × Option Exn)) (run : CacheRun cmath), run.Sound →
      ParsedHistory strtof steps → (steps.foldl (CacheRun.serve config) run).Sound := by
    intro steps
    induction steps with
    | nil => exact fun run hrun _ => hrun
    | cons step steps ih =>
        intro run hrun hparsed
        rcases hparsed step List.mem_cons_self with ⟨text, htext⟩
        exact ih _ (hrun.serve (parseOpChain_admitted htext))
          fun later hlater => hparsed later (List.mem_cons_of_mem _ hlater)
  exact hfold history {} CacheRun.sound_empty h

/-- A `get` on a sound cache returns the program of the key itself. -/
lemma CacheRun.Sound.program {run : CacheRun cmath} (h : run.Sound) {key : KernelKey}
    (hkey : AdmittedChain key.chain) {failure : Option Exn} {compiled : CompiledChain}
    {cache' : KernelCache cmath} (hget : run.cache.get key failure = (.ok compiled, cache')) :
    emitCudaSource cmath key = .ok compiled.program
      ∧ compileProgram compiled.program = some compiled := by
  rcases KernelCache.get_ok hget with ⟨entry, hentry, hbeq, rfl, -⟩ | ⟨-, entry, rfl, rfl, -, -⟩
  · refine ⟨?_, entry.loaded⟩
    rw [← emitCudaSource_eq_of_beq hbeq (h.admitted entry hentry) hkey]
    exact entry.emitted
  · exact ⟨entry.emitted, entry.loaded⟩

/-- Whether an equal key has been answered before. -/
def CacheRun.known (run : CacheRun cmath) (key : KernelKey) : Bool :=
  run.answered.any fun earlier => earlier.beq key

lemma CacheRun.known_iff (run : CacheRun cmath) (key : KernelKey) :
    run.known key = true ↔ ∃ earlier ∈ run.answered, earlier.beq key = true := by
  rw [known, List.any_eq_true]

/-- An unknown key has no entry. -/
lemma CacheRun.Sound.known_eq_false {run : CacheRun cmath} (h : run.Sound) {key : KernelKey}
    (hmiss : ∀ entry ∈ run.cache.entries, entry.key.beq key = false) : run.known key = false := by
  rw [← Bool.not_eq_true, CacheRun.known_iff, ← h.covered]
  rintro ⟨entry, hentry, hbeq⟩
  rw [hmiss entry hentry] at hbeq
  cases hbeq

/-- **A cache hit is never stale.**  Take any history of prewarming and frame launches on one
backend, with compilations that may fail, and the request that comes next.  If it is answered, the
program is the one emitted for its own key, and a frame's launches are those of a fresh compilation;
the compile count grows by one exactly if no equal key has been answered before.  If it fails, that
is the refusal of its own key or the failure of its own compilation, and the cache is as it was. -/
theorem cached_plan_eq_fresh (cmath : CMath) (config : BackendConfig)
    (strtof : List Char → Option ℚ) (history : List (CacheRequest × Option Exn))
    (request : CacheRequest) (failure : Option Exn)
    (hparsed : ParsedHistory strtof (history ++ [(request, failure)])) :
    let run : CacheRun cmath := CacheRun.after config history
    let key := config.keyFor request.chain request.channels
    let result := serveRequest config run.cache request failure
    (request.chain.ops = [] → result = (none, run.cache))
      ∧ (∀ compiled, result.1 = some (.ok compiled) →
        emitCudaSource cmath key = .ok compiled.program
          ∧ compileProgram compiled.program = some compiled
          ∧ (∀ job, request = .frame job →
            freshPlan cmath config job = .ok (framePlan cmath job compiled))
          ∧ result.2.compileCount = run.cache.compileCount + if run.known key then 0 else 1)
      ∧ ∀ error, result.1 = some (.error error) →
        result.2 = run.cache ∧ run.known key = false
          ∧ (emitCudaSource cmath key = .error error ∨ failure = some error) := by
  intro run key result
  have hsound : run.Sound := CacheRun.sound_after fun step hmem =>
    hparsed step (List.mem_append_left _ hmem)
  rcases hparsed (request, failure) (List.mem_append_right _ (List.mem_singleton.mpr rfl)) with
    ⟨text, htext⟩
  have hadmitted : AdmittedChain key.chain := parseOpChain_admitted htext
  refine ⟨fun hempty => if_pos hempty, fun compiled hresult => ?_, fun error hresult => ?_⟩
  · by_cases hempty : request.chain.ops = []
    · simp only [result, serveRequest, if_pos hempty, reduceCtorEq] at hresult
    simp only [result, serveRequest, if_neg hempty, Option.some.injEq] at hresult ⊢
    have hget : run.cache.get key failure = (.ok compiled, (run.cache.get key failure).2) :=
      Prod.ext hresult rfl
    rcases hsound.program hadmitted hget with ⟨hemit, hload⟩
    refine ⟨hemit, hload, ?_, ?_⟩
    · rintro job rfl
      rw [compileProgram_ok hemit] at hload
      have hcompiled := Option.some.inj hload
      rw [freshPlan, show emitCudaSource cmath (config.keyFor job.chain job.channels)
        = .ok compiled.program from hemit]
      exact congrArg (fun fresh => Except.ok (framePlan cmath job fresh)) hcompiled
    · rcases KernelCache.get_ok hget
        with ⟨entry, hentry, hbeq, -, hsame⟩ | ⟨hmiss, entry, -, -, -, hcount⟩
      · have hknown : run.known key = true :=
          (run.known_iff key).mpr ((hsound.covered key).mp ⟨entry, hentry, hbeq⟩)
        rw [hknown, hsame]
        rfl
      · rw [hsound.known_eq_false hmiss]
        exact hcount
  · by_cases hempty : request.chain.ops = []
    · simp only [result, serveRequest, if_pos hempty, reduceCtorEq] at hresult
    simp only [result, serveRequest, if_neg hempty, Option.some.injEq] at hresult ⊢
    have hget : run.cache.get key failure = (.error error, (run.cache.get key failure).2) :=
      Prod.ext hresult rfl
    rcases KernelCache.get_error hget with ⟨hsame, hmiss, hcause⟩
    exact ⟨hsame, hsound.known_eq_false hmiss, hcause⟩

end Histories

/-! ## A warmed entry, hit with another parameter -/

/-- `brightness:0.5` and `brightness:0.25`, for a lexer that knows the two numbers. -/
def halfOrQuarter (text : List Char) : Option ℚ :=
  if text = "0.5".toList then some (1 / 2)
  else if text = "0.25".toList then some (1 / 4) else none

/-- A chain of one brightness. -/
def brighter (param : ℚ) : OpChain := ⟨[⟨.kBrightness, param⟩]⟩

/-- A backend that passes the ops' parameters as arguments. -/
def parameterizedBackend : BackendConfig := { constants := .kParameterized }

/-- One gray pixel, brightened by a quarter. -/
def quarterJob : FrameJob where
  input := some 0
  width := 1
  height := 1
  channels := 1
  stride := 1
  chain := brighter (1 / 4)

/-- A frame that finds an entry compiled for another brightness runs with its own. -/
theorem cached_plan_eq_fresh_brighter :
    let run : CacheRun plainMath :=
      CacheRun.after parameterizedBackend [(.prewarm (brighter (1 / 2)) 1, none)]
    let result := serveRequest parameterizedBackend run.cache (.frame quarterJob) none
    ∃ compiled, result.1 = some (.ok compiled) ∧ result.2.compileCount = 1
      ∧ freshPlan plainMath parameterizedBackend quarterJob
        = .ok (framePlan plainMath quarterJob compiled)
      ∧ (framePlan plainMath quarterJob compiled).map KernelLaunch.args
        = [some [.float (1 / 4)]] := by
  intro run result
  have hparsed : ParsedHistory halfOrQuarter
      [(.prewarm (brighter (1 / 2)) 1, none), (.frame quarterJob, none)] := by
    intro step hstep
    rcases List.mem_pair.mp hstep with rfl | rfl
    · exact ⟨"brightness:0.5".toList, by decide +kernel⟩
    · exact ⟨"brightness:0.25".toList, by decide +kernel⟩
  have hspec := cached_plan_eq_fresh plainMath parameterizedBackend halfOrQuarter
    [(.prewarm (brighter (1 / 2)) 1, none)] (.frame quarterJob) none hparsed
  have hserved : ∃ compiled, result.1 = some (.ok compiled)
      ∧ (framePlan plainMath quarterJob compiled).map KernelLaunch.args
        = [some [.float (1 / 4)]] := ⟨_, rfl, by decide +kernel⟩
  rcases hserved with ⟨compiled, hcompiled, hargs⟩
  rcases hspec.2.1 compiled hcompiled with ⟨-, -, hfresh, hcount⟩
  exact ⟨compiled, hcompiled, hcount.trans (by decide +kernel), hfresh quarterJob rfl, hargs⟩

end Cuda

end Imgjit
