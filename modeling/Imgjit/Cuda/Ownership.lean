import Imgjit.Library.Discipline
import Imgjit.Cuda.SlotResources
import Imgjit.Cuda.BackendRuns

/-!
# What a backend holds of the driver

The contexts, streams, events, buffers and page locks that a `CudaBackend` has been handed out, and
the rules for their use: nothing is destroyed twice or used after it was destroyed, and a context
goes last.  In the source the rules are kept by the order of members and by destructors, which run
where an exception passes; in the model every destruction is a call like any other, so that the
rules can be looked at on the log of the calls.

**The rules.**  `Holding` is what there is to hold, and `driverDiscipline` the rules: what each call
needs to be held, gives back, and hands out if it succeeds.

**Beliefs.**  `CudaBackend.holdings` is what a backend believes it holds, by its fields.
`CudaBackend.Owned` says that this belief agrees with the log of its driver.  A method keeps the
rules if it makes only permitted calls and its belief is true again behind it, wherever it stops.

**Recreation.**  `CudaBackend.recreateContext_guarded`: a recreation keeps the rules, however far
its rebuild gets.  Each slot is built from seven objects, any of which may fail, and each failure
gives back those that were made before it.

**The end.**  `CudaBackend.destruct` is the destructor, and `CudaBackend.destruct_guarded` says that
it leaves nothing behind.
-/

namespace Imgjit

open Interaction

namespace Cuda

/-! ## The rules -/

/-- What a backend can be handed out by the driver. -/
inductive Holding where
  | context (id : ℕ)
  /-- The page lock on the frame slots. -/
  | pages
  | object (resource : Resource) (id : ℕ)
  deriving DecidableEq, Repr

/-- Some context is current. -/
def Current (held : Multiset Holding) : Prop :=
  ∃ id, Holding.context id ∈ held

/-- What queued work needs. -/
def StreamOp.Needs (held : Multiset Holding) : StreamOp → Prop
  | .cuMemcpyHtoDAsync destination _ bytes =>
      ∃ room, .object (.device room) destination ∈ held ∧ bytes ≤ room
  | .cuLaunchKernel _ source destination =>
      ∃ room, .object (.device room) source ∈ held ∧ .object (.device room) destination ∈ held
  | .cuMemcpyDtoHAsync staging source bytes =>
      ∃ room, .object (.pinned room) staging ∈ held ∧ .object (.device room) source ∈ held
        ∧ bytes ≤ room
  | .cuEventRecord event => ∃ timing, .object (.event timing) event ∈ held

/-- What a call needs, what it gives back, and what it hands out. -/
def driverDiscipline : Discipline DriverCall DriverAnswer Holding where
  Needs held
    | .cuCtxCreate => ¬Current held
    -- Whatever belongs to a context goes before it.
    | .cuCtxDestroy id => held = {.context id}
    | .cuMemHostRegister => .pages ∉ held
    | .enqueue stream _ op => Current held ∧ .object .stream stream ∈ held ∧ op.Needs held
    | .cuEventQuery event => Current held ∧ .object (.event false) event ∈ held
    | .cuEventSynchronize event => Current held ∧ .object (.event false) event ∈ held
    | .cuEventElapsedTime first last => Current held ∧ .object (.event true) first ∈ held
        ∧ .object (.event true) last ∈ held
    | .read _ (.staging buffer) bytes =>
        ∃ room, .object (.pinned room) buffer ∈ held ∧ bytes ≤ room.toNat
    | _ => True
  releases
    | .cuCtxDestroy id => some (.context id)
    | .cuMemHostUnregister => some .pages
    | .destroy resource id => some (.object resource id)
    | _ => none
  acquires
    | .cuCtxCreate, (.ok id : Except String ℕ) => some (.context id)
    | .cuMemHostRegister, CUresult.CUDA_SUCCESS => some .pages
    | .create resource, (.ok id : Except String ℕ) => some (.object resource id)
    | _, _ => none

/-- A call that neither gives anything back nor hands anything out. -/
def Neutral (call : DriverCall) : Prop :=
  driverDiscipline.releases call = none ∧ ∀ answer, driverDiscipline.acquires call answer = none

end Cuda

open Cuda

namespace CudaBackend

variable {cmath : CMath}

/-! ## The end of a backend -/

/-- `CudaBackend::~CudaBackend`: the members in the order opposite to that of their declaration. -/
def destruct : Method cmath Unit := do
  clearStreams
  detach
  modify fun backend => { backend with hostSlots := none, cache := backend.cache.clear }
  resetContext

/-! ## What a backend believes -/

/-- The objects as they are held. -/
def objects (items : List (Resource × ℕ)) : Multiset Holding :=
  Multiset.ofList (items.map fun item => .object item.1 item.2)

/-- What a backend believes it holds, by its fields. -/
def holdings (backend : CudaBackend cmath) : Multiset Holding :=
  backend.context.elim 0 (fun id => {.context id})
    + (if backend.hostSlots = some ⟨true⟩ then {.pages} else 0)
    + objects (backend.streams.flatMap (resources backend.slotBytes))

variable {env : Environment DriverCall DriverAnswer} {recorder : Recorder env}
  {backend before middle after : CudaBackend cmath} {e e' : env.State} {held : Multiset Holding}

/-- What the log of the driver says is held. -/
abbrev heldIn (recorder : Recorder env) (e : env.State) : Multiset Holding :=
  driverDiscipline.held (recorder.log e)

/-- The rules allow this call now. -/
abbrev Permitted (recorder : Recorder env) (e : env.State) (call : DriverCall) : Prop :=
  driverDiscipline.Permits (heldIn recorder e) call

/-- The belief of a backend agrees with the log of its driver, and the frames on the device have
room. -/
structure Owned (recorder : Recorder env) (backend : CudaBackend cmath) (e : env.State) :
    Prop where
  held : heldIn recorder e = backend.holdings
  /-- The frame on the device has room in the buffers of its slot. -/
  fits : ∀ slot ∈ backend.streams, slot.busy = true →
    sizeT slot.width * sizeT slot.channels * sizeT slot.height ≤ backend.slotBytes
  current : backend.context = none → ∀ slot ∈ backend.streams, slot.busy = false

/-- The slots may have changed, within what is held. -/
structure Tended (recorder : Recorder env) (before after : CudaBackend cmath) (e : env.State) :
    Prop where
  owned : Owned recorder after e
  context : after.context = before.context
  slotBytes : after.slotBytes = before.slotBytes

lemma Owned.tended (h : Owned recorder backend e) : Tended recorder backend backend e :=
  ⟨h, rfl, rfl⟩

lemma Tended.trans (h : Tended recorder before middle e) (h' : Tended recorder middle after e') :
    Tended recorder before after e' :=
  ⟨h'.owned, h'.context.trans h.context, h'.slotBytes.trans h.slotBytes⟩

/-! ## What the single calls leave -/

lemma heldIn_answered (recorder : Recorder env) {call : DriverCall} {answer : DriverAnswer call}
    (hanswer : env.respond e call answer e') :
    heldIn recorder e' = driverDiscipline.after (heldIn recorder e) ⟨call, answer⟩ := by
  rw [heldIn, recorder.records e call answer e' hanswer]
  rfl

lemma heldIn_neutral {call : DriverCall} (hcall : Neutral call) {answer : DriverAnswer call}
    (hanswer : env.respond e call answer e') : heldIn recorder e' = heldIn recorder e := by
  rw [heldIn_answered recorder hanswer, Discipline.after, hcall.1, hcall.2 answer]
  exact zero_add _

lemma Owned.neutral (h : Owned recorder backend e) {call : DriverCall} (hcall : Neutral call)
    {answer : DriverAnswer call} (hanswer : env.respond e call answer e') :
    Owned recorder backend e' :=
  ⟨(heldIn_neutral hcall hanswer).trans h.held, h.fits, h.current⟩

lemma permitted_of_needs {call : DriverCall} (hreleases : driverDiscipline.releases call = none)
    (hneeds : driverDiscipline.Needs (heldIn recorder e) call) : Permitted recorder e call := by
  refine ⟨hneeds, ?_⟩
  intro item hitem
  rw [hreleases] at hitem
  cases hitem

/-- `CU_CHECK`. -/
lemma guarded_cuCheck_bind {α : Type} {P : env.State → DriverCall → Prop} {result : CUresult}
    {rest : Unit → Method cmath α} {Q : Except Exn α → CudaBackend cmath → env.State → Prop}
    (hok : result = .CUDA_SUCCESS → Routine.Guarded env P (rest ()) Q backend e)
    (herror : ∀ what, result ≠ .CUDA_SUCCESS → Q (.error (.cudaError what)) backend e) :
    Routine.Guarded env P (cuCheck result >>= rest) Q backend e := by
  cases result with
  | CUDA_SUCCESS => exact hok rfl
  | CUDA_ERROR_NOT_READY what => exact herror what fun heq => by cases heq
  | failure what => exact herror what fun heq => by cases heq

/-- The page lock is held if it was granted. -/
lemma heldIn_registered (recorder : Recorder env) {answer : CUresult}
    (hanswer : env.respond e .cuMemHostRegister answer e') :
    heldIn recorder e' = if answer = .CUDA_SUCCESS then .pages ::ₘ heldIn recorder e
      else heldIn recorder e := by
  have hafter := heldIn_answered recorder hanswer
  cases answer with
  | CUDA_SUCCESS => exact hafter
  | CUDA_ERROR_NOT_READY what => exact hafter.trans (zero_add _)
  | failure what => exact hafter.trans (zero_add _)

/-! ## Slots are made and cleared -/

lemma objects_cons (item : Resource × ℕ) (items : List (Resource × ℕ)) :
    objects (item :: items) = .object item.1 item.2 ::ₘ objects items := rfl

lemma objects_append (items others : List (Resource × ℕ)) :
    objects (items ++ others) = objects items + objects others := by
  rw [objects, List.map_append, ← Multiset.coe_add]
  rfl

/-- The newest object is held beside the others. -/
lemma objects_cons_add (item : Resource × ℕ) (items : List (Resource × ℕ)) :
    objects (item :: items) + held = .object item.1 item.2 ::ₘ (objects items + held) := by
  rw [objects_cons, Multiset.cons_add]

/-- The destruction of the newest object. -/
lemma destroy_guarded {item : Resource × ℕ} {items : List (Resource × ℕ)}
    (h : heldIn recorder e = objects (item :: items) + held) :
    Permitted recorder e (.destroy item.1 item.2) ∧ ∀ answer e',
      env.respond e (.destroy item.1 item.2) answer e' →
        heldIn recorder e' = objects items + held := by
  rw [objects_cons_add] at h
  refine ⟨⟨trivial, ?_⟩, ?_⟩
  · rintro _ ⟨⟩
    rw [h]
    exact Multiset.mem_cons_self _ _
  · intro answer e' hanswer
    rw [heldIn_answered recorder hanswer, h]
    exact (zero_add _).trans (Multiset.erase_cons_head _ _)

/-- **A member and the members behind it.**  If one of those throws, this one is destroyed. -/
lemma holding_guarded {α : Type} {items : List (Resource × ℕ)} {T : α → env.State → Prop}
    (h : heldIn recorder e = objects items + held) {resource : Resource}
    {rest : ℕ → Method cmath α}
    (hrest : ∀ id e', heldIn recorder e' = objects ((resource, id) :: items) + held →
      Routine.Guarded env (Permitted recorder) (rest id) (Built T
        (fun e'' => heldIn recorder e'' = objects ((resource, id) :: items) + held) backend)
        backend e') :
    Routine.Guarded env (Permitted recorder) (holding resource rest)
      (Built T (fun e' => heldIn recorder e' = objects items + held) backend) backend e := by
  refine ⟨permitted_of_needs rfl trivial, ?_⟩
  intro result e₁ hresult
  have hafter := heldIn_answered recorder hresult
  rw [h] at hafter
  cases result with
  | error what => exact ⟨rfl, hafter.trans (zero_add _)⟩
  | ok id =>
      have hmade : heldIn recorder e₁ = objects ((resource, id) :: items) + held := by
        rw [objects_cons_add]
        exact hafter
      refine Routine.Guarded.handled (hrest id e₁ hmade) (fun _ _ _ h' => h') ?_
      rintro error _ e₂ ⟨rfl, h₂⟩
      have hlast : heldIn recorder e₂ = objects ((resource, id) :: items) + held := h₂
      have hdestroy := destroy_guarded hlast
      exact ⟨hdestroy.1, fun answer e₃ hanswer => ⟨rfl, hdestroy.2 answer e₃ hanswer⟩⟩

/-- **A new slot** carries no frame, and all its objects are held; without it none of them is. -/
lemma makeStreamSlot_guarded {items : List (Resource × ℕ)}
    (h : heldIn recorder e = objects items + held) (bytes : UInt64) :
    Routine.Guarded env (Permitted recorder) (makeStreamSlot bytes)
      (Built (fun slot e' => slot.busy = false
          ∧ heldIn recorder e' = objects (resources bytes slot ++ items) + held)
        (fun e' => heldIn recorder e' = objects items + held) backend) backend e := by
  refine holding_guarded h fun stream e₁ h₁ => ?_
  refine holding_guarded h₁ fun done e₂ h₂ => ?_
  refine holding_guarded h₂ fun kernelsBegin e₃ h₃ => ?_
  refine holding_guarded h₃ fun kernelsEnd e₄ h₄ => ?_
  refine holding_guarded h₄ fun front e₅ h₅ => ?_
  refine holding_guarded h₅ fun back e₆ h₆ => ?_
  refine holding_guarded h₆ fun staging e₇ h₇ => ?_
  exact ⟨rfl, rfl, h₇⟩

/-- Destructors do not throw, and take one object after the other. -/
lemma destroyAll_guarded {items : List (Resource × ℕ)}
    (h : heldIn recorder e = objects items + held) :
    Routine.Guarded env (Permitted recorder) (destroyAll items)
      (fun result after e' => result = .ok () ∧ after = backend ∧ heldIn recorder e' = held)
      backend e := by
  induction items generalizing e with
  | nil => exact ⟨rfl, rfl, h.trans (zero_add _)⟩
  | cons item rest ih =>
      have hdestroy := destroy_guarded h
      exact ⟨hdestroy.1, fun answer e' hanswer => ih (hdestroy.2 answer e' hanswer)⟩

/-- What a backend holds beside the objects of its slots. -/
def roots (backend : CudaBackend cmath) : Multiset Holding :=
  backend.context.elim 0 (fun id => {.context id})
    + if backend.hostSlots = some ⟨true⟩ then {.pages} else 0

lemma holdings_eq (backend : CudaBackend cmath) :
    backend.holdings
      = objects (backend.streams.flatMap (resources backend.slotBytes)) + backend.roots :=
  add_comm _ _

/-- Without slots nothing is left but the context and the page lock. -/
lemma owned_of_roots (h : heldIn recorder e = backend.roots) (hempty : backend.streams = []) :
    Owned recorder backend e where
  held := by
    rw [h, holdings_eq, hempty]
    exact (zero_add _).symm
  fits := by
    rw [hempty]
    intro slot hslot
    cases hslot
  current := by
    rw [hempty]
    intro _ slot hslot
    cases hslot

/-- `streams_.clear()` does not throw. -/
lemma clearStreams_guarded (h : Owned recorder backend e) :
    Routine.Guarded env (Permitted recorder) clearStreams
      (fun result after e' => result = .ok () ∧ after = { backend with streams := [] }
        ∧ heldIn recorder e' = backend.roots) backend e := by
  have hheld := h.held.trans (holdings_eq backend)
  refine Routine.guarded_get_bind.mpr ((destroyAll_guarded hheld).bind ?_ ?_)
  · rintro _ _ e₁ ⟨-, rfl, h₁⟩
    exact ⟨rfl, rfl, h₁⟩
  · rintro error _ e₁ ⟨herror, -⟩
    cases herror

/-- One slot more. -/
lemma owned_emplace (h : Owned recorder backend e) {slot : StreamSlot} (hidle : slot.busy = false)
    (hheld : heldIn recorder e' = objects (resources backend.slotBytes slot
      ++ backend.streams.flatMap (resources backend.slotBytes)) + backend.roots) :
    Owned recorder { backend with streams := backend.streams ++ [slot] } e' where
  held := by
    have hslots : objects ((backend.streams ++ [slot]).flatMap (resources backend.slotBytes))
        = objects (resources backend.slotBytes slot
          ++ backend.streams.flatMap (resources backend.slotBytes)) := by
      rw [List.flatMap_append, List.flatMap_singleton, objects_append, objects_append, add_comm]
    rw [hheld, holdings_eq]
    exact congrArg (· + backend.roots) hslots.symm
  fits := by
    intro other hother hbusy
    rcases List.mem_append.mp hother with hother | hother
    · exact h.fits other hother hbusy
    · rw [List.mem_singleton.mp hother, hidle] at hbusy
      cases hbusy
  current := by
    intro hnone other hother
    rcases List.mem_append.mp hother with hother | hother
    · exact h.current hnone other hother
    · rw [List.mem_singleton.mp hother]
      exact hidle

lemma emplaceSlots_guarded {count : ℕ} (h : Owned recorder backend e) :
    Routine.Guarded env (Permitted recorder) (emplaceSlots count)
      (fun _ after e' => Tended recorder backend after e') backend e := by
  induction count generalizing backend e with
  | zero => exact h.tended
  | succ count ih =>
      have hheld := h.held.trans (holdings_eq backend)
      refine Routine.guarded_get_bind.mpr
        ((makeStreamSlot_guarded hheld backend.slotBytes).bind ?_ ?_)
      · rintro slot _ e₁ ⟨rfl, hidle, hslot⟩
        refine Routine.guarded_modify_bind.mpr ((ih (owned_emplace h hidle hslot)).mono ?_)
        intro _ after e₂ hafter
        exact ⟨hafter.owned, hafter.context, hafter.slotBytes⟩
      · rintro error _ e₁ ⟨rfl, h₁⟩
        exact Owned.tended ⟨Eq.trans h₁ (holdings_eq _).symm, h.fits, h.current⟩

/-- Slots built before a failure stay, and are held. -/
lemma buildStreamSlots_guarded (h : Owned recorder backend e) :
    Routine.Guarded env (Permitted recorder) buildStreamSlots
      (fun _ after e' => Tended recorder backend after e') backend e := by
  refine (clearStreams_guarded h).bind ?_ ?_
  · rintro _ _ e₁ ⟨-, rfl, h₁⟩
    have hcleared : Owned recorder { backend with streams := [] } e₁ := owned_of_roots h₁ rfl
    refine Routine.guarded_get_bind.mpr ?_
    split
    · exact ⟨hcleared, rfl, rfl⟩
    · refine (emplaceSlots_guarded hcleared).mono ?_
      intro _ after e₂ hafter
      exact ⟨hafter.owned, hafter.context, hafter.slotBytes⟩
  · rintro error _ e₁ ⟨herror, -⟩
    cases herror

/-! ## The context and the page lock -/

lemma mem_objects {resource : Resource} {id : ℕ} {items : List (Resource × ℕ)} :
    .object resource id ∈ objects items ↔ (resource, id) ∈ items := by
  simp [objects]

lemma not_mem_objects {holding : Holding} {items : List (Resource × ℕ)}
    (h : ∀ resource id, holding ≠ .object resource id) : holding ∉ objects items := by
  simp only [objects, Multiset.mem_coe, List.mem_map, not_exists, not_and]
  intro item _ heq
  exact h item.1 item.2 heq.symm

lemma context_mem_holdings {id : ℕ} :
    .context id ∈ backend.holdings ↔ backend.context = some id := by
  have hobjects : .context id ∉ objects (backend.streams.flatMap (resources backend.slotBytes)) :=
    not_mem_objects fun _ _ heq => by cases heq
  cases hcontext : backend.context <;> by_cases hpages : backend.hostSlots = some ⟨true⟩
    <;> simp [holdings, hcontext, hpages, hobjects, eq_comm]

lemma pages_mem_holdings : .pages ∈ backend.holdings ↔ backend.hostSlots = some ⟨true⟩ := by
  have hobjects : .pages ∉ objects (backend.streams.flatMap (resources backend.slotBytes)) :=
    not_mem_objects fun _ _ heq => by cases heq
  cases hcontext : backend.context <;> by_cases hpages : backend.hostSlots = some ⟨true⟩
    <;> simp [holdings, hcontext, hpages, hobjects]

/-- An object of a slot is held. -/
lemma object_mem_holdings {slot : StreamSlot} (hslot : slot ∈ backend.streams)
    {resource : Resource} {id : ℕ} (h : (resource, id) ∈ resources backend.slotBytes slot) :
    .object resource id ∈ backend.holdings :=
  Multiset.mem_add.mpr (.inr (mem_objects.mpr (List.mem_flatMap.mpr ⟨slot, hslot, h⟩)))

lemma holdings_attach (h : backend.hostSlots ≠ some ⟨true⟩) :
    holdings { backend with hostSlots := some ⟨true⟩ } = .pages ::ₘ backend.holdings := by
  simp only [holdings, if_neg h, if_true, add_zero, ← Multiset.singleton_add]
  rw [← add_assoc]
  exact congrArg (· + _) (add_comm _ _)

lemma holdings_detach (h : backend.hostSlots = some ⟨true⟩) :
    backend.holdings = .pages ::ₘ holdings { backend with hostSlots := some ⟨false⟩ } := by
  have hback : ({ backend with hostSlots := some ⟨true⟩ } : CudaBackend cmath) = backend := by
    rw [← h]
  have hdetached : ({ backend with hostSlots := some ⟨false⟩ } : CudaBackend cmath).hostSlots
      ≠ some ⟨true⟩ := by
    simp
  exact (congrArg holdings hback.symm).trans (holdings_attach hdetached)

lemma holdings_create (h : backend.context = none) (id : ℕ) :
    holdings { backend with context := some id } = .context id ::ₘ backend.holdings := by
  simp only [holdings, h, Option.elim, zero_add, ← Multiset.singleton_add, add_assoc]

lemma holdings_reset (hempty : backend.streams = []) (hpages : backend.hostSlots ≠ some ⟨true⟩) :
    backend.holdings = backend.context.elim 0 fun id => {.context id} := by
  simp only [holdings, hempty, if_neg hpages, List.flatMap_nil, add_zero]
  exact add_zero _

/-- No context is current where the backend has none. -/
lemma Owned.not_current (h : Owned recorder backend e) (hnone : backend.context = none) :
    ¬Current (heldIn recorder e) := by
  rintro ⟨id, hid⟩
  rw [h.held, context_mem_holdings, hnone] at hid
  cases hid

lemma Owned.permitted_register (h : Owned recorder backend e)
    (hdetached : backend.hostSlots ≠ some ⟨true⟩) : Permitted recorder e .cuMemHostRegister := by
  refine permitted_of_needs rfl ?_
  change Holding.pages ∉ heldIn recorder e
  rw [h.held, pages_mem_holdings]
  exact hdetached

/-- `RegisteredHostBuffer::attach`. -/
lemma attach_guarded (h : Owned recorder backend e) :
    Routine.Guarded env (Permitted recorder) attach
      (fun _ after e' => Tended recorder backend after e') backend e := by
  refine Routine.guarded_get_bind.mpr ?_
  split
  · rename_i hslots
    have hdetached : backend.hostSlots ≠ some ⟨true⟩ := by
      rw [hslots]
      simp
    refine Routine.guarded_ask_bind.mpr
      ⟨h.permitted_register hdetached, fun answer e₁ hanswer => ?_⟩
    have hafter := heldIn_registered recorder hanswer
    rw [h.held] at hafter
    refine guarded_cuCheck_bind ?_ ?_
    · intro hgranted
      rw [if_pos hgranted, ← holdings_attach hdetached] at hafter
      exact ⟨⟨hafter, h.fits, h.current⟩, rfl, rfl⟩
    · intro what hfailed
      rw [if_neg hfailed] at hafter
      exact ⟨⟨hafter, h.fits, h.current⟩, rfl, rfl⟩
  · exact h.tended

/-- `RegisteredHostBuffer::detach` does not throw. -/
lemma detach_guarded (h : Owned recorder backend e) :
    Routine.Guarded env (Permitted recorder) detach
      (fun result after e' => result = .ok () ∧ Tended recorder backend after e'
        ∧ after.streams = backend.streams ∧ after.hostSlots ≠ some ⟨true⟩) backend e := by
  refine Routine.guarded_get_bind.mpr ?_
  split
  · rename_i hslots
    have hheld := h.held.trans (holdings_detach hslots)
    refine ⟨⟨trivial, ?_⟩, ?_⟩
    · rintro _ ⟨⟩
      rw [hheld]
      exact Multiset.mem_cons_self _ _
    · intro answer e₁ hanswer
      have hafter := heldIn_answered recorder hanswer
      rw [hheld] at hafter
      have hdetached := hafter.trans ((zero_add _).trans (Multiset.erase_cons_head _ _))
      exact ⟨rfl, ⟨⟨hdetached, h.fits, h.current⟩, rfl, rfl⟩, rfl, by simp⟩
  · rename_i hslots
    exact ⟨rfl, h.tended, rfl, hslots⟩

/-- **The context goes last**, and without an exception. -/
lemma resetContext_guarded (h : Owned recorder backend e) (hempty : backend.streams = [])
    (hpages : backend.hostSlots ≠ some ⟨true⟩) :
    Routine.Guarded env (Permitted recorder) resetContext
      (fun result after e' => result = .ok () ∧ heldIn recorder e' = 0
        ∧ after = { backend with context := none }) backend e := by
  have hheld := h.held.trans (holdings_reset hempty hpages)
  refine Routine.guarded_get_bind.mpr ?_
  split
  · rename_i context hcontext
    rw [hcontext] at hheld
    refine ⟨⟨hheld, ?_⟩, ?_⟩
    · rintro _ ⟨⟩
      rw [hheld]
      exact Multiset.mem_singleton_self _
    · intro answer e₁ hanswer
      refine ⟨rfl, ?_, rfl⟩
      rw [heldIn_answered recorder hanswer, hheld]
      exact (zero_add _).trans (Multiset.erase_singleton _)
  · rename_i hcontext
    rw [hcontext] at hheld
    refine ⟨rfl, hheld, ?_⟩
    rw [← hcontext]

/-- `CudaContext::CudaContext`, while no context is current. -/
lemma createContext_guarded (h : Owned recorder backend e) (hnone : backend.context = none)
    (ordinal : Int32) :
    Routine.Guarded env (Permitted recorder) (createContext ordinal)
      (fun result after e' => after = backend ∧ match result with
        | .ok id => heldIn recorder e' = .context id ::ₘ backend.holdings
        | .error _ => heldIn recorder e' = backend.holdings) backend e := by
  refine Routine.guarded_ask_bind.mpr ⟨permitted_of_needs rfl trivial, fun init e₁ hinit => ?_⟩
  have h₁ := h.neutral ⟨rfl, fun _ => rfl⟩ hinit
  refine guarded_cuCheck_bind (fun _ => ?_) fun _ _ => ⟨rfl, h₁.held⟩
  refine Routine.guarded_ask_bind.mpr
    ⟨permitted_of_needs rfl trivial, fun device e₂ hdevice => ?_⟩
  have h₂ := h₁.neutral ⟨rfl, fun _ => rfl⟩ hdevice
  refine guarded_cuCheck_bind (fun _ => ?_) fun _ _ => ⟨rfl, h₂.held⟩
  refine Routine.guarded_ask_bind.mpr
    ⟨permitted_of_needs rfl (h₂.not_current hnone), fun created e₃ hcreated => ?_⟩
  have hafter := heldIn_answered recorder hcreated
  rw [h₂.held] at hafter
  cases created with
  | ok id => exact ⟨rfl, hafter⟩
  | error what => exact ⟨rfl, hafter.trans (zero_add _)⟩

/-! ## Recreation -/

/-- The frames that are given up leave their slots where they are. -/
lemma owned_failBusy (h : Owned recorder backend e) (reason : String) :
    Owned recorder (failBusy reason backend) e where
  held := by
    refine h.held.trans ?_
    simp only [holdings, failBusy, List.flatMap_map]
    rfl
  fits := by
    intro slot hslot hbusy
    rcases List.mem_map.mp hslot with ⟨_, _, rfl⟩
    cases hbusy
  current := by
    intro _ slot hslot
    rcases List.mem_map.mp hslot with ⟨_, _, rfl⟩
    rfl

/-- **A recreation gives back everything that belongs to the context, then the context**, and holds
what the rebuild has come to. -/
theorem recreateContext_guarded (h : Owned recorder backend e) (reason : String) :
    Routine.Guarded env (Permitted recorder) (recreateContext reason)
      (fun _ after e' => Owned recorder after e') backend e := by
  refine Routine.guarded_modify_bind.mpr ((clearStreams_guarded (owned_failBusy h reason)).bind ?_
    fun _ _ _ hcleared => by cases hcleared.1)
  rintro _ cleared e₁ ⟨-, rfl, h₁⟩
  refine Routine.guarded_modify_bind.mpr ?_
  have hflushed : Owned recorder { failBusy reason backend with
      streams := [], cache := (failBusy reason backend).cache.clear } e₁ := owned_of_roots h₁ rfl
  refine (detach_guarded hflushed).bind ?_ fun _ _ _ hdetached => by cases hdetached.1
  rintro _ detached e₂ ⟨-, hdetached, hempty, hpages⟩
  refine (resetContext_guarded hdetached.owned hempty hpages).bind ?_
    fun _ _ _ hreset => by cases hreset.1
  rintro _ _ e₃ ⟨-, h₃, rfl⟩
  refine Routine.guarded_modify_bind.mpr (Routine.guarded_get_bind.mpr ?_)
  have hcounted : Owned recorder { detached with
      context := none, contextRecreations := detached.contextRecreations + 1 } e₃ :=
    owned_of_roots (by rw [h₃]; simp [roots, hpages]) hempty
  refine (createContext_guarded hcounted rfl _).bind ?_ ?_
  · rintro context _ e₄ ⟨rfl, h₄⟩
    refine Routine.guarded_modify_bind.mpr ?_
    have hcreated : Owned recorder { detached with
        contextRecreations := detached.contextRecreations + 1, context := some context } e₄ :=
      ⟨Eq.trans h₄ (holdings_create rfl context).symm, hcounted.fits, fun hnone => by cases hnone⟩
    refine (attach_guarded hcreated).bind ?_ fun _ _ _ hattached => hattached.owned
    intro _ attached e₅ hattached
    exact (buildStreamSlots_guarded hattached.owned).mono fun _ _ _ hbuilt => hbuilt.owned
  · rintro error _ e₄ ⟨rfl, h₄⟩
    exact ⟨h₄, hcounted.fits, hcounted.current⟩

lemma recover_guarded (h : Owned recorder backend e) (reason : String) :
    Routine.Guarded env (Permitted recorder) (recover reason)
      (fun _ after e' => Owned recorder after e') backend e :=
  (recreateContext_guarded h reason).handled (fun _ _ _ h' => h') fun _ _ _ h' => h'

/-- **The end of a backend leaves nothing behind.** -/
theorem destruct_guarded (h : Owned recorder backend e) :
    Routine.Guarded env (Permitted recorder) destruct
      (fun result _ e' => result = .ok () ∧ heldIn recorder e' = 0) backend e := by
  refine (clearStreams_guarded h).bind ?_ fun _ _ _ hcleared => by cases hcleared.1
  rintro _ _ e₁ ⟨-, rfl, h₁⟩
  have hcleared : Owned recorder { backend with streams := [] } e₁ := owned_of_roots h₁ rfl
  refine (detach_guarded hcleared).bind ?_ fun _ _ _ hdetached => by cases hdetached.1
  rintro _ detached e₂ ⟨-, hdetached, hempty, hpages⟩
  refine Routine.guarded_modify_bind.mpr ?_
  have hreleased : Owned recorder { detached with
      hostSlots := none, cache := detached.cache.clear } e₂ := by
    refine owned_of_roots ?_ hempty
    rw [hdetached.owned.held, holdings_reset hempty hpages]
    exact (add_zero _).symm
  exact (resetContext_guarded hreleased hempty (by simp)).mono
    fun _ _ _ hreset => ⟨hreset.1, hreset.2.1⟩

/-- `allocate_slots` holds what it has come to. -/
lemma allocateSlots_guarded (h : Owned recorder backend e) (hwell : backend.WellFormed)
    (count bytes : UInt64) :
    Routine.Guarded env (Permitted recorder) (allocateSlots count bytes)
      (fun _ after e' => Owned recorder after e') backend e := by
  refine Routine.guarded_get_bind.mpr ?_
  split
  · exact h
  split
  · exact h
  · rename_i hslots _
    have hnone : backend.hostSlots = none := Option.not_isSome_iff_eq_none.mp hslots
    have hempty := (hwell.host hnone).2
    have hdetached : backend.hostSlots ≠ some ⟨true⟩ := by
      rw [hnone]
      simp
    refine Routine.guarded_ask_bind.mpr
      ⟨h.permitted_register hdetached, fun answer e₁ hanswer => ?_⟩
    have hafter := heldIn_registered recorder hanswer
    rw [h.held] at hafter
    refine guarded_cuCheck_bind ?_ ?_
    · intro hgranted
      rw [if_pos hgranted, ← holdings_attach hdetached, holdings_eq] at hafter
      simp only [hempty, List.flatMap_nil] at hafter
      have hallocated : Owned recorder
          { backend with hostSlots := some ⟨true⟩, slotBytes := bytes } e₁ :=
        owned_of_roots (hafter.trans (zero_add _)) hempty
      exact Routine.guarded_modify_bind.mpr
        ((buildStreamSlots_guarded hallocated).mono fun _ _ _ hbuilt => hbuilt.owned)
    · intro what hfailed
      rw [if_neg hfailed] at hafter
      exact ⟨hafter, h.fits, h.current⟩

/-- A cache lookup leaves what is held alone. -/
lemma cacheGet_guarded (h : Owned recorder backend e) (key : KernelKey) :
    Routine.Guarded env (Permitted recorder) (cacheGet key)
      (fun _ after e' => Tended recorder backend after e') backend e := by
  have hrest : ∀ (failure : Option Exn) (e' : env.State), Owned recorder backend e' →
      Routine.Guarded env (Permitted recorder) (do
        modify fun backend => { backend with cache := (backend.cache.get key failure).2 }
        ofExcept (backend.cache.get key failure).1 : Method cmath CompiledChain)
        (fun _ after e'' => Tended recorder backend after e'') backend e' := by
    intro failure e' h'
    refine Routine.guarded_modify_bind.mpr ?_
    cases (backend.cache.get key failure).1 with
    | ok compiled => exact ⟨⟨h'.held, h'.fits, h'.current⟩, rfl, rfl⟩
    | error error => exact ⟨⟨h'.held, h'.fits, h'.current⟩, rfl, rfl⟩
  refine Routine.guarded_get_bind.mpr ?_
  split
  · refine ⟨permitted_of_needs rfl trivial, fun answer e₁ hanswer => ?_⟩
    exact hrest _ e₁ (h.neutral ⟨rfl, fun _ => rfl⟩ hanswer)
  · exact hrest none e h

lemma prewarm_guarded (h : Owned recorder backend e) (chain : OpChain) (channels : Int32) :
    Routine.Guarded env (Permitted recorder) (prewarm chain channels)
      (fun _ after e' => Owned recorder after e') backend e := by
  rw [prewarm]
  split
  · exact h
  · refine Routine.guarded_get_bind.mpr ((cacheGet_guarded h _).bind ?_ ?_)
    · intro _ after e₁ hafter
      exact hafter.owned
    · intro _ after e₁ hafter
      exact hafter.owned

end CudaBackend

end Imgjit
