import Imgjit.Cuda.CudaBackend

/-!
# Every frame is accounted for

What a `CudaBackend` owes its caller, whatever the driver answers.  The worker of the server keeps
one job for each handle it was given and waits for the handle to come back; a handle that was lost
would pin a slot for ever, and one that came back twice would release somebody else's.  So each
handle is, at every moment, in exactly one place: on one stream slot, in one entry of the completed
list, or handed out.

Most methods throw at some point, and what they have changed by then stays changed.  The results
here are therefore about the backend after a method, however it ended, and they hold for every
driver: no assumption is made about any answer.

**States.**  `CudaBackend.WellFormed` is what holds of a backend between any two calls it makes.

**Effects.**  `CudaBackend.Keeps` says that a method moves handles from place to place and adds
those it is given; it composes, so a method keeps the accounts if its parts do.  `CudaBackend.Torn`
is about a recreation, successful or not: the busy frames become error entries, each with its
handle.  `Retired`, `Claimed` and `Launched` are the effects of retiring, claiming a slot and
launching.

**Whole calls.**  `CudaBackend.submit_submitted` and `CudaBackend.pollCompletions_polled` say what a
call of the worker does, and that no exception leaves it.
-/

namespace Imgjit

open Interaction Cuda

namespace CudaBackend

variable {cmath : CMath} {env : Environment DriverCall DriverAnswer}

/-! ## Places of a frame -/

/-- The stream slots with a frame on them. -/
def busySlots (backend : CudaBackend cmath) : List StreamSlot :=
  backend.streams.filter StreamSlot.busy

/-- The handles of the frames on the device. -/
def busyHandles (backend : CudaBackend cmath) : List JobHandle :=
  backend.busySlots.map StreamSlot.handle

/-- The frames that have not been handed out. -/
def outstanding (backend : CudaBackend cmath) : List JobHandle :=
  backend.busyHandles ++ backend.completed.map Completion.handle

/-- What holds of a backend between any two calls: it has no more slots than streams were asked for,
and without frame slots it has none. -/
structure WellFormed (backend : CudaBackend cmath) : Prop where
  few : backend.streams.length ≤ backend.streamCount
  /-- A frame on the device has passed the checks of `launch`. -/
  shaped : ∀ slot ∈ backend.streams, slot.busy = true →
    Image.Shaped slot.width slot.height slot.channels
  host : backend.hostSlots = none → backend.slotBytes = 0 ∧ backend.streams = []

/-- A method with this effect has added these handles, and has moved the others about. -/
structure Keeps (added : List JobHandle) (before after : CudaBackend cmath) : Prop where
  outstanding : after.outstanding.Perm (added ++ before.outstanding)
  wellFormed : after.WellFormed
  nextHandle : after.nextHandle = before.nextHandle
  streamCount : after.streamCount = before.streamCount

variable {backend before after : CudaBackend cmath} {e : env.State}

lemma Keeps.refl (h : backend.WellFormed) : Keeps [] backend backend where
  outstanding := List.Perm.refl _
  wellFormed := h
  nextHandle := rfl
  streamCount := rfl

lemma Keeps.trans {middle : CudaBackend cmath} {added more : List JobHandle}
    (h : Keeps added before middle) (h' : Keeps more middle after) :
    Keeps (more ++ added) before after where
  outstanding := by
    rw [List.append_assoc]
    exact h'.outstanding.trans (h.outstanding.append_left more)
  wellFormed := h'.wellFormed
  nextHandle := h'.nextHandle.trans h.nextHandle
  streamCount := h'.streamCount.trans h.streamCount

/-- A new entry of the completed list. -/
lemma keeps_complete (h : backend.WellFormed) (completion : Completion) :
    Keeps [completion.handle] backend
      { backend with completed := backend.completed ++ [completion] } where
  outstanding := by
    simp only [CudaBackend.outstanding, busyHandles, busySlots, List.map_append, List.map_cons,
      List.map_nil, ← List.append_assoc]
    exact List.perm_append_comm
  wellFormed := ⟨h.few, h.shaped, h.host⟩
  nextHandle := rfl
  streamCount := rfl

/-! ## Recreation -/

/-- What a recreation leaves, whether or not the rebuild succeeds. -/
structure Torn (reason : String) (before after : CudaBackend cmath) : Prop where
  /-- The frames that were on the device are error entries now, and nothing else has changed. -/
  completed : after.completed
    = before.completed ++ before.busySlots.map fun slot => failure slot.handle reason
  idle : ∀ slot ∈ after.streams, slot.busy = false
  few : after.streams.length ≤ after.streamCount
  host : after.hostSlots = none → after.slotBytes = 0 ∧ after.streams = []
  nextHandle : after.nextHandle = before.nextHandle
  streamCount : after.streamCount = before.streamCount

lemma busyHandles_of_idle (h : ∀ slot ∈ backend.streams, slot.busy = false) :
    backend.busyHandles = [] := by
  have hnone : backend.busySlots = [] := by
    refine List.filter_eq_nil_iff.mpr ?_
    intro slot hslot
    rw [h slot hslot]
    exact Bool.false_ne_true
  rw [busyHandles, hnone]
  rfl

lemma Torn.keeps {reason : String} (h : Torn reason before after) : Keeps [] before after where
  outstanding := by
    simp only [CudaBackend.outstanding, busyHandles_of_idle h.idle, h.completed, List.nil_append,
      List.map_append, List.map_map]
    exact List.perm_append_comm
  wellFormed := by
    refine ⟨h.few, ?_, h.host⟩
    intro slot hslot hbusy
    rw [h.idle slot hslot] at hbusy
    cases hbusy
  nextHandle := h.nextHandle
  streamCount := h.streamCount

/-- A torn-down backend stays one under whatever leaves its accounts alone. -/
lemma Torn.modify {reason : String} {middle : CudaBackend cmath} (h : Torn reason before middle)
    (hcompleted : after.completed = middle.completed) (hstreams : after.streams = middle.streams)
    (hhost : after.hostSlots = none → middle.hostSlots = none ∧ after.slotBytes = middle.slotBytes)
    (hnext : after.nextHandle = middle.nextHandle)
    (hcount : after.streamCount = middle.streamCount) : Torn reason before after where
  completed := hcompleted.trans h.completed
  idle := hstreams ▸ h.idle
  few := by
    rw [hstreams, hcount]
    exact h.few
  host := by
    intro hnone
    rw [(hhost hnone).2, hstreams]
    exact h.host (hhost hnone).1
  nextHandle := hnext.trans h.nextHandle
  streamCount := hcount.trans h.streamCount

lemma torn_failBusy (h : backend.WellFormed) (reason : String) :
    Torn reason backend (failBusy reason backend) where
  completed := rfl
  idle := by
    intro slot hslot
    rcases List.mem_map.mp hslot with ⟨_, _, rfl⟩
    rfl
  few := by
    rw [failBusy, List.length_map]
    exact h.few
  host := by
    intro hnone
    refine ⟨(h.host hnone).1, ?_⟩
    simp only [failBusy, (h.host hnone).2, List.map_nil]
  nextHandle := rfl
  streamCount := rfl

lemma stable_any : Stable env (fun _ => True) (fun _ _ => True) where
  keep _ _ _ _ _ _ _ := ⟨trivial, fun _ _ => trivial⟩
  created _ _ _ _ _ _ := trivial

section Rebuild

variable {reason : String}

lemma clearStreams_torn (h : Torn reason before backend) :
    Routine.wp env clearStreams
      (fun _ after _ => Torn reason before after ∧ after.streams = []) backend e := by
  refine Routine.wp_get_bind.mpr (wp_destroyAll_bind stable_any trivial ?_)
  intro e' _
  refine ⟨⟨h.completed, ?_, Nat.zero_le _, ?_, h.nextHandle, h.streamCount⟩, rfl⟩
  · intro slot hslot
    cases hslot
  · intro hnone
    exact ⟨(h.host hnone).1, rfl⟩

/-- The slots built so far, with room for those to come. -/
lemma emplaceSlots_torn {count : ℕ} (h : Torn reason before backend)
    (hroom : backend.streams.length + count ≤ backend.streamCount)
    (hhost : backend.hostSlots ≠ none) :
    Routine.wp env (emplaceSlots count) (fun _ after _ => Torn reason before after) backend e := by
  induction count generalizing backend e with
  | zero => exact h
  | succ count ih =>
      refine Routine.wp_get_bind.mpr
        ((makeStreamSlot_made stable_any trivial backend.slotBytes).bind ?_ ?_)
      · rintro slot backend e' ⟨rfl, -, hslot⟩
        have hlength : (backend.streams ++ [slot]).length = backend.streams.length + 1 :=
          List.length_append
        refine ih ⟨h.completed, ?_, ?_, fun hnone => absurd hnone hhost, h.nextHandle,
          h.streamCount⟩ ?_ hhost
        · intro other hother
          rcases List.mem_append.mp hother with hother | hother
          · exact h.idle other hother
          · rw [List.mem_singleton.mp hother]
            exact (hslot slot rfl).1
        · change (backend.streams ++ [slot]).length ≤ backend.streamCount
          omega
        · change (backend.streams ++ [slot]).length + count ≤ backend.streamCount
          omega
      · rintro _ _ _ ⟨rfl, -, -⟩
        exact h

lemma buildStreamSlots_torn (h : Torn reason before backend) :
    Routine.wp env buildStreamSlots (fun _ after _ => Torn reason before after) backend e := by
  refine (clearStreams_torn h).bind ?_ ?_
  · rintro _ middle e' ⟨hmiddle, hempty⟩
    refine Routine.wp_get_bind.mpr ?_
    by_cases hbytes : middle.slotBytes = 0
    · rw [if_pos hbytes]
      exact hmiddle
    · rw [if_neg hbytes]
      refine emplaceSlots_torn hmiddle ?_ fun hnone => hbytes (hmiddle.host hnone).1
      rw [hempty, List.length_nil, Nat.zero_add]
  · rintro _ _ _ ⟨hmiddle, -⟩
    exact hmiddle

lemma attach_torn (h : Torn reason before backend) :
    Routine.wp env attach (fun _ after _ => Torn reason before after) backend e := by
  refine Routine.wp_get_bind.mpr ?_
  split
  · refine Routine.wp_ask_bind.mpr fun answer e' _ => wp_cuCheck_bind (fun _ => ?_) fun _ => h
    exact h.modify rfl rfl (fun hnone => by cases hnone) rfl rfl
  · exact h

lemma detach_torn (h : Torn reason before backend) :
    Routine.wp env detach (fun _ after _ => Torn reason before after) backend e := by
  refine Routine.wp_get_bind.mpr ?_
  split
  · intro answer e' _
    exact h.modify rfl rfl (fun hnone => by cases hnone) rfl rfl
  · exact h

lemma resetContext_torn (h : Torn reason before backend) :
    Routine.wp env resetContext (fun _ after _ => Torn reason before after) backend e := by
  refine Routine.wp_get_bind.mpr ?_
  split
  · intro answer e' _
    exact h.modify rfl rfl (fun hnone => ⟨hnone, rfl⟩) rfl rfl
  · exact h

/-- **A recreation fails exactly the frames on the device**, however far the rebuild gets. -/
theorem recreateContext_torn (h : backend.WellFormed) :
    Routine.wp env (recreateContext reason) (fun _ after _ => Torn reason backend after)
      backend e := by
  refine Routine.wp_modify_bind.mpr ?_
  refine (clearStreams_torn (torn_failBusy h reason)).bind ?_ fun _ _ _ h => h.1
  rintro _ cleared e₁ ⟨hcleared, -⟩
  refine Routine.wp_modify_bind.mpr ?_
  have hflushed : Torn reason backend { cleared with cache := cleared.cache.clear } :=
    hcleared.modify rfl rfl (fun hnone => ⟨hnone, rfl⟩) rfl rfl
  refine (detach_torn hflushed).bind_of_mono ?_ fun _ _ _ h => h
  intro _ detached e₂ hdetached
  refine (resetContext_torn hdetached).bind_of_mono ?_ fun _ _ _ h => h
  intro _ reset e₃ hreset
  refine Routine.wp_modify_bind.mpr (Routine.wp_get_bind.mpr ?_)
  have hcounted : Torn reason backend
      { reset with contextRecreations := reset.contextRecreations + 1 } :=
    hreset.modify rfl rfl (fun hnone => ⟨hnone, rfl⟩) rfl rfl
  refine (quiet_createContext _).wp_state.bind ?_ ?_
  · rintro context _ e₄ rfl
    refine Routine.wp_modify_bind.mpr ?_
    have hcreated : Torn reason backend { reset with
        contextRecreations := reset.contextRecreations + 1, context := some context } :=
      hcounted.modify rfl rfl (fun hnone => ⟨hnone, rfl⟩) rfl rfl
    refine (attach_torn hcreated).bind_of_mono ?_ fun _ _ _ h => h
    intro _ attached e₅ hattached
    exact buildStreamSlots_torn hattached
  · rintro _ _ e₄ rfl
    exact hcounted

end Rebuild

/-! ## Retiring -/

/-- The busy frames, the one in this slot apart. -/
lemma busyHandles_set {streams : List StreamSlot} {index : ℕ} {slot : StreamSlot}
    (hslot : streams[index]? = some slot) (other : StreamSlot) :
    ∃ rest : List StreamSlot, streams.Perm (slot :: rest)
      ∧ (streams.set index other).Perm (other :: rest) := by
  rcases List.getElem?_eq_some_iff.mp hslot with ⟨hindex, rfl⟩
  exact ⟨streams.eraseIdx index, (List.getElem_cons_eraseIdx_perm hindex).symm,
    List.set_perm_cons_eraseIdx hindex other⟩

/-- Only a driver error. -/
def OnlyCuda {α : Type} (result : Except Exn α) : Prop :=
  ∀ error, result = .error error → ∃ what, error = .cudaError what

lemma onlyCuda_ok {α : Type} (value : α) : OnlyCuda (.ok value) := by
  intro error herror
  cases herror

lemma onlyCuda_cudaError {α : Type} (what : String) :
    OnlyCuda (.error (.cudaError what) : Except Exn α) := by
  rintro error ⟨⟩
  exact ⟨what, rfl⟩

/-- What a sweep, or a part of it, leaves. -/
structure Retired {α : Type} (before : CudaBackend cmath) (result : Except Exn α)
    (after : CudaBackend cmath) : Prop where
  keeps : Keeps [] before after
  onlyCuda : OnlyCuda result
  context : after.context = before.context

lemma Retired.trans {α β : Type} {middle : CudaBackend cmath} {first : Except Exn α}
    {result : Except Exn β} (h : Retired before first middle) (h' : Retired middle result after) :
    Retired before result after where
  keeps := h.keeps.trans h'.keeps
  onlyCuda := h'.onlyCuda
  context := h'.context.trans h.context

lemma retired_ok {α : Type} (h : backend.WellFormed) (value : α) :
    Retired backend (.ok value) backend :=
  ⟨.refl h, onlyCuda_ok value, rfl⟩

lemma retired_cudaError {α : Type} (h : backend.WellFormed) (what : String) :
    Retired backend (.error (.cudaError what) : Except Exn α) backend :=
  ⟨.refl h, onlyCuda_cudaError what, rfl⟩

/-- A frame of an admitted shape is read back whole. -/
lemma fromBytes_staging {width height channels : Int32} (h : Image.Shaped width height channels)
    {source : List UInt8}
    (hsource : source.length = (sizeT width * sizeT channels * sizeT height).toNat) :
    ∃ image, Image.fromBytes width height channels source (sizeT width * sizeT channels)
      = .ok image := by
  have hlength := Image.byteCount_no_wrap h.1 h.2.1 h.2.2
  have hstride := Image.stride_no_wrap h.1 h.2.2
  have hroom : width.toInt.toNat * channels.toInt.toNat * height.toInt.toNat ≤ source.length := by
    rw [hsource, hlength]
  obtain ⟨rows, hrows⟩ := Image.copyRows_ok 0 height.toInt.toNat (Image.packed_rows_le hroom)
  simp only [Image.fromBytes, Image.construct, dif_pos h, bind, Except.bind, Image.ofShaped,
    Image.stride, hstride, lt_irrefl, if_false, hrows]
  exact ⟨_, rfl⟩

/-- The frame of a busy slot moves to the completed list. -/
lemma keeps_retire (h : backend.WellFormed) {index : ℕ} {slot : StreamSlot}
    (hslot : backend.streams[index]? = some slot) (hbusy : slot.busy = true)
    {completion : Completion} (hhandle : completion.handle = slot.handle) :
    Keeps [] backend
      { backend with
        completed := backend.completed ++ [completion]
        streams := backend.streams.set index { slot with busy := false } } where
  outstanding := by
    rcases busyHandles_set hslot { slot with busy := false } with ⟨rest, hbefore, hafter⟩
    have hbefore' := (hbefore.filter StreamSlot.busy).map StreamSlot.handle
    have hafter' := (hafter.filter StreamSlot.busy).map StreamSlot.handle
    rw [List.filter_cons_of_pos hbusy, List.map_cons] at hbefore'
    rw [List.filter_cons_of_neg (by simp)] at hafter'
    simp only [CudaBackend.outstanding, busyHandles, busySlots, List.map_append, List.map_cons,
      List.map_nil, hhandle, List.nil_append]
    refine (hafter'.append_right _).trans (List.Perm.trans ?_ (hbefore'.append_right _).symm)
    rw [← List.append_assoc]
    exact List.perm_append_comm
  wellFormed := by
    refine ⟨?_, ?_, ?_⟩
    · rw [List.length_set]
      exact h.few
    · intro other hother hbusy'
      rcases List.mem_or_eq_of_mem_set hother with hother | rfl
      · exact h.shaped other hother hbusy'
      · cases hbusy'
    · intro hnone
      rw [(h.host hnone).2] at hslot
      cases hslot
  nextHandle := rfl
  streamCount := rfl

lemma retireSlot_retired (h : backend.WellFormed) {index : ℕ} {slot : StreamSlot}
    (hslot : backend.streams[index]? = some slot) :
    Routine.wp env (retireSlot index slot) (fun result after _ => Retired backend result after)
      backend e := by
  rw [retireSlot]
  split
  · exact retired_ok h ()
  · rename_i hbusy
    rw [Bool.not_eq_true', Bool.not_eq_false] at hbusy
    refine Routine.wp_ask_bind.mpr fun status e₁ _ => ?_
    cases status with
    | CUDA_ERROR_NOT_READY what => exact retired_ok h ()
    | failure what => exact retired_cudaError h what
    | CUDA_SUCCESS =>
        refine Routine.wp_ask_bind.mpr fun elapsed e₂ _ => ?_
        refine wp_cuCheck_bind (fun _ => ?_) fun what => retired_cudaError h what
        refine Routine.wp_ask_bind.mpr fun source e₃ _ => ?_
        rcases fromBytes_staging (h.shaped slot (List.mem_of_getElem? hslot) hbusy) source.2 with
          ⟨image, himage⟩
        rw [himage]
        exact ⟨keeps_retire h hslot hbusy rfl, onlyCuda_ok (), rfl⟩

lemma retireFrom_retired (h : backend.WellFormed) (index rest : ℕ) :
    Routine.wp env (retireFrom index rest) (fun result after _ => Retired backend result after)
      backend e := by
  induction rest generalizing backend index e with
  | zero => exact retired_ok h ()
  | succ rest ih =>
      refine Routine.wp_get_bind.mpr ?_
      cases hslot : backend.streams[index]? with
      | none => exact retired_ok h ()
      | some slot =>
          refine (retireSlot_retired h hslot).bind ?_ ?_
          · intro _ middle e₁ hmiddle
            exact (ih hmiddle.keeps.wellFormed (index + 1)).mono fun _ _ _ => hmiddle.trans
          · intro error after e₁ hafter
            exact ⟨hafter.keeps, fun error' herror => hafter.onlyCuda error' (by cases herror; rfl),
              hafter.context⟩

/-- **A sweep loses no frame and throws nothing but driver errors**, wherever it stops. -/
theorem retireReadyStreams_retired (h : backend.WellFormed) :
    Routine.wp env retireReadyStreams (fun result after _ => Retired backend result after)
      backend e :=
  Routine.wp_get_bind.mpr (retireFrom_retired h 0 _)

/-! ## Claiming a slot -/

lemma oldest_mem {slots : List StreamSlot} {slot : StreamSlot} (h : oldest slots = some slot) :
    slot ∈ slots := by
  induction slots generalizing slot with
  | nil => cases h
  | cons first rest ih =>
      rw [oldest] at h
      cases hrest : oldest rest with
      | none =>
          rw [hrest] at h
          cases h
          exact List.mem_cons_self
      | some other =>
          rw [hrest] at h
          dsimp only at h
          split at h
          · cases h
            exact List.mem_cons_of_mem _ (ih hrest)
          · cases h
            exact List.mem_cons_self

/-- A claim, if it comes to an end, is of a slot without a frame. -/
structure Claimed (before : CudaBackend cmath) (result : Except Exn ℕ)
    (after : CudaBackend cmath) : Prop where
  keeps : Keeps [] before after
  context : after.context = before.context
  free : ∀ index, result = .ok index →
    ∃ slot, after.streams[index]? = some slot ∧ slot.busy = false

lemma claimed_error (h : Keeps [] before after) (hcontext : after.context = before.context)
    (error : Exn) : Claimed before (.error error) after :=
  ⟨h, hcontext, fun index hindex => by cases hindex⟩

/-- Whatever the driver answers, and however long the loop waits: no handle is lost, the context
stays as it is, and a slot that is claimed is idle. -/
theorem claimStream_claimed (h : backend.WellFormed) (turns : ℕ) :
    Routine.wp env (claimStream turns) (fun result after _ => Claimed backend result after)
      backend e := by
  induction turns generalizing backend e with
  | zero => trivial
  | succ turns ih =>
      refine Routine.wp_get_bind.mpr ?_
      split
      · rename_i index hindex
        refine ⟨.refl h, rfl, ?_⟩
        rintro _ ⟨⟩
        rcases List.findIdx?_eq_some_iff_getElem.mp hindex with ⟨hlt, hfree, -⟩
        exact ⟨backend.streams[index], List.getElem?_eq_getElem hlt,
          (Bool.not_eq_true' _).mp hfree⟩
      · split
        · exact claimed_error (.refl h) rfl _
        · refine Routine.wp_ask_bind.mpr fun answer e₁ _ => ?_
          refine wp_cuCheck_bind (fun _ => ?_) fun what => claimed_error (.refl h) rfl _
          refine (retireReadyStreams_retired h).bind ?_ ?_
          · intro _ middle e₂ hmiddle
            refine (ih hmiddle.keeps.wellFormed).mono ?_
            intro result after _ hafter
            exact ⟨hmiddle.keeps.trans hafter.keeps, hafter.context.trans hmiddle.context,
              hafter.free⟩
          · intro error after e₂ hafter
            exact claimed_error hafter.keeps hafter.context error

/-! ## Launching a frame -/

/-- A launch that throws has not claimed a slot; one that returns has added its frame. -/
def Launched (handle : JobHandle) (before : CudaBackend cmath) (result : Except Exn Unit)
    (after : CudaBackend cmath) : Prop :=
  match result with
  | .ok _ => Keeps [handle] before after
  | .error _ => Keeps [] before after

lemma Launched.behind {handle : JobHandle} {middle : CudaBackend cmath} {result : Except Exn Unit}
    (h : Keeps [] before middle) (h' : Launched handle middle result after) :
    Launched handle before result after := by
  cases result with
  | ok _ => exact h.trans h'
  | error _ => exact h.trans h'

lemma keeps_claim (h : backend.WellFormed) (claimed : StreamSlot) {index : ℕ} {slot : StreamSlot}
    (hslot : backend.streams[index]? = some slot) (hfree : slot.busy = false)
    (hbusy : claimed.busy = true)
    (hshaped : Image.Shaped claimed.width claimed.height claimed.channels) (order : ℕ) :
    Keeps [claimed.handle] backend
      { backend with
        streams := backend.streams.set index claimed
        nextSubmitOrder := order } where
  outstanding := by
    rcases busyHandles_set hslot claimed with ⟨rest, hbefore, hafter⟩
    have hbefore' := (hbefore.filter StreamSlot.busy).map StreamSlot.handle
    have hafter' := (hafter.filter StreamSlot.busy).map StreamSlot.handle
    rw [List.filter_cons_of_neg (by rw [hfree]; exact Bool.false_ne_true)] at hbefore'
    rw [List.filter_cons_of_pos hbusy, List.map_cons] at hafter'
    simp only [CudaBackend.outstanding, busyHandles, busySlots]
    exact (hafter'.append_right _).trans ((hbefore'.symm.append_right _).cons _)
  wellFormed := by
    refine ⟨?_, ?_, ?_⟩
    · rw [List.length_set]
      exact h.few
    · intro other hother hother'
      rcases List.mem_or_eq_of_mem_set hother with hother | rfl
      · exact h.shaped other hother hother'
      · exact hshaped
    · intro hnone
      rw [(h.host hnone).2] at hslot
      cases hslot
  nextHandle := rfl
  streamCount := rfl

/-- Everything a launch queues leaves the backend alone; the slot is claimed behind it. -/
lemma queueFrame_launched (h : backend.WellFormed) {job : FrameJob} (handle : JobHandle)
    (input : ℕ) (bytes : UInt64) (compiled : CompiledChain) {index : ℕ} {slot : StreamSlot}
    (hslot : backend.streams[index]? = some slot) (hfree : slot.busy = false)
    (hshaped : Image.Shaped job.width job.height job.channels) :
    Routine.wp env (queueFrame job handle input bytes compiled index slot)
      (fun result after _ => Launched handle backend result after) backend e := by
  have hthrow : ∀ (error : Exn) (after : CudaBackend cmath) (e' : env.State), after = backend →
      Launched handle backend (.error error) after := by
    rintro error _ _ rfl
    exact .refl h
  have hqueue : ∀ op : StreamOp, Routine.Quiet (fun _ => True)
      (enqueue slot.stream handle op : Method cmath Unit) := fun op => quiet_enqueue trivial
  refine (hqueue _).wp_state.bind ?_ hthrow
  rintro _ _ e₁ rfl
  refine (hqueue _).wp_state.bind ?_ hthrow
  rintro _ _ e₂ rfl
  refine (quiet_launchKernels (P := fun _ => True) (fun _ _ _ _ => trivial) _ _).wp_state.bind ?_
    hthrow
  rintro source _ e₃ rfl
  refine (hqueue _).wp_state.bind ?_ hthrow
  rintro _ _ e₄ rfl
  refine (hqueue _).wp_state.bind ?_ hthrow
  rintro _ _ e₅ rfl
  refine (hqueue _).wp_state.bind ?_ hthrow
  rintro _ _ e₆ rfl
  exact keeps_claim h { slot with
    busy := true, handle := handle, submitOrder := _
    width := job.width, height := job.height, channels := job.channels } hslot hfree rfl hshaped _

lemma cacheGet_keeps (h : backend.WellFormed) (key : KernelKey) :
    Routine.wp env (cacheGet key)
      (fun _ after _ => Keeps [] backend after ∧ after.context = backend.context) backend e := by
  have hafter : ∀ cache : KernelCache cmath, Keeps [] backend { backend with cache := cache }
      ∧ ({ backend with cache := cache } : CudaBackend cmath).context = backend.context :=
    fun cache => ⟨⟨List.Perm.refl _, ⟨h.few, h.shaped, h.host⟩, rfl, rfl⟩, rfl⟩
  have hrest : ∀ (failure : Option Exn) (e' : env.State),
      Routine.wp env (do
        modify fun backend => { backend with cache := (backend.cache.get key failure).2 }
        ofExcept (backend.cache.get key failure).1 : Method cmath CompiledChain)
        (fun _ after _ => Keeps [] backend after ∧ after.context = backend.context) backend
        e' := by
    intro failure e'
    refine Routine.wp_modify_bind.mpr ?_
    cases (backend.cache.get key failure).1 with
    | ok compiled => exact hafter _
    | error error => exact hafter _
  refine Routine.wp_get_bind.mpr ?_
  split
  · exact fun answer e₁ _ => hrest _ e₁
  · exact hrest none e

/-- A launch that returns has put its handle in one place; one that throws has put it nowhere. -/
theorem launchChain_launched (h : backend.WellFormed) {job : FrameJob} (handle : JobHandle)
    (input : ℕ) (bytes : UInt64) (turns : ℕ)
    (hshaped : Image.Shaped job.width job.height job.channels) :
    Routine.wp env (launchChain job handle input bytes turns)
      (fun result after _ => Launched handle backend result after) backend e := by
  refine Routine.wp_get_bind.mpr ((cacheGet_keeps h _).bind ?_ fun _ _ _ h => h.1)
  rintro compiled cached e₁ ⟨hcached, -⟩
  split
  · exact hcached
  · refine (claimStream_claimed hcached.wellFormed turns).bind ?_ ?_
    · intro index claimed e₂ hclaimed
      refine Routine.wp_get_bind.mpr ?_
      rcases hclaimed.free index rfl with ⟨slot, hslot, hfree⟩
      rw [hslot]
      have hkeeps := hcached.trans hclaimed.keeps
      exact (queueFrame_launched hkeeps.wellFormed handle input bytes compiled hslot hfree
        hshaped).mono fun _ _ _ => Launched.behind hkeeps
    · intro error after e₂ hafter
      exact hcached.trans hafter.keeps

/-- **A launch adds its frame or nothing**, wherever a call inside it fails. -/
theorem launch_launched (h : backend.WellFormed) (job : FrameJob) (handle : JobHandle)
    (turns : ℕ) :
    Routine.wp env (launch job handle turns)
      (fun result after _ => Launched handle backend result after) backend e := by
  refine Routine.wp_get_bind.mpr ?_
  split
  · exact .refl h
  split
  · exact .refl h
  · rename_i input hinput
    dsimp only
    split
    · exact .refl h
    rename_i hshaped
    split
    · exact .refl h
    split
    · refine Routine.wp_ask_bind.mpr fun source e₁ _ => ?_
      cases Image.fromBytes job.width job.height job.channels source.1 job.stride with
      | error error => exact .refl h
      | ok image =>
          exact keeps_complete h { handle := handle, status := .kOk, output := some image }
    · exact launchChain_launched h handle input _ turns (not_not.mp hshaped)

/-! ## The calls of the worker -/

lemma failJob_keeps (h : backend.WellFormed) (handle : JobHandle) (reason : String) :
    Routine.wp env (failJob handle reason)
      (fun result after _ => result = .ok () ∧ Keeps [handle] backend after) backend e :=
  ⟨rfl, keeps_complete h (failure handle reason)⟩

/-- Recovery swallows what the rebuild throws. -/
lemma recover_keeps (h : backend.WellFormed) (reason : String) :
    Routine.wp env (recover reason)
      (fun result after _ => result = .ok () ∧ Keeps [] backend after) backend e :=
  (recreateContext_torn h).handled (fun _ _ _ hafter => ⟨rfl, hafter.keeps⟩)
    fun _ _ _ hafter => ⟨rfl, hafter.keeps⟩

/-- What a submit does: it returns the next handle and adds its frame. -/
structure Submitted (before : CudaBackend cmath) (result : Except Exn JobHandle)
    (after : CudaBackend cmath) : Prop where
  result : result = .ok before.nextHandle
  outstanding : after.outstanding.Perm (before.nextHandle :: before.outstanding)
  wellFormed : after.WellFormed
  nextHandle : after.nextHandle = before.nextHandle + 1
  streamCount : after.streamCount = before.streamCount

lemma submitted_of_keeps
    (h : Keeps [backend.nextHandle] { backend with nextHandle := backend.nextHandle + 1 } after) :
    Submitted backend (.ok backend.nextHandle) after :=
  ⟨rfl, h.outstanding, h.wellFormed, h.nextHandle, h.streamCount⟩

/-- **`submit` returns its handle, whatever happens inside.** -/
theorem submit_submitted (h : backend.WellFormed) (job : FrameJob) (turns : ℕ) :
    Routine.wp env (submit job turns) (fun result after _ => Submitted backend result after)
      backend e := by
  refine Routine.wp_get_bind.mpr (Routine.wp_modify_bind.mpr ?_)
  have hbumped : WellFormed { backend with nextHandle := backend.nextHandle + 1 } :=
    ⟨h.few, h.shaped, h.host⟩
  refine Routine.wp.bind (P := fun result after _ => result = .ok ()
    ∧ Keeps [backend.nextHandle] { backend with nextHandle := backend.nextHandle + 1 } after)
    ((launch_launched hbumped job backend.nextHandle turns).handled ?_ ?_) ?_ ?_
  · rintro _ after e₁ hafter
    exact ⟨rfl, hafter⟩
  · intro error middle e₁ hmiddle
    have hfail : ∀ reason, Routine.wp env (failJob backend.nextHandle reason)
        (fun result after _ => result = .ok () ∧ Keeps [backend.nextHandle]
          { backend with nextHandle := backend.nextHandle + 1 } after) middle e₁ := by
      intro reason
      refine (failJob_keeps hmiddle.wellFormed backend.nextHandle reason).mono ?_
      rintro result after e₂ ⟨hresult, hafter⟩
      exact ⟨hresult, hmiddle.trans hafter⟩
    cases error with
    | cudaError what =>
        refine (hfail what).bind ?_ ?_
        · rintro _ failed e₂ ⟨-, hfailed⟩
          refine (recover_keeps hfailed.wellFormed _).mono ?_
          rintro result after e₃ ⟨hresult, hafter⟩
          exact ⟨hresult, hfailed.trans hafter⟩
        · rintro error after e₂ ⟨herror, -⟩
          cases herror
    | nvrtcError what => exact hfail what
    | invalidArgument what => exact hfail what
    | logicError what => exact hfail what
    | outOfRange what => exact hfail what
    | lengthError what => exact hfail what
    | runtimeError what => exact hfail what
    | outOfBounds => exact hfail ""
  · rintro _ after e₁ ⟨-, hafter⟩
    exact submitted_of_keeps hafter
  · rintro error after e₁ ⟨herror, -⟩
    cases herror

/-- What a poll does: it hands out the completed list as it is at its end. -/
structure Polled (before : CudaBackend cmath) (result : Except Exn (List Completion))
    (after : CudaBackend cmath) : Prop where
  wellFormed : after.WellFormed
  completed : after.completed = []
  nextHandle : after.nextHandle = before.nextHandle
  streamCount : after.streamCount = before.streamCount
  delivered : ∃ completions, result = .ok completions
    ∧ (after.busyHandles ++ completions.map Completion.handle).Perm before.outstanding

lemma polled_of_keeps {middle : CudaBackend cmath} (h : Keeps [] backend middle) :
    Polled backend (.ok middle.completed) { middle with completed := [] } where
  wellFormed := ⟨h.wellFormed.few, h.wellFormed.shaped, h.wellFormed.host⟩
  completed := rfl
  nextHandle := h.nextHandle
  streamCount := h.streamCount
  delivered := ⟨middle.completed, rfl, h.outstanding⟩

/-- **`pollCompletions` throws nothing**, and what it hands out has left the backend. -/
theorem pollCompletions_polled (h : backend.WellFormed) :
    Routine.wp env pollCompletions (fun result after _ => Polled backend result after)
      backend e := by
  refine Routine.wp.bind (P := fun result after _ => result = .ok () ∧ Keeps [] backend after)
    ((retireReadyStreams_retired h).handled ?_ ?_) ?_ ?_
  · rintro _ after e₁ hafter
    exact ⟨rfl, hafter.keeps⟩
  · intro error middle e₁ hmiddle
    rcases hmiddle.onlyCuda error rfl with ⟨what, rfl⟩
    refine (recover_keeps hmiddle.keeps.wellFormed _).mono ?_
    rintro result after e₂ ⟨hresult, hafter⟩
    exact ⟨hresult, hmiddle.keeps.trans hafter⟩
  · rintro _ middle e₁ ⟨-, hmiddle⟩
    exact polled_of_keeps hmiddle
  · rintro error after e₁ ⟨herror, -⟩
    cases herror

/-- `allocate_slots` runs before any frame; a second call changes nothing. -/
theorem allocateSlots_keeps (h : backend.WellFormed) (count bytes : UInt64) :
    Routine.wp env (allocateSlots count bytes) (fun _ after _ => Keeps [] backend after)
      backend e := by
  refine Routine.wp_get_bind.mpr ?_
  split
  · exact .refl h
  split
  · exact .refl h
  · rename_i hslots _
    refine Routine.wp_ask_bind.mpr fun answer e₁ _ => ?_
    refine wp_cuCheck_bind (fun _ => ?_) fun _ => .refl h
    refine Routine.wp_modify_bind.mpr ?_
    have hnone : backend.hostSlots = none := by
      cases hhost : backend.hostSlots with
      | none => rfl
      | some slots =>
          rw [hhost] at hslots
          exact absurd rfl hslots
    have hempty := (h.host hnone).2
    have htorn : Torn "" backend
        { backend with hostSlots := some ⟨true⟩, slotBytes := bytes } := by
      refine ⟨?_, ?_, h.few, fun hnone => absurd hnone (Option.some_ne_none _), rfl, rfl⟩
      · rw [busySlots, hempty, List.filter_nil, List.map_nil, List.append_nil]
      · intro slot hslot
        rw [hempty] at hslot
        cases hslot
    exact (buildStreamSlots_torn htorn).mono fun _ _ _ hafter => hafter.keeps

lemma prewarm_keeps (h : backend.WellFormed) (chain : OpChain) (channels : Int32) :
    Routine.wp env (prewarm chain channels) (fun _ after _ => Keeps [] backend after)
      backend e := by
  rw [prewarm]
  split
  · exact .refl h
  · exact Routine.wp_get_bind.mpr
      ((cacheGet_keeps h _).bind (fun _ _ _ hafter => hafter.1) fun _ _ _ hafter => hafter.1)

end CudaBackend

end Imgjit
