import Imgjit.Cuda.Moments
import Imgjit.Cuda.PixelRuns

/-!
# A call that is under way

Between two calls of the driver a method of the backend stands still, and the rest of the world does
not.  In a run of the whole server a call of the worker is therefore not one step but many, with
steps of readers and writers and of the device between them, and the results on whole calls do not
apply to any of these moments.  This file follows one call of the worker from one such moment to the
next, and hands the result on whole calls back when the call has returned.

* `Behind` — the device has got on since, and readers have written to the slots.
* `Underway` — what is left of a call, and what is known of the device meanwhile.  It remembers
  where the call has started, and that every answer since is one that the device could have given.
* `Underway.answered` — one call of the driver, and one step further.
* `Underway.returned` — when nothing is left, the whole call has returned, as if all that happened
  in between had happened inside the driver's answers.
-/

namespace Imgjit

namespace Cuda

open Interaction RelyGuarantee CudaBackend

/-! ## Meanwhile -/

section Meanwhile

variable {cmath : CMath} {frames : JobHandle → FrameJob} {g₀ g g' : Gpu}

variable (cmath frames) in
/-- What `g₀` has become while the driver was not called. -/
structure Behind (g₀ g : Gpu) : Prop where
  log : g.device.log = g₀.device.log
  next : g.device.next = g₀.device.next
  works : (machine cmath frames).Works Outside g₀.device.queues g₀.memory g.device.queues g.memory
  copied : g₀.memory.copied <:+ g.memory.copied

lemma Behind.refl (g : Gpu) : Behind cmath frames g g := ⟨rfl, rfl, .rest, List.suffix_refl _⟩

lemma Behind.queues (h : Behind cmath frames g₀ g) (stream : ℕ) :
    g.device.queues stream <:+ g₀.device.queues stream := h.works.suffix stream

/-- A reader writes to the slots. -/
lemma Behind.outside (h : Behind cmath frames g₀ g) {slots : ℕ → List UInt8}
    (hslots : ∀ slot, (slots slot).length = (g.memory.slots slot).length) :
    Behind cmath frames g₀ { g with memory := { g.memory with slots := slots } } := by
  have houtside : Outside g.memory { g.memory with slots := slots } := ⟨rfl, rfl, rfl, hslots⟩
  exact ⟨h.log, h.next, h.works.trans (.other houtside .rest), h.copied⟩

/-- An operation is performed. -/
lemma Behind.performed (h : Behind cmath frames g₀ g) {stream : ℕ} {item : QueuedOp}
    {rest : List QueuedOp} {memory : Memory} (hfront : g.device.queues stream = item :: rest)
    (hstep : (machine cmath frames).step item g.memory memory)
    (hcopied : g.memory.copied <:+ memory.copied) :
    Behind cmath frames g₀
      { device := { g.device with queues := Function.update g.device.queues stream rest }
        memory := memory } where
  log := h.log
  next := h.next
  works := h.works.trans (.perform hfront hstep .rest)
  copied := h.copied.trans hcopied

lemma Behind.safe (h : Behind cmath frames g₀ g) (hsafe : Safe cmath frames g₀) :
    Safe cmath frames g := hsafe.works h.next h.works

/-- On a safe device the slots keep their sizes. -/
lemma Behind.sizes (h : Behind cmath frames g₀ g) (hsafe : Safe cmath frames g₀) (slot : ℕ) :
    (g.memory.slots slot).length = (g₀.memory.slots slot).length := by
  rcases hsafe with ⟨owned, howns, hpromises⟩
  exact ((moved_of_works howns h.next h.works).kept hpromises).slots slot

/-! ## One answer -/

/-- No call writes to the slots, and one kind of call is noted. -/
lemma Memory.Effect.slots {m m' : Memory} {call : DriverCall} {answer : DriverAnswer call}
    (h : m.Effect call answer m') : m'.slots = m.slots
      ∧ (m'.copied = m.copied ∨ ∃ frame slot bytes, call = .read frame (.input slot) bytes
        ∧ m'.copied = (frame, m.slots slot) :: m.copied) := by
  have hsame : ∀ {m' : Memory}, m' = m → m'.slots = m.slots ∧ (m'.copied = m.copied
      ∨ ∃ frame slot bytes, call = .read frame (.input slot) bytes
        ∧ m'.copied = (frame, m.slots slot) :: m.copied) := by
    rintro _ rfl
    exact ⟨rfl, .inl rfl⟩
  cases call with
  | create resource =>
      cases resource with
      | device bytes =>
          cases answer with
          | ok id =>
              rcases h with ⟨contents, -, rfl⟩
              exact ⟨rfl, .inl rfl⟩
          | error what => exact hsame h
      | pinned bytes =>
          cases answer with
          | ok id =>
              rcases h with ⟨contents, -, rfl⟩
              exact ⟨rfl, .inl rfl⟩
          | error what => exact hsame h
      | stream => exact hsame h
      | event timing => exact hsame h
  | cuCtxDestroy context =>
      obtain rfl : m' = { m with lost := false } := h
      exact ⟨rfl, .inl rfl⟩
  | cuEventQuery event => exact hsame h.1
  | cuEventSynchronize event => exact hsame h.1
  | read frame buffer bytes =>
      cases buffer with
      | input slot =>
          obtain rfl := h.1
          exact ⟨rfl, .inr ⟨frame, slot, bytes, rfl, rfl⟩⟩
      | staging buffer => exact hsame h.1
  | _ => exact hsame h

/-- No call adds to what is pending, but one that queues. -/
lemma Device.Effect.queues {d : Device} {call : DriverCall} {answer : DriverAnswer call}
    {queues : ℕ → List QueuedOp} {next : ℕ} (h : d.Effect call answer queues next) :
    (∀ stream, queues stream <:+ d.queues stream)
      ∨ ∃ stream frame op, call = .enqueue stream frame op ∧ queues = d.push stream ⟨frame, op⟩ := by
  have hsame : queues = d.queues → ∀ stream, queues stream <:+ d.queues stream := by
    rintro rfl stream
    exact List.suffix_refl _
  cases call with
  | enqueue stream frame op =>
      rcases h.2 with hqueues | ⟨-, hqueues⟩
      · exact .inr ⟨stream, frame, op, rfl, hqueues⟩
      · exact .inl (hsame hqueues)
  | cuCtxDestroy context =>
      obtain rfl : queues = fun _ => [] := h.1
      exact .inl fun _ => List.nil_suffix
  | _ => exact .inl (hsame h.1)

/-- An operation neither writes to the slots; one kind of operation is noted. -/
lemma effect_slots {item : QueuedOp} {m m' : Memory}
    (h : (machine cmath frames).effect item m m') : m'.slots = m.slots
      ∧ (m'.copied = m.copied ∨ ∃ destination slot bytes,
        item.op = .cuMemcpyHtoDAsync destination slot bytes
          ∧ m'.copied = (item.frame, m.slots slot) :: m.copied) := by
  rcases h with hfinishes | haborts
  · unfold Finishes at hfinishes
    split at hfinishes
    · rename_i destination slot bytes hop
      subst hfinishes
      exact ⟨rfl, .inr ⟨destination, slot, bytes, hop, rfl⟩⟩
    · rcases hfinishes with ⟨call, schedule, written, -, -, rfl⟩
      exact ⟨rfl, .inl rfl⟩
    · subst hfinishes
      exact ⟨rfl, .inl rfl⟩
    · subst hfinishes
      exact ⟨rfl, .inl rfl⟩
  · unfold Aborts at haborts
    split at haborts
    · rcases haborts with ⟨contents, -, rfl⟩
      exact ⟨rfl, .inl rfl⟩
    · subst haborts
      exact ⟨rfl, .inl rfl⟩

/-- The answer is one that the device may give, late as it may be. -/
lemma Behind.respond (h : Behind cmath frames g₀ g) {call : DriverCall}
    {answer : DriverAnswer call} (hanswers : g.Answers call answer g') :
    (gpu cmath frames).respond g₀ call answer g' := by
  refine ⟨g, h.log, h.next, h.works, hanswers.device, ?_, hanswers.memory, ?_⟩
  · rw [hanswers.log, h.log]
  · rcases hanswers.memory.slots.2 with hcopied | ⟨frame, slot, bytes, -, hcopied⟩
    · rw [hcopied]
      exact h.copied
    · rw [hcopied]
      exact h.copied.trans (List.suffix_cons _ _)

end Meanwhile

/-! ## What is left of a call -/

section Underway

variable {cmath : CMath} {frames : JobHandle → FrameJob} {α : Type}
  {run : CudaRun cmath (gpu cmath frames)} {method : Method cmath α} {P : DriverCall → Prop}
  {rest : Prog DriverCall DriverAnswer (Except Exn α × CudaBackend cmath)} {g g' : Gpu}

/-- **A call that has started in the state `run`** and has come to this moment: `rest` is left, and
makes no calls but those that `P` allows. -/
def Underway (run : CudaRun cmath (gpu cmath frames)) (method : Method cmath α)
    (P : DriverCall → Prop)
    (rest : Prog DriverCall DriverAnswer (Except Exn α × CudaBackend cmath)) (g : Gpu) : Prop :=
  ∃ g₀ : Gpu, (method run.backend).Reaches (gpu cmath frames) run.driver rest g₀
    ∧ Behind cmath frames g₀ g ∧ rest.throughout (gpu cmath frames) (Safe cmath frames) g₀
    ∧ rest.Only P fun _ => True

/-- The call starts. -/
lemma Underway.start (hbehind : Behind cmath frames run.driver g)
    (hsafe : Routine.throughout (gpu cmath frames) (Safe cmath frames) method run.backend run.driver)
    (honly : Routine.ConfinedAt P (fun _ => True) method run.backend) :
    Underway run method P (method run.backend) g :=
  ⟨run.driver, .refl _ _, hbehind, hsafe, honly.mono fun _ _ => trivial⟩

/-- Something happens elsewhere. -/
lemma Underway.later (h : Underway run method P rest g)
    (hlater : ∀ g₀, Behind cmath frames g₀ g → Behind cmath frames g₀ g') :
    Underway run method P rest g' := by
  rcases h with ⟨g₀, hreaches, hbehind, hsafe, honly⟩
  exact ⟨g₀, hreaches, hlater g₀ hbehind, hsafe, honly⟩

lemma Underway.safe (h : Underway run method P rest g) : Safe cmath frames g := by
  rcases h with ⟨g₀, -, hbehind, hsafe, -⟩
  exact hbehind.safe hsafe.now

/-- The next call of the driver is answered. -/
lemma Underway.answered {call : DriverCall}
    {next : DriverAnswer call → Prog DriverCall DriverAnswer (Except Exn α × CudaBackend cmath)}
    {answer : DriverAnswer call} (h : Underway run method P (.ask call next) g)
    (hanswers : g.Answers call answer g') :
    P call ∧ Underway run method P (next answer) g' := by
  rcases h with ⟨g₀, hreaches, hbehind, hsafe, honly⟩
  have hrespond := hbehind.respond hanswers
  exact ⟨honly.1, g', hreaches.answered hrespond, .refl g', hsafe.2 answer g' hrespond,
    honly.2 answer⟩

/-- **Nothing is left**: the call has returned, in a state that the device may have left since. -/
lemma Underway.returned {value : Except Exn α × CudaBackend cmath}
    (h : Underway run method P (.done value) g) :
    ∃ g₀ : Gpu, (method run.backend).Returns (gpu cmath frames) run.driver value g₀
      ∧ Behind cmath frames g₀ g := by
  rcases h with ⟨g₀, hreaches, hbehind, -, -⟩
  exact ⟨g₀, hreaches.returns, hbehind⟩

end Underway

end Cuda

end Imgjit
