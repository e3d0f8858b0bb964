import Imgjit.Library.Transition
import Imgjit.Util.BoundedQueue
import Mathlib.Data.List.Infix
import Mathlib.Order.Lattice.Nat

/-!
# Runs of the bounded queue

Any number of producers and consumers, and `close` whenever it pleases.  A critical section runs
whole, and a call that waits is one whose section cannot run yet; so a run is a sequence of critical
sections, each of any thread, in any order in which they can run.  Threads have no names here: what
a queue promises does not depend on who calls it.

* `QueueRun` — a queue with what its history was: the values it accepted, in the order of the
  critical sections that accepted them, the values it gave out, and the largest size so far.
* `QueueRun.Sound` — the invariant: what was accepted is what was given out, followed by what is
  still there; the queue is within its capacity, and its high-water mark is the largest size.
* `QueueRun.Sound.step` — every section keeps it.
* `queue_runs` — every reachable state is sound, a closed queue accepts nothing, and a consumer that
  is told there is nothing left has missed nothing.
-/

namespace Imgjit

/-- A queue and its history. -/
structure QueueRun (α : Type) where
  queue : BoundedQueue α
  /-- The values whose `push` returned `true`. -/
  accepted : List α
  popped : List α
  largest : ℕ

namespace QueueRun

variable {α : Type}

/-- A new queue, without a history. -/
def start (capacity : ℕ) : QueueRun α where
  queue := .make capacity
  accepted := []
  popped := []
  largest := 0

/-- What a critical section leaves behind that accepted and gave out these values. -/
def after (run : QueueRun α) (queue : BoundedQueue α) (accepted popped : List α) : QueueRun α where
  queue := queue
  accepted := run.accepted ++ accepted
  popped := run.popped ++ popped
  largest := max run.largest queue.items.length

/-- `push`, entered in the history. -/
def push (run : QueueRun α) (value : α) : Option (Bool × QueueRun α) :=
  (run.queue.push value).map fun (taken, queue) =>
    (taken, run.after queue (if taken then [value] else []) [])

/-- `try_pop`, entered in the history. -/
def tryPop (run : QueueRun α) : Option α × QueueRun α :=
  let (result, queue) := run.queue.tryPop
  (result, run.after queue [] result.toList)

/-- `pop`, entered in the history. -/
def pop (run : QueueRun α) : Option (Option α × QueueRun α) :=
  run.queue.pop.map fun (result, queue) => (result, run.after queue [] result.toList)

/-- `close`, entered in the history. -/
def close (run : QueueRun α) : QueueRun α := run.after run.queue.close [] []

/-- One critical section, of any thread whose section can run. -/
inductive Step : QueueRun α → QueueRun α → Prop
  | push {run run' : QueueRun α} {taken : Bool} (value : α)
      (h : run.push value = some (taken, run')) : Step run run'
  | pop {run run' : QueueRun α} {result : Option α} (h : run.pop = some (result, run')) :
      Step run run'
  | tryPop (run : QueueRun α) : Step run run.tryPop.2
  | close (run : QueueRun α) : Step run run.close

/-- The runs of a new queue. -/
def system (α : Type) (capacity : ℕ) : Transition.System (QueueRun α) where
  init run := run = start capacity
  step := Step

/-! ## What a section does -/

/-- A push appends its value, or finds the queue closed. -/
lemma push_cases {run run' : QueueRun α} {value : α} {taken : Bool}
    (h : run.push value = some (taken, run')) :
    (taken = true ∧ run.queue.closed = false ∧ run.queue.items.length < run.queue.capacity
        ∧ run' = run.after { run.queue with
            items := run.queue.items ++ [value]
            highWater := max run.queue.highWater (run.queue.items.length + 1) } [value] [])
      ∨ (taken = false ∧ run.queue.closed = true ∧ run' = run.after run.queue [] []) := by
  simp only [push, BoundedQueue.push] at h
  split_ifs at h with hclosed hroom
  · rw [Option.map_some, Option.some.injEq, Prod.mk.injEq] at h
    exact .inr ⟨h.1.symm, hclosed, h.2.symm⟩
  · rw [Option.map_some, Option.some.injEq, Prod.mk.injEq] at h
    exact .inl ⟨h.1.symm, by simpa using hclosed, hroom, h.2.symm⟩
  · cases h

/-- `try_pop` takes the front, or finds the queue empty. -/
lemma tryPop_cases (run : QueueRun α) :
    (∃ value rest, run.queue.items = value :: rest
        ∧ run.tryPop = (some value, run.after { run.queue with items := rest } [] [value]))
      ∨ (run.queue.items = [] ∧ run.tryPop = (none, run.after run.queue [] [])) := by
  cases hitems : run.queue.items with
  | nil =>
      refine .inr ⟨rfl, ?_⟩
      simp only [tryPop, BoundedQueue.tryPop, hitems, Option.toList_none]
  | cons value rest =>
      refine .inl ⟨value, rest, rfl, ?_⟩
      simp only [tryPop, BoundedQueue.tryPop, hitems, Option.toList_some]

/-- A pop that need not wait does what `try_pop` does. -/
lemma pop_cases {run run' : QueueRun α} {result : Option α}
    (h : run.pop = some (result, run')) :
    run.tryPop = (result, run')
      ∧ (run.queue.items = [] → run.queue.closed = true) := by
  simp only [pop, BoundedQueue.pop] at h
  split_ifs at h with hwait
  · cases h
  · rw [Option.map_some, Option.some.injEq] at h
    refine ⟨h, fun hitems => ?_⟩
    simpa [hitems] using hwait

/-- A pop waits for an open queue to have something. -/
lemma pop_eq_none {run : QueueRun α} :
    run.pop = none ↔ run.queue.items = [] ∧ run.queue.closed = false := by
  simp only [pop, BoundedQueue.pop, Option.map_eq_none_iff]
  split_ifs with hwait <;> simpa using hwait

/-- A push waits for an open queue to have room. -/
lemma push_eq_none {run : QueueRun α} {value : α} :
    run.push value = none
      ↔ run.queue.closed = false ∧ run.queue.capacity ≤ run.queue.items.length := by
  simp only [push, BoundedQueue.push, Option.map_eq_none_iff]
  split_ifs with hclosed hroom
  · simp [hclosed]
  · simp [hroom]
  · simpa [hclosed] using hroom

/-! ## The invariant -/

/-- What holds of a queue of this capacity, whatever has happened to it. -/
structure Sound (capacity : ℕ) (run : QueueRun α) : Prop where
  order : run.popped ++ run.queue.items = run.accepted
  capacity_eq : run.queue.capacity = max capacity 1
  size_le : run.queue.items.length ≤ max capacity 1
  highWater_eq : run.queue.highWater = run.largest
  size_le_largest : run.queue.items.length ≤ run.largest

variable {capacity : ℕ} {run run' : QueueRun α}

lemma sound_start (capacity : ℕ) : (start capacity : QueueRun α).Sound capacity where
  order := rfl
  capacity_eq := by
    simp only [start, BoundedQueue.make]
    split_ifs <;> omega
  size_le := Nat.zero_le _
  highWater_eq := rfl
  size_le_largest := le_rfl

namespace Sound

/-- A section that finds nothing to do leaves the run as it was. -/
lemma after_self (h : run.Sound capacity) : run.after run.queue [] [] = run := by
  rcases run with ⟨queue, accepted, popped, largest⟩
  simp only [after, List.append_nil, max_eq_left h.size_le_largest]

lemma append (h : run.Sound capacity) (value : α)
    (hroom : run.queue.items.length < run.queue.capacity) :
    (run.after { run.queue with
      items := run.queue.items ++ [value]
      highWater := max run.queue.highWater (run.queue.items.length + 1) } [value] []).Sound
        capacity where
  order := by
    rw [after, ← h.order, List.append_nil, List.append_assoc]
  capacity_eq := h.capacity_eq
  size_le := by
    rw [h.capacity_eq] at hroom
    simp only [after, List.length_append, List.length_singleton]
    omega
  highWater_eq := by simp only [after, h.highWater_eq, List.length_append, List.length_singleton]
  size_le_largest := le_max_right _ _

lemma front (h : run.Sound capacity) {value : α} {rest : List α}
    (hitems : run.queue.items = value :: rest) :
    (run.after { run.queue with items := rest } [] [value]).Sound capacity := by
  have hlength : run.queue.items.length = rest.length + 1 := by rw [hitems, List.length_cons]
  have hlargest : max run.largest rest.length = run.largest :=
    max_eq_left (by have := h.size_le_largest; omega)
  refine ⟨?_, h.capacity_eq, ?_, ?_, le_max_right _ _⟩
  · rw [after, ← h.order, hitems]
    simp
  · have := h.size_le
    simp only [after]
    omega
  · simp only [after, hlargest, h.highWater_eq]

lemma tryPop (h : run.Sound capacity) : run.tryPop.2.Sound capacity := by
  rcases tryPop_cases run with ⟨value, rest, hitems, htry⟩ | ⟨-, htry⟩
  · rw [htry]
    exact h.front hitems
  · rw [htry, h.after_self]
    exact h

/-- **Every critical section keeps the queue sound.** -/
theorem step (h : run.Sound capacity) (hstep : Step run run') : run'.Sound capacity := by
  cases hstep with
  | push value hpush =>
      rcases push_cases hpush with ⟨-, -, hroom, rfl⟩ | ⟨-, -, rfl⟩
      · exact h.append value hroom
      · rwa [h.after_self]
  | pop hpop =>
      have htry := h.tryPop
      rwa [(pop_cases hpop).1] at htry
  | tryPop => exact h.tryPop
  | close =>
      refine ⟨?_, h.capacity_eq, h.size_le, ?_, le_max_right _ _⟩
      · simpa [QueueRun.close, after, BoundedQueue.close] using h.order
      · simpa [QueueRun.close, after, BoundedQueue.close, h.size_le_largest] using h.highWater_eq

end Sound

lemma sound_of_reachable (h : (system α capacity).Reachable run) : run.Sound capacity := by
  refine h.invariant (fun run hinit => ?_) fun run run' _ hsound hstep => hsound.step hstep
  rw [hinit]
  exact sound_start capacity

/-! ## After closing -/

/-- A closed queue stays closed and accepts nothing. -/
lemma closed_step (hclosed : run.queue.closed = true) (hstep : Step run run') :
    run'.queue.closed = true ∧ run'.accepted = run.accepted := by
  have htry : run.tryPop.2.queue.closed = true ∧ run.tryPop.2.accepted = run.accepted := by
    rcases tryPop_cases run with ⟨value, rest, -, htry⟩ | ⟨-, htry⟩
    · rw [htry]
      exact ⟨hclosed, List.append_nil _⟩
    · rw [htry]
      exact ⟨hclosed, List.append_nil _⟩
  cases hstep with
  | push value hpush =>
      rcases push_cases hpush with ⟨-, hopen, -, -⟩ | ⟨-, -, rfl⟩
      · rw [hclosed] at hopen
        cases hopen
      · exact ⟨hclosed, List.append_nil _⟩
  | pop hpop => rwa [(pop_cases hpop).1] at htry
  | tryPop => exact htry
  | close => exact ⟨rfl, List.append_nil _⟩

lemma closed_steps (hclosed : run.queue.closed = true)
    (hsteps : Relation.ReflTransGen Step run run') : run'.accepted = run.accepted := by
  have hboth : run'.queue.closed = true ∧ run'.accepted = run.accepted := by
    induction hsteps with
    | refl => exact ⟨hclosed, rfl⟩
    | tail _ hlast ih =>
        rcases closed_step ih.1 hlast with ⟨hstill, haccepted⟩
        exact ⟨hstill, haccepted.trans ih.2⟩
  exact hboth.2

/-- **First in, first out, and nothing lost**, whatever the interleaving.  What was given out is a
prefix of what was accepted and the queue holds the rest; the size stays within the capacity and
the high-water mark is its maximum; a closed queue accepts nothing more; and `pop` reports the end
only of a closed queue that has given out everything. -/
theorem queue_runs (h : (system α capacity).Reachable run) :
    run.popped <+: run.accepted
      ∧ run.popped ++ run.queue.items = run.accepted
      ∧ run.queue.items.length ≤ max capacity 1
      ∧ run.queue.highWater = run.largest
      ∧ (run.queue.closed = true →
          (∀ value, run.push value = some (false, run))
            ∧ ∀ later, Relation.ReflTransGen Step run later → later.accepted = run.accepted)
      ∧ ∀ run', run.pop = some (none, run') →
          run.queue.closed = true ∧ run.popped = run.accepted ∧ run' = run := by
  have hsound := sound_of_reachable h
  refine ⟨⟨_, hsound.order⟩, hsound.order, hsound.size_le, hsound.highWater_eq,
    fun hclosed => ⟨fun value => ?_, fun later => closed_steps hclosed⟩, fun run' hpop => ?_⟩
  · have hpush : run.queue.push value = some (false, run.queue) := by
      rw [BoundedQueue.push, if_pos hclosed]
    rw [push, hpush]
    simp only [Option.map_some, Bool.false_eq_true, if_false, hsound.after_self]
  · rcases pop_cases hpop with ⟨htry, hclosed⟩
    rcases tryPop_cases run with ⟨value, rest, -, hsome⟩ | ⟨hitems, hnone⟩
    · rw [htry] at hsome
      cases hsome
    · rw [htry, hsound.after_self] at hnone
      have horder := hsound.order
      rw [hitems, List.append_nil] at horder
      exact ⟨hclosed hitems, horder, (Prod.mk.inj hnone).2⟩

/-- A queue of one, filled and closed. -/
def filled : QueueRun ℕ where
  queue := { capacity := 1, items := [7], highWater := 1, closed := true }
  accepted := [7]
  popped := []
  largest := 1

lemma filled_reachable : (system ℕ 1).Reachable filled := by
  have hpush : (system ℕ 1).Reachable
      { filled with queue := { filled.queue with closed := false } } :=
    .step (.init rfl) (.push 7 rfl)
  exact .step hpush (.close _)

/-- It keeps what it has, and takes nothing more. -/
theorem queue_runs_filled :
    filled.popped ++ filled.queue.items = filled.accepted
      ∧ ∀ value, filled.push value = some (false, filled) :=
  have hruns := queue_runs filled_reachable
  ⟨hruns.2.1, (hruns.2.2.2.2.1 rfl).1⟩

end QueueRun

end Imgjit
