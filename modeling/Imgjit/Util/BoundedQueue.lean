import Mathlib.Data.Nat.Notation
import Mathlib.Tactic.SplitIfs

/-!
# The bounded queue between the readers and the worker

The critical sections of `bounded_queue.h`.  An operation that would wait is partial: `none` means
"still parked on the condition variable".  What remains of an operation is a function of the queue,
so the three levels at which the queue is looked at share it: the server has it in its state, its
runs are in `QueueRuns.lean`, and the condition variables are added in `QueueMonitor.lean`.

* `BoundedQueue` — capacity, items and the two things that are remembered: the high-water mark, and
  whether the queue is closed.  A capacity of zero becomes one.
* `push` — refused on a closed queue, waits on a full one.
* `pop`, `tryPop` — what is left in a closed queue is still handed out.
* `close` — nobody waits any longer, and nothing is discarded.
-/

namespace Imgjit

/-- The members of the queue. -/
structure BoundedQueue (α : Type) where
  capacity : ℕ
  /-- Front first. -/
  items : List α
  highWater : ℕ
  closed : Bool

namespace BoundedQueue

variable {α : Type}

/-- The constructor. -/
def make (capacity : ℕ) : BoundedQueue α where
  capacity := if capacity = 0 then 1 else capacity
  items := []
  highWater := 0
  closed := false

/-- `push`, once it need not wait.  The result says whether the value was taken. -/
def push (queue : BoundedQueue α) (value : α) : Option (Bool × BoundedQueue α) :=
  if queue.closed then some (false, queue)
  else if queue.items.length < queue.capacity then
    some (true, { queue with
      items := queue.items ++ [value]
      highWater := max queue.highWater (queue.items.length + 1) })
  else none

/-- `try_pop`: never waits. -/
def tryPop (queue : BoundedQueue α) : Option α × BoundedQueue α :=
  match queue.items with
  | [] => (none, queue)
  | value :: rest => (some value, { queue with items := rest })

/-- `pop`, once it need not wait.  `none` as its value means closed and drained. -/
def pop (queue : BoundedQueue α) : Option (Option α × BoundedQueue α) :=
  if queue.items = [] ∧ !queue.closed then none else some queue.tryPop

/-- `close`. -/
def close (queue : BoundedQueue α) : BoundedQueue α := { queue with closed := true }

/-- **What a push does**, when it succeeds. -/
theorem push_true {queue queue' : BoundedQueue α} {value : α}
    (h : queue.push value = some (true, queue')) :
    queue.closed = false ∧ queue'.items = queue.items ++ [value] := by
  unfold push at h
  split_ifs at h with hclosed
  · cases h
  · cases h
    exact ⟨by simpa using hclosed, rfl⟩

/-- A failed push leaves the value with its caller and the queue as it was. -/
lemma push_false {queue queue' : BoundedQueue α} {value : α}
    (h : queue.push value = some (false, queue')) : queue.closed = true ∧ queue' = queue := by
  unfold push at h
  split_ifs at h with hclosed
  · cases h
    exact ⟨hclosed, rfl⟩
  · cases h

/-- **What taking an item does.** -/
theorem tryPop_some {queue queue' : BoundedQueue α} {value : α}
    (h : queue.tryPop = (some value, queue')) : queue.items = value :: queue'.items := by
  unfold tryPop at h
  split at h
  · cases h
  · rename_i hitems
    cases h
    exact hitems

lemma tryPop_none {queue queue' : BoundedQueue α} (h : queue.tryPop = (none, queue')) :
    queue.items = [] ∧ queue' = queue := by
  unfold tryPop at h
  split at h
  · rename_i hitems
    cases h
    exact ⟨hitems, rfl⟩
  · cases h

/-- Only `close` closes a queue, and nothing changes its capacity. -/
lemma push_kept {queue queue' : BoundedQueue α} {value : α} {taken : Bool}
    (h : queue.push value = some (taken, queue')) :
    queue'.capacity = queue.capacity ∧ queue'.closed = queue.closed := by
  unfold push at h
  split_ifs at h with hclosed
  · cases h
    exact ⟨rfl, rfl⟩
  · cases h
    exact ⟨rfl, rfl⟩

lemma tryPop_kept {queue queue' : BoundedQueue α} {result : Option α}
    (h : queue.tryPop = (result, queue')) :
    queue'.capacity = queue.capacity ∧ queue'.closed = queue.closed := by
  unfold tryPop at h
  split at h
  · cases h
    exact ⟨rfl, rfl⟩
  · cases h
    exact ⟨rfl, rfl⟩

lemma pop_eq_tryPop {queue : BoundedQueue α} {result : Option α × BoundedQueue α}
    (h : queue.pop = some result) : queue.tryPop = result := by
  unfold pop at h
  split_ifs at h
  exact Option.some.inj h

/-- What is taken does not depend on whether the caller was ready to wait for it. -/
lemma tryPop_of_either {waits : Prop} [Decidable waits] {queue : BoundedQueue α}
    {result : Option α × BoundedQueue α}
    (h : if waits then queue.pop = some result else queue.tryPop = result) :
    queue.tryPop = result := by
  split_ifs at h
  · exact pop_eq_tryPop h
  · exact h

lemma pop_none {queue queue' : BoundedQueue α} (h : queue.pop = some (none, queue')) :
    queue.closed = true ∧ queue' = queue := by
  obtain ⟨hitems, hkept⟩ := tryPop_none (pop_eq_tryPop h)
  refine ⟨?_, hkept⟩
  cases hclosed : queue.closed with
  | true => rfl
  | false => simp [pop, hitems, hclosed] at h

end BoundedQueue

end Imgjit
