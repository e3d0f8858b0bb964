import Imgjit.Util.QueueRuns

/-!
# No wakeup is lost

The bounded queue with its two condition variables.  A critical section is one step; the notify it
owes comes after the lock is gone, as a step of its own; a thread that waits stays parked until a
notify reaches it, and then has to find the lock and its condition again.  Newcomers may come
between any two of these, and take the place or the item that a notified thread was woken for.

A notified thread that finds its condition false parks again, and the notify that woke it is spent.
That is where a wakeup could be lost, and the reason why the argument counts.

* `QueueMonitor` — a run of the queue, the threads parked and notified on either side, and the
  notifies owed.
* `Covered` — the counting invariant: while a producer is parked on an open queue, there is a
  notified producer or an owed notify for every free place; on a closed one, a `notify_all` is owed.
  The same for consumers and items.
* `monitor_run` — the critical sections of a monitor's run are a run of the queue.
* `no_lost_wakeup` — what is left of the invariant once every owed notify has been delivered.
-/

namespace Imgjit

/-- The queue, the threads that wait for it, and the notifies that are owed. -/
structure QueueMonitor (α : Type) where
  run : QueueRun α
  /-- The producers on `not_full_` that no notify has reached, by the value each is to push. -/
  parkedProducers : List α
  /-- The producers a notify has reached and that have not resumed yet. -/
  notifiedProducers : List α
  parkedConsumers : ℕ
  notifiedConsumers : ℕ
  /-- Pushes and pops that have not called their `notify_one` yet. -/
  owedNotEmpty : ℕ
  owedNotFull : ℕ
  /-- Closes that have called neither `notify_all`, and those that have called the first one. -/
  owedCloses : ℕ
  owedCloseNotFulls : ℕ

namespace QueueMonitor

variable {α : Type}

/-- A new queue, with nobody waiting. -/
def start (capacity : ℕ) : QueueMonitor α where
  run := .start capacity
  parkedProducers := []
  notifiedProducers := []
  parkedConsumers := 0
  notifiedConsumers := 0
  owedNotEmpty := 0
  owedNotFull := 0
  owedCloses := 0
  owedCloseNotFulls := 0

/-! ## Critical sections -/

/-- What a producer with the lock does: it pushes, or is told that the queue is closed, or parks. -/
def pushSection (m : QueueMonitor α) (value : α) : QueueMonitor α :=
  match m.run.push value with
  | none => { m with parkedProducers := value :: m.parkedProducers }
  | some (true, run) => { m with run := run, owedNotEmpty := m.owedNotEmpty + 1 }
  | some (false, run) => { m with run := run }

/-- The section of `pop`.  A consumer that finds nothing parks. -/
def popSection (m : QueueMonitor α) : QueueMonitor α :=
  match m.run.pop with
  | none => { m with parkedConsumers := m.parkedConsumers + 1 }
  | some (some _, run) => { m with run := run, owedNotFull := m.owedNotFull + 1 }
  | some (none, run) => { m with run := run }

/-- The section of `try_pop`. -/
def tryPopSection (m : QueueMonitor α) : QueueMonitor α :=
  match m.run.tryPop with
  | (some _, run) => { m with run := run, owedNotFull := m.owedNotFull + 1 }
  | (none, run) => { m with run := run }

/-- The section of `close`. -/
def closeSection (m : QueueMonitor α) : QueueMonitor α :=
  { m with run := m.run.close, owedCloses := m.owedCloses + 1 }

/-- `notify_one` with a consumer to wake, or with none. -/
def wakeConsumer (m : QueueMonitor α) : QueueMonitor α :=
  if m.parkedConsumers = 0 then m
  else
    { m with
      parkedConsumers := m.parkedConsumers - 1
      notifiedConsumers := m.notifiedConsumers + 1 }

/-- Newcomers and notified threads run their sections, and owed notifies are delivered, each
`notify_one` to whichever thread is parked. -/
inductive Step : QueueMonitor α → QueueMonitor α → Prop
  | push (m : QueueMonitor α) (value : α) : Step m (m.pushSection value)
  | resumePush {m : QueueMonitor α} {before later : List α} {value : α}
      (h : m.notifiedProducers = before ++ value :: later) :
      Step m ({ m with notifiedProducers := before ++ later }.pushSection value)
  | pop (m : QueueMonitor α) : Step m m.popSection
  | resumePop {m : QueueMonitor α} (h : 0 < m.notifiedConsumers) :
      Step m { m with notifiedConsumers := m.notifiedConsumers - 1 }.popSection
  | tryPop (m : QueueMonitor α) : Step m m.tryPopSection
  | close (m : QueueMonitor α) : Step m m.closeSection
  | notifyNotEmpty {m : QueueMonitor α} (h : 0 < m.owedNotEmpty) :
      Step m { m with owedNotEmpty := m.owedNotEmpty - 1 }.wakeConsumer
  | notifyNotFull {m : QueueMonitor α} {before later : List α} {value : α}
      (h : 0 < m.owedNotFull) (hparked : m.parkedProducers = before ++ value :: later) :
      Step m { m with
        owedNotFull := m.owedNotFull - 1
        parkedProducers := before ++ later
        notifiedProducers := value :: m.notifiedProducers }
  | notifyNobody {m : QueueMonitor α} (h : 0 < m.owedNotFull) (hparked : m.parkedProducers = []) :
      Step m { m with owedNotFull := m.owedNotFull - 1 }
  | notifyAllNotEmpty {m : QueueMonitor α} (h : 0 < m.owedCloses) :
      Step m { m with
        owedCloses := m.owedCloses - 1
        owedCloseNotFulls := m.owedCloseNotFulls + 1
        parkedConsumers := 0
        notifiedConsumers := m.notifiedConsumers + m.parkedConsumers }
  | notifyAllNotFull {m : QueueMonitor α} (h : 0 < m.owedCloseNotFulls) :
      Step m { m with
        owedCloseNotFulls := m.owedCloseNotFulls - 1
        parkedProducers := []
        notifiedProducers := m.notifiedProducers ++ m.parkedProducers }

/-- The runs of a new queue, with any threads. -/
def system (α : Type) (capacity : ℕ) : Transition.System (QueueMonitor α) where
  init m := m = start capacity
  step := Step

/-! ## What a section does -/

section Sections

variable {m : QueueMonitor α}

/-- A producer's section pushes onto an open queue with room, does nothing to a closed one, or
parks because an open queue is full. -/
lemma pushSection_cases (m : QueueMonitor α) (value : α) :
    (∃ run, m.run.push value = some (true, run) ∧ run.queue.closed = false
        ∧ m.run.queue.closed = false ∧ run.queue.capacity = m.run.queue.capacity
        ∧ run.queue.items.length = m.run.queue.items.length + 1
        ∧ m.pushSection value = { m with run := run, owedNotEmpty := m.owedNotEmpty + 1 })
      ∨ (∃ run, m.run.push value = some (false, run) ∧ run.queue = m.run.queue
        ∧ m.run.queue.closed = true ∧ m.pushSection value = { m with run := run })
      ∨ (m.run.queue.closed = false ∧ m.run.queue.capacity ≤ m.run.queue.items.length
        ∧ m.pushSection value = { m with parkedProducers := value :: m.parkedProducers }) := by
  cases hpush : m.run.push value with
  | none =>
      rcases QueueRun.push_eq_none.mp hpush with ⟨hopen, hfull⟩
      exact .inr (.inr ⟨hopen, hfull, by rw [pushSection, hpush]⟩)
  | some result =>
      rcases result with ⟨taken, run⟩
      rcases QueueRun.push_cases hpush with ⟨rfl, hopen, -, rfl⟩ | ⟨rfl, hclosed, rfl⟩
      · refine .inl ⟨_, rfl, hopen, hopen, rfl, ?_, by rw [pushSection, hpush]⟩
        simp [QueueRun.after]
      · exact .inr (.inl ⟨_, rfl, rfl, hclosed, by rw [pushSection, hpush]⟩)

/-- A consumer's section takes an item, or parks because an open queue is empty, or is told that a
closed queue is drained. -/
lemma popSection_cases (m : QueueMonitor α) :
    (∃ run value, m.run.pop = some (some value, run)
        ∧ run.queue.closed = m.run.queue.closed ∧ run.queue.capacity = m.run.queue.capacity
        ∧ m.run.queue.items.length = run.queue.items.length + 1
        ∧ m.popSection = { m with run := run, owedNotFull := m.owedNotFull + 1 })
      ∨ (∃ run, m.run.pop = some (none, run) ∧ run.queue = m.run.queue
        ∧ m.run.queue.closed = true ∧ m.popSection = { m with run := run })
      ∨ (m.run.queue.closed = false ∧ m.run.queue.items = []
        ∧ m.popSection = { m with parkedConsumers := m.parkedConsumers + 1 }) := by
  cases hpop : m.run.pop with
  | none =>
      rcases QueueRun.pop_eq_none.mp hpop with ⟨hempty, hopen⟩
      exact .inr (.inr ⟨hopen, hempty, by rw [popSection, hpop]⟩)
  | some result =>
      rcases result with ⟨result, run⟩
      rcases QueueRun.pop_cases hpop with ⟨htry, hclosed⟩
      rcases QueueRun.tryPop_cases m.run with ⟨value, rest, hitems, hsome⟩ | ⟨hitems, hnone⟩
      · rw [htry] at hsome
        cases hsome
        refine .inl ⟨_, value, rfl, rfl, rfl, ?_, by rw [popSection, hpop]⟩
        simp [QueueRun.after, hitems]
      · rw [htry] at hnone
        cases hnone
        exact .inr (.inl ⟨_, rfl, rfl, hclosed hitems, by rw [popSection, hpop]⟩)

lemma tryPopSection_cases (m : QueueMonitor α) :
    (∃ run value, m.run.tryPop = (some value, run)
        ∧ run.queue.closed = m.run.queue.closed ∧ run.queue.capacity = m.run.queue.capacity
        ∧ m.run.queue.items.length = run.queue.items.length + 1
        ∧ m.tryPopSection = { m with run := run, owedNotFull := m.owedNotFull + 1 })
      ∨ ∃ run, m.run.tryPop = (none, run) ∧ run.queue = m.run.queue
        ∧ m.tryPopSection = { m with run := run } := by
  rcases QueueRun.tryPop_cases m.run with ⟨value, rest, hitems, hsome⟩ | ⟨-, hnone⟩
  · refine .inl ⟨_, value, hsome, rfl, rfl, ?_, by rw [tryPopSection, hsome]⟩
    simp [QueueRun.after, hitems]
  · exact .inr ⟨_, hnone, rfl, by rw [tryPopSection, hnone]⟩

end Sections

/-! ## A monitor runs the queue -/

variable {capacity : ℕ} {m m' : QueueMonitor α}

/-- A step of the monitor is a critical section of the queue, or none at all. -/
lemma step_run (hstep : Step m m') : m'.run = m.run ∨ QueueRun.Step m.run m'.run := by
  have hpush : ∀ (m : QueueMonitor α) (value : α),
      (m.pushSection value).run = m.run ∨ QueueRun.Step m.run (m.pushSection value).run := by
    intro m value
    rcases m.pushSection_cases value with
      ⟨run, hpush, -, -, -, -, heq⟩ | ⟨run, hpush, -, -, heq⟩ | ⟨-, -, heq⟩ <;> rw [heq]
    · exact .inr (.push value hpush)
    · exact .inr (.push value hpush)
    · exact .inl rfl
  have hpop : ∀ m : QueueMonitor α,
      m.popSection.run = m.run ∨ QueueRun.Step m.run m.popSection.run := by
    intro m
    rcases m.popSection_cases with
      ⟨run, value, hpop, -, -, -, heq⟩ | ⟨run, hpop, -, -, heq⟩ | ⟨-, -, heq⟩ <;> rw [heq]
    · exact .inr (.pop hpop)
    · exact .inr (.pop hpop)
    · exact .inl rfl
  cases hstep with
  | push value => exact hpush m value
  | resumePush h => exact hpush _ _
  | pop => exact hpop m
  | resumePop h => exact hpop _
  | tryPop =>
      have htry := QueueRun.Step.tryPop m.run
      rcases m.tryPopSection_cases with ⟨run, value, heq, -, -, -, hm⟩ | ⟨run, heq, -, hm⟩ <;>
        rw [hm] <;> rw [heq] at htry <;> exact .inr htry
  | close => exact .inr (.close m.run)
  | notifyNotEmpty h =>
      rw [wakeConsumer]
      split_ifs <;> exact .inl rfl
  | notifyNotFull h hparked => exact .inl rfl
  | notifyNobody h hparked => exact .inl rfl
  | notifyAllNotEmpty h => exact .inl rfl
  | notifyAllNotFull h => exact .inl rfl

/-- **The critical sections of a monitor's run are a run of the queue**, so whatever holds of every
run of the queue holds here. -/
theorem monitor_run (h : (system α capacity).Reachable m) :
    (QueueRun.system α capacity).Reachable m.run := by
  induction h with
  | init hinit =>
      rw [hinit]
      exact .init rfl
  | step _ hstep hrun =>
      rcases step_run hstep with hsame | hsection
      · rwa [hsame]
      · exact .step hrun hsection

/-! ## The counting invariant -/

/-- Whoever is parked has somebody on the way: for every free place a notified producer or an owed
notify, for every item a notified consumer or an owed notify, and on a closed queue a close that
still has to call `notify_all`.  `spareProducers` and `spareConsumers` count the threads that have
just resumed and hold the lock. -/
structure Covered (spareProducers spareConsumers : ℕ) (m : QueueMonitor α) : Prop where
  producers : m.parkedProducers ≠ [] → m.run.queue.closed = false →
    m.run.queue.capacity ≤ m.run.queue.items.length + m.notifiedProducers.length
      + m.owedNotFull + spareProducers
  producersClosed : m.parkedProducers ≠ [] → m.run.queue.closed = true →
    0 < m.owedCloses + m.owedCloseNotFulls
  consumers : m.parkedConsumers ≠ 0 → m.run.queue.closed = false →
    m.run.queue.items.length ≤ m.notifiedConsumers + m.owedNotEmpty + spareConsumers
  consumersClosed : m.parkedConsumers ≠ 0 → m.run.queue.closed = true → 0 < m.owedCloses

namespace Covered

lemma mono {p c p' c' : ℕ} (h : m.Covered p c) (hp : p ≤ p') (hc : c ≤ c') : m.Covered p' c' where
  producers hparked hopen := (h.producers hparked hopen).trans (Nat.add_le_add_left hp _)
  producersClosed := h.producersClosed
  consumers hparked hopen := (h.consumers hparked hopen).trans (Nat.add_le_add_left hc _)
  consumersClosed := h.consumersClosed

lemma start (capacity : ℕ) : (start capacity : QueueMonitor α).Covered 0 0 where
  producers hparked := absurd rfl hparked
  producersClosed hparked := absurd rfl hparked
  consumers hparked := absurd rfl hparked
  consumersClosed hparked := absurd rfl hparked

/-- The invariant reads the queue and not its history. -/
lemma of_queue {p c : ℕ} (h : m.Covered p c) {run : QueueRun α} (hsame : run.queue = m.run.queue) :
    { m with run := run }.Covered p c := by
  refine ⟨?_, ?_, ?_, ?_⟩ <;> simp only [hsame]
  · exact h.producers
  · exact h.producersClosed
  · exact h.consumers
  · exact h.consumersClosed

/-- On a closed queue nobody counts on the threads that have just resumed. -/
lemma of_closed {p c : ℕ} (h : m.Covered p c) (hclosed : m.run.queue.closed = true) :
    m.Covered 0 0 where
  producers _ hopen := absurd (hopen.symm.trans hclosed) Bool.false_ne_true
  producersClosed := h.producersClosed
  consumers _ hopen := absurd (hopen.symm.trans hclosed) Bool.false_ne_true
  consumersClosed := h.consumersClosed

/-- A producer that takes a place, or finds none, uses up what its own resumption left over. -/
lemma pushSection (h : m.Covered 1 0) (value : α) : (m.pushSection value).Covered 0 0 := by
  rcases m.pushSection_cases value with
    ⟨run, -, hopen', hopen, hcapacity, hitems, heq⟩ | ⟨run, -, hsame, hclosed, heq⟩
      | ⟨hopen, hfull, heq⟩ <;> rw [heq]
  · refine ⟨fun hparked _ => ?_, fun _ hclosed => ?_, fun hparked _ => ?_, fun _ hclosed => ?_⟩
    · have := h.producers hparked hopen
      simp only [hcapacity, hitems]
      omega
    · exact absurd (hopen'.symm.trans hclosed) Bool.false_ne_true
    · have := h.consumers hparked hopen
      simp only [hitems]
      omega
    · exact absurd (hopen'.symm.trans hclosed) Bool.false_ne_true
  · exact (h.of_closed hclosed).of_queue hsame
  · refine ⟨fun _ _ => ?_, fun _ hclosed => ?_, h.consumers, h.consumersClosed⟩
    · simp only
      omega
    · exact absurd (hopen.symm.trans hclosed) Bool.false_ne_true

/-- What is left after an item is gone. -/
lemma taken (h : m.Covered 0 1) {run : QueueRun α} (hclosed : run.queue.closed = m.run.queue.closed)
    (hcapacity : run.queue.capacity = m.run.queue.capacity)
    (hitems : m.run.queue.items.length = run.queue.items.length + 1) :
    { m with run := run, owedNotFull := m.owedNotFull + 1 }.Covered 0 0 where
  producers hparked hopen := by
    have := h.producers hparked (hclosed ▸ hopen)
    simp only [hcapacity]
    omega
  producersClosed hparked hshut := h.producersClosed hparked (hclosed ▸ hshut)
  consumers hparked hopen := by
    have := h.consumers hparked (hclosed ▸ hopen)
    simp only
    omega
  consumersClosed hparked hshut := h.consumersClosed hparked (hclosed ▸ hshut)

/-- A consumer that takes an item, or finds none, does so too. -/
lemma popSection (h : m.Covered 0 1) : m.popSection.Covered 0 0 := by
  rcases m.popSection_cases with
    ⟨run, value, -, hclosed, hcapacity, hitems, heq⟩ | ⟨run, -, hsame, hclosed, heq⟩
      | ⟨hopen, hempty, heq⟩ <;> rw [heq]
  · exact h.taken hclosed hcapacity hitems
  · exact (h.of_closed hclosed).of_queue hsame
  · refine ⟨h.producers, h.producersClosed, fun _ _ => ?_, fun _ hclosed => ?_⟩
    · simp [hempty]
    · exact absurd (hopen.symm.trans hclosed) Bool.false_ne_true

lemma tryPopSection (h : m.Covered 0 0) : m.tryPopSection.Covered 0 0 := by
  rcases m.tryPopSection_cases with
    ⟨run, value, -, hclosed, hcapacity, hitems, heq⟩ | ⟨run, -, hsame, heq⟩ <;> rw [heq]
  · exact (h.mono le_rfl (Nat.zero_le 1)).taken hclosed hcapacity hitems
  · exact h.of_queue hsame

/-- A close leaves nothing open, and owes everybody a notify. -/
lemma closeSection (m : QueueMonitor α) : m.closeSection.Covered 0 0 where
  producers _ hopen := absurd hopen (by simp [QueueMonitor.closeSection, QueueRun.close,
    QueueRun.after, BoundedQueue.close])
  producersClosed _ _ := by
    simp only [QueueMonitor.closeSection]
    omega
  consumers _ hopen := absurd hopen (by simp [QueueMonitor.closeSection, QueueRun.close,
    QueueRun.after, BoundedQueue.close])
  consumersClosed _ _ := Nat.succ_pos _

/-- **Every step keeps everybody covered.** -/
theorem step (h : m.Covered 0 0) (hstep : Step m m') : m'.Covered 0 0 := by
  cases hstep with
  | push value => exact (h.mono (Nat.zero_le 1) le_rfl).pushSection value
  | @resumePush before later value hnotified =>
      have hresumed : { m with notifiedProducers := before ++ later }.Covered 1 0 := by
        refine ⟨fun hparked hopen => ?_, h.producersClosed, h.consumers, h.consumersClosed⟩
        have := h.producers hparked hopen
        rw [hnotified, List.length_append, List.length_cons] at this
        simp only [List.length_append]
        omega
      exact hresumed.pushSection value
  | pop => exact (h.mono le_rfl (Nat.zero_le 1)).popSection
  | resumePop hnotified =>
      have hresumed : { m with notifiedConsumers := m.notifiedConsumers - 1 }.Covered 0 1 := by
        refine ⟨h.producers, h.producersClosed, fun hparked hopen => ?_, h.consumersClosed⟩
        have := h.consumers hparked hopen
        simp only
        omega
      exact hresumed.popSection
  | tryPop => exact h.tryPopSection
  | close => exact .closeSection m
  | notifyNotEmpty howed =>
      -- With nobody to wake the notify is lost, and nobody needs it.
      rw [wakeConsumer]
      split_ifs with hnobody
      · exact ⟨h.producers, h.producersClosed, fun hparked => absurd hnobody hparked,
          fun hparked => absurd hnobody hparked⟩
      · refine ⟨h.producers, h.producersClosed, fun _ hopen => ?_, fun _ => ?_⟩
        · have := h.consumers hnobody hopen
          simp only
          omega
        · exact h.consumersClosed hnobody
  | notifyNotFull howed hparked =>
      have hne : m.parkedProducers ≠ [] := by
        rw [hparked]
        simp
      refine ⟨fun _ hopen => ?_, fun _ => h.producersClosed hne, h.consumers, h.consumersClosed⟩
      have := h.producers hne hopen
      simp only [List.length_cons]
      omega
  | notifyNobody howed hnobody =>
      exact ⟨fun hparked => absurd hnobody hparked, h.producersClosed, h.consumers,
        h.consumersClosed⟩
  | notifyAllNotEmpty howed =>
      refine ⟨h.producers, fun hparked hclosed => ?_, fun hparked => absurd rfl hparked,
        fun hparked => absurd rfl hparked⟩
      have := h.producersClosed hparked hclosed
      simp only
      omega
  | notifyAllNotFull howed =>
      exact ⟨fun hparked => absurd rfl hparked, fun hparked => absurd rfl hparked, h.consumers,
        h.consumersClosed⟩

end Covered

lemma covered_of_reachable (h : (system α capacity).Reachable m) : m.Covered 0 0 := by
  refine h.invariant (fun m hinit => ?_) fun m m' _ hcovered hstep => hcovered.step hstep
  rw [hinit]
  exact .start capacity

/-- Every notify a finished critical section owes has been called. -/
structure Delivered (m : QueueMonitor α) : Prop where
  notEmpty : m.owedNotEmpty = 0
  notFull : m.owedNotFull = 0
  closes : m.owedCloses = 0
  closeNotFulls : m.owedCloseNotFulls = 0

/-- **No wakeup is lost.**  Once every owed notify has been delivered, whoever is parked without a
notify waits on an open queue that has no more free places, or items, than notified threads on
their way to them; so nobody is parked with none notified while the queue has room, or an item, or
is closed. -/
theorem no_lost_wakeup (h : (system α capacity).Reachable m) (hdelivered : m.Delivered) :
    (m.parkedProducers ≠ [] → m.run.queue.closed = false
        ∧ m.run.queue.capacity - m.run.queue.items.length ≤ m.notifiedProducers.length)
      ∧ (m.parkedConsumers ≠ 0 → m.run.queue.closed = false
        ∧ m.run.queue.items.length ≤ m.notifiedConsumers)
      ∧ ¬(m.parkedProducers ≠ [] ∧ m.notifiedProducers = []
        ∧ (m.run.queue.items.length < m.run.queue.capacity ∨ m.run.queue.closed = true))
      ∧ ¬(m.parkedConsumers ≠ 0 ∧ m.notifiedConsumers = 0
        ∧ (m.run.queue.items ≠ [] ∨ m.run.queue.closed = true)) := by
  have hcovered := covered_of_reachable h
  rcases hdelivered with ⟨hnotEmpty, hnotFull, hcloses, hcloseNotFulls⟩
  have hproducers : m.parkedProducers ≠ [] → m.run.queue.closed = false
      ∧ m.run.queue.capacity - m.run.queue.items.length ≤ m.notifiedProducers.length := by
    intro hparked
    cases hclosed : m.run.queue.closed with
    | true =>
        have := hcovered.producersClosed hparked hclosed
        omega
    | false =>
        have := hcovered.producers hparked hclosed
        exact ⟨rfl, by omega⟩
  have hconsumers : m.parkedConsumers ≠ 0 → m.run.queue.closed = false
      ∧ m.run.queue.items.length ≤ m.notifiedConsumers := by
    intro hparked
    cases hclosed : m.run.queue.closed with
    | true =>
        have := hcovered.consumersClosed hparked hclosed
        omega
    | false =>
        have := hcovered.consumers hparked hclosed
        exact ⟨rfl, by omega⟩
  refine ⟨hproducers, hconsumers, ?_, ?_⟩
  · rintro ⟨hparked, hnone, hroom⟩
    rcases hproducers hparked with ⟨hopen, hfree⟩
    rw [hnone, List.length_nil] at hfree
    rcases hroom with hroom | hclosed
    · omega
    · exact absurd (hopen.symm.trans hclosed) Bool.false_ne_true
  · rintro ⟨hparked, hnone, hitem⟩
    rcases hconsumers hparked with ⟨hopen, hitems⟩
    rw [hnone, Nat.le_zero, List.length_eq_zero_iff] at hitems
    rcases hitem with hitem | hclosed
    · exact hitem hitems
    · exact absurd (hopen.symm.trans hclosed) Bool.false_ne_true

/-- A second producer on a queue of one: it is parked, and rightly so. -/
def crowded : QueueMonitor ℕ :=
  { start 1 with
    run := { QueueRun.filled with queue := { QueueRun.filled.queue with closed := false } }
    parkedProducers := [8] }

lemma crowded_reachable : (system ℕ 1).Reachable crowded := by
  have hpush : (system ℕ 1).Reachable ((start 1).pushSection 7) := .step (.init rfl) (.push _ 7)
  have hnotify := Transition.System.Reachable.step hpush (.notifyNotEmpty Nat.one_pos)
  exact .step hnotify (.push _ 8)

/-- One place was free and one producer was woken for it. -/
theorem no_lost_wakeup_crowded :
    crowded.run.queue.closed = false ∧ crowded.run.queue.items.length = 1
      ∧ crowded.run.queue.capacity - crowded.run.queue.items.length
        ≤ crowded.notifiedProducers.length :=
  have hparked := (no_lost_wakeup crowded_reachable ⟨rfl, rfl, rfl, rfl⟩).1 (List.cons_ne_nil 8 [])
  ⟨hparked.1, rfl, hparked.2⟩

end QueueMonitor

end Imgjit
