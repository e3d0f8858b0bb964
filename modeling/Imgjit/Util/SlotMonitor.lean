import Imgjit.Util.SlotTables

/-!
# No entitled claimant sleeps

The slot pool with its condition variable.  A critical section is one step; the `notify_all` that a
release or a close owes comes after the lock is gone, as a step of its own; a claim that waits stays
parked until a notify reaches it, and then has to find the lock and its predicate again.  Any other
section may come between any two of these, and a parked claim may wake for no reason.

Waiters are not interchangeable: each waits for its own owner's predicate.  So the argument is about
which sections can turn a predicate true, and only a release and a close can; both owe a notify that
reaches everybody.

* `SlotMonitor` — the tables, the claims parked and notified, and the notifies owed.
* `claim_keeps_waiting` — a claim that is served makes nobody else's predicate true.
* `Settled` — the invariant: while no notify is owed, every parked claim still has to wait.
* `no_entitled_sleeper` — what that says of a parked owner: the pool is open, and has no slot free
  or the owner is at its cap.
-/

namespace Imgjit

/-- The tables, the claims that wait, and the notifies that are owed. -/
structure SlotMonitor where
  tables : SlotTables
  /-- The claims on `available_` that no notify has reached, by owner. -/
  parked : List UInt64
  /-- The claims that have been woken and not resumed yet. -/
  notified : List UInt64
  /-- Releases and closes that have not called their `notify_all` yet. -/
  owed : ℕ

namespace SlotMonitor

/-! ## Critical sections -/

/-- A claim that comes to the pool: it is answered, or it is counted and parks. -/
def claimSection (m : SlotMonitor) (owner : UInt64) : SlotMonitor :=
  match m.tables.claim owner with
  | some (_, tables) => { m with tables := tables }
  | none =>
      { m with
        tables := { m.tables with blockedClaims := m.tables.blockedClaims + 1 }
        parked := owner :: m.parked }

/-- A claim that has the lock again evaluates its predicate, and waits on if it does not hold. -/
def resumeSection (m : SlotMonitor) (owner : UInt64) : SlotMonitor :=
  match m.tables.claim owner with
  | some (_, tables) => { m with tables := tables }
  | none => { m with parked := owner :: m.parked }

/-- A release that throws has not reached its `notify_all`. -/
def releaseSection (m : SlotMonitor) (index : ℕ) : SlotMonitor :=
  match m.tables.release index with
  | (.ok _, tables) => { m with tables := tables, owed := m.owed + 1 }
  | (.error _, tables) => { m with tables := tables }

/-- The section of `close`. -/
def closeSection (m : SlotMonitor) : SlotMonitor :=
  { m with tables := m.tables.close, owed := m.owed + 1 }

/-- Claims of any owner arrive and resume, slots are released, the pool is closed, and the notifies
that are owed reach whoever is parked. -/
inductive Step : SlotMonitor → SlotMonitor → Prop
  | claim (m : SlotMonitor) (owner : UInt64) : Step m (m.claimSection owner)
  | resume {m : SlotMonitor} {before later : List UInt64} {owner : UInt64}
      (h : m.notified = before ++ owner :: later) :
      Step m ({ m with notified := before ++ later }.resumeSection owner)
  | wakeForNoReason {m : SlotMonitor} {before later : List UInt64} {owner : UInt64}
      (h : m.parked = before ++ owner :: later) :
      Step m { m with parked := before ++ later, notified := owner :: m.notified }
  | release (m : SlotMonitor) (index : ℕ) : Step m (m.releaseSection index)
  | close (m : SlotMonitor) : Step m m.closeSection
  | notifyAll {m : SlotMonitor} (h : 0 < m.owed) :
      Step m { m with
        owed := m.owed - 1
        parked := []
        notified := m.notified ++ m.parked }

/-- The runs of a new pool, with any owners. -/
def system (hasBase : Bool) (count bytes perOwnerCap : ℕ) : Transition.System SlotMonitor where
  init m := ∃ tables, SlotTables.make hasBase count bytes perOwnerCap = .ok tables
    ∧ m = { tables, parked := [], notified := [], owed := 0 }
  step := Step

end SlotMonitor

/-! ## The predicate a claim waits for -/

namespace SlotTables

variable {tables tables' : SlotTables}

/-- A claim waits exactly while `closed_ || can_claim(owner)` is false. -/
lemma claim_eq_none {owner : UInt64} :
    tables.claim owner = none ↔ (tables.closed || tables.canClaim owner) = false := by
  rw [claim]
  split_ifs with hclosed hcan
  · simp [hclosed]
  · simpa [hclosed] using hcan
  · have hcan : tables.canClaim owner = true := by simpa using hcan
    cases hlist : tables.freeList with
    | nil =>
        rw [canClaim, hlist] at hcan
        cases hcan
    | cons index rest => simp [hcan]

/-- No owner has more than the cap, and the cap is at least one slot. -/
structure WithinCap (cap : ℕ) (tables : SlotTables) : Prop where
  cap_pos : 0 < cap
  cap_eq : tables.perOwnerCap = cap
  held_le : ∀ owner held, tables.heldByOwner owner = some held → held ≤ cap

/-- What a claim that waits is waiting for. -/
lemma WithinCap.waiting {cap : ℕ} (h : tables.WithinCap cap) {owner : UInt64}
    (hwait : tables.claim owner = none) :
    tables.closed = false
      ∧ (tables.freeList = [] ∨ tables.heldByOwner owner = some tables.perOwnerCap) := by
  rcases Bool.or_eq_false_iff.mp (claim_eq_none.mp hwait) with ⟨hopen, hcan⟩
  refine ⟨hopen, ?_⟩
  rw [canClaim] at hcan
  split_ifs at hcan with hempty
  · exact .inl (List.isEmpty_iff.mp hempty)
  · cases hheld : tables.heldByOwner owner with
    | none => simp [hheld] at hcan
    | some held =>
        have hle := h.held_le owner held hheld
        have hge : ¬held < tables.perOwnerCap := by simpa [hheld] using hcan
        rw [h.cap_eq] at hge ⊢
        exact .inr (congrArg some (le_antisymm hle (not_lt.mp hge)))

/-- What a claim that is served does to the counts. -/
lemma claim_served {owner : UInt64} {result : Option ℕ}
    (h : tables.claim owner = some (result, tables')) :
    tables' = tables
      ∨ (tables.canClaim owner = true ∧ tables'.closed = tables.closed
        ∧ tables'.perOwnerCap = tables.perOwnerCap
        ∧ (∃ index, tables.freeList = index :: tables'.freeList)
        ∧ tables'.heldByOwner = Function.update tables.heldByOwner owner
            (some ((tables.heldByOwner owner).getD 0 + 1))) := by
  unfold claim at h
  split_ifs at h with hclosed hcan
  · cases h
    exact .inl rfl
  · cases hlist : tables.freeList with
    | nil =>
        rw [hlist] at h
        cases h
    | cons index rest =>
        rw [hlist] at h
        cases h
        exact .inr ⟨by simpa using hcan, rfl, rfl, ⟨index, rfl⟩, rfl⟩

/-- An owner that may claim is below its cap. -/
lemma canClaim_held {owner : UInt64} {held : ℕ} (h : tables.canClaim owner = true)
    (hheld : tables.heldByOwner owner = some held) : held < tables.perOwnerCap := by
  rw [canClaim, hheld] at h
  split_ifs at h
  simpa using h

/-- **A claim that is served makes nobody's predicate true**: there is one free slot less, and one
owner holds one slot more. -/
theorem claim_keeps_waiting {owner other : UInt64} {result : Option ℕ}
    (h : tables.claim owner = some (result, tables')) (hwait : tables.claim other = none) :
    tables'.claim other = none := by
  rcases claim_served h with rfl | ⟨hcan, hclosed, hcap, ⟨index, hfree⟩, hheld⟩
  · exact hwait
  · rcases Bool.or_eq_false_iff.mp (claim_eq_none.mp hwait) with ⟨hopen, hcannot⟩
    rw [claim_eq_none, hclosed, hopen, Bool.false_or]
    -- The owner just served could claim, so it is not the one that waits.
    have hother : other ≠ owner := by
      rintro rfl
      rw [hcan] at hcannot
      cases hcannot
    rw [canClaim, hfree, List.isEmpty_cons] at hcannot
    rw [canClaim, hheld, Function.update_of_ne hother, hcap]
    split_ifs
    · rfl
    · exact hcannot

namespace WithinCap

variable {cap : ℕ}

lemma make {hasBase : Bool} {count bytes perOwnerCap : ℕ}
    (h : make hasBase count bytes perOwnerCap = .ok tables) :
    tables.WithinCap (if perOwnerCap = 0 then count else perOwnerCap) := by
  unfold SlotTables.make at h
  split at h
  · cases h
  · rename_i hargs
    have hcount : count ≠ 0 := fun hzero => hargs (by simp [hzero])
    cases h
    refine ⟨?_, rfl, fun owner held hheld => by cases hheld⟩
    split_ifs <;> omega

lemma claim {owner : UInt64} {result : Option ℕ} (hcap : tables.WithinCap cap)
    (h : tables.claim owner = some (result, tables')) : tables'.WithinCap cap := by
  rcases claim_served h with rfl | ⟨hcan, -, hsame, -, hheld⟩
  · exact hcap
  · refine ⟨hcap.cap_pos, hsame.trans hcap.cap_eq, fun other held hother => ?_⟩
    have hpos := hcap.cap_pos
    rw [hheld] at hother
    rcases eq_or_ne other owner with rfl | hne
    · rw [Function.update_self, Option.some.injEq] at hother
      cases hbefore : tables.heldByOwner other with
      | none =>
          rw [hbefore, Option.getD_none] at hother
          omega
      | some before =>
          have hlt := canClaim_held hcan hbefore
          rw [hbefore, Option.getD_some] at hother
          rw [hcap.cap_eq] at hlt
          omega
    · rw [Function.update_of_ne hne] at hother
      exact hcap.held_le other held hother

lemma release (hcap : tables.WithinCap cap) (index : ℕ) :
    (tables.release index).2.WithinCap cap := by
  rw [SlotTables.release]
  split_ifs
  · exact hcap
  · refine ⟨hcap.cap_pos, hcap.cap_eq, fun other held hother => ?_⟩
    simp only at hother
    cases hbefore : tables.heldByOwner (tables.ownerAt index) with
    | none =>
        rw [hbefore] at hother
        exact hcap.held_le other held hother
    | some before =>
        have hle := hcap.held_le _ before hbefore
        rw [hbefore] at hother
        simp only at hother
        rcases eq_or_ne other (tables.ownerAt index) with rfl | hne
        · rw [Function.update_self] at hother
          split_ifs at hother
          · rw [Option.some.injEq] at hother
            omega
        · rw [Function.update_of_ne hne] at hother
          exact hcap.held_le other held hother

lemma close (hcap : tables.WithinCap cap) : tables.close.WithinCap cap :=
  ⟨hcap.cap_pos, hcap.cap_eq, hcap.held_le⟩

end WithinCap

end SlotTables

/-! ## The invariant -/

namespace SlotMonitor

variable {cap : ℕ} {m m' : SlotMonitor}

/-- Nobody holds more than the cap, and while no notify is owed every parked claim has to wait. -/
structure Settled (cap : ℕ) (m : SlotMonitor) : Prop where
  capped : m.tables.WithinCap cap
  waiting : m.owed = 0 → ∀ owner ∈ m.parked, m.tables.claim owner = none

namespace Settled

/-- The sections of a claim are the ones that owe nothing.  If it is served, the others go on
waiting; if not, it joins them. -/
lemma answered (h : m.Settled cap) {owner : UInt64} {result : Option ℕ}
    {tables : SlotTables} (hclaim : m.tables.claim owner = some (result, tables)) :
    { m with tables := tables }.Settled cap where
  capped := h.capped.claim hclaim
  waiting howed other hparked :=
    SlotTables.claim_keeps_waiting hclaim (h.waiting howed other hparked)

lemma park (h : m.Settled cap) {owner : UInt64} (hwait : m.tables.claim owner = none) :
    { m with parked := owner :: m.parked }.Settled cap where
  capped := h.capped
  waiting howed other hparked := by
    rcases List.mem_cons.mp hparked with rfl | hparked
    · exact hwait
    · exact h.waiting howed other hparked

/-- The predicates do not read `blocked_claims_`. -/
lemma counted (h : m.Settled cap) :
    { m with tables := { m.tables with blockedClaims := m.tables.blockedClaims + 1 } }.Settled
      cap where
  capped := ⟨h.capped.cap_pos, h.capped.cap_eq, h.capped.held_le⟩
  waiting howed other hparked := by
    have hwait := SlotTables.claim_eq_none.mp (h.waiting howed other hparked)
    exact SlotTables.claim_eq_none.mpr hwait

lemma claimSection (h : m.Settled cap) (owner : UInt64) :
    (m.claimSection owner).Settled cap := by
  rw [SlotMonitor.claimSection]
  cases hclaim : m.tables.claim owner with
  | none => exact (h.park hclaim).counted
  | some answer => exact h.answered hclaim

lemma resumeSection (h : m.Settled cap) (owner : UInt64) :
    (m.resumeSection owner).Settled cap := by
  rw [SlotMonitor.resumeSection]
  cases hclaim : m.tables.claim owner with
  | none => exact h.park hclaim
  | some answer => exact h.answered hclaim

/-- A release that frees a slot owes a notify; one that throws has changed nothing. -/
lemma releaseSection (h : m.Settled cap) (index : ℕ) : (m.releaseSection index).Settled cap := by
  have hcapped := h.capped.release index
  rw [SlotMonitor.releaseSection]
  cases hrelease : m.tables.release index with
  | mk result tables =>
      rw [hrelease] at hcapped
      cases result with
      | ok _ => exact ⟨hcapped, fun howed => absurd howed (Nat.succ_ne_zero _)⟩
      | error e =>
          refine ⟨hcapped, fun howed => ?_⟩
          have hsame : tables = m.tables := by
            rw [SlotTables.release] at hrelease
            split_ifs at hrelease
            · cases hrelease
              rfl
            · cases hrelease
          rw [hsame]
          exact h.waiting howed

/-- **Every step keeps the monitor settled.** -/
theorem step (h : m.Settled cap) (hstep : Step m m') : m'.Settled cap := by
  cases hstep with
  | claim owner => exact h.claimSection owner
  | @resume before later owner hnotified =>
      have hresumed : { m with notified := before ++ later }.Settled cap := ⟨h.capped, h.waiting⟩
      exact hresumed.resumeSection owner
  | @wakeForNoReason before later owner hparked =>
      refine ⟨h.capped, fun howed other hmem => h.waiting howed other ?_⟩
      rw [hparked]
      rcases List.mem_append.mp hmem with hmem | hmem
      · exact List.mem_append_left _ hmem
      · exact List.mem_append_right _ (List.mem_cons_of_mem _ hmem)
  | release index => exact h.releaseSection index
  | close => exact ⟨h.capped.close, fun howed => absurd howed (Nat.succ_ne_zero _)⟩
  | notifyAll howed => exact ⟨h.capped, fun _ other hparked => by cases hparked⟩

end Settled

variable {hasBase : Bool} {count bytes perOwnerCap : ℕ}

lemma settled_of_reachable (h : (system hasBase count bytes perOwnerCap).Reachable m) :
    m.Settled (if perOwnerCap = 0 then count else perOwnerCap) := by
  refine h.invariant (fun m hinit => ?_) fun m m' _ hsettled hstep => hsettled.step hstep
  rcases hinit with ⟨tables, hmake, rfl⟩
  exact ⟨.make hmake, fun _ owner hparked => by cases hparked⟩

/-- **While no notify is owed, a claim that is parked has to be.**  Its predicate is false: the pool
is open, and no slot is free or its owner is at its cap. -/
theorem no_entitled_sleeper (h : (system hasBase count bytes perOwnerCap).Reachable m)
    (howed : m.owed = 0) {owner : UInt64} (hparked : owner ∈ m.parked) :
    (m.tables.closed || m.tables.canClaim owner) = false
      ∧ m.tables.closed = false
      ∧ (m.tables.freeList = []
        ∨ m.tables.heldByOwner owner
          = some (if perOwnerCap = 0 then count else perOwnerCap)) := by
  have hsettled := settled_of_reachable h
  have hwait := hsettled.waiting howed owner hparked
  have hwaiting := hsettled.capped.waiting hwait
  rw [hsettled.capped.cap_eq] at hwaiting
  exact ⟨SlotTables.claim_eq_none.mp hwait, hwaiting⟩

/-- Two slots, one of them an owner's share; owner 3 has its share and wants another. -/
def atItsCap : SlotMonitor where
  tables :=
    { count := 2, bytes := 16, perOwnerCap := 1, freeList := [1], ownerOf := [3, kNoOwner],
      heldByOwner := Function.update (fun _ => none) 3 (some 1), blockedClaims := 1,
      closed := false }
  parked := [3]
  notified := []
  owed := 0

lemma atItsCap_reachable : (system true 2 16 1).Reachable atItsCap := by
  have hclaim := Transition.System.Reachable.step
    (.init (show (system true 2 16 1).init _ from ⟨_, rfl, rfl⟩)) (.claim _ 3)
  exact .step hclaim (.claim _ 3)

/-- It sleeps beside a free slot, and rightly. -/
theorem no_entitled_sleeper_atItsCap :
    atItsCap.tables.freeList = [1]
      ∧ (atItsCap.tables.closed || atItsCap.tables.canClaim 3) = false :=
  have hparked : 3 ∈ atItsCap.parked := List.mem_cons_self
  ⟨rfl, (no_entitled_sleeper atItsCap_reachable rfl hparked).1⟩

end SlotMonitor

end Imgjit
