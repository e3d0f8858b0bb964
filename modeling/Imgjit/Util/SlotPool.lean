import Imgjit.Core.CppTypes
import Mathlib.Data.List.Nodup
import Mathlib.Logic.Function.Basic

/-!
# The frame-slot free list

`SlotPool` owns indices, not storage.  Its operations are critical sections under one mutex; a call
that waits is one that cannot take its critical section yet, so `claim` is partial: `none` means
"still parked on the condition variable".

The pool keeps three tables that say overlapping things: a free list, an owner for each slot, and a
count for each owner.  `release` throws if they disagree with the caller, and would corrupt the pool
if they disagreed with each other.

* `claim`, `release`, `slot`, `close` — the operations of `slot_pool.cpp`.  Owners are connection
  ids, which never come near the sentinel `kNoOwner`; the sentinel is `none` here.
* `SlotPool.Consistent` — the free list and the owner table say the same thing.  Every operation
  keeps it; `claim_spec` and `release_spec` say what each does to the owner table.
* `SlotPool.Tallied` — so do the per-owner counts.  `claim_blocked` says who has to wait.
* `SlotPool.Capped` — and they respect the cap.
-/

namespace Imgjit

/-- The members of the pool. -/
structure SlotPool where
  count : ℕ
  bytes : ℕ
  perOwnerCap : ℕ
  /-- `free_list_`, its back first. -/
  freeList : List ℕ
  ownerOf : ℕ → Option ℕ
  heldByOwner : ℕ → Option ℕ
  closed : Bool

namespace SlotPool

/-- The constructor.  Slot 0 goes first. -/
def make (hasBase : Bool) (count bytes perOwnerCap : ℕ) : Except Exn SlotPool :=
  if !hasBase || count = 0 || bytes = 0 then
    .error (.invalidArgument "SlotPool: needs a non-empty block of backing storage")
  else
    .ok {
      count := count
      bytes := bytes
      perOwnerCap := if perOwnerCap = 0 then count else perOwnerCap
      freeList := List.range count
      ownerOf := fun _ => none
      heldByOwner := fun _ => none
      closed := false }

/-- The predicate that a claim waits for, on an open pool. -/
def canClaim (pool : SlotPool) (owner : ℕ) : Bool :=
  if pool.freeList.isEmpty then false
  else
    match pool.heldByOwner owner with
    | none => true
    | some held => held < pool.perOwnerCap

/-- `claim`, once it need not wait: a slot, or nothing from a closed pool. -/
def claim (pool : SlotPool) (owner : ℕ) : Option (Option ℕ × SlotPool) :=
  if pool.closed then some (none, pool)
  else if !pool.canClaim owner then none
  else
    match pool.freeList with
    | [] => none
    | index :: rest =>
        some (some index, { pool with
          freeList := rest
          ownerOf := Function.update pool.ownerOf index (some owner)
          heldByOwner := Function.update pool.heldByOwner owner
            (some ((pool.heldByOwner owner).getD 0 + 1)) })

/-- `--held->second == 0` erases the entry. -/
def decrementHeld (held : ℕ → Option ℕ) (owner : ℕ) : ℕ → Option ℕ :=
  match held owner with
  | none => held
  | some count => Function.update held owner (if count = 1 then none else some (count - 1))

/-- `release`: the slot goes back to the free list, if somebody has it. -/
def release (pool : SlotPool) (index : ℕ) : Except Exn SlotPool :=
  if index ≥ pool.count then
    .error (.logicError "SlotPool::release: slot is not currently claimed")
  else
    match pool.ownerOf index with
    | none => .error (.logicError "SlotPool::release: slot is not currently claimed")
    | some owner =>
        .ok { pool with
          freeList := index :: pool.freeList
          ownerOf := Function.update pool.ownerOf index none
          heldByOwner := decrementHeld pool.heldByOwner owner }

/-- `slot`: where the storage of a slot starts.  Storage is addressed by slots here, so that is the
slot itself. -/
def slot (pool : SlotPool) (index : ℕ) : Except Exn ℕ :=
  if index ≥ pool.count then
    .error (.outOfRange "SlotPool::slot: index past the end of the pool")
  else .ok index

/-- `close`. -/
def close (pool : SlotPool) : SlotPool := { pool with closed := true }

/-! ## The free list and the owner table agree -/

/-- An index is in the free list, once, exactly when it is a slot nobody owns. -/
structure Consistent (pool : SlotPool) : Prop where
  nodup : pool.freeList.Nodup
  mem_freeList : ∀ i, i ∈ pool.freeList ↔ i < pool.count ∧ pool.ownerOf i = none
  owned_lt : ∀ i owner, pool.ownerOf i = some owner → i < pool.count

lemma make_spec {hasBase : Bool} {count bytes perOwnerCap : ℕ} {pool : SlotPool}
    (h : make hasBase count bytes perOwnerCap = .ok pool) :
    pool.Consistent ∧ pool.count = count ∧ pool.bytes = bytes ∧ pool.ownerOf = fun _ => none := by
  unfold make at h
  split at h
  · cases h
  · cases h
    refine ⟨⟨List.nodup_range, fun i => ?_, fun i owner h => by cases h⟩, rfl, rfl, rfl⟩
    simp

lemma make_open {hasBase : Bool} {count bytes perOwnerCap : ℕ} {pool : SlotPool}
    (h : make hasBase count bytes perOwnerCap = .ok pool) :
    pool.closed = false ∧ pool.heldByOwner = (fun _ => none) ∧ 1 ≤ pool.perOwnerCap := by
  unfold make at h
  split at h
  · cases h
  · rename_i hargs
    cases h
    refine ⟨rfl, rfl, ?_⟩
    simp only [Bool.or_eq_true, decide_eq_true_eq, not_or] at hargs
    dsimp only
    split_ifs <;> omega

/-- **What a claim does**: it hands out a slot nobody owned, which now belongs to the claimant. -/
theorem claim_spec {pool pool' : SlotPool} {owner : ℕ} {index : ℕ} (hpool : pool.Consistent)
    (h : pool.claim owner = some (some index, pool')) :
    pool'.Consistent ∧ pool.ownerOf index = none ∧ index < pool.count
      ∧ pool'.ownerOf = Function.update pool.ownerOf index (some owner)
      ∧ pool'.count = pool.count ∧ pool'.bytes = pool.bytes := by
  unfold claim at h
  split_ifs at h
  · cases h
  rcases hfree : pool.freeList with _ | ⟨head, rest⟩
  · rw [hfree] at h
    cases h
  · rw [hfree] at h
    cases h
    have hhead : index < pool.count ∧ pool.ownerOf index = none :=
      (hpool.mem_freeList index).mp (hfree ▸ List.mem_cons_self)
    have hnodup := hpool.nodup
    rw [hfree, List.nodup_cons] at hnodup
    refine ⟨⟨hnodup.2, fun i => ?_, fun i owner' h => ?_⟩, hhead.2, hhead.1, rfl, rfl, rfl⟩
    · have hmem := hpool.mem_freeList i
      rw [hfree, List.mem_cons] at hmem
      rcases eq_or_ne i index with rfl | hne
      · simp [hnodup.1]
      · simp only [Function.update_of_ne hne, ← hmem, hne, false_or]
    · rcases eq_or_ne i index with rfl | hne
      · exact hhead.1
      · simp only [Function.update_of_ne hne] at h
        exact hpool.owned_lt i owner' h

/-- Only a closed pool answers a claim without a slot. -/
lemma claim_none {pool pool' : SlotPool} {owner : ℕ} (h : pool.claim owner = some (none, pool')) :
    pool.closed = true ∧ pool' = pool := by
  unfold claim at h
  split_ifs at h with hclosed
  · cases h
    exact ⟨hclosed, rfl⟩
  · rcases hfree : pool.freeList with _ | ⟨head, rest⟩
    · rw [hfree] at h
      cases h
    · rw [hfree] at h
      cases h

/-- **What a release does**: an owned slot goes back to the free list. -/
theorem release_spec {pool : SlotPool} {index owner : ℕ} (hpool : pool.Consistent)
    (howner : pool.ownerOf index = some owner) :
    ∃ pool', pool.release index = .ok pool' ∧ pool'.Consistent
      ∧ pool'.ownerOf = Function.update pool.ownerOf index none
      ∧ pool'.count = pool.count ∧ pool'.bytes = pool.bytes := by
  have hlt := hpool.owned_lt index owner howner
  have hfree : index ∉ pool.freeList := by
    rw [hpool.mem_freeList, howner]
    simp
  have hbound : ¬index ≥ pool.count := by omega
  refine ⟨{ pool with
      freeList := index :: pool.freeList
      ownerOf := Function.update pool.ownerOf index none
      heldByOwner := decrementHeld pool.heldByOwner owner },
    by simp only [release, if_neg hbound, howner],
    ⟨?_, fun i => ?_, fun i owner' h => ?_⟩, rfl, rfl, rfl⟩
  · exact List.nodup_cons.mpr ⟨hfree, hpool.nodup⟩
  · rw [List.mem_cons, hpool.mem_freeList]
    rcases eq_or_ne i index with rfl | hne
    · simp [hlt]
    · simp only [Function.update_of_ne hne, hne, false_or]
  · rcases eq_or_ne i index with rfl | hne
    · exact hlt
    · simp only [Function.update_of_ne hne] at h
      exact hpool.owned_lt i owner' h

/-- Only `close` closes a pool. -/
lemma claim_closed {pool pool' : SlotPool} {owner : ℕ} {result : Option ℕ}
    (h : pool.claim owner = some (result, pool')) : pool'.closed = pool.closed := by
  unfold claim at h
  split_ifs at h with hclosed
  · cases h
    rfl
  · rcases hfree : pool.freeList with _ | ⟨head, rest⟩
    · rw [hfree] at h
      cases h
    · rw [hfree] at h
      cases h
      rfl

lemma release_closed {pool pool' : SlotPool} {index : ℕ} (h : pool.release index = .ok pool') :
    pool'.closed = pool.closed := by
  unfold release at h
  split_ifs at h
  cases howner : pool.ownerOf index with
  | none =>
      rw [howner] at h
      cases h
  | some owner =>
      rw [howner] at h
      cases h
      rfl

@[simp] lemma close_ownerOf (pool : SlotPool) : pool.close.ownerOf = pool.ownerOf := rfl
@[simp] lemma close_count (pool : SlotPool) : pool.close.count = pool.count := rfl
@[simp] lemma close_bytes (pool : SlotPool) : pool.close.bytes = pool.bytes := rfl
@[simp] lemma close_freeList (pool : SlotPool) : pool.close.freeList = pool.freeList := rfl

lemma Consistent.close {pool : SlotPool} (h : pool.Consistent) : pool.close.Consistent :=
  ⟨h.nodup, h.mem_freeList, h.owned_lt⟩

/-! ## The per-owner counts -/

/-- How many slots an owner holds, counted over the owner table. -/
def owned (pool : SlotPool) (owner : ℕ) : ℕ :=
  (List.range pool.count).countP fun i => pool.ownerOf i == some owner

/-- `held_by_owner_` says what the owner table says, and has no entry for an owner without slots. -/
structure Tallied (pool : SlotPool) : Prop where
  count_pos : 1 ≤ pool.count
  cap_pos : 1 ≤ pool.perOwnerCap
  held : ∀ owner, pool.heldByOwner owner
    = if pool.owned owner = 0 then none else some (pool.owned owner)

/-- Changing the owner of one slot moves one slot from the old owner to the new one. -/
lemma countP_update {ownerOf : ℕ → Option ℕ} {index owner : ℕ} {value : Option ℕ} :
    ∀ {slots : List ℕ}, slots.Nodup → index ∈ slots →
      slots.countP (fun i => Function.update ownerOf index value i == some owner)
          + (if ownerOf index = some owner then 1 else 0)
        = slots.countP (fun i => ownerOf i == some owner) + if value = some owner then 1 else 0 := by
  intro slots
  induction slots with
  | nil => intro _ hmem; cases hmem
  | cons head tail ih =>
      intro hnodup hmem
      obtain ⟨hhead, htail⟩ := List.nodup_cons.mp hnodup
      simp only [List.countP_cons, beq_iff_eq]
      rcases eq_or_ne head index with rfl | hne
      · -- The slot is not in the tail, which therefore counts the same.
        have hsame : tail.countP (fun i => Function.update ownerOf head value i == some owner)
            = tail.countP (fun i => ownerOf i == some owner) := by
          refine List.countP_congr fun i hi => ?_
          rw [Function.update_of_ne]
          rintro rfl
          exact hhead hi
        rw [hsame, Function.update_self]
        omega
      · have hrest := ih htail ((List.mem_cons.mp hmem).resolve_left hne.symm)
        rw [Function.update_of_ne hne]
        omega

lemma owned_update {pool pool' : SlotPool} {index : ℕ} {value : Option ℕ} (owner : ℕ)
    (hindex : index < pool.count) (hcount : pool'.count = pool.count)
    (howner : pool'.ownerOf = Function.update pool.ownerOf index value) :
    pool'.owned owner + (if pool.ownerOf index = some owner then 1 else 0)
      = pool.owned owner + if value = some owner then 1 else 0 := by
  rw [owned, owned, hcount, howner]
  exact countP_update List.nodup_range (List.mem_range.mpr hindex)

lemma make_tallied {hasBase : Bool} {count bytes perOwnerCap : ℕ} {pool : SlotPool}
    (h : make hasBase count bytes perOwnerCap = .ok pool) : pool.Tallied := by
  obtain ⟨-, hheld, hcap⟩ := make_open h
  obtain ⟨-, hcount, -, howner⟩ := make_spec h
  refine ⟨?_, hcap, fun owner => ?_⟩
  · unfold make at h
    split at h
    · cases h
    · rename_i hargs
      simp only [Bool.or_eq_true, decide_eq_true_eq, not_or] at hargs
      omega
  · have hzero : pool.owned owner = 0 := by simp [owned, howner]
    rw [hheld, if_pos hzero]

/-- What a claim does to the counts. -/
lemma claim_held {pool pool' : SlotPool} {owner index : ℕ}
    (h : pool.claim owner = some (some index, pool')) :
    pool'.perOwnerCap = pool.perOwnerCap ∧ pool'.heldByOwner
      = Function.update pool.heldByOwner owner (some ((pool.heldByOwner owner).getD 0 + 1)) := by
  unfold claim at h
  split_ifs at h
  · cases h
  rcases hlist : pool.freeList with _ | ⟨head, rest⟩
  · rw [hlist] at h
    cases h
  · rw [hlist] at h
    cases h
    exact ⟨rfl, rfl⟩

/-- And a release. -/
lemma release_held {pool pool' : SlotPool} {index owner : ℕ} (hlt : index < pool.count)
    (howner : pool.ownerOf index = some owner) (h : pool.release index = .ok pool') :
    pool'.perOwnerCap = pool.perOwnerCap
      ∧ pool'.heldByOwner = decrementHeld pool.heldByOwner owner := by
  have hbound : ¬index ≥ pool.count := by omega
  simp only [release, if_neg hbound, howner] at h
  cases h
  exact ⟨rfl, rfl⟩

/-- A claim counts its slot under the claimant. -/
lemma claim_tallied {pool pool' : SlotPool} {owner index : ℕ} (hpool : pool.Consistent)
    (htallied : pool.Tallied) (h : pool.claim owner = some (some index, pool')) :
    pool'.Tallied := by
  obtain ⟨-, hfree, hindex, howner, hcount, -⟩ := claim_spec hpool h
  have howned : ∀ other, pool'.owned other = pool.owned other + if owner = other then 1 else 0 := by
    intro other
    have hupdate := owned_update other hindex hcount howner
    simpa [hfree] using hupdate
  have hfields := claim_held h
  refine ⟨hcount ▸ htallied.count_pos, hfields.1 ▸ htallied.cap_pos, fun other => ?_⟩
  rw [hfields.2, howned]
  rcases eq_or_ne other owner with rfl | hne
  · rw [Function.update_self, htallied.held]
    split_ifs with hzero <;> simp_all
  · rw [Function.update_of_ne hne, htallied.held, if_neg (Ne.symm hne), Nat.add_zero]

/-- A release takes it off again, and erases the entry with the last one. -/
lemma release_tallied {pool pool' : SlotPool} {index owner : ℕ} (hpool : pool.Consistent)
    (htallied : pool.Tallied) (hindex : pool.ownerOf index = some owner)
    (h : pool.release index = .ok pool') : pool'.Tallied := by
  have hlt := hpool.owned_lt index owner hindex
  obtain ⟨_, hrelease, -, howner, hcount, -⟩ := release_spec hpool hindex
  rw [h] at hrelease
  cases hrelease
  have howned : ∀ other, pool'.owned other + (if owner = other then 1 else 0)
      = pool.owned other := by
    intro other
    have hupdate := owned_update other hlt hcount howner
    simpa [hindex] using hupdate
  have hfields := release_held hlt hindex h
  refine ⟨hcount ▸ htallied.count_pos, hfields.1 ▸ htallied.cap_pos, fun other => ?_⟩
  have hmine := howned owner
  rw [if_pos rfl] at hmine
  have hheld : pool.heldByOwner owner = some (pool.owned owner) := by
    rw [htallied.held, if_neg (by omega)]
  rw [hfields.2, decrementHeld, hheld]
  dsimp only
  rcases eq_or_ne other owner with rfl | hne
  · rw [Function.update_self]
    by_cases hlast : pool.owned other = 1
    · rw [if_pos hlast, if_pos (by omega)]
    · rw [if_neg hlast, if_neg (by omega)]
      congr 1
      omega
  · have hother := howned other
    rw [if_neg (Ne.symm hne), Nat.add_zero] at hother
    rw [Function.update_of_ne hne, htallied.held, hother]

/-- An owner that may not claim from an open pool finds it empty, or holds a slot already. -/
lemma claim_blocked {pool : SlotPool} {owner : ℕ} (htallied : pool.Tallied)
    (h : pool.claim owner = none) :
    pool.closed = false ∧ (pool.freeList = [] ∨ ∃ i < pool.count, pool.ownerOf i = some owner) := by
  unfold claim at h
  split_ifs at h with hclosed hcan
  · refine ⟨by simpa using hclosed, ?_⟩
    by_cases hempty : pool.freeList = []
    · exact .inl hempty
    · refine .inr ?_
      have hheld := htallied.held owner
      simp only [canClaim, List.isEmpty_iff, hempty, if_false] at hcan
      split_ifs at hheld with hzero
      · simp [hheld] at hcan
      · obtain ⟨i, hi, howner⟩ := List.countP_pos_iff.mp (Nat.pos_of_ne_zero hzero)
        exact ⟨i, List.mem_range.mp hi, by simpa using howner⟩
  · rcases hlist : pool.freeList with _ | ⟨head, rest⟩
    · exact ⟨by simpa using hclosed, .inl rfl⟩
    · rw [hlist] at h
      cases h

/-! ## The cap -/

/-- Nobody holds more slots than the cap allows. -/
def Capped (pool : SlotPool) : Prop := ∀ owner, pool.owned owner ≤ pool.perOwnerCap

/-- A claim is only served under the cap. -/
lemma claim_capped {pool pool' : SlotPool} {owner index : ℕ} (hpool : pool.Consistent)
    (htallied : pool.Tallied) (hcapped : pool.Capped)
    (h : pool.claim owner = some (some index, pool')) : pool'.Capped := by
  rcases claim_spec hpool h with ⟨-, hfree, hindex, howner, hcount, -⟩
  have hunder : pool.owned owner < pool.perOwnerCap := by
    have hheld := htallied.held owner
    have hcap := htallied.cap_pos
    unfold claim at h
    split_ifs at h with hclosed hcan
    · cases h
    · simp only [canClaim, Bool.not_eq_true', Bool.not_eq_false] at hcan
      split_ifs at hcan
      split_ifs at hheld with hzero
      · omega
      · simpa [hheld] using hcan
  intro other
  have hupdate := owned_update other hindex hcount howner
  rw [hfree, if_neg (by simp)] at hupdate
  rw [(claim_held h).1]
  rcases eq_or_ne owner other with rfl | hne
  · rw [if_pos rfl] at hupdate
    omega
  · rw [if_neg (by simpa using hne)] at hupdate
    have := hcapped other
    omega

lemma release_capped {pool pool' : SlotPool} {index owner : ℕ} (hpool : pool.Consistent)
    (hcapped : pool.Capped) (hindex : pool.ownerOf index = some owner)
    (h : pool.release index = .ok pool') : pool'.Capped := by
  have hlt := hpool.owned_lt index owner hindex
  rcases release_spec hpool hindex with ⟨_, hrelease, -, howner, hcount, -⟩
  rw [h] at hrelease
  cases hrelease
  intro other
  have hupdate := owned_update other hlt hcount howner
  rw [if_neg (show ¬(none : Option ℕ) = some other by simp)] at hupdate
  have := hcapped other
  rw [(release_held hlt hindex h).1]
  omega

end SlotPool

end Imgjit
