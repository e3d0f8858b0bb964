import Imgjit.Library.Transition
import Imgjit.Util.SlotPool
import Mathlib.Data.List.GetD

/-!
# The slot pool's tables, and its runs

`SlotPool.lean` says what the pool is; here it is as the class lays it out, with the sentinel of
`owner_of_` and owners that are 64-bit words.  The two agree as long as no owner is the sentinel,
which the acceptor never issues.

**The tables.**  `SlotTables` has the members of the class; `SlotTables.pool` reads a pool out of
them.  `claim_pool` and `release_pool`: each operation does to the tables what it does to the pool,
exceptions included.

**Runs.**  `PoolRun` is any number of owners claiming, parking, waking and releasing in any order,
and `close`; the log says who got and gave back what.  A `release` may name any index at all, and is
rejected if nobody has the slot.

**The result.**  `slot_pool_runs`: in every run the three tables agree with each other and with the
log, so who holds a slot is whoever the log says has claimed it last.
-/

namespace Imgjit

/-- `~std::uint64_t{0}`. -/
def kNoOwner : UInt64 := 0xFFFFFFFFFFFFFFFF

/-- The members of the class. -/
structure SlotTables where
  count : ℕ
  bytes : ℕ
  perOwnerCap : ℕ
  /-- `free_list_`, its back first. -/
  freeList : List ℕ
  ownerOf : List UInt64
  heldByOwner : UInt64 → Option ℕ
  blockedClaims : UInt64
  closed : Bool

namespace SlotTables

/-- The constructor.  Slot 0 goes first. -/
def make (hasBase : Bool) (count bytes perOwnerCap : ℕ) : Except Exn SlotTables :=
  if !hasBase || count = 0 || bytes = 0 then
    .error (.invalidArgument "SlotPool: needs a non-empty block of backing storage")
  else
    .ok {
      count := count
      bytes := bytes
      perOwnerCap := if perOwnerCap = 0 then count else perOwnerCap
      freeList := List.range count
      ownerOf := List.replicate count kNoOwner
      heldByOwner := fun _ => none
      blockedClaims := 0
      closed := false }

/-- The predicate that a claim waits for, on an open pool. -/
def canClaim (tables : SlotTables) (owner : UInt64) : Bool :=
  if tables.freeList.isEmpty then false
  else
    match tables.heldByOwner owner with
    | none => true
    | some held => held < tables.perOwnerCap

/-- `claim`, once it need not wait: a slot, or nothing from a closed pool. -/
def claim (tables : SlotTables) (owner : UInt64) : Option (Option ℕ × SlotTables) :=
  if tables.closed then some (none, tables)
  else if !tables.canClaim owner then none
  else
    match tables.freeList with
    | [] => none
    | index :: rest =>
        some (some index, { tables with
          freeList := rest
          ownerOf := tables.ownerOf.set index owner
          heldByOwner := Function.update tables.heldByOwner owner
            (some ((tables.heldByOwner owner).getD 0 + 1)) })

/-- `owner_of_[index]`. -/
def ownerAt (tables : SlotTables) (index : ℕ) : UInt64 := tables.ownerOf.getD index kNoOwner

/-- `release`: what it throws, if it does, and the tables it leaves behind. -/
def release (tables : SlotTables) (index : ℕ) : Except Exn Unit × SlotTables :=
  if index ≥ tables.count ∨ tables.ownerAt index = kNoOwner then
    (.error (.logicError "SlotPool::release: slot is not currently claimed"), tables)
  else
    let owner := tables.ownerAt index
    (.ok (), { tables with
      freeList := index :: tables.freeList
      ownerOf := tables.ownerOf.set index kNoOwner
      heldByOwner :=
        match tables.heldByOwner owner with
        | none => tables.heldByOwner
        | some held =>
            Function.update tables.heldByOwner owner (if held = 1 then none else some (held - 1)) })

/-- `close`. -/
def close (tables : SlotTables) : SlotTables := { tables with closed := true }

/-! ## The pool in the tables -/

/-- The owner a word stands for. -/
def ownerName (word : UInt64) : Option ℕ := if word = kNoOwner then none else some word.toNat

/-- The pool the tables lay out. -/
def pool (tables : SlotTables) : SlotPool where
  count := tables.count
  bytes := tables.bytes
  perOwnerCap := tables.perOwnerCap
  freeList := tables.freeList
  ownerOf := fun index => ownerName (tables.ownerAt index)
  heldByOwner := fun owner =>
    if owner < 2 ^ 64 - 1 then tables.heldByOwner (UInt64.ofNat owner) else none
  closed := tables.closed

lemma toNat_lt_of_ne {owner : UInt64} (h : owner ≠ kNoOwner) : owner.toNat < 2 ^ 64 - 1 := by
  have hlt := UInt64.toNat_lt owner
  have hne : owner.toNat ≠ kNoOwner.toNat := fun heq => h (UInt64.toNat_inj.mp heq)
  have hsentinel : kNoOwner.toNat = 2 ^ 64 - 1 := by decide
  omega

lemma ownerName_eq_some {word owner : UInt64} (h : owner ≠ kNoOwner) :
    ownerName word = some owner.toNat ↔ word = owner := by
  rw [ownerName]
  split_ifs with hword
  · rw [hword]
    exact iff_of_false (by simp) (Ne.symm h)
  · rw [Option.some.injEq, UInt64.toNat_inj]

lemma ownerName_eq_none {word : UInt64} : ownerName word = none ↔ word = kNoOwner := by
  rw [ownerName]
  split_ifs with hword <;> simp [hword]

/-- The count of an owner that is no sentinel. -/
lemma pool_heldByOwner (tables : SlotTables) {owner : UInt64} (h : owner ≠ kNoOwner) :
    tables.pool.heldByOwner owner.toNat = tables.heldByOwner owner := by
  simp only [pool, if_pos (toNat_lt_of_ne h), UInt64.ofNat_toNat]

/-- Changing a word's count changes that owner's. -/
lemma held_update (held : UInt64 → Option ℕ) {owner : UInt64} (h : owner ≠ kNoOwner)
    (value : Option ℕ) :
    (fun name => if name < 2 ^ 64 - 1 then Function.update held owner value (UInt64.ofNat name)
        else none)
      = Function.update (fun name => if name < 2 ^ 64 - 1 then held (UInt64.ofNat name) else none)
          owner.toNat value := by
  funext name
  rcases eq_or_ne name owner.toNat with rfl | hne
  · rw [Function.update_self, if_pos (toNat_lt_of_ne h), UInt64.ofNat_toNat, Function.update_self]
  · rw [Function.update_of_ne hne]
    split_ifs with hname
    · rw [Function.update_of_ne]
      rintro rfl
      exact hne (UInt64.toNat_ofNat_of_lt' (lt_of_lt_of_le hname (by decide))).symm
    · rfl

lemma getD_set (tables : SlotTables) {index : ℕ} (hindex : index < tables.ownerOf.length)
    (word : UInt64) (i : ℕ) : (tables.ownerOf.set index word).getD i kNoOwner
      = if index = i then word else tables.ownerAt i := by
  rw [List.getD_eq_getElem?_getD, List.getElem?_set, if_pos hindex]
  split_ifs
  · rfl
  · rw [ownerAt, List.getD_eq_getElem?_getD]

/-- Changing a word of `owner_of_` changes that slot's owner. -/
lemma ownerName_set (tables : SlotTables) {index : ℕ} (hindex : index < tables.ownerOf.length)
    (word : UInt64) :
    (fun i => ownerName ((tables.ownerOf.set index word).getD i kNoOwner))
      = Function.update (fun i => ownerName (tables.ownerAt i)) index (ownerName word) := by
  funext i
  rw [tables.getD_set hindex]
  rcases eq_or_ne i index with rfl | hne
  · rw [Function.update_self, if_pos rfl]
  · rw [Function.update_of_ne hne, if_neg hne.symm]

/-! ## The operations on both -/

/-- **A claim does to the tables what it does to the pool.** -/
theorem claim_pool {tables : SlotTables} {owner : UInt64}
    (hsize : tables.ownerOf.length = tables.count) (hpool : tables.pool.Consistent)
    (howner : owner ≠ kNoOwner) :
    tables.pool.claim owner.toNat
      = (tables.claim owner).map fun answer => (answer.1, answer.2.pool) := by
  have hcan : tables.pool.canClaim owner.toNat = tables.canClaim owner := by
    rw [SlotPool.canClaim, canClaim, pool_heldByOwner tables howner]
    rfl
  rw [SlotPool.claim, claim, hcan]
  cases hclosed : tables.closed with
  | true =>
      have hshut : tables.pool.closed = true := hclosed
      simp only [hshut, if_true, Option.map_some]
  | false =>
      have hopen : ¬tables.pool.closed = true := by
        rw [show tables.pool.closed = false from hclosed]
        decide
      rw [if_neg hopen, if_neg Bool.false_ne_true]
      split_ifs
      · rfl
      · have hfree : tables.pool.freeList = tables.freeList := rfl
        cases hlist : tables.freeList with
        | nil => simp only [hfree, hlist, Option.map_none]
        | cons index rest =>
            have hindex : index < tables.ownerOf.length := by
              rw [hsize]
              exact ((hpool.mem_freeList index).mp (by simp [hfree, hlist])).1
            have hname : ownerName owner = some owner.toNat :=
              (ownerName_eq_some howner).mpr rfl
            simp only [hfree, hlist, Option.map_some, Option.some.injEq, Prod.mk.injEq, true_and]
            rw [pool_heldByOwner tables howner]
            simp only [pool, ownerAt, SlotPool.mk.injEq, true_and]
            rw [held_update _ howner]
            have hset := tables.ownerName_set hindex owner
            rw [hname] at hset
            exact ⟨hset.symm, rfl, hclosed⟩

/-- **And so does a release.** -/
theorem release_pool {tables : SlotTables} {index : ℕ}
    (hsize : tables.ownerOf.length = tables.count) :
    tables.pool.release index
      = (tables.release index).1.map fun _ => (tables.release index).2.pool := by
  have howner : tables.pool.ownerOf index = ownerName (tables.ownerAt index) := rfl
  have hcount : tables.pool.count = tables.count := rfl
  rw [SlotPool.release, release, howner, hcount]
  by_cases hrange : index ≥ tables.count
  · rw [if_pos hrange, if_pos (.inl hrange)]
    rfl
  · rw [if_neg hrange]
    by_cases hfree : tables.ownerAt index = kNoOwner
    · rw [if_pos (.inr hfree), ownerName_eq_none.mpr hfree]
      rfl
    · rw [if_neg (not_or.mpr ⟨hrange, hfree⟩), (ownerName_eq_some hfree).mpr rfl]
      have hindex : index < tables.ownerOf.length := by omega
      have hset := tables.ownerName_set hindex kNoOwner
      rw [ownerName_eq_none.mpr rfl] at hset
      simp only [Except.map, Except.ok.injEq, SlotPool.decrementHeld,
        pool_heldByOwner tables hfree]
      simp only [pool, ownerAt, SlotPool.mk.injEq, true_and, and_true]
      refine ⟨hset.symm, ?_⟩
      cases tables.heldByOwner (tables.ownerOf.getD index kNoOwner) with
      | none => rfl
      | some held => exact (held_update _ hfree _).symm

/-! ## What each operation does -/

/-- A closed pool refuses a claim; an open one hands out the slot at the back of its free list. -/
lemma claim_cases {tables tables' : SlotTables} {owner : UInt64} {result : Option ℕ}
    (h : tables.claim owner = some (result, tables')) :
    (result = none ∧ tables.closed = true ∧ tables' = tables)
      ∨ ∃ index rest, result = some index ∧ tables.closed = false
        ∧ tables.freeList = index :: rest ∧ tables'.ownerOf = tables.ownerOf.set index owner
        ∧ tables'.count = tables.count ∧ tables'.perOwnerCap = tables.perOwnerCap := by
  unfold claim at h
  split_ifs at h with hclosed
  · cases h
    exact .inl ⟨rfl, hclosed, rfl⟩
  · cases hlist : tables.freeList with
    | nil =>
        rw [hlist] at h
        cases h
    | cons index rest =>
        rw [hlist] at h
        cases h
        exact .inr ⟨index, rest, rfl, by simpa using hclosed, rfl, rfl, rfl, rfl⟩

/-- A release of a slot nobody owns throws and leaves the tables alone. -/
lemma release_unclaimed {tables : SlotTables} {index : ℕ} (h : tables.ownerAt index = kNoOwner) :
    tables.release index
      = (.error (.logicError "SlotPool::release: slot is not currently claimed"), tables) := by
  rw [release, if_pos (.inr h)]

/-- A release of an owned slot clears its word. -/
lemma release_claimed {tables : SlotTables} {index : ℕ}
    (hsize : tables.ownerOf.length = tables.count) (h : tables.ownerAt index ≠ kNoOwner) :
    index < tables.count ∧ (tables.release index).1 = .ok ()
      ∧ (tables.release index).2.ownerOf = tables.ownerOf.set index kNoOwner
      ∧ (tables.release index).2.count = tables.count
      ∧ (tables.release index).2.perOwnerCap = tables.perOwnerCap := by
  have hindex : index < tables.count := by
    by_contra hrange
    refine h ?_
    rw [ownerAt, List.getD_eq_default _ _ (by omega)]
  rw [release, if_neg (not_or.mpr ⟨by omega, h⟩)]
  exact ⟨hindex, rfl, rfl, rfl, rfl⟩

/-! ## Sound tables -/

/-- The tables lay out a pool whose free list, owners and counts agree, within the cap. -/
structure Sound (tables : SlotTables) : Prop where
  size : tables.ownerOf.length = tables.count
  consistent : tables.pool.Consistent
  tallied : tables.pool.Tallied
  capped : tables.pool.Capped

lemma make_pool {hasBase : Bool} {count bytes perOwnerCap : ℕ} {tables : SlotTables}
    (h : make hasBase count bytes perOwnerCap = .ok tables) :
    SlotPool.make hasBase count bytes perOwnerCap = .ok tables.pool
      ∧ tables.ownerOf = List.replicate count kNoOwner ∧ tables.count = count
      ∧ tables.perOwnerCap = if perOwnerCap = 0 then count else perOwnerCap := by
  unfold make at h
  split at h
  · cases h
  · rename_i hargs
    cases h
    refine ⟨?_, rfl, rfl, rfl⟩
    rw [SlotPool.make, if_neg hargs]
    have howner : ∀ index,
        ownerName ((List.replicate count kNoOwner).getD index kNoOwner) = none := by
      intro index
      rw [ownerName_eq_none, List.getD_eq_getElem?_getD, List.getElem?_replicate]
      split_ifs <;> rfl
    simp only [pool, ownerAt, howner, ite_self]

namespace Sound

variable {tables tables' : SlotTables}

lemma make {hasBase : Bool} {count bytes perOwnerCap : ℕ}
    (h : make hasBase count bytes perOwnerCap = .ok tables) : tables.Sound := by
  rcases make_pool h with ⟨hpool, howner, hcount, -⟩
  rcases SlotPool.make_spec hpool with ⟨hconsistent, -, -, hnobody⟩
  refine ⟨by rw [howner, hcount, List.length_replicate], hconsistent, SlotPool.make_tallied hpool,
    fun owner => ?_⟩
  have hzero : tables.pool.owned owner = 0 := by simp [SlotPool.owned, hnobody]
  rw [hzero]
  exact Nat.zero_le _

lemma claim {owner : UInt64} {result : Option ℕ} (hsound : tables.Sound)
    (howner : owner ≠ kNoOwner) (h : tables.claim owner = some (result, tables')) :
    tables'.Sound := by
  rcases claim_cases h with ⟨-, -, rfl⟩ | ⟨index, rest, rfl, -, -, howners, hcount, -⟩
  · exact hsound
  · have hclaim := claim_pool hsound.size hsound.consistent howner
    rw [h, Option.map_some] at hclaim
    refine ⟨by rw [howners, List.length_set, hcount, hsound.size],
      (SlotPool.claim_spec hsound.consistent hclaim).1,
      SlotPool.claim_tallied hsound.consistent hsound.tallied hclaim,
      SlotPool.claim_capped hsound.consistent hsound.tallied hsound.capped hclaim⟩

lemma release (hsound : tables.Sound) (index : ℕ) : (tables.release index).2.Sound := by
  by_cases hfree : tables.ownerAt index = kNoOwner
  · rw [release_unclaimed hfree]
    exact hsound
  · rcases release_claimed hsound.size hfree with ⟨-, hok, howners, hcount, -⟩
    have howner : tables.pool.ownerOf index = some (tables.ownerAt index).toNat :=
      (ownerName_eq_some hfree).mpr rfl
    have hrelease : tables.pool.release index = .ok (tables.release index).2.pool := by
      rw [release_pool hsound.size, hok]
      rfl
    rcases SlotPool.release_spec hsound.consistent howner with ⟨pool', hpool', hconsistent, -⟩
    rw [hrelease] at hpool'
    cases hpool'
    exact ⟨by rw [howners, List.length_set, hcount, hsound.size], hconsistent,
      SlotPool.release_tallied hsound.consistent hsound.tallied howner hrelease,
      SlotPool.release_capped hsound.consistent hsound.capped howner hrelease⟩

lemma close (hsound : tables.Sound) : tables.close.Sound :=
  ⟨hsound.size, hsound.consistent.close,
    ⟨hsound.tallied.count_pos, hsound.tallied.cap_pos, hsound.tallied.held⟩, hsound.capped⟩

/-- The free list, by the words of `owner_of_`. -/
lemma mem_freeList (hsound : tables.Sound) (i : ℕ) :
    i ∈ tables.freeList ↔ tables.ownerOf[i]? = some kNoOwner := by
  have hmem : i ∈ tables.freeList ↔ i < tables.count ∧ ownerName (tables.ownerAt i) = none :=
    hsound.consistent.mem_freeList i
  rw [hmem, ownerName_eq_none, ownerAt, ← hsound.size, List.getD_eq_getElem?_getD]
  constructor
  · rintro ⟨hi, hword⟩
    rw [List.getElem?_eq_getElem hi] at hword ⊢
    exact congrArg some hword
  · intro hword
    rw [hword]
    exact ⟨(List.getElem?_eq_some_iff.mp hword).1, rfl⟩

/-- How many slots an owner holds, by the words of `owner_of_`. -/
lemma owned_eq (hsound : tables.Sound) {owner : UInt64} (howner : owner ≠ kNoOwner) :
    tables.pool.owned owner.toNat = tables.ownerOf.count owner := by
  have hmap : (List.range tables.count).map tables.ownerAt = tables.ownerOf := by
    refine List.ext_getElem (by simp [hsound.size]) fun i hi hi' => ?_
    rw [List.getElem_map, List.getElem_range, ownerAt, List.getD_eq_getElem _ _ hi']
  rw [List.count, ← hmap, List.countP_map, SlotPool.owned]
  refine List.countP_congr fun i _ => ?_
  have hname : tables.pool.ownerOf i = ownerName (tables.ownerAt i) := rfl
  rw [hname, Function.comp_apply, beq_iff_eq, beq_iff_eq, ownerName_eq_some howner]

/-- The count kept for an owner. -/
lemma held_eq (hsound : tables.Sound) {owner : UInt64} (howner : owner ≠ kNoOwner) :
    tables.heldByOwner owner
      = if tables.ownerOf.count owner = 0 then none else some (tables.ownerOf.count owner) := by
  rw [← pool_heldByOwner tables howner, hsound.tallied.held, hsound.owned_eq howner]

end Sound

end SlotTables

/-! ## Runs -/

/-- What the log of a run says. -/
inductive PoolEvent where
  | claimed (owner : UInt64) (index : ℕ)
  | refused (owner : UInt64)
  | released (index : ℕ)
  | rejected (index : ℕ)
  deriving DecidableEq, Repr

/-- A pool, the claims parked on it, and what has happened, the latest first. -/
structure PoolRun where
  tables : SlotTables
  parked : List UInt64
  log : List PoolEvent

namespace PoolRun

/-- Who claimed a slot last, unless it was released since. -/
def holder : List PoolEvent → ℕ → Option UInt64
  | [], _ => none
  | .claimed owner index :: log, i => if index = i then some owner else holder log i
  | .released index :: log, i => if index = i then none else holder log i
  | .refused _ :: log, i => holder log i
  | .rejected _ :: log, i => holder log i

/-- What a claim that has returned leaves in the log. -/
def answered (owner : UInt64) : Option ℕ → PoolEvent
  | some index => .claimed owner index
  | none => .refused owner

/-- And a release. -/
def handedBack (index : ℕ) : Except Exn Unit → PoolEvent
  | .ok _ => .released index
  | .error _ => .rejected index

/-- One critical section, of any owner.  A claim that cannot be served parks; a parked one looks
again whenever it is woken, and goes on being parked if it still cannot be served. -/
inductive Step : PoolRun → PoolRun → Prop
  | claim {run : PoolRun} {owner : UInt64} {result : Option ℕ} {tables : SlotTables}
      (howner : owner ≠ kNoOwner) (h : run.tables.claim owner = some (result, tables)) :
      Step run { run with tables := tables, log := answered owner result :: run.log }
  | park {run : PoolRun} {owner : UInt64} (howner : owner ≠ kNoOwner)
      (h : run.tables.claim owner = none) :
      Step run { run with
        tables := { run.tables with blockedClaims := run.tables.blockedClaims + 1 }
        parked := owner :: run.parked }
  | wake {run : PoolRun} {before later : List UInt64} {owner : UInt64} {result : Option ℕ}
      {tables : SlotTables} (hparked : run.parked = before ++ owner :: later)
      (h : run.tables.claim owner = some (result, tables)) :
      Step run { tables, parked := before ++ later, log := answered owner result :: run.log }
  | release (run : PoolRun) (index : ℕ) :
      Step run { run with
        tables := (run.tables.release index).2
        log := handedBack index (run.tables.release index).1 :: run.log }
  | close (run : PoolRun) : Step run { run with tables := run.tables.close }

/-- The runs of a new pool. -/
def system (hasBase : Bool) (count bytes perOwnerCap : ℕ) : Transition.System PoolRun where
  init run := ∃ tables, SlotTables.make hasBase count bytes perOwnerCap = .ok tables
    ∧ run = { tables, parked := [], log := [] }
  step := Step

/-- The tables are sound and say what the log says. -/
structure Logged (count perOwnerCap : ℕ) (run : PoolRun) : Prop where
  sound : run.tables.Sound
  count_eq : run.tables.count = count
  cap_eq : run.tables.perOwnerCap = if perOwnerCap = 0 then count else perOwnerCap
  parked_ne : ∀ owner ∈ run.parked, owner ≠ kNoOwner
  history : ∀ i, run.tables.ownerAt i = (holder run.log i).getD kNoOwner

namespace Logged

variable {count perOwnerCap : ℕ} {run run' : PoolRun}

/-- A claim that returns, at once or after waiting. -/
lemma claimed (h : run.Logged count perOwnerCap) {owner : UInt64} {result : Option ℕ}
    {tables : SlotTables} {parked : List UInt64} (howner : owner ≠ kNoOwner)
    (hclaim : run.tables.claim owner = some (result, tables))
    (hparked : ∀ owner ∈ parked, owner ≠ kNoOwner) :
    { tables, parked, log := answered owner result :: run.log : PoolRun }.Logged count
      perOwnerCap := by
  have hsound := h.sound.claim howner hclaim
  rcases SlotTables.claim_cases hclaim with
    ⟨rfl, -, rfl⟩ | ⟨index, rest, rfl, -, hfree, howners, hcount, hcap⟩
  · exact ⟨hsound, h.count_eq, h.cap_eq, hparked, h.history⟩
  · have hindex : index < run.tables.ownerOf.length := by
      rw [h.sound.size]
      exact ((h.sound.consistent.mem_freeList index).mp (by simp [SlotTables.pool, hfree])).1
    refine ⟨hsound, hcount.trans h.count_eq, hcap.trans h.cap_eq, hparked, fun i => ?_⟩
    simp only [SlotTables.ownerAt, howners, run.tables.getD_set hindex, answered, holder]
    split_ifs
    · rfl
    · exact h.history i

lemma released (h : run.Logged count perOwnerCap) (index : ℕ) :
    { run with
      tables := (run.tables.release index).2
      log := handedBack index (run.tables.release index).1 :: run.log }.Logged count
        perOwnerCap := by
  have hsound := h.sound.release index
  by_cases hfree : run.tables.ownerAt index = kNoOwner
  · rw [SlotTables.release_unclaimed hfree] at hsound ⊢
    exact ⟨hsound, h.count_eq, h.cap_eq, h.parked_ne, h.history⟩
  · rcases SlotTables.release_claimed h.sound.size hfree with ⟨hlt, hok, howners, hcount, hcap⟩
    have hindex : index < run.tables.ownerOf.length := by rwa [h.sound.size]
    refine ⟨hsound, hcount.trans h.count_eq, hcap.trans h.cap_eq, h.parked_ne, fun i => ?_⟩
    simp only [SlotTables.ownerAt, howners, run.tables.getD_set hindex, hok, handedBack, holder]
    split_ifs
    · rfl
    · exact h.history i

/-- **Every critical section keeps the tables true to the log.** -/
theorem step (h : run.Logged count perOwnerCap) (hstep : Step run run') :
    run'.Logged count perOwnerCap := by
  cases hstep with
  | claim howner hclaim => exact h.claimed howner hclaim h.parked_ne
  | park howner hwait =>
      refine ⟨⟨h.sound.size, h.sound.consistent, h.sound.tallied, h.sound.capped⟩, h.count_eq,
        h.cap_eq, fun owner hmem => ?_, h.history⟩
      rcases List.mem_cons.mp hmem with rfl | hmem
      · exact howner
      · exact h.parked_ne owner hmem
  | @wake before later owner result tables hparked hclaim =>
      have hne : ∀ other ∈ before ++ owner :: later, other ≠ kNoOwner :=
        fun other hmem => h.parked_ne other (hparked ▸ hmem)
      refine h.claimed (hne owner (by simp)) hclaim fun other hmem => hne other ?_
      rcases List.mem_append.mp hmem with hmem | hmem
      · exact List.mem_append_left _ hmem
      · exact List.mem_append_right _ (List.mem_cons_of_mem _ hmem)
  | release index => exact h.released index
  | close => exact ⟨h.sound.close, h.count_eq, h.cap_eq, h.parked_ne, h.history⟩

end Logged

variable {hasBase : Bool} {count bytes perOwnerCap : ℕ} {run : PoolRun}

lemma logged_of_reachable (h : (system hasBase count bytes perOwnerCap).Reachable run) :
    run.Logged count perOwnerCap := by
  refine h.invariant (fun run hinit => ?_) fun run run' _ hlogged hstep => hlogged.step hstep
  rcases hinit with ⟨tables, hmake, rfl⟩
  rcases SlotTables.make_pool hmake with ⟨-, howner, hcount, hcap⟩
  refine ⟨.make hmake, hcount, hcap, by simp, fun i => ?_⟩
  rw [SlotTables.ownerAt, howner, List.getD_eq_getElem?_getD, List.getElem?_replicate]
  split_ifs <;> rfl

/-- **The three tables agree, in every run.**  No slot is free twice, the free ones are those
`owner_of_` marks unowned, an owner's count is the number of its slots, has no entry at zero and
stays within the cap; the owners are those of the log.  A claim takes a slot that was free, from an
open pool, and a release of a slot that is not claimed throws and changes nothing. -/
theorem slot_pool_runs (h : (system hasBase count bytes perOwnerCap).Reachable run) :
    run.tables.freeList.Nodup
      ∧ (∀ i, i ∈ run.tables.freeList ↔ run.tables.ownerOf[i]? = some kNoOwner)
      ∧ (∀ owner, owner ≠ kNoOwner → run.tables.heldByOwner owner
          = if run.tables.ownerOf.count owner = 0 then none
            else some (run.tables.ownerOf.count owner))
      ∧ (∀ owner, owner ≠ kNoOwner →
          run.tables.ownerOf.count owner ≤ if perOwnerCap = 0 then count else perOwnerCap)
      ∧ (∀ i < count, run.tables.ownerOf[i]? = some ((holder run.log i).getD kNoOwner))
      ∧ (∀ owner index tables, owner ≠ kNoOwner →
          run.tables.claim owner = some (some index, tables) →
            index ∈ run.tables.freeList ∧ run.tables.closed = false)
      ∧ ∀ index, holder run.log index = none → run.tables.release index
          = (.error (.logicError "SlotPool::release: slot is not currently claimed"),
              run.tables) := by
  have hlogged := logged_of_reachable h
  have hsound := hlogged.sound
  refine ⟨hsound.consistent.nodup, hsound.mem_freeList, fun owner howner => hsound.held_eq howner,
    fun owner howner => ?_, fun i hi => ?_, fun owner index tables _ hclaim => ?_,
    fun index hnobody => SlotTables.release_unclaimed ?_⟩
  · rw [← hlogged.cap_eq, ← hsound.owned_eq howner]
    exact hsound.capped owner.toNat
  · have hlt : i < run.tables.ownerOf.length := by rwa [hsound.size, hlogged.count_eq]
    rw [← hlogged.history, SlotTables.ownerAt, List.getD_eq_getElem _ _ hlt,
      List.getElem?_eq_getElem hlt]
  · rcases SlotTables.claim_cases hclaim with ⟨hnone, -, -⟩ | ⟨slot, rest, hsome, hopen, hfree, -⟩
    · cases hnone
    · cases hsome
      rw [hfree]
      exact ⟨List.mem_cons_self, hopen⟩
  · rw [hlogged.history, hnobody]
    rfl

/-- One slot, claimed by owner 3 and wanted by owner 5. -/
def contested : PoolRun where
  tables :=
    { count := 1, bytes := 16, perOwnerCap := 1, freeList := [], ownerOf := [3],
      heldByOwner := Function.update (fun _ => none) 3 (some 1), blockedClaims := 1,
      closed := false }
  parked := [5]
  log := [.claimed 3 0]

lemma contested_reachable : (system true 1 16 0).Reachable contested := by
  have hclaim := Transition.System.Reachable.step
    (.init (show (system true 1 16 0).init _ from ⟨_, rfl, rfl⟩))
    (.claim (show (3 : UInt64) ≠ kNoOwner by decide) rfl)
  exact .step hclaim (.park (show (5 : UInt64) ≠ kNoOwner by decide) rfl)

/-- Releasing another slot throws and changes nothing. -/
theorem slot_pool_runs_contested :
    contested.tables.ownerOf.count 3 ≤ 1
      ∧ contested.tables.release 1
        = (.error (.logicError "SlotPool::release: slot is not currently claimed"),
            contested.tables) :=
  have hruns := slot_pool_runs contested_reachable
  ⟨hruns.2.2.2.1 3 (by decide), hruns.2.2.2.2.2.2 1 rfl⟩

end PoolRun

end Imgjit
