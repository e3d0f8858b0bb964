import Imgjit.Library.Interaction
import Mathlib.Algebra.Order.Group.Multiset

/-!
# What a caller holds

Some calls hand out an item, some give one back, and many may only be made while certain items are
held.  Memory, handles, locks and sessions are of this kind.  A log of calls with their answers says
what is held, and whether every call was permitted when it was made; so the rules of use of an
interface can be stated without looking at any caller.

**The rules.**  `Discipline` says which calls hand out, give back and need what.  `Discipline.held`
and `Discipline.Lawful` are what a log leaves in the caller's hands, and that every call in it was
permitted.  `Lawful.balance`: an item is held as often as it was handed out and not given back, so a
lawful log that leaves nothing is one without a leak.

**The environment.**  `Recorder` is an environment that keeps a log, and `Environment.only` one that
gives only some of its answers.

**The caller.**  `Routine.Guarded` is a routine that makes each call only where it is permitted.  A
call is judged when it is made, also in a run that never ends.  Its rules follow the ways to build a
routine: `Guarded.bind` for a sequence, `Guarded.handled` for a handler, where what a failing body
has left behind is what the handler starts from.  `Guarded.lawful` says that such a routine keeps
the log lawful at every moment.
-/

namespace Interaction

variable {Call : Type} {Answer : Call → Type}

/-- A call with its answer. -/
abbrev Event (Call : Type) (Answer : Call → Type) := (call : Call) × Answer call

/-- The rules for the use of some items: what each call needs, gives back and hands out. -/
structure Discipline (Call : Type) (Answer : Call → Type) (Item : Type) where
  /-- What a call may need, beside the item that it gives back. -/
  Needs : Multiset Item → Call → Prop
  /-- Whatever the answer, the item is not held any longer. -/
  releases : Call → Option Item
  acquires : (call : Call) → Answer call → Option Item

namespace Discipline

variable {Item : Type} [DecidableEq Item] (discipline : Discipline Call Answer Item)

/-- A call that gives back what is held, and finds what it needs. -/
structure Permits (held : Multiset Item) (call : Call) : Prop where
  needs : discipline.Needs held call
  owned : ∀ item, discipline.releases call = some item → item ∈ held

/-- What is held after a call with this answer. -/
def after (held : Multiset Item) (event : Event Call Answer) : Multiset Item :=
  (discipline.acquires event.1 event.2).elim 0 (fun item => {item})
    + (discipline.releases event.1).elim held held.erase

/-- What a log leaves, its newest call first. -/
def held : List (Event Call Answer) → Multiset Item
  | [] => 0
  | event :: log => discipline.after (held log) event

/-- **Every call of the log was permitted** when it was made. -/
def Lawful : List (Event Call Answer) → Prop
  | [] => True
  | event :: log => discipline.Permits (discipline.held log) event.1 ∧ Lawful log

/-- How often the log hands the item out. -/
def handed (item : Item) (log : List (Event Call Answer)) : ℕ :=
  log.countP fun event => discipline.acquires event.1 event.2 = some item

/-- How often the log gives the item back. -/
def returned (item : Item) (log : List (Event Call Answer)) : ℕ :=
  log.countP fun event => discipline.releases event.1 = some item

variable {discipline} {log earlier : List (Event Call Answer)} {event : Event Call Answer}

/-- What the release of one item leaves of another, or of the same. -/
lemma count_release {held : Multiset Item} {call : Call} (h : discipline.Permits held call)
    (item : Item) :
    ((discipline.releases call).elim held held.erase).count item
      + (if discipline.releases call = some item then 1 else 0) = held.count item := by
  cases hreleases : discipline.releases call with
  | none => rfl
  | some other =>
      by_cases hitem : other = item
      · subst hitem
        have hpositive := Multiset.count_pos.mpr (h.owned other hreleases)
        rw [Option.elim_some, Multiset.count_erase_self, if_pos rfl]
        omega
      · have hne : some other ≠ some item := fun heq => hitem (Option.some.inj heq)
        rw [Option.elim_some, Multiset.count_erase_of_ne (Ne.symm hitem), if_neg hne, Nat.add_zero]

lemma count_acquire (discipline : Discipline Call Answer Item) (item : Item) (event : Event Call Answer) :
    ((discipline.acquires event.1 event.2).elim (0 : Multiset Item) fun item => {item}).count item
      = if discipline.acquires event.1 event.2 = some item then 1 else 0 := by
  cases discipline.acquires event.1 event.2 with
  | none => rfl
  | some other =>
      rw [Option.elim_some, Multiset.count_singleton]
      simp only [Option.some.injEq, eq_comm]

/-- **The balance of a lawful log.**  No item is given back more often than it was handed out, and
what is missing is held. -/
theorem Lawful.balance (h : discipline.Lawful log) (item : Item) :
    (discipline.held log).count item + discipline.returned item log
      = discipline.handed item log := by
  induction log with
  | nil => rfl
  | cons event log ih =>
      have hrest := ih h.2
      have hrelease := count_release h.1 item
      have hacquire := count_acquire discipline item event
      simp only [held, after, returned, handed, Multiset.count_add, List.countP_cons,
        decide_eq_true_eq] at hrest ⊢
      omega

/-- Who holds nothing has given everything back. -/
theorem Lawful.settled (h : discipline.Lawful log) (hnothing : discipline.held log = 0)
    (item : Item) : discipline.returned item log = discipline.handed item log := by
  have hbalance := h.balance item
  rwa [hnothing, Multiset.count_zero, Nat.zero_add] at hbalance

end Discipline

/-! ## An environment that keeps a log -/

/-- Every call is entered in the log with its answer, the newest first. -/
structure Recorder (env : Environment Call Answer) where
  log : env.State → List (Event Call Answer)
  records : ∀ e call answer e', env.respond e call answer e' → log e' = ⟨call, answer⟩ :: log e

variable {α β : Type} {env : Environment Call Answer}

/-- The environment, as far as its answers have `P`. -/
def Environment.only (env : Environment Call Answer) (P : (call : Call) → Answer call → Prop) :
    Environment Call Answer where
  State := env.State
  respond e call answer e' := env.respond e call answer e' ∧ P call answer

/-! ## Computations that ask before they call -/

namespace Prog

/-- Every call is one that `P` permits at its moment, and every run that ends does so with `Q`. -/
def guarded (env : Environment Call Answer) (P : env.State → Call → Prop)
    (Q : α → env.State → Prop) : Prog Call Answer α → env.State → Prop
  | done value, e => Q value e
  | ask call next, e => P e call ∧ ∀ answer e', env.respond e call answer e' →
      (next answer).guarded env P Q e'
  | spin, _ => True

variable {P : env.State → Call → Prop}

/-- A weaker condition at the end. -/
theorem guarded_mono {Q R : α → env.State → Prop} (hQR : ∀ value e, Q value e → R value e)
    {prog : Prog Call Answer α} {e : env.State} (h : prog.guarded env P Q e) :
    prog.guarded env P R e := by
  induction prog generalizing e with
  | done value => exact hQR value e h
  | ask call next ih =>
      refine ⟨h.1, ?_⟩
      intro answer e' hanswer
      exact ih answer (h.2 answer e' hanswer)
  | spin => trivial

/-- A sequence is guarded if its first part is, and the rest is wherever that may end. -/
theorem guarded_bind {Q : β → env.State → Prop} {f : α → Prog Call Answer β}
    {prog : Prog Call Answer α} {e : env.State} :
    (prog.bind f).guarded env P Q e
      ↔ prog.guarded env P (fun value => (f value).guarded env P Q) e := by
  induction prog generalizing e with
  | done value => exact Iff.rfl
  | ask call next ih =>
      exact and_congr_right fun _ => forall_congr' fun answer => forall₂_congr fun _ _ => ih answer
  | spin => exact Iff.rfl

/-- The runs that end. -/
theorem guarded.wp {Q : α → env.State → Prop} {prog : Prog Call Answer α} {e : env.State}
    (h : prog.guarded env P Q e) : prog.wp env Q e := by
  induction prog generalizing e with
  | done value => exact h
  | ask call next ih =>
      intro answer e' hanswer
      exact ih answer (h.2 answer e' hanswer)
  | spin => trivial

/-- What is known of the ends from elsewhere. -/
theorem guarded.and_wp {Q R : α → env.State → Prop} {prog : Prog Call Answer α} {e : env.State}
    (h : prog.guarded env P Q e) (hwp : prog.wp env R e) :
    prog.guarded env P (fun value e' => Q value e' ∧ R value e') e := by
  induction prog generalizing e with
  | done value => exact ⟨h, hwp⟩
  | ask call next ih =>
      refine ⟨h.1, ?_⟩
      intro answer e' hanswer
      exact ih answer (h.2 answer e' hanswer) (hwp answer e' hanswer)
  | spin => trivial

/-- **A log of permitted calls is lawful**, at every moment of every run. -/
theorem guarded.lawful {Item : Type} [DecidableEq Item]
    {discipline : Discipline Call Answer Item} (recorder : Recorder env)
    {Q : α → env.State → Prop} {prog : Prog Call Answer α} {e : env.State}
    (h : prog.guarded env
      (fun e call => discipline.Permits (discipline.held (recorder.log e)) call) Q e)
    (hlog : discipline.Lawful (recorder.log e)) :
    prog.throughout env (fun e' => discipline.Lawful (recorder.log e')) e := by
  induction prog generalizing e with
  | done value => exact hlog
  | ask call next ih =>
      refine ⟨hlog, ?_⟩
      intro answer e' hanswer
      refine ih answer (h.2 answer e' hanswer) ?_
      rw [recorder.records e call answer e' hanswer]
      exact ⟨h.1, hlog⟩
  | spin => exact hlog

end Prog

namespace Routine

variable {σ ε : Type}

/-- Every call is one that `P` permits at its moment, and every run that returns or throws does so
with `Q`. -/
def Guarded (env : Environment Call Answer) (P : env.State → Call → Prop)
    (routine : Routine Call Answer σ ε α) (Q : Except ε α → σ → env.State → Prop) (s : σ)
    (e : env.State) : Prop :=
  Prog.guarded env P (fun result => Q result.1 result.2) (routine s) e

variable {P : env.State → Call → Prop} {Q R : Except ε α → σ → env.State → Prop} {s : σ}
  {e : env.State}

@[simp] lemma guarded_ask_bind {call : Call} {rest : Answer call → Routine Call Answer σ ε α} :
    Guarded env P (ask call >>= rest) Q s e
      ↔ P e call ∧ ∀ answer e', env.respond e call answer e' →
        Guarded env P (rest answer) Q s e' := Iff.rfl

@[simp] lemma guarded_get_bind {rest : σ → Routine Call Answer σ ε α} :
    Guarded env P (get >>= rest) Q s e ↔ Guarded env P (rest s) Q s e := Iff.rfl

@[simp] lemma guarded_modify_bind {f : σ → σ} {rest : PUnit → Routine Call Answer σ ε α} :
    Guarded env P (modify f >>= rest) Q s e ↔ Guarded env P (rest ⟨⟩) Q (f s) e := Iff.rfl

namespace Guarded

/-- A weaker condition at the end. -/
theorem mono {routine : Routine Call Answer σ ε α} (h : Guarded env P routine Q s e)
    (hQR : ∀ result s' e', Q result s' e' → R result s' e') : Guarded env P routine R s e := by
  refine Prog.guarded_mono ?_ h
  rintro ⟨result, s'⟩ e'
  exact hQR result s' e'

/-- What is shown on the way is shown of the end. -/
theorem wp {routine : Routine Call Answer σ ε α} (h : Guarded env P routine Q s e) :
    Routine.wp env routine Q s e :=
  Prog.guarded.wp h

/-- Another condition at the end may be shown by itself. -/
theorem and_wp {routine : Routine Call Answer σ ε α} (h : Guarded env P routine Q s e)
    (hwp : Routine.wp env routine R s e) :
    Guarded env P routine (fun result s' e' => Q result s' e' ∧ R result s' e') s e :=
  Prog.guarded.and_wp h hwp

/-- **One after the other.** -/
theorem bind {first : Routine Call Answer σ ε β} {rest : β → Routine Call Answer σ ε α}
    {T : Except ε β → σ → env.State → Prop} (hfirst : Guarded env P first T s e)
    (hok : ∀ value s' e', T (.ok value) s' e' → Guarded env P (rest value) Q s' e')
    (herror : ∀ error s' e', T (.error error) s' e' → Q (.error error) s' e') :
    Guarded env P (first >>= rest) Q s e := by
  refine Prog.guarded_bind.mpr (Prog.guarded_mono ?_ hfirst)
  rintro ⟨error | value, s'⟩ e' h
  · exact herror error s' e' h
  · exact hok value s' e' h

/-- **A handler** makes its calls where the exception was thrown. -/
theorem handled {body : Routine Call Answer σ ε α} {handler : ε → Routine Call Answer σ ε α}
    {T : Except ε α → σ → env.State → Prop} (hbody : Guarded env P body T s e)
    (hok : ∀ value s' e', T (.ok value) s' e' → Q (.ok value) s' e')
    (herror : ∀ error s' e', T (.error error) s' e' → Guarded env P (handler error) Q s' e') :
    Guarded env P (tryCatch body handler) Q s e := by
  refine Prog.guarded_bind.mpr (Prog.guarded_mono ?_ hbody)
  rintro ⟨error | value, s'⟩ e' h
  · exact herror error s' e' h
  · exact hok value s' e' h

end Guarded

end Routine

end Interaction
