import Mathlib.Logic.Basic

/-!
# Computations that ask an environment

A computation puts calls to an environment and goes on with the answers.  The environment is a
relation, so one call may have many answers, and nothing is assumed about which one comes.  A
program that calls a driver, a socket or a library is such a computation; a failing call is one more
answer.

**Computations.**  `Prog` are the computations; `spin` stands for a loop that has used up the turns
it was given.  `Prog.Returns` is a run of a computation that comes to an end.

**What is true at the end.**  `Prog.wp` is what is true at the end of every run; `wp_iff_returns`
says that it is just that.  `Prog.total` is the same, and that no run goes on for ever;
`total.returns` is such a run.

**What happens on the way.**  `Prog.Only` says which calls a computation may make, and `Prog.Asks`
that it may come to a call.  `Prog.throughout` is what holds at every moment of every run, of those
as well that do not end.  `Prog.Reaches` is a run that is under way, and what is left of it.

**Methods.**  `Routine` is the same with a state and with exceptions that keep the state, as in a
method that may throw and leaves its object half changed.  `Routine.wp.bind` is the rule for a
sequence and `Routine.wp.handled` the rule for a handler; the other judgements have the same two.

**Frames.**  `Routine.Quiet` is a routine that leaves the state alone, and `Quiet.wp` its frame
rule.  `Routine.ConfinedAt` and `Routine.Confined` are routines that make only some of the calls, in
one state or whatever state they start in.

**Concrete runs.**  `Prog.eval` is a computation against a function that answers.
-/

namespace Interaction

/-- What answers the calls. -/
structure Environment (Call : Type) (Answer : Call → Type) where
  State : Type
  respond : State → (call : Call) → Answer call → State → Prop

/-- A computation: it has a value, or it makes a call and goes on with the answer, or it has used up
its turns. -/
inductive Prog (Call : Type) (Answer : Call → Type) (α : Type) where
  | done (value : α)
  | ask (call : Call) (next : Answer call → Prog Call Answer α)
  | spin

variable {Call : Type} {Answer : Call → Type} {α β : Type}

namespace Prog

/-- One computation and then another. -/
def bind : Prog Call Answer α → (α → Prog Call Answer β) → Prog Call Answer β
  | done value, f => f value
  | ask call next, f => ask call fun answer => (next answer).bind f
  | spin, _ => spin

/-- Computations in sequence, with `do`. -/
instance : Monad (Prog Call Answer) where
  pure := done
  bind := bind

/-! ## Runs -/

/-- A run of the computation from `e` comes to an end in `e'`, with this value. -/
def Returns (env : Environment Call Answer) :
    Prog Call Answer α → env.State → α → env.State → Prop
  | done value, e, value', e' => value' = value ∧ e' = e
  | ask call next, e, value', e' => ∃ answer e₁, env.respond e call answer e₁
      ∧ (next answer).Returns env e₁ value' e'
  | spin, _, _, _ => False

/-- Every run from `e` that comes to an end does so with `Q`. -/
def wp (env : Environment Call Answer) (Q : α → env.State → Prop) :
    Prog Call Answer α → env.State → Prop
  | done value, e => Q value e
  | ask call next, e => ∀ answer e', env.respond e call answer e' → (next answer).wp env Q e'
  | spin, _ => True

variable {env : Environment Call Answer}

/-- **`wp` speaks of the runs, and of all of them.** -/
theorem wp_iff_returns {Q : α → env.State → Prop} {prog : Prog Call Answer α} {e : env.State} :
    prog.wp env Q e ↔ ∀ value e', prog.Returns env e value e' → Q value e' := by
  induction prog generalizing e with
  | done value =>
      constructor
      · rintro h _ _ ⟨rfl, rfl⟩
        exact h
      · intro h
        exact h value e ⟨rfl, rfl⟩
  | ask call next ih =>
      constructor
      · rintro h value e' ⟨answer, e₁, hanswer, hreturns⟩
        exact (ih answer).mp (h answer e₁ hanswer) value e' hreturns
      · intro h answer e₁ hanswer
        refine (ih answer).mpr ?_
        intro value e' hreturns
        exact h value e' ⟨answer, e₁, hanswer, hreturns⟩
  | spin => exact ⟨fun _ _ _ hreturns => hreturns.elim, fun _ => trivial⟩

/-- A weaker condition at the end. -/
theorem wp_mono {Q R : α → env.State → Prop} (hQR : ∀ value e, Q value e → R value e)
    {prog : Prog Call Answer α} {e : env.State} (h : prog.wp env Q e) : prog.wp env R e := by
  induction prog generalizing e with
  | done value => exact hQR value e h
  | ask call next ih =>
      intro answer e' hanswer
      exact ih answer (h answer e' hanswer)
  | spin => trivial

/-- What is true behind a sequence is true behind its second part, wherever the first may end. -/
theorem wp_bind {Q : β → env.State → Prop} {f : α → Prog Call Answer β}
    {prog : Prog Call Answer α} {e : env.State} :
    (prog.bind f).wp env Q e ↔ prog.wp env (fun value => (f value).wp env Q) e := by
  induction prog generalizing e with
  | done value => exact Iff.rfl
  | ask call next ih =>
      exact forall_congr' fun answer => forall₂_congr fun _ _ => ih answer
  | spin => exact Iff.rfl

/-! ## Total correctness -/

/-- Every run from `e` comes to an end as long as it is answered, and does so with `Q`. -/
def total (env : Environment Call Answer) (Q : α → env.State → Prop) :
    Prog Call Answer α → env.State → Prop
  | done value, e => Q value e
  | ask call next, e => ∀ answer e', env.respond e call answer e' → (next answer).total env Q e'
  | spin, _ => False

/-- A weaker condition at the end. -/
theorem total_mono {Q R : α → env.State → Prop} (hQR : ∀ value e, Q value e → R value e)
    {prog : Prog Call Answer α} {e : env.State} (h : prog.total env Q e) : prog.total env R e := by
  induction prog generalizing e with
  | done value => exact hQR value e h
  | ask call next ih =>
      intro answer e' hanswer
      exact ih answer (h answer e' hanswer)
  | spin => exact h.elim

/-- A sequence ends if its first part does, and the second wherever that may end. -/
theorem total_bind {Q : β → env.State → Prop} {f : α → Prog Call Answer β}
    {prog : Prog Call Answer α} {e : env.State} :
    (prog.bind f).total env Q e ↔ prog.total env (fun value => (f value).total env Q) e := by
  induction prog generalizing e with
  | done value => exact Iff.rfl
  | ask call next ih =>
      exact forall_congr' fun answer => forall₂_congr fun _ _ => ih answer
  | spin => exact Iff.rfl

/-- **An environment that answers every call brings the run to its end.** -/
theorem total.returns {Q : α → env.State → Prop} {prog : Prog Call Answer α} {e : env.State}
    (hanswers : ∀ e call, ∃ answer e', env.respond e call answer e') (h : prog.total env Q e) :
    ∃ value e', prog.Returns env e value e' ∧ Q value e' := by
  induction prog generalizing e with
  | done value => exact ⟨value, e, ⟨rfl, rfl⟩, h⟩
  | ask call next ih =>
      rcases hanswers e call with ⟨answer, e₁, hanswer⟩
      rcases ih answer (h answer e₁ hanswer) with ⟨value, e', hreturns, hvalue⟩
      exact ⟨value, e', ⟨answer, e₁, hanswer, hreturns⟩, hvalue⟩
  | spin => exact h.elim

/-! ## The calls of a computation -/

/-- Whatever the answers, every call is one that `P` allows, and the value has `Q`. -/
def Only (P : Call → Prop) (Q : α → Prop) : Prog Call Answer α → Prop
  | done value => Q value
  | ask call next => P call ∧ ∀ answer, (next answer).Only P Q
  | spin => True

/-- A weaker condition on the value. -/
theorem Only.mono {P : Call → Prop} {Q R : α → Prop} (hQR : ∀ value, Q value → R value)
    {prog : Prog Call Answer α} (h : prog.Only P Q) : prog.Only P R := by
  induction prog with
  | done value => exact hQR value h
  | ask call next ih => exact ⟨h.1, fun answer => ih answer (h.2 answer)⟩
  | spin => trivial

/-- A sequence makes the calls of its parts. -/
theorem Only.bind {P : Call → Prop} {Q : α → Prop} {R : β → Prop} {prog : Prog Call Answer α}
    (h : prog.Only P Q) {f : α → Prog Call Answer β} (hf : ∀ value, Q value → (f value).Only P R) :
    (prog.bind f).Only P R := by
  induction prog with
  | done value => exact hf value h
  | ask call next ih => exact ⟨h.1, fun answer => ih answer (h.2 answer)⟩
  | spin => trivial

/-- What all calls that are made keep is true at the end. -/
theorem Only.wp {P : Call → Prop} {Q : α → Prop} {I : env.State → Prop}
    (hI : ∀ e call answer e', P call → I e → env.respond e call answer e' → I e')
    {prog : Prog Call Answer α} (h : prog.Only P Q) {e : env.State} (he : I e) :
    prog.wp env (fun value e' => Q value ∧ I e') e := by
  induction prog generalizing e with
  | done value => exact ⟨h, he⟩
  | ask call next ih =>
      intro answer e' hanswer
      exact ih answer (h.2 answer) (hI e call answer e' h.1 he hanswer)
  | spin => trivial

/-- **What every call preserves, every computation preserves.** -/
theorem wp_of_preserved {I : env.State → Prop}
    (hI : ∀ e call answer e', I e → env.respond e call answer e' → I e')
    {prog : Prog Call Answer α} {e : env.State} (he : I e) : prog.wp env (fun _ e' => I e') e := by
  induction prog generalizing e with
  | done value => exact he
  | ask call next ih =>
      intro answer e' hanswer
      exact ih answer (hI e call answer e' he hanswer)
  | spin => trivial

/-! ## At every moment -/

/-- Every moment of every run from `e` has `I`: before each call, and in the end. -/
def throughout (env : Environment Call Answer) (I : env.State → Prop) :
    Prog Call Answer α → env.State → Prop
  | done _, e => I e
  | ask call next, e => I e ∧ ∀ answer e', env.respond e call answer e' →
      (next answer).throughout env I e'
  | spin, e => I e

/-- What holds at every moment holds now. -/
theorem throughout.now {I : env.State → Prop} {prog : Prog Call Answer α} {e : env.State}
    (h : prog.throughout env I e) : I e := by
  cases prog with
  | done value => exact h
  | ask call next => exact h.1
  | spin => exact h

/-- In the end as well. -/
theorem throughout.wp {I : env.State → Prop} {prog : Prog Call Answer α} {e : env.State}
    (h : prog.throughout env I e) : prog.wp env (fun _ e' => I e') e := by
  induction prog generalizing e with
  | done value => exact h
  | ask call next ih =>
      intro answer e' hanswer
      exact ih answer (h.2 answer e' hanswer)
  | spin => trivial

/-- A sequence: at every moment of the first part, and at every moment of the second wherever the
first may end. -/
theorem throughout_bind {I : env.State → Prop} {f : α → Prog Call Answer β}
    {prog : Prog Call Answer α} {e : env.State} (h : prog.throughout env I e)
    (hf : prog.wp env (fun value e' => (f value).throughout env I e') e) :
    (prog.bind f).throughout env I e := by
  induction prog generalizing e with
  | done value => exact hf
  | ask call next ih =>
      refine ⟨h.1, ?_⟩
      intro answer e' hanswer
      exact ih answer (h.2 answer e' hanswer) (hf answer e' hanswer)
  | spin => exact h

/-- What the calls of a computation preserve. -/
theorem Only.throughout {P : Call → Prop} {Q : α → Prop} {I : env.State → Prop}
    (hI : ∀ e call answer e', P call → I e → env.respond e call answer e' → I e')
    {prog : Prog Call Answer α} (h : prog.Only P Q) {e : env.State} (he : I e) :
    prog.throughout env I e := by
  induction prog generalizing e with
  | done value => exact he
  | ask call next ih =>
      refine ⟨he, ?_⟩
      intro answer e' hanswer
      exact ih answer (h.2 answer) (hI e call answer e' h.1 he hanswer)
  | spin => exact he

/-- More calls are allowed. -/
theorem Only.allow {P P' : Call → Prop} (hP : ∀ call, P call → P' call) {Q : α → Prop}
    {prog : Prog Call Answer α} (h : prog.Only P Q) : prog.Only P' Q := by
  induction prog with
  | done value => exact h
  | ask call next ih => exact ⟨hP call h.1, fun answer => ih answer (h.2 answer)⟩
  | spin => trivial

/-- A run of `prog` from `e` has come to `e'`, and `rest` is left: as that ends, so does the whole.
-/
def Reaches (env : Environment Call Answer) (prog : Prog Call Answer α) (e : env.State)
    (rest : Prog Call Answer α) (e' : env.State) : Prop :=
  ∀ value e'', rest.Returns env e' value e'' → prog.Returns env e value e''

/-- A run that has not begun. -/
theorem Reaches.refl (prog : Prog Call Answer α) (e : env.State) : Reaches env prog e prog e :=
  fun _ _ h => h

/-- One answer further. -/
theorem Reaches.answered {prog : Prog Call Answer α} {e e₁ e₂ : env.State} {call : Call}
    {next : Answer call → Prog Call Answer α} {answer : Answer call}
    (h : Reaches env prog e (.ask call next) e₁) (hanswer : env.respond e₁ call answer e₂) :
    Reaches env prog e (next answer) e₂ := by
  intro value e'' hreturns
  exact h value e'' ⟨answer, e₂, hanswer, hreturns⟩

/-- A run of which nothing is left has come to an end. -/
theorem Reaches.returns {prog : Prog Call Answer α} {e e' : env.State} {value : α}
    (h : Reaches env prog e (.done value) e') : prog.Returns env e value e' :=
  h value e' ⟨rfl, rfl⟩

/-! ## Runs against a function -/

/-- The run against answers that are computed. -/
def eval {σ : Type} (respond : σ → (call : Call) → Answer call × σ) :
    Prog Call Answer α → σ → Option (α × σ)
  | done value, e => some (value, e)
  | ask call next, e => (next (respond e call).1).eval respond (respond e call).2
  | spin, _ => none

/-- What a computation comes to against a function is a run of it. -/
theorem returns_of_eval {respond : env.State → (call : Call) → Answer call × env.State}
    (hrespond : ∀ e call, env.respond e call (respond e call).1 (respond e call).2)
    {prog : Prog Call Answer α} {e e' : env.State} {value : α}
    (h : prog.eval respond e = some (value, e')) : prog.Returns env e value e' := by
  induction prog generalizing e with
  | done value =>
      cases h
      exact ⟨rfl, rfl⟩
  | ask call next ih => exact ⟨_, _, hrespond e call, ih _ h⟩
  | spin => cases h

/-- The same when the function has its own idea of the state. -/
theorem returns_of_eval_state {σ : Type} {respond : σ → (call : Call) → Answer call × σ}
    (state : σ → env.State)
    (hrespond : ∀ e call, env.respond (state e) call (respond e call).1 (state (respond e call).2))
    {prog : Prog Call Answer α} {e e' : σ} {value : α}
    (h : prog.eval respond e = some (value, e')) :
    prog.Returns env (state e) value (state e') := by
  induction prog generalizing e with
  | done value =>
      cases h
      exact ⟨rfl, rfl⟩
  | ask call next ih => exact ⟨_, _, hrespond e call, ih _ h⟩
  | spin => cases h

end Prog

/-! ## Methods that may throw -/

/-- A method of an object with state `σ`.  What it has changed stays changed when it throws. -/
abbrev Routine (Call : Type) (Answer : Call → Type) (σ ε : Type) :=
  ExceptT ε (StateT σ (Prog Call Answer))

namespace Routine

variable {σ ε : Type} {env : Environment Call Answer}

/-- One call. -/
def ask (call : Call) : Routine Call Answer σ ε (Answer call) :=
  fun s => .ask call fun answer => .done (.ok answer, s)

/-- A loop that has used up its turns. -/
def spin : Routine Call Answer σ ε α := fun _ => .spin

/-- Every run that returns or throws does so with `Q`. -/
def wp (env : Environment Call Answer) (routine : Routine Call Answer σ ε α)
    (Q : Except ε α → σ → env.State → Prop) (s : σ) (e : env.State) : Prop :=
  Prog.wp env (fun result => Q result.1 result.2) (routine s) e

variable {Q R : Except ε α → σ → env.State → Prop} {s : σ} {e : env.State}

@[simp] lemma wp_ask_bind {call : Call} {rest : Answer call → Routine Call Answer σ ε α} :
    wp env (ask call >>= rest) Q s e
      ↔ ∀ answer e', env.respond e call answer e' → wp env (rest answer) Q s e' := Iff.rfl

@[simp] lemma wp_get_bind {rest : σ → Routine Call Answer σ ε α} :
    wp env (get >>= rest) Q s e ↔ wp env (rest s) Q s e := Iff.rfl

@[simp] lemma wp_modify_bind {f : σ → σ} {rest : PUnit → Routine Call Answer σ ε α} :
    wp env (modify f >>= rest) Q s e ↔ wp env (rest ⟨⟩) Q (f s) e := Iff.rfl

/-- A weaker condition at the end. -/
theorem wp.mono {routine : Routine Call Answer σ ε α} (h : wp env routine Q s e)
    (hQR : ∀ result s' e', Q result s' e' → R result s' e') : wp env routine R s e := by
  refine Prog.wp_mono ?_ h
  rintro ⟨result, s'⟩ e'
  exact hQR result s' e'

/-- **One after the other.**  What the first part ends with decides what the second may assume. -/
theorem wp.bind {first : Routine Call Answer σ ε β} {rest : β → Routine Call Answer σ ε α}
    {P : Except ε β → σ → env.State → Prop} (hfirst : wp env first P s e)
    (hok : ∀ value s' e', P (.ok value) s' e' → wp env (rest value) Q s' e')
    (herror : ∀ error s' e', P (.error error) s' e' → Q (.error error) s' e') :
    wp env (first >>= rest) Q s e := by
  refine Prog.wp_bind.mpr (Prog.wp_mono ?_ hfirst)
  rintro ⟨error | value, s'⟩ e' h
  · exact herror error s' e' h
  · exact hok value s' e' h

/-- **A handler** sees the state as the exception left it. -/
theorem wp.handled {body : Routine Call Answer σ ε α} {handler : ε → Routine Call Answer σ ε α}
    {P : Except ε α → σ → env.State → Prop} (hbody : wp env body P s e)
    (hok : ∀ value s' e', P (.ok value) s' e' → Q (.ok value) s' e')
    (herror : ∀ error s' e', P (.error error) s' e' → wp env (handler error) Q s' e') :
    wp env (tryCatch body handler) Q s e := by
  refine Prog.wp_bind.mpr (Prog.wp_mono ?_ hbody)
  rintro ⟨error | value, s'⟩ e' h
  · exact herror error s' e' h
  · exact hok value s' e' h

/-- A part that keeps an invariant, whatever it returns or throws. -/
theorem wp.bind_of_mono {first : Routine Call Answer σ ε β} {rest : β → Routine Call Answer σ ε α}
    {J : σ → env.State → Prop} (hfirst : wp env first (fun _ => J) s e)
    (hrest : ∀ value s' e', J s' e' → wp env (rest value) Q s' e')
    (herror : ∀ error s' e', J s' e' → Q (.error error) s' e') :
    wp env (first >>= rest) Q s e :=
  hfirst.bind hrest herror

/-- Both at once. -/
theorem wp.and {routine : Routine Call Answer σ ε α} (hQ : wp env routine Q s e)
    (hR : wp env routine R s e) :
    wp env routine (fun result s' e' => Q result s' e' ∧ R result s' e') s e :=
  Prog.wp_iff_returns.mpr fun value e' h =>
    ⟨Prog.wp_iff_returns.mp hQ value e' h, Prog.wp_iff_returns.mp hR value e' h⟩

/-! ## Routines that come to an end -/

/-- Every run returns or throws as long as it is answered, and does so with `Q`. -/
def total (env : Environment Call Answer) (routine : Routine Call Answer σ ε α)
    (Q : Except ε α → σ → env.State → Prop) (s : σ) (e : env.State) : Prop :=
  Prog.total env (fun result => Q result.1 result.2) (routine s) e

@[simp] lemma total_ask_bind {call : Call} {rest : Answer call → Routine Call Answer σ ε α} :
    total env (ask call >>= rest) Q s e
      ↔ ∀ answer e', env.respond e call answer e' → total env (rest answer) Q s e' := Iff.rfl

@[simp] lemma total_get_bind {rest : σ → Routine Call Answer σ ε α} :
    total env (get >>= rest) Q s e ↔ total env (rest s) Q s e := Iff.rfl

@[simp] lemma total_modify_bind {f : σ → σ} {rest : PUnit → Routine Call Answer σ ε α} :
    total env (modify f >>= rest) Q s e ↔ total env (rest ⟨⟩) Q (f s) e := Iff.rfl

/-- A method ends if its first part does, and the rest does behind every value; an exception passes.
-/
theorem total.bind {first : Routine Call Answer σ ε β} {rest : β → Routine Call Answer σ ε α}
    {P : Except ε β → σ → env.State → Prop} (hfirst : total env first P s e)
    (hok : ∀ value s' e', P (.ok value) s' e' → total env (rest value) Q s' e')
    (herror : ∀ error s' e', P (.error error) s' e' → Q (.error error) s' e') :
    total env (first >>= rest) Q s e := by
  refine Prog.total_bind.mpr (Prog.total_mono ?_ hfirst)
  rintro ⟨error | value, s'⟩ e' h
  · exact herror error s' e' h
  · exact hok value s' e' h

/-- A handled method ends if its body does, and the handler does behind every exception. -/
theorem total.handled {body : Routine Call Answer σ ε α}
    {handler : ε → Routine Call Answer σ ε α} {P : Except ε α → σ → env.State → Prop}
    (hbody : total env body P s e)
    (hok : ∀ value s' e', P (.ok value) s' e' → Q (.ok value) s' e')
    (herror : ∀ error s' e', P (.error error) s' e' → total env (handler error) Q s' e') :
    total env (tryCatch body handler) Q s e := by
  refine Prog.total_bind.mpr (Prog.total_mono ?_ hbody)
  rintro ⟨error | value, s'⟩ e' h
  · exact herror error s' e' h
  · exact hok value s' e' h

/-! ## Routines at every moment -/

/-- Every moment of every run has `I`. -/
def throughout (env : Environment Call Answer) (I : env.State → Prop)
    (routine : Routine Call Answer σ ε α) (s : σ) (e : env.State) : Prop :=
  Prog.throughout env I (routine s) e

section Throughout

variable {I : env.State → Prop}

@[simp] lemma throughout_get_bind {rest : σ → Routine Call Answer σ ε α} :
    throughout env I (get >>= rest) s e ↔ throughout env I (rest s) s e := Iff.rfl

@[simp] lemma throughout_modify_bind {f : σ → σ} {rest : PUnit → Routine Call Answer σ ε α} :
    throughout env I (modify f >>= rest) s e ↔ throughout env I (rest ⟨⟩) (f s) e := Iff.rfl

/-- **One after the other.**  The second part starts where the first may return. -/
theorem throughout.bind {first : Routine Call Answer σ ε β}
    {rest : β → Routine Call Answer σ ε α} {P : Except ε β → σ → env.State → Prop}
    (hfirst : throughout env I first s e) (hwp : wp env first P s e)
    (hrest : ∀ value s' e', P (.ok value) s' e' → throughout env I (rest value) s' e') :
    throughout env I (first >>= rest) s e := by
  have hends : Prog.wp env (fun result e' => I e' ∧ P result.1 result.2 e') (first s) e :=
    Prog.wp_iff_returns.mpr fun value e' h =>
      ⟨(Prog.wp_iff_returns.mp (Prog.throughout.wp hfirst) value e' h), Prog.wp_iff_returns.mp hwp value e' h⟩
  refine Prog.throughout_bind hfirst (Prog.wp_mono ?_ hends)
  rintro ⟨error | value, s'⟩ e' ⟨hI, h⟩
  · exact hI
  · exact hrest value s' e' h

/-- **A handler** starts where the exception was thrown. -/
theorem throughout.handled {body : Routine Call Answer σ ε α}
    {handler : ε → Routine Call Answer σ ε α} {P : Except ε α → σ → env.State → Prop}
    (hbody : throughout env I body s e) (hwp : wp env body P s e)
    (hhandler : ∀ error s' e', P (.error error) s' e' → throughout env I (handler error) s' e') :
    throughout env I (tryCatch body handler) s e := by
  have hends : Prog.wp env (fun result e' => I e' ∧ P result.1 result.2 e') (body s) e :=
    Prog.wp_iff_returns.mpr fun value e' h =>
      ⟨(Prog.wp_iff_returns.mp (Prog.throughout.wp hbody) value e' h), Prog.wp_iff_returns.mp hwp value e' h⟩
  refine Prog.throughout_bind hbody (Prog.wp_mono ?_ hends)
  rintro ⟨error | value, s'⟩ e' ⟨hI, h⟩
  · exact hhandler error s' e' h
  · exact hI

end Throughout

/-! ## What a routine may come to -/

/-- The state does not change, and every call is one that `P` allows. -/
def Quiet (P : Call → Prop) (routine : Routine Call Answer σ ε α) : Prop :=
  ∀ s, (routine s).Only P fun result => result.2 = s

namespace Quiet

variable {P : Call → Prop}

lemma pure (value : α) : Quiet P (Pure.pure value : Routine Call Answer σ ε α) := fun _ => rfl

lemma throw (error : ε) : Quiet P (MonadExcept.throw error : Routine Call Answer σ ε α) :=
  fun _ => rfl

lemma ask {call : Call} (h : P call) : Quiet P (Routine.ask call : Routine Call Answer σ ε _) :=
  fun _ => ⟨h, fun _ => rfl⟩

/-- A sequence of quiet routines is quiet. -/
theorem bind {first : Routine Call Answer σ ε β} {rest : β → Routine Call Answer σ ε α}
    (hfirst : Quiet P first) (hrest : ∀ value, Quiet P (rest value)) :
    Quiet P (first >>= rest) := by
  intro s
  refine Prog.Only.bind (hfirst s) ?_
  rintro ⟨error | value, s'⟩ rfl
  · rfl
  · exact hrest value s'

/-- **What the allowed calls preserve, the routine preserves.** -/
theorem wp {I : env.State → Prop}
    (hI : ∀ e call answer e', P call → I e → env.respond e call answer e' → I e')
    {routine : Routine Call Answer σ ε α} (h : Quiet P routine) (he : I e) :
    Routine.wp env routine (fun _ s' e' => s' = s ∧ I e') s e :=
  (h s).wp hI he

/-- The frame rule without an invariant. -/
theorem wp_state {routine : Routine Call Answer σ ε α} (h : Quiet P routine) :
    Routine.wp env routine (fun _ s' _ => s' = s) s e :=
  (h.wp (I := fun _ => True) (fun _ _ _ _ _ _ _ => trivial) trivial).mono fun _ _ _ h => h.1

end Quiet

/-! ## Routines that make only some of the calls -/

/-- Whatever the answers, every call is one that `P` allows, and what is returned has `R`. -/
def ConfinedAt (P : Call → Prop) (R : α → Prop) (routine : Routine Call Answer σ ε α) (s : σ) :
    Prop :=
  (routine s).Only P fun result => ∀ value, result.1 = .ok value → R value

@[simp] lemma confinedAt_get_bind {P : Call → Prop} {R : α → Prop}
    {rest : σ → Routine Call Answer σ ε α} :
    ConfinedAt P R (get >>= rest) s ↔ ConfinedAt P R (rest s) s := Iff.rfl

/-- So in any state. -/
def Confined (P : Call → Prop) (R : α → Prop) (routine : Routine Call Answer σ ε α) : Prop :=
  ∀ s, ConfinedAt P R routine s

namespace Confined

variable {P : Call → Prop} {R : α → Prop} {T : β → Prop}

lemma pure {value : α} (h : R value) :
    Confined P R (Pure.pure value : Routine Call Answer σ ε α) := by
  intro s other hother
  cases hother
  exact h

lemma throw (error : ε) : Confined P R (MonadExcept.throw error : Routine Call Answer σ ε α) := by
  intro s other hother
  cases hother

lemma of_quiet {routine : Routine Call Answer σ ε α} (h : Quiet P routine) :
    Confined P (fun _ => True) routine :=
  fun s => (h s).mono fun _ _ _ _ => trivial

lemma ask {call : Call} (h : P call) :
    Confined P (fun _ => True) (Routine.ask call : Routine Call Answer σ ε _) :=
  fun _ => ⟨h, fun _ _ _ => trivial⟩

lemma get : Confined P (fun _ => True) (get : Routine Call Answer σ ε σ) :=
  fun _ _ _ => trivial

lemma modify (f : σ → σ) :
    Confined P (fun _ => True) (modify f : Routine Call Answer σ ε PUnit) :=
  fun _ _ _ => trivial

/-- A sequence of confined routines is confined. -/
theorem bind {first : Routine Call Answer σ ε β} {rest : β → Routine Call Answer σ ε α}
    (hfirst : Confined P T first) (hrest : ∀ value, T value → Confined P R (rest value)) :
    Confined P R (first >>= rest) := by
  intro s
  refine Prog.Only.bind (hfirst s) ?_
  rintro ⟨error | value, s'⟩ h
  · intro other hother
    cases hother
  · exact hrest value (h value rfl) s'

/-- So is a confined routine with confined handlers. -/
theorem handled {body : Routine Call Answer σ ε α} {handler : ε → Routine Call Answer σ ε α}
    (hbody : Confined P R body) (hhandler : ∀ error, Confined P R (handler error)) :
    Confined P R (tryCatch body handler) := by
  intro s
  refine Prog.Only.bind (hbody s) ?_
  rintro ⟨error | value, s'⟩ h
  · exact hhandler error s'
  · exact h

end Confined

end Routine

end Interaction
