import Imgjit.Library.Interaction

/-!
# Computations that come to an end

A loop without a bound is written with a number of turns, and spins when they are used up.  So a
computation says of itself when it has not ended, and there are two things to prove of a loop: that
some number of turns is enough, and that any larger number makes no difference.  Which number was
written down does not matter then.

**Without loops.**  `Prog.Ends` is a computation that nowhere spins, whatever it is answered; `wp`
is all there is to prove of it (`Ends.total`).

**More turns.**  `Prog.Below` is a computation that does the same with fewer turns, or spins.
`Below.returns_iff`: if every run of the one with fewer turns ends, then the other has the same
runs.

**Methods.**  `Routine.Ends`, `Routine.Halts` and `Routine.Below` are the same for methods that may
throw, with a rule for a sequence and one for a handler.  `Halts` is about one state: a loop often
ends because of where it starts.
-/

namespace Interaction

variable {Call : Type} {Answer : Call → Type} {α β : Type} {env : Environment Call Answer}

namespace Prog

/-! ## Without loops -/

/-- No answers make it spin. -/
def Ends : Prog Call Answer α → Prop
  | done _ => True
  | ask _ next => ∀ answer, (next answer).Ends
  | spin => False

/-- A sequence ends if its parts do. -/
theorem Ends.bind {prog : Prog Call Answer α} (h : prog.Ends) {f : α → Prog Call Answer β}
    (hf : ∀ value, (f value).Ends) : (prog.bind f).Ends := by
  induction prog with
  | done value => exact hf value
  | ask call next ih => exact fun answer => ih answer (h answer)
  | spin => exact h.elim

/-- **What holds at the ends is reached.** -/
theorem Ends.total {Q : α → env.State → Prop} {prog : Prog Call Answer α} (h : prog.Ends)
    {e : env.State} (hwp : prog.wp env Q e) : prog.total env Q e := by
  induction prog generalizing e with
  | done value => exact hwp
  | ask call next ih =>
      intro answer e' hanswer
      exact ih answer (h answer) (hwp answer e' hanswer)
  | spin => exact h.elim

/-- Another condition at the end may be shown by itself. -/
theorem total.and_wp {Q R : α → env.State → Prop} {prog : Prog Call Answer α} {e : env.State}
    (h : prog.total env Q e) (hwp : prog.wp env R e) :
    prog.total env (fun value e' => Q value e' ∧ R value e') e := by
  induction prog generalizing e with
  | done value => exact ⟨h, hwp⟩
  | ask call next ih =>
      intro answer e' hanswer
      exact ih answer (h answer e' hanswer) (hwp answer e' hanswer)
  | spin => exact h.elim

/-! ## More turns -/

/-- The same calls with the same continuations, but that the second may go on where the first
spins. -/
inductive Below : Prog Call Answer α → Prog Call Answer α → Prop
  | spin (prog : Prog Call Answer α) : Below .spin prog
  | done (value : α) : Below (.done value) (.done value)
  | ask (call : Call) {next next' : Answer call → Prog Call Answer α} :
      (∀ answer, Below (next answer) (next' answer)) → Below (.ask call next) (.ask call next')

/-- A computation does the same as itself. -/
theorem Below.refl (prog : Prog Call Answer α) : Below prog prog := by
  induction prog with
  | done value => exact .done value
  | ask call next ih => exact .ask call ih
  | spin => exact .spin _

/-- A sequence with fewer turns in its parts. -/
theorem Below.bind {prog prog' : Prog Call Answer α} (h : Below prog prog')
    {f f' : α → Prog Call Answer β} (hf : ∀ value, Below (f value) (f' value)) :
    Below (prog.bind f) (prog'.bind f') := by
  induction h with
  | spin prog => exact .spin _
  | done value => exact hf value
  | ask call _ ih => exact .ask call ih

/-- More turns keep the runs that end. -/
theorem Below.returns {prog prog' : Prog Call Answer α} (h : Below prog prog') {e e' : env.State}
    {value : α} (hreturns : prog.Returns env e value e') : prog'.Returns env e value e' := by
  induction h generalizing e with
  | spin prog => exact hreturns.elim
  | done value => exact hreturns
  | ask call _ ih =>
      rcases hreturns with ⟨answer, e₁, hanswer, hrest⟩
      exact ⟨answer, e₁, hanswer, ih answer hrest⟩

/-- **Enough turns are enough.**  Where no run spins, more turns add no run. -/
theorem Below.returns_iff {prog prog' : Prog Call Answer α} (h : Below prog prog') {e : env.State}
    {Q : α → env.State → Prop} (htotal : prog.total env Q e) {value : α} {e' : env.State} :
    prog'.Returns env e value e' ↔ prog.Returns env e value e' := by
  refine ⟨?_, h.returns⟩
  induction h generalizing e with
  | spin prog => exact htotal.elim
  | done value => exact id
  | ask call _ ih =>
      rintro ⟨answer, e₁, hanswer, hrest⟩
      exact ⟨answer, e₁, hanswer, ih answer (htotal answer e₁ hanswer) hrest⟩

end Prog

/-! ## Methods that may throw -/

namespace Routine

variable {σ ε : Type}

/-- In every state. -/
def Ends (routine : Routine Call Answer σ ε α) : Prop := ∀ s, (routine s).Ends

namespace Ends

lemma pure (value : α) : Ends (Pure.pure value : Routine Call Answer σ ε α) := fun _ => trivial

lemma throw (error : ε) : Ends (MonadExcept.throw error : Routine Call Answer σ ε α) :=
  fun _ => trivial

lemma ask (call : Call) : Ends (Routine.ask call : Routine Call Answer σ ε _) :=
  fun _ _ => trivial

lemma get : Ends (get : Routine Call Answer σ ε σ) := fun _ => trivial

lemma modify (f : σ → σ) : Ends (modify f : Routine Call Answer σ ε PUnit) := fun _ => trivial

/-- A sequence ends if its parts do. -/
theorem bind {first : Routine Call Answer σ ε β} {rest : β → Routine Call Answer σ ε α}
    (hfirst : Ends first) (hrest : ∀ value, Ends (rest value)) : Ends (first >>= rest) := by
  intro s
  refine Prog.Ends.bind (hfirst s) ?_
  rintro ⟨error | value, s'⟩
  · trivial
  · exact hrest value s'

/-- So does a handled routine. -/
theorem handled {body : Routine Call Answer σ ε α} {handler : ε → Routine Call Answer σ ε α}
    (hbody : Ends body) (hhandler : ∀ error, Ends (handler error)) :
    Ends (tryCatch body handler) := by
  intro s
  refine Prog.Ends.bind (hbody s) ?_
  rintro ⟨error | value, s'⟩
  · exact hhandler error s'
  · trivial

/-- Of a routine that ends only the condition at the end has to be shown. -/
theorem total {routine : Routine Call Answer σ ε α} (h : Ends routine)
    {Q : Except ε α → σ → env.State → Prop} {s : σ} {e : env.State}
    (hwp : Routine.wp env routine Q s e) : Routine.total env routine Q s e :=
  Prog.Ends.total (h s) hwp

end Ends

/-- Every run that is answered comes to an end. -/
abbrev Halts (env : Environment Call Answer) (routine : Routine Call Answer σ ε α) (s : σ)
    (e : env.State) : Prop :=
  total env routine (fun _ _ _ => True) s e

/-- A routine that ends whatever it starts from ends from here. -/
theorem Ends.halts {routine : Routine Call Answer σ ε α} (h : Ends routine) (s : σ)
    (e : env.State) : Halts env routine s e :=
  h.total (Prog.wp_of_preserved (fun _ _ _ _ _ _ => trivial) trivial)

namespace Halts

variable {s : σ} {e : env.State}

/-- A sequence ends if its first part does, and the rest wherever that may end. -/
theorem bind {first : Routine Call Answer σ ε β} {rest : β → Routine Call Answer σ ε α}
    (hfirst : Halts env first s e) (hrest : ∀ value s' e', Halts env (rest value) s' e') :
    Halts env (first >>= rest) s e :=
  total.bind hfirst (fun value s' e' _ => hrest value s' e') fun _ _ _ _ => trivial

/-- A handled routine ends if its body does, and every handler does. -/
theorem handled {body : Routine Call Answer σ ε α} {handler : ε → Routine Call Answer σ ε α}
    (hbody : Halts env body s e) (hhandler : ∀ error, Ends (handler error)) :
    Halts env (tryCatch body handler) s e :=
  total.handled hbody (fun _ _ _ _ => trivial) fun error s' e' _ => (hhandler error).halts s' e'

/-- **What holds at the ends is reached.** -/
theorem total {routine : Routine Call Answer σ ε α} (h : Halts env routine s e)
    {Q : Except ε α → σ → env.State → Prop} (hwp : wp env routine Q s e) :
    Routine.total env routine Q s e :=
  Prog.total_mono (fun _ _ h => h.2) (Prog.total.and_wp h hwp)

end Halts

/-- In every state. -/
def Below (routine routine' : Routine Call Answer σ ε α) : Prop :=
  ∀ s, Prog.Below (routine s) (routine' s)

namespace Below

lemma refl (routine : Routine Call Answer σ ε α) : Below routine routine :=
  fun s => Prog.Below.refl (routine s)

lemma spin (routine : Routine Call Answer σ ε α) : Below Routine.spin routine :=
  fun _ => .spin _

/-- A sequence with fewer turns in its parts. -/
theorem bind {first first' : Routine Call Answer σ ε β}
    {rest rest' : β → Routine Call Answer σ ε α} (hfirst : Below first first')
    (hrest : ∀ value, Below (rest value) (rest' value)) :
    Below (first >>= rest) (first' >>= rest') := by
  intro s
  refine Prog.Below.bind (hfirst s) ?_
  rintro ⟨error | value, s'⟩
  · exact .refl _
  · exact hrest value s'

/-- A handled routine with fewer turns in its parts. -/
theorem handled {body body' : Routine Call Answer σ ε α}
    {handler : ε → Routine Call Answer σ ε α} (hbody : Below body body') :
    Below (tryCatch body handler) (tryCatch body' handler) := by
  intro s
  refine Prog.Below.bind (hbody s) ?_
  rintro ⟨error | value, s'⟩
  · exact .refl _
  · exact .refl _

end Below

end Routine

end Interaction
