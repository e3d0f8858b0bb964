import Imgjit.Cuda.PixelKernel

/-!
# The integers of a thread

What a thread computes in 32-bit `int`, and where it reads and writes.  No `int` of a kernel comes
from a float, so all of this can be followed without the floats, and also where the thread has no
outcome.  Values are exact: up to the first one that is out of range they are the machine's.

**Accesses.**  `Access` is a value of type `int`, or an index into a buffer; `Access.Fits` says that
it is in range.  `Stmt.intsAfter` has the `int` variables behind a statement, and `Stmt.touches`,
`touchesItems` and `StageCode.touches` the accesses of a statement, of the items of a kernel, and of
one thread of a launch.  They are functions of the syntax, defined beside the execution.

**They are those of the execution.**  `Stmt.exec_follows` and `runItems_follows` say that a thread
that has an outcome leaves these variables, and stores at these indices; `StageCode.run_follows`
says that a launch stores only where one of its threads does.

**Statements whose accesses satisfy a predicate.**  `Stmt.Within` is the judgement in which all
bounds are proved: a statement, the variables before it, a predicate on its accesses, a condition on
the variables behind it.  There is a rule for each construct, and the loop rules take an invariant.
-/

namespace Imgjit

namespace Cuda

/-! ## Accesses -/

/-- The `int` variables of a thread. -/
abbrev Ints := IntVar → ℤ

/-- What a thread evaluates or touches. -/
inductive Access where
  /-- The value of an expression of type `int`. -/
  | int (value : ℤ)
  | src (index : ℤ)
  | dst (index : ℤ)
  deriving DecidableEq, Repr

/-- A value is a 32-bit `int`, an index is inside a buffer of `size` samples. -/
def Access.Fits (size : ℕ) : Access → Prop
  | int value => -2 ^ 31 ≤ value ∧ value < 2 ^ 31
  | src index => 0 ≤ index ∧ index < size
  | dst index => 0 ≤ index ∧ index < size

/-- Whether an access is in range can be computed. -/
instance (size : ℕ) (access : Access) : Decidable (access.Fits size) :=
  match access with
  | .int _ => inferInstanceAs (Decidable (_ ∧ _))
  | .src _ => inferInstanceAs (Decidable (_ ∧ _))
  | .dst _ => inferInstanceAs (Decidable (_ ∧ _))

/-- The `int` values of an expression, its own last.  What stands below a cast is unsigned. -/
def IntExpr.evaluated (env : Env) (ints : Ints) : IntExpr → List Access
  | lit value => [.int value]
  | var name => [.int (ints name)]
  | blockIdx _ => []
  | threadIdx _ => []
  | blockDim _ => []
  | ofUnsigned e => [.int ((ofUnsigned e).eval env ints)]
  | neg e => e.evaluated env ints ++ [.int ((neg e).eval env ints)]
  | add a b => a.evaluated env ints ++ b.evaluated env ints ++ [.int ((add a b).eval env ints)]
  | sub a b => a.evaluated env ints ++ b.evaluated env ints ++ [.int ((sub a b).eval env ints)]
  | mul a b => a.evaluated env ints ++ b.evaluated env ints ++ [.int ((mul a b).eval env ints)]
  | div a b => a.evaluated env ints ++ b.evaluated env ints ++ [.int ((div a b).eval env ints)]
  | clampCoord v limit =>
      v.evaluated env ints ++ limit.evaluated env ints
        ++ [.int (limit.eval env ints - 1), .int ((clampCoord v limit).eval env ints)]

/-- The branches of the emitted conditionals are literals, so it does not matter which is taken. -/
def FloatExpr.touches (env : Env) (ints : Ints) : FloatExpr → List Access
  | lit _ => []
  | param _ => []
  | scalar _ => []
  | cell _ _ => []
  | tile _ row column => row.evaluated env ints ++ column.evaluated env ints
  | table _ index => index.evaluated env ints
  | loadSample index => index.evaluated env ints ++ [.src (index.eval env ints)]
  | quantize e => e.touches env ints
  | luma r g b => r.touches env ints ++ g.touches env ints ++ b.touches env ints
  | sqrtf e => e.touches env ints
  | add a b => a.touches env ints ++ b.touches env ints
  | sub a b => a.touches env ints ++ b.touches env ints
  | mul a b => a.touches env ints ++ b.touches env ints
  | ifGe a b yes no =>
      a.touches env ints ++ b.touches env ints ++ yes.touches env ints ++ no.touches env ints

/-- The accesses of an expression for a byte. -/
def ByteExpr.touches (env : Env) (ints : Ints) : ByteExpr → List Access
  | storeSample e => e.touches env ints
  | src index => index.evaluated env ints ++ [.src (index.eval env ints)]

/-- The turns of a loop, each on the variables that the one before has left. -/
def loopTouches (after : ℤ → Ints → Ints) (touched : ℤ → Ints → List Access) :
    List ℤ → Ints → List Access
  | [], _ => []
  | value :: values, ints =>
      touched value ints ++ loopTouches after touched values (after value ints)

/-- The `int` variables behind a statement. -/
def Stmt.intsAfter (env : Env) : Stmt → Ints → Ints
  | seq first second, ints => second.intsAfter env (first.intsAfter env ints)
  | int name value, ints => Function.update ints name (value.eval env ints)
  | block body, ints => body.intsAfter env ints
  | forUpTo name first last body, ints =>
      (Cpu.loopValues (first.eval env ints) (last.eval env ints)).foldl
        (fun ints value => body.intsAfter env (Function.update ints name value)) ints
  | forBelow name first bound step body, ints =>
      ((Grid.strideValues (first.eval env ints).toNat bound step).map Nat.cast).foldl
        (fun ints value => body.intsAfter env (Function.update ints name value)) ints
  | _, ints => ints

/-- The accesses of a statement, in order.  `tap` stands for those of the tap helper.  A loop also
computes the value that its counter has after the turn. -/
def Stmt.touches (env : Env) (tap : ℤ → ℤ → List Access) : Stmt → Ints → List Access
  | nop, _ => []
  | seq first second, ints =>
      first.touches env tap ints ++ second.touches env tap (first.intsAfter env ints)
  | comment _, _ => []
  | int _ value, ints => value.evaluated env ints
  | array _ _ _, _ => []
  | float _ value, ints => value.touches env ints
  | set _ _ value, ints => value.touches env ints
  | accumulate _ _ value, ints => value.touches env ints
  | block body, ints => body.touches env tap ints
  | forUpTo name first last body, ints =>
      first.evaluated env ints ++ last.evaluated env ints
        ++ loopTouches (fun value ints => body.intsAfter env (Function.update ints name value))
          (fun value ints => .int value :: .int (value + 1)
            :: body.touches env tap (Function.update ints name value))
          (Cpu.loopValues (first.eval env ints) (last.eval env ints)) ints
  | forBelow name first bound step body, ints =>
      first.evaluated env ints ++ [.int bound, .int step]
        ++ loopTouches (fun value ints => body.intsAfter env (Function.update ints name value))
          (fun value ints => .int value :: .int (value + step)
            :: body.touches env tap (Function.update ints name value))
          ((Grid.strideValues (first.eval env ints).toNat bound step).map Nat.cast) ints
  | callTap x y _ _, ints =>
      x.evaluated env ints ++ y.evaluated env ints ++ tap (x.eval env ints) (y.eval env ints)
  | setTile _ row column value, ints =>
      row.evaluated env ints ++ column.evaluated env ints ++ value.touches env ints
  | setDst index value, ints =>
      index.evaluated env ints ++ [.dst (index.eval env ints)] ++ value.touches env ints

/-- The right operand of `||` is evaluated if the left one is false. -/
def IntCond.touches (env : Env) (ints : Ints) : IntCond → List Access
  | ge a b => a.evaluated env ints ++ b.evaluated env ints
  | or c d => c.touches env ints ++ if c.eval env ints then [] else d.touches env ints

/-- The accesses of a thread from item to item, until it returns. -/
def touchesItems (env : Env) (tap : ℤ → ℤ → List Access) : List Item → Ints → List Access
  | [], _ => []
  | .stmt body :: rest, ints =>
      body.touches env tap ints ++ touchesItems env tap rest (body.intsAfter env ints)
  | .returnIf condition :: rest, ints =>
      condition.touches env ints
        ++ if condition.eval env ints then [] else touchesItems env tap rest ints

/-- The frame of the tap helper. -/
def tapFrame (width height x y : ℤ) : Ints :=
  Function.update (Function.update (Function.update (Function.update (fun _ => 0) .x x) .y y)
    .width width) .height height

/-- The accesses of one call of the tap helper. -/
def TapFunction.touches (tap : TapFunction) (env : Env) (width height x y : ℤ) : List Access :=
  tap.body.touches env (fun _ _ => []) (tapFrame width height x y)

namespace StageCode

/-- The accesses of a call of the stage's helper, if it has one. -/
def tapTouches (stage : StageCode) (env : Env) (launch : Launch) (x y : ℤ) : List Access :=
  match stage.tap with
  | none => []
  | some tap => tap.touches env launch.width launch.height x y

/-- **The accesses of one thread of a launch.**  No `int` comes out of the tile. -/
def touches (stage : StageCode) (launch : Launch) (args : BoundArgs) (block thread : ℕ × ℕ) :
    List Access :=
  let env := stage.env launch args block thread fun _ => none
  touchesItems env (stage.tapTouches env launch) stage.kernel.phases.flatten
    (StageCode.start launch args).ints

end StageCode

/-! ## Threads follow their accesses -/

/-- A step of a thread leaves these variables, and stores at indices among these accesses. -/
structure Follows (s s' : ThreadState) (ints : Ints) (touched : List Access) : Prop where
  ints : s'.ints = ints
  stores : ∃ log, s'.dstLog = s.dstLog ++ log ∧ ∀ store ∈ log, .dst store.1 ∈ touched

namespace Follows

variable {s s' s'' : ThreadState} {ints ints' : Ints} {touched touched' : List Access}

lemma of_dstLog (hints : s'.ints = ints) (hlog : s'.dstLog = s.dstLog) :
    Follows s s' ints touched :=
  ⟨hints, [], by rw [hlog, List.append_nil], List.forall_mem_nil _⟩

lemma trans (h : Follows s s' ints touched) (h' : Follows s' s'' ints' touched') :
    Follows s s'' ints' (touched ++ touched') := by
  rcases h.stores with ⟨log, hlog, hstores⟩
  rcases h'.stores with ⟨log', hlog', hstores'⟩
  refine ⟨h'.ints, log ++ log', by rw [hlog', hlog, List.append_assoc], ?_⟩
  intro store hmem
  rcases List.mem_append.mp hmem with hmem | hmem
  · exact List.mem_append_left _ (hstores store hmem)
  · exact List.mem_append_right _ (hstores' store hmem)

lemma mono (h : Follows s s' ints touched) (hsub : touched ⊆ touched') :
    Follows s s' ints touched' := by
  rcases h.stores with ⟨log, hlog, hstores⟩
  exact ⟨h.ints, log, hlog, fun store hmem => hsub (hstores store hmem)⟩

/-- **A loop follows its turns**, by induction on the values of its counter. -/
lemma loop {turn : ThreadState → ℤ → Option ThreadState} {after : ℤ → Ints → Ints}
    {touches : ℤ → Ints → List Access}
    (hturn : ∀ s value s', turn s value = some s' →
      Follows s s' (after value s.ints) (touches value s.ints))
    (values : List ℤ) (h : values.foldlM turn s = some s') :
    Follows s s' (values.foldl (fun ints value => after value ints) s.ints)
      (loopTouches after touches values s.ints) := by
  induction values generalizing s with
  | nil =>
      cases h
      exact .of_dstLog rfl rfl
  | cons value values ih =>
      rw [List.foldlM_cons] at h
      rcases Option.bind_eq_some_iff.mp h with ⟨mid, hmid, h⟩
      have hfirst := hturn s value mid hmid
      have hrest := ih h
      rw [hfirst.ints] at hrest
      exact hfirst.trans hrest

end Follows

lemma setCell_follows {s s' : ThreadState} {name : FloatVar} {c : ℕ} {value : ℚ}
    {touched : List Access} (h : s.setCell name c value = some s') :
    Follows s s' s.ints touched := by
  unfold ThreadState.setCell at h
  split_ifs at h
  cases h
  exact .of_dstLog rfl rfl

/-- **A statement that has an outcome follows its accesses**, by induction on it. -/
theorem Stmt.exec_follows {env : Env} (tap : ℤ → ℤ → List Access) {body : Stmt}
    {s s' : ThreadState} (h : body.exec env s = some s') :
    Follows s s' (body.intsAfter env s.ints) (body.touches env tap s.ints) := by
  induction body generalizing s s' with
  | nop =>
      cases h
      exact .of_dstLog rfl rfl
  | seq first second ihFirst ihSecond =>
      rcases Option.bind_eq_some_iff.mp h with ⟨mid, hmid, h⟩
      have hfirst := ihFirst hmid
      have hsecond := ihSecond h
      rw [hfirst.ints] at hsecond
      exact hfirst.trans hsecond
  | comment text =>
      cases h
      exact .of_dstLog rfl rfl
  | int name value =>
      cases h
      exact .of_dstLog rfl rfl
  | array name size init =>
      cases h
      exact .of_dstLog rfl rfl
  | float name value =>
      rcases Option.bind_eq_some_iff.mp h with ⟨result, -, h⟩
      cases h
      exact .of_dstLog rfl rfl
  | set name c value =>
      rcases Option.bind_eq_some_iff.mp h with ⟨result, -, h⟩
      exact setCell_follows h
  | accumulate name c value =>
      rcases Option.bind_eq_some_iff.mp h with ⟨old, -, h⟩
      rcases Option.bind_eq_some_iff.mp h with ⟨result, -, h⟩
      exact setCell_follows h
  | block body ih => exact ih h
  | forUpTo name first last body ih =>
      refine (Follows.loop (fun s value s' hturn => ?_) _ h).mono (List.subset_append_right _ _)
      have hcounter : Follows s (s.setInt name value) (s.setInt name value).ints
          [.int value, .int (value + 1)] := .of_dstLog rfl rfl
      exact hcounter.trans (ih hturn)
  | forBelow name first bound step body ih =>
      have hcast : ((Grid.strideValues (first.eval env s.ints).toNat bound step).map
          Nat.cast).foldlM (fun s (value : ℤ) => body.exec env (s.setInt name value)) s
            = some s' := by
        rw [List.foldlM_map]
        exact h
      refine (Follows.loop (fun s value s' hturn => ?_) _ hcast).mono
        (List.subset_append_right _ _)
      have hcounter : Follows s (s.setInt name value) (s.setInt name value).ints
          [.int value, .int (value + step)] := .of_dstLog rfl rfl
      exact hcounter.trans (ih hturn)
  | callTap x y target args =>
      rcases Option.bind_eq_some_iff.mp h with ⟨scalars, -, h⟩
      rcases Option.bind_eq_some_iff.mp h with ⟨values, -, h⟩
      cases h
      exact .of_dstLog rfl rfl
  | setTile plane row column value =>
      rcases Option.bind_eq_some_iff.mp h with ⟨result, -, h⟩
      unfold Env.storeTile at h
      split at h
      · cases h
      · split_ifs at h
        cases h
        exact .of_dstLog rfl rfl
  | setDst index value =>
      rcases Option.bind_eq_some_iff.mp h with ⟨result, -, h⟩
      unfold Env.storeDst at h
      split_ifs at h with hindex
      cases h
      refine ⟨rfl, [((index.eval env s.ints).toNat, result)], rfl, ?_⟩
      intro store hmem
      obtain rfl := List.mem_singleton.mp hmem
      rw [Int.toNat_of_nonneg hindex.1]
      exact List.mem_append_left _ (List.mem_append_right _ List.mem_cons_self)

/-- **A phase follows its accesses**: what a thread stores in it is among them. -/
theorem runItems_follows {env : Env} (tap : ℤ → ℤ → List Access) {items : List Item}
    {s s' : ThreadState} (h : runItems env items s = some s') :
    ∃ log, s'.dstLog = s.dstLog ++ log
      ∧ ∀ store ∈ log, .dst store.1 ∈ touchesItems env tap items s.ints := by
  induction items generalizing s with
  | nil =>
      cases h
      exact ⟨[], by rw [List.append_nil], List.forall_mem_nil _⟩
  | cons item items ih =>
      cases item with
      | stmt body =>
          rcases Option.bind_eq_some_iff.mp h with ⟨mid, hmid, h⟩
          have hbody := body.exec_follows tap hmid
          rcases hbody.stores with ⟨log, hlog, hstores⟩
          rcases ih h with ⟨log', hlog', hstores'⟩
          rw [hbody.ints] at hstores'
          refine ⟨log ++ log', by rw [hlog', hlog, List.append_assoc], ?_⟩
          intro store hmem
          rcases List.mem_append.mp hmem with hmem | hmem
          · exact List.mem_append_left _ (hstores store hmem)
          · exact List.mem_append_right _ (hstores' store hmem)
      | returnIf condition =>
          unfold runItems at h
          unfold touchesItems
          split_ifs at h ⊢ with hcondition
          · cases h
            exact ⟨[], by rw [List.append_nil], List.forall_mem_nil _⟩
          · rcases ih h with ⟨log, hlog, hstores⟩
            exact ⟨log, hlog, fun store hmem => List.mem_append_right _ (hstores store hmem)⟩

/-- What is stored after a phase was so before, or is among its accesses. -/
lemma runItems_stored {env : Env} {tap : ℤ → ℤ → List Access} {items : List Item}
    {s s' : ThreadState} {accesses : List Access} (h : runItems env items s = some s')
    (hstored : ∀ store ∈ s.dstLog, .dst store.1 ∈ accesses)
    (htouched : touchesItems env tap items s.ints ⊆ accesses) :
    ∀ store ∈ s'.dstLog, .dst store.1 ∈ accesses := by
  rcases runItems_follows tap h with ⟨log, hlog, hstores⟩
  intro store hmem
  rw [hlog] at hmem
  rcases List.mem_append.mp hmem with hmem | hmem
  · exact hstored store hmem
  · exact htouched (hstores store hmem)

/-- A thread that has not returned goes on with the next phase where this one has left it. -/
lemma touchesItems_append {env : Env} (tap : ℤ → ℤ → List Access) {items : List Item}
    (rest : List Item) {s s' : ThreadState} (h : runItems env items s = some s')
    (hrunning : s'.returned = false) :
    touchesItems env tap (items ++ rest) s.ints
      = touchesItems env tap items s.ints ++ touchesItems env tap rest s'.ints := by
  induction items generalizing s with
  | nil =>
      cases h
      rfl
  | cons item items ih =>
      cases item with
      | stmt body =>
          rcases Option.bind_eq_some_iff.mp h with ⟨mid, hmid, h⟩
          rw [List.cons_append, touchesItems, touchesItems, ← (body.exec_follows tap hmid).ints,
            ih h, List.append_assoc]
      | returnIf condition =>
          unfold runItems at h
          split_ifs at h with hcondition
          · cases h
            cases hrunning
          · rw [List.cons_append, touchesItems, touchesItems, if_neg hcondition,
              if_neg hcondition, ih h, List.append_assoc]

/-! ## Launches follow their accesses -/

/-- The same thread of the same grid: no `int` depends on anything else of its surroundings. -/
structure Env.SamePlace (env env' : Env) : Prop where
  block : env.block = env'.block
  thread : env.thread = env'.thread
  blockDim : env.blockDim = env'.blockDim

section SamePlace

variable {env env' : Env}

lemma IntExpr.eval_congr (h : env.SamePlace env') (ints : Ints) (e : IntExpr) :
    e.eval env ints = e.eval env' ints := by
  induction e with
  | lit value => rfl
  | var name => rfl
  | blockIdx axis => rw [eval, eval, h.block]
  | threadIdx axis => rw [eval, eval, h.thread]
  | blockDim axis => rw [eval, eval, h.blockDim]
  | ofUnsigned e ih => exact ih
  | neg e ih => rw [eval, eval, ih]
  | add a b iha ihb => rw [eval, eval, iha, ihb]
  | sub a b iha ihb => rw [eval, eval, iha, ihb]
  | mul a b iha ihb => rw [eval, eval, iha, ihb]
  | div a b iha ihb => rw [eval, eval, iha, ihb]
  | clampCoord v limit ihv ihlimit => rw [eval, eval, ihv, ihlimit]

lemma IntExpr.evaluated_congr (h : env.SamePlace env') (ints : Ints) (e : IntExpr) :
    e.evaluated env ints = e.evaluated env' ints := by
  induction e with
  | lit value => rfl
  | var name => rfl
  | blockIdx axis => rfl
  | threadIdx axis => rfl
  | blockDim axis => rfl
  | ofUnsigned e => rw [evaluated, evaluated, eval_congr h]
  | neg e ih => rw [evaluated, evaluated, eval_congr h, ih]
  | add a b iha ihb => rw [evaluated, evaluated, eval_congr h, iha, ihb]
  | sub a b iha ihb => rw [evaluated, evaluated, eval_congr h, iha, ihb]
  | mul a b iha ihb => rw [evaluated, evaluated, eval_congr h, iha, ihb]
  | div a b iha ihb => rw [evaluated, evaluated, eval_congr h, iha, ihb]
  | clampCoord v limit ihv ihlimit =>
      rw [evaluated, evaluated, eval_congr h, eval_congr h, ihv, ihlimit]

lemma FloatExpr.touches_congr (h : env.SamePlace env') (ints : Ints) (e : FloatExpr) :
    e.touches env ints = e.touches env' ints := by
  induction e with
  | lit value => rfl
  | param index => rfl
  | scalar name => rfl
  | cell name c => rfl
  | tile plane row column =>
      rw [touches, touches, IntExpr.evaluated_congr h, IntExpr.evaluated_congr h]
  | table name index => exact IntExpr.evaluated_congr h ints index
  | loadSample index =>
      rw [touches, touches, IntExpr.evaluated_congr h, IntExpr.eval_congr h]
  | quantize e ih => exact ih
  | luma r g b ihr ihg ihb => rw [touches, touches, ihr, ihg, ihb]
  | sqrtf e ih => exact ih
  | add a b iha ihb => rw [touches, touches, iha, ihb]
  | sub a b iha ihb => rw [touches, touches, iha, ihb]
  | mul a b iha ihb => rw [touches, touches, iha, ihb]
  | ifGe a b yes no iha ihb ihyes ihno => rw [touches, touches, iha, ihb, ihyes, ihno]

lemma ByteExpr.touches_congr (h : env.SamePlace env') (ints : Ints) (e : ByteExpr) :
    e.touches env ints = e.touches env' ints := by
  cases e with
  | storeSample e => exact e.touches_congr h ints
  | src index => rw [touches, touches, IntExpr.evaluated_congr h, IntExpr.eval_congr h]

lemma Stmt.intsAfter_congr (h : env.SamePlace env') (body : Stmt) :
    body.intsAfter env = body.intsAfter env' := by
  induction body with
  | seq first second ihFirst ihSecond =>
      funext ints
      rw [intsAfter, intsAfter, ihFirst, ihSecond]
  | int name value =>
      funext ints
      rw [intsAfter, intsAfter, IntExpr.eval_congr h]
  | block body ih => exact ih
  | forUpTo name first last body ih =>
      funext ints
      rw [intsAfter, intsAfter, IntExpr.eval_congr h, IntExpr.eval_congr h, ih]
  | forBelow name first bound step body ih =>
      funext ints
      rw [intsAfter, intsAfter, IntExpr.eval_congr h, ih]
  | _ => rfl

/-- **The accesses of a statement depend on the place of the thread only.** -/
lemma Stmt.touches_congr (h : env.SamePlace env') (tap : ℤ → ℤ → List Access) (body : Stmt) :
    body.touches env tap = body.touches env' tap := by
  induction body with
  | nop => rfl
  | seq first second ihFirst ihSecond =>
      funext ints
      rw [touches, touches, ihFirst, ihSecond, first.intsAfter_congr h]
  | comment text => rfl
  | int name value =>
      funext ints
      exact value.evaluated_congr h ints
  | array name size init => rfl
  | float name value =>
      funext ints
      exact value.touches_congr h ints
  | set name c value =>
      funext ints
      exact value.touches_congr h ints
  | accumulate name c value =>
      funext ints
      exact value.touches_congr h ints
  | block body ih => exact ih
  | forUpTo name first last body ih =>
      funext ints
      rw [touches, touches, IntExpr.evaluated_congr h, IntExpr.evaluated_congr h,
        IntExpr.eval_congr h, IntExpr.eval_congr h, body.intsAfter_congr h, ih]
  | forBelow name first bound step body ih =>
      funext ints
      rw [touches, touches, IntExpr.evaluated_congr h, IntExpr.eval_congr h,
        body.intsAfter_congr h, ih]
  | callTap x y target args =>
      funext ints
      rw [touches, touches, IntExpr.evaluated_congr h, IntExpr.evaluated_congr h,
        IntExpr.eval_congr h, IntExpr.eval_congr h]
  | setTile plane row column value =>
      funext ints
      rw [touches, touches, IntExpr.evaluated_congr h, IntExpr.evaluated_congr h,
        value.touches_congr h]
  | setDst index value =>
      funext ints
      rw [touches, touches, IntExpr.evaluated_congr h, IntExpr.eval_congr h,
        value.touches_congr h]

lemma IntCond.eval_congr (h : env.SamePlace env') (ints : Ints) (condition : IntCond) :
    condition.eval env ints = condition.eval env' ints := by
  induction condition with
  | ge a b => rw [eval, eval, IntExpr.eval_congr h, IntExpr.eval_congr h]
  | or c d ihc ihd => rw [eval, eval, ihc, ihd]

lemma IntCond.touches_congr (h : env.SamePlace env') (ints : Ints) (condition : IntCond) :
    condition.touches env ints = condition.touches env' ints := by
  induction condition with
  | ge a b => rw [touches, touches, IntExpr.evaluated_congr h, IntExpr.evaluated_congr h]
  | or c d ihc ihd => rw [touches, touches, ihc, ihd, c.eval_congr h]

lemma touchesItems_congr (h : env.SamePlace env') (tap : ℤ → ℤ → List Access)
    (items : List Item) (ints : Ints) :
    touchesItems env tap items ints = touchesItems env' tap items ints := by
  induction items generalizing ints with
  | nil => rfl
  | cons item items ih =>
      cases item with
      | stmt body =>
          rw [touchesItems, touchesItems, body.touches_congr h, body.intsAfter_congr h, ih]
      | returnIf condition =>
          rw [touchesItems, touchesItems, condition.touches_congr h, condition.eval_congr h, ih]

end SamePlace

/-- What the threads of a block store, phase by phase: so far it is among their accesses, and so is
all that the phases to come may touch. -/
lemma runPhases_follows {env : ℕ × ℕ → (TileCell → Option ℚ) → Env} {place : ℕ × ℕ → Env}
    (hplace : ∀ thread tile, (place thread).SamePlace (env thread tile))
    (tap : ℕ × ℕ → ℤ → ℤ → List Access) (accesses : ℕ × ℕ → List Access)
    {order : List TileWrite → List TileWrite} {phases : List (List Item)}
    {tile : TileCell → Option ℚ} {threads : List ((ℕ × ℕ) × ThreadState)} {run : BlockRun}
    (hstored : ∀ t ∈ threads, ∀ store ∈ t.2.dstLog, .dst store.1 ∈ accesses t.1)
    (hahead : ∀ t ∈ threads,
      touchesItems (place t.1) (tap t.1) phases.flatten t.2.ints ⊆ accesses t.1)
    (h : runPhases env order phases tile threads = some run) :
    ∀ store ∈ run.stores, ∃ t ∈ threads, .dst store.1 ∈ accesses t.1 := by
  induction phases generalizing tile threads run with
  | nil =>
      cases h
      intro store hmem
      rcases List.mem_flatMap.mp hmem with ⟨t, ht, hstore⟩
      exact ⟨t, ht, hstored t ht store hstore⟩
  | cons phase rest ih =>
      rcases Option.bind_eq_some_iff.mp h with ⟨done, hdone, hrest⟩
      have hthreads : ∀ t ∈ done, ∃ t₀ ∈ threads, t.1 = t₀.1
          ∧ runItems (env t₀.1 tile) phase t₀.2 = some t.2 := by
        intro t ht
        rcases exists_of_forall₂ (forall₂_of_mapM hdone) t ht with ⟨t₀, ht₀, hturn⟩
        rcases Option.bind_eq_some_iff.mp hturn with ⟨s', hrun, hpair⟩
        obtain rfl := Option.some.inj hpair
        exact ⟨t₀, ht₀, rfl, hrun⟩
      split_ifs at hrest with hlast hreturned
      · -- The last phase: the block has stored all it will.
        subst hlast
        cases hrest
        intro store hmem
        rcases List.mem_flatMap.mp hmem with ⟨t, ht, hstore⟩
        rcases hthreads t ht with ⟨t₀, ht₀, -, hrun⟩
        have htouched := hahead t₀ ht₀
        rw [touchesItems_congr (hplace t₀.1 tile), List.flatten_singleton] at htouched
        exact ⟨t₀, ht₀, runItems_stored hrun (hstored t₀ ht₀) htouched store hstore⟩
      · -- A barrier, which no thread reaches that has returned.
        rcases Option.bind_eq_some_iff.mp hrest with ⟨later, hlater, hpair⟩
        cases hpair
        have hparts : ∀ t ∈ done, (∀ store ∈ t.2.dstLog, .dst store.1 ∈ accesses t.1)
            ∧ touchesItems (place t.1) (tap t.1) rest.flatten t.2.ints ⊆ accesses t.1 := by
          intro t ht
          rcases hthreads t ht with ⟨t₀, ht₀, hname, hrun⟩
          have hrunning : t.2.returned = false := by
            by_contra hnot
            exact hreturned (List.any_eq_true.mpr ⟨t, ht, Bool.eq_true_of_not_eq_false hnot⟩)
          have hsplit := touchesItems_append (tap t₀.1) rest.flatten hrun hrunning
          have htouched := hahead t₀ ht₀
          rw [touchesItems_congr (hplace t₀.1 tile), List.flatten_cons, hsplit] at htouched
          rw [hname]
          refine ⟨runItems_stored hrun (hstored t₀ ht₀)
            (List.Subset.trans (List.subset_append_left _ _) htouched), ?_⟩
          rw [touchesItems_congr (hplace t₀.1 tile)]
          exact List.Subset.trans (List.subset_append_right _ _) htouched
        intro store hmem
        have hfollows := fun hstored' hahead' => ih hstored' hahead' hlater store hmem
        rcases hfollows (List.forall_mem_map.mpr fun t ht => (hparts t ht).1)
          (List.forall_mem_map.mpr fun t ht => (hparts t ht).2) with ⟨_, hmap, hstore⟩
        rcases List.mem_map.mp hmap with ⟨t, ht, rfl⟩
        rcases hthreads t ht with ⟨t₀, ht₀, hname, -⟩
        exact ⟨t₀, ht₀, hname ▸ hstore⟩

lemma StageCode.env_samePlace (stage : StageCode) (launch : Launch) (args : BoundArgs)
    (block thread : ℕ × ℕ) (tile tile' : TileCell → Option ℚ) :
    (stage.env launch args block thread tile).SamePlace
      (stage.env launch args block thread tile') := by
  unfold StageCode.env
  cases stage.tap with
  | none => exact ⟨rfl, rfl, rfl⟩
  | some tap => exact ⟨rfl, rfl, rfl⟩

/-- **A launch follows its accesses**: whatever it stores, one of its threads touches. -/
theorem StageCode.run_follows {stage : StageCode} {launch : Launch} {schedule : Schedule}
    {run : LaunchRun} (h : stage.run launch schedule = some run) :
    ∃ args, stage.kernel.bindArgs launch.args = some args
      ∧ ∀ store ∈ run.stores, ∃ t ∈ Grid.gridThreads launch.grid launch.blockDim,
        .dst store.1 ∈ stage.touches launch args t.1 t.2 := by
  rcases Option.bind_eq_some_iff.mp h with ⟨args, hargs, h⟩
  rcases Option.bind_eq_some_iff.mp h with ⟨blocks, hblocks, h⟩
  cases h
  refine ⟨args, hargs, fun store hmem => ?_⟩
  rcases List.mem_flatMap.mp hmem with ⟨block, hblock, hstore⟩
  rcases exists_of_forall₂ (forall₂_of_mapM hblocks) block hblock with ⟨b, hb, hrun⟩
  have hthread := runPhases_follows
    (fun thread tile => stage.env_samePlace launch args b thread (fun _ => none) tile)
    (fun thread => stage.tapTouches (stage.env launch args b thread fun _ => none) launch)
    (stage.touches launch args b)
    (List.forall_mem_map.mpr fun _ _ _ hmem => absurd hmem List.not_mem_nil)
    (List.forall_mem_map.mpr fun thread _ => List.Subset.refl _) hrun store hstore
  rcases hthread with ⟨_, ht, htouched⟩
  rcases List.mem_map.mp ht with ⟨thread, hthread, rfl⟩
  exact ⟨(b, thread), Grid.mem_gridThreads.mpr ⟨hb, hthread⟩, htouched⟩

/-! ## Statements whose accesses satisfy a predicate -/

/-- The same variables, but for the named ones. -/
def Ints.Agree (names : List IntVar) (ints ints' : Ints) : Prop :=
  ∀ name ∉ names, ints' name = ints name

namespace Ints.Agree

variable {names names' : List IntVar} {ints ints' ints'' : Ints}

lemma refl (names : List IntVar) (ints : Ints) : Ints.Agree names ints ints := fun _ _ => rfl

lemma trans (h : Ints.Agree names ints ints') (h' : Ints.Agree names ints' ints'') :
    Ints.Agree names ints ints'' :=
  fun name hname => (h' name hname).trans (h name hname)

lemma mono (h : Ints.Agree names ints ints') (hsub : names ⊆ names') :
    Ints.Agree names' ints ints' :=
  fun name hname => h name fun hmem => hname (hsub hmem)

lemma update (h : Ints.Agree names ints ints') (name : IntVar) (value : ℤ)
    (hname : name ∈ names) : Ints.Agree names ints (Function.update ints' name value) := by
  intro other hother
  have hne : other ≠ name := by
    rintro rfl
    exact hother hname
  rw [Function.update_of_ne hne]
  exact h other hother

end Ints.Agree

/-- All accesses of the statement satisfy `P`, and the variables behind it satisfy `post`. -/
def Stmt.Within (env : Env) (tap : ℤ → ℤ → List Access) (P : Access → Prop) (body : Stmt)
    (ints : Ints) (post : Ints → Prop) : Prop :=
  (∀ access ∈ body.touches env tap ints, P access) ∧ post (body.intsAfter env ints)

/-- A statement without accesses, that leaves the variables alone. -/
def Stmt.Silent (body : Stmt) : Prop :=
  ∀ env tap ints, body.touches env tap ints = [] ∧ body.intsAfter env ints = ints

namespace Stmt.Within

variable {env : Env} {tap : ℤ → ℤ → List Access} {P : Access → Prop} {ints : Ints}
  {mid post : Ints → Prop}

lemma mono {body : Stmt} (h : body.Within env tap P ints mid)
    (himp : ∀ ints', mid ints' → post ints') : body.Within env tap P ints post :=
  ⟨h.1, himp _ h.2⟩

lemma accesses (post : Ints → Prop) {body : Stmt} (h : body.Within env tap P ints post) :
    ∀ access ∈ body.touches env tap ints, P access := h.1

lemma silent {body : Stmt} (hbody : body.Silent) (h : post ints) :
    body.Within env tap P ints post := by
  rcases hbody env tap ints with ⟨htouches, hafter⟩
  refine ⟨?_, by rwa [hafter]⟩
  rw [htouches]
  exact List.forall_mem_nil _

lemma seq (mid : Ints → Prop) {first second : Stmt} (hfirst : first.Within env tap P ints mid)
    (hsecond : ∀ ints', mid ints' → second.Within env tap P ints' post) :
    (Stmt.seq first second).Within env tap P ints post := by
  rcases hsecond _ hfirst.2 with ⟨htouches, hpost⟩
  exact ⟨List.forall_mem_append.mpr ⟨hfirst.1, htouches⟩, hpost⟩

lemma int {name : IntVar} {value : IntExpr} (h : ∀ access ∈ value.evaluated env ints, P access)
    (hpost : post (Function.update ints name (value.eval env ints))) :
    (Stmt.int name value).Within env tap P ints post := ⟨h, hpost⟩

/-- A statement that evaluates one float. -/
lemma float {body : Stmt} {value : FloatExpr}
    (hbody : body.touches env tap ints = value.touches env ints)
    (hafter : body.intsAfter env ints = ints) (h : ∀ access ∈ value.touches env ints, P access)
    (hpost : post ints) : body.Within env tap P ints post :=
  ⟨by rwa [hbody], by rwa [hafter]⟩

/-- The rule behind both loops. -/
lemma loop {after : ℤ → Ints → Ints} {touched : ℤ → Ints → List Access} {Inv : Ints → Prop}
    (values : List ℤ) (h : Inv ints)
    (hturn : ∀ value ∈ values, ∀ ints, Inv ints →
      (∀ access ∈ touched value ints, P access) ∧ Inv (after value ints)) :
    (∀ access ∈ loopTouches after touched values ints, P access)
      ∧ Inv (values.foldl (fun ints value => after value ints) ints) := by
  induction values generalizing ints with
  | nil => exact ⟨List.forall_mem_nil _, h⟩
  | cons value values ih =>
      rcases hturn value List.mem_cons_self ints h with ⟨hfirst, hnext⟩
      rcases ih hnext fun other hmem => hturn other (List.mem_cons_of_mem _ hmem) with
        ⟨hrest, hlast⟩
      exact ⟨List.forall_mem_append.mpr ⟨hfirst, hrest⟩, hlast⟩

/-- **The rule of the `<=` loop.** -/
theorem forUpTo {name : IntVar} {first last : IntExpr} {body : Stmt} (Inv : Ints → Prop)
    (h : Inv ints) (hfirst : ∀ access ∈ first.evaluated env ints, P access)
    (hlast : ∀ access ∈ last.evaluated env ints, P access)
    (hturn : ∀ value, first.eval env ints ≤ value → value ≤ last.eval env ints → ∀ ints',
      Inv ints' → P (.int value) ∧ P (.int (value + 1))
        ∧ body.Within env tap P (Function.update ints' name value) Inv) :
    (Stmt.forUpTo name first last body).Within env tap P ints Inv := by
  have hhead := List.forall_mem_append.mpr ⟨hfirst, hlast⟩
  refine (loop _ h fun value hvalue ints' hints' => ?_).imp
    (fun htouches => List.forall_mem_append.mpr ⟨hhead, htouches⟩) id
  rcases Cpu.mem_loopValues.mp hvalue with ⟨hlow, hhigh⟩
  rcases hturn value hlow hhigh ints' hints' with ⟨hvalue, hnext, hbody⟩
  exact ⟨List.forall_mem_cons.mpr ⟨hvalue, List.forall_mem_cons.mpr ⟨hnext, hbody.1⟩⟩, hbody.2⟩

/-- **The rule of the striding loop.** -/
theorem forBelow {name : IntVar} {first : IntExpr} {bound step : ℕ} {body : Stmt}
    (Inv : Ints → Prop) (h : Inv ints) (hstep : 0 < step)
    (hfirst : ∀ access ∈ first.evaluated env ints, P access) (hbound : P (.int bound))
    (hincrement : P (.int step))
    (hturn : ∀ value : ℕ, value < bound → (first.eval env ints).toNat ≤ value →
      value % step = (first.eval env ints).toNat % step → ∀ ints',
      Inv ints' → P (.int value) ∧ P (.int (value + step))
        ∧ body.Within env tap P (Function.update ints' name value) Inv) :
    (Stmt.forBelow name first bound step body).Within env tap P ints Inv := by
  have hliterals : ∀ access ∈ [Access.int bound, Access.int step], P access :=
    List.forall_mem_cons.mpr ⟨hbound, List.forall_mem_singleton.mpr hincrement⟩
  have hhead := List.forall_mem_append.mpr ⟨hfirst, hliterals⟩
  refine (loop _ h fun value hvalue ints' hints' => ?_).imp
    (fun htouches => List.forall_mem_append.mpr ⟨hhead, htouches⟩) id
  rcases List.mem_map.mp hvalue with ⟨k, hk, rfl⟩
  rcases (Grid.mem_strideValues hstep).mp hk with ⟨hlt, hle, hmod⟩
  rcases hturn k hlt hle hmod ints' hints' with ⟨hvalue, hnext, hbody⟩
  exact ⟨List.forall_mem_cons.mpr ⟨hvalue, List.forall_mem_cons.mpr ⟨hnext, hbody.1⟩⟩, hbody.2⟩

lemma all {stmts : List Stmt} (h : post ints)
    (hstmts : ∀ body ∈ stmts, ∀ ints, post ints → body.Within env tap P ints post) :
    (Stmt.all stmts).Within env tap P ints post := by
  induction stmts generalizing ints with
  | nil => exact ⟨List.forall_mem_nil _, h⟩
  | cons body stmts ih =>
      exact .seq post (hstmts body List.mem_cons_self ints h) fun ints' hints' =>
        ih hints' fun other hmem => hstmts other (List.mem_cons_of_mem _ hmem)

/-- **The rule of an unrolled loop over the colours.** -/
theorem forColors {colors : ℕ} {emit : ℕ → Stmt} (h : post ints)
    (hemit : ∀ c < colors, ∀ ints, post ints → (emit c).Within env tap P ints post) :
    (Stmt.forColors colors emit).Within env tap P ints post := by
  refine all h fun body hbody => ?_
  rcases List.mem_map.mp hbody with ⟨c, hc, rfl⟩
  exact hemit c (List.mem_range.mp hc)

end Stmt.Within

/-- All accesses of a thread from here on satisfy `P`. -/
def WithinItems (env : Env) (tap : ℤ → ℤ → List Access) (P : Access → Prop) (items : List Item)
    (ints : Ints) : Prop :=
  ∀ access ∈ touchesItems env tap items ints, P access

namespace WithinItems

variable {env : Env} {tap : ℤ → ℤ → List Access} {P : Access → Prop} {items : List Item}
  {ints : Ints} {mid : Ints → Prop}

lemma nil : WithinItems env tap P [] ints := List.forall_mem_nil _

lemma stmt (mid : Ints → Prop) {body : Stmt} (hbody : body.Within env tap P ints mid)
    (hrest : ∀ ints', mid ints' → WithinItems env tap P items ints') :
    WithinItems env tap P (.stmt body :: items) ints :=
  List.forall_mem_append.mpr ⟨hbody.1, hrest _ hbody.2⟩

lemma returnIf {condition : IntCond}
    (hcondition : ∀ access ∈ condition.touches env ints, P access)
    (hrest : condition.eval env ints = false → WithinItems env tap P items ints) :
    WithinItems env tap P (.returnIf condition :: items) ints := by
  refine List.forall_mem_append.mpr ⟨hcondition, ?_⟩
  cases hvalue : condition.eval env ints with
  | true => exact List.forall_mem_nil _
  | false => exact hrest hvalue

end WithinItems

/-! ## Accesses that a statement makes -/

section Member

variable {env : Env} {tap : ℤ → ℤ → List Access} {ints : Ints} {access : Access}

/-- An access of one turn, whatever the turns before have left. -/
lemma mem_loopTouches {after : ℤ → Ints → Ints} {touched : ℤ → Ints → List Access}
    (Inv : Ints → Prop) {values : List ℤ} {value : ℤ} (hvalue : value ∈ values) (h : Inv ints)
    (hafter : ∀ value ints, Inv ints → Inv (after value ints))
    (haccess : ∀ ints, Inv ints → access ∈ touched value ints) :
    access ∈ loopTouches after touched values ints := by
  induction values generalizing ints with
  | nil => cases hvalue
  | cons first rest ih =>
      rcases List.mem_cons.mp hvalue with rfl | hrest
      · exact List.mem_append_left _ (haccess ints h)
      · exact List.mem_append_right _ (ih hrest (hafter first ints h))

lemma mem_touches_all {stmts : List Stmt} {body : Stmt} (hbody : body ∈ stmts)
    (hafter : ∀ other ∈ stmts, ∀ ints, other.intsAfter env ints = ints)
    (h : access ∈ body.touches env tap ints) : access ∈ (Stmt.all stmts).touches env tap ints := by
  induction stmts with
  | nil => cases hbody
  | cons first rest ih =>
      rcases List.forall_mem_cons.mp hafter with ⟨hfirst, hothers⟩
      rcases List.mem_cons.mp hbody with rfl | hrest
      · exact List.mem_append_left _ h
      · refine List.mem_append_right _ ?_
        rw [hfirst]
        exact ih hrest hothers

lemma mem_touches_forColors {colors c : ℕ} {emit : ℕ → Stmt} (hc : c < colors)
    (hafter : ∀ c ints, (emit c).intsAfter env ints = ints)
    (h : access ∈ (emit c).touches env tap ints) :
    access ∈ (Stmt.forColors colors emit).touches env tap ints := by
  refine mem_touches_all (List.mem_map_of_mem (List.mem_range.mpr hc)) (fun other hother => ?_) h
  rcases List.mem_map.mp hother with ⟨c', -, rfl⟩
  exact hafter c'

lemma intsAfter_forColors (env : Env) (colors : ℕ) {emit : ℕ → Stmt}
    (hafter : ∀ c ints, (emit c).intsAfter env ints = ints) (ints : Ints) :
    (Stmt.forColors colors emit).intsAfter env ints = ints := by
  have hall : ∀ stmts : List ℕ,
      (Stmt.all (stmts.map emit)).intsAfter env ints = ints := by
    intro stmts
    induction stmts with
    | nil => rfl
    | cons c rest ih => rw [List.map_cons, Stmt.all, Stmt.intsAfter, hafter, ih]
  exact hall _

end Member

end Cuda

end Imgjit
