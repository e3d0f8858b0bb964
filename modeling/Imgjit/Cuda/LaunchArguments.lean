import Imgjit.Cuda.KernelCache

/-!
# Signatures and arguments

Five pieces of codegen and the launcher have to agree on the parameters of a parameterized stage:
the kernel's signature, the tap helper's, the call of the helper, the references in both bodies, and
the list of ops whose values the launcher passes.  No compiler checks all five against each other: a
kernel is launched with an array of pointers, and an argument too few is undefined behaviour.

**Signatures and references.**  `Kernel.declared` is what a signature declares behind `(src, dst,
width, height)`; `Stmt.uses` and `Stmt.tapCalls` are the `p<index>` that a body refers to, and what
it passes on.  `Stage.paramOps` is the list that every one of them is derived from.

**The emitters are well scoped.**  `StageCode.WellScoped` says that references and calls agree with
the signatures.

**What the launcher passes.**  `Passes` says that what a launch passes agrees with what the kernel
declares, in order and by type, and that the values are the frame's own.

**The program.**  `launchArguments_match`: both hold of every stage of a parameterized program,
every op that takes a parameter is passed once, and every gaussian has a stage with a radius and
taps of its own.
-/

namespace Imgjit

open Exceptions

namespace Cuda

/-! ## Signatures -/

/-- A parameter that a kernel's signature declares. -/
inductive KernelParam where
  /-- `int radius` -/
  | radius
  /-- `imgjit_gaussian_taps taps` -/
  | taps
  /-- `float p<index>` -/
  | value (index : ℕ)
  deriving DecidableEq, Repr

/-- The types of a kernel's parameters. -/
inductive ParamType where
  | int
  | gaussianTaps
  | float
  deriving DecidableEq, Repr

/-- The type of a declared parameter. -/
def KernelParam.type : KernelParam → ParamType
  | radius => .int
  | taps => .gaussianTaps
  | value _ => .float

/-- The type of a passed argument. -/
def KernelArg.type : KernelArg → ParamType
  | int _ => .int
  | taps _ => .gaussianTaps
  | float _ => .float

/-- The declarations behind the four every kernel has. -/
def Kernel.declared (kernel : Kernel) : List KernelParam :=
  (if kernel.runtimeRadius then [.radius, .taps] else []) ++ kernel.params.map .value

/-! ## References -/

/-- The arguments `p<index>` an expression reads. -/
def FloatExpr.uses : FloatExpr → List ℕ
  | param index => [index]
  | quantize e => e.uses
  | luma r g b => r.uses ++ g.uses ++ b.uses
  | sqrtf e => e.uses
  | add a b => a.uses ++ b.uses
  | sub a b => a.uses ++ b.uses
  | mul a b => a.uses ++ b.uses
  | ifGe a b yes no => a.uses ++ b.uses ++ yes.uses ++ no.uses
  | _ => []

/-- The parameters that an expression for a byte refers to. -/
def ByteExpr.uses : ByteExpr → List ℕ
  | storeSample e => e.uses
  | src _ => []

/-- The parameters that a statement refers to. -/
def Stmt.uses : Stmt → List ℕ
  | seq first second => first.uses ++ second.uses
  | float _ value => value.uses
  | set _ _ value => value.uses
  | accumulate _ _ value => value.uses
  | block body => body.uses
  | forUpTo _ _ _ body => body.uses
  | forBelow _ _ _ _ body => body.uses
  | setTile _ _ _ value => value.uses
  | setDst _ value => value.uses
  | _ => []

/-- What each call of the tap helper passes behind its fixed arguments. -/
def Stmt.tapCalls : Stmt → List (List ℕ)
  | seq first second => first.tapCalls ++ second.tapCalls
  | block body => body.tapCalls
  | forUpTo _ _ _ body => body.tapCalls
  | forBelow _ _ _ _ body => body.tapCalls
  | callTap _ _ _ args => [args]
  | _ => []

/-- The parameters that an item refers to. -/
def Item.uses : Item → List ℕ
  | stmt s => s.uses
  | returnIf _ => []

/-- The calls of the tap helper in an item, with what they pass on. -/
def Item.tapCalls : Item → List (List ℕ)
  | stmt s => s.tapCalls
  | returnIf _ => []

lemma Stmt.uses_all (stmts : List Stmt) : (Stmt.all stmts).uses = stmts.flatMap Stmt.uses := by
  induction stmts with
  | nil => rfl
  | cons s stmts ih => rw [Stmt.all, Stmt.uses, ih, List.flatMap_cons]

lemma Stmt.tapCalls_all (stmts : List Stmt) :
    (Stmt.all stmts).tapCalls = stmts.flatMap Stmt.tapCalls := by
  induction stmts with
  | nil => rfl
  | cons s stmts ih => rw [Stmt.all, Stmt.tapCalls, ih, List.flatMap_cons]

lemma Stmt.uses_forColors {colors : ℕ} {emit : ℕ → Stmt} {k : ℕ}
    (h : k ∈ (Stmt.forColors colors emit).uses) : ∃ c, k ∈ (emit c).uses := by
  rw [Stmt.forColors, Stmt.uses_all] at h
  rcases List.mem_flatMap.mp h with ⟨s, hs, hk⟩
  rcases List.mem_map.mp hs with ⟨c, -, rfl⟩
  exact ⟨c, hk⟩

lemma Stmt.tapCalls_forColors {colors : ℕ} {emit : ℕ → Stmt} {args : List ℕ}
    (h : args ∈ (Stmt.forColors colors emit).tapCalls) : ∃ c, args ∈ (emit c).tapCalls := by
  rw [Stmt.forColors, Stmt.tapCalls_all] at h
  rcases List.mem_flatMap.mp h with ⟨s, hs, hk⟩
  rcases List.mem_map.mp hs with ⟨c, -, rfl⟩
  exact ⟨c, hk⟩

/-- **References and calls agree with the signatures.** -/
structure StageCode.WellScoped (code : StageCode) : Prop where
  kernel : ∀ phase ∈ code.kernel.phases, ∀ item ∈ phase, ∀ k ∈ item.uses, k ∈ code.kernel.params
  tap : ∀ tap, code.tap = some tap → ∀ k ∈ tap.body.uses, k ∈ tap.params
  /-- Every call passes what the helper declares, in order, and has it to pass. -/
  calls : ∀ phase ∈ code.kernel.phases, ∀ item ∈ phase, ∀ args ∈ item.tapCalls,
    ∃ tap, code.tap = some tap ∧ args = tap.params ∧ ∀ k ∈ args, k ∈ code.kernel.params
  tapCalls : ∀ tap, code.tap = some tap → tap.body.tapCalls = []

/-! ## The emitters are well scoped -/

section Scopes

variable {colors : ℕ} {var : FloatVar} {planned : PlannedOp} {ops : List PlannedOp} {body : Stmt}

lemma mem_paramIndices {k : ℕ} : k ∈ paramIndices ops true
    ↔ ∃ planned ∈ ops, (opSpec planned.op.kind).takesParam = true ∧ planned.index = k := by
  simp [paramIndices, and_assoc]

/-- One op reads its own argument, if it takes one, and calls nothing. -/
lemma emitPointwiseOp_uses (h : emitPointwiseOp colors var true planned = .ok body) :
    (∀ k ∈ body.uses, (opSpec planned.op.kind).takesParam = true ∧ planned.index = k)
      ∧ body.tapCalls = [] := by
  have hcalls : ∀ {emit : ℕ → Stmt}, (∀ c, (emit c).tapCalls = []) →
      (Stmt.forColors colors emit).tapCalls = [] := by
    intro emit hemit
    rw [List.eq_nil_iff_forall_not_mem]
    intro args hargs
    rcases Stmt.tapCalls_forColors hargs with ⟨c, hc⟩
    rw [hemit c] at hc
    exact absurd hc List.not_mem_nil
  unfold emitPointwiseOp at h
  simp only [if_true] at h
  cases hkind : planned.op.kind <;> rw [hkind] at h <;> simp only [reduceCtorEq] at h
  case kGrayscale =>
    split_ifs at h
    · cases h
      exact ⟨fun k hk => absurd hk List.not_mem_nil, rfl⟩
    · cases h
      refine ⟨fun k hk => ?_, ?_⟩
      · simp only [Stmt.uses, Stmt.uses_all, List.flatMap_cons, List.flatMap_nil, FloatExpr.uses,
          List.append_nil, List.nil_append] at hk
        rcases Stmt.uses_forColors hk with ⟨c, hc⟩
        exact absurd hc List.not_mem_nil
      · simp only [Stmt.tapCalls, Stmt.tapCalls_all, List.flatMap_cons, List.flatMap_nil,
          List.append_nil, List.nil_append]
        exact hcalls fun c => rfl
  all_goals
    cases h
    refine ⟨fun k hk => ?_, hcalls fun c => rfl⟩
    rcases Stmt.uses_forColors hk with ⟨c, hc⟩
    simp only [Stmt.uses, FloatExpr.uses, List.nil_append, List.append_nil, List.mem_singleton,
      List.not_mem_nil] at hc
  · exact ⟨rfl, hc.symm⟩
  · exact ⟨rfl, hc.symm⟩

/-- **A run reads the arguments of its own ops.** -/
theorem emitPointwise_uses (h : emitPointwise colors var true ops = .ok body) :
    (∀ k ∈ body.uses, k ∈ paramIndices ops true) ∧ body.tapCalls = [] := by
  induction ops generalizing body with
  | nil =>
      cases h
      exact ⟨fun k hk => absurd hk List.not_mem_nil, rfl⟩
  | cons planned ops ih =>
      rcases bind_eq_ok h with ⟨first, hfirst, h⟩
      rcases bind_eq_ok h with ⟨second, hsecond, h⟩
      cases h
      rcases emitPointwiseOp_uses hfirst with ⟨huses, hcalls⟩
      rcases ih hsecond with ⟨huses', hcalls'⟩
      refine ⟨fun k hk => mem_paramIndices.mpr ?_, by rw [Stmt.tapCalls, hcalls, hcalls']; rfl⟩
      rcases List.mem_append.mp hk with hk | hk
      · exact ⟨planned, List.mem_cons_self, huses k hk⟩
      · rcases mem_paramIndices.mp (huses' k hk) with ⟨later, hlater, hspec⟩
        exact ⟨later, List.mem_cons_of_mem _ hlater, hspec⟩

/-- Loops over the colours that neither read an argument nor call the helper. -/
lemma forColors_silent (colors : ℕ) (emit : ℕ → Stmt)
    (h : ∀ c, (emit c).uses = [] ∧ (emit c).tapCalls = []) :
    (Stmt.forColors colors emit).uses = [] ∧ (Stmt.forColors colors emit).tapCalls = [] := by
  simp only [List.eq_nil_iff_forall_not_mem]
  refine ⟨fun k hk => ?_, fun args hargs => ?_⟩
  · rcases Stmt.uses_forColors hk with ⟨c, hc⟩
    rw [(h c).1] at hc
    exact List.not_mem_nil hc
  · rcases Stmt.tapCalls_forColors hargs with ⟨c, hc⟩
    rw [(h c).2] at hc
    exact List.not_mem_nil hc

/-- A naive stencil body reads no argument itself and passes `tapArgs` to the helper. -/
lemma emitStencilBody_uses (stencil : Op) (radius : ℤ) (runtimeRadius : Bool) (tapArgs : List ℕ) :
    (emitStencilBody stencil radius colors false runtimeRadius tapArgs).uses = []
      ∧ (emitStencilBody stencil radius colors false runtimeRadius tapArgs).tapCalls = [tapArgs] := by
  have hset : ∀ (name : FloatVar) (value : ℕ → FloatExpr), (∀ c, (value c).uses = []) →
      (Stmt.forColors colors fun c => .set name c (value c)).uses = []
        ∧ (Stmt.forColors colors fun c => .set name c (value c)).tapCalls = [] :=
    fun name value hvalue => forColors_silent colors _ fun c => ⟨hvalue c, rfl⟩
  unfold emitStencilBody
  split_ifs with hkind
  · have hacc := forColors_silent colors
      (fun c => .accumulate .acc c (.mul (.scalar .w) (.cell .t c))) fun c => ⟨rfl, rfl⟩
    have hstore := hset .v (fun c => .quantize (.cell .acc c)) fun c => rfl
    simp only [Stmt.uses_all, Stmt.tapCalls_all, List.flatMap_cons, List.flatMap_nil, Stmt.uses,
      Stmt.tapCalls, emitCoordinates, emitFetch, Bool.false_eq_true, if_false, Bool.not_false,
      if_true, FloatExpr.uses, hacc, hstore, List.nil_append, List.append_nil]
    exact ⟨trivial, trivial⟩
  · have hacc := forColors_silent colors
      (fun c => .seq
        (.accumulate .gx c (.mul (.table .gx (.var .k)) (.cell .t c)))
        (.accumulate .gy c (.mul (.table .gy (.var .k)) (.cell .t c)))) fun c => ⟨rfl, rfl⟩
    have hstore := hset .v (fun c => .quantize (.sqrtf
      (.add (.mul (.cell .gx c) (.cell .gx c)) (.mul (.cell .gy c) (.cell .gy c))))) fun c => rfl
    simp only [Stmt.uses_all, Stmt.tapCalls_all, List.flatMap_cons, List.flatMap_nil, Stmt.uses,
      Stmt.tapCalls, emitCoordinates, emitFetch, Bool.false_eq_true, if_false, Bool.not_false,
      if_true, hacc, hstore, List.nil_append, List.append_nil]
    exact ⟨trivial, trivial⟩

/-- The items of a pixel read what its body and its epilogue read. -/
lemma emitPixel_uses {channels : ℕ} {body epilogue : Stmt} {item : Item}
    (hitem : item ∈ emitPixel channels colors body epilogue) :
    (∀ k ∈ item.uses, k ∈ body.uses ∨ k ∈ epilogue.uses)
      ∧ ∀ args ∈ item.tapCalls, args ∈ body.tapCalls ∨ args ∈ epilogue.tapCalls := by
  have hstores := forColors_silent colors
    (fun c => .setDst (.add (.var .i) (.lit c)) (.storeSample (.cell .v c)))
    fun c => ⟨rfl, rfl⟩
  have halpha : ∀ s : Stmt, s = (if channels = 4 then
      .setDst (.add (.var .i) (.lit 3)) (.src (.add (.var .i) (.lit 3))) else .nop) →
      s.uses = [] ∧ s.tapCalls = [] := by
    rintro s rfl
    split_ifs <;> exact ⟨rfl, rfl⟩
  simp only [emitPixel, List.mem_cons, List.not_mem_nil, or_false] at hitem
  rcases hitem with rfl | rfl | rfl | rfl | rfl | rfl | rfl | rfl | rfl
  case inr.inr.inr.inr.inr.inl => exact ⟨fun k hk => .inl hk, fun args hargs => .inl hargs⟩
  case inr.inr.inr.inr.inr.inr.inl => exact ⟨fun k hk => .inr hk, fun args hargs => .inr hargs⟩
  case inr.inr.inr.inr.inr.inr.inr.inl =>
    simp only [Item.uses, Item.tapCalls, hstores]
    exact ⟨fun k hk => absurd hk List.not_mem_nil, fun args hargs => absurd hargs List.not_mem_nil⟩
  case inr.inr.inr.inr.inr.inr.inr.inr =>
    simp only [Item.uses, Item.tapCalls, halpha _ rfl]
    exact ⟨fun k hk => absurd hk List.not_mem_nil, fun args hargs => absurd hargs List.not_mem_nil⟩
  all_goals
    exact ⟨fun k hk => absurd hk List.not_mem_nil, fun args hargs => absurd hargs List.not_mem_nil⟩

end Scopes

/-! ## One stage -/

/-- The ops whose values a stage takes, in the order of its signature. -/
def Stage.paramOps (stage : Stage) : List ℕ :=
  (stage.stencil.toList.filter fun planned => planned.op.kind == .kGaussian).map PlannedOp.index
    ++ (paramIndices stage.prologue true ++ paramIndices stage.epilogue true)

/-- What a parameterized stage is emitted as: its list of ops, and a signature to match. -/
structure EmittedStage (stage : Stage) (code : StageCode) (generated : GeneratedStage) : Prop where
  wellScoped : code.WellScoped
  paramOps : generated.paramOps = stage.paramOps
  params : code.kernel.params = paramIndices stage.prologue true ++ paramIndices stage.epilogue true
  runtimeRadius : code.kernel.runtimeRadius
    = stage.stencil.toList.any fun planned => planned.op.kind == .kGaussian

/-- A pointwise stage reads the parameters of its signature. -/
lemma emitPointwiseStage_wellScoped {name : KernelName} {stage : Stage} {channels colors : ℕ}
    {code : StageCode} {generated : GeneratedStage}
    (h : emitPointwiseStage name stage channels colors true = .ok (code, generated)) :
    code.WellScoped := by
  rcases bind_eq_ok h with ⟨prologue, hprologue, h⟩
  rcases bind_eq_ok h with ⟨epilogue, hepilogue, h⟩
  cases h
  rcases emitPointwise_uses hprologue with ⟨huses, hcalls⟩
  rcases emitPointwise_uses hepilogue with ⟨huses', hcalls'⟩
  have hload := forColors_silent colors
    (fun c => .set .v c (.loadSample (.add (.var .i) (.lit c)))) fun c => ⟨rfl, rfl⟩
  refine ⟨fun phase hphase item hitem k hk => ?_, fun tap htap => ?_,
    fun phase hphase item hitem args hargs => ?_, fun tap htap => ?_⟩
  · rw [List.mem_singleton.mp hphase] at hitem
    rcases (emitPixel_uses hitem).1 k hk with hbody | hepi
    · rw [Stmt.uses, hload.1, List.nil_append] at hbody
      exact List.mem_append_left _ (huses k hbody)
    · exact List.mem_append_right _ (huses' k hepi)
  · cases htap
  · rw [List.mem_singleton.mp hphase] at hitem
    rcases (emitPixel_uses hitem).2 args hargs with hbody | hepi
    · rw [Stmt.tapCalls, hload.2, hcalls] at hbody
      exact absurd hbody List.not_mem_nil
    · rw [hcalls'] at hepi
      exact absurd hepi List.not_mem_nil
  · cases htap

/-- So does a naive stencil stage, whose tap helper takes the values of the prologue. -/
lemma emitStencilStage_wellScoped {cmath : CMath} {name : KernelName} {stage : Stage}
    {stencil : PlannedOp} {channels colors : ℕ} {code : StageCode} {generated : GeneratedStage}
    (h : emitStencilStage cmath name stage stencil channels colors 0 true
      = .ok (code, generated)) : code.WellScoped := by
  rcases bind_eq_ok h with ⟨tap, htap, h⟩
  rcases bind_eq_ok h with ⟨load, hload, h⟩
  rcases bind_eq_ok h with ⟨epilogue, hepilogue, h⟩
  cases h
  have hnone : load = none := by
    cases hload
    rfl
  subst hnone
  rcases bind_eq_ok htap with ⟨prologue, hprologue, htap⟩
  cases htap
  rcases emitPointwise_uses hprologue with ⟨huses, hcalls⟩
  rcases emitPointwise_uses hepilogue with ⟨huses', hcalls'⟩
  have hload := forColors_silent colors
    (fun c => .set .v c (.loadSample (.add (.var .i) (.lit c)))) fun c => ⟨rfl, rfl⟩
  refine ⟨fun phase hphase item hitem k hk => ?_, fun tap htap k hk => ?_,
    fun phase hphase item hitem args hargs => ?_, fun tap htap => ?_⟩
  · rw [List.mem_singleton.mp hphase] at hitem
    rcases (emitPixel_uses hitem).1 k hk with hbody | hepi
    · rw [show decide (0 > 0) = false from rfl, (emitStencilBody_uses _ _ _ _).1] at hbody
      exact absurd hbody List.not_mem_nil
    · exact List.mem_append_right _ (huses' k hepi)
  · cases htap
    simp only [Stmt.uses_all, List.flatMap_cons, List.flatMap_nil, Stmt.uses, hload,
      List.nil_append, List.append_nil] at hk
    exact huses k hk
  · rw [List.mem_singleton.mp hphase] at hitem
    rcases (emitPixel_uses hitem).2 args hargs with hbody | hepi
    · rw [show decide (0 > 0) = false from rfl, (emitStencilBody_uses _ _ _ _).2,
        List.mem_singleton] at hbody
      exact ⟨_, rfl, hbody, fun k hk => List.mem_append_left _ (hbody ▸ hk)⟩
    · rw [hcalls'] at hepi
      exact absurd hepi List.not_mem_nil
  · cases htap
    simp only [Stmt.tapCalls_all, List.flatMap_cons, List.flatMap_nil, Stmt.tapCalls, hload,
      List.nil_append, List.append_nil]
    exact hcalls

/-- **Every emitter draws on the same lists.** -/
theorem emitStage_parameterized {cmath : CMath} {name : KernelName} {stage : Stage}
    {channels colors : ℕ} {code : StageCode} {generated : GeneratedStage}
    (h : emitStage cmath name stage channels colors 0 true = .ok (code, generated)) :
    EmittedStage stage code generated := by
  have hheader := emitStage_header h
  have hruntime := hheader.runtimeRadius
  rw [Bool.true_and] at hruntime
  refine ⟨?_, ?_, hheader.params, ?_⟩
  · unfold emitStage at h
    split at h
    · exact emitPointwiseStage_wellScoped h
    · exact emitStencilStage_wellScoped h
  · rw [hheader.paramOps, hheader.params, hruntime, Stage.paramOps]
    cases stage.stencil with
    | none => rfl
    | some planned =>
        rw [Option.any_some, Option.toList_some, List.filter_singleton]
        cases planned.op.kind == .kGaussian <;> rfl
  · rw [hruntime]
    cases stage.stencil with
    | none => rfl
    | some planned =>
        rw [Option.any_some, Option.toList_some, List.any_cons, List.any_nil, Bool.or_false]

/-! ## What the launcher passes -/

/-- The parameter of an op of the frame. -/
def paramAt (chain : OpChain) (index : ℕ) : ℚ := ((chain.ops[index]?).map Op.param).getD 0

/-- The array behind `taps`: the weights, and zeros to its end. -/
def gaussianTaps (cmath : CMath) (sigma : ℚ) : List ℚ :=
  let weights := Cpu.gaussianWeights1d cmath sigma
  weights ++ List.replicate (kMaxGaussianTaps - weights.length) 0

/-- **What a launch passes is what the kernel declares**, and it comes from `chain`. -/
structure Passes (cmath : CMath) (chain : OpChain) (kernel : Kernel) (paramOps : List ℕ)
    (args : List KernelArg) : Prop where
  types : args.map KernelArg.type = kernel.declared.map KernelParam.type
  bound : ∃ bound, kernel.bindArgs args = some bound
    ∧ (∀ k, bound.params k = if k ∈ kernel.params then (chain.ops[k]?).map Op.param else none)
    ∧ (kernel.runtimeRadius = true → ∃ g op, paramOps.head? = some g ∧ chain.ops[g]? = some op
      ∧ op.kind = .kGaussian ∧ bound.radius = Cpu.gaussianRadius op.param
      ∧ bound.taps = gaussianTaps cmath op.param)

section Launcher

variable {cmath : CMath} {chain : OpChain}

/-- The fold of `stageArguments`. -/
def pushAll (cmath : CMath) (chain : OpChain) (ops : List (ℕ × ℕ)) (locals : StageLocals) :
    Option StageLocals :=
  ops.foldlM (fun locals pair => locals.push cmath chain pair.2 pair.1) locals

/-- Ops with a scalar each: one argument after the other, each with its own place. -/
lemma pushAll_scalars (cmath : CMath) (rest : List ℕ) (k : ℕ) (locals : StageLocals)
    (hrest : ∀ i ∈ rest, ∃ op, chain.ops[i]? = some op ∧ op.kind ≠ .kGaussian)
    (hroom : k + rest.length ≤ locals.scalars.length) :
    ∃ locals', pushAll cmath chain (rest.zipIdx k) locals = some locals'
      ∧ locals'.radius = locals.radius ∧ locals'.taps = locals.taps
      ∧ locals'.arguments = locals.arguments ++ (List.range' k rest.length).map .scalar
      ∧ (∀ p < k, locals'.scalars.getD p 0 = locals.scalars.getD p 0)
      ∧ (List.range' k rest.length).map (fun p => locals'.scalars.getD p 0)
        = rest.map (paramAt chain) := by
  induction rest generalizing k locals with
  | nil => exact ⟨locals, rfl, rfl, rfl, by simp, fun p _ => rfl, rfl⟩
  | cons i rest ih =>
      rcases hrest i List.mem_cons_self with ⟨op, hop, hkind⟩
      have hpush : locals.push cmath chain k i = some { locals with
          scalars := locals.scalars.set k op.param
          arguments := locals.arguments ++ [.scalar k] } := by
        simp only [StageLocals.push, hop, bind, Option.bind, if_neg hkind]
      rw [List.length_cons] at hroom
      rcases ih (k + 1) { locals with
          scalars := locals.scalars.set k op.param
          arguments := locals.arguments ++ [.scalar k] }
        (fun j hj => hrest j (List.mem_cons_of_mem _ hj)) (by rw [List.length_set]; omega) with
        ⟨locals', hfold, hradius, htaps, harguments, hbelow, hvalues⟩
      refine ⟨locals', ?_, hradius, htaps, ?_, fun p hp => ?_, ?_⟩
      · rw [pushAll, List.zipIdx_cons, List.foldlM_cons, hpush]
        exact hfold
      · rw [harguments, List.length_cons, List.range'_succ, List.map_cons, List.append_assoc]
        rfl
      · rw [hbelow p (by omega)]
        simp only [List.getD_eq_getElem?_getD]
        rw [List.getElem?_set_ne (by omega)]
      · rw [List.length_cons, List.range'_succ, List.map_cons, List.map_cons, hvalues]
        have hhere : locals'.scalars.getD k 0 = op.param := by
          rw [hbelow k (by omega)]
          simp only [List.getD_eq_getElem?_getD]
          rw [List.getElem?_set_self (by omega)]
          rfl
        rw [hhere, paramAt, hop]
        rfl

/-- What the driver reads through the scalar pointers. -/
lemma floats_of_values {locals : StageLocals} {places rest : List ℕ}
    (h : places.map (fun p => locals.scalars.getD p 0) = rest.map (paramAt chain)) :
    places.map (locals.value ∘ ArgPointer.scalar)
      = rest.map fun k => KernelArg.float (paramAt chain k) := by
  have hfloats := congrArg (List.map KernelArg.float) h
  rwa [List.map_map, List.map_map] at hfloats

/-- A signature of floats takes floats. -/
lemma bindParams_map (params : List ℕ) (value : ℕ → ℚ) :
    bindParams params (params.map fun k => .float (value k))
      = some fun k => if k ∈ params then some (value k) else none := by
  induction params with
  | nil =>
      simp only [List.map_nil, bindParams, List.not_mem_nil, if_false]
  | cons index params ih =>
      rw [List.map_cons, bindParams, ih]
      simp only [bind, Option.bind]
      congr 1
      funext k
      rcases eq_or_ne k index with rfl | hne
      · rw [Function.update_self, if_pos List.mem_cons_self]
      · rw [Function.update_of_ne hne]
        simp only [List.mem_cons, hne, false_or]

/-- The scalars of a stage, bound to their names. -/
lemma bindParams_scalars {rest : List ℕ}
    (hrest : ∀ i ∈ rest, ∃ op, chain.ops[i]? = some op ∧ op.kind ≠ .kGaussian) :
    bindParams rest (rest.map fun k => .float (paramAt chain k))
      = some fun k => if k ∈ rest then (chain.ops[k]?).map Op.param else none := by
  rw [bindParams_map]
  congr 1
  funext k
  split_ifs with hk
  · rcases hrest k hk with ⟨op, hop, -⟩
    rw [paramAt, hop]
    rfl
  · rfl

/-- A stage of scalars only passes their values. -/
lemma scalarArguments_passes {kernel : Kernel} {generated : GeneratedStage}
    (hruntime : kernel.runtimeRadius = false) (hops : generated.paramOps = kernel.params)
    (hrest : ∀ i ∈ kernel.params, ∃ op, chain.ops[i]? = some op ∧ op.kind ≠ .kGaussian) :
    ∃ args, stageArguments cmath chain generated = some args
      ∧ Passes cmath chain kernel generated.paramOps args := by
  obtain ⟨runtimeRadius, params, launchBounds, tile, phases⟩ := kernel
  simp only at hruntime hops hrest
  subst hruntime
  rcases pushAll_scalars cmath params 0
    ({ scalars := List.replicate params.length 0 } : StageLocals) hrest (by simp) with
    ⟨locals, hfold, -, -, harguments, -, hvalues⟩
  have hargs : stageArguments cmath chain generated
      = some (params.map fun k => .float (paramAt chain k)) := by
    rw [stageArguments, ← pushAll, hops, hfold]
    simp only [bind, Option.bind, harguments, List.nil_append, List.map_map]
    exact congrArg some (floats_of_values hvalues)
  have hbind : Kernel.bindArgs ⟨false, params, launchBounds, tile, phases⟩
      (params.map fun k => .float (paramAt chain k))
      = some { params := fun k => if k ∈ params then (chain.ops[k]?).map Op.param else none } := by
    simp only [Kernel.bindArgs, Bool.false_eq_true, if_false, bindParams_scalars hrest]
    rfl
  refine ⟨_, hargs, ?_, _, hbind, fun k => rfl, fun h => absurd h Bool.false_ne_true⟩
  simp only [Kernel.declared, Bool.false_eq_true, if_false, List.nil_append, List.map_map]
  rfl

/-- A stage around a gaussian passes its radius and its taps, and then the same. -/
lemma gaussianArguments_passes {kernel : Kernel} {generated : GeneratedStage} {g : ℕ} {op : Op}
    (hruntime : kernel.runtimeRadius = true) (hops : generated.paramOps = g :: kernel.params)
    (hrest : ∀ i ∈ kernel.params, ∃ op, chain.ops[i]? = some op ∧ op.kind ≠ .kGaussian)
    (hop : chain.ops[g]? = some op) (hkind : op.kind = .kGaussian) (hsigma : op.param ≤ 4) :
    ∃ args, stageArguments cmath chain generated = some args
      ∧ Passes cmath chain kernel generated.paramOps args := by
  obtain ⟨runtimeRadius, params, launchBounds, tile, phases⟩ := kernel
  simp only at hruntime hops hrest
  subst hruntime
  have hlength : (Cpu.gaussianWeights1d cmath op.param).length ≤ kMaxGaussianTaps := by
    rw [Cpu.length_gaussianWeights1d, kMaxGaussianTaps]
    have hradius := Cpu.gaussianRadius_le hsigma
    omega
  let start : StageLocals := {
    radius := Cpu.gaussianRadius op.param
    taps := gaussianTaps cmath op.param
    scalars := List.replicate generated.paramOps.length 0
    arguments := [.radius, .taps] }
  have hpush : ({ scalars := List.replicate generated.paramOps.length 0 } : StageLocals).push cmath
      chain 0 g = some start := by
    simp only [StageLocals.push, hop, bind, Option.bind, if_pos hkind, if_pos hlength, start,
      gaussianTaps, List.drop_replicate, List.nil_append]
  rcases pushAll_scalars cmath params 1 start hrest (by simp [start, hops]; omega) with
    ⟨locals, hfold, hradius, htaps, harguments, -, hvalues⟩
  have hlocals : pushAll cmath chain generated.paramOps.zipIdx
      { scalars := List.replicate generated.paramOps.length 0 } = some locals := by
    rw [pushAll, hops, List.zipIdx_cons, List.foldlM_cons, ← hops, hpush]
    exact hfold
  have hargs : stageArguments cmath chain generated = some (.int (Cpu.gaussianRadius op.param)
      :: .taps (gaussianTaps cmath op.param) :: params.map fun k => .float (paramAt chain k)) := by
    rw [stageArguments, ← pushAll, hlocals]
    simp only [bind, Option.bind, harguments, start, List.map_cons, List.map_map,
      StageLocals.value, hradius, htaps, List.cons_append, List.nil_append]
    exact congrArg (fun values => some (KernelArg.int (Cpu.gaussianRadius op.param)
      :: .taps (gaussianTaps cmath op.param) :: values)) (floats_of_values hvalues)
  have hbind : Kernel.bindArgs ⟨true, params, launchBounds, tile, phases⟩
      (.int (Cpu.gaussianRadius op.param) :: .taps (gaussianTaps cmath op.param)
        :: params.map fun k => .float (paramAt chain k))
      = some ⟨Cpu.gaussianRadius op.param, gaussianTaps cmath op.param,
        fun k => if k ∈ params then (chain.ops[k]?).map Op.param else none⟩ := by
    simp only [Kernel.bindArgs, if_true, bindParams_scalars hrest]
    rfl
  refine ⟨_, hargs, ?_, _, hbind, fun k => rfl,
    fun _ => ⟨g, op, by rw [hops]; rfl, hop, hkind, rfl, rfl⟩⟩
  simp only [Kernel.declared, if_true, List.map_cons, List.map_map, List.cons_append,
    List.nil_append]
  rfl

/-- **A stage is passed what it declares.** -/
theorem stageArguments_passes {stage : Stage} {code : StageCode} {generated : GeneratedStage}
    (h : EmittedStage stage code generated)
    (hrest : ∀ i ∈ code.kernel.params, ∃ op, chain.ops[i]? = some op ∧ op.kind ≠ .kGaussian)
    (hgaussian : ∀ stencil, stage.stencil = some stencil → stencil.op.kind = .kGaussian →
      ∃ op, chain.ops[stencil.index]? = some op ∧ op.kind = .kGaussian ∧ op.param ≤ 4) :
    ∃ args, stageArguments cmath chain generated = some args
      ∧ Passes cmath chain code.kernel generated.paramOps args := by
  have hruntime := h.runtimeRadius
  have hops := h.paramOps
  rw [Stage.paramOps, ← h.params] at hops
  by_cases hstencil : ∃ stencil, stage.stencil = some stencil ∧ stencil.op.kind = .kGaussian
  · rcases hstencil with ⟨stencil, hstencil, hkind⟩
    rcases hgaussian stencil hstencil hkind with ⟨op, hop, hopkind, hsigma⟩
    refine gaussianArguments_passes ?_ ?_ hrest hop hopkind hsigma
    · rw [hruntime, hstencil]
      simp [hkind]
    · rw [hops, hstencil]
      simp [hkind]
  · have hnone : ∀ stencil ∈ stage.stencil.toList, ¬(stencil.op.kind == .kGaussian) = true :=
      fun stencil hmem hkind =>
        hstencil ⟨stencil, Option.mem_toList.mp hmem, beq_iff_eq.mp hkind⟩
    refine scalarArguments_passes ?_ ?_ hrest
    · rw [hruntime, List.any_eq_false]
      exact hnone
    · rw [hops, List.filter_eq_nil_iff.mpr hnone]
      rfl

end Launcher

/-! ## The program -/

/-- A planned op is the op of the chain at its index. -/
lemma mem_planOps {ops : List Op} {planned : PlannedOp} :
    planned ∈ planOps ops ↔ ops[planned.index]? = some planned.op := by
  rw [planOps, List.mem_map]
  constructor
  · rintro ⟨⟨op, index⟩, hmem, rfl⟩
    exact List.mk_mem_zipIdx_iff_getElem?.mp hmem
  · intro h
    exact ⟨(planned.op, planned.index), List.mk_mem_zipIdx_iff_getElem?.mpr h, rfl⟩

lemma planned_getElem? {chain : OpChain} {stage : Stage} (hstage : stage ∈ planStages chain)
    {planned : PlannedOp} (h : planned ∈ stage.planned) :
    chain.ops[planned.index]? = some planned.op := by
  rw [← mem_planOps, ← planStages_planned]
  exact List.mem_flatMap.mpr ⟨stage, hstage, h⟩

/-- The op at this index takes a parameter. -/
def takesParamAt (chain : OpChain) (index : ℕ) : Bool :=
  (chain.ops[index]?).any fun op => (opSpec op.kind).takesParam

/-- Whether the op at a position is a blur. -/
def isGaussianAt (chain : OpChain) (index : ℕ) : Bool :=
  (chain.ops[index]?).any fun op => op.kind == .kGaussian

/-- A stage takes the values of its own ops, the stencil's first. -/
lemma Stage.WellFormed.paramOps_perm {stage : Stage} (h : stage.WellFormed) :
    stage.paramOps.Perm (paramIndices stage.planned true) := by
  have happend : ∀ ops ops' : List PlannedOp,
      paramIndices (ops ++ ops') true = paramIndices ops true ++ paramIndices ops' true := by
    intro ops ops'
    simp only [paramIndices, if_true, List.filter_append, List.map_append]
  have hstencil : (stage.stencil.toList.filter fun planned =>
      planned.op.kind == .kGaussian).map PlannedOp.index
        = paramIndices stage.stencil.toList true := by
    rw [paramIndices, if_pos rfl]
    congr 1
    refine List.filter_congr fun planned hplanned => ?_
    have hkind := h.stencil planned (Option.mem_toList.mp hplanned)
    cases hop : planned.op.kind <;> rw [hop] at hkind <;>
      first | rfl | exact absurd hkind (by decide)
  rw [Stage.paramOps, hstencil, Stage.planned, happend, happend, ← List.append_assoc,
    ← List.append_assoc]
  exact List.perm_append_comm.append_right _

lemma paramIndices_flatMap (stages : List Stage) :
    paramIndices (stages.flatMap Stage.planned) true
      = stages.flatMap fun stage => paramIndices stage.planned true := by
  simp only [paramIndices, if_true, List.filter_flatMap, List.map_flatMap]

/-- **Every op that takes a parameter is in the plan's lists once.** -/
theorem count_paramOps (chain : OpChain) (index : ℕ) :
    ((planStages chain).flatMap Stage.paramOps).count index
      = if takesParamAt chain index then 1 else 0 := by
  have hperm : ((planStages chain).flatMap Stage.paramOps).Perm
      (paramIndices (planOps chain.ops) true) := by
    rw [← planStages_planned, paramIndices_flatMap]
    exact List.Perm.flatMap_left _ fun stage hstage =>
      (planStages_wellFormed chain stage hstage).paramOps_perm
  have hnodup : (paramIndices (planOps chain.ops) true).Nodup := by
    have hall : ((planOps chain.ops).map PlannedOp.index).Nodup := by
      rw [planOps, List.map_map]
      change ((chain.ops.zipIdx).map Prod.snd).Nodup
      rw [List.zipIdx_map_snd]
      exact List.nodup_range'
    exact hall.sublist (List.filter_sublist.map _)
  rw [hperm.count_eq]
  split_ifs with htakes
  · refine List.count_eq_one_of_mem hnodup (mem_paramIndices.mpr ?_)
    rw [takesParamAt] at htakes
    cases hop : chain.ops[index]? with
    | none =>
        rw [hop] at htakes
        cases htakes
    | some op =>
        rw [hop] at htakes
        exact ⟨⟨op, index⟩, mem_planOps.mpr hop, htakes, rfl⟩
  · rw [List.count_eq_zero]
    intro hmem
    rcases mem_paramIndices.mp hmem with ⟨planned, hplanned, hparam, rfl⟩
    refine htakes ?_
    rw [takesParamAt, mem_planOps.mp hplanned]
    exact hparam

/-- A stage takes at most one gaussian. -/
lemma countP_isGaussianAt {chain : OpChain} {stage : Stage} (hstage : stage ∈ planStages chain) :
    stage.paramOps.countP (isGaussianAt chain) ≤ 1 := by
  have hwell := planStages_wellFormed chain stage hstage
  have hpointwise : ∀ ops : List PlannedOp, Pointwise ops →
      (∀ planned ∈ ops, planned ∈ stage.planned) →
      (paramIndices ops true).countP (isGaussianAt chain) = 0 := by
    intro ops hops hsub
    rw [List.countP_eq_zero]
    intro index hindex hgaussian
    rcases mem_paramIndices.mp hindex with ⟨planned, hplanned, -, rfl⟩
    rw [isGaussianAt, planned_getElem? hstage (hsub planned hplanned)] at hgaussian
    have hkind := hops planned hplanned
    rw [show planned.op.kind = .kGaussian by simpa using hgaussian] at hkind
    exact absurd hkind (by decide)
  have hprologue := hpointwise stage.prologue hwell.prologue fun planned h =>
    List.mem_append_left _ h
  have hepilogue := hpointwise stage.epilogue hwell.epilogue fun planned h =>
    List.mem_append_right _ (List.mem_append_right _ h)
  rw [Stage.paramOps, List.countP_append, List.countP_append, hprologue, hepilogue]
  refine List.countP_le_length.trans ?_
  rw [List.length_map]
  refine (List.length_filter_le _ _).trans ?_
  cases stage.stencil <;> simp

/-- Parameterized constants need naive stencils. -/
lemma naive_of_parameterized {cmath : CMath} {key : KernelKey} {program : GeneratedProgram}
    (h : emitCudaSource cmath key = .ok program) (hparameterized : key.constants = .kParameterized) :
    key.tile = .kNaive := by
  unfold emitCudaSource at h
  iterate 3
    split at h
    · cases h
  rename_i hconstants
  simpa [hparameterized, isSupportedConstants] using hconstants

/-- Keys that are equal agree on the kind of every op. -/
lemma getElem?_of_beq {key key' : KernelKey} (h : key.beq key' = true) {index : ℕ} {op : Op}
    (hop : key.chain.ops[index]? = some op) :
    ∃ op', key'.chain.ops[index]? = some op' ∧ op'.kind = op.kind := by
  rcases (KernelKey.beq_iff _ _).mp h with ⟨-, -, -, -, hviews⟩
  have hview := congrArg (fun views => (views[index]?).map Prod.fst) hviews
  simp only [List.getElem?_map, Option.map_map, hop, Option.map_some] at hview
  rcases Option.map_eq_some_iff.mp hview.symm with ⟨op', hop', hkind⟩
  exact ⟨op', hop', hkind⟩

/-- **A frame passes what a planned stage declares**, also when the stage was compiled for an equal
key with other values. -/
theorem plannedStage_passes {cmath : CMath} {key key' : KernelKey} {stage : Stage}
    {code : StageCode} {generated : GeneratedStage} (hequal : key.beq key' = true)
    (hadmitted : AdmittedChain key'.chain) (hstage : stage ∈ planStages key.chain)
    (hemittedStage : EmittedStage stage code generated) :
    ∃ args, stageArguments cmath key'.chain generated = some args
      ∧ Passes cmath key'.chain code.kernel generated.paramOps args := by
  have hwell := planStages_wellFormed key.chain stage hstage
  refine stageArguments_passes hemittedStage (fun i hi => ?_) fun stencil hstencil hkind => ?_
  · have hscalar : ∃ planned ∈ stage.planned, (opSpec planned.op.kind).isStencil = false
        ∧ planned.index = i := by
      rw [hemittedStage.params] at hi
      rcases List.mem_append.mp hi with hi | hi
      · rcases mem_paramIndices.mp hi with ⟨planned, hplanned, -, hindex⟩
        exact ⟨planned, List.mem_append_left _ hplanned, hwell.prologue planned hplanned, hindex⟩
      · rcases mem_paramIndices.mp hi with ⟨planned, hplanned, -, hindex⟩
        exact ⟨planned, List.mem_append_right _ (List.mem_append_right _ hplanned),
          hwell.epilogue planned hplanned, hindex⟩
    rcases hscalar with ⟨planned, hplanned, hstencil, rfl⟩
    rcases getElem?_of_beq hequal (planned_getElem? hstage hplanned) with ⟨op, hop, hkind⟩
    refine ⟨op, hop, fun hgaussian => ?_⟩
    rw [← hkind, hgaussian] at hstencil
    exact absurd hstencil (by decide)
  · have hplanned : stencil ∈ stage.planned :=
      List.mem_append_right _ (List.mem_append_left _ (Option.mem_toList.mpr hstencil))
    rcases getElem?_of_beq hequal (planned_getElem? hstage hplanned) with ⟨op, hop, hopkind⟩
    have hgaussian := hopkind.trans hkind
    exact ⟨op, hop, hgaussian,
      ((hadmitted op (List.mem_of_getElem? hop)).sigma_mem hgaussian).2⟩

/-- **Signature, body, tap call and launcher agree.**  In every stage of a parameterized program,
both bodies refer to declared parameters only and the tap helper is passed its own in order; a frame
whose key equals the program's passes exactly what the kernel declares, in order and by type, with
the frame's own values; a stage takes at most one gaussian; and every op of the chain that takes a
parameter is passed to one stage, once. -/
theorem launchArguments_match (cmath : CMath) (strtof : List Char → Option ℚ) {text : List Char}
    {key : KernelKey} {program : GeneratedProgram} (config : BackendConfig) (job : FrameJob)
    (hparameterized : key.constants = .kParameterized)
    (hemit : emitCudaSource cmath key = .ok program)
    (hjob : parseOpChain strtof text = .ok job.chain)
    (hequal : key.beq (config.keyFor job.chain job.channels) = true) :
    List.Forall₂ (fun code generated => code.WellScoped
        ∧ (∃ args, stageArguments cmath job.chain generated = some args
          ∧ Passes cmath job.chain code.kernel generated.paramOps args)
        ∧ generated.paramOps.countP (isGaussianAt key.chain) ≤ 1)
      program.source.stages program.stages
      ∧ ∀ index, (program.stages.flatMap GeneratedStage.paramOps).count index
        = if takesParamAt key.chain index then 1 else 0 := by
  have hadmitted := parseOpChain_admitted hjob
  rcases emitCudaSource_ok hemit with ⟨emitted, hemitted, hcodes, hstages⟩
  have hnaive : (if key.tile = .kTiled then key.tileSize.toInt.toNat else 0) = 0 := by
    rw [naive_of_parameterized hemit hparameterized]
    rfl
  rw [hnaive, hparameterized, show (ConstantsMode.kParameterized == .kParameterized) = true from rfl]
    at hemitted
  have hall := emitStages_forall₂ hemitted
  have hspec : ∀ stage ∈ planStages key.chain, ∀ pair : StageCode × GeneratedStage,
      (∃ name, emitStage cmath name stage key.channels.toInt.toNat
        (Cpu.colorChannels key.channels.toInt.toNat) 0 true = .ok pair) →
      pair.2.paramOps = stage.paramOps ∧ pair.1.WellScoped
        ∧ ∃ args, stageArguments cmath job.chain pair.2 = some args
          ∧ Passes cmath job.chain pair.1.kernel pair.2.paramOps args := by
    rintro stage hstage ⟨code, generated⟩ ⟨name, hname⟩
    have hemittedStage := emitStage_parameterized hname
    exact ⟨hemittedStage.paramOps, hemittedStage.wellScoped,
      plannedStage_passes hequal hadmitted hstage hemittedStage⟩
  refine ⟨?_, fun index => ?_⟩
  · rw [hcodes, hstages, List.forall₂_map_left_iff, List.forall₂_map_right_iff, List.forall₂_same]
    intro pair hpair
    rcases exists_of_forall₂ hall pair hpair with ⟨stage, hstage, hname⟩
    rcases hspec stage hstage pair hname with ⟨hops, hscoped, hargs⟩
    exact ⟨hscoped, hargs, hops ▸ countP_isGaussianAt hstage⟩
  · have hflat : (emitted.map Prod.snd).flatMap GeneratedStage.paramOps
        = (planStages key.chain).flatMap Stage.paramOps := by
      rw [List.flatMap_map]
      refine flatMap_of_forall₂ (fun stage pair hpair => ?_) hall
      rcases hpair with ⟨name, hname⟩
      exact (emitStage_parameterized hname).paramOps
    rw [hstages, hflat, count_paramOps]

/-- A blur between a brightness and a threshold. -/
def blurred (brightness sigma threshold : ℚ) : OpChain :=
  ⟨[⟨.kBrightness, brightness⟩, ⟨.kGaussian, sigma⟩, ⟨.kThreshold, threshold⟩]⟩

/-- A frame with other values for the same three ops. -/
def blurredJob : FrameJob := { quarterJob with chain := blurred (1 / 4) (1 / 2) (1 / 4) }

/-- A frame runs a program that was compiled for other values. -/
theorem launchArguments_match_blurred :
    ∃ program, emitCudaSource plainMath
        (parameterizedBackend.keyFor (blurred (1 / 2) (1 / 4) (1 / 2)) 1) = .ok program
      ∧ program.stages.map GeneratedStage.paramOps = [[1, 0, 2]]
      ∧ List.Forall₂ (fun code generated => ∃ args,
          stageArguments plainMath blurredJob.chain generated = some args
          ∧ Passes plainMath blurredJob.chain code.kernel generated.paramOps args)
        program.source.stages program.stages := by
  have hprogram : ∃ program, emitCudaSource plainMath
      (parameterizedBackend.keyFor (blurred (1 / 2) (1 / 4) (1 / 2)) 1) = .ok program
      ∧ program.stages.map GeneratedStage.paramOps = [[1, 0, 2]] := ⟨_, rfl, rfl⟩
  rcases hprogram with ⟨program, hemit, hstages⟩
  have hjob : parseOpChain halfOrQuarter "brightness:0.25,gaussian:0.5,threshold:0.25".toList
      = .ok blurredJob.chain := by
    decide +kernel
  have hmatch := launchArguments_match plainMath halfOrQuarter parameterizedBackend blurredJob rfl
    hemit hjob (by decide)
  exact ⟨program, hemit, hstages, hmatch.1.imp fun code generated hstage => hstage.2.1⟩

end Cuda

end Imgjit
