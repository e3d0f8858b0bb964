import Imgjit.Core.ChainText
import Imgjit.Cuda.FusionPlan

/-!
# What a program depends on

A parameterized program serves every value of its parameters, and the cache therefore ignores them:
a program that was compiled for one frame is launched for another with other values.  That is right
only if emission does not read a value, in any of the places where it could print one.  One would
have to inspect every emitter for the absence of something; erasing all parameters from the chain
makes an equation of it: the erased key has the same program.

* `Op.erase`, `Stage.erase`, `OpChain.erase` — the same ops with parameter `0`.
* `planStages_erase` — planning looks at the kinds of the ops only.
* `emitStage_erase`, `emitCudaSource_erase` — in parameterized mode, emission does not see the
  difference, emitter by emitter.
* `emitCudaSource_eq_of_beq` — equal keys have the same program, or are refused alike.  On a baked
  key equality compares the parameters as hundredths, which determine them on a parsed chain; on a
  parameterized key both have the same erased key.
-/

namespace Imgjit

/-! ## Erasing parameters -/

/-- The op with parameter `0`. -/
def Op.erase (op : Op) : Op := { op with param := 0 }

/-- The chain with all parameters `0`. -/
def OpChain.erase (chain : OpChain) : OpChain := ⟨chain.ops.map Op.erase⟩

/-- Ops of equal kinds erase to the same op. -/
lemma Op.erase_eq_iff {a b : Op} : a.erase = b.erase ↔ a.kind = b.kind := by
  simp [Op.erase]

namespace Cuda

/-- The planned op with parameter `0`, in its place. -/
def PlannedOp.erase (planned : PlannedOp) : PlannedOp := { planned with op := planned.op.erase }

/-- The stage with all parameters `0`. -/
def Stage.erase (stage : Stage) : Stage where
  prologue := stage.prologue.map PlannedOp.erase
  stencil := stage.stencil.map PlannedOp.erase
  epilogue := stage.epilogue.map PlannedOp.erase

@[simp] lemma PlannedOp.erase_kind (planned : PlannedOp) :
    planned.erase.op.kind = planned.op.kind := rfl
@[simp] lemma PlannedOp.erase_index (planned : PlannedOp) : planned.erase.index = planned.index :=
  rfl

/-! ## The plan -/

lemma Stage.attach_erase (stage : Stage) (planned : PlannedOp) :
    stage.erase.attach planned.erase = (stage.attach planned).erase := by
  simp only [Stage.attach, PlannedOp.erase_kind, Stage.erase, Option.isSome_map]
  split_ifs with hstencil hsome
  · rfl
  · simp only [List.map_append, List.map_cons, List.map_nil]
  · simp only [List.map_append, List.map_cons, List.map_nil]

lemma planStep_erase (stages : List Stage) (planned : PlannedOp) :
    planStep (stages.map Stage.erase) planned.erase = (planStep stages planned).map Stage.erase := by
  have hfresh : ({} : Stage).attach planned.erase = (({} : Stage).attach planned).erase :=
    Stage.attach_erase {} planned
  cases stages with
  | nil =>
      simp only [List.map_nil, planStep, hfresh, List.map_cons]
  | cons current earlier =>
      have hsome : current.erase.stencil.isSome = current.stencil.isSome := Option.isSome_map
      simp only [List.map_cons, planStep, PlannedOp.erase_kind, hsome]
      split_ifs with hopens
      · rw [hfresh, List.map_cons, List.map_cons]
      · rw [Stage.attach_erase, List.map_cons]

lemma foldl_planStep_erase (ops : List PlannedOp) (stages : List Stage) :
    (ops.map PlannedOp.erase).foldl planStep (stages.map Stage.erase)
      = (ops.foldl planStep stages).map Stage.erase := by
  induction ops generalizing stages with
  | nil => rfl
  | cons planned ops ih =>
      rw [List.map_cons, List.foldl_cons, List.foldl_cons, planStep_erase, ih]

lemma planOps_erase (ops : List Op) :
    planOps (ops.map Op.erase) = (planOps ops).map PlannedOp.erase := by
  simp only [planOps, List.zipIdx_map, List.map_map]
  rfl

/-- **The plan of the erased chain** is the erased plan. -/
theorem planStages_erase (chain : OpChain) :
    planStages chain.erase = (planStages chain).map Stage.erase := by
  have hfold := foldl_planStep_erase (planOps chain.ops) []
  rw [List.map_nil] at hfold
  rw [planStages, OpChain.erase, planOps_erase, hfold, planStages, List.map_reverse]

/-! ## The emitters -/

variable {cmath : CMath} {channels colors tileSize : ℕ}

/-- Kinds and indices decide which ops are arguments. -/
lemma paramIndices_erase (ops : List PlannedOp) (parameterized : Bool) :
    paramIndices (ops.map PlannedOp.erase) parameterized = paramIndices ops parameterized := by
  simp only [paramIndices, List.filter_map, List.map_map]
  rfl

lemma emitPointwiseOp_erase (var : FloatVar) (planned : PlannedOp) :
    emitPointwiseOp colors var true planned.erase = emitPointwiseOp colors var true planned := by
  simp only [emitPointwiseOp, PlannedOp.erase_kind, PlannedOp.erase_index, if_true]

lemma emitPointwise_erase (var : FloatVar) (ops : List PlannedOp) :
    emitPointwise colors var true (ops.map PlannedOp.erase) = emitPointwise colors var true ops := by
  induction ops with
  | nil => rfl
  | cons planned ops ih =>
      rw [List.map_cons, emitPointwise, emitPointwise, emitPointwiseOp_erase, ih]

lemma emitTapFunction_erase (channels colors : ℕ) (stage : Stage) (params : List ℕ) :
    emitTapFunction stage.erase channels colors true params
      = emitTapFunction stage channels colors true params := by
  simp only [emitTapFunction, Stage.erase, emitPointwise_erase]

/-- Sobel has no parameter. -/
lemma emitStencilConstants_erase {stencil : Op} (h : (stencil.kind == .kGaussian) = false)
    (hstencil : (opSpec stencil.kind).isStencil = true) :
    emitStencilConstants cmath stencil.erase = emitStencilConstants cmath stencil := by
  have hsobel : stencil.kind = .kSobel := by
    cases hkind : stencil.kind with
    | kSobel => rfl
    | kGaussian =>
        rw [hkind] at h
        cases h
    | _ =>
        rw [hkind] at hstencil
        exact absurd hstencil (by decide)
  simp only [emitStencilConstants, Op.erase, hsobel, if_true]

/-- The body reads the kind of its stencil and nothing else. -/
lemma emitStencilBody_erase (stencil : Op) (radius : ℤ) (tiled runtimeRadius : Bool)
    (tapArgs : List ℕ) :
    emitStencilBody stencil.erase radius colors tiled runtimeRadius tapArgs
      = emitStencilBody stencil radius colors tiled runtimeRadius tapArgs := rfl

/-- **A stage is emitted without its parameters**: its code and its argument list are those of the
erased stage. -/
theorem emitStage_erase {stage : Stage} (hstage : stage.WellFormed) (name : KernelName) :
    emitStage cmath name stage.erase channels colors tileSize true
      = emitStage cmath name stage channels colors tileSize true := by
  rcases stage with ⟨prologue, stencil, epilogue⟩
  cases stencil with
  | none =>
      simp only [emitStage, emitPointwiseStage, Stage.erase, Option.map_none, paramIndices_erase,
        emitPointwise_erase]
  | some stencil =>
      have hkind := hstage.stencil stencil rfl
      have htap := fun params => emitTapFunction_erase channels colors
        ⟨prologue, some stencil, epilogue⟩ params
      simp only [Stage.erase, Option.map_some] at htap
      simp only [emitStage, emitStencilStage, Stage.erase, Option.map_some, paramIndices_erase,
        emitPointwise_erase, htap, PlannedOp.erase_kind, PlannedOp.erase_index, Bool.true_and]
      simp only [PlannedOp.erase]
      rw [emitStencilBody_erase]
      cases hgaussian : stencil.op.kind == .kGaussian with
      | true => simp only [Bool.not_true, Bool.false_eq_true, if_false]
      | false => rw [emitStencilConstants_erase hgaussian hkind]

lemma emitStages_erase {stages : List Stage} (h : ∀ stage ∈ stages, stage.WellFormed) (i : ℕ) :
    emitStages cmath channels colors tileSize true (stages.map Stage.erase) i
      = emitStages cmath channels colors tileSize true stages i := by
  induction stages generalizing i with
  | nil => rfl
  | cons stage stages ih =>
      have hrest := ih (fun stage hmem => h stage (List.mem_cons_of_mem _ hmem)) (i + 1)
      rw [List.map_cons, emitStages, emitStages, emitStage_erase (h stage List.mem_cons_self), hrest]

/-- The header comment elides the values. -/
lemma chainComment_erase (chain : OpChain) :
    chainComment chain.erase true = chainComment chain true := by
  simp only [chainComment, OpChain.erase, Bool.not_true, Bool.false_eq_true, if_false,
    List.foldl_map]
  rfl

/-- **No parameter value reaches a parameterized program.** -/
theorem emitCudaSource_erase (key : KernelKey) (h : key.constants = .kParameterized) :
    emitCudaSource cmath { key with chain := key.chain.erase } = emitCudaSource cmath key := by
  simp only [emitCudaSource, h, planStages_erase, beq_self_eq_true, chainComment_erase,
    emitStages_erase (planStages_wellFormed key.chain)]

/-! ## Equal keys -/

/-- Ops that look alike to a baked key are equal. -/
lemma eq_of_map_view {l l' : List Op} (h : l.map (KernelKey.view true) = l'.map (KernelKey.view true))
    (hl : ∀ op ∈ l, AdmittedOp op) (hl' : ∀ op ∈ l', AdmittedOp op) : l = l' := by
  refine map_inj_on (fun a ha b hb hview => ?_) h
  simp only [KernelKey.view, if_true, Prod.mk.injEq, Option.some.injEq] at hview
  exact eq_of_paramHundredths (hl a ha) (hl' b hb) hview.1 hview.2

/-- Ops that look alike to a parameterized key erase to the same ops. -/
lemma erase_eq_of_map_view {l l' : List Op}
    (h : l.map (KernelKey.view false) = l'.map (KernelKey.view false)) :
    l.map Op.erase = l'.map Op.erase := by
  refine map_eq_of_map_eq (fun a _ b _ hview => ?_) h
  exact Op.erase_eq_iff.mpr (Prod.mk.inj hview).1

/-- **Equal keys have the same program**, or are refused with the same exception. -/
theorem emitCudaSource_eq_of_beq {key key' : KernelKey} (h : key.beq key' = true)
    (hkey : AdmittedChain key.chain) (hkey' : AdmittedChain key'.chain) :
    emitCudaSource cmath key = emitCudaSource cmath key' := by
  rcases key with ⟨⟨ops⟩, channels, tile, tileSize, constants⟩
  rcases key' with ⟨⟨ops'⟩, channels', tile', tileSize', constants'⟩
  rcases (KernelKey.beq_iff _ _).mp h with ⟨hchannels, htile, hsize, hconstants, hops⟩
  simp only at hchannels htile hsize hconstants
  subst hchannels htile hsize hconstants
  cases constants with
  | kBaked =>
      have heq : ops = ops' := eq_of_map_view hops hkey hkey'
      rw [heq]
  | kParameterized =>
      have heq : ops.map Op.erase = ops'.map Op.erase := erase_eq_of_map_view hops
      rw [← emitCudaSource_erase _ rfl,
        ← emitCudaSource_erase ⟨⟨ops'⟩, channels, tile, tileSize, .kParameterized⟩ rfl]
      simp only [OpChain.erase, heq]

end Cuda

end Imgjit
