import Imgjit.Cuda.Codegen
import Mathlib.Data.List.Basic

/-!
# The fusion plan

What `planStages` guarantees about its stages.  The planner is a fold with an open stage at the
head: a pointwise op joins it, and a stencil joins it if there is none yet and opens a new one
otherwise.  The code generator relies on the shape of the result without looking at it again, so the
guarantees are collected here, each by induction along the fold.

* `Stage.planned`, `Stage.ops` — the ops a stage stands for, in chain order.
* `Stage.WellFormed` — pointwise ops around at most one stencil.
* `planStages_wellFormed`, `planStages_ops` — every stage of a plan is well formed, and the stages
  together are the chain, each op once and in its place.
* `planStages_induct` — what holds of the empty plan and is kept by one planned op holds of every
  plan; the other results go through it.
* `planStages_stencil` — either every stage of a plan has a stencil, or the chain has none.
* `OpensWithStencil`, `planStages_tail` — every stage but the first opens with its stencil, so only
  the first has a prologue.
* `planStages_lawful` — the whole law of a plan, the number of its stages included: one for each
  stencil, and one for a chain without any.
-/

namespace Imgjit

namespace Cuda

/-- All ops of a list are pointwise. -/
def Pointwise (ops : List PlannedOp) : Prop :=
  ∀ planned ∈ ops, (opSpec planned.op.kind).isStencil = false

/-- Whether the ops of a run are pointwise can be computed. -/
instance (ops : List PlannedOp) : Decidable (Pointwise ops) :=
  inferInstanceAs (Decidable (∀ planned ∈ ops, (opSpec planned.op.kind).isStencil = false))

namespace Stage

/-- The ops a stage stands for, in chain order. -/
def planned (stage : Stage) : List PlannedOp :=
  stage.prologue ++ (stage.stencil.toList ++ stage.epilogue)

/-- The ops a stage stands for, without their positions. -/
def ops (stage : Stage) : List Op := stage.planned.map PlannedOp.op

/-- Pointwise ops around a stencil; without one, there is nothing behind it. -/
structure WellFormed (stage : Stage) : Prop where
  prologue : Pointwise stage.prologue
  epilogue : Pointwise stage.epilogue
  stencil : ∀ planned, stage.stencil = some planned → (opSpec planned.op.kind).isStencil = true
  epilogue_nil : stage.stencil = none → stage.epilogue = []

/-! ## One op joins a stage -/

lemma wellFormed_empty : ({} : Stage).WellFormed where
  prologue := List.forall_mem_nil _
  epilogue := List.forall_mem_nil _
  stencil := fun _ h => by cases h
  epilogue_nil := fun _ => rfl

lemma pointwise_concat {ops : List PlannedOp} {planned : PlannedOp} (hops : Pointwise ops)
    (h : (opSpec planned.op.kind).isStencil = false) : Pointwise (ops ++ [planned]) := by
  intro planned' hmem
  rcases List.mem_append.mp hmem with hmem | hmem
  · exact hops planned' hmem
  · rw [List.mem_singleton.mp hmem]
    exact h

variable {stage : Stage} {op : PlannedOp}

/-- **An op that may join a stage** keeps it well formed, and goes to its end. -/
theorem WellFormed.attach (h : stage.WellFormed)
    (hroom : (opSpec op.op.kind).isStencil = true → stage.stencil = none) :
    (stage.attach op).WellFormed ∧ (stage.attach op).planned = stage.planned ++ [op] := by
  obtain ⟨prologue, stencil, epilogue⟩ := stage
  obtain ⟨hprologue, hepilogue, hstencil, hnil⟩ := h
  simp only at hprologue hepilogue hstencil hnil hroom
  unfold Stage.attach
  by_cases hkind : (opSpec op.op.kind).isStencil = true
  · have hnone := hroom hkind
    subst hnone
    simp only [hkind, if_true]
    refine ⟨⟨hprologue, hepilogue, ?_, fun h => by cases h⟩, ?_⟩
    · rintro _ ⟨rfl⟩
      exact hkind
    · simp [planned, hnil rfl]
  · rw [Bool.not_eq_true] at hkind
    simp only [hkind, Bool.false_eq_true, if_false]
    cases stencil with
    | none =>
        simp only [Option.isSome_none, Bool.false_eq_true, if_false]
        exact ⟨⟨pointwise_concat hprologue hkind, hepilogue, hstencil, hnil⟩,
          by simp [planned, hnil rfl]⟩
    | some stencil =>
        simp only [Option.isSome_some, if_true]
        exact ⟨⟨hprologue, pointwise_concat hepilogue hkind, hstencil, fun h => by cases h⟩,
          by simp [planned]⟩

end Stage

/-! ## The planning loop -/

/-- The ops of stages that are kept back first. -/
def plannedSoFar (stages : List Stage) : List PlannedOp := stages.reverse.flatMap Stage.planned

/-- One turn of the loop. -/
lemma planStep_spec {stages : List Stage} (h : ∀ stage ∈ stages, stage.WellFormed)
    (op : PlannedOp) : (∀ stage ∈ planStep stages op, stage.WellFormed)
      ∧ plannedSoFar (planStep stages op) = plannedSoFar stages ++ [op] := by
  have hroom : (opSpec op.op.kind).isStencil = true → ({} : Stage).stencil = none := fun _ => rfl
  obtain ⟨hfresh, hplanned⟩ := Stage.wellFormed_empty.attach hroom
  cases stages with
  | nil =>
      refine ⟨fun stage hmem => ?_, ?_⟩
      · rw [List.mem_singleton.mp hmem]
        exact hfresh
      · simp only [planStep, plannedSoFar, List.reverse_singleton, List.flatMap_singleton, hplanned]
        rfl
  | cons current earlier =>
      have hcurrent := h current List.mem_cons_self
      have hearlier : ∀ stage ∈ earlier, stage.WellFormed :=
        fun stage hmem => h stage (List.mem_cons_of_mem _ hmem)
      rw [planStep]
      split_ifs with hopens
      · refine ⟨fun stage hmem => ?_, ?_⟩
        · rcases List.mem_cons.mp hmem with rfl | hmem
          · exact hfresh
          · exact h stage hmem
        · rw [plannedSoFar, List.reverse_cons, List.flatMap_append, List.flatMap_singleton,
            hplanned]
          rfl
      · have hroom : (opSpec op.op.kind).isStencil = true → current.stencil = none := by
          intro hkind
          rw [hkind, Bool.true_and] at hopens
          cases hstencil : current.stencil with
          | none => rfl
          | some stencil => rw [hstencil] at hopens; exact absurd rfl hopens
        obtain ⟨hgrown, hplanned'⟩ := hcurrent.attach hroom
        refine ⟨fun stage hmem => ?_, ?_⟩
        · rcases List.mem_cons.mp hmem with rfl | hmem
          · exact hgrown
          · exact hearlier stage hmem
        · simp only [plannedSoFar, List.reverse_cons, List.flatMap_append, List.flatMap_singleton,
            hplanned', List.append_assoc]

/-- The whole loop. -/
lemma foldl_planStep_spec (ops : List PlannedOp) {stages : List Stage}
    (h : ∀ stage ∈ stages, stage.WellFormed) :
    (∀ stage ∈ ops.foldl planStep stages, stage.WellFormed)
      ∧ plannedSoFar (ops.foldl planStep stages) = plannedSoFar stages ++ ops := by
  induction ops generalizing stages with
  | nil => exact ⟨h, by simp⟩
  | cons op ops ih =>
      obtain ⟨hstep, hplanned⟩ := planStep_spec h op
      obtain ⟨hall, hrest⟩ := ih hstep
      refine ⟨hall, ?_⟩
      rw [List.foldl_cons, hrest, hplanned, List.append_assoc]
      rfl

/-- **Every stage of a plan is well formed.** -/
theorem planStages_wellFormed (chain : OpChain) : ∀ stage ∈ planStages chain, stage.WellFormed :=
  fun stage hmem => (foldl_planStep_spec (planOps chain.ops)
    fun _ hnil => absurd hnil List.not_mem_nil).1 stage (List.mem_reverse.mp hmem)

/-- The plan loses, duplicates and reorders nothing. -/
lemma planStages_planned (chain : OpChain) :
    (planStages chain).flatMap Stage.planned = planOps chain.ops :=
  (foldl_planStep_spec (planOps chain.ops) fun _ hnil => absurd hnil List.not_mem_nil).2

lemma map_op_planOps (ops : List Op) : (planOps ops).map PlannedOp.op = ops := by
  rw [planOps, List.map_map]
  exact List.zipIdx_map_fst 0 ops

/-- **The stages together are the chain.** -/
theorem planStages_ops (chain : OpChain) : (planStages chain).flatMap Stage.ops = chain.ops := by
  rw [← map_op_planOps chain.ops, ← planStages_planned, List.map_flatMap]
  rfl

/-- **Induction over the planning loop**: what every turn keeps holds of the plan, back first. -/
theorem planStages_induct {P : List Stage → Prop} (hnil : P [])
    (hstep : ∀ {stages : List Stage}, P stages → ∀ op : PlannedOp, P (planStep stages op))
    (chain : OpChain) : P (planStages chain).reverse := by
  rw [planStages, List.reverse_reverse]
  exact List.foldlRecOn _ _ hnil fun _ h op _ => hstep h op

/-! ## Stages with and without a stencil -/

/-- A stage without a stencil has no other beside it. -/
def Alone (stages : List Stage) : Prop :=
  stages.length ≤ 1 ∨ ∀ stage ∈ stages, stage.stencil.isSome = true

lemma Stage.attach_stencil (stage : Stage) (op : PlannedOp) :
    (stage.attach op).stencil.isSome
      = ((opSpec op.op.kind).isStencil || stage.stencil.isSome) := by
  unfold Stage.attach
  cases hkind : (opSpec op.op.kind).isStencil with
  | true => rfl
  | false =>
      cases hstencil : stage.stencil with
      | none => simp only [Bool.false_eq_true, if_false, Option.isSome_none, Bool.or_false]
      | some stencil =>
          simp only [Bool.false_eq_true, if_false, Option.isSome_some, if_true, Bool.or_true]

/-- One turn of the loop: a stage is only left behind when it has a stencil. -/
lemma Alone.planStep {stages : List Stage} (h : Alone stages) (op : PlannedOp) :
    Alone (planStep stages op) := by
  cases stages with
  | nil => exact .inl (le_refl 1)
  | cons current earlier =>
      have hearlier : earlier = [] ∨ current.stencil.isSome = true
          ∧ ∀ stage ∈ earlier, stage.stencil.isSome = true := by
        rcases h with hlength | hall
        · left
          exact List.eq_nil_of_length_eq_zero (Nat.le_zero.mp (Nat.le_of_succ_le_succ hlength))
        · right
          exact ⟨hall current List.mem_cons_self,
            fun stage hmem => hall stage (List.mem_cons_of_mem _ hmem)⟩
      rw [Cuda.planStep]
      split_ifs with hopens
      · rw [Bool.and_eq_true] at hopens
        right
        intro stage hmem
        rcases List.mem_cons.mp hmem with rfl | hmem
        · rw [Stage.attach_stencil, hopens.1, Bool.true_or]
        rcases List.mem_cons.mp hmem with rfl | hmem
        · exact hopens.2
        rcases hearlier with rfl | ⟨-, hall⟩
        · cases hmem
        · exact hall stage hmem
      · rcases hearlier with rfl | ⟨hcurrent, hall⟩
        · exact .inl (le_refl 1)
        · right
          intro stage hmem
          rcases List.mem_cons.mp hmem with rfl | hmem
          · rw [Stage.attach_stencil, hcurrent, Bool.or_true]
          · exact hall stage hmem

lemma planStages_alone (chain : OpChain) : Alone (planStages chain) := by
  have hplan : Alone (planStages chain).reverse :=
    planStages_induct (P := Alone) (.inl (Nat.zero_le 1)) Alone.planStep chain
  rcases hplan with hlength | hall
  · left
    rwa [List.length_reverse] at hlength
  · right
    exact fun stage hmem => hall stage (List.mem_reverse.mpr hmem)

/-- Whether the chain has a stencil at all. -/
def hasStencil (ops : List Op) : Bool := ops.any fun op => (opSpec op.kind).isStencil

/-- The stencil ops of a chain. -/
def stencilCount (ops : List Op) : ℕ := ops.countP fun op => (opSpec op.kind).isStencil

lemma stencilCount_pos {ops : List Op} : 0 < stencilCount ops ↔ hasStencil ops = true := by
  rw [stencilCount, List.countP_pos_iff, hasStencil, List.any_eq_true]

lemma stencilCount_of_pointwise {ops : List PlannedOp} (h : Pointwise ops) :
    stencilCount (ops.map PlannedOp.op) = 0 := by
  rw [stencilCount, List.countP_map, List.countP_eq_zero]
  intro planned hmem
  rw [Function.comp_apply, h planned hmem]
  exact Bool.false_ne_true

/-- A stage contributes the one stencil it is built around. -/
lemma Stage.WellFormed.stencilCount {stage : Stage} (h : stage.WellFormed) :
    Cuda.stencilCount stage.ops = stage.stencil.toList.length := by
  have hprologue := stencilCount_of_pointwise h.prologue
  have hepilogue := stencilCount_of_pointwise h.epilogue
  rw [Cuda.stencilCount] at hprologue hepilogue ⊢
  rw [Stage.ops, Stage.planned, List.map_append, List.map_append, List.countP_append,
    List.countP_append, hprologue, hepilogue, Nat.zero_add, Nat.add_zero]
  cases hstencil : stage.stencil with
  | none => rfl
  | some planned =>
      rw [Option.toList_some, List.map_singleton, List.countP_singleton,
        if_pos (h.stencil planned hstencil), List.length_singleton]

lemma Stage.WellFormed.hasStencil {stage : Stage} (h : stage.WellFormed) :
    Cuda.hasStencil stage.ops = stage.stencil.isSome := by
  rw [Bool.eq_iff_iff, ← stencilCount_pos, h.stencilCount]
  cases stage.stencil with
  | none => exact iff_of_false (Nat.lt_irrefl 0) Bool.false_ne_true
  | some planned => exact iff_of_true Nat.one_pos rfl

/-- **Either every stage of a plan has a stencil, or the chain has none.** -/
theorem planStages_stencil (chain : OpChain) :
    ∀ stage ∈ planStages chain, stage.stencil.isSome = hasStencil chain.ops := by
  intro stage hmem
  have hwell := planStages_wellFormed chain stage hmem
  have hops := planStages_ops chain
  rcases planStages_alone chain with hlength | hall
  · have hsingle : planStages chain = [stage] := by
      have hone := le_antisymm hlength (List.length_pos_of_mem hmem)
      rcases List.length_eq_one_iff.mp hone with ⟨other, hother⟩
      rw [hother] at hmem ⊢
      rw [List.mem_singleton.mp hmem]
    rw [hsingle, List.flatMap_singleton] at hops
    rw [← hwell.hasStencil, hops]
  · have hsome := hall stage hmem
    rw [hsome, eq_comm]
    rw [← hwell.hasStencil, hasStencil, List.any_eq_true] at hsome
    rcases hsome with ⟨op, hop, hstencil⟩
    refine List.any_eq_true.mpr ⟨op, ?_, hstencil⟩
    rw [← hops]
    exact List.mem_flatMap.mpr ⟨stage, hmem, hop⟩

/-! ## The stages behind the first -/

/-- Behind the first stage, a stage opens with its stencil. -/
def OpensWithStencil (stage : Stage) : Prop := stage.prologue = [] ∧ stage.stencil.isSome = true

lemma opensWithStencil_fresh {op : PlannedOp} (h : (opSpec op.op.kind).isStencil = true) :
    OpensWithStencil (({} : Stage).attach op) := by
  constructor
  · rw [Stage.attach, if_pos h]
  · rw [Stage.attach_stencil, h, Bool.true_or]

/-- With its stencil in place, a stage takes further ops behind it only. -/
lemma OpensWithStencil.attach {stage : Stage} (h : OpensWithStencil stage) (op : PlannedOp) :
    OpensWithStencil (stage.attach op) := by
  obtain ⟨hprologue, hstencil⟩ := h
  constructor
  · unfold Stage.attach
    split_ifs
    · exact hprologue
    · exact hprologue
  · rw [Stage.attach_stencil, hstencil, Bool.or_true]

/-- One turn of the loop.  The stages are kept back first, so the first stage is the last here. -/
lemma opensWithStencil_planStep {stages : List Stage}
    (h : ∀ stage ∈ stages.dropLast, OpensWithStencil stage) (op : PlannedOp) :
    ∀ stage ∈ (planStep stages op).dropLast, OpensWithStencil stage := by
  cases stages with
  | nil => exact fun _ hmem => absurd hmem List.not_mem_nil
  | cons current earlier =>
      rw [planStep]
      split_ifs with hopens
      · rw [Bool.and_eq_true] at hopens
        rw [List.dropLast_cons_cons]
        intro stage hmem
        rcases List.mem_cons.mp hmem with rfl | hmem
        · exact opensWithStencil_fresh hopens.1
        · exact h stage hmem
      · cases earlier with
        | nil => exact fun _ hmem => absurd hmem List.not_mem_nil
        | cons next earlier =>
            rw [List.dropLast_cons_cons] at h ⊢
            intro stage hmem
            rcases List.mem_cons.mp hmem with rfl | hmem
            · exact (h current List.mem_cons_self).attach op
            · exact h stage (List.mem_cons_of_mem _ hmem)

/-- **Only the first stage can have a prologue, and only the first can lack a stencil.** -/
theorem planStages_tail (chain : OpChain) :
    ∀ stage ∈ (planStages chain).tail, OpensWithStencil stage := by
  intro stage hmem
  have hplan : ∀ stage ∈ (planStages chain).reverse.dropLast, OpensWithStencil stage :=
    planStages_induct (P := fun stages => ∀ stage ∈ stages.dropLast, OpensWithStencil stage)
      (fun _ hnil => absurd hnil List.not_mem_nil) opensWithStencil_planStep chain
  rw [List.dropLast_reverse] at hplan
  exact hplan stage (List.mem_reverse.mpr hmem)

/-! ## How many stages -/

/-- The chain has as many stencils as its stages together. -/
lemma stencilCount_planStages (chain : OpChain) : stencilCount chain.ops
    = ((planStages chain).map fun stage => stage.stencil.toList.length).sum := by
  rw [← planStages_ops chain, stencilCount, List.countP_flatMap]
  refine congrArg List.sum (List.map_congr_left fun stage hmem => ?_)
  exact (planStages_wellFormed chain stage hmem).stencilCount

lemma planStages_eq_nil {chain : OpChain} : planStages chain = [] ↔ chain.ops = [] := by
  constructor
  · intro h
    rw [← planStages_ops chain, h, List.flatMap_nil]
  · intro h
    rw [planStages, h]
    rfl

/-- With a stencil in the chain, one stage for each; without one, a single stage. -/
theorem planStages_length (chain : OpChain) : (planStages chain).length
    = if chain.ops = [] then 0 else max 1 (stencilCount chain.ops) := by
  split_ifs with hempty
  · rw [planStages_eq_nil.mpr hempty, List.length_nil]
  have hpos : 0 < (planStages chain).length :=
    List.length_pos_iff.mpr (mt planStages_eq_nil.mp hempty)
  cases hstencil : hasStencil chain.ops with
  | true =>
      have hone : ∀ stage ∈ planStages chain, stage.stencil.toList.length = 1 := by
        intro stage hmem
        have hsome := (planStages_stencil chain stage hmem).trans hstencil
        obtain ⟨planned, hplanned⟩ := Option.isSome_iff_exists.mp hsome
        rw [hplanned, Option.toList_some, List.length_singleton]
      have hcount : stencilCount chain.ops = (planStages chain).length := by
        rw [stencilCount_planStages, List.map_congr_left hone, List.map_const',
          List.sum_replicate_nat, Nat.mul_one]
      rw [hcount, max_eq_right hpos]
  | false =>
      have hcount : stencilCount chain.ops = 0 := by
        rw [← Nat.le_zero, ← not_lt, stencilCount_pos, hstencil]
        exact Bool.false_ne_true
      rw [hcount, max_eq_left (Nat.zero_le 1)]
      rcases planStages_alone chain with hle | hall
      · exact le_antisymm hle hpos
      · -- A stage with a stencil would be a stencil of the chain.
        obtain ⟨stage, hmem⟩ := List.exists_mem_of_length_pos hpos
        have hsome := hall stage hmem
        rw [planStages_stencil chain stage hmem, hstencil] at hsome
        exact absurd hsome Bool.false_ne_true

/-! ## The law of a plan -/

lemma map_index_planOps (ops : List Op) :
    (planOps ops).map PlannedOp.index = List.range ops.length := by
  rw [planOps, List.map_map, List.range_eq_range']
  exact List.zipIdx_map_snd 0 ops

/-- What a list of stages is for the ops of a chain: the ops themselves, each with its position,
cut in front of every stencil but the first. -/
structure LawfulPlan (ops : List Op) (stages : List Stage) : Prop where
  /-- Nothing is lost, duplicated or reordered. -/
  ops_eq : (stages.flatMap Stage.planned).map PlannedOp.op = ops
  index_eq : (stages.flatMap Stage.planned).map PlannedOp.index = List.range ops.length
  wellFormed : ∀ stage ∈ stages, stage.WellFormed
  follows : ∀ stage ∈ stages.tail, OpensWithStencil stage
  length_eq : stages.length = if ops = [] then 0 else max 1 (stencilCount ops)

/-- **Every plan is lawful.** -/
theorem planStages_lawful (chain : OpChain) : LawfulPlan chain.ops (planStages chain) where
  ops_eq := by rw [planStages_planned, map_op_planOps]
  index_eq := by rw [planStages_planned, map_index_planOps]
  wellFormed := planStages_wellFormed chain
  follows := planStages_tail chain
  length_eq := planStages_length chain

end Cuda

end Imgjit
