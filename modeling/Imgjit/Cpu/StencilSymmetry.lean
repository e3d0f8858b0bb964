import Imgjit.Cpu.Ops
import Mathlib.Algebra.BigOperators.Intervals
import Mathlib.Algebra.Order.Group.Int.Sum
import Mathlib.Data.Int.ConditionallyCompleteOrder

/-!
# The symmetry of the stencils

Mirroring the taps of a stencil, in either axis, or swapping the axes leaves the stored sample
alone.  This is the arithmetic behind the statement that chains commute with mirroring and
transposing an image (`ImageViews.lean`), and it is separate from images: only the taps around one
pixel appear, as a function of an offset.

The two stencils are symmetric for different reasons.  The gaussian weighs a tap by the product of
two equal, even factors, so mirroring reorders a sum and swapping the axes exchanges its two loops.
The two sobel accumulators are not symmetric at all: a mirror image changes the sign of one, and a
transposition changes their places.  Only the sum of their squares is stored, and that stays.

* `Motion` — leave an image alone, mirror it in one axis, or swap the axes; `Motion.offset` is what
  it does to the offset of a tap.
* `gaussianSum_eq_sum` — the two loops of the gaussian as a double sum over a symmetric range.
* `stencilSample_offset` — no motion of the taps changes what a stencil stores.
-/

namespace Imgjit

namespace Cpu

/-! ## Motions -/

/-- What is done to an image as a whole. -/
inductive Motion where
  | still
  | flipX
  | flipY
  | transpose
  deriving DecidableEq, Repr

/-- The offset of a tap after the motion. -/
def Motion.offset : Motion → ℤ → ℤ → ℤ × ℤ
  | still, dx, dy => (dx, dy)
  | flipX, dx, dy => (-dx, dy)
  | flipY, dx, dy => (dx, -dy)
  | transpose, dx, dy => (dy, dx)

/-- The taps, moved. -/
def Motion.taps {α : Type} (m : Motion) (tap : ℤ → ℤ → α) : ℤ → ℤ → α :=
  fun dx dy => tap (m.offset dx dy).1 (m.offset dx dy).2

/-! ## Loops as sums -/

/-- An accumulating loop over a range of offsets. -/
lemma foldl_loopValues (f : ℤ → ℚ) (first last : ℤ) (start : ℚ) :
    (loopValues first last).foldl (fun sum i => sum + f i) start
      = start + ∑ i ∈ Finset.Icc first last, f i := by
  have hnodup : (loopValues first last).Nodup :=
    List.Nodup.map (fun a b h => by simpa using h) List.nodup_range
  have hset : (loopValues first last).toFinset = Finset.Icc first last := by
    ext i
    rw [List.mem_toFinset, mem_loopValues, Finset.mem_Icc]
  have hfold : ∀ (l : List ℤ) (start : ℚ),
      l.foldl (fun sum i => sum + f i) start = start + (l.map f).sum := by
    intro l
    induction l with
    | nil => simp
    | cons i l ih =>
        intro start
        rw [List.foldl_cons, ih, List.map_cons, List.sum_cons, add_assoc]
  rw [hfold, ← List.sum_toFinset f hnodup, hset]

/-- The weight of the tap at distance `d`, in either axis. -/
def tapWeight (weights : List ℚ) (radius d : ℤ) : ℚ := weights.getD (d + radius).toNat 0

/-- **The gaussian as a double sum.** -/
theorem gaussianSum_eq_sum (weights : List ℚ) (radius : ℤ) (tap : ℤ → ℤ → ℚ) :
    gaussianSum weights radius tap
      = ∑ dy ∈ Finset.Icc (-radius) radius, ∑ dx ∈ Finset.Icc (-radius) radius,
          tapWeight weights radius dy * tapWeight weights radius dx * tap dx dy := by
  have hrow : ∀ (sum : ℚ) (dy : ℤ),
      (loopValues (-radius) radius).foldl (fun sum dx =>
          sum + weights.getD (dy + radius).toNat 0 * weights.getD (dx + radius).toNat 0
            * tap dx dy) sum
        = sum + ∑ dx ∈ Finset.Icc (-radius) radius,
            tapWeight weights radius dy * tapWeight weights radius dx * tap dx dy :=
    fun sum dy => foldl_loopValues _ _ _ _
  simp only [gaussianSum, hrow]
  rw [foldl_loopValues, zero_add]

/-- The weights are even. -/
lemma tapWeight_neg (cmath : CMath) (sigma : ℚ) {d : ℤ}
    (hd : d ∈ Finset.Icc (-gaussianRadius sigma) (gaussianRadius sigma)) :
    tapWeight (gaussianWeights1d cmath sigma) (gaussianRadius sigma) (-d)
      = tapWeight (gaussianWeights1d cmath sigma) (gaussianRadius sigma) d := by
  have hvalue : ∀ k ∈ Finset.Icc (-gaussianRadius sigma) (gaussianRadius sigma),
      tapWeight (gaussianWeights1d cmath sigma) (gaussianRadius sigma) k
        = cmath.exp (-(k * k : ℤ) / (2 * sigma * sigma))
          / ((loopValues (-gaussianRadius sigma) (gaussianRadius sigma)).map fun i =>
              cmath.exp (-(i * i : ℤ) / (2 * sigma * sigma))).foldl (· + ·) 0 := by
    intro k hk
    rw [Finset.mem_Icc] at hk
    have hlt : (k + gaussianRadius sigma).toNat
        < (gaussianRadius sigma + 1 - -gaussianRadius sigma).toNat := by omega
    have hindex : -gaussianRadius sigma + ((k + gaussianRadius sigma).toNat : ℤ) = k := by omega
    simp only [tapWeight, gaussianWeights1d, loopValues, List.map_map,
      List.getD_eq_getElem?_getD, List.getElem?_map, List.getElem?_range hlt, Option.map_some,
      Option.getD_some, Function.comp_apply, hindex]
  have hneg : -d ∈ Finset.Icc (-gaussianRadius sigma) (gaussianRadius sigma) := by
    rw [Finset.mem_Icc] at hd ⊢
    omega
  rw [hvalue d hd, hvalue (-d) hneg, neg_mul_neg]

/-- A sum over a symmetric range, read backwards. -/
lemma sum_Icc_neg (f : ℤ → ℚ) (radius : ℤ) :
    ∑ d ∈ Finset.Icc (-radius) radius, f (-d) = ∑ d ∈ Finset.Icc (-radius) radius, f d := by
  refine Finset.sum_equiv (Equiv.neg ℤ) (fun d => ?_) fun d _ => rfl
  rw [Equiv.neg_apply, Finset.mem_Icc, Finset.mem_Icc]
  omega

/-! ## The two stencils -/

lemma gaussianSum_taps (cmath : CMath) (sigma : ℚ) (m : Motion) (tap : ℤ → ℤ → ℚ) :
    gaussianSum (gaussianWeights1d cmath sigma) (gaussianRadius sigma) (m.taps tap)
      = gaussianSum (gaussianWeights1d cmath sigma) (gaussianRadius sigma) tap := by
  rw [gaussianSum_eq_sum, gaussianSum_eq_sum]
  cases m with
  | still => rfl
  | flipX =>
      refine Finset.sum_congr rfl fun dy _ => ?_
      rw [← sum_Icc_neg]
      refine Finset.sum_congr rfl fun dx hdx => ?_
      simp only [Motion.taps, Motion.offset, neg_neg, tapWeight_neg cmath sigma hdx]
  | flipY =>
      rw [← sum_Icc_neg]
      refine Finset.sum_congr rfl fun dy hdy => Finset.sum_congr rfl fun dx _ => ?_
      simp only [Motion.taps, Motion.offset, neg_neg, tapWeight_neg cmath sigma hdy]
  | transpose =>
      rw [Finset.sum_comm]
      refine Finset.sum_congr rfl fun dx _ => Finset.sum_congr rfl fun dy _ => ?_
      simp only [Motion.taps, Motion.offset]
      ring

/-- The two accumulators, written out. -/
lemma sobelSums_eq (tap : ℤ → ℤ → ℚ) :
    sobelSums tap
      = (tap 1 (-1) - tap (-1) (-1) + 2 * (tap 1 0 - tap (-1) 0) + (tap 1 1 - tap (-1) 1),
         tap (-1) 1 - tap (-1) (-1) + 2 * (tap 0 1 - tap 0 (-1)) + (tap 1 1 - tap 1 (-1))) := by
  have hvalues : loopValues (-1) 1 = [-1, 0, 1] := by decide
  simp only [sobelSums, hvalues, List.foldl_cons, List.foldl_nil, Int.reduceNeg, Int.reduceAdd,
    Int.reduceMul, Int.reduceToNat, kGx, kGy, List.getD_cons_zero, List.getD_cons_succ]
  refine Prod.ext ?_ ?_
  · simp only
    ring
  · simp only
    ring

/-- The stored magnitude reads the squares only. -/
lemma sobelSums_taps (m : Motion) (tap : ℤ → ℤ → ℚ) :
    (sobelSums (m.taps tap)).1 * (sobelSums (m.taps tap)).1
        + (sobelSums (m.taps tap)).2 * (sobelSums (m.taps tap)).2
      = (sobelSums tap).1 * (sobelSums tap).1 + (sobelSums tap).2 * (sobelSums tap).2 := by
  cases m <;> simp only [sobelSums_eq, Motion.taps, Motion.offset, neg_neg, neg_zero] <;> ring

/-- **No motion of the taps changes what a stencil stores.** -/
theorem stencilSample_offset (cmath : CMath) {op : Op} (hop : (opSpec op.kind).isStencil = true)
    (m : Motion) (tap : ℤ → ℤ → ℚ) :
    stencilSample cmath op (m.taps tap) = stencilSample cmath op tap := by
  rcases op with ⟨kind, param⟩
  cases kind with
  | kGaussian => simp only [stencilSample, gaussianSum_taps]
  | kSobel => simp only [stencilSample, sobelSums_taps]
  | _ => cases hop

end Cpu

end Imgjit
