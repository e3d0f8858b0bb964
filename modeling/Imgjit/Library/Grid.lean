import Mathlib.Data.List.Nodup
import Mathlib.Data.List.ProdSigma
import Mathlib.Data.List.Perm.Basic

/-!
# Work shared out over a grid of threads

A launch runs `grid.1 × grid.2` blocks of `block × block` threads.  This file is about which part of
the work falls to which thread: the plane point a thread stands for, and the items of a list that
threads take in turns.  In both cases the question is whether each part is done, and whether it is
done once; the answer is a permutation between the parts and what the threads do.

**Points of the plane.**  `gridThreads` and `planePoint` are the threads of a launch and their
points.  `map_planePoint_perm`: the points inside a rectangle that the grid reaches around are each
some one thread's.  Threads outside of the rectangle have no point in it, and it does not matter how
many of them there are.

**Striding.**  `strideValues` are the values of `for (k = first; k < bound; k += step)`.
`flatMap_strideValues_perm`: `n` workers striding by `n` from their own index take each item once.
`flatMap_threadStrides_perm` is the same for the threads of a block, numbered row by row.
-/

namespace Grid

/-! ## Points of the plane -/

/-- All points of a rectangle. -/
def points (width height : ℕ) : List (ℕ × ℕ) := List.range width ×ˢ List.range height

lemma mem_points {width height : ℕ} {p : ℕ × ℕ} :
    p ∈ points width height ↔ p.1 < width ∧ p.2 < height := by
  obtain ⟨x, y⟩ := p
  simp only [points, List.mem_product, List.mem_range]

lemma nodup_points (width height : ℕ) : (points width height).Nodup :=
  List.nodup_range.product List.nodup_range

/-- The threads of a launch, as pairs of a block and a thread in it. -/
def gridThreads (grid : ℕ × ℕ) (block : ℕ) : List ((ℕ × ℕ) × (ℕ × ℕ)) :=
  points grid.1 grid.2 ×ˢ points block block

/-- The point a thread stands for. -/
def planePoint (block : ℕ) (thread : (ℕ × ℕ) × (ℕ × ℕ)) : ℕ × ℕ :=
  (thread.1.1 * block + thread.2.1, thread.1.2 * block + thread.2.2)

lemma mem_gridThreads {grid : ℕ × ℕ} {block : ℕ} {t : (ℕ × ℕ) × (ℕ × ℕ)} :
    t ∈ gridThreads grid block ↔ t.1 ∈ points grid.1 grid.2 ∧ t.2 ∈ points block block := by
  obtain ⟨b, t⟩ := t
  simp only [gridThreads, List.mem_product]

/-- Block and thread are quotient and remainder. -/
lemma eq_of_mul_add_eq {block a b i j : ℕ} (hi : i < block) (hj : j < block)
    (h : a * block + i = b * block + j) : a = b ∧ i = j := by
  have hpos : 0 < block := by omega
  have hdiv : (a * block + i) / block = (b * block + j) / block := by rw [h]
  rw [Nat.mul_comm a, Nat.mul_comm b, Nat.mul_add_div hpos, Nat.mul_add_div hpos,
    Nat.div_eq_of_lt hi, Nat.div_eq_of_lt hj] at hdiv
  have hab : a = b := by omega
  subst hab
  exact ⟨rfl, by omega⟩

/-- No two threads stand for the same point. -/
lemma planePoint_inj {grid : ℕ × ℕ} {block : ℕ} {t u : (ℕ × ℕ) × (ℕ × ℕ)}
    (ht : t ∈ gridThreads grid block) (hu : u ∈ gridThreads grid block)
    (h : planePoint block t = planePoint block u) : t = u := by
  simp only [mem_gridThreads, mem_points] at ht hu
  simp only [planePoint, Prod.mk.injEq] at h
  obtain ⟨h1, h1'⟩ := eq_of_mul_add_eq ht.2.1 hu.2.1 h.1
  obtain ⟨h2, h2'⟩ := eq_of_mul_add_eq ht.2.2 hu.2.2 h.2
  exact Prod.ext (Prod.ext h1 h2) (Prod.ext h1' h2')

lemma nodup_map_planePoint (grid : ℕ × ℕ) (block : ℕ) :
    ((gridThreads grid block).map (planePoint block)).Nodup :=
  ((nodup_points _ _).product (nodup_points _ _)).map_on fun _ ht _ hu => planePoint_inj ht hu

/-- **Every point of a rectangle inside the grid is some one thread's.** -/
theorem map_planePoint_perm {grid : ℕ × ℕ} {block width height : ℕ} (hblock : 0 < block)
    (hwidth : width ≤ grid.1 * block) (hheight : height ≤ grid.2 * block) :
    (((gridThreads grid block).map (planePoint block)).filter
      fun p => p.1 < width ∧ p.2 < height).Perm (points width height) := by
  refine (List.perm_ext_iff_of_nodup ((nodup_map_planePoint grid block).filter _)
    (nodup_points width height)).mpr fun p => ?_
  simp only [List.mem_filter, mem_points, decide_eq_true_eq, and_iff_right_iff_imp, List.mem_map]
  rintro ⟨hx, hy⟩
  refine ⟨((p.1 / block, p.2 / block), (p.1 % block, p.2 % block)), ?_, ?_⟩
  · simp only [mem_gridThreads, mem_points]
    exact ⟨⟨Nat.div_lt_of_lt_mul (by rw [Nat.mul_comm]; omega),
      Nat.div_lt_of_lt_mul (by rw [Nat.mul_comm]; omega)⟩, Nat.mod_lt _ hblock, Nat.mod_lt _ hblock⟩
  · simp only [planePoint, Nat.div_add_mod']

/-! ## Striding -/

/-- The values of `for (k = first; k < bound; k += step)`, for a positive `step`. -/
def strideValues (first bound step : ℕ) : List ℕ :=
  (List.range ((bound - first + (step - 1)) / step)).map fun i => first + i * step

lemma mem_strideValues {first bound step k : ℕ} (hstep : 0 < step) :
    k ∈ strideValues first bound step ↔ k < bound ∧ first ≤ k ∧ k % step = first % step := by
  simp only [strideValues, List.mem_map, List.mem_range, Nat.lt_div_iff_mul_lt hstep]
  constructor
  · rintro ⟨i, hi, rfl⟩
    refine ⟨by omega, by omega, ?_⟩
    rw [Nat.add_mul_mod_self_right]
  · rintro ⟨hk, hfirst, hmod⟩
    obtain ⟨i, hi⟩ := Nat.dvd_of_mod_eq_zero (Nat.sub_mod_eq_zero_of_mod_eq hmod)
    rw [Nat.mul_comm] at hi
    exact ⟨i, by omega, by omega⟩

lemma nodup_strideValues {first bound step : ℕ} (hstep : 0 < step) :
    (strideValues first bound step).Nodup := by
  refine List.nodup_range.map_on fun i _ j _ h => ?_
  exact Nat.eq_of_mul_eq_mul_right hstep (by omega)

/-- **Workers that stride by their number take each item once.** -/
theorem flatMap_strideValues_perm (workers bound : ℕ) (hworkers : 0 < workers) :
    ((List.range workers).flatMap fun i => strideValues i bound workers).Perm
      (List.range bound) := by
  refine (List.perm_ext_iff_of_nodup ?_ List.nodup_range).mpr fun k => ?_
  · refine List.nodup_flatMap.mpr ⟨fun i _ => nodup_strideValues hworkers, ?_⟩
    refine List.nodup_range.pairwise_of_forall_ne fun i hi j hj hne k hki hkj => hne ?_
    rw [mem_strideValues hworkers] at hki hkj
    rw [List.mem_range] at hi hj
    rw [← Nat.mod_eq_of_lt hi, ← Nat.mod_eq_of_lt hj, ← hki.2.2, hkj.2.2]
  · simp only [List.mem_flatMap, List.mem_range, mem_strideValues hworkers]
    constructor
    · rintro ⟨i, -, hk, -⟩
      exact hk
    · intro hk
      exact ⟨k % workers, Nat.mod_lt _ hworkers, hk, Nat.mod_le _ _, (Nat.mod_mod _ _).symm⟩

/-- The number of a thread in its block, row by row. -/
def threadNumber (block : ℕ) (thread : ℕ × ℕ) : ℕ := thread.2 * block + thread.1

lemma map_threadNumber_perm (block : ℕ) :
    ((points block block).map (threadNumber block)).Perm (List.range (block * block)) := by
  refine (List.perm_ext_iff_of_nodup ?_ List.nodup_range).mpr fun k => ?_
  · refine (nodup_points block block).map_on fun t ht u hu h => ?_
    rw [mem_points] at ht hu
    obtain ⟨h2, h1⟩ := eq_of_mul_add_eq ht.1 hu.1 h
    exact Prod.ext h1 h2
  · simp only [List.mem_map, mem_points, List.mem_range]
    constructor
    · rintro ⟨t, ⟨h1, h2⟩, rfl⟩
      calc t.2 * block + t.1 < t.2 * block + block := by omega
        _ = (t.2 + 1) * block := (Nat.succ_mul _ _).symm
        _ ≤ block * block := Nat.mul_le_mul_right _ h2
    · intro hk
      have hblock : 0 < block := Nat.pos_of_ne_zero fun h => by simp [h] at hk
      exact ⟨(k % block, k / block), ⟨Nat.mod_lt _ hblock, Nat.div_lt_of_lt_mul hk⟩,
        Nat.div_add_mod' k block⟩

/-- **The threads of a block share out any number of items** by striding from their own number. -/
theorem flatMap_threadStrides_perm {block : ℕ} (bound : ℕ) (hblock : 0 < block) :
    ((points block block).flatMap fun t =>
      strideValues (threadNumber block t) bound (block * block)).Perm (List.range bound) := by
  have hshare := flatMap_strideValues_perm (block * block) bound (Nat.mul_pos hblock hblock)
  have hthreads := (map_threadNumber_perm block).flatMap_right
    fun i => strideValues i bound (block * block)
  rw [List.flatMap_map] at hthreads
  exact hthreads.trans hshare

end Grid
