import Mathlib.Data.List.Perm.Basic
import Mathlib.Logic.Function.Basic

/-!
# Logs of writes

Several writers fill one memory and leave a log of their writes behind.  When no two writes of the
log name the same cell, every cell holds what its one writer wrote, in whatever order they landed.

Parallel code is often correct for just this reason: nobody synchronizes the writers, and nobody has
to.  The log is a list, so an order of landing is a permutation of it, and a theorem about all
orders is a theorem about all permutations.

* `applyLog` — a memory after the writes of a log, one after the other.
* `applyLog_of_mem`, `applyLog_of_not_mem` — what a cell holds afterwards: the value of its write,
  if there is one, and what it held before otherwise.
-/

namespace WriteLog

variable {κ α : Type*} [DecidableEq κ]

/-- A memory after the writes of a log, one after the other. -/
def applyLog (memory : κ → α) (log : List (κ × α)) : κ → α :=
  log.foldl (fun memory write => Function.update memory write.1 write.2) memory

lemma applyLog_cons (memory : κ → α) (write : κ × α) (log : List (κ × α)) :
    applyLog memory (write :: log) = applyLog (Function.update memory write.1 write.2) log := rfl

/-- A cell that nobody writes keeps its content. -/
theorem applyLog_of_not_mem {memory : κ → α} {log : List (κ × α)} {cell : κ}
    (h : cell ∉ log.map Prod.fst) : applyLog memory log cell = memory cell := by
  induction log generalizing memory with
  | nil => rfl
  | cons write log ih =>
      simp only [List.map_cons, List.mem_cons, not_or] at h
      rw [applyLog_cons, ih h.2, Function.update_of_ne h.1]

/-- **A cell holds what its one writer wrote.** -/
theorem applyLog_of_mem {memory : κ → α} {log : List (κ × α)} {cell : κ} {value : α}
    (hnodup : (log.map Prod.fst).Nodup) (h : (cell, value) ∈ log) :
    applyLog memory log cell = value := by
  induction log generalizing memory with
  | nil => cases h
  | cons write log ih =>
      rw [List.map_cons, List.nodup_cons] at hnodup
      rw [applyLog_cons]
      rcases List.mem_cons.mp h with rfl | h
      · rw [applyLog_of_not_mem hnodup.1, Function.update_self]
      · exact ih hnodup.2 h

end WriteLog
