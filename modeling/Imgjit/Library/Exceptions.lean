import Mathlib.Logic.Basic

/-!
# What a throwing function may throw

`ThrowsOnly P result` says that an exception in `result` satisfies `P`.  It is carried through a
computation step by step, like a postcondition, and read off at the end.

A function that calls a dozen others may fail in a dozen ways, and most questions are about one of
them: can this exception come up at all?  With a predicate for the exceptions that are allowed, each
callee answers for itself, and the caller's answer is put together from theirs.

* `bind_eq_ok` — what comes out of a step and the rest went through both.
* `ThrowsOnly.ok`, `ThrowsOnly.error` — the two ways to end.
* `ThrowsOnly.bind` — the rule for one step and the rest.
* `ThrowsOnly.mono` — more may be allowed.
* `ThrowsOnly.exists_ok` — where nothing can be thrown, there is a value.
-/

namespace Exceptions

universe u v

variable {ε : Type u} {α : Type v} {β : Type v}

lemma bind_eq_ok {x : Except ε α} {f : α → Except ε β} {b : β} (h : (x >>= f) = .ok b) :
    ∃ a, x = .ok a ∧ f a = .ok b := by
  cases x with
  | error thrown => cases h
  | ok a => exact ⟨a, rfl, h⟩

/-- Every exception `result` may be satisfies `P`. -/
def ThrowsOnly (P : ε → Prop) (result : Except ε α) : Prop :=
  ∀ error, result = .error error → P error

namespace ThrowsOnly

variable {P Q : ε → Prop} {result : Except ε α}

lemma ok (value : α) : ThrowsOnly P (.ok value : Except ε α) := fun _ h => by cases h

lemma error {thrown : ε} (h : P thrown) : ThrowsOnly P (.error thrown : Except ε α) := by
  rintro _ ⟨⟩
  exact h

/-- **One step and the rest.** -/
lemma bind {rest : α → Except ε β} (h : ThrowsOnly P result)
    (hrest : ∀ value, ThrowsOnly P (rest value)) : ThrowsOnly P (result >>= rest) := by
  cases result with
  | ok value => exact hrest value
  | error thrown => exact .error (h thrown rfl)

lemma mono (h : ThrowsOnly P result) (himp : ∀ error, P error → Q error) : ThrowsOnly Q result :=
  fun thrown hthrown => himp thrown (h thrown hthrown)

lemma of_exists_ok (h : ∃ value, result = .ok value) : ThrowsOnly P result := by
  rcases h with ⟨value, rfl⟩
  exact .ok value

/-- **Where nothing can be thrown, there is a value.** -/
lemma exists_ok (h : ThrowsOnly P result) (hnever : ∀ error, ¬P error) :
    ∃ value, result = .ok value := by
  cases result with
  | ok value => exact ⟨value, rfl⟩
  | error thrown => exact absurd (h thrown rfl) (hnever thrown)

end ThrowsOnly

end Exceptions
