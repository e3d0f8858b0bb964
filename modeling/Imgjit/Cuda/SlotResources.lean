import Imgjit.Cuda.BackendAccounts

/-!
# The objects of the slots

What a backend makes and destroys for its stream slots, followed object by object.

A slot is a stream, three events, two device buffers and a staging buffer.  The source declares them
as members, so they are made in that order and destroyed in the opposite one, and if one cannot be
made those before it are destroyed on the way out.  Three results need to know what is there in the
middle of all this: that nothing leaks, that new objects are new, and that a recreation may stop
anywhere.  They follow three different properties through the same calls, so the following is done
here, for any property.

* `Keeper` — a property of the objects at hand, newest first, that their making and their
  destruction carry along.
* `Built` — what is known of a slot that has been made.
* `makeStreamSlot_kept` — a slot that is built has all its objects, and one that is not built has
  none left.
-/

namespace Imgjit

open Interaction Cuda

namespace CudaBackend

variable {cmath : CMath} {env : Environment DriverCall DriverAnswer}
  {H : List (Resource × ℕ) → env.State → Prop} {backend : CudaBackend cmath} {e : env.State}
  {held : List (Resource × ℕ)}

/-- What is true of the objects that have been made and not destroyed since. -/
structure Keeper (env : Environment DriverCall DriverAnswer)
    (H : List (Resource × ℕ) → env.State → Prop) : Prop where
  created : ∀ held e resource id e', H held e → env.respond e (.create resource) (.ok id) e' →
    H ((resource, id) :: held) e'
  refused : ∀ held e resource what e', H held e →
    env.respond e (.create resource) (.error what) e' → H held e'
  destroyed : ∀ held e resource id answer e', H ((resource, id) :: held) e →
    env.respond e (.destroy resource id) answer e' → H held e'

/-- How a construction may end: with a value that has `P`, or with `E`. -/
def Built {α : Type} (P : α → env.State → Prop) (E : env.State → Prop)
    (before : CudaBackend cmath) (result : Except Exn α) (after : CudaBackend cmath)
    (e : env.State) : Prop :=
  after = before ∧ match result with
    | .ok value => P value e
    | .error _ => E e

/-- **A member and the members behind it.**  If one of those throws, this one is destroyed. -/
lemma holding_kept {α : Type} {P : α → env.State → Prop} (hkeeper : Keeper env H)
    (h : H held e) {resource : Resource} {rest : ℕ → Method cmath α}
    (hrest : ∀ id e', H ((resource, id) :: held) e' →
      Routine.wp env (rest id) (Built P (H ((resource, id) :: held)) backend) backend e') :
    Routine.wp env (holding resource rest) (Built P (H held) backend) backend e := by
  intro result e₁ hresult
  cases result with
  | ok id =>
      have hmade := hrest id e₁ (hkeeper.created held e resource id e₁ h hresult)
      refine Routine.wp.handled hmade (fun value after e' h' => h') ?_
      rintro error after e₂ ⟨rfl, h₂⟩ answer e₃ hanswer
      exact ⟨rfl, hkeeper.destroyed held e₂ resource id answer e₃ h₂ hanswer⟩
  | error what => exact ⟨rfl, hkeeper.refused held e resource what e₁ h hresult⟩

/-- **A new slot** carries no frame and has all its objects; if it cannot be had, none of them is
left. -/
theorem makeStreamSlot_kept (hkeeper : Keeper env H) (h : H held e) (bytes : UInt64) :
    Routine.wp env (makeStreamSlot bytes)
      (Built (fun slot e' => slot.busy = false ∧ H (resources bytes slot ++ held) e') (H held)
        backend) backend e := by
  refine holding_kept hkeeper h fun stream e₁ h₁ => ?_
  refine holding_kept hkeeper h₁ fun done e₂ h₂ => ?_
  refine holding_kept hkeeper h₂ fun kernelsBegin e₃ h₃ => ?_
  refine holding_kept hkeeper h₃ fun kernelsEnd e₄ h₄ => ?_
  refine holding_kept hkeeper h₄ fun front e₅ h₅ => ?_
  refine holding_kept hkeeper h₅ fun back e₆ h₆ => ?_
  refine holding_kept hkeeper h₆ fun staging e₇ h₇ => ?_
  exact ⟨rfl, rfl, h₇⟩

end CudaBackend

end Imgjit
