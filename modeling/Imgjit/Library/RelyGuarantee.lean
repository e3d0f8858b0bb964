import Mathlib.Data.List.Infix
import Mathlib.Logic.Function.Basic
import Mathlib.Logic.Relation
import Mathlib.Order.Defs.Unbundled

/-!
# Queues of operations on one memory

Several queues work on the same memory.  Each is served in its own order; operations of different
queues come in any order, and whoever else may write to the memory does so in between.  A device
with several streams is of this kind, and so are threads with work lists.

The interleavings are many and are never enumerated.  Each queue is judged by itself, against a
relation that says what the others may do to the memory, and it promises in turn what it does; if
the promises of each are what the others rely on, all of them may run together.

* `Machine` — operations, where they are defined, and what they do; an operation that is not defined
  may do anything.
* `Machine.Leads` — what a queue does when the others keep to `rely`: all its operations are
  defined, each changes the memory as `guarantee` allows, and in the end `Q` holds.
* `Machine.Works` — some of the work gets done.
* `Works.leads` — the parallel rule: queues whose guarantees are what the others rely on do not
  disturb each other, and no undefined operation is ever performed.
-/

namespace RelyGuarantee

universe u v w

/-- Operations on a memory: where each may be performed, and what it may make of the memory. -/
structure Machine (Op : Type u) (Mem : Type v) where
  Defined : Op → Mem → Prop
  effect : Op → Mem → Mem → Prop

namespace Machine

variable {Op : Type u} {Mem : Type v} (machine : Machine Op Mem)

/-- One operation. -/
def step (op : Op) (m m' : Mem) : Prop := machine.Defined op m → machine.effect op m m'

/-- A queue of operations, from its front to its end. -/
def Leads (rely guarantee : Mem → Mem → Prop) (Q : Mem → Prop) : List Op → Mem → Prop
  | [], m => ∀ m', rely m m' → Q m'
  | op :: rest, m => ∀ m', rely m m' → machine.Defined op m' ∧ ∀ m'', machine.effect op m' m'' →
      guarantee m' m'' ∧ Leads rely guarantee Q rest m''

/-! ## One queue -/

section Queue

variable {machine} {rely guarantee : Mem → Mem → Prop} {Q R : Mem → Prop} {l l' : List Op}
  {m m' : Mem} {op : Op}

/-- What the others may do is allowed for. -/
lemma Leads.stable [IsTrans Mem rely] (h : machine.Leads rely guarantee Q l m) (hm : rely m m') :
    machine.Leads rely guarantee Q l m' := by
  cases l with
  | nil => exact fun m'' hm' => h m'' (IsTrans.trans _ _ _ hm hm')
  | cons op rest => exact fun m'' hm' => h m'' (IsTrans.trans _ _ _ hm hm')

/-- A queue that has come to its end. -/
lemma Leads.ended [Std.Refl rely] (h : machine.Leads rely guarantee Q [] m) : Q m :=
  h m (Std.Refl.refl m)

lemma Leads.defined [Std.Refl rely] (h : machine.Leads rely guarantee Q (op :: l) m) :
    machine.Defined op m := (h m (Std.Refl.refl m)).1

/-- **One operation is performed.** -/
lemma Leads.step [Std.Refl rely] (h : machine.Leads rely guarantee Q (op :: l) m)
    (hstep : machine.step op m m') : guarantee m m' ∧ machine.Leads rely guarantee Q l m' := by
  rcases h m (Std.Refl.refl m) with ⟨hdefined, hrest⟩
  exact hrest m' (hstep hdefined)

lemma Leads.mono (h : machine.Leads rely guarantee Q l m) (hQR : ∀ m, Q m → R m) :
    machine.Leads rely guarantee R l m := by
  induction l generalizing m with
  | nil => exact fun m' hm => hQR m' (h m' hm)
  | cons op rest ih =>
      intro m' hm
      rcases h m' hm with ⟨hdefined, hrest⟩
      exact ⟨hdefined, fun m'' hm' => ⟨(hrest m'' hm').1, ih (hrest m'' hm').2⟩⟩

/-- The others may be trusted with more, and less may be promised. -/
lemma Leads.weaken {rely' guarantee' : Mem → Mem → Prop}
    (h : machine.Leads rely guarantee Q l m) (hrely : ∀ m m', rely' m m' → rely m m')
    (hguarantee : ∀ m m', guarantee m m' → guarantee' m m') :
    machine.Leads rely' guarantee' Q l m := by
  induction l generalizing m with
  | nil => exact fun m' hm => h m' (hrely m m' hm)
  | cons op rest ih =>
      intro m' hm
      rcases h m' (hrely m m' hm) with ⟨hdefined, hrest⟩
      exact ⟨hdefined, fun m'' hm' =>
        ⟨hguarantee m' m'' (hrest m'' hm').1, ih (hrest m'' hm').2⟩⟩

/-- One operation in front, by what is known before it. -/
lemma Leads.cons {P : Mem → Prop} (hstable : ∀ m', rely m m' → P m')
    (hdefined : ∀ m, P m → machine.Defined op m)
    (heffect : ∀ m m', P m → machine.effect op m m' →
      guarantee m m' ∧ machine.Leads rely guarantee Q l m') :
    machine.Leads rely guarantee Q (op :: l) m :=
  fun m' hm => ⟨hdefined m' (hstable m' hm), fun m'' => heffect m' m'' (hstable m' hm)⟩

/-- The front part of a queue. -/
theorem Leads.front [IsTrans Mem rely] (h : machine.Leads rely guarantee Q (l ++ l') m) :
    machine.Leads rely guarantee (machine.Leads rely guarantee Q l') l m := by
  induction l generalizing m with
  | nil => exact fun m' hm => Leads.stable h hm
  | cons op rest ih =>
      intro m' hm
      rcases h m' hm with ⟨hdefined, hrest⟩
      exact ⟨hdefined, fun m'' hm' => ⟨(hrest m'' hm').1, ih (hrest m'' hm').2⟩⟩

/-- The operations of the front part are defined, whatever becomes of the rest. -/
lemma Leads.safe [IsTrans Mem rely] (h : machine.Leads rely guarantee Q (l ++ l') m) :
    machine.Leads rely guarantee (fun _ => True) l m :=
  h.front.mono fun _ _ => trivial

end Queue

/-! ## Several queues -/

variable {ι : Type w} [DecidableEq ι]

/-- Some of the work gets done, each queue from its front; `outside` is what may be written besides.
-/
inductive Works (outside : Mem → Mem → Prop) : (ι → List Op) → Mem → (ι → List Op) → Mem → Prop
  | rest {q : ι → List Op} {m : Mem} : Works outside q m q m
  | other {q q' : ι → List Op} {m m' m'' : Mem} :
      outside m m' → Works outside q m' q' m'' → Works outside q m q' m''
  | perform {q q' : ι → List Op} {m m' m'' : Mem} {i : ι} {op : Op} {l : List Op} :
      q i = op :: l → machine.step op m m' → Works outside (Function.update q i l) m' q' m'' →
      Works outside q m q' m''

/-- What a queue guarantees is what the others rely on. -/
structure Rules (rely guarantee : ι → Mem → Mem → Prop) (outside : Mem → Mem → Prop) : Prop where
  refl : ∀ i, Std.Refl (rely i)
  trans : ∀ i, IsTrans Mem (rely i)
  outside : ∀ i m m', outside m m' → rely i m m'
  apart : ∀ i j m m', i ≠ j → guarantee i m m' → rely j m m'

section Queues

variable {machine} {outside : Mem → Mem → Prop} {q q' : ι → List Op} {m m' : Mem}

/-- Queues get shorter at their fronts only. -/
theorem Works.suffix (h : machine.Works outside q m q' m') (i : ι) : q' i <:+ q i := by
  induction h with
  | rest => exact List.suffix_refl _
  | other _ _ ih => exact ih
  | @perform q q' m m' m'' j op l hfront _ _ ih =>
      refine ih.trans ?_
      by_cases hi : i = j
      · subst hi
        rw [Function.update_self, hfront]
        exact List.suffix_cons op l
      · rw [Function.update_of_ne hi]

/-- Work upon work. -/
theorem Works.trans {q'' : ι → List Op} {m'' : Mem} (h : machine.Works outside q m q' m')
    (h' : machine.Works outside q' m' q'' m'') : machine.Works outside q m q'' m'' := by
  induction h with
  | rest => exact h'
  | other hother _ ih => exact .other hother (ih h')
  | perform hfront hstep _ ih => exact .perform hfront hstep (ih h')

/-- **The parallel rule.**  Each queue leads to its own end, with `tail` still to come behind it; so
it does after some of the work has been done, and the memory has changed only as the queues
guarantee, or as others may write to it. -/
theorem Works.leads {rely guarantee : ι → Mem → Mem → Prop}
    (hrules : Rules rely guarantee outside) {Q : ι → Mem → Prop} {tail : ι → List Op}
    (h : machine.Works outside q m q' m')
    (hleads : ∀ i, machine.Leads (rely i) (guarantee i) (Q i) (q i ++ tail i) m) :
    (∀ i, machine.Leads (rely i) (guarantee i) (Q i) (q' i ++ tail i) m')
      ∧ Relation.ReflTransGen (fun m m' => outside m m' ∨ ∃ i, guarantee i m m') m m' := by
  have := hrules.refl
  have := hrules.trans
  induction h with
  | rest => exact ⟨hleads, .refl⟩
  | other hother _ ih =>
      rcases ih fun i => (hleads i).stable (hrules.outside i _ _ hother) with ⟨hleads', hchanges⟩
      exact ⟨hleads', .head (.inl hother) hchanges⟩
  | @perform q q' m m' m'' j op l hfront hstep _ ih =>
      have hqueue := hleads j
      rw [hfront, List.cons_append] at hqueue
      rcases hqueue.step hstep with ⟨hguarantee, hrest⟩
      have hothers : ∀ i, machine.Leads (rely i) (guarantee i) (Q i)
          (Function.update q j l i ++ tail i) m' := by
        intro i
        by_cases hi : i = j
        · subst hi
          rw [Function.update_self]
          exact hrest
        · rw [Function.update_of_ne hi]
          exact (hleads i).stable (hrules.apart j i _ _ (Ne.symm hi) hguarantee)
      rcases ih hothers with ⟨hleads', hchanges⟩
      exact ⟨hleads', .head (.inr ⟨j, hguarantee⟩) hchanges⟩

end Queues

end Machine

end RelyGuarantee
