import Mathlib.Data.List.DropRight
import Mathlib.Data.List.TakeWhile

/-!
# Tokens of a text

A hand-written scanner strips blanks from both ends of a text and cuts it at the first occurrence of
a separator.  Both are described here without a scanner, over any alphabet, so that a grammar can be
stated in terms of how a text is put together and not of how it is taken apart.

The two directions are not symmetric.  Putting a text together is a relation: blanks may be written
anywhere they are allowed.  Taking it apart is a function, and the lemmas say that it finds the one
way in which the text can have been put together.

* `Strips` — what is left of a text without the blanks around it.  `strips_iff` says that dropping
  blanks from the front and then from the back computes it.
* `takeWhile_cut`, `dropWhile_cut` — cutting at a separator that does not occur on the left.
* `findIdx?_cut` — the same cut, by the separator's index.
-/

namespace Tokens

variable {α : Type*}

/-! ## Blanks -/

/-- `body` is `text` without the blanks around it. -/
def Strips (blank : α → Bool) (text body : List α) : Prop :=
  ∃ left right, text = left ++ body ++ right ∧ (∀ c ∈ left, blank c = true)
    ∧ (∀ c ∈ right, blank c = true) ∧ (∀ c ∈ body.head?, blank c = false)
    ∧ ∀ c ∈ body.getLast?, blank c = false

/-- A text without blanks is left alone. -/
lemma Strips.self {blank : α → Bool} {text : List α} (h : ∀ c ∈ text, blank c = false) :
    Strips blank text text :=
  ⟨[], [], by simp, by simp, by simp, fun c hc => h c (List.mem_of_mem_head? hc),
    fun c hc => h c (List.mem_of_getLast? hc)⟩

/-- Stripping again changes nothing. -/
lemma Strips.idem {blank : α → Bool} {text body : List α} (h : Strips blank text body) :
    Strips blank body body := by
  rcases h with ⟨left, right, -, -, -, hhead, hlast⟩
  exact ⟨[], [], by simp, by simp, by simp, hhead, hlast⟩

/-- A text that does not start with a blank keeps its front. -/
lemma dropWhile_eq_self_of_head {blank : α → Bool} {text : List α}
    (h : ∀ c ∈ text.head?, blank c = false) : text.dropWhile blank = text := by
  cases text with
  | nil => rfl
  | cons c text => exact List.dropWhile_cons_of_neg (by simpa using h c rfl)

lemma rdropWhile_append_of_pos {blank : α → Bool} {text right : List α}
    (h : ∀ c ∈ right, blank c = true) :
    (text ++ right).rdropWhile blank = text.rdropWhile blank := by
  rw [List.rdropWhile, List.reverse_append, List.dropWhile_append_of_pos (by simpa using h),
    List.rdropWhile]

/-- **Dropping blanks from the front and then from the back strips.** -/
theorem strips_iff {blank : α → Bool} {text body : List α} :
    (text.dropWhile blank).rdropWhile blank = body ↔ Strips blank text body := by
  constructor
  · rintro rfl
    have hfront : ∀ c ∈ (text.dropWhile blank).head?, blank c = false := by
      intro c hc
      have hnot := List.head?_dropWhile_not blank text
      rw [hc] at hnot
      simpa using hnot
    refine ⟨text.takeWhile blank, (text.dropWhile blank).rtakeWhile blank, ?_,
      fun c hc => List.mem_takeWhile_imp hc, fun c hc => ?_, fun c hc => ?_, fun c hc => ?_⟩
    · rw [List.append_assoc, List.rdropWhile_append_rtakeWhile,
        List.takeWhile_append_dropWhile]
    · exact List.mem_takeWhile_imp (List.mem_reverse.mp hc)
    · rcases List.rdropWhile_prefix blank (l := text.dropWhile blank) with ⟨rest, hrest⟩
      apply hfront
      rw [← hrest, List.head?_append, Option.mem_def.mp hc]
      rfl
    · have hne : (text.dropWhile blank).rdropWhile blank ≠ [] := by
        intro hnil
        rw [hnil] at hc
        cases hc
      have hlast := List.rdropWhile_last_not blank (text.dropWhile blank) hne
      rw [List.getLast?_eq_some_getLast hne, Option.mem_some_iff] at hc
      rw [← hc]
      simpa using hlast
  · rintro ⟨left, right, rfl, hleft, hright, hhead, hlast⟩
    rw [List.append_assoc, List.dropWhile_append_of_pos hleft]
    cases body with
    | nil =>
        rw [List.nil_append, List.dropWhile_eq_nil_iff.mpr hright, List.rdropWhile_nil]
    | cons c body =>
        rw [dropWhile_eq_self_of_head (by simpa using hhead), rdropWhile_append_of_pos hright,
          List.rdropWhile_eq_self_iff]
        intro hne
        have hc := hlast _ (List.getLast?_eq_some_getLast hne)
        simp [hc]

/-! ## Separators -/

lemma takeWhile_cut {sep : α → Bool} {left : List α} {c : α} (hleft : ∀ a ∈ left, sep a = false)
    (hc : sep c = true) (right : List α) :
    (left ++ c :: right).takeWhile (fun a => !sep a) = left := by
  rw [List.takeWhile_append_of_pos (by simpa using hleft), List.takeWhile_cons_of_neg (by simpa),
    List.append_nil]

lemma dropWhile_cut {sep : α → Bool} {left : List α} {c : α} (hleft : ∀ a ∈ left, sep a = false)
    (hc : sep c = true) (right : List α) :
    (left ++ c :: right).dropWhile (fun a => !sep a) = c :: right := by
  rw [List.dropWhile_append_of_pos (by simpa using hleft), List.dropWhile_cons_of_neg (by simpa)]

/-- **A text is cut at the first separator**, which is where `findIdx?` finds it. -/
theorem findIdx?_cut {sep : α → Bool} {text : List α} {i : ℕ}
    (h : text.findIdx? sep = some i) : ∃ c, sep c = true
      ∧ text = text.take i ++ c :: text.drop (i + 1) ∧ ∀ a ∈ text.take i, sep a = false := by
  rcases List.findIdx?_eq_some_iff_getElem.mp h with ⟨hi, hsep, hbefore⟩
  refine ⟨text[i], hsep, ?_, fun a ha => ?_⟩
  · rw [← List.drop_eq_getElem_cons hi, List.take_append_drop]
  · rcases List.mem_take_iff_getElem.mp ha with ⟨j, hj, rfl⟩
    simpa using hbefore j (by omega)

end Tokens
