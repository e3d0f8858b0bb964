import Mathlib.Algebra.Ring.Nat
import Mathlib.Data.Set.Function
import Mathlib.Tactic.Ring

/-!
# Row-major layout

`height` rows of `width` cells of `depth` entries, one behind the other: entry `c` of the cell at
`(x, y)` is at `y * (width * depth) + x * depth + c`.  Images, tiles and matrices lie in memory like
this.  The formula is a mixed-radix number, so its digits can be read back by division, and that is
all there is to the injectivity of an index computation and to its bounds.

* `Inside` — the coordinates that there are.
* `index_lt`, `index_div_row`, `index_mod_row`, `index_mod_depth` — the position and its digits.
* `bijOn_index` — **the entries fill the positions**, each once.
* `getElem?_blocks` — blocks of one length, one behind the other, read by block and place.

Everything is about natural numbers; whoever computes an index in a machine word has to show that
nothing wraps, for which `index_lt` is the bound.
-/

namespace RowMajor

variable {width height depth x y c : ℕ}

/-! ## Positions -/

/-- The place of an entry inside its row. -/
lemma column_lt (hx : x < width) (hc : c < depth) : x * depth + c < width * depth :=
  calc x * depth + c < x * depth + depth := Nat.add_lt_add_left hc _
    _ = (x + 1) * depth := (Nat.succ_mul x depth).symm
    _ ≤ width * depth := Nat.mul_le_mul_right depth hx

lemma column_div (hc : c < depth) : (x * depth + c) / depth = x := by
  rw [Nat.mul_comm, Nat.mul_add_div (Nat.zero_lt_of_lt hc), Nat.div_eq_of_lt hc, Nat.add_zero]

/-- Everything up to the last entry asked for is inside the rows. -/
lemma index_lt (hx : x < width) (hy : y < height) (hc : c < depth) :
    y * (width * depth) + x * depth + c < width * depth * height := by
  have hrow : y * (width * depth) + (x * depth + c) < height * (width * depth) :=
    column_lt hy (column_lt hx hc)
  rwa [← Nat.add_assoc, Nat.mul_comm height] at hrow

lemma index_div_row (hx : x < width) (hc : c < depth) :
    (y * (width * depth) + x * depth + c) / (width * depth) = y := by
  rw [Nat.add_assoc, column_div (column_lt hx hc)]

lemma index_mod_row (hx : x < width) (hc : c < depth) :
    (y * (width * depth) + x * depth + c) % (width * depth) = x * depth + c := by
  rw [Nat.add_assoc, Nat.mul_comm y, Nat.mul_add_mod, Nat.mod_eq_of_lt (column_lt hx hc)]

lemma index_mod_depth (hc : c < depth) :
    (y * (width * depth) + x * depth + c) % depth = c := by
  have hfactor : y * (width * depth) + x * depth + c = depth * (y * width + x) + c := by ring
  rw [hfactor, Nat.mul_add_mod, Nat.mod_eq_of_lt hc]

/-- A position, put together from its digits. -/
lemma index_digits (i : ℕ) :
    i / (width * depth) * (width * depth) + i % (width * depth) / depth * depth + i % depth
      = i := by
  have hmod : i % (width * depth) % depth = i % depth :=
    Nat.mod_mod_of_dvd i (Dvd.intro_left width rfl)
  rw [Nat.add_assoc, ← hmod, Nat.div_add_mod', Nat.div_add_mod']

/-- The triples of a column, a row and an entry that lie inside. -/
def Inside (width height depth : ℕ) : Set (ℕ × ℕ × ℕ) :=
  {p | p.1 < width ∧ p.2.1 < height ∧ p.2.2 < depth}

/-- The position of a triple. -/
def index (width depth : ℕ) (p : ℕ × ℕ × ℕ) : ℕ := p.2.1 * (width * depth) + p.1 * depth + p.2.2

/-- The triple at a position. -/
def digits (width depth i : ℕ) : ℕ × ℕ × ℕ :=
  (i % (width * depth) / depth, i / (width * depth), i % depth)

lemma invOn_digits (width height depth : ℕ) : Set.InvOn (digits width depth) (index width depth)
    (Inside width height depth) (Set.Iio (width * depth * height)) := by
  refine ⟨?_, fun i _ => index_digits i⟩
  rintro ⟨x, y, c⟩ ⟨hx, -, hc⟩
  simp only [digits, index, index_mod_row hx hc, column_div hc, index_div_row hx hc,
    index_mod_depth hc]

/-- **The entries fill the positions**, each once. -/
theorem bijOn_index (width height : ℕ) (hdepth : 0 < depth) : Set.BijOn (index width depth)
    (Inside width height depth) (Set.Iio (width * depth * height)) := by
  refine (invOn_digits width height depth).bijOn ?_ ?_
  · rintro ⟨x, y, c⟩ ⟨hx, hy, hc⟩
    exact index_lt hx hy hc
  · intro i hi
    have hrow : 0 < width * depth := Nat.pos_of_mul_pos_right (Nat.zero_lt_of_lt hi)
    refine ⟨?_, Nat.div_lt_of_lt_mul hi, Nat.mod_lt i hdepth⟩
    rw [digits, Nat.div_lt_iff_lt_mul hdepth]
    exact Nat.mod_lt i hrow

/-! ## Blocks of one length -/

section Blocks

variable {α : Type*} {block : ℕ → List α} {size n : ℕ}

lemma length_blocks (h : ∀ y < n, (block y).length = size) :
    ((List.range n).flatMap block).length = n * size := by
  induction n with
  | zero => simp
  | succ n ih =>
      rw [List.range_succ, List.flatMap_append, List.length_append, List.flatMap_singleton,
        ih fun y hy => h y (Nat.lt_succ_of_lt hy), h n n.lt_succ_self, Nat.succ_mul]

/-- **Reading by block and place.** -/
theorem getElem?_blocks (h : ∀ y < n, (block y).length = size) {y k : ℕ} (hy : y < n)
    (hk : k < size) : ((List.range n).flatMap block)[y * size + k]? = (block y)[k]? := by
  induction n with
  | zero => exact absurd hy (Nat.not_lt_zero y)
  | succ n ih =>
      have hbelow : ∀ y < n, (block y).length = size := fun y hy => h y (Nat.lt_succ_of_lt hy)
      rw [List.range_succ, List.flatMap_append, List.flatMap_singleton]
      rcases Nat.lt_succ_iff_lt_or_eq.mp hy with hlt | rfl
      · rw [List.getElem?_append_left, ih hbelow hlt]
        rw [length_blocks hbelow]
        exact column_lt hlt hk
      · rw [List.getElem?_append_right, length_blocks hbelow, Nat.add_sub_cancel_left]
        rw [length_blocks hbelow]
        exact Nat.le_add_right _ k

end Blocks

end RowMajor
