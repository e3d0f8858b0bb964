import Mathlib.Algebra.Order.Field.Basic
import Mathlib.Algebra.Order.Floor.Ring
import Mathlib.Algebra.Ring.Int.Parity
import Mathlib.Data.Int.Log
import Mathlib.Tactic.Linarith
import Mathlib.Tactic.Ring

/-!
# Rounding

Two rounding rules, over any linearly ordered field with a floor.

`Rounding` is the rule of C's `round` family.  Mathlib's `round` sends halves upwards; this one
sends them away from zero, so it is odd (`roundAway_neg`).

* `roundAway_intCast` — integers are fixed.
* `roundAway_mono` — rounding is monotone, hence (`roundAway_mem_Icc`) it never leaves an interval
  whose ends are integers.
* `roundAway_of_abs_lt` — a value near an integer rounds to it.

`BinaryFloat` is the rule of IEEE 754 as long as nothing overflows or is subnormal: numbers with `p`
significant bits and any exponent, and rounding to the nearest of them.

* `roundEven` — the nearest integer, halves to the even one; `roundEven_mono`.
* `Representable` — the numbers with `p` significant bits.
* `roundBits` — the nearest of them, and `roundBits_eq` for a number whose binade is known.
* `roundBits_of_representable`, `roundBits_mono` — hence (`roundBits_le`, `le_roundBits`) rounding
  never crosses a number with `p` bits.
-/

namespace Rounding

variable {K : Type*} [Field K] [LinearOrder K] [IsStrictOrderedRing K] [FloorRing K]

/-- The nearest integer, halves away from zero. -/
def roundAway (x : K) : ℤ :=
  if 0 ≤ x then ⌊x + 1 / 2⌋ else -⌊-x + 1 / 2⌋

omit [IsStrictOrderedRing K] in
lemma roundAway_of_nonneg {x : K} (h : 0 ≤ x) : roundAway x = ⌊x + 1 / 2⌋ := if_pos h

omit [IsStrictOrderedRing K] in
lemma roundAway_of_neg {x : K} (h : x < 0) : roundAway x = -⌊-x + 1 / 2⌋ :=
  if_neg (not_le.mpr h)

@[simp] lemma roundAway_zero : roundAway (0 : K) = 0 := by
  rw [roundAway_of_nonneg le_rfl, Int.floor_eq_iff]
  constructor <;> norm_num

/-- Rounding is odd. -/
theorem roundAway_neg (x : K) : roundAway (-x) = -roundAway x := by
  rcases lt_trichotomy x 0 with h | h | h
  · rw [roundAway_of_nonneg (by linarith), roundAway_of_neg h, neg_neg]
  · rw [h, neg_zero, roundAway_zero, neg_zero]
  · rw [roundAway_of_neg (by linarith), roundAway_of_nonneg h.le, neg_neg]

/-- Integers are fixed. -/
@[simp] theorem roundAway_intCast (n : ℤ) : roundAway (n : K) = n := by
  have hnonneg : ∀ m : ℤ, 0 ≤ m → roundAway (m : K) = m := by
    intro m hm
    rw [roundAway_of_nonneg (by exact_mod_cast hm), Int.floor_eq_iff]
    constructor <;> linarith
  rcases le_total 0 n with h | h
  · exact hnonneg n h
  · have := hnonneg (-n) (by omega)
    rw [Int.cast_neg, roundAway_neg] at this
    omega

lemma roundAway_nonneg {x : K} (h : 0 ≤ x) : 0 ≤ roundAway x := by
  rw [roundAway_of_nonneg h]
  exact Int.floor_nonneg.mpr (by linarith)

lemma roundAway_nonpos {x : K} (h : x ≤ 0) : roundAway x ≤ 0 := by
  have := roundAway_nonneg (x := -x) (by linarith)
  rw [roundAway_neg] at this
  omega

/-- **Rounding is monotone.** -/
theorem roundAway_mono {x y : K} (h : x ≤ y) : roundAway x ≤ roundAway y := by
  rcases le_or_gt 0 x with hx | hx
  · rw [roundAway_of_nonneg hx, roundAway_of_nonneg (hx.trans h)]
    exact Int.floor_le_floor (by linarith)
  · rcases le_or_gt 0 y with hy | hy
    · exact (roundAway_nonpos hx.le).trans (roundAway_nonneg hy)
    · rw [roundAway_of_neg hx, roundAway_of_neg hy, neg_le_neg_iff]
      exact Int.floor_le_floor (by linarith)

/-- A value between two integers rounds to something between them. -/
theorem roundAway_mem_Icc {x : K} {low high : ℤ} (hlow : (low : K) ≤ x) (hhigh : x ≤ high) :
    low ≤ roundAway x ∧ roundAway x ≤ high := by
  constructor
  · calc low = roundAway (low : K) := (roundAway_intCast low).symm
      _ ≤ roundAway x := roundAway_mono hlow
  · calc roundAway x ≤ roundAway (high : K) := roundAway_mono hhigh
      _ = high := roundAway_intCast high

/-- Less than one half away from an integer, that integer is the rounding. -/
theorem roundAway_of_abs_lt {x : K} {n : ℤ} (h : |x - n| < 1 / 2) : roundAway x = n := by
  rcases abs_lt.mp h with ⟨hlow, hhigh⟩
  rcases le_or_gt 0 x with hx | hx
  · rw [roundAway_of_nonneg hx, Int.floor_eq_iff]
    constructor <;> linarith
  · have hfloor : ⌊-x + 1 / 2⌋ = -n := by
      rw [Int.floor_eq_iff, Int.cast_neg]
      constructor <;> linarith
    rw [roundAway_of_neg hx, hfloor, neg_neg]

end Rounding

namespace BinaryFloat

variable {K : Type*} [Field K]

/-! ## Numbers with `p` bits -/

/-- `p` significant bits. -/
def Representable (p : ℕ) (x : K) : Prop := ∃ m e : ℤ, |m| < 2 ^ p ∧ x = m * 2 ^ e

lemma representable_int {p : ℕ} {m : ℤ} (h : |m| < 2 ^ p) : Representable p (m : K) :=
  ⟨m, 0, h, by rw [zpow_zero, mul_one]⟩

lemma representable_zpow {p : ℕ} (hp : 0 < p) (e : ℤ) : Representable p ((2 : K) ^ e) := by
  refine ⟨1, e, ?_, by rw [Int.cast_one, one_mul]⟩
  rw [abs_one]
  exact one_lt_pow₀ one_lt_two hp.ne'

/-- A product with a small integer has a few bits more. -/
lemma Representable.mul_int {p q : ℕ} {x : K} (h : Representable p x) {n : ℤ}
    (hn : |n| < 2 ^ q) : Representable (p + q) (x * n) := by
  rcases h with ⟨m, e, hm, rfl⟩
  refine ⟨m * n, e, ?_, by push_cast; ring⟩
  rw [abs_mul, pow_add]
  exact mul_lt_mul'' hm hn (abs_nonneg m) (abs_nonneg n)

lemma Representable.mono {p q : ℕ} {x : K} (h : Representable p x) (hpq : p ≤ q) :
    Representable q x := by
  rcases h with ⟨m, e, hm, hx⟩
  exact ⟨m, e, hm.trans_le (pow_le_pow_right₀ one_le_two hpq), hx⟩

lemma Representable.neg {p : ℕ} {x : K} (h : Representable p x) : Representable p (-x) := by
  rcases h with ⟨m, e, hm, rfl⟩
  exact ⟨-m, e, by rwa [abs_neg], by push_cast; ring⟩

/-! ## The nearest integer -/

variable [LinearOrder K] [FloorRing K]

/-- The nearest integer, halves to the even one. -/
def roundEven (x : K) : ℤ :=
  if x - ⌊x⌋ < 1 / 2 then ⌊x⌋
  else if 1 / 2 < x - ⌊x⌋ then ⌊x⌋ + 1
  else if Even ⌊x⌋ then ⌊x⌋ else ⌊x⌋ + 1

lemma roundEven_of_lt {x : K} (h : x - ⌊x⌋ < 1 / 2) : roundEven x = ⌊x⌋ := if_pos h

lemma roundEven_mem (x : K) : ⌊x⌋ ≤ roundEven x ∧ roundEven x ≤ ⌊x⌋ + 1 := by
  rw [roundEven]
  split_ifs <;> omega

variable [IsStrictOrderedRing K]

@[simp] lemma roundEven_intCast (n : ℤ) : roundEven (n : K) = n := by
  rw [roundEven_of_lt, Int.floor_intCast]
  rw [Int.floor_intCast, sub_self]
  norm_num

/-- **Rounding to an integer is monotone.** -/
theorem roundEven_mono {x y : K} (h : x ≤ y) : roundEven x ≤ roundEven y := by
  rcases (Int.floor_le_floor h).eq_or_lt with hfloor | hfloor
  · have hfract : x - ⌊x⌋ ≤ y - ⌊x⌋ := sub_le_sub_right h _
    rw [roundEven, roundEven, ← hfloor]
    split_ifs
    all_goals first
      | omega
      | (exfalso; linarith)
  · calc roundEven x ≤ ⌊x⌋ + 1 := (roundEven_mem x).2
      _ ≤ ⌊y⌋ := hfloor
      _ ≤ roundEven y := (roundEven_mem y).1

/-! ## Rounding -/

/-- The distance of two numbers with `p` bits in the binade of a positive `x`. -/
def ulp (p : ℕ) (x : K) : K := 2 ^ (Int.log 2 x + 1 - p)

/-- The nearest number with `p` bits to one that is not negative. -/
def roundMagnitude (p : ℕ) (x : K) : K := roundEven (x / ulp p x) * ulp p x

/-- The nearest number with `p` bits, halves to the even significand. -/
def roundBits (p : ℕ) (x : K) : K :=
  if x < 0 then -roundMagnitude p (-x) else roundMagnitude p x

lemma ulp_pos (p : ℕ) (x : K) : 0 < ulp p x := zpow_pos two_pos _

@[simp] lemma roundMagnitude_zero (p : ℕ) : roundMagnitude p (0 : K) = 0 := by
  have hzero : roundEven (0 : K) = 0 := by simpa using roundEven_intCast (K := K) 0
  rw [roundMagnitude, zero_div, hzero, Int.cast_zero, zero_mul]

lemma roundMagnitude_nonneg (p : ℕ) {x : K} (h : 0 ≤ x) : 0 ≤ roundMagnitude p x := by
  have hzero : 0 ≤ roundEven (x / ulp p x) := by
    have hmono := roundEven_mono (div_nonneg h (ulp_pos p x).le)
    rwa [← Int.cast_zero, roundEven_intCast] at hmono
  exact mul_nonneg (by exact_mod_cast hzero) (ulp_pos p x).le

/-- A number whose binade is known. -/
lemma roundMagnitude_eq {p : ℕ} {x : K} {e : ℤ} (hlow : (2 : K) ^ (e + p - 1) ≤ x)
    (hhigh : x < 2 ^ (e + p)) : roundMagnitude p x = roundEven (x / 2 ^ e) * 2 ^ e := by
  have hx : 0 < x := (zpow_pos two_pos _).trans_le hlow
  have hle : e + p - 1 ≤ Int.log 2 x := by
    refine (Int.zpow_le_iff_le_log one_lt_two hx).mp ?_
    exact_mod_cast hlow
  have hlt : Int.log 2 x < e + p := by
    refine (Int.lt_zpow_iff_log_lt one_lt_two hx).mp ?_
    exact_mod_cast hhigh
  have hulp : ulp p x = 2 ^ e := by
    rw [ulp]
    congr 1
    omega
  rw [roundMagnitude, hulp]

/-- In a known binade, rounding is rounding to a multiple of a power of two. -/
theorem roundBits_eq {p : ℕ} {x : K} {e : ℤ} (hlow : (2 : K) ^ (e + p - 1) ≤ x)
    (hhigh : x < 2 ^ (e + p)) : roundBits p x = roundEven (x / 2 ^ e) * 2 ^ e := by
  have hx : 0 < x := (zpow_pos two_pos _).trans_le hlow
  rw [roundBits, if_neg hx.le.not_gt, roundMagnitude_eq hlow hhigh]

/-- Rounding is odd. -/
theorem roundBits_neg (p : ℕ) (x : K) : roundBits p (-x) = -roundBits p x := by
  rcases lt_trichotomy x 0 with h | rfl | h
  · rw [roundBits, if_neg (by linarith), roundBits, if_pos h, neg_neg]
  · simp [roundBits]
  · rw [roundBits, if_pos (by linarith), roundBits, if_neg h.le.not_gt, neg_neg]

/-! ## What rounding keeps -/

lemma roundMagnitude_of_representable {p : ℕ} {x : K} (hx : 0 < x) (h : Representable p x) :
    roundMagnitude p x = x := by
  rcases h with ⟨m, e, hm, hxm⟩
  have hlt : x < 2 ^ (e + p) := by
    have hcast : (m : K) < 2 ^ p := by exact_mod_cast (abs_lt.mp hm).2
    rw [hxm, add_comm, zpow_add₀ two_ne_zero, zpow_natCast]
    exact mul_lt_mul_of_pos_right hcast (zpow_pos two_pos e)
  have hlog : Int.log 2 x < e + p := by
    refine (Int.lt_zpow_iff_log_lt one_lt_two hx).mp ?_
    exact_mod_cast hlt
  -- The unit of `x` is no larger than `2 ^ e`, so `x` is a whole number of units.
  rcases Int.le.dest (show Int.log 2 x + 1 - p ≤ e by omega) with ⟨k, hk⟩
  have hunits : (2 : K) ^ e = 2 ^ k * ulp p x := by
    rw [ulp, ← hk, zpow_add₀ two_ne_zero, zpow_natCast, mul_comm]
  have hwhole : x / ulp p x = ((m * 2 ^ k : ℤ) : K) := by
    rw [div_eq_iff (ulp_pos p x).ne', Int.cast_mul, Int.cast_pow, Int.cast_ofNat, mul_assoc,
      ← hunits]
    exact hxm
  rw [roundMagnitude, hwhole, roundEven_intCast, ← hwhole, div_mul_cancel₀ _ (ulp_pos p x).ne']

/-- **A number with `p` bits is its own rounding.** -/
theorem roundBits_of_representable {p : ℕ} {x : K} (h : Representable p x) :
    roundBits p x = x := by
  rcases lt_trichotomy x 0 with hx | rfl | hx
  · rw [roundBits, if_pos hx, roundMagnitude_of_representable (neg_pos.mpr hx) h.neg, neg_neg]
  · simp [roundBits]
  · rw [roundBits, if_neg hx.le.not_gt, roundMagnitude_of_representable hx h]

/-- Rounding stays in the closed binade. -/
lemma roundMagnitude_mem {p : ℕ} (hp : 0 < p) {x : K} (hx : 0 < x) :
    2 ^ Int.log 2 x ≤ roundMagnitude p x ∧ roundMagnitude p x ≤ 2 ^ (Int.log 2 x + 1) := by
  have hpos := ulp_pos p x
  have hscaled : ∀ k : ℕ, ((2 ^ k : ℤ) : K) * ulp p x = 2 ^ (Int.log 2 x + 1 - p + k) := by
    intro k
    rw [zpow_add₀ two_ne_zero, zpow_natCast, ulp, mul_comm]
    push_cast
    rfl
  constructor
  · have hexp : Int.log 2 x + 1 - p + (p - 1 : ℕ) = Int.log 2 x := by omega
    have hlow : ((2 ^ (p - 1) : ℤ) : K) ≤ x / ulp p x := by
      rw [le_div_iff₀ hpos, hscaled, hexp]
      exact_mod_cast Int.zpow_log_le_self one_lt_two hx
    have hround := roundEven_mono hlow
    rw [roundEven_intCast] at hround
    calc (2 : K) ^ Int.log 2 x = ((2 ^ (p - 1) : ℤ) : K) * ulp p x := by rw [hscaled, hexp]
      _ ≤ roundMagnitude p x :=
          mul_le_mul_of_nonneg_right (by exact_mod_cast hround) hpos.le
  · have hexp : Int.log 2 x + 1 - p + p = Int.log 2 x + 1 := by omega
    have hhigh : x / ulp p x ≤ ((2 ^ p : ℤ) : K) := by
      rw [div_le_iff₀ hpos, hscaled, hexp]
      exact_mod_cast (Int.lt_zpow_succ_log_self one_lt_two x).le
    have hround := roundEven_mono hhigh
    rw [roundEven_intCast] at hround
    calc roundMagnitude p x ≤ ((2 ^ p : ℤ) : K) * ulp p x :=
          mul_le_mul_of_nonneg_right (by exact_mod_cast hround) hpos.le
      _ = 2 ^ (Int.log 2 x + 1) := by rw [hscaled, hexp]

lemma roundMagnitude_mono {p : ℕ} (hp : 0 < p) {x y : K} (hx : 0 ≤ x) (h : x ≤ y) :
    roundMagnitude p x ≤ roundMagnitude p y := by
  rcases hx.eq_or_lt with rfl | hx
  · rw [roundMagnitude_zero]
    exact roundMagnitude_nonneg p h
  rcases (Int.log_mono_right (b := 2) hx h).eq_or_lt with hlog | hlog
  · have hulp : ulp p y = ulp p x := by rw [ulp, ulp, hlog]
    have hround : roundEven (x / ulp p x) ≤ roundEven (y / ulp p x) :=
      roundEven_mono (div_le_div_of_nonneg_right h (ulp_pos p x).le)
    rw [roundMagnitude, roundMagnitude, hulp]
    exact mul_le_mul_of_nonneg_right (by exact_mod_cast hround) (ulp_pos p x).le
  · calc roundMagnitude p x ≤ 2 ^ (Int.log 2 x + 1) := (roundMagnitude_mem hp hx).2
      _ ≤ 2 ^ Int.log 2 y := zpow_le_zpow_right₀ one_le_two hlog
      _ ≤ roundMagnitude p y := (roundMagnitude_mem hp (hx.trans_le h)).1

/-- **Rounding is monotone.** -/
theorem roundBits_mono {p : ℕ} (hp : 0 < p) {x y : K} (h : x ≤ y) :
    roundBits p x ≤ roundBits p y := by
  rw [roundBits, roundBits]
  split_ifs with hx hy hy
  · exact neg_le_neg (roundMagnitude_mono hp (by linarith) (neg_le_neg h))
  · have hleft := roundMagnitude_nonneg p (x := -x) (by linarith)
    have hright := roundMagnitude_nonneg p (not_lt.mp hy)
    linarith
  · exact absurd (h.trans_lt hy) hx
  · exact roundMagnitude_mono hp (not_lt.mp hx) h

/-- **Rounding never crosses a number with `p` bits.** -/
theorem roundBits_le {p : ℕ} (hp : 0 < p) {x y : K} (hy : Representable p y) (h : x ≤ y) :
    roundBits p x ≤ y :=
  (roundBits_mono hp h).trans_eq (roundBits_of_representable hy)

/-- Nor from the other side. -/
theorem le_roundBits {p : ℕ} (hp : 0 < p) {x y : K} (hx : Representable p x) (h : x ≤ y) :
    x ≤ roundBits p y :=
  (roundBits_of_representable hx).symm.trans_le (roundBits_mono hp h)

end BinaryFloat
