import Imgjit.Library.Rounding
import Mathlib.Data.Rat.Floor
import Mathlib.Tactic.NormNum

/-!
# The C++ types and arithmetic the engine leans on

The sources move sizes between `int`, `std::uint32_t` and `std::size_t`, compute in `float`, and
report failures by throwing.  This file fixes how each is read, once, so that a reader who wants to
know what the development assumes of the language finds it in one place.

**Integers.**  `int` is `Int32` and `std::size_t` is `UInt64` (every target is 64-bit two's
complement), so a `static_cast` is the machine conversion and wraparound is the wraparound of the
type.  `sizeT` is `static_cast<std::size_t>` of an `int`; `toInt_toInt32` says what the narrowing
`static_cast<int>` of a 32-bit field keeps, and it is the fact every dimension argument turns on.

**Floating point.**  `float` is the exact rational.  A theorem about pixel values is therefore a
theorem in exact arithmetic, and says nothing of the last bit of a rounded intermediate result.
`CMath` holds the two library functions with no exact rational value, `std::exp` and `std::sqrt`;
the CPU and the GPU side share one instance, whichever it is.  `lround` rounds halves away from zero
and saturates at the bounds of a 64-bit `long`.

**Failures.**  `Exn` is the family of exceptions the engine throws, each with its `what()` text.  A
read past the end of a buffer is undefined behaviour in C++; here it is the outcome `outOfBounds`,
so that "the code never reads past its buffer" is a statement about results.
-/

namespace Imgjit

/-! ## Exceptions -/

/-- What a throwing function may throw, by dynamic type.  `cudaError` and `nvrtcError` are the two
classes of `cuda_check.h`; the second derives from the first, and a handler sees the first match. -/
inductive Exn where
  | invalidArgument (what : String)
  | logicError (what : String)
  | outOfRange (what : String)
  | lengthError (what : String)
  | runtimeError (what : String)
  | cudaError (what : String)
  | nvrtcError (what : String)
  | outOfBounds
  deriving DecidableEq, Repr

namespace Exn

/-- `error.what()`. -/
def what : Exn → String
  | invalidArgument text => text
  | logicError text => text
  | outOfRange text => text
  | lengthError text => text
  | runtimeError text => text
  | cudaError text => text
  | nvrtcError text => text
  | outOfBounds => ""

end Exn

/-! ## Integer conversions -/

/-- `static_cast<std::size_t>` of an `int`: sign extension, so a negative value becomes huge. -/
def sizeT (value : Int32) : UInt64 := UInt64.ofInt value.toInt

lemma toNat_sizeT (value : Int32) (h : 0 ≤ value.toInt) :
    (sizeT value).toNat = value.toInt.toNat := by
  have hlt := Int32.toInt_lt value
  have hsize : (sizeT value).toNat = (value.toInt % 2 ^ 64).toNat % 2 ^ 64 := rfl
  rw [hsize]
  omega

/-- **What narrowing a 32-bit field to `int` keeps**: the value itself below `2 ^ 31`, and a
negative number from there on. -/
theorem toInt_toInt32 (value : UInt32) :
    value.toInt32.toInt
      = if value.toNat < 2 ^ 31 then (value.toNat : Int) else (value.toNat : Int) - 2 ^ 32 := by
  have hlt := UInt32.toNat_lt value
  have hbits : value.toInt32.toInt = (value.toNat : Int).bmod (2 ^ 32) := by
    rw [← Int32.toInt_toBitVec, UInt32.toBitVec_toInt32, BitVec.toInt_eq_toNat_bmod]
    rfl
  rw [hbits, Int.bmod_def]
  split_ifs <;> omega

lemma toInt_toInt32_of_lt {value : UInt32} (h : value.toNat < 2 ^ 31) :
    value.toInt32.toInt = value.toNat := by
  rw [toInt_toInt32, if_pos h]

lemma toInt_toInt32_neg {value : UInt32} (h : 2 ^ 31 ≤ value.toNat) :
    value.toInt32.toInt < 0 := by
  have hlt := UInt32.toNat_lt value
  rw [toInt_toInt32, if_neg (by omega)]
  omega

/-- `static_cast<int>` of a byte never loses anything. -/
lemma toInt_toInt32_uInt8 (value : UInt8) : value.toUInt32.toInt32.toInt = value.toNat := by
  have hlt := UInt8.toNat_lt value
  rw [toInt_toInt32_of_lt (by rw [UInt8.toNat_toUInt32]; omega), UInt8.toNat_toUInt32]

/-! ## Floating point, read exactly -/

/-- The two functions of `<cmath>` whose values exact arithmetic does not determine. -/
structure CMath where
  exp : ℚ → ℚ
  sqrt : ℚ → ℚ

/-- The least value of a 64-bit `long`. -/
def longMin : ℤ := -2 ^ 63

/-- The largest value of a 64-bit `long`. -/
def longMax : ℤ := 2 ^ 63 - 1

/-- `std::lround`: half away from zero, saturating at the bounds of `long`. -/
def lround (value : ℚ) : ℤ :=
  max longMin (min longMax (Rounding.roundAway value))

lemma lround_of_mem {value : ℚ} {low high : ℤ} (hlow : (low : ℚ) ≤ value)
    (hhigh : value ≤ (high : ℚ)) (hmin : longMin ≤ low) (hmax : high ≤ longMax) :
    lround value = Rounding.roundAway value := by
  obtain ⟨h1, h2⟩ := Rounding.roundAway_mem_Icc hlow hhigh
  rw [lround, min_eq_right (h2.trans hmax), max_eq_right (hmin.trans h1)]

/-- An integer in the range of `long` is its own rounding. -/
lemma lround_intCast {n : ℤ} (hmin : longMin ≤ n) (hmax : n ≤ longMax) :
    lround (n : ℚ) = n := by
  rw [lround_of_mem le_rfl le_rfl hmin hmax, Rounding.roundAway_intCast]

end Imgjit
