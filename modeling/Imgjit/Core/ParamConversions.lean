import Imgjit.Core.ChainGrammar

/-!
# The conversions of the parser

`OpChain.lean` reads a parameter's text as an exact number.  The source reads it as a `float`,
multiplies by a hundred, hands the product to `std::lround`, and formats it for its messages through
`labs`.  Neither function promises anything where its result is no `long`, and a number is quantized
before its bounds are looked at: a parameter of `1e30` reaches `lround` although its op would refuse
it.  This file has the parser with its floats rounded as C++ rounds them, and with a trace of what
it hands to the two functions.

**The library.**  `CLib` is the number lexer and the two conversions, with what is promised of them:
`lround` is right where the rounded value is a `long`, and `labs` where the absolute value is one.

**The trace.**  `Conversion` is an entry of the trace, and `Conversion.Specified` that its result is
promised.  `CLib.quantizeParam`, `CLib.formatParam`, `CLib.parseOp` and `CLib.parseOpChain` are the
functions of the source, each with its trace.

**The condition.**  `NumbersFit` says of a text, in terms of its pieces, that no number the parser
comes to is too large for a `long`, in hundredths.  It speaks of the text and of the lexer only, not
of the parser's run.

**The result.**  `conversions_specified_iff`: the trace is specified if and only if the text
satisfies the condition, and then the parser's answer is the same for every library.
`conversions_unspecified` is a text of the other kind.
-/

namespace Imgjit

open BinaryFloat Tokens

/-! ## The library -/

/-- A value of `long`. -/
def InLong (n : ℤ) : Prop := longMin ≤ n ∧ n ≤ longMax

/-- Whether an integer is a `long` can be computed. -/
instance (n : ℤ) : Decidable (InLong n) := inferInstanceAs (Decidable (_ ∧ _))

/-- `static_cast<float>`, and any operation in `float`. -/
def toFloat (x : ℚ) : ℚ := roundBits 24 x

/-- An operation in `double`. -/
def toDouble (x : ℚ) : ℚ := roundBits 53 x

/-- What the parser has from the C library.  Where nothing is promised, `lround` still returns some
`long`. -/
structure CLib where
  /-- For a token that is consumed whole, its value, if that is finite. -/
  strtof : List Char → Option ℚ
  strtof_float : ∀ token value, strtof token = some value → Representable 24 value
  lround : ℚ → ℤ
  lround_long : ∀ x, InLong (lround x)
  lround_eq : ∀ x, InLong (Rounding.roundAway x) → lround x = Rounding.roundAway x
  labs : ℤ → ℤ
  labs_eq : ∀ n, n ≠ longMin → labs n = |n|

/-! ## The trace -/

/-- A call of one of the two conversions, with its argument. -/
inductive Conversion where
  | lround (argument : ℚ)
  | labs (argument : ℤ)
  deriving DecidableEq

/-- The result fits, so the library says what it is. -/
def Conversion.Specified : Conversion → Prop
  | lround argument => InLong (Rounding.roundAway argument)
  | labs argument => argument ≠ longMin

/-- A result, and the conversions on the way to it. -/
abbrev Traced (α : Type) := α × List Conversion

namespace CLib

/-- `quantize_param`. -/
def quantizeParam (c : CLib) (value : ℚ) : Traced ℚ :=
  let scaled := toDouble (value * 100)
  (toFloat (toFloat (c.lround scaled) / 100), [.lround scaled])

/-- The text of a number of hundredths. -/
def paramText (scaled magnitude : ℤ) : List Char :=
  let text := (if scaled < 0 then ['-'] else []) ++ (toString (magnitude.tdiv 100)).toList ++ ['.']
    ++ (toString ((magnitude.tdiv 10).tmod 10)).toList
  let hundredths := magnitude.tmod 10
  if hundredths ≠ 0 then text ++ (toString hundredths).toList else text

/-- `format_param`. -/
def formatParam (c : CLib) (value : ℚ) : Traced (List Char) :=
  let argument := toDouble (value * 100)
  let scaled := c.lround argument
  (paramText scaled (c.labs scaled), [.lround argument, .labs scaled])

/-- The parameter of an op that takes one: quantized, and then compared with its bounds. -/
def parseParam (c : CLib) (spec : OpSpec) (name : List Char) (number : ℚ) :
    Traced (Except String Op) :=
  let value := c.quantizeParam number
  let min := toFloat spec.minParam
  let max := toFloat spec.maxParam
  if value.1 < min ∨ value.1 > max then
    let actual := c.formatParam value.1
    let low := c.formatParam min
    let high := c.formatParam max
    (.error ("op '" ++ String.ofList name ++ "': parameter " ++ String.ofList actual.1
      ++ " is outside [" ++ String.ofList low.1 ++ ", " ++ String.ofList high.1 ++ "]"),
      value.2 ++ actual.2 ++ low.2 ++ high.2)
  else (.ok ⟨spec.kind, value.1⟩, value.2)

/-- One turn of the parser's loop. -/
def parseOp (c : CLib) (token : List Char) : Traced (Except String Op) :=
  if token = [] then (.error "empty op in chain", [])
  else
    let name := trim (token.takeWhile (· != ':'))
    match findSpec name with
    | none => (.error ("unknown op '" ++ String.ofList name ++ "'"), [])
    | some spec =>
        match token.dropWhile (· != ':') with
        | [] => (.ok ⟨spec.kind, spec.defaultParam⟩, [])
        | _ :: text =>
            if !spec.takesParam then
              (.error ("op '" ++ String.ofList name ++ "' takes no parameter"), [])
            else
              let parameter := trim text
              match parseFloat c.strtof parameter with
              | none =>
                  (.error ("op '" ++ String.ofList name ++ "': '" ++ String.ofList parameter
                    ++ "' is not a number"), [])
              | some number => c.parseParam spec name number

/-- The loop, up to the first piece that is no op. -/
def parseOps (c : CLib) : List (List Char) → Traced (Except String (List Op))
  | [] => (.ok [], [])
  | piece :: pieces =>
      match c.parseOp (trim piece) with
      | (.error message, trace) => (.error message, trace)
      | (.ok op, trace) =>
          let rest := c.parseOps pieces
          (rest.1.map (op :: ·), trace ++ rest.2)

/-- `parse_op_chain`. -/
def parseOpChain (c : CLib) (text : List Char) : Traced (Except String OpChain) :=
  let body := trim text
  if body = [] then (.ok ⟨[]⟩, [])
  else
    let ops := c.parseOps (commaPieces body)
    (ops.1.map OpChain.mk, ops.2)

end CLib

/-! ## Rounding hundredths -/

lemma representable_small {n : ℤ} (h : |n| ≤ 1024 * 1024) : Representable 24 (n : ℚ) :=
  representable_int (h.trans_lt (by norm_num))

lemma toFloat_mono {x y : ℚ} (h : x ≤ y) : toFloat x ≤ toFloat y :=
  roundBits_mono (by norm_num) h

lemma toFloat_small {n : ℤ} (h : |n| ≤ 1024 * 1024) : toFloat (n : ℚ) = n :=
  roundBits_of_representable (representable_small h)

/-- Two floats lie between any two neighbouring hundredths. -/
lemma toFloat_hundredth_lt {n : ℤ} (hlow : -1000 ≤ n) (hhigh : n ≤ 1000) :
    toFloat (((n - 1 : ℤ) : ℚ) / 100) < toFloat ((n : ℚ) / 100) := by
  have hfloat : ∀ k : ℤ, |k| ≤ 1024 * 1024 → Representable 24 ((k : ℚ) / 1024) := by
    intro k hk
    refine ⟨k, -10, hk.trans_lt (by norm_num), ?_⟩
    norm_num [div_eq_mul_inv, zpow_neg]
  -- In steps of `1 / 1024` a hundredth is ten steps long.
  obtain ⟨k, hk⟩ : ∃ k : ℤ, k = (1024 * (n - 1) + 99) / 100 := ⟨_, rfl⟩
  have hbelow : 1024 * (n - 1) ≤ 100 * k := by omega
  have habove : 100 * (k + 1) ≤ 1024 * n := by omega
  have hsize : ∀ k' : ℤ, k' = k ∨ k' = k + 1 → |k'| ≤ 1024 * 1024 := by
    intro k' hk'
    rw [abs_le]
    omega
  calc toFloat (((n - 1 : ℤ) : ℚ) / 100) ≤ (k : ℚ) / 1024 := by
        refine roundBits_le (by norm_num) (hfloat k (hsize k (.inl rfl))) ?_
        rw [div_le_div_iff₀ (by norm_num) (by norm_num)]
        exact_mod_cast (by linarith : (n - 1) * 1024 ≤ k * 100)
    _ < ((k + 1 : ℤ) : ℚ) / 1024 := by
        rw [div_lt_div_iff_of_pos_right (by norm_num)]
        exact_mod_cast Int.lt_succ k
    _ ≤ toFloat ((n : ℚ) / 100) := by
        refine le_roundBits (by norm_num) (hfloat (k + 1) (hsize (k + 1) (.inr rfl))) ?_
        rw [div_le_div_iff₀ (by norm_num) (by norm_num)]
        exact_mod_cast (by linarith : (k + 1) * 100 ≤ n * 1024)

/-- The quantized value of a number of hundredths. -/
def quantum (n : ℤ) : ℚ := toFloat (toFloat n / 100)

lemma le_quantum {n bound : ℤ} (hbound : |bound| ≤ 1024 * 1024) (h : bound ≤ n) :
    toFloat ((bound : ℚ) / 100) ≤ quantum n := by
  refine toFloat_mono (div_le_div_of_nonneg_right ?_ (by norm_num))
  rw [← toFloat_small hbound]
  exact toFloat_mono (by exact_mod_cast h)

lemma quantum_le {n bound : ℤ} (hbound : |bound| ≤ 1024 * 1024) (h : n ≤ bound) :
    quantum n ≤ toFloat ((bound : ℚ) / 100) := by
  refine toFloat_mono (div_le_div_of_nonneg_right ?_ (by norm_num))
  rw [← toFloat_small hbound]
  exact toFloat_mono (by exact_mod_cast h)

/-- **Quantized numbers compare as their hundredths do**, with a bound that is not large. -/
theorem quantum_lt_iff {n bound : ℤ} (hlow : -500 ≤ bound) (hhigh : bound ≤ 500) :
    quantum n < toFloat ((bound : ℚ) / 100) ↔ n < bound := by
  have hsize : |bound| ≤ 1024 * 1024 ∧ |bound - 1| ≤ 1024 * 1024 := by
    constructor <;> (rw [abs_le]; omega)
  constructor
  · intro h
    by_contra hn
    exact absurd h (le_quantum hsize.1 (not_lt.mp hn)).not_gt
  · intro h
    exact (quantum_le hsize.2 (Int.le_sub_one_of_lt h)).trans_lt
      (toFloat_hundredth_lt (by omega) (by omega))

/-- Comparing a quantized number with a bound of the table, as the parser does in `float`, is
comparing hundredths: the two roundings do not bring a number onto a bound or across it. -/
theorem lt_quantum_iff {n bound : ℤ} (hlow : -500 ≤ bound) (hhigh : bound ≤ 500) :
    toFloat ((bound : ℚ) / 100) < quantum n ↔ bound < n := by
  have hsize : |bound| ≤ 1024 * 1024 ∧ |bound + 1| ≤ 1024 * 1024 := by
    constructor <;> (rw [abs_le]; omega)
  constructor
  · intro h
    by_contra hn
    exact absurd h (quantum_le hsize.1 (not_lt.mp hn)).not_gt
  · intro h
    have hstep := toFloat_hundredth_lt (n := bound + 1) (by omega) (by omega)
    rw [add_sub_cancel_right] at hstep
    exact hstep.trans_le (le_quantum hsize.2 h)

/-! ## No quantized number is too large for its message -/

/-- The float next to `2 ^ 63 / 100` is a little smaller than that. -/
def largestQuantum : ℚ := 10737418 * 2 ^ 33

lemma toFloat_largest : toFloat (2 ^ 63 / 100) = largestQuantum := by
  have hfloor : ⌊(2 ^ 63 / 100 / 2 ^ (33 : ℤ) : ℚ)⌋ = 10737418 := by
    rw [Int.floor_eq_iff]
    norm_num
  have hround : roundEven (2 ^ 63 / 100 / 2 ^ (33 : ℤ) : ℚ) = 10737418 := by
    rw [roundEven_of_lt, hfloor]
    rw [hfloor]
    norm_num
  rw [toFloat, roundBits_eq (e := 33) (by norm_num) (by norm_num), hround, largestQuantum]
  norm_num

lemma abs_quantum_le {n : ℤ} (h : InLong n) : |quantum n| ≤ largestQuantum := by
  have hpow : Representable 24 ((2 : ℚ) ^ 63) := representable_zpow (by norm_num) 63
  have hmin : (-2 ^ 63 : ℚ) ≤ n := by exact_mod_cast h.1
  have hmax : (n : ℚ) ≤ 2 ^ 63 := by exact_mod_cast h.2.trans (by norm_num [longMax])
  rw [abs_le, quantum]
  constructor
  · rw [← toFloat_largest, toFloat, ← roundBits_neg, ← neg_div]
    exact toFloat_mono (div_le_div_of_nonneg_right
      (le_roundBits (by norm_num) hpow.neg hmin) (by norm_num))
  · rw [← toFloat_largest]
    exact toFloat_mono (div_le_div_of_nonneg_right
      (roundBits_le (by norm_num) hpow hmax) (by norm_num))

/-- **What `format_param` converts** is in the range of `long`, and never its minimum. -/
theorem formatted_mem {value : ℚ} (h : |value| ≤ largestQuantum) :
    longMin < Rounding.roundAway (toDouble (value * 100))
      ∧ Rounding.roundAway (toDouble (value * 100)) ≤ longMax := by
  have hlarge : Representable 53 ((1073741800 * 2 ^ 33 : ℤ) : ℚ) :=
    ⟨1073741800, 33, by norm_num, by norm_num⟩
  rcases abs_le.mp h with ⟨hlow, hhigh⟩
  rw [largestQuantum] at hlow hhigh
  have hleast : ((-(1073741800 * 2 ^ 33) : ℤ) : ℚ) ≤ toDouble (value * 100) := by
    rw [Int.cast_neg]
    refine le_roundBits (by norm_num) hlarge.neg ?_
    push_cast
    linarith
  have hmost : toDouble (value * 100) ≤ ((1073741800 * 2 ^ 33 : ℤ) : ℚ) := by
    refine roundBits_le (by norm_num) hlarge ?_
    push_cast
    linarith
  have hbounds := Rounding.roundAway_mem_Icc hleast hmost
  have hmin : longMin = -2 ^ 63 := rfl
  have hmax : longMax = 2 ^ 63 - 1 := rfl
  omega

/-! ## One parameter -/

/-- The hundredths of a number are within the range of `long`. -/
def Fits (number : ℚ) : Prop := InLong (Rounding.roundAway (number * 100))

section Parameter

variable {c c' : CLib} {number : ℚ}

/-- The product in `double` is exact. -/
lemma toDouble_mul_hundred (h : Representable 24 number) :
    toDouble (number * 100) = number * 100 := by
  have hproduct : Representable 53 (number * ((100 : ℤ) : ℚ)) :=
    (h.mul_int (q := 7) (by norm_num)).mono (by norm_num)
  exact roundBits_of_representable (by exact_mod_cast hproduct)

lemma quantizeParam_of_fits (c : CLib) (hfloat : Representable 24 number) (h : Fits number) :
    c.quantizeParam number
      = (quantum (Rounding.roundAway (number * 100)), [.lround (number * 100)]) := by
  rw [CLib.quantizeParam, toDouble_mul_hundred hfloat, c.lround_eq _ h]
  rfl

/-- The message of a value that is not too large: no library has a say in it. -/
lemma formatParam_of_le (c : CLib) {value : ℚ} (h : |value| ≤ largestQuantum) :
    c.formatParam value
      = (CLib.paramText (Rounding.roundAway (toDouble (value * 100)))
          |Rounding.roundAway (toDouble (value * 100))|,
        [.lround (toDouble (value * 100)),
          .labs (Rounding.roundAway (toDouble (value * 100)))]) := by
  rcases formatted_mem h with ⟨hlow, hhigh⟩
  rw [CLib.formatParam, c.lround_eq _ ⟨hlow.le, hhigh⟩, c.labs_eq _ hlow.ne']

lemma formatParam_specified (c : CLib) {value : ℚ} (h : |value| ≤ largestQuantum) :
    ∀ conversion ∈ (c.formatParam value).2, conversion.Specified := by
  rcases formatted_mem h with ⟨hlow, hhigh⟩
  rw [formatParam_of_le c h]
  intro conversion hconversion
  rcases List.mem_pair.mp hconversion with rfl | rfl
  · exact ⟨hlow.le, hhigh⟩
  · exact hlow.ne'

/-- The bounds of the table are whole hundredths, and not large. -/
lemma opSpec_hundredths (kind : OpKind) :
    ∃ low high : ℤ, (opSpec kind).minParam = low / 100 ∧ (opSpec kind).maxParam = high / 100
      ∧ -500 ≤ low ∧ low ≤ 500 ∧ -500 ≤ high ∧ high ≤ 500 := by
  cases kind with
  | kBrightness => exact ⟨-100, 100, by decide +kernel⟩
  | kThreshold => exact ⟨0, 100, by decide +kernel⟩
  | kGaussian => exact ⟨10, 400, by decide +kernel⟩
  | _ => exact ⟨0, 0, by decide +kernel⟩

/-- A bound of the table, as a float, is no large number. -/
lemma abs_toFloat_bound {n : ℤ} (hlow : -500 ≤ n) (hhigh : n ≤ 500) :
    |toFloat ((n : ℚ) / 100)| ≤ largestQuantum := by
  have hsmall : |n| ≤ 1024 * 1024 := by
    rw [abs_le]
    omega
  have hquantum : toFloat ((n : ℚ) / 100) = quantum n := by rw [quantum, toFloat_small hsmall]
  have hmin : longMin = -2 ^ 63 := rfl
  have hmax : longMax = 2 ^ 63 - 1 := rfl
  rw [hquantum]
  refine abs_quantum_le ⟨?_, ?_⟩ <;> omega

lemma opSpec_bounds_le {spec : OpSpec} (hspec : spec ∈ kOpSpecs) :
    |toFloat spec.minParam| ≤ largestQuantum ∧ |toFloat spec.maxParam| ≤ largestQuantum := by
  rcases opSpec_hundredths spec.kind with ⟨low, high, hmin, hmax, h₁, h₂, h₃, h₄⟩
  rw [← mem_kOpSpecs hspec] at hmin hmax
  rw [hmin, hmax]
  exact ⟨abs_toFloat_bound h₁ h₂, abs_toFloat_bound h₃ h₄⟩

/-- What a quantized number is compared with. -/
lemma outside_iff {spec : OpSpec} (hspec : spec ∈ kOpSpecs) (n : ℤ) :
    quantum n < toFloat spec.minParam ∨ quantum n > toFloat spec.maxParam
      ↔ ¬InBounds spec.kind ((n : ℚ) / 100) := by
  rcases opSpec_hundredths spec.kind with ⟨low, high, hmin, hmax, h₁, h₂, h₃, h₄⟩
  rw [InBounds, ← mem_kOpSpecs hspec] at *
  rw [hmin, hmax, gt_iff_lt, quantum_lt_iff h₁ h₂, lt_quantum_iff h₃ h₄, not_and_or, not_le, not_le,
    div_lt_div_iff_of_pos_right (by norm_num), div_lt_div_iff_of_pos_right (by norm_num),
    Int.cast_lt, Int.cast_lt]

/-- **Only the first conversion may be unspecified**: whatever `lround` has returned, its result is
not too large for the message. -/
theorem parseParam_trace (c : CLib) {spec : OpSpec} (hspec : spec ∈ kOpSpecs) (name : List Char)
    (number : ℚ) : ∀ conversion ∈ (c.parseParam spec name number).2,
      conversion = .lround (toDouble (number * 100)) ∨ conversion.Specified := by
  have hvalue : |(c.quantizeParam number).1| ≤ largestQuantum := abs_quantum_le (c.lround_long _)
  rcases opSpec_bounds_le hspec with ⟨hlow, hhigh⟩
  have hfirst : ∀ conversion ∈ (c.quantizeParam number).2,
      conversion = .lround (toDouble (number * 100)) ∨ conversion.Specified :=
    fun conversion hconversion => .inl (List.mem_singleton.mp hconversion)
  rw [CLib.parseParam]
  dsimp only
  split
  · simp only [List.forall_mem_append]
    exact ⟨⟨⟨hfirst, fun _ hmem => .inr (formatParam_specified c hvalue _ hmem)⟩,
      fun _ hmem => .inr (formatParam_specified c hlow _ hmem)⟩,
      fun _ hmem => .inr (formatParam_specified c hhigh _ hmem)⟩
  · exact hfirst

lemma first_mem_parseParam (c : CLib) (spec : OpSpec) (name : List Char) (number : ℚ) :
    .lround (toDouble (number * 100)) ∈ (c.parseParam spec name number).2 := by
  have hfirst : .lround (toDouble (number * 100)) ∈ (c.quantizeParam number).2 :=
    List.mem_singleton.mpr rfl
  rw [CLib.parseParam]
  dsimp only
  split
  · exact List.mem_append_left _ (List.mem_append_left _ (List.mem_append_left _ hfirst))
  · exact hfirst

/-- So the conversions are specified if the number fits, and only then. -/
lemma parseParam_specified_iff (c : CLib) {spec : OpSpec} (hspec : spec ∈ kOpSpecs)
    (name : List Char) (hfloat : Representable 24 number) :
    (∀ conversion ∈ (c.parseParam spec name number).2, conversion.Specified) ↔ Fits number := by
  have htrace := parseParam_trace c hspec name number
  have hfirst := first_mem_parseParam c spec name number
  rw [toDouble_mul_hundred hfloat] at htrace hfirst
  constructor
  · exact fun hall => hall _ hfirst
  · intro hfits conversion hconversion
    rcases htrace conversion hconversion with rfl | hspecified
    · exact hfits
    · exact hspecified

/-- **A number that fits** is quantized and compared in the same way by every library, and accepted
if its hundredths are within bounds. -/
theorem parseParam_of_fits (c c' : CLib) {spec : OpSpec} (hspec : spec ∈ kOpSpecs)
    (name : List Char) (hfloat : Representable 24 number) (h : Fits number) :
    c'.parseParam spec name number = c.parseParam spec name number
      ∧ ((∃ op, (c.parseParam spec name number).1 = .ok op)
        ↔ InBounds spec.kind (hundredthsOf number)) := by
  have hvalue := abs_quantum_le h
  rcases opSpec_bounds_le hspec with ⟨hlow, hhigh⟩
  have houtside := outside_iff hspec (Rounding.roundAway (number * 100))
  refine ⟨?_, ?_⟩
  · simp only [CLib.parseParam, quantizeParam_of_fits _ hfloat h, formatParam_of_le _ hvalue,
      formatParam_of_le _ hlow, formatParam_of_le _ hhigh]
  · rw [CLib.parseParam, quantizeParam_of_fits c hfloat h, hundredthsOf]
    dsimp only
    split
    · rename_i hout
      refine iff_of_false ?_ (houtside.mp hout)
      rintro ⟨op, hop⟩
      cases hop
    · rename_i hin
      exact iff_of_true ⟨_, rfl⟩ (not_not.mp (mt houtside.mpr hin))

end Parameter

/-! ## One piece -/

/-- A piece between two commas that gives an op a number: a name of the table, a colon, and a number
that the lexer reads. -/
inductive Numbered (strtof : List Char → Option ℚ) (piece : List Char) (spec : OpSpec)
    (number : ℚ) : Prop where
  | intro {left right parameter : List Char}
      (hspec : spec ∈ kOpSpecs) (htakes : spec.takesParam = true)
      (hpiece : Strips isSpace piece (left ++ ':' :: right)) (hcolon : ':' ∉ left)
      (hname : Strips isSpace left spec.name.toList) (hright : Strips isSpace right parameter)
      (hparameter : parameter ≠ []) (hnumber : strtof parameter = some number)

section Piece

variable {strtof : List Char → Option ℚ} {piece : List Char} {spec : OpSpec} {number : ℚ}

/-- How the parser takes such a piece apart. -/
lemma numbered_iff : Numbered strtof piece spec number
    ↔ trim piece ≠ [] ∧ findSpec (trim ((trim piece).takeWhile (· != ':'))) = some spec
      ∧ spec.takesParam = true ∧ ∃ c right, (trim piece).dropWhile (· != ':') = c :: right
        ∧ parseFloat strtof (trim right) = some number := by
  constructor
  · rintro @⟨left, right, parameter, hspec, htakes, hpiece, hcolon, hname, hright, hparameter,
      hnumber⟩
    have hall : ∀ c ∈ left, (c == ':') = false := by
      intro c hc
      simpa using fun heq : c = ':' => hcolon (heq ▸ hc)
    have htake : (left ++ ':' :: right).takeWhile (· != ':') = left :=
      takeWhile_cut hall (by rfl) right
    have hdrop : (left ++ ':' :: right).dropWhile (· != ':') = ':' :: right :=
      dropWhile_cut hall (by rfl) right
    rw [trim_iff.mpr hpiece, htake, hdrop, trim_iff.mpr hname]
    refine ⟨by simp, findSpec_iff.mpr ⟨hspec, rfl⟩, htakes, ':', right, rfl, ?_⟩
    rw [trim_iff.mpr hright, parseFloat, if_neg hparameter, hnumber]
  · rintro ⟨-, hfind, htakes, c, right, hdrop, hnumber⟩
    have hsplit := List.takeWhile_append_dropWhile (p := (· != ':')) (l := trim piece)
    have hleft : ':' ∉ (trim piece).takeWhile (· != ':') := by
      intro hmem
      simpa using List.mem_takeWhile_imp hmem
    have hc : c = ':' := by
      have hnot := List.head?_dropWhile_not (· != ':') (trim piece)
      rw [hdrop] at hnot
      simpa using hnot
    rcases findSpec_iff.mp hfind with ⟨hspec, hname⟩
    rw [parseFloat] at hnumber
    split_ifs at hnumber with hparameter
    rw [hdrop, hc] at hsplit
    exact .intro hspec htakes (by rw [hsplit]; exact trim_iff.mp rfl) hleft
      (trim_iff.mp hname.symm) (trim_iff.mp rfl) hparameter hnumber

lemma Numbered.unique {spec' : OpSpec} {number' : ℚ} (h : Numbered strtof piece spec number)
    (h' : Numbered strtof piece spec' number') : number' = number := by
  rcases numbered_iff.mp h with ⟨-, -, -, c, right, hdrop, hnumber⟩
  rcases numbered_iff.mp h' with ⟨-, -, -, c', right', hdrop', hnumber'⟩
  rw [hdrop] at hdrop'
  cases hdrop'
  rw [hnumber] at hnumber'
  exact (Option.some.inj hnumber').symm

/-- What the parser makes of a number. -/
lemma parseOp_numbered (c : CLib) (h : Numbered c.strtof piece spec number) :
    c.parseOp (trim piece)
      = c.parseParam spec (trim ((trim piece).takeWhile (· != ':'))) number := by
  rcases numbered_iff.mp h with ⟨hne, hfind, htakes, colon, right, hdrop, hnumber⟩
  rw [CLib.parseOp, if_neg hne]
  simp only [hfind, hdrop, htakes, hnumber, Bool.not_true, Bool.false_eq_true, if_false]

/-- Without one nothing is converted, and the floats have no part in it. -/
lemma parseOp_unnumbered (c : CLib) (h : ∀ spec number, ¬Numbered c.strtof piece spec number) :
    c.parseOp (trim piece) = (parseOp c.strtof (trim piece), []) := by
  rw [CLib.parseOp, parseOp]
  split_ifs with hne
  · rfl
  dsimp only
  cases hfind : findSpec (trim ((trim piece).takeWhile (· != ':'))) with
  | none => rfl
  | some spec =>
      cases hdrop : (trim piece).dropWhile (· != ':') with
      | nil => rfl
      | cons colon right =>
          dsimp only
          split_ifs with htakes
          · rfl
          cases hnumber : parseFloat c.strtof (trim right) with
          | none => rfl
          | some number =>
              have hpiece : Numbered c.strtof piece spec number :=
                numbered_iff.mpr ⟨hne, hfind, by simpa using htakes, colon, right, hdrop, hnumber⟩
              exact absurd hpiece (h spec number)

/-- A number is an op's if its hundredths are within bounds. -/
lemma pieceOf_numbered (h : Numbered strtof piece spec number) :
    (∃ op, PieceOf strtof piece op) ↔ InBounds spec.kind (hundredthsOf number) := by
  have hbounds : InBounds spec.kind (quantizeParam number)
      ↔ InBounds spec.kind (hundredthsOf number) := by
    constructor
    · intro hquantized
      rwa [← quantizeParam_eq (.inl hquantized)]
    · intro hhundredths
      rwa [quantizeParam_eq (.inr hhundredths)]
  rcases h with @⟨left, right, parameter, hspec, htakes, hpiece, hcolon, hname, hright, hparameter,
    hnumber⟩
  have hread : parseFloat strtof (trim right) = some number := by
    rw [trim_iff.mpr hright, parseFloat, if_neg hparameter, hnumber]
  have haccepted : ∀ op, PieceOf strtof piece op ↔ InBounds spec.kind (quantizeParam number)
      ∧ op = ⟨spec.kind, quantizeParam number⟩ := by
    intro op
    rw [← parseOp_iff, trim_iff.mpr hpiece,
      parseOp_colon strtof right hspec hcolon (trim_iff.mpr hname)]
    simp [htakes, hread]
  simp only [haccepted, exists_and_left, exists_eq, and_true, hbounds]

/-- Every number of a piece fits. -/
def PieceFits (strtof : List Char → Option ℚ) (piece : List Char) : Prop :=
  ∀ spec number, Numbered strtof piece spec number → Fits number

lemma Numbered.spec_mem (h : Numbered strtof piece spec number) : spec ∈ kOpSpecs := by
  rcases h with ⟨hspec⟩
  exact hspec

lemma Numbered.representable {c : CLib} (h : Numbered c.strtof piece spec number) :
    Representable 24 number := by
  rcases h with @⟨_, _, parameter, _, _, _, _, _, _, _, hnumber⟩
  exact c.strtof_float parameter number hnumber

/-- **A piece's conversions** are specified if its number fits, and only then; `labs` is safe in any
case. -/
theorem parseOp_specified_iff (c : CLib) (piece : List Char) :
    ((∀ conversion ∈ (c.parseOp (trim piece)).2, conversion.Specified)
        ↔ PieceFits c.strtof piece)
      ∧ ∀ argument, .labs argument ∈ (c.parseOp (trim piece)).2 → argument ≠ longMin := by
  by_cases hpiece : ∃ spec number, Numbered c.strtof piece spec number
  · rcases hpiece with ⟨spec, number, hpiece⟩
    rw [parseOp_numbered c hpiece,
      parseParam_specified_iff c hpiece.spec_mem _ hpiece.representable]
    refine ⟨⟨?_, fun hfits => hfits spec number hpiece⟩, ?_⟩
    · intro hfits spec' number' hpiece'
      rwa [hpiece.unique hpiece']
    · intro argument hmem
      rcases parseParam_trace c hpiece.spec_mem _ number _ hmem with heq | hspecified
      · cases heq
      · exact hspecified
  · have hnone : ∀ spec number, ¬Numbered c.strtof piece spec number :=
      fun spec number hnumbered => hpiece ⟨spec, number, hnumbered⟩
    rw [parseOp_unnumbered c hnone]
    refine ⟨iff_of_true (List.forall_mem_nil _) ?_, ?_⟩
    · exact fun spec number hnumbered => absurd hnumbered (hnone spec number)
    · exact fun _ hmem => absurd hmem List.not_mem_nil

/-- **A piece whose number fits** is parsed in the same way by every library with its lexer, and
accepted if it is one of the grammar. -/
theorem parseOp_of_fits {c c' : CLib} (hlexer : c'.strtof = c.strtof)
    (h : PieceFits c.strtof piece) :
    c'.parseOp (trim piece) = c.parseOp (trim piece)
      ∧ ((∃ op, (c.parseOp (trim piece)).1 = .ok op) ↔ ∃ op, PieceOf c.strtof piece op) := by
  by_cases hpiece : ∃ spec number, Numbered c.strtof piece spec number
  · rcases hpiece with ⟨spec, number, hpiece⟩
    rw [parseOp_numbered c hpiece, parseOp_numbered c' (hlexer ▸ hpiece), pieceOf_numbered hpiece]
    exact parseParam_of_fits c c' hpiece.spec_mem _ hpiece.representable (h spec number hpiece)
  · have hnone : ∀ spec number, ¬Numbered c.strtof piece spec number :=
      fun spec number hnumbered => hpiece ⟨spec, number, hnumbered⟩
    rw [parseOp_unnumbered c hnone, parseOp_unnumbered c' (hlexer ▸ hnone), hlexer]
    refine ⟨rfl, ?_⟩
    simp only [parseOp_iff]

end Piece

/-! ## Whole texts -/

/-- Each number that the parser comes to fits: the pieces before it are all ops. -/
def PiecesFit (strtof : List Char → Option ℚ) (pieces : List (List Char)) : Prop :=
  ∀ before piece after, pieces = before ++ piece :: after →
    (∀ earlier ∈ before, ∃ op, PieceOf strtof earlier op) → PieceFits strtof piece

/-- No number that the parser comes to in the text is too large for a `long`, in hundredths. -/
def NumbersFit (strtof : List Char → Option ℚ) (text : List Char) : Prop :=
  PiecesFit strtof (commaPieces (trim text))

lemma piecesFit_cons {strtof : List Char → Option ℚ} {piece : List Char}
    {pieces : List (List Char)} :
    PiecesFit strtof (piece :: pieces)
      ↔ PieceFits strtof piece ∧ ((∃ op, PieceOf strtof piece op) → PiecesFit strtof pieces) := by
  constructor
  · intro h
    refine ⟨h [] piece pieces rfl (List.forall_mem_nil _), ?_⟩
    rintro hpiece before other after rfl hbefore
    refine h (piece :: before) other after rfl ?_
    exact List.forall_mem_cons.mpr ⟨hpiece, hbefore⟩
  · rintro ⟨hpiece, hrest⟩ before other after heq hbefore
    cases before with
    | nil =>
        cases heq
        exact hpiece
    | cons first before =>
        cases heq
        rcases List.forall_mem_cons.mp hbefore with ⟨hfirst, hbefore⟩
        exact hrest hfirst before other after rfl hbefore

/-- **The loop over the pieces**, by induction on them: a piece that is no op ends it. -/
theorem parseOps_specified_iff (c : CLib) (pieces : List (List Char)) :
    ((∀ conversion ∈ (c.parseOps pieces).2, conversion.Specified)
        ↔ PiecesFit c.strtof pieces)
      ∧ ∀ argument, .labs argument ∈ (c.parseOps pieces).2 → argument ≠ longMin := by
  induction pieces with
  | nil =>
      refine ⟨iff_of_true (List.forall_mem_nil _) ?_, ?_⟩
      · intro before piece after heq
        exact absurd heq.symm (List.append_ne_nil_of_right_ne_nil _ (List.cons_ne_nil _ _))
      · exact fun _ hmem => absurd hmem List.not_mem_nil
  | cons piece pieces ih =>
      rcases parseOp_specified_iff c piece with ⟨hfirst, hlabs⟩
      have haccepted : PieceFits c.strtof piece → _ :=
        fun hfits => (parseOp_of_fits (rfl : c.strtof = c.strtof) hfits).2
      rw [piecesFit_cons, CLib.parseOps]
      rcases hop : c.parseOp (trim piece) with ⟨message | op, trace⟩
      · rw [hop] at hfirst hlabs haccepted
        refine ⟨hfirst.trans ⟨fun hfits => ⟨hfits, ?_⟩, And.left⟩, hlabs⟩
        intro hpiece
        rcases (haccepted hfits).mpr hpiece with ⟨op, hok⟩
        cases hok
      · rw [hop] at hfirst hlabs haccepted
        dsimp only at hfirst hlabs ⊢
        refine ⟨?_, ?_⟩
        · rw [List.forall_mem_append, hfirst, ih.1]
          constructor
          · rintro ⟨hfits, hrest⟩
            exact ⟨hfits, fun _ => hrest⟩
          · rintro ⟨hfits, hrest⟩
            exact ⟨hfits, hrest ((haccepted hfits).mp ⟨op, rfl⟩)⟩
        · intro argument hmem
          rcases List.mem_append.mp hmem with hmem | hmem
          · exact hlabs argument hmem
          · exact ih.2 argument hmem

/-- When the numbers fit, the answer is the same for every library with this lexer, and the texts
accepted are those of the grammar. -/
theorem parseOps_of_fit {c c' : CLib} (hlexer : c'.strtof = c.strtof)
    {pieces : List (List Char)} (h : PiecesFit c.strtof pieces) :
    c'.parseOps pieces = c.parseOps pieces
      ∧ ((∃ ops, (c.parseOps pieces).1 = .ok ops)
        ↔ ∃ ops, List.Forall₂ (PieceOf c.strtof) pieces ops) := by
  induction pieces with
  | nil => exact ⟨rfl, iff_of_true ⟨[], rfl⟩ ⟨[], .nil⟩⟩
  | cons piece pieces ih =>
      rcases piecesFit_cons.mp h with ⟨hfits, hrest⟩
      rcases parseOp_of_fits hlexer hfits with ⟨hsame, haccepted⟩
      rw [CLib.parseOps, CLib.parseOps, hsame]
      rcases hop : c.parseOp (trim piece) with ⟨message | op, trace⟩
      · rw [hop] at haccepted
        refine ⟨rfl, iff_of_false ?_ ?_⟩
        · rintro ⟨ops, hops⟩
          cases hops
        · rintro ⟨ops, hops⟩
          cases hops with
          | cons hpiece _ =>
              rcases haccepted.mpr ⟨_, hpiece⟩ with ⟨op, hop⟩
              cases hop
      · rw [hop] at haccepted
        have hpiece := haccepted.mp ⟨op, rfl⟩
        rcases ih (hrest hpiece) with ⟨hothers, hgrammar⟩
        dsimp only
        rw [hothers]
        refine ⟨rfl, ?_⟩
        constructor
        · rintro ⟨ops, hops⟩
          cases hlater : (c.parseOps pieces).1 with
          | error message =>
              rw [hlater] at hops
              cases hops
          | ok rest =>
              rcases hgrammar.mp ⟨rest, hlater⟩ with ⟨rest', hrest'⟩
              rcases hpiece with ⟨first, hfirst⟩
              exact ⟨first :: rest', .cons hfirst hrest'⟩
        · rintro ⟨ops, hops⟩
          cases hops with
          | cons _ hlater =>
              rcases hgrammar.mpr ⟨_, hlater⟩ with ⟨rest, hrest⟩
              exact ⟨op :: rest, by rw [hrest]; rfl⟩

/-- **Every conversion is specified if and only if the numbers fit.**  Take any text, and any
library that keeps its promises.  Each argument of `lround`, in `quantize_param` and in the
messages, rounds to a `long`, and no argument of `labs` is the least `long`, exactly if the
hundredths of each number that the parser comes to are within the range of `long`.  The messages
add no condition of their own, and `labs` is safe for every text.  When the numbers fit, the answer
is the same whatever the library does where nothing is promised, and the texts accepted are those
that exact arithmetic accepts. -/
theorem conversions_specified_iff (c : CLib) (text : List Char) :
    ((∀ conversion ∈ (c.parseOpChain text).2, conversion.Specified)
        ↔ NumbersFit c.strtof text)
      ∧ (∀ argument, .labs argument ∈ (c.parseOpChain text).2 → argument ≠ longMin)
      ∧ (NumbersFit c.strtof text →
        (∀ c' : CLib, c'.strtof = c.strtof → c'.parseOpChain text = c.parseOpChain text)
          ∧ ((∃ chain, (c.parseOpChain text).1 = .ok chain)
            ↔ ∃ chain, parseOpChain c.strtof text = .ok chain)) := by
  by_cases hbody : trim text = []
  · have hblank : NumbersFit c.strtof text := by
      rw [NumbersFit, hbody]
      refine piecesFit_cons.mpr ⟨?_, fun _ before piece after heq => ?_⟩
      · intro spec number hnumbered
        exact absurd rfl (numbered_iff.mp hnumbered).1
      · exact absurd heq.symm (List.append_ne_nil_of_right_ne_nil _ (List.cons_ne_nil _ _))
    have hparsed : ∀ c' : CLib, c'.parseOpChain text = (.ok ⟨[]⟩, []) := by
      intro c'
      rw [CLib.parseOpChain]
      exact if_pos hbody
    rw [hparsed c, parseOpChain, hbody]
    refine ⟨iff_of_true (List.forall_mem_nil _) hblank,
      fun _ hmem => absurd hmem List.not_mem_nil, fun _ => ⟨?_, ?_⟩⟩
    · exact fun c' _ => hparsed c'
    · exact iff_of_true ⟨_, rfl⟩ ⟨_, rfl⟩
  · have hparsed : ∀ c' : CLib, c'.parseOpChain text
        = ((c'.parseOps (commaPieces (trim text))).1.map OpChain.mk,
          (c'.parseOps (commaPieces (trim text))).2) := by
      intro c'
      rw [CLib.parseOpChain]
      exact if_neg hbody
    rw [hparsed c]
    refine ⟨(parseOps_specified_iff c _).1, (parseOps_specified_iff c _).2, fun hfit => ⟨?_, ?_⟩⟩
    · intro c' hlexer
      rw [hparsed c', (parseOps_of_fit hlexer hfit).1]
    · have haccepted := (parseOps_of_fit (rfl : c.strtof = c.strtof) hfit).2
      simp only [← parseOps_iff] at haccepted
      simp only [parseOpChain, if_neg hbody]
      constructor
      · rintro ⟨chain, hchain⟩
        cases hops : (c.parseOps (commaPieces (trim text))).1 with
        | error message =>
            rw [hops] at hchain
            cases hchain
        | ok ops =>
            rcases haccepted.mp ⟨ops, hops⟩ with ⟨exact', hexact⟩
            exact ⟨⟨exact'⟩, by rw [hexact]; rfl⟩
      · rintro ⟨chain, hchain⟩
        cases hops : parseOps c.strtof (commaPieces (trim text)) with
        | error message =>
            rw [hops] at hchain
            cases hchain
        | ok ops =>
            rcases haccepted.mpr ⟨ops, hops⟩ with ⟨rounded, hrounded⟩
            exact ⟨⟨rounded⟩, by rw [hrounded]; rfl⟩

/-! ## A number with thirty zeros -/

namespace LargeNumber

/-- The float that `1e30` is read as. -/
def thirtyZeros : ℚ := 13234890 * 2 ^ 76

/-- A lexer that knows one token. -/
def lexer (token : List Char) : Option ℚ :=
  if token = "1e30".toList then some thirtyZeros else none

lemma lexer_float (token : List Char) (value : ℚ) (h : lexer token = some value) :
    Representable 24 value := by
  rw [lexer] at h
  split_ifs at h
  cases h
  exact ⟨13234890, 76, by norm_num, by norm_num [thirtyZeros]⟩

/-- `lround`, with `unspecified` for what is no `long`. -/
def roundOr (unspecified : ℤ) (x : ℚ) : ℤ :=
  if InLong (Rounding.roundAway x) then Rounding.roundAway x else unspecified

lemma roundOr_long {unspecified : ℤ} (h : InLong unspecified) (x : ℚ) :
    InLong (roundOr unspecified x) := by
  rw [roundOr]
  split_ifs with hx
  · exact hx
  · exact h

lemma roundOr_eq (unspecified : ℤ) (x : ℚ) (h : InLong (Rounding.roundAway x)) :
    roundOr unspecified x = Rounding.roundAway x := if_pos h

/-- A library that keeps its promises. -/
def lib (unspecified : ℤ) (h : InLong unspecified) : CLib where
  strtof := lexer
  strtof_float := lexer_float
  lround := roundOr unspecified
  lround_long := roundOr_long h
  lround_eq := roundOr_eq unspecified
  labs n := |n|
  labs_eq _ _ := rfl

/-- A text whose one number is quantized to something that is no `long`. -/
def text : List Char := "brightness:1e30".toList

lemma inLong_min : InLong longMin := by decide

lemma inLong_fifty : InLong 50 := by decide

/-- **The same text is accepted or rejected as the library pleases**: as a brightness of one half
where `lround` returns 50, and not where it returns the least `long`. -/
theorem conversions_unspecified :
    (∃ conversion ∈ ((lib longMin inLong_min).parseOpChain text).2, ¬conversion.Specified)
      ∧ (∃ message, ((lib longMin inLong_min).parseOpChain text).1 = .error message)
      ∧ ((lib 50 inLong_fifty).parseOpChain text).1 = .ok ⟨[⟨.kBrightness, 1 / 2⟩]⟩ := by
  refine ⟨⟨.lround (thirtyZeros * 100), ?_, ?_⟩, ?_, ?_⟩
  · decide +kernel
  · change ¬InLong (Rounding.roundAway (thirtyZeros * 100))
    decide +kernel
  · have hrejected : ((lib longMin inLong_min).parseOpChain text).1.isOk = false := by
      decide +kernel
    cases hparsed : ((lib longMin inLong_min).parseOpChain text).1 with
    | ok chain =>
        rw [hparsed] at hrejected
        cases hrejected
    | error message => exact ⟨message, rfl⟩
  · have haccepted : ((lib 50 inLong_fifty).parseOpChain text).1.toOption
        = some ⟨[⟨.kBrightness, 1 / 2⟩]⟩ := by
      decide +kernel
    cases hparsed : ((lib 50 inLong_fifty).parseOpChain text).1 with
    | ok chain =>
        rw [hparsed] at haccepted
        exact congrArg Except.ok (Option.some.inj haccepted)
    | error message =>
        rw [hparsed] at haccepted
        cases haccepted

end LargeNumber

end Imgjit
