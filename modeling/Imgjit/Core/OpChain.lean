import Imgjit.Core.CppTypes

/-!
# The op-chain IR

What a client asks for, and the sole input to both the CPU oracle and CUDA codegen: a list of ops
from a closed set of six, each with one parameter quantized to two decimals.  Everything downstream
relies on the parser: the code generator refuses what the parser cannot produce, the cache compares
parameters as hundredths, and the oracle's loops are bounded by the parameter's bounds.

**The table.**  `kOpSpecs` is the static table of names, defaults and bounds that every other part
reads.  Its entries are data, and every default passes its own check.

**The parser.**  `parseOpChain` is the parser of the wire descriptor, with its error texts.  Text is
a list of bytes read as characters; `strtof` is the C number lexer, which says for a whole token
whether it is a finite number and which one.  It is a parameter, since its code is the C library's.

**The printer.**  `canonicalString` prints a chain as the parser can read it.

**What is known of a parsed chain.**  `AdmittedChain` is what later files assume of a chain
(`parseOpChain_admitted`): a parameter is a whole number of hundredths inside the bounds of its op,
and `0` on the ops that take none.
-/

namespace Imgjit

/-! ## The op table -/

/-- The closed set of ops. -/
inductive OpKind where
  | kGrayscale
  | kInvert
  | kBrightness
  | kThreshold
  | kGaussian
  | kSobel
  deriving DecidableEq, Repr

/-- `static_cast<std::uint8_t>(kind)`. -/
def OpKind.toByte : OpKind → UInt8
  | kGrayscale => 0
  | kInvert => 1
  | kBrightness => 2
  | kThreshold => 3
  | kGaussian => 4
  | kSobel => 5

lemma OpKind.toByte_injective : Function.Injective toByte := by
  intro a b h
  cases a <;> cases b <;> first | rfl | exact absurd h (by decide)

/-- One op of a chain; the parameter of an op that takes none is `0`. -/
structure Op where
  kind : OpKind
  param : ℚ := 0
  deriving DecidableEq, Repr

/-- A chain: its ops, in the order in which they are applied. -/
structure OpChain where
  ops : List Op
  deriving DecidableEq, Repr

/-- An entry of the op table. -/
structure OpSpec where
  kind : OpKind
  name : String
  takesParam : Bool
  isStencil : Bool
  defaultParam : ℚ
  minParam : ℚ
  maxParam : ℚ
  deriving DecidableEq, Repr

/-- The closed op set.  The cap on `gaussian` is what bounds the stencil radius. -/
def kOpSpecs : List OpSpec :=
  [⟨.kGrayscale, "grayscale", false, false, 0, 0, 0⟩,
   ⟨.kInvert, "invert", false, false, 0, 0, 0⟩,
   ⟨.kBrightness, "brightness", true, false, 0, -1, 1⟩,
   ⟨.kThreshold, "threshold", true, false, 1 / 2, 0, 1⟩,
   ⟨.kGaussian, "gaussian", true, true, 1, 1 / 10, 4⟩,
   ⟨.kSobel, "sobel", false, true, 0, 0, 0⟩]

/-- `op_spec`: the table indexed by the enumerator. -/
def opSpec (kind : OpKind) : OpSpec :=
  kOpSpecs.get ⟨kind.toByte.toNat, by cases kind <;> decide⟩

@[simp] lemma opSpec_kind (kind : OpKind) : (opSpec kind).kind = kind := by
  cases kind <;> rfl

lemma mem_kOpSpecs {spec : OpSpec} (h : spec ∈ kOpSpecs) : spec = opSpec spec.kind := by
  simp only [kOpSpecs, List.mem_cons, List.not_mem_nil, or_false] at h
  rcases h with rfl | rfl | rfl | rfl | rfl | rfl <;> rfl

/-! ## Parsing -/

/-- The whitespace the parser ignores around names, colons and parameters. -/
def isSpace (c : Char) : Bool := c == ' ' || c == '\t' || c == '\r' || c == '\n'

/-- The text without the blanks at its two ends. -/
def trim (text : List Char) : List Char :=
  ((text.dropWhile isSpace).reverse.dropWhile isSpace).reverse

/-- The entry of the table with a given name. -/
def findSpec (name : List Char) : Option OpSpec :=
  kOpSpecs.find? fun spec => spec.name.toList == name

/-- `parse_float`: a non-empty token that the number lexer consumes whole. -/
def parseFloat (strtof : List Char → Option ℚ) (text : List Char) : Option ℚ :=
  if text = [] then none else strtof text

/-- `quantize_param`: two decimals. -/
def quantizeParam (value : ℚ) : ℚ := lround (value * 100) / 100

/-- `format_param`: two decimals, trailing zeros stripped, but never a bare integer. -/
def formatParam (value : ℚ) : List Char :=
  let scaled := lround (value * 100)
  let magnitude := scaled.natAbs
  let text := (if scaled < 0 then ['-'] else []) ++ (toString (magnitude / 100)).toList ++ ['.']
    ++ (toString (magnitude / 10 % 10)).toList
  let hundredths := magnitude % 10
  if hundredths ≠ 0 then text ++ (toString hundredths).toList else text

/-- The pieces of `body` between commas, in order: what successive `find(',', position)` calls
delimit.  There is always at least one. -/
def commaPieces : List Char → List (List Char)
  | [] => [[]]
  | c :: rest =>
      if c = ',' then [] :: commaPieces rest
      else
        match commaPieces rest with
        | [] => [[c]]
        | piece :: pieces => (c :: piece) :: pieces

/-- One turn of the parser's loop, on the trimmed token between two commas. -/
def parseOp (strtof : List Char → Option ℚ) (token : List Char) : Except String Op :=
  if token = [] then .error "empty op in chain"
  else
    let name := trim (token.takeWhile (· != ':'))
    match findSpec name with
    | none => .error ("unknown op '" ++ String.ofList name ++ "'")
    | some spec =>
        match token.dropWhile (· != ':') with
        | [] => .ok ⟨spec.kind, spec.defaultParam⟩
        | _ :: text =>
            if !spec.takesParam then
              .error ("op '" ++ String.ofList name ++ "' takes no parameter")
            else
              let parameter := trim text
              match parseFloat strtof parameter with
              | none =>
                  .error ("op '" ++ String.ofList name ++ "': '" ++ String.ofList parameter
                    ++ "' is not a number")
              | some number =>
                  let value := quantizeParam number
                  if value < spec.minParam ∨ value > spec.maxParam then
                    .error ("op '" ++ String.ofList name ++ "': parameter "
                      ++ String.ofList (formatParam value) ++ " is outside ["
                      ++ String.ofList (formatParam spec.minParam) ++ ", "
                      ++ String.ofList (formatParam spec.maxParam) ++ "]")
                  else .ok ⟨spec.kind, value⟩

/-- The loop over the pieces, stopping at the first one that is no op. -/
def parseOps (strtof : List Char → Option ℚ) : List (List Char) → Except String (List Op)
  | [] => .ok []
  | piece :: pieces => do
      let op ← parseOp strtof (trim piece)
      let ops ← parseOps strtof pieces
      .ok (op :: ops)

/-- `parse_op_chain`.  The error text is what the source writes through its error pointer.  A blank
text is the empty chain, an identity pass. -/
def parseOpChain (strtof : List Char → Option ℚ) (text : List Char) : Except String OpChain :=
  let body := trim text
  if body = [] then .ok ⟨[]⟩
  else do
    let ops ← parseOps strtof (commaPieces body)
    .ok ⟨ops⟩

/-- `canonical_string`: what a chain is called in the generated source. -/
def canonicalString (chain : OpChain) : List Char :=
  chain.ops.foldl (fun text op =>
    let spec := opSpec op.kind
    text ++ (if text = [] then [] else [',']) ++ spec.name.toList
      ++ (if spec.takesParam then ':' :: formatParam op.param else [])) []

/-! ## What a parsed chain satisfies -/

/-- An op as the parser returns it: its parameter is a whole number of hundredths within the bounds
of the table, and `0` where the table says the op takes none. -/
structure AdmittedOp (op : Op) : Prop where
  quantized : ∃ hundredths : ℤ, op.param = hundredths / 100
  min_le : (opSpec op.kind).minParam ≤ op.param
  le_max : op.param ≤ (opSpec op.kind).maxParam

/-- A chain as the parser returns it: every op is admitted. -/
def AdmittedChain (chain : OpChain) : Prop := ∀ op ∈ chain.ops, AdmittedOp op

/-- Every default passes its own range check. -/
lemma admitted_default (kind : OpKind) : AdmittedOp ⟨kind, (opSpec kind).defaultParam⟩ := by
  cases kind with
  | kThreshold =>
      refine ⟨⟨50, ?_⟩, ?_, ?_⟩
      · change (1 / 2 : ℚ) = (50 : ℤ) / 100
        norm_num
      · change (0 : ℚ) ≤ 1 / 2
        norm_num
      · change (1 / 2 : ℚ) ≤ 1
        norm_num
  | kGaussian =>
      refine ⟨⟨100, ?_⟩, ?_, ?_⟩
      · change (1 : ℚ) = (100 : ℤ) / 100
        norm_num
      · change (1 / 10 : ℚ) ≤ 1
        norm_num
      · change (1 : ℚ) ≤ 4
        norm_num
  | kBrightness =>
      refine ⟨⟨0, ?_⟩, ?_, ?_⟩
      · change (0 : ℚ) = (0 : ℤ) / 100
        norm_num
      · change (-1 : ℚ) ≤ 0
        norm_num
      · change (0 : ℚ) ≤ 1
        norm_num
  | _ =>
      refine ⟨⟨0, ?_⟩, le_refl (0 : ℚ), le_refl (0 : ℚ)⟩
      change (0 : ℚ) = (0 : ℤ) / 100
      norm_num

lemma findSpec_eq {name : List Char} {spec : OpSpec} (h : findSpec name = some spec) :
    spec = opSpec spec.kind :=
  mem_kOpSpecs (List.mem_of_find?_eq_some h)

lemma parseOp_admitted {strtof : List Char → Option ℚ} {token : List Char} {op : Op}
    (h : parseOp strtof token = .ok op) : AdmittedOp op := by
  unfold parseOp at h
  split_ifs at h
  simp only at h
  split at h
  · cases h
  · rename_i spec hspec
    have htable := findSpec_eq hspec
    split at h
    · cases h
      have hdefault := admitted_default spec.kind
      rwa [← htable] at hdefault
    · split_ifs at h
      split at h
      · cases h
      · rename_i number _
        split_ifs at h with hrange
        cases h
        rw [not_or, not_lt, not_lt] at hrange
        exact ⟨⟨lround (number * 100), rfl⟩, by rw [← htable]; exact hrange.1,
          by rw [← htable]; exact hrange.2⟩

lemma parseOps_admitted {strtof : List Char → Option ℚ} :
    ∀ {pieces : List (List Char)} {ops : List Op}, parseOps strtof pieces = .ok ops →
      ∀ op ∈ ops, AdmittedOp op
  | [], ops, h => by
      cases h
      simp
  | piece :: pieces, ops, h => by
      simp only [parseOps, bind, Except.bind] at h
      split at h
      · cases h
      · rename_i op hop
        split at h
        · cases h
        · rename_i rest hrest
          cases h
          intro op' hmem
          rcases List.mem_cons.mp hmem with rfl | hmem
          · exact parseOp_admitted hop
          · exact parseOps_admitted hrest op' hmem

/-- **A parsed chain is admitted**, whatever the number lexer. -/
theorem parseOpChain_admitted {strtof : List Char → Option ℚ} {text : List Char}
    {chain : OpChain} (h : parseOpChain strtof text = .ok chain) : AdmittedChain chain := by
  simp only [parseOpChain, bind, Except.bind] at h
  split_ifs at h with hbody
  · cases h
    intro op hmem
    simp at hmem
  · split at h
    · cases h
    · rename_i ops hops
      cases h
      exact parseOps_admitted hops

/-- No bound of the table leaves `[-1, 4]`. -/
lemma opSpec_bounds (kind : OpKind) :
    (-1 : ℚ) ≤ (opSpec kind).minParam ∧ (opSpec kind).maxParam ≤ (4 : ℚ) := by
  cases kind with
  | kBrightness => exact ⟨le_rfl, show (1 : ℚ) ≤ 4 by norm_num⟩
  | kThreshold => exact ⟨show (-1 : ℚ) ≤ 0 by norm_num, show (1 : ℚ) ≤ 4 by norm_num⟩
  | kGaussian => exact ⟨show (-1 : ℚ) ≤ 1 / 10 by norm_num, le_rfl⟩
  | _ => exact ⟨show (-1 : ℚ) ≤ 0 by norm_num, show (0 : ℚ) ≤ 4 by norm_num⟩

/-- So hundredths within an op's bounds are few. -/
lemma hundredths_range {kind : OpKind} {n : ℤ} (hmin : (opSpec kind).minParam ≤ n / 100)
    (hmax : n / 100 ≤ (opSpec kind).maxParam) : -100 ≤ n ∧ n ≤ 400 := by
  have hlow := (opSpec_bounds kind).1.trans hmin
  have hhigh := hmax.trans (opSpec_bounds kind).2
  constructor
  · have : (-100 : ℚ) ≤ n := by linarith
    exact_mod_cast this
  · have : (n : ℚ) ≤ 400 := by linarith
    exact_mod_cast this

/-- A parameter is a small number of hundredths. -/
lemma AdmittedOp.hundredths {op : Op} (h : AdmittedOp op) :
    ∃ n : ℤ, op.param = n / 100 ∧ -100 ≤ n ∧ n ≤ 400 := by
  obtain ⟨n, hn⟩ := h.quantized
  have hmin := h.min_le
  have hmax := h.le_max
  rw [hn] at hmin hmax
  exact ⟨n, hn, hundredths_range hmin hmax⟩

/-- A stencil's sigma, as the table bounds it. -/
lemma AdmittedOp.sigma_mem {op : Op} (h : AdmittedOp op) (hkind : op.kind = .kGaussian) :
    1 / 10 ≤ op.param ∧ op.param ≤ 4 := by
  have hmin := h.min_le
  have hmax := h.le_max
  rw [hkind] at hmin hmax
  exact ⟨hmin, hmax⟩

end Imgjit
