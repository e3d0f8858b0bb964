import Imgjit.Cuda.Codegen

/-!
# The text of a program

What `emit_cuda_source` writes for a translation unit, character by character.  The emitters build
programs of the kernel language; this is the printer that turns them into what NVRTC is given.  Each
syntactic form has one spelling, so the text is a function of the unit, and a reader can hold it
against the string literals of `codegen.cpp`.

The one thing that is left open is how a float is printed: `printf9g` is `snprintf` with `%.9g`, and
the suffix that makes its result a float literal is added here.

* `IntExpr.text`, `FloatExpr.text`, `Stmt.text` — expressions and statements, at an indent, with the
  parentheses that the source writes.
* `Constants.text`, `TapFunction.text`, `StageCode.text` — a stage: its constant arrays, its tap
  helper, its kernel.
* `TranslationUnit.header`, `TranslationUnit.text` — the header comment, and the whole unit behind
  the prelude.
-/

namespace Imgjit

namespace Cuda

/-! ## Expressions -/

/-- The axis, as the component of a CUDA vector. -/
def Axis.text : Axis → String
  | .x => "x"
  | .y => "y"

/-- The name of an `int` variable in the text. -/
def IntVar.text : IntVar → String
  | .x => "x"
  | .y => "y"
  | .i => "i"
  | .width => "width"
  | .height => "height"
  | .radius => "radius"
  | .sx => "sx"
  | .sy => "sy"
  | .lx => "lx"
  | .ly => "ly"
  | .tileX0 => "tile_x0"
  | .tileY0 => "tile_y0"
  | .k => "k"
  | .ty => "ty"
  | .tx => "tx"
  | .dy => "dy"
  | .dx => "dx"

/-- The name of a `float` variable in the text. -/
def FloatVar.text : FloatVar → String
  | .v => "v"
  | .t => "t"
  | .acc => "acc"
  | .gx => "gx"
  | .gy => "gy"
  | .g => "g"
  | .w => "w"

/-- The name of a stage's kernel. -/
def KernelName.text (name : KernelName) : String := "imgjit_stage" ++ toString name.index

/-- Parentheses, where they are needed. -/
def parenthesized (needed : Bool) (text : String) : String :=
  if needed then "(" ++ text ++ ")" else text

/-- Whether an expression is a sum, which needs parentheses inside a product. -/
def IntExpr.isSum : IntExpr → Bool
  | add _ _ => true
  | sub _ _ => true
  | _ => false

/-- A cast binds tighter than an operator. -/
def IntExpr.isOperation : IntExpr → Bool
  | mul _ _ => true
  | div _ _ => true
  | e => e.isSum

/-- The text of an `int` expression. -/
def IntExpr.text : IntExpr → String
  | lit value => toString value
  | var name => name.text
  | blockIdx axis => "blockIdx." ++ axis.text
  | threadIdx axis => "threadIdx." ++ axis.text
  | blockDim axis => "blockDim." ++ axis.text
  | ofUnsigned e => "(int)" ++ parenthesized e.isOperation e.text
  | neg e => "-" ++ e.text
  | add a b => a.text ++ " + " ++ parenthesized b.isSum b.text
  | sub a b => a.text ++ " - " ++ parenthesized b.isSum b.text
  | mul a b => parenthesized a.isSum a.text ++ " * " ++ parenthesized b.isSum b.text
  | div a b => parenthesized a.isSum a.text ++ " / " ++ parenthesized b.isSum b.text
  | clampCoord v limit => "imgjit_clamp_coord(" ++ v.text ++ ", " ++ limit.text ++ ")"

section Printing

variable (printf9g : ℚ → String)

/-- `float_literal`. -/
def floatLiteral (value : ℚ) : String :=
  let literal := printf9g value
  (if literal.toList.any fun c => c == '.' || c == 'e' || c == 'E' then literal
    else literal ++ ".0") ++ "f"

/-- The name of a table: baked tables belong to a kernel. -/
def Table.text (name : KernelName) : Table → String
  | .w => name.text ++ "_w"
  | .gx => name.text ++ "_gx"
  | .gy => name.text ++ "_gy"
  | .taps => "taps.w"

/-- The text of a `float` expression. -/
def FloatExpr.text (name : KernelName) : FloatExpr → String
  | lit value => floatLiteral printf9g value
  | param index => "p" ++ toString index
  | scalar var => var.text
  | cell array c => array.text ++ "[" ++ toString c ++ "]"
  | tile plane row column =>
      "tile[" ++ toString plane ++ "][" ++ row.text ++ "][" ++ column.text ++ "]"
  | table t index => t.text name ++ "[" ++ index.text ++ "]"
  | loadSample index => "imgjit_load_sample(src[" ++ index.text ++ "])"
  | quantize e => "imgjit_quantize(" ++ e.text name ++ ")"
  | luma r g b => "imgjit_luma(" ++ r.text name ++ ", " ++ g.text name ++ ", " ++ b.text name ++ ")"
  | sqrtf e => "sqrtf(" ++ e.text name ++ ")"
  | add a b => a.text name ++ " + " ++ b.text name
  | sub a b => a.text name ++ " - " ++ b.text name
  | mul a b => a.text name ++ " * " ++ b.text name
  | ifGe a b yes no =>
      a.text name ++ " >= " ++ b.text name ++ " ? " ++ yes.text name ++ " : " ++ no.text name

/-- The text of an expression that is stored. -/
def ByteExpr.text (name : KernelName) : ByteExpr → String
  | storeSample e => "imgjit_store_sample(" ++ e.text printf9g name ++ ")"
  | src index => "src[" ++ index.text ++ "]"

/-! ## Statements -/

/-- Comments behind a declaration. -/
def IntVar.remark : IntVar → String
  | .lx => "  // this pixel, in tile"
  | .ly => "  // coordinates"
  | _ => ""

/-- The only byte that is copied is alpha. -/
def ByteExpr.remark : ByteExpr → String
  | storeSample _ => ""
  | src _ => "  // alpha passes through every op untouched"

/-- `param_list`. -/
def paramList (indices : List ℕ) (before : String) : String :=
  String.join (indices.map fun index => before ++ toString index)

/-- The values of an initializer. -/
def commaList (values : List String) : String := String.intercalate ", " values

/-- `zero_initializer`, for the one value `init`. -/
def initializerText (size : ℕ) (init : ℚ) : String :=
  "\x7b" ++ commaList (List.replicate size (floatLiteral printf9g init)) ++ "\x7d"

/-- The text of a statement, at an indent. -/
def Stmt.text (name : KernelName) (indent : String) : Stmt → String
  | nop => ""
  | seq first second => first.text name indent ++ second.text name indent
  | comment text => indent ++ "// " ++ text ++ "\n"
  | int var value => indent ++ "const int " ++ var.text ++ " = " ++ value.text ++ ";" ++ var.remark
      ++ "\n"
  | array var size init => indent ++ "float " ++ var.text ++ "[" ++ toString size ++ "]"
      ++ (match init with
        | none => ""
        | some value => " = " ++ initializerText printf9g size value) ++ ";\n"
  | float var value => indent ++ "const float " ++ var.text ++ " = " ++ value.text printf9g name
      ++ ";\n"
  | set var c value => indent ++ var.text ++ "[" ++ toString c ++ "] = " ++ value.text printf9g name
      ++ ";\n"
  | accumulate var c value => indent ++ var.text ++ "[" ++ toString c ++ "] += "
      ++ value.text printf9g name ++ ";\n"
  | block body => indent ++ "\x7b\n" ++ body.text name (indent ++ "  ") ++ indent ++ "\x7d\n"
  | forUpTo var first last body => indent ++ "for (int " ++ var.text ++ " = " ++ first.text ++ "; "
      ++ var.text ++ " <= " ++ last.text ++ "; ++" ++ var.text ++ ") \x7b\n"
      ++ body.text name (indent ++ "  ") ++ indent ++ "\x7d\n"
  | forBelow var first bound step body => indent ++ "for (int " ++ var.text ++ " = " ++ first.text
      ++ "; " ++ var.text ++ " < " ++ toString bound ++ "; " ++ var.text ++ " += " ++ toString step
      ++ ") \x7b\n" ++ body.text name (indent ++ "  ") ++ indent ++ "\x7d\n"
  | callTap x y target args => indent ++ name.text ++ "_tap(src, " ++ x.text ++ ", " ++ y.text
      ++ ", width, height, " ++ target.text ++ paramList args ", p" ++ ");\n"
  | setTile plane row column value => indent ++ "tile[" ++ toString plane ++ "][" ++ row.text
      ++ "][" ++ column.text ++ "] = " ++ value.text printf9g name ++ ";\n"
  | setDst index value => indent ++ "dst[" ++ index.text ++ "] = " ++ value.text printf9g name ++ ";"
      ++ value.remark ++ "\n"

/-- The text of a condition. -/
def IntCond.text : IntCond → String
  | ge a b => a.text ++ " >= " ++ b.text
  | or c d => c.text ++ " || " ++ d.text

/-- The text of an item of a kernel. -/
def Item.text (name : KernelName) : Item → String
  | stmt s => s.text printf9g name "  "
  | returnIf condition => "  if (" ++ condition.text ++ ") \x7b return; \x7d\n"

/-! ## Stages -/

/-- The arrays a stencil stage reads. -/
def Constants.text (name : KernelName) : Constants → String
  | sobel gx gy =>
      "\n__device__ const float " ++ name.text ++ "_gx[9] = \x7b"
        ++ commaList (gx.map (floatLiteral printf9g)) ++ "\x7d;\n"
        ++ "__device__ const float " ++ name.text ++ "_gy[9] = \x7b"
        ++ commaList (gy.map (floatLiteral printf9g)) ++ "\x7d;\n"
  | gaussian sigma radius weights =>
      "\n// gaussian sigma=" ++ floatLiteral printf9g sigma ++ ", radius=" ++ toString radius
        ++ " — weights baked from imgjit::cpu::gaussian_weights_1d.\n"
        ++ "__device__ const float " ++ name.text ++ "_w[" ++ toString weights.length ++ "] = \x7b"
        ++ commaList (weights.map (floatLiteral printf9g)) ++ "\x7d;\n"

/-- The text of the tap helper of a stage. -/
def TapFunction.text (name : KernelName) (tap : TapFunction) : String :=
  "\n__device__ __forceinline__ void " ++ name.text ++ "_tap(\n"
    ++ "    const unsigned char* __restrict__ src, int x, int y, int width, int height,\n"
    ++ "    float* v" ++ paramList tap.params ", float p" ++ ") \x7b\n"
    ++ tap.body.text printf9g name "  " ++ "\x7d\n"

/-- The declaration of the tile, and the comment before it. -/
def TileShape.text (tileSize : ℕ) (shape : TileShape) : String :=
  "  // " ++ toString tileSize ++ "x" ++ toString tileSize ++ " outputs plus a "
    ++ toString ((shape.edge - tileSize) / 2)
    ++ "-pixel apron on every side, staged with the prologue applied.\n"
    ++ "  __shared__ float tile[" ++ toString shape.planes ++ "][" ++ toString shape.edge ++ "]["
    ++ toString shape.edge ++ "];\n"

/-- Between two phases. -/
def barrierText : String :=
  "  // Every thread arrives here, including those whose output pixel is past the\n"
    ++ "  // image edge — they still own apron cells. So the bounds check comes after.\n"
    ++ "  __syncthreads();\n"

/-- The text of a kernel: its signature and its phases, a barrier between each two. -/
def Kernel.text (name : KernelName) (tileSize : ℕ) (kernel : Kernel) : String :=
  "\nextern \"C\" __global__ void "
    ++ (match kernel.launchBounds with
      | some threads => "__launch_bounds__(" ++ toString threads ++ ") "
      | none => "")
    ++ name.text ++ "(\n"
    ++ "    const unsigned char* __restrict__ src, unsigned char* __restrict__ dst,\n"
    ++ "    int width, int height"
    ++ (if kernel.runtimeRadius then ", int radius, imgjit_gaussian_taps taps" else "")
    ++ paramList kernel.params ", float p" ++ ") \x7b\n"
    ++ (match kernel.tile with
      | some shape => shape.text tileSize
      | none => "")
    ++ String.intercalate barrierText
      (kernel.phases.map fun items => String.join (items.map (Item.text printf9g name)))
    ++ "\x7d\n"

/-- The text of a stage: constants, helper and kernel. -/
def StageCode.text (tileSize : ℕ) (code : StageCode) : String :=
  (match code.constants with
    | some constants => constants.text printf9g code.name
    | none => "")
    ++ (match code.tap with
      | some tap => tap.text printf9g code.name
      | none => "")
    ++ code.kernel.text printf9g code.name tileSize

end Printing

/-! ## The unit -/

/-- `kKernelPrelude`, line by line. -/
def kKernelPrelude : List String :=
  ["",
   "// ---------------------------------------------------------------------------",
   "// imgjit kernel prelude — stable device helpers (src/backend/cuda/kernel_prelude.h)",
   "// Self-contained by necessity: NVRTC has no default include path.",
   "// ---------------------------------------------------------------------------",
   "",
   "__device__ __forceinline__ int imgjit_clamp_coord(int v, int limit) \x7b",
   "  return v < 0 ? 0 : (v > limit - 1 ? limit - 1 : v);",
   "\x7d",
   "",
   "__device__ __forceinline__ float imgjit_clamp01(float v) \x7b",
   "  return v < 0.0f ? 0.0f : (v > 1.0f ? 1.0f : v);",
   "\x7d",
   "",
   "__device__ __forceinline__ float imgjit_load_sample(unsigned char v) \x7b",
   "  return (float)v / 255.0f;",
   "\x7d",
   "",
   "__device__ __forceinline__ unsigned char imgjit_store_sample(float v) \x7b",
   "  return (unsigned char)(int)roundf(imgjit_clamp01(v) * 255.0f);",
   "\x7d",
   "",
   "// The fusion boundary, and the reason fusion is safe to compare against the oracle.",
   "//",
   "// The CPU oracle materializes a whole uint8 image between every pair of ops. A fused",
   "// kernel keeps the value in a register instead, so unless it rounds here, fusing would",
   "// silently change the NUMERICS rather than just the memory traffic — and the drift is",
   "// not small: Sobel's coefficients sum to 8 in absolute value, so a half-LSB difference",
   "// per tap amplifies to ~4 LSB, and a threshold that a sample straddles flips 0 <-> 255.",
   "// Rounding here keeps fusion a pure memory optimization.",
   "//",
   "// Idempotent with imgjit_store_sample, so the call codegen emits before a store is",
   "// redundant; it costs one roundf and buys a rule with no exceptions.",
   "__device__ __forceinline__ float imgjit_quantize(float v) \x7b",
   "  return imgjit_load_sample(imgjit_store_sample(v));",
   "\x7d",
   "",
   "// Rec. 601, in the oracle's association order. These three constants are the same",
   "// numbers as imgjit::cpu::kLumaRed / kLumaGreen / kLumaBlue; a codegen test asserts",
   "// they have not drifted apart.",
   "__device__ __forceinline__ float imgjit_luma(float r, float g, float b) \x7b",
   "  return 0.299f * r + 0.587f * g + 0.114f * b;",
   "\x7d"]

namespace TranslationUnit

variable (unit : TranslationUnit)

/-- The line that names the channels. -/
def channelsLine : String :=
  toString unit.channels ++ " (" ++ toString unit.colors ++ " colour + "
    ++ (if unit.channels = 4 then "1" else "0") ++ " alpha)\n"

/-- The line that names the variant. -/
def tileLine : String :=
  if unit.tileSize = 0 then "naive (every tap is a global load)\n"
  else toString unit.tileSize ++ "x" ++ toString unit.tileSize
    ++ " shared-memory tile on stencil stages\n"

/-- The lines that say that the source is parameterized, if it is. -/
def constantsLines : String :=
  if unit.parameterized then
    "// " ++ "constants: parameterized — every op parameter is a kernel argument, so this\n"
      ++ "// source serves every value of them (imgjit/core/kernel_key.h).\n"
  else ""

/-- The comment a unit begins with, up to what no longer depends on it. -/
def header : String :=
  "// Generated by imgjit codegen (src/backend/cuda/codegen.cpp) — do not edit.\n"
    ++ "// chain:    \"" ++ String.ofList unit.chainComment ++ "\"\n"
    ++ "// channels: " ++ unit.channelsLine
    ++ "// stages:   " ++ toString unit.stages.length ++ "\n"
    ++ "// tile:     " ++ unit.tileLine ++ unit.constantsLines ++ "//\n"

/-- The program's source. -/
def text (printf9g : ℚ → String) : String :=
  unit.header
    ++ "// Width and height are absent from this source by construction: they are\n"
    ++ "// launch arguments, so one compile serves every resolution (invariant 4).\n"
    ++ String.join (kKernelPrelude.map (· ++ "\n"))
    ++ (if unit.parameterized then
      "\nstruct imgjit_gaussian_taps \x7b float w[" ++ toString kMaxGaussianTaps ++ "]; \x7d;\n"
      else "")
    ++ String.join (unit.stages.map (StageCode.text printf9g unit.tileSize))

end TranslationUnit

end Cuda

end Imgjit
