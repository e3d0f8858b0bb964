import Imgjit.Core.ChainGrammar

/-!
# Printing a chain and parsing it back

`canonical_string` and `parse_op_chain` are written independently of each other: one prints an op
with `snprintf` and two decimals, the other reads names and numbers from whatever text a client
sends.  Yet the server compares, logs and caches chains by their canonical text, so the two have to
agree on every chain that is ever printed.

The proof does not run the parser on the printer's output.  It goes through the grammar of
`ChainGrammar.lean`: the canonical text of a parsed chain is a text of the grammar, and the chain
that the grammar gives it is the one that was printed.  Since the parser accepts exactly the
language, the round trip follows.

* `ReadsBack` — the one thing that printing relies on in `strtof`: a two-decimal text is read to
  within less than half a hundredth, so rounding to hundredths restores the value.
* `pieceOf_opText` — the text of an op is a piece that denotes the op, its default spelled out.
* `parse_canonicalString` — the round trip, for every chain that the parser has ever returned.
-/

namespace Imgjit

open Tokens

/-- `strtof` reads the printed parameter, to within what the parser's rounding absorbs. -/
def ReadsBack (strtof : List Char → Option ℚ) (param : ℚ) : Prop :=
  ∃ number, strtof (formatParam param) = some number ∧ |number - param| < 1 / 200

/-- Rounding restores what was printed. -/
lemma hundredthsOf_eq {number param : ℚ} {n : ℤ} (hparam : param = n / 100)
    (hread : |number - param| < 1 / 200) : hundredthsOf number = param := by
  have hclose : |number * 100 - n| < 1 / 2 := by
    rw [hparam, abs_lt] at hread
    rw [abs_lt]
    constructor <;> linarith
  rw [hundredthsOf, Rounding.roundAway_of_abs_lt hclose, hparam]

/-! ## No blanks -/

lemma name_noBlank (kind : OpKind) : ∀ c ∈ (opSpec kind).name.toList, isSpace c = false := by
  have hall : (opSpec kind).name.toList.all (fun c => !isSpace c) = true := by
    cases kind <;> rfl
  intro c hc
  simpa using List.all_eq_true.mp hall c hc

lemma digitChar_noBlank : ∀ d < 10, isSpace (Nat.digitChar d) = false := by decide

/-- A printed parameter is a token: not empty, and without blanks. -/
lemma AdmittedOp.formatParam_spec {op : Op} (h : AdmittedOp op) :
    formatParam op.param ≠ [] ∧ ∀ c ∈ formatParam op.param, isSpace c = false := by
  rcases h.hundredths with ⟨n, hn, hlow, hhigh⟩
  rw [hn, formatParam_eq hlow hhigh]
  refine ⟨by simp [hundredthsText], fun c hc => ?_⟩
  rcases mem_hundredthsText (by omega) hc with rfl | rfl | ⟨d, hd, rfl⟩
  · rfl
  · rfl
  · exact digitChar_noBlank d hd

lemma AdmittedOp.opText_noBlank {op : Op} (h : AdmittedOp op) :
    ∀ c ∈ opText op, isSpace c = false := by
  intro c hc
  rcases List.mem_append.mp hc with hc | hc
  · exact name_noBlank op.kind c hc
  · split_ifs at hc
    · rcases List.mem_cons.mp hc with rfl | hc
      · rfl
      · exact h.formatParam_spec.2 c hc
    · exact absurd hc List.not_mem_nil

/-! ## Printing stays in the grammar -/

/-- **An op's text denotes the op.** -/
theorem pieceOf_opText {strtof : List Char → Option ℚ} {op : Op} (h : AdmittedOp op)
    (hread : (opSpec op.kind).takesParam = true → ReadsBack strtof op.param) :
    PieceOf strtof (opText op) op := by
  have hspec : opSpec op.kind ∈ kOpSpecs := List.get_mem _ _
  have hpiece : Strips isSpace (opText op) (opText op) := .self h.opText_noBlank
  have hname : Strips isSpace (opSpec op.kind).name.toList (opSpec op.kind).name.toList :=
    .self (name_noBlank op.kind)
  unfold opText at hpiece ⊢
  cases htakes : (opSpec op.kind).takesParam with
  | false =>
      have hdefault : op = ⟨(opSpec op.kind).kind, (opSpec op.kind).defaultParam⟩ := by
        have hzero := h.param_eq_zero htakes
        have hdefault := (admitted_default op.kind).param_eq_zero htakes
        rcases op with ⟨kind, param⟩
        simp only at hzero hdefault ⊢
        rw [opSpec_kind, hdefault, hzero]
      simp only [Bool.false_eq_true, if_false, List.append_nil]
      rw [hdefault]
      simpa using PieceOf.name hspec hname
  | true =>
      rcases hread htakes with ⟨number, hnumber, hclose⟩
      rcases h.quantized with ⟨n, hn⟩
      have hhundredths := hundredthsOf_eq hn hclose
      rw [if_pos htakes] at hpiece
      have hop : op = ⟨(opSpec op.kind).kind, hundredthsOf number⟩ := by
        rw [opSpec_kind, hhundredths]
      have hcolon : ':' ∉ (opSpec op.kind).name.toList := fun hc =>
        ((name_spec op.kind).2 _ hc).2.1 rfl
      have hdenotes := PieceOf.number hspec htakes hpiece hcolon hname
        (.self h.formatParam_spec.2) h.formatParam_spec.1 hnumber
        (by rw [hhundredths]; exact h.min_le) (by rw [hhundredths]; exact h.le_max)
      rw [← hop] at hdenotes
      simpa using hdenotes

/-- **A chain's canonical text denotes the chain.** -/
theorem chainOf_canonicalString {strtof : List Char → Option ℚ} {chain : OpChain}
    (h : AdmittedChain chain)
    (hread : ∀ op ∈ chain.ops, (opSpec op.kind).takesParam = true → ReadsBack strtof op.param) :
    ChainOf strtof (canonicalString chain) chain := by
  rcases chain with ⟨ops⟩
  have htext : Strips isSpace (canonicalString ⟨ops⟩) (joined (ops.map opText)) := by
    rw [canonicalString_eq]
    refine .self fun c hc => ?_
    rcases mem_joined hc with rfl | ⟨piece, hpiece, hc⟩
    · rfl
    · rcases List.mem_map.mp hpiece with ⟨op, hop, rfl⟩
      exact (h op hop).opText_noBlank c hc
  cases ops with
  | nil => exact .blank htext
  | cons op ops =>
      have hne : joined ((op :: ops).map opText) ≠ [] := fun hnil =>
        (h op List.mem_cons_self).opText_spec.1 (List.append_eq_nil_iff.mp hnil).1
      refine .pieces htext hne (fun piece hpiece => (h.pieces piece hpiece).2) ?_
      rw [List.forall₂_map_left_iff, List.forall₂_same]
      exact fun op hop => pieceOf_opText (h op hop) (hread op hop)

/-- **Printing and parsing are inverse on parsed chains.**  Parsing the canonical text gives the
chain back and prints as the same text, and no other parsed chain has that text. -/
theorem parse_canonicalString {strtof : List Char → Option ℚ} {text : List Char} {chain : OpChain}
    (hparse : parseOpChain strtof text = .ok chain)
    (hread : ∀ op ∈ chain.ops, (opSpec op.kind).takesParam = true → ReadsBack strtof op.param) :
    parseOpChain strtof (canonicalString chain) = .ok chain
      ∧ (∀ reparsed, parseOpChain strtof (canonicalString chain) = .ok reparsed →
          canonicalString reparsed = canonicalString chain)
      ∧ ∀ text' chain', parseOpChain strtof text' = .ok chain' →
          canonicalString chain' = canonicalString chain → chain' = chain := by
  have hadmitted := parseOpChain_admitted hparse
  have hagain := parseOpChain_iff.mpr (chainOf_canonicalString hadmitted hread)
  refine ⟨hagain, fun reparsed hreparsed => ?_, fun text' chain' hparse' heq => ?_⟩
  · rw [hagain] at hreparsed
    cases hreparsed
    rfl
  · exact canonicalString_injective (parseOpChain_admitted hparse') hadmitted heq

/-- The number lexer on two tokens. -/
def darkerLexer (token : List Char) : Option ℚ :=
  if token = "-0.05".toList then some (-1 / 20)
  else if token = "0.5".toList then some (1 / 2)
  else none

/-- A parameter between minus one and zero, and a default spelled out. -/
theorem parse_canonicalString_darker :
    parseOpChain darkerLexer "brightness:-0.05,sobel,threshold:0.5".toList
      = .ok ⟨[⟨.kBrightness, -1 / 20⟩, ⟨.kSobel, 0⟩, ⟨.kThreshold, 1 / 2⟩]⟩ := by
  have hparse : parseOpChain darkerLexer " brightness: -0.05 ,sobel,\tthreshold".toList
      = .ok ⟨[⟨.kBrightness, -1 / 20⟩, ⟨.kSobel, 0⟩, ⟨.kThreshold, 1 / 2⟩]⟩ := by
    decide +kernel
  have hread : ∀ op ∈ ([⟨.kBrightness, -1 / 20⟩, ⟨.kSobel, 0⟩, ⟨.kThreshold, 1 / 2⟩] : List Op),
      (opSpec op.kind).takesParam = true → ReadsBack darkerLexer op.param := by
    intro op hop htakes
    simp only [List.mem_cons, List.not_mem_nil, or_false] at hop
    rcases hop with rfl | rfl | rfl
    · exact ⟨-1 / 20, by decide +kernel, by norm_num⟩
    · cases htakes
    · exact ⟨1 / 2, by decide +kernel, by norm_num⟩
  have htext : canonicalString ⟨[⟨.kBrightness, -1 / 20⟩, ⟨.kSobel, 0⟩, ⟨.kThreshold, 1 / 2⟩]⟩
      = "brightness:-0.05,sobel,threshold:0.5".toList := by
    decide +kernel
  have hround := (parse_canonicalString hparse hread).1
  rwa [htext] at hround

end Imgjit
