import Imgjit.Cuda.KernelCache
import Imgjit.Cuda.SourceText

/-!
# The key is the source

`KernelKey` claims to be every codegen input and nothing else.  Were a field of it idle, two equal
programs would be compiled twice; were an input missing, a frame would run somebody else's program.
Equal keys have equal programs (`emitCudaSource_eq_of_beq`); here is the other direction, so that
the two together make the key and the source text the same thing.

It needs the header comment alone, which spells out each field of the key.  On a baked key that
includes the parameters, in two decimals; on a parameterized key `<arg>` stands for each of them.

* `TranslationUnit.Readable` — a unit whose header can be read; `header_injective` reads it off the
  text.  The chain stands between quotes and has none inside, and a number ends where its digits do.
* `chainComment_view` — the comment determines what `operator==` compares of the chain.
* `source_text_iff` — two keys are equal exactly when their sources are the same text, for keys of
  parsed chains that the generator does not refuse.
-/

namespace Imgjit

open Exceptions

namespace Cuda

/-! ## Reading the header -/

/-- A unit whose header can be read: its chain fits between the quotes, and the channel counts are
those of a key that is not refused. -/
structure TranslationUnit.Readable (unit : TranslationUnit) : Prop where
  chain : '"' ∉ unit.chainComment
  channels : unit.channels = 1 ∨ unit.channels = 3 ∨ unit.channels = 4
  colors : unit.colors = Cpu.colorChannels unit.channels

/-- Numbers are written in decimal. -/
lemma toList_toString (n : ℕ) : (toString n).toList = Nat.toDigits 10 n := Nat.toList_repr

/-- A digit is no delimiter. -/
lemma not_mem_toString {c : Char} (hc : c.isDigit = false) (n : ℕ) : c ∉ (toString n).toList := by
  intro hmem
  rw [toList_toString] at hmem
  rw [Nat.isDigit_of_mem_toDigits (by decide) (by decide) hmem] at hc
  cases hc

lemma toString_nat_injective {m n : ℕ} (h : toString m = toString n) : m = n := by
  have hdigits : Nat.toDigits 10 m = Nat.toDigits 10 n := by
    rw [← toList_toString, ← toList_toString, h]
  calc m = Nat.ofDigitChars 10 (Nat.toDigits 10 m) 0 := Nat.ofDigitChars_ten_toDigits.symm
    _ = Nat.ofDigitChars 10 (Nat.toDigits 10 n) 0 := by rw [hdigits]
    _ = n := Nat.ofDigitChars_ten_toDigits

variable {unit unit' : TranslationUnit}

/-- The line about channels. -/
lemma channelsLine_inj (h : unit.Readable) (h' : unit'.Readable) {x y : List Char}
    (heq : unit.channelsLine.toList ++ x = unit'.channelsLine.toList ++ y) :
    unit.channels = unit'.channels ∧ x = y := by
  have hline : ∀ {u : TranslationUnit}, u.Readable → u.channelsLine.toList
      = Nat.digitChar u.channels :: (u.channelsLine.toList).tail := by
    intro u hu
    have hten : u.channels < 10 := by
      rcases hu.channels with hone | hthree | hfour <;> omega
    rw [TranslationUnit.channelsLine]
    simp only [String.toList_append, List.append_assoc]
    rw [toList_digit u.channels hten]
    rfl
  have hchannels : unit.channels = unit'.channels := by
    rw [hline h, hline h', List.cons_append, List.cons_append, List.cons.injEq] at heq
    refine digitChar_injective _ ?_ _ ?_ heq.1
    · rcases h.channels with hone | hthree | hfour <;> omega
    · rcases h'.channels with hone | hthree | hfour <;> omega
  have hsame : unit.channelsLine = unit'.channelsLine := by
    rw [TranslationUnit.channelsLine, TranslationUnit.channelsLine, h.colors, h'.colors, hchannels]
  rw [hsame, List.append_cancel_left_eq] at heq
  exact ⟨hchannels, heq⟩

/-- The line about the tile. -/
lemma tileLine_inj {x y : List Char}
    (heq : unit.tileLine.toList ++ x = unit'.tileLine.toList ++ y) :
    unit.tileSize = unit'.tileSize ∧ x = y := by
  have hx : ∀ n : ℕ, 'x' ∉ (toString n).toList := not_mem_toString (by decide)
  -- The first letter of `naive` is no digit.
  have hnaive : ∀ {n : ℕ} {a b : List Char}, 'n' :: a ≠ (toString n).toList ++ b := by
    intro n a b heq
    cases hdigits : (toString n).toList with
    | nil => exact Nat.toDigits_ne_nil ((toList_toString n).symm.trans hdigits)
    | cons d rest =>
        rw [hdigits, List.cons_append, List.cons.injEq] at heq
        have hmem : 'n' ∈ (toString n).toList := by
          rw [hdigits, heq.1]
          exact List.mem_cons_self
        exact not_mem_toString (by decide) n hmem
  have hcut : "x".toList = ['x'] := rfl
  simp only [TranslationUnit.tileLine] at heq
  split_ifs at heq with hzero hzero' hzero'
  · rw [List.append_cancel_left_eq] at heq
    exact ⟨hzero.trans hzero'.symm, heq⟩
  · simp only [String.toList_append, List.append_assoc] at heq
    exact absurd heq hnaive
  · simp only [String.toList_append, List.append_assoc] at heq
    exact absurd heq.symm hnaive
  · simp only [String.toList_append, List.append_assoc, hcut, List.cons_append,
      List.nil_append] at heq
    rcases append_cons_inj (hx _) (hx _) heq with ⟨hsize, hrest⟩
    have hsizes := toString_nat_injective (String.ext hsize)
    rw [hsizes, List.append_cancel_left_eq, List.append_cancel_left_eq] at hrest
    exact ⟨hsizes, hrest⟩

/-- The lines about constants, and the blank one behind them. -/
lemma constantsLines_inj {x y : List Char}
    (heq : unit.constantsLines.toList ++ ("//\n".toList ++ x)
      = unit'.constantsLines.toList ++ ("//\n".toList ++ y)) :
    unit.parameterized = unit'.parameterized := by
  have hblank : "//\n".toList = ['/', '/', '\n'] := rfl
  have hcomment : "// ".toList = ['/', '/', ' '] := rfl
  simp only [TranslationUnit.constantsLines] at heq
  cases hunit : unit.parameterized <;> cases hunit' : unit'.parameterized <;>
    simp only [hunit, hunit', if_true, Bool.false_eq_true, if_false, String.toList_append,
      String.toList_empty, List.nil_append, List.append_assoc] at heq ⊢
  · rw [hblank, hcomment] at heq
    simp at heq
  · rw [hblank, hcomment] at heq
    simp at heq

/-- **The header can be read back.** -/
theorem header_injective (h : unit.Readable) (h' : unit'.Readable) {x y : String}
    (heq : unit.header ++ x = unit'.header ++ y) :
    unit.chainComment = unit'.chainComment ∧ unit.channels = unit'.channels
      ∧ unit.tileSize = unit'.tileSize ∧ unit.parameterized = unit'.parameterized := by
  have hchars : (unit.header ++ x).toList = (unit'.header ++ y).toList :=
    congrArg String.toList heq
  have hquote : "\"\n".toList = '"' :: ['\n'] := rfl
  have hline : "\n".toList = ['\n'] := rfl
  delta TranslationUnit.header at hchars
  simp only [String.toList_append, List.append_assoc, String.toList_ofList,
    hquote, List.cons_append, List.nil_append] at hchars
  rw [List.append_cancel_left_eq, List.append_cancel_left_eq] at hchars
  rcases append_cons_inj h.chain h'.chain hchars with ⟨hchain, hrest⟩
  rw [List.cons.injEq, List.append_cancel_left_eq] at hrest
  rcases channelsLine_inj h h' hrest.2 with ⟨hchannels, hrest⟩
  rw [List.append_cancel_left_eq, hline, List.singleton_append, List.singleton_append] at hrest
  have hnewline : ∀ n : ℕ, '\n' ∉ (toString n).toList := not_mem_toString (by decide)
  rcases append_cons_inj (hnewline _) (hnewline _) hrest with ⟨-, hrest⟩
  rw [List.append_cancel_left_eq] at hrest
  rcases tileLine_inj hrest with ⟨htile, hrest⟩
  exact ⟨hchain, hchannels, htile, constantsLines_inj hrest⟩

/-! ## The comments of two programs -/

variable {cmath : CMath} {key key' : KernelKey} {program program' : GeneratedProgram}

/-- One op of the comment of a parameterized program. -/
def elidedText (op : Op) : List Char :=
  (opSpec op.kind).name.toList ++ if (opSpec op.kind).takesParam then ":<arg>".toList else []

lemma elidedText_spec (op : Op) :
    elidedText op ≠ [] ∧ ',' ∉ elidedText op ∧ '"' ∉ elidedText op := by
  rw [elidedText]
  cases op.kind <;> exact ⟨by decide, by decide, by decide⟩

lemma elidedText_kind {a b : Op} (h : elidedText a = elidedText b) : a.kind = b.kind := by
  rw [elidedText, elidedText] at h
  generalize a.kind = kind at h ⊢
  generalize b.kind = kind' at h ⊢
  cases kind <;> cases kind' <;> first | rfl | exact absurd h (by decide)

lemma chainComment_parameterized (chain : OpChain) :
    chainComment chain true = joined (chain.ops.map elidedText) := by
  rw [← foldl_joined elidedText fun op => (elidedText_spec op).1]
  simp only [chainComment, elidedText, List.append_assoc, Bool.not_true, Bool.false_eq_true, if_false]

/-- The comment fits between the quotes. -/
lemma chainComment_noQuote {chain : OpChain} (h : AdmittedChain chain) (parameterized : Bool) :
    '"' ∉ chainComment chain parameterized := by
  cases parameterized with
  | false => exact canonicalString_noQuote h
  | true =>
      intro hquote
      rw [chainComment_parameterized] at hquote
      rcases mem_joined hquote with hcomma | ⟨piece, hpiece, hc⟩
      · exact absurd hcomma (by decide)
      · rcases List.mem_map.mp hpiece with ⟨op, -, rfl⟩
        exact (elidedText_spec op).2.2 hc

lemma HeaderOf.readable {unit : TranslationUnit} (h : HeaderOf key unit)
    (hchain : AdmittedChain key.chain) : unit.Readable where
  chain := by
    rw [h.chainComment]
    exact chainComment_noQuote hchain _
  channels := by
    rw [h.channels]
    rcases (isSupportedChannelCount_iff _).mp h.channelCount with hone | hthree | hfour <;> omega
  colors := h.colors

/-- **The comment determines what a key compares of its chain.** -/
theorem chainComment_view {keyed : Bool} {chain chain' : OpChain} (h : AdmittedChain chain)
    (h' : AdmittedChain chain') (heq : chainComment chain (!keyed) = chainComment chain' (!keyed)) :
    chain.ops.map (KernelKey.view keyed) = chain'.ops.map (KernelKey.view keyed) := by
  cases keyed with
  | true => rw [canonicalString_injective h h' heq]
  | false =>
      rw [Bool.not_false, chainComment_parameterized, chainComment_parameterized] at heq
      have hpieces : ∀ {chain : OpChain}, ∀ piece ∈ chain.ops.map elidedText,
          piece ≠ [] ∧ ',' ∉ piece := by
        intro chain piece hpiece
        rcases List.mem_map.mp hpiece with ⟨op, -, rfl⟩
        exact ⟨(elidedText_spec op).1, (elidedText_spec op).2.1⟩
      have htexts := joined_injective hpieces hpieces heq
      refine map_eq_of_map_eq (fun a _ b _ htext => ?_) htexts
      rw [KernelKey.view, KernelKey.view, elidedText_kind htext]
      rfl

/-- Supported keys that read alike have the same tile. -/
lemma tile_eq_of_tileSize (htile : isSupportedTile key.tile key.tileSize = true)
    (htile' : isSupportedTile key'.tile key'.tileSize = true)
    (h : (if key.tile = .kTiled then key.tileSize.toInt.toNat else 0)
      = if key'.tile = .kTiled then key'.tileSize.toInt.toNat else 0) :
    key.tile = key'.tile ∧ key.tileSize = key'.tileSize := by
  rcases key with ⟨chain, channels, tile, tileSize, constants⟩
  rcases key' with ⟨chain', channels', tile', tileSize', constants'⟩
  simp only at htile htile' h ⊢
  cases tile <;> cases tile' <;> simp only [isSupportedTile, beq_iff_eq, Bool.and_eq_true,
    decide_eq_true_eq, reduceCtorEq, if_true, if_false] at htile htile' h ⊢
  · exact ⟨trivial, htile.trans htile'.symm⟩
  · omega
  · omega
  · refine ⟨trivial, Int32.toInt_inj.mp ?_⟩
    omega

/-- **The key is every codegen input, and nothing else.**  Of two keys that are not refused, with
chains the parser returned: they are equal exactly when their sources are the same text, and equal
keys have the same list of stages.  The source of a parameterized key is that of the key with its
parameters erased. -/
theorem source_text_iff (cmath : CMath) (printf9g : ℚ → String) (strtof : List Char → Option ℚ)
    {text text' : List Char} {key key' : KernelKey} {program program' : GeneratedProgram}
    (hparse : parseOpChain strtof text = .ok key.chain)
    (hparse' : parseOpChain strtof text' = .ok key'.chain)
    (hemit : emitCudaSource cmath key = .ok program)
    (hemit' : emitCudaSource cmath key' = .ok program') :
    (key.beq key' = true ↔ program.source.text printf9g = program'.source.text printf9g)
      ∧ (key.beq key' = true → program.stages = program'.stages)
      ∧ (key.constants = .kParameterized →
        emitCudaSource cmath { key with chain := key.chain.erase } = .ok program) := by
  have hchain := parseOpChain_admitted hparse
  have hchain' := parseOpChain_admitted hparse'
  have hsame : key.beq key' = true → program = program' := by
    intro hbeq
    rw [emitCudaSource_eq_of_beq hbeq hchain hchain', hemit'] at hemit
    exact (Except.ok.inj hemit).symm
  refine ⟨⟨fun hbeq => by rw [hsame hbeq], fun htext => ?_⟩, fun hbeq => by rw [hsame hbeq],
    fun hconstants => (emitCudaSource_erase key hconstants).trans hemit⟩
  have h := emitCudaSource_header hemit
  have h' := emitCudaSource_header hemit'
  simp only [TranslationUnit.text, String.append_assoc] at htext
  rcases header_injective (h.readable hchain) (h'.readable hchain') htext with
    ⟨hcomment, hchannels, htile, hparameterized⟩
  rw [h.channels, h'.channels] at hchannels
  rw [h.tileSize, h'.tileSize] at htile
  rw [h.chainComment, h'.chainComment, ← hparameterized, h.parameterized] at hcomment
  rw [h.parameterized, h'.parameterized] at hparameterized
  rcases tile_eq_of_tileSize h.tile h'.tile htile with ⟨htile, hsize⟩
  have hconstants : key.constants = key'.constants := by
    cases hkey : key.constants <;> cases hkey' : key'.constants <;>
      rw [hkey, hkey'] at hparameterized <;> first | rfl | cases hparameterized
  have hcount : key.channels = key'.channels := by
    have hsupported := (isSupportedChannelCount_iff _).mp h.channelCount
    have hsupported' := (isSupportedChannelCount_iff _).mp h'.channelCount
    refine Int32.toInt_inj.mp ?_
    omega
  refine (KernelKey.beq_iff key key').mpr ⟨hcount, htile, hsize, hconstants, ?_⟩
  have hkeyed : (key.constants == .kParameterized) = !key.keyedByParams := by
    rw [KernelKey.keyedByParams]
    cases key.constants <;> rfl
  rw [hkeyed] at hcomment
  rw [show key'.keyedByParams = key.keyedByParams by
    rw [KernelKey.keyedByParams, KernelKey.keyedByParams, hconstants]]
  exact chainComment_view hchain hchain' hcomment

/-- Half and quarter brightness share a parameterized source, and have two baked ones. -/
theorem source_text_iff_brighter :
    ∃ shared shared' half quarter,
      emitCudaSource plainMath (parameterizedBackend.keyFor (brighter (1 / 2)) 1) = .ok shared
      ∧ emitCudaSource plainMath (parameterizedBackend.keyFor (brighter (1 / 4)) 1) = .ok shared'
      ∧ shared.source.text (fun _ => "0") = shared'.source.text (fun _ => "0")
      ∧ emitCudaSource plainMath (naiveKey (brighter (1 / 2)) 1) = .ok half
      ∧ emitCudaSource plainMath (naiveKey (brighter (1 / 4)) 1) = .ok quarter
      ∧ half.source.text (fun _ => "0") ≠ quarter.source.text (fun _ => "0") := by
  have hhalf : parseOpChain halfOrQuarter "brightness:0.5".toList = .ok (brighter (1 / 2)) := by
    decide +kernel
  have hquarter : parseOpChain halfOrQuarter "brightness:0.25".toList = .ok (brighter (1 / 4)) := by
    decide +kernel
  have hemits : ∀ config : BackendConfig, ∀ param : ℚ,
      config = parameterizedBackend ∨ config = {} →
      ∃ program, emitCudaSource plainMath (config.keyFor (brighter param) 1) = .ok program := by
    rintro config param (rfl | rfl) <;> exact ⟨_, rfl⟩
  rcases hemits parameterizedBackend (1 / 2) (.inl rfl) with ⟨shared, hshared⟩
  rcases hemits parameterizedBackend (1 / 4) (.inl rfl) with ⟨shared', hshared'⟩
  rcases hemits {} (1 / 2) (.inr rfl) with ⟨half, hbaked⟩
  rcases hemits {} (1 / 4) (.inr rfl) with ⟨quarter, hbaked'⟩
  have hsame := source_text_iff plainMath (fun _ => "0") halfOrQuarter hhalf hquarter hshared hshared'
  have hother := source_text_iff plainMath (fun _ => "0") halfOrQuarter hhalf hquarter hbaked hbaked'
  refine ⟨shared, shared', half, quarter, hshared, hshared', hsame.1.mp (by decide), hbaked, hbaked',
    fun htext => ?_⟩
  exact absurd (hother.1.mpr htext) (by decide +kernel)

end Cuda

end Imgjit
