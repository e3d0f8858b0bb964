import Imgjit.Core.ParamConversions
import Imgjit.Cuda.FusionPlan
import Imgjit.Cuda.NaiveStage
import Imgjit.Library.Exceptions

/-!
# What the code generator refuses

`emitCudaSource` has three checks in front, and two exceptions further down: a stencil inside a
pointwise run, and a tile that does not fit into static shared memory.  The two are there as a
safeguard; if one of them could be reached, a job would fail for a reason that its client cannot see
in the protocol.  The first of them is ruled out by the fusion plan, the second by the bound on
sigma.

**The checks in front.**  `Unsupported` is what the three checks look for.

**Tiles.**  `sharedBytes` is what a tile takes of the shared memory, in exact integers.
`emitStages_throws` says that behind the checks only a tile can be refused, and only a large one.

**Parsed chains.**  `Parsed` are the chains that the parser returns.  Their sigma is bounded, so
their radius is, and their tiles fit (`Parsed.sharedBytes_le`).

**The result.**  `emitCudaSource_refuses`: a key with such a chain is refused by the checks or not
at all, and with which exception.  The example is the widest blur in the largest tile, which takes
most of the memory there is.
-/

namespace Imgjit

namespace Cuda

open Exceptions

variable {cmath : CMath} {colors tileSize : ℕ} {parameterized : Bool}

/-! ## Pointwise runs -/

lemma emitPointwiseOp_ok {planned : PlannedOp} (var : FloatVar)
    (h : (opSpec planned.op.kind).isStencil = false) :
    ∃ body, emitPointwiseOp colors var parameterized planned = .ok body := by
  unfold emitPointwiseOp
  cases hkind : planned.op.kind with
  | kGrayscale =>
      dsimp only
      split
      · exact ⟨_, rfl⟩
      · exact ⟨_, rfl⟩
  | kInvert => exact ⟨_, rfl⟩
  | kBrightness => exact ⟨_, rfl⟩
  | kThreshold => exact ⟨_, rfl⟩
  | kGaussian =>
      rw [hkind] at h
      cases h
  | kSobel =>
      rw [hkind] at h
      cases h

/-- **A run without a stencil is emitted**, whatever its length. -/
theorem emitPointwise_ok {ops : List PlannedOp} (var : FloatVar) (h : Pointwise ops) :
    ∃ body, emitPointwise colors var parameterized ops = .ok body := by
  induction ops with
  | nil => exact ⟨_, rfl⟩
  | cons planned rest ih =>
      have hfirst : ∃ body, emitPointwiseOp colors var parameterized planned = .ok body :=
        emitPointwiseOp_ok var (h planned List.mem_cons_self)
      obtain ⟨first, hfirst⟩ := hfirst
      obtain ⟨second, hsecond⟩ := ih fun op hmem => h op (List.mem_cons_of_mem _ hmem)
      exact ⟨.seq first second, by rw [emitPointwise, hfirst, hsecond]; rfl⟩

lemma emitPointwise_throws {P : Exn → Prop} {ops : List PlannedOp} (h : Pointwise ops) :
    ThrowsOnly P (emitPointwise colors .v parameterized ops) :=
  .of_exists_ok (emitPointwise_ok .v h)

/-! ## Tiles -/

/-- The bytes of the tile that `emitTileLoad` declares. -/
def sharedBytes (radius : ℤ) (tileSize colors : ℕ) : ℕ :=
  colors * (tileSize + 2 * radius).toNat * (tileSize + 2 * radius).toNat * 4

/-- The radius a stencil is emitted with; a parameterized gaussian has none. -/
def emittedRadius (op : Op) (parameterized : Bool) : ℤ :=
  if parameterized && op.kind == .kGaussian then 0 else stencilRadius op

/-- `error` is the refusal of this stage's tile, which is too large indeed. -/
def TileRefused (colors tileSize : ℕ) (parameterized : Bool) (stage : Stage) (error : Exn) : Prop :=
  ∃ planned, stage.stencil = some planned
    ∧ kMaxStaticSharedBytes < sharedBytes (emittedRadius planned.op parameterized) tileSize colors
    ∧ error = tileTooLarge tileSize (emittedRadius planned.op parameterized)
      (sharedBytes (emittedRadius planned.op parameterized) tileSize colors)

lemma emitLoadPhase_throws (tiled : Bool) (radius : ℤ) (tileSize colors : ℕ) :
    ThrowsOnly (fun error => kMaxStaticSharedBytes < sharedBytes radius tileSize colors
        ∧ error = tileTooLarge tileSize radius (sharedBytes radius tileSize colors))
      (emitLoadPhase tiled radius tileSize colors) := by
  unfold emitLoadPhase
  cases tiled with
  | false => exact .ok _
  | true =>
      refine ThrowsOnly.bind ?_ fun emitted => .ok (some emitted)
      unfold emitTileLoad
      dsimp only
      split_ifs with hlarge
      · exact .error ⟨hlarge, rfl⟩
      · exact .ok _

/-! ## Stages -/

/-- **A stage of the plan is emitted, or its tile is too large.** -/
theorem emitStage_throws {stage : Stage} (h : stage.WellFormed) (name : KernelName)
    (channels : ℕ) :
    ThrowsOnly (TileRefused colors tileSize parameterized stage)
      (emitStage cmath name stage channels colors tileSize parameterized) := by
  unfold emitStage
  cases hstencil : stage.stencil with
  | none =>
      exact (emitPointwise_throws h.prologue).bind fun _ =>
        (emitPointwise_throws h.epilogue).bind fun _ => .ok _
  | some planned =>
      have hradius : (if (!(parameterized && planned.op.kind == .kGaussian)) = true
          then (some (emitStencilConstants cmath planned.op).1,
            (emitStencilConstants cmath planned.op).2)
          else (none, 0)).2 = emittedRadius planned.op parameterized := by
        rw [emittedRadius, emitStencilConstants_radius]
        cases parameterized && planned.op.kind == .kGaussian with
        | false => rfl
        | true => rfl
      refine ThrowsOnly.bind ((emitPointwise_throws h.prologue).bind fun _ => .ok _) fun tap => ?_
      refine ThrowsOnly.bind ?_ fun load => (emitPointwise_throws h.epilogue).bind fun _ => .ok _
      refine (emitLoadPhase_throws _ _ _ _).mono fun error hrefused => ⟨planned, hstencil, ?_⟩
      rw [← hradius]
      exact hrefused

/-- So are the stages of a plan together. -/
theorem emitStages_throws {stages : List Stage} (h : ∀ stage ∈ stages, stage.WellFormed)
    (channels i : ℕ) :
    ThrowsOnly
      (fun error => ∃ stage ∈ stages, TileRefused colors tileSize parameterized stage error)
      (emitStages cmath channels colors tileSize parameterized stages i) := by
  induction stages generalizing i with
  | nil => exact .ok _
  | cons stage rest ih =>
      have hfirst : ThrowsOnly (TileRefused colors tileSize parameterized stage)
          (emitStage cmath ⟨i⟩ stage channels colors tileSize parameterized) :=
        emitStage_throws (h stage List.mem_cons_self) ⟨i⟩ channels
      have hrest := ih (fun stage hmem => h stage (List.mem_cons_of_mem _ hmem)) (i + 1)
      refine ThrowsOnly.bind (hfirst.mono fun _ hrefused => ⟨stage, List.mem_cons_self, hrefused⟩)
        fun first => ThrowsOnly.bind (hrest.mono ?_) fun later => .ok _
      rintro error ⟨stage, hmem, hrefused⟩
      exact ⟨stage, List.mem_cons_of_mem _ hmem, hrefused⟩

/-! ## Parsed chains -/

/-- The parser has returned the chain: the exact one, or the one that computes in floats, over any C
library. -/
inductive Parsed (chain : OpChain) : Prop
  | exact {strtof : List Char → Option ℚ} {text : List Char}
      (h : parseOpChain strtof text = .ok chain)
  | rounded (c : CLib) {text : List Char} (h : (c.parseOpChain text).1 = .ok chain)

/-- No gaussian is wider than the table allows. -/
def SigmaBounded (op : Op) : Prop := op.kind = .kGaussian → op.param ≤ 4

/-- The bound, as the parser compares with it. -/
lemma toFloat_maxSigma : toFloat (opSpec .kGaussian).maxParam = 4 :=
  toFloat_small (n := 4) (by decide)

lemma parseParam_sigmaBounded (c : CLib) {spec : OpSpec} (hspec : spec = opSpec spec.kind)
    {name : List Char} {number : ℚ} {op : Op} (h : (c.parseParam spec name number).1 = .ok op) :
    SigmaBounded op := by
  rw [CLib.parseParam] at h
  dsimp only at h
  split_ifs at h with hrange
  cases h
  intro hkind
  rw [not_or, not_lt, not_lt] at hrange
  have hmax := hrange.2
  rwa [hspec, show spec.kind = .kGaussian from hkind, toFloat_maxSigma] at hmax

lemma parseOp_sigmaBounded (c : CLib) {token : List Char} {op : Op}
    (h : (c.parseOp token).1 = .ok op) : SigmaBounded op := by
  rw [CLib.parseOp] at h
  split_ifs at h
  dsimp only at h
  split at h
  · cases h
  · rename_i spec hspec
    have htable := findSpec_eq hspec
    split at h
    · cases h
      have hdefault := (admitted_default spec.kind).sigma_mem
      rw [← htable] at hdefault
      exact fun hkind => (hdefault hkind).2
    · split_ifs at h
      split at h
      · cases h
      · exact parseParam_sigmaBounded c htable h

lemma parseOps_sigmaBounded (c : CLib) {pieces : List (List Char)} {ops : List Op}
    (h : (c.parseOps pieces).1 = .ok ops) : ∀ op ∈ ops, SigmaBounded op := by
  induction pieces generalizing ops with
  | nil =>
      cases h
      exact fun _ hnil => absurd hnil List.not_mem_nil
  | cons piece pieces ih =>
      rw [CLib.parseOps] at h
      split at h
      · cases h
      · rename_i first trace hfirst
        dsimp only at h
        cases hrest : (c.parseOps pieces).1 with
        | error message =>
            rw [hrest] at h
            cases h
        | ok rest =>
            rw [hrest] at h
            cases h
            intro op hmem
            rcases List.mem_cons.mp hmem with rfl | hmem
            · exact parseOp_sigmaBounded c (congrArg Prod.fst hfirst)
            · exact ih hrest op hmem

/-- **Every sigma of a parsed chain is bounded.** -/
theorem Parsed.sigmaBounded {chain : OpChain} (h : Parsed chain) :
    ∀ op ∈ chain.ops, SigmaBounded op := by
  cases h with
  | exact h => exact fun op hmem hkind => ((parseOpChain_admitted h op hmem).sigma_mem hkind).2
  | rounded c h =>
      rw [CLib.parseOpChain] at h
      dsimp only at h
      split_ifs at h
      · cases h
        exact fun _ hnil => absurd hnil List.not_mem_nil
      · cases hops : (c.parseOps (commaPieces _)).1 with
        | error message =>
            rw [hops] at h
            cases h
        | ok ops =>
            rw [hops] at h
            cases h
            exact parseOps_sigmaBounded c hops

/-! ## Their tiles -/

lemma emittedRadius_le {planned : PlannedOp} {stage : Stage} (hwell : stage.WellFormed)
    (hstencil : stage.stencil = some planned) (h : SigmaBounded planned.op) :
    emittedRadius planned.op parameterized ≤ 12 := by
  have hkind := hwell.stencil planned hstencil
  unfold emittedRadius stencilRadius
  split_ifs with hruntime hsobel
  · exact Int.zero_le_ofNat 12
  · exact Int.le_of_sub_nonneg (by decide)
  · refine Cpu.gaussianRadius_le (h ?_)
    cases hop : planned.op.kind with
    | kGaussian => rfl
    | kSobel => exact absurd hop hsobel
    | _ =>
        rw [hop] at hkind
        cases hkind

/-- Three planes of the widest tile, `56 × 56` floats each, stay below the limit. -/
lemma sharedBytes_le {radius : ℤ} (hradius : radius ≤ 12) (htile : tileSize ≤ 32)
    (hcolors : colors ≤ 3) : sharedBytes radius tileSize colors ≤ kMaxStaticSharedBytes := by
  have hedge : ((tileSize : ℤ) + 2 * radius).toNat ≤ 56 := by omega
  have hbytes : sharedBytes radius tileSize colors ≤ 3 * 56 * 56 * 4 :=
    Nat.mul_le_mul_right 4 (Nat.mul_le_mul (Nat.mul_le_mul hcolors hedge) hedge)
  exact hbytes.trans (by decide)

/-- **No tile of a parsed chain is refused.** -/
theorem Parsed.not_tileRefused {chain : OpChain} (h : Parsed chain) (htile : tileSize ≤ 32)
    (hcolors : colors ≤ 3) {stage : Stage} (hmem : stage ∈ planStages chain) (error : Exn) :
    ¬TileRefused colors tileSize parameterized stage error := by
  rintro ⟨planned, hstencil, hlarge, -⟩
  have hops : planned.op ∈ chain.ops := by
    rw [← planStages_ops chain]
    refine List.mem_flatMap.mpr ⟨stage, hmem, List.mem_map_of_mem ?_⟩
    rw [Stage.planned, hstencil]
    exact List.mem_append_right _ List.mem_cons_self
  have hradius : emittedRadius planned.op parameterized ≤ 12 :=
    emittedRadius_le (planStages_wellFormed chain stage hmem) hstencil
      (h.sigmaBounded planned.op hops)
  exact absurd hlarge (not_lt.mpr (sharedBytes_le hradius htile hcolors))

/-! ## The checks in front -/

/-- What the three checks look for. -/
def Unsupported (key : KernelKey) : Prop :=
  ¬(key.channels.toInt = 1 ∨ key.channels.toInt = 3 ∨ key.channels.toInt = 4)
    ∨ ¬((key.tile = .kNaive ∧ key.tileSize.toInt = 0)
      ∨ (key.tile = .kTiled ∧ 1 ≤ key.tileSize.toInt ∧ key.tileSize.toInt ≤ 32))
    ∨ (key.constants = .kParameterized ∧ key.tile = .kTiled)

/-- Whether a key is refused by the checks can be computed. -/
instance (key : KernelKey) : Decidable (Unsupported key) :=
  inferInstanceAs (Decidable (_ ∨ _ ∨ _))

variable {key : KernelKey}

lemma isSupportedTile_iff : isSupportedTile key.tile key.tileSize = true
    ↔ (key.tile = .kNaive ∧ key.tileSize.toInt = 0)
      ∨ (key.tile = .kTiled ∧ 1 ≤ key.tileSize.toInt ∧ key.tileSize.toInt ≤ 32) := by
  unfold isSupportedTile
  cases key.tile with
  | kNaive =>
      rw [beq_iff_eq, ← Int32.toInt_inj]
      exact ⟨fun h => .inl ⟨rfl, h⟩, fun h => h.elim And.right fun h => by cases h.1⟩
  | kTiled =>
      rw [Bool.and_eq_true, decide_eq_true_eq, decide_eq_true_eq]
      exact ⟨fun h => .inr ⟨rfl, h⟩, fun h => h.elim (fun h => by cases h.1) And.right⟩

lemma isSupportedConstants_iff : isSupportedConstants key.constants key.tile = true
    ↔ ¬(key.constants = .kParameterized ∧ key.tile = .kTiled) := by
  unfold isSupportedConstants
  cases key.constants with
  | kBaked => exact iff_of_true rfl fun h => by cases h.1
  | kParameterized =>
      cases key.tile with
      | kNaive => exact iff_of_true rfl fun h => by cases h.2
      | kTiled => exact iff_of_false Bool.false_ne_true (not_not.mpr ⟨rfl, rfl⟩)

/-- A key passes the checks if it is not unsupported, and only then. -/
lemma not_unsupported_iff : ¬Unsupported key ↔ isSupportedChannelCount key.channels = true
    ∧ isSupportedTile key.tile key.tileSize = true
    ∧ isSupportedConstants key.constants key.tile = true := by
  rw [isSupportedChannelCount_iff, isSupportedTile_iff, isSupportedConstants_iff, Unsupported]
  constructor
  · intro h
    exact ⟨not_not.mp fun hchannels => h (.inl hchannels),
      not_not.mp fun htile => h (.inr (.inl htile)), fun hconstants => h (.inr (.inr hconstants))⟩
  · rintro ⟨hchannels, htile, hconstants⟩ (h | h | h)
    · exact h hchannels
    · exact h htile
    · exact hconstants h

/-- Where the refusal of a tile has an article, other texts go on differently. -/
lemma ne_tileTooLarge {head rest : String} (hhead : 18 < head.toList.length)
    (h : head.toList[18]? ≠ some 'a') (tileSize : ℕ) (radius : ℤ) (bytes : ℕ) :
    Exn.invalidArgument (head ++ rest) ≠ tileTooLarge tileSize radius bytes := by
  intro heq
  rw [tileTooLarge] at heq
  have htext := congrArg (·.toList[18]?) (Exn.invalidArgument.inj heq)
  simp only [String.toList_append, List.append_assoc] at htext
  rw [List.getElem?_append_left hhead, List.getElem?_append_left (by decide)] at htext
  exact h (htext.trans (by decide))

/-- **An unsupported key is refused** by one of the checks. -/
theorem emitCudaSource_unsupported (cmath : CMath) (h : Unsupported key) :
    ∃ what, emitCudaSource cmath key = .error (.invalidArgument what)
      ∧ ∀ tileSize radius bytes, .invalidArgument what ≠ tileTooLarge tileSize radius bytes := by
  have hchecks := mt not_unsupported_iff.mpr (not_not.mpr h)
  rw [emitCudaSource]
  cases hchannels : isSupportedChannelCount key.channels with
  | false => exact ⟨_, rfl, ne_tileTooLarge (by decide) (by decide)⟩
  | true =>
      cases htile : isSupportedTile key.tile key.tileSize with
      | false =>
          refine ⟨_, rfl, ?_⟩
          simp only [String.append_assoc]
          exact ne_tileTooLarge (by decide) (by decide)
      | true =>
          cases hconstants : isSupportedConstants key.constants key.tile with
          | false =>
              refine ⟨_, rfl, ?_⟩
              simp only [String.append_assoc]
              exact ne_tileTooLarge (by decide) (by decide)
          | true => exact absurd ⟨hchannels, htile, hconstants⟩ hchecks

/-- The tile size that the emitters see. -/
def emittedTileSize (key : KernelKey) : ℕ :=
  if key.tile = .kTiled then key.tileSize.toInt.toNat else 0

/-- **Behind the checks** only a tile can be refused. -/
theorem emitCudaSource_throws (h : ¬Unsupported key) :
    ThrowsOnly (fun error => ∃ stage ∈ planStages key.chain,
        TileRefused (Cpu.colorChannels key.channels.toInt.toNat) (emittedTileSize key)
          (key.constants == .kParameterized) stage error)
      (emitCudaSource cmath key) := by
  obtain ⟨hchannels, htile, hconstants⟩ := not_unsupported_iff.mp h
  rw [emitCudaSource, hchannels, htile, hconstants]
  exact (emitStages_throws (planStages_wellFormed key.chain) _ 0).bind fun emitted => .ok _

/-- Whatever the chain, a refusal is an `invalid_argument`. -/
theorem emitCudaSource_invalidArgument (key : KernelKey) :
    ThrowsOnly (fun error => ∃ what, error = .invalidArgument what) (emitCudaSource cmath key) := by
  by_cases h : Unsupported key
  · obtain ⟨what, hwhat, -⟩ := emitCudaSource_unsupported cmath h
    rw [hwhat]
    exact .error ⟨what, rfl⟩
  · refine (emitCudaSource_throws h).mono ?_
    rintro error ⟨stage, -, planned, -, -, rfl⟩
    exact ⟨_, rfl⟩

/-- **A supported key of a parsed chain has a source.** -/
theorem emitCudaSource_supported (cmath : CMath) (h : Parsed key.chain) (hkey : ¬Unsupported key) :
    ∃ program, emitCudaSource cmath key = .ok program := by
  obtain ⟨hchannels, htile, -⟩ := not_unsupported_iff.mp hkey
  have hcolors : Cpu.colorChannels key.channels.toInt.toNat ≤ 3 := by
    rcases (isSupportedChannelCount_iff _).mp hchannels with h | h | h <;> rw [h] <;> decide
  have hsize : emittedTileSize key ≤ 32 := by
    unfold emittedTileSize
    rcases isSupportedTile_iff.mp htile with ⟨hnaive, -⟩ | ⟨htiled, -, hle⟩
    · rw [hnaive]
      exact Nat.zero_le 32
    · rw [if_pos htiled]
      omega
  refine (emitCudaSource_throws hkey).exists_ok ?_
  rintro error ⟨stage, hmem, hrefused⟩
  exact h.not_tileRefused hsize hcolors hmem error hrefused

/-! ## Refused by the checks, or not at all -/

/-- **A key of a parsed chain is refused exactly by the three checks**, with an `invalid_argument`.
The refusal of a tile is not reached with such a chain, and that of a stencil inside a pointwise run
with none at all. -/
theorem emitCudaSource_refuses (cmath : CMath) :
    (∀ key : KernelKey, Parsed key.chain →
      ((∃ what, emitCudaSource cmath key = .error (.invalidArgument what)) ↔ Unsupported key)
        ∧ ∀ error, emitCudaSource cmath key = .error error →
          (∃ what, error = .invalidArgument what)
            ∧ ∀ tileSize radius bytes, error ≠ tileTooLarge tileSize radius bytes)
      ∧ ∀ (key : KernelKey) (what : String),
        emitCudaSource cmath key ≠ .error (.logicError what) := by
  refine ⟨fun key h => ⟨⟨?_, ?_⟩, ?_⟩, ?_⟩
  · rintro ⟨what, hwhat⟩
    by_contra hkey
    obtain ⟨program, hprogram⟩ := emitCudaSource_supported cmath h hkey
    rw [hprogram] at hwhat
    cases hwhat
  · intro hkey
    obtain ⟨what, hwhat, -⟩ := emitCudaSource_unsupported cmath hkey
    exact ⟨what, hwhat⟩
  · intro error herror
    refine ⟨emitCudaSource_invalidArgument key error herror, ?_⟩
    by_cases hkey : Unsupported key
    · obtain ⟨what, hwhat, htext⟩ := emitCudaSource_unsupported cmath hkey
      rw [hwhat] at herror
      cases herror
      exact htext
    · obtain ⟨program, hprogram⟩ := emitCudaSource_supported cmath h hkey
      rw [hprogram] at herror
      cases herror
  · intro key what hwhat
    obtain ⟨text, htext⟩ := emitCudaSource_invalidArgument key _ hwhat
    cases htext

/-- The widest gaussian over the widest tile. -/
def widestKey : KernelKey :=
  { chain := ⟨[⟨.kGaussian, 4⟩]⟩, channels := 4, tile := .kTiled, tileSize := 32 }

lemma widestKey_parsed : Parsed widestKey.chain :=
  @Parsed.exact _ (fun _ => some 4) "gaussian:4".toList (by decide +kernel)

/-- It is not refused, but on two channels it is. -/
theorem emitCudaSource_refuses_widest :
    (¬∃ what, emitCudaSource ⟨fun _ => 1, id⟩ widestKey = .error (.invalidArgument what))
      ∧ ∃ what, emitCudaSource ⟨fun _ => 1, id⟩ { widestKey with channels := 2 }
        = .error (.invalidArgument what) :=
  ⟨mt ((emitCudaSource_refuses ⟨fun _ => 1, id⟩).1 widestKey widestKey_parsed).1.mp (by decide),
    ((emitCudaSource_refuses ⟨fun _ => 1, id⟩).1 { widestKey with channels := 2 }
      widestKey_parsed).1.mpr (by decide)⟩

end Cuda

end Imgjit
