import Imgjit.Core.OpChain

/-!
# The kernel cache key

Compiling a program takes hundreds of milliseconds and launching one takes microseconds, so the
backend keeps compiled programs in a map.  The key of the map has every input of the code generator
and nothing else: the chain, the channel count, the stencil kernels' variant and how constants reach
the kernels.  Width and height have no field here, since a kernel takes them as arguments.

If two keys that compare equal could need different programs, a job would run the wrong kernels; if
equal keys could hash differently, the map would compile twice.  Both questions are settled in terms
of what is in this file.

* `KernelKey.beq` — the source's `operator==`, which ignores the ops' parameters on a parameterized
  key and compares them as hundredths on a baked one.
* `hashKernelKey` — 64-bit FNV-1a over a byte encoding of what `operator==` compares.
* `KernelKey.beq_iff` — two keys are equal exactly when they agree field by field, the parameters as
  hundredths; on chains the parser returns, hundredths determine the parameter
  (`eq_of_paramHundredths`).
* `KernelKey.beq_refl`, `beq_symm`, `beq_trans` — the comparison is an equivalence in both modes, as
  a map over it needs.
-/

namespace Imgjit

/-- How the stencil kernels of a program load their input. -/
inductive TileVariant where
  | kNaive
  | kTiled
  deriving DecidableEq, Repr

/-- How the ops' parameters reach the kernels: as literals in the text, or as arguments. -/
inductive ConstantsMode where
  | kBaked
  | kParameterized
  deriving DecidableEq, Repr

/-- The value of the enumeration, as the hash sees it. -/
def TileVariant.toByte : TileVariant → UInt8
  | kNaive => 0
  | kTiled => 1

/-- The value of the enumeration, as the hash sees it. -/
def ConstantsMode.toByte : ConstantsMode → UInt8
  | kBaked => 0
  | kParameterized => 1

lemma TileVariant.toByte_injective : Function.Injective toByte := by
  intro a b h
  cases a <;> cases b <;> first | rfl | exact absurd h (by decide)

lemma ConstantsMode.toByte_injective : Function.Injective toByte := by
  intro a b h
  cases a <;> cases b <;> first | rfl | exact absurd h (by decide)

/-- The key of the kernel cache. -/
structure KernelKey where
  chain : OpChain := ⟨[]⟩
  channels : Int32 := 0
  tile : TileVariant := .kNaive
  tileSize : Int32 := 0
  constants : ConstantsMode := .kBaked
  deriving DecidableEq, Repr

/-- `param_hundredths`: what both equality and the hash read of a parameter. -/
def paramHundredths (param : ℚ) : Int32 := Int32.ofInt (lround (param * 100))

namespace KernelKey

/-- Whether the ops' parameters are part of the key: only if they are part of the text. -/
def keyedByParams (key : KernelKey) : Bool := key.constants == .kBaked

/-- The comparison of one pair of ops. -/
def opBeq (keyedByParams : Bool) (left right : Op) : Bool :=
  left.kind == right.kind
    && (!keyedByParams || paramHundredths left.param == paramHundredths right.param)

/-- `operator==`. -/
def beq (lhs rhs : KernelKey) : Bool :=
  lhs.channels == rhs.channels && lhs.tile == rhs.tile && lhs.tileSize == rhs.tileSize
    && lhs.constants == rhs.constants && lhs.chain.ops.length == rhs.chain.ops.length
    && (lhs.chain.ops.zip rhs.chain.ops).all fun pair =>
      opBeq lhs.keyedByParams pair.1 pair.2

end KernelKey

/-! ## The hash -/

/-- The offset basis that the hash starts from. -/
def kFnvOffsetBasis : UInt64 := 1469598103934665603

/-- The prime that the hash multiplies by. -/
def kFnvPrime : UInt64 := 1099511628211

/-- One step of FNV-1a: a byte into the state. -/
def hashByte (state : UInt64) (byte : UInt8) : UInt64 := (state ^^^ byte.toUInt64) * kFnvPrime

/-- The four bytes of a 32-bit value, low first. -/
def hashI32 (state : UInt64) (value : Int32) : UInt64 :=
  let bits := value.toUInt32
  ([0, 8, 16, 24] : List UInt32).foldl
    (fun state shift => hashByte state (bits >>> shift).toUInt8) state

/-- `hash_kernel_key`: the chain's length, its ops (with their parameters on a baked key), and the
other fields, byte by byte. -/
def hashKernelKey (key : KernelKey) : UInt64 :=
  let state := hashI32 kFnvOffsetBasis (Int32.ofNat key.chain.ops.length)
  let state := key.chain.ops.foldl (fun state op =>
    let state := hashByte state op.kind.toByte
    if key.keyedByParams then hashI32 state (paramHundredths op.param) else state) state
  let state := hashI32 state key.channels
  let state := hashByte state key.tile.toByte
  let state := hashI32 state key.tileSize
  hashByte state key.constants.toByte

/-! ## Equality, op by op -/

namespace KernelKey

/-- The parameter of an op, as far as a key of this mode sees it. -/
def view (keyedByParams : Bool) (op : Op) : OpKind × Option Int32 :=
  (op.kind, if keyedByParams then some (paramHundredths op.param) else none)

lemma opBeq_iff (keyed : Bool) (left right : Op) :
    opBeq keyed left right = true ↔ view keyed left = view keyed right := by
  cases keyed <;> simp [opBeq, view]

lemma all_zip_iff {α β : Type} {f : α → α → Bool} {view : α → β}
    (hf : ∀ a b, f a b = true ↔ view a = view b) :
    ∀ {l l' : List α}, l.length = l'.length →
      (((l.zip l').all fun pair => f pair.1 pair.2) = true ↔ l.map view = l'.map view)
  | [], [], _ => by simp
  | a :: l, b :: l', h => by
      have hlength : l.length = l'.length := by simpa using h
      have htail := all_zip_iff hf hlength
      simp only [List.zip_cons_cons, List.all_cons, Bool.and_eq_true, hf, htail, List.map_cons,
        List.cons.injEq]

/-- **What `operator==` compares.** -/
theorem beq_iff (lhs rhs : KernelKey) :
    lhs.beq rhs = true ↔ lhs.channels = rhs.channels ∧ lhs.tile = rhs.tile
      ∧ lhs.tileSize = rhs.tileSize ∧ lhs.constants = rhs.constants
      ∧ lhs.chain.ops.map (view lhs.keyedByParams) = rhs.chain.ops.map (view rhs.keyedByParams) := by
  simp only [beq, Bool.and_eq_true, beq_iff_eq, and_assoc]
  constructor
  · rintro ⟨hchannels, htile, hsize, hconstants, hlength, hops⟩
    refine ⟨hchannels, htile, hsize, hconstants, ?_⟩
    rw [all_zip_iff (opBeq_iff _) hlength] at hops
    rwa [show rhs.keyedByParams = lhs.keyedByParams by rw [keyedByParams, keyedByParams, hconstants]]
  · rintro ⟨hchannels, htile, hsize, hconstants, hops⟩
    have hlength : lhs.chain.ops.length = rhs.chain.ops.length := by
      simpa using congrArg List.length hops
    rw [show rhs.keyedByParams = lhs.keyedByParams by
      rw [keyedByParams, keyedByParams, hconstants]] at hops
    exact ⟨hchannels, htile, hsize, hconstants, hlength,
      (all_zip_iff (opBeq_iff _) hlength).mpr hops⟩

/-! ### An equivalence, in both modes -/

lemma beq_refl (key : KernelKey) : key.beq key = true :=
  (beq_iff key key).mpr ⟨rfl, rfl, rfl, rfl, rfl⟩

lemma beq_symm {a b : KernelKey} (h : a.beq b = true) : b.beq a = true := by
  rcases (beq_iff a b).mp h with ⟨hchannels, htile, hsize, hconstants, hops⟩
  exact (beq_iff b a).mpr ⟨hchannels.symm, htile.symm, hsize.symm, hconstants.symm, hops.symm⟩

lemma beq_trans {a b c : KernelKey} (hab : a.beq b = true) (hbc : b.beq c = true) :
    a.beq c = true := by
  rcases (beq_iff a b).mp hab with ⟨hchannels, htile, hsize, hconstants, hops⟩
  rcases (beq_iff b c).mp hbc with ⟨hchannels', htile', hsize', hconstants', hops'⟩
  exact (beq_iff a c).mpr ⟨hchannels.trans hchannels', htile.trans htile', hsize.trans hsize',
    hconstants.trans hconstants', hops.trans hops'⟩

/-- Equal keys hash alike. -/
theorem hash_of_beq {lhs rhs : KernelKey} (h : lhs.beq rhs = true) :
    hashKernelKey lhs = hashKernelKey rhs := by
  obtain ⟨hchannels, htile, hsize, hconstants, hops⟩ := (beq_iff lhs rhs).mp h
  have hlength : lhs.chain.ops.length = rhs.chain.ops.length := by
    simpa using congrArg List.length hops
  have hkeyed : rhs.keyedByParams = lhs.keyedByParams := by
    rw [keyedByParams, keyedByParams, hconstants]
  -- The loop only reads the view of each op.
  have hloop : ∀ (keyed : Bool) (ops : List Op) (state : UInt64),
      ops.foldl (fun state op =>
          let state := hashByte state op.kind.toByte
          if keyed then hashI32 state (paramHundredths op.param) else state) state
        = (ops.map (view keyed)).foldl (fun state seen =>
          let state := hashByte state seen.1.toByte
          match seen.2 with
          | some hundredths => hashI32 state hundredths
          | none => state) state := by
    intro keyed ops state
    rw [List.foldl_map]
    cases keyed <;> rfl
  simp only [hashKernelKey, hloop, hkeyed, hlength, hchannels, htile, hsize, hconstants]
  rw [hkeyed] at hops
  rw [hops]

end KernelKey

/-- **On chains the parser returns, hundredths determine the parameter.** -/
theorem eq_of_paramHundredths {a b : Op} (ha : AdmittedOp a) (hb : AdmittedOp b)
    (hkind : a.kind = b.kind) (h : paramHundredths a.param = paramHundredths b.param) : a = b := by
  obtain ⟨m, hm, hm1, hm2⟩ := ha.hundredths
  obtain ⟨n, hn, hn1, hn2⟩ := hb.hundredths
  have hround : ∀ k : ℤ, -100 ≤ k → k ≤ 400 → lround ((k / 100 : ℚ) * 100) = k := by
    intro k hk1 hk2
    rw [show (k / 100 : ℚ) * 100 = (k : ℚ) by ring]
    exact lround_intCast (le_trans (by decide) hk1) (le_trans hk2 (by decide))
  rw [paramHundredths, paramHundredths, hm, hn, hround m hm1 hm2, hround n hn1 hn2] at h
  have hmn : m = n := by
    have := congrArg Int32.toInt h
    rwa [Int32.toInt_ofInt_of_le (by omega) (by omega),
      Int32.toInt_ofInt_of_le (by omega) (by omega)] at this
  rcases a with ⟨ka, pa⟩
  rcases b with ⟨kb, pb⟩
  simp only at hkind hm hn
  rw [hkind, hm, hn, hmn]

end Imgjit
