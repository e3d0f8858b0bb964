import Imgjit.Core.KernelKey

/-!
# What a key is hashed from

`hashKernelKey` is a fold over bytes, written as a chain of calls on a running state.  A reader who
wants to know which collisions are possible has to know what string of bytes that is, and whether
two different keys could be fed to the fold as the same string: then no choice of hash function
would tell them apart.

They cannot.  The string says neither more nor less than `operator==` compares, so two keys that
share a hash without being equal owe it to the fold, that is to FNV-1a itself.

* `keyBytes` — the byte string; `hashKernelKey_eq` says that it is what is folded.
* `keyBytes_iff` — two keys have the same string exactly when they are equal.  The mode decides how
  long an op's bytes are and comes last in the string, so the strings are compared from the end: the
  last ten bytes are the tail of either key, they give the mode, and with the mode known the ops'
  bytes can be cut apart.
* `key_encoding` — both, with the laws of `operator==`.  The only bound is the one under which the
  chain's length is an `int`, as the hash reads it.
-/

namespace Imgjit

namespace KernelKey

/-! ## The bytes -/

/-- `hash_i32`, byte by byte: low first. -/
def i32Bytes (value : Int32) : List UInt8 :=
  ([0, 8, 16, 24] : List UInt32).map fun shift => (value.toUInt32 >>> shift).toUInt8

/-- What one op adds.  A parameterized key leaves the parameter out. -/
def opBytes (keyedByParams : Bool) (op : Op) : List UInt8 :=
  op.kind.toByte :: if keyedByParams then i32Bytes (paramHundredths op.param) else []

/-- What comes behind the ops. -/
def tailBytes (key : KernelKey) : List UInt8 :=
  i32Bytes key.channels ++ key.tile.toByte :: (i32Bytes key.tileSize ++ [key.constants.toByte])

/-- The bytes of a key, in the order in which they are hashed. -/
def keyBytes (key : KernelKey) : List UInt8 :=
  i32Bytes (Int32.ofNat key.chain.ops.length)
    ++ (key.chain.ops.flatMap (opBytes key.keyedByParams) ++ key.tailBytes)

/-- **The hash is a fold over the bytes.** -/
theorem hashKernelKey_eq (key : KernelKey) :
    hashKernelKey key = key.keyBytes.foldl hashByte kFnvOffsetBasis := by
  have hops : ∀ (keyed : Bool) (ops : List Op) (state : UInt64),
      ops.foldl (fun state op =>
          let state := hashByte state op.kind.toByte
          if keyed then hashI32 state (paramHundredths op.param) else state) state
        = (ops.flatMap (opBytes keyed)).foldl hashByte state := by
    intro keyed ops
    induction ops with
    | nil => exact fun _ => rfl
    | cons op ops ih =>
        intro state
        rw [List.foldl_cons, ih, List.flatMap_cons, List.foldl_append]
        cases keyed <;> rfl
  rw [hashKernelKey, hops]
  simp only [keyBytes, tailBytes, List.foldl_append, List.foldl_cons, List.foldl_nil]
  rfl

/-! ## Reading the bytes back -/

/-- The four bytes determine the value. -/
lemma i32Bytes_injective {a b : Int32} (h : i32Bytes a = i32Bytes b) : a = b := by
  have hbyte : ∀ (value : Int32) (shift : UInt32), shift.toNat < 32 →
      (value.toUInt32 >>> shift).toUInt8.toNat
        = value.toUInt32.toNat / 2 ^ shift.toNat % 2 ^ 8 := by
    intro value shift hshift
    rw [UInt32.toNat_toUInt8, UInt32.toNat_shiftRight, Nat.mod_eq_of_lt hshift,
      Nat.shiftRight_eq_div_pow]
  simp only [i32Bytes, List.map_cons, List.map_nil, List.cons.injEq, ← UInt8.toNat_inj,
    and_true] at h
  rcases h with ⟨h0, h1, h2, h3⟩
  rw [hbyte a 0 (by decide), hbyte b 0 (by decide)] at h0
  rw [hbyte a 8 (by decide), hbyte b 8 (by decide)] at h1
  rw [hbyte a 16 (by decide), hbyte b 16 (by decide)] at h2
  rw [hbyte a 24 (by decide), hbyte b 24 (by decide)] at h3
  have ha := UInt32.toNat_lt a.toUInt32
  have hb := UInt32.toNat_lt b.toUInt32
  simp only [UInt32.reduceToNat] at h0 h1 h2 h3
  have hbits : a.toUInt32 = b.toUInt32 := by
    refine UInt32.toNat_inj.mp ?_
    omega
  rw [← Int32.toInt32_toUInt32 a, hbits, Int32.toInt32_toUInt32]

lemma tailBytes_iff (a b : KernelKey) :
    a.tailBytes = b.tailBytes ↔ a.channels = b.channels ∧ a.tile = b.tile
      ∧ a.tileSize = b.tileSize ∧ a.constants = b.constants := by
  constructor
  · intro h
    rcases List.append_inj h rfl with ⟨hchannels, hrest⟩
    rcases List.cons.inj hrest with ⟨htile, hrest⟩
    rcases List.append_inj hrest rfl with ⟨hsize, hmode⟩
    exact ⟨i32Bytes_injective hchannels, TileVariant.toByte_injective htile,
      i32Bytes_injective hsize, ConstantsMode.toByte_injective (List.cons.inj hmode).1⟩
  · rintro ⟨hchannels, htile, hsize, hconstants⟩
    rw [tailBytes, tailBytes, hchannels, htile, hsize, hconstants]

lemma length_opBytes (keyed : Bool) (op : Op) :
    (opBytes keyed op).length = if keyed then 5 else 1 := by
  cases keyed <;> rfl

/-- The bytes of an op say what `operator==` sees of it. -/
lemma opBytes_iff (keyed : Bool) (a b : Op) :
    opBytes keyed a = opBytes keyed b ↔ view keyed a = view keyed b := by
  have hkind : a.kind.toByte = b.kind.toByte ↔ a.kind = b.kind :=
    ⟨fun h => OpKind.toByte_injective h, congrArg OpKind.toByte⟩
  have hparam : i32Bytes (paramHundredths a.param) = i32Bytes (paramHundredths b.param)
      ↔ paramHundredths a.param = paramHundredths b.param :=
    ⟨i32Bytes_injective, congrArg i32Bytes⟩
  cases keyed with
  | false => simp [opBytes, view, hkind]
  | true => simp [opBytes, view, hkind, hparam]

lemma flatMap_opBytes_iff (keyed : Bool) : ∀ {ops ops' : List Op}, ops.length = ops'.length →
    (ops.flatMap (opBytes keyed) = ops'.flatMap (opBytes keyed)
      ↔ ops.map (view keyed) = ops'.map (view keyed))
  | [], [], _ => by simp
  | op :: ops, op' :: ops', h => by
      have hlength : ops.length = ops'.length := Nat.succ.inj h
      have hop : (opBytes keyed op).length = (opBytes keyed op').length := by
        rw [length_opBytes, length_opBytes]
      rw [List.flatMap_cons, List.flatMap_cons, List.map_cons, List.map_cons, List.cons.injEq,
        ← opBytes_iff, ← flatMap_opBytes_iff keyed hlength]
      constructor
      · intro heq
        exact List.append_inj heq hop
      · rintro ⟨hhead, htail⟩
        rw [hhead, htail]

/-- **The string says what `operator==` compares**: up to the length the op count can hold. -/
theorem keyBytes_iff {a b : KernelKey} (ha : a.chain.ops.length < 2 ^ 31)
    (hb : b.chain.ops.length < 2 ^ 31) : a.keyBytes = b.keyBytes ↔ a.beq b = true := by
  rw [beq_iff]
  constructor
  · intro h
    rcases List.append_inj h rfl with ⟨hcount, hrest⟩
    have hlength : a.chain.ops.length = b.chain.ops.length := by
      have hcount := congrArg Int32.toInt (i32Bytes_injective hcount)
      rw [Int32.toInt_ofNat_of_lt ha, Int32.toInt_ofNat_of_lt hb] at hcount
      exact Int.ofNat_inj.mp hcount
    -- The op bytes end where the last ten bytes begin, whatever the mode.
    rcases List.append_inj' hrest rfl with ⟨hops, htail⟩
    rcases (tailBytes_iff a b).mp htail with ⟨hchannels, htile, hsize, hconstants⟩
    have hkeyed : b.keyedByParams = a.keyedByParams := by
      rw [keyedByParams, keyedByParams, hconstants]
    rw [hkeyed] at hops ⊢
    exact ⟨hchannels, htile, hsize, hconstants, (flatMap_opBytes_iff _ hlength).mp hops⟩
  · rintro ⟨hchannels, htile, hsize, hconstants, hops⟩
    have hlength : a.chain.ops.length = b.chain.ops.length := by
      simpa using congrArg List.length hops
    have hkeyed : b.keyedByParams = a.keyedByParams := by
      rw [keyedByParams, keyedByParams, hconstants]
    rw [hkeyed] at hops
    rw [keyBytes, keyBytes, hlength, hkeyed, (flatMap_opBytes_iff _ hlength).mpr hops,
      (tailBytes_iff a b).mpr ⟨hchannels, htile, hsize, hconstants⟩]

/-- **Any collision comes from the fold.**  `operator==` is an equivalence, equal keys hash alike,
the hash is a fold over the bytes, and the bytes determine the key up to `operator==`. -/
theorem key_encoding :
    (Equivalence fun a b : KernelKey => a.beq b = true)
      ∧ (∀ a b : KernelKey, a.beq b = true → hashKernelKey a = hashKernelKey b)
      ∧ (∀ key : KernelKey, hashKernelKey key = key.keyBytes.foldl hashByte kFnvOffsetBasis)
      ∧ ∀ a b : KernelKey, a.chain.ops.length < 2 ^ 31 → b.chain.ops.length < 2 ^ 31 →
          (a.keyBytes = b.keyBytes ↔ a.beq b = true) :=
  ⟨⟨beq_refl, beq_symm, beq_trans⟩, fun _ _ => hash_of_beq, hashKernelKey_eq,
    fun _ _ => keyBytes_iff⟩

/-- Parameterized keys that differ in a parameter only share their bytes. -/
theorem key_encoding_parameterized :
    keyBytes { chain := ⟨[⟨.kBrightness, 1 / 10⟩]⟩, constants := .kParameterized }
      = keyBytes { chain := ⟨[⟨.kBrightness, 1 / 5⟩]⟩, constants := .kParameterized } := by
  refine (key_encoding.2.2.2 _ _ ?_ ?_).mpr ?_
  · decide
  · decide
  · decide

end KernelKey

end Imgjit
