import Imgjit.Net.Transfer

/-!
# A transfer is exact, however the stream is cut

What the loops of `socket.cpp` do on every wire: short reads, interruptions, an end or an error at
any point.  Only one thing about a wire matters to them, the bytes that arrive before its end or its
first error.

**What arrives.**  `Wire.delivered` are those bytes.  `recv_cases` is what one call does to them,
and it is all that the rest of the file knows of `recv`.  A wire without an error is clean, and the
loops leave it so (`recv_clean`, `readExact_clean`, `drainExactly_clean`).

**Reads and drains.**  `readExact_enough`, `readExact_short`: a read succeeds if and only if enough
bytes arrive, and then it takes exactly those.  `drainExactly` is `drain_exactly`, scratch buffer by
scratch buffer, and `drainExactly_enough` and `drainExactly_short` say the same of it.

**What is asked for.**  `ReadCall` are the calls a read or a drain makes.  None asks for more than
is still wanted, so no byte behind the buffer is written and none of the next frame is taken.
`readExact_replay` and `drainExactly_replay` say that these are the calls of the loops: made one
after the other, they bring what the loop reads and leave the wire that it leaves.

`transfers_exact` has all of it, and what a write sends.
-/

namespace Imgjit

namespace Wire

/-- The bytes that arrive before the end of the stream or the first error. -/
def delivered : Wire → List UInt8
  | [] => []
  | .segment first rest :: wire => first :: rest ++ delivered wire
  | .interrupt :: wire => delivered wire
  | .failure :: _ => []

end Wire

/-! ## One call -/

/-- **One call**: it finds the end or an error and nothing delivered, or is interrupted and takes
nothing, or takes a non-empty piece that is no longer than it asked for. -/
theorem recv_cases (wire : Wire) {count : ℕ} (hcount : count ≠ 0) :
    (∃ outcome wire', recv wire count = (outcome, wire') ∧ (outcome = .eof ∨ outcome = .error)
        ∧ wire.delivered = [])
      ∨ (∃ wire', recv wire count = (.interrupted, wire') ∧ wire'.delivered = wire.delivered
        ∧ wire'.bytes = wire.bytes)
      ∨ ∃ got wire', recv wire count = (.data got, wire') ∧ got ≠ [] ∧ got.length ≤ count
        ∧ wire.delivered = got ++ wire'.delivered ∧ wire.bytes = got ++ wire'.bytes := by
  rcases wire with _ | ⟨arrival, wire⟩
  · exact .inl ⟨_, _, rfl, .inl rfl, rfl⟩
  · cases arrival with
    | failure => exact .inl ⟨_, _, rfl, .inr rfl, rfl⟩
    | interrupt => exact .inr (.inl ⟨_, rfl, rfl, rfl⟩)
    | segment first rest =>
        have hsplit := List.take_append_drop count (first :: rest)
        have hle : ((first :: rest).take count).length ≤ count := by
          rw [List.length_take]
          exact Nat.min_le_left _ _
        refine .inr (.inr ⟨_, _, rfl, by simpa using hcount, hle, ?_⟩)
        cases hleft : (first :: rest).drop count with
        | nil =>
            rw [hleft, List.append_nil] at hsplit
            simp only [Wire.delivered, Wire.bytes, hsplit, and_self]
        | cons byte bytes =>
            rw [hleft] at hsplit
            have hkept : ∀ tail, first :: rest ++ tail
                = (first :: rest).take count ++ (byte :: bytes ++ tail) := by
              intro tail
              rw [← List.append_assoc, hsplit]
            exact ⟨hkept _, hkept _⟩

/-- No call returns more than it is asked for. -/
lemma recv_length_le {wire wire' : Wire} {count : ℕ} {got : List UInt8}
    (h : recv wire count = (.data got, wire')) : got.length ≤ count := by
  rcases wire with _ | ⟨arrival, wire⟩
  · cases h
  · cases arrival with
    | failure => cases h
    | interrupt => cases h
    | segment first rest =>
        simp only [recv, Prod.mk.injEq, Recv.data.injEq] at h
        rw [← h.1, List.length_take]
        exact Nat.min_le_left _ _

/-- `wire'` is what is left of a wire after `count` bytes are taken off it. -/
structure Taken (wire : Wire) (count : ℕ) (wire' : Wire) : Prop where
  delivered : wire'.delivered = wire.delivered.drop count
  bytes : wire'.bytes = wire.bytes.drop count

lemma Taken.refl (wire : Wire) : Taken wire 0 wire := ⟨rfl, rfl⟩

lemma Taken.trans {wire wire' wire'' : Wire} {count count' : ℕ} (h : Taken wire count wire')
    (h' : Taken wire' count' wire'') : Taken wire (count + count') wire'' where
  delivered := by rw [h'.delivered, h.delivered, List.drop_drop]
  bytes := by rw [h'.bytes, h.bytes, List.drop_drop]

lemma Taken.of_append {wire wire' : Wire} {got : List UInt8}
    (hdelivered : wire.delivered = got ++ wire'.delivered)
    (hbytes : wire.bytes = got ++ wire'.bytes) : Taken wire got.length wire' where
  delivered := by rw [hdelivered, List.drop_left]
  bytes := by rw [hbytes, List.drop_left]

/-- No call puts an error on a wire. -/
lemma recv_clean {wire wire' : Wire} {count : ℕ} {outcome : Recv} (hclean : wire.Clean)
    (h : recv wire count = (outcome, wire')) : wire'.Clean := by
  rcases wire with _ | ⟨arrival, wire⟩
  · cases h
    exact hclean
  · have htail : Wire.Clean wire := fun hmem => hclean (List.mem_cons_of_mem _ hmem)
    cases arrival with
    | failure => exact absurd List.mem_cons_self hclean
    | interrupt =>
        cases h
        exact htail
    | segment first rest =>
        simp only [recv, Prod.mk.injEq] at h
        rcases h with ⟨-, rfl⟩
        split
        · exact htail
        · intro hmem
          rcases List.mem_cons.mp hmem with hsegment | hmem
          · cases hsegment
          · exact htail hmem

/-- On a clean wire everything arrives. -/
lemma Wire.Clean.delivered {wire : Wire} (h : wire.Clean) : wire.delivered = wire.bytes := by
  induction wire with
  | nil => rfl
  | cons arrival wire ih =>
      have htail : Wire.Clean wire := fun hmem => h (List.mem_cons_of_mem _ hmem)
      cases arrival with
      | failure => exact absurd List.mem_cons_self h
      | interrupt => exact ih htail
      | segment first rest =>
          rw [Wire.delivered, Wire.bytes, ih htail]

/-! ## Reading -/

/-- If enough bytes arrive, the read takes them and no more. -/
theorem readExact_enough {wire : Wire} {count : ℕ} (h : count ≤ wire.delivered.length)
    (buffer : List UInt8) :
    ∃ wire', readExact wire count buffer = (.kOk, buffer ++ wire.delivered.take count, wire')
      ∧ Taken wire count wire' := by
  by_cases hcount : count = 0
  · subst hcount
    exact ⟨wire, by rw [readExact, dif_pos rfl, List.take_zero, List.append_nil], .refl wire⟩
  · rcases recv_cases wire hcount with
      ⟨_, _, -, -, hnone⟩ | ⟨wire', hrecv, hsame, hbytes⟩
        | ⟨got, wire', hrecv, -, hle, hdelivered, hbytes⟩
    · rw [hnone, List.length_nil] at h
      omega
    · have hsize := recv_size_lt hcount hrecv (by simp)
      obtain ⟨wire'', hread, htaken⟩ := readExact_enough (hsame ▸ h) buffer
      refine ⟨wire'', ?_, ⟨hsame ▸ htaken.delivered, hbytes ▸ htaken.bytes⟩⟩
      rw [readExact, dif_neg hcount, hrecv]
      simp only [hread, hsame]
    · have hsize := recv_size_lt hcount hrecv (by simp)
      have hleft : count - got.length ≤ wire'.delivered.length := by
        rw [hdelivered, List.length_append] at h
        omega
      obtain ⟨wire'', hread, htaken⟩ := readExact_enough hleft (buffer ++ got)
      refine ⟨wire'', ?_, ?_⟩
      · have htake : wire.delivered.take count
            = got ++ wire'.delivered.take (count - got.length) := by
          rw [hdelivered, List.take_append, List.take_of_length_le hle]
        rw [readExact, dif_neg hcount, hrecv]
        simp only [hread, htake, List.append_assoc]
      · have := (Taken.of_append hdelivered hbytes).trans htaken
        rwa [Nat.add_sub_cancel' hle] at this
  termination_by wire.size

/-- If they do not, it fails. -/
theorem readExact_short {wire : Wire} {count : ℕ} (h : wire.delivered.length < count)
    (buffer : List UInt8) : (readExact wire count buffer).1 ≠ .kOk := by
  have hcount : count ≠ 0 := by omega
  rcases recv_cases wire hcount with
    ⟨outcome, wire', hrecv, hend, -⟩ | ⟨wire', hrecv, hsame, -⟩
      | ⟨got, wire', hrecv, -, -, hdelivered, -⟩
  · rw [readExact, dif_neg hcount, hrecv]
    rcases hend with rfl | rfl <;> simp
  · have hsize := recv_size_lt hcount hrecv (by simp)
    have hshort := readExact_short (hsame ▸ h) buffer
    rw [readExact, dif_neg hcount, hrecv]
    exact hshort
  · have hsize := recv_size_lt hcount hrecv (by simp)
    have hleft : wire'.delivered.length < count - got.length := by
      rw [hdelivered, List.length_append] at h
      omega
    have hshort := readExact_short hleft (buffer ++ got)
    rw [readExact, dif_neg hcount, hrecv]
    exact hshort
  termination_by wire.size

lemma readExact_kOk {wire : Wire} {count : ℕ} {buffer : List UInt8} :
    (readExact wire count buffer).1 = .kOk ↔ count ≤ wire.delivered.length := by
  constructor
  · intro hok
    by_contra hshort
    exact readExact_short (by omega) buffer hok
  · intro henough
    obtain ⟨wire', hread, -⟩ := readExact_enough henough buffer
    rw [hread]

/-- A read that succeeds has received as much as it was asked for. -/
lemma readExact_length {wire : Wire} {count : ℕ} {buffer : List UInt8}
    (hok : (readExact wire count buffer).1 = .kOk) :
    (readExact wire count buffer).2.1.length = buffer.length + count := by
  have henough := readExact_kOk.mp hok
  obtain ⟨wire', hread, -⟩ := readExact_enough henough buffer
  rw [hread, List.length_append, List.length_take, Nat.min_eq_left henough]

/-- A read puts no error on a clean wire. -/
lemma readExact_clean {wire : Wire} (hclean : wire.Clean) (count : ℕ) (buffer : List UInt8) :
    (readExact wire count buffer).2.2.Clean := by
  by_cases hcount : count = 0
  · rw [readExact, dif_pos hcount]
    exact hclean
  · rcases hrecv : recv wire count with ⟨outcome, wire'⟩
    have hclean' := recv_clean hclean hrecv
    rw [readExact, dif_neg hcount, hrecv]
    cases outcome with
    | eof => exact hclean'
    | error => exact hclean'
    | interrupted =>
        have hsize := recv_size_lt hcount hrecv (by simp)
        exact readExact_clean hclean' count buffer
    | data bytes =>
        have hsize := recv_size_lt hcount hrecv (by simp)
        exact readExact_clean hclean' _ _
  termination_by wire.size

/-! ## Draining -/

/-- `drain_exactly`: its result, and the wire behind it. -/
def drainExactly (wire : Wire) (bytes : ℕ) : IoResult × Wire :=
  if _hbytes : bytes = 0 then (.kOk, wire)
  else
    let chunk := min bytes kScratchBytes
    match readExact wire chunk [] with
    | (.kOk, _, wire') => drainExactly wire' (bytes - chunk)
    | (result, _, wire') => (result, wire')
  termination_by bytes
  decreasing_by
    simp only [kScratchBytes]
    omega

/-- If enough bytes arrive, a drain takes them and no more. -/
theorem drainExactly_enough {wire : Wire} {bytes : ℕ} (h : bytes ≤ wire.delivered.length) :
    ∃ wire', drainExactly wire bytes = (.kOk, wire') ∧ Taken wire bytes wire' := by
  by_cases hbytes : bytes = 0
  · subst hbytes
    exact ⟨wire, by rw [drainExactly, dif_pos rfl], .refl wire⟩
  · have hchunk : min bytes kScratchBytes ≤ wire.delivered.length :=
      Nat.le_trans (Nat.min_le_left _ _) h
    obtain ⟨wire', hread, htaken⟩ := readExact_enough hchunk []
    have hless : bytes - min bytes kScratchBytes < bytes := by
      simp only [kScratchBytes]
      omega
    have hleft : bytes - min bytes kScratchBytes ≤ wire'.delivered.length := by
      rw [htaken.delivered, List.length_drop]
      omega
    obtain ⟨wire'', hdrain, htaken'⟩ := drainExactly_enough hleft
    refine ⟨wire'', ?_, ?_⟩
    · rw [drainExactly, dif_neg hbytes]
      simp only [hread, hdrain]
    · have := htaken.trans htaken'
      rwa [Nat.add_sub_cancel' (Nat.min_le_left _ _)] at this
  termination_by bytes

/-- If they do not, it fails, in whichever chunk they run out. -/
theorem drainExactly_short {wire : Wire} {bytes : ℕ} (h : wire.delivered.length < bytes) :
    (drainExactly wire bytes).1 ≠ .kOk := by
  have hbytes : bytes ≠ 0 := by omega
  rw [drainExactly, dif_neg hbytes]
  by_cases hchunk : min bytes kScratchBytes ≤ wire.delivered.length
  · obtain ⟨wire', hread, htaken⟩ := readExact_enough hchunk []
    have hless : bytes - min bytes kScratchBytes < bytes := by
      simp only [kScratchBytes]
      omega
    have hleft : wire'.delivered.length < bytes - min bytes kScratchBytes := by
      rw [htaken.delivered, List.length_drop]
      omega
    have hshort := drainExactly_short hleft
    simp only [hread]
    exact hshort
  · have hread := readExact_short (Nat.lt_of_not_le hchunk) []
    rcases hresult : readExact wire (min bytes kScratchBytes) [] with ⟨result, buffer, wire'⟩
    rw [hresult] at hread
    simp only [hresult]
    cases result with
    | kOk => exact absurd rfl hread
    | kEof => simp
    | kError => simp
  termination_by bytes

lemma drainExactly_kOk {wire : Wire} {bytes : ℕ} :
    (drainExactly wire bytes).1 = .kOk ↔ bytes ≤ wire.delivered.length := by
  constructor
  · intro hok
    by_contra hshort
    exact drainExactly_short (by omega) hok
  · intro henough
    obtain ⟨wire', hdrain, -⟩ := drainExactly_enough henough
    rw [hdrain]

lemma drainExactly_clean {wire : Wire} (hclean : wire.Clean) (bytes : ℕ) :
    (drainExactly wire bytes).2.Clean := by
  by_cases hbytes : bytes = 0
  · rw [drainExactly, dif_pos hbytes]
    exact hclean
  · have hless : bytes - min bytes kScratchBytes < bytes := by
      simp only [kScratchBytes]
      omega
    have hread := readExact_clean hclean (min bytes kScratchBytes) []
    rw [drainExactly, dif_neg hbytes]
    rcases hresult : readExact wire (min bytes kScratchBytes) [] with ⟨result, buffer, wire'⟩
    rw [hresult] at hread
    simp only [hresult]
    cases result with
    | kOk => exact drainExactly_clean hread _
    | kEof => exact hread
    | kError => exact hread
  termination_by bytes

/-! ## What is asked for -/

/-- A call of `recv`: the bytes received before it, and the count it passes. -/
structure ReadCall where
  received : ℕ
  requested : ℕ
  deriving DecidableEq, Repr

/-- The calls `readExact` makes, with `received` bytes read so far. -/
def readExactCalls (wire : Wire) (remaining received : ℕ) : List ReadCall :=
  if _hremaining : remaining = 0 then []
  else
    { received, requested := remaining } ::
      match _h : recv wire remaining with
      | (.eof, _) => []
      | (.interrupted, wire') => readExactCalls wire' remaining received
      | (.error, _) => []
      | (.data bytes, wire') =>
          readExactCalls wire' (remaining - bytes.length) (received + bytes.length)
  termination_by wire.size
  decreasing_by all_goals exact recv_size_lt _hremaining _h (by simp)

/-- The calls `drainExactly` makes. -/
def drainExactlyCalls (wire : Wire) (bytes received : ℕ) : List ReadCall :=
  if _hbytes : bytes = 0 then []
  else
    let chunk := min bytes kScratchBytes
    readExactCalls wire chunk received ++
      match readExact wire chunk [] with
      | (.kOk, _, wire') => drainExactlyCalls wire' (bytes - chunk) (received + chunk)
      | (_, _, _) => []
  termination_by bytes
  decreasing_by
    simp only [kScratchBytes]
    omega

/-- **A read never asks for more than it still wants**, so it stays inside its buffer and its
frame. -/
theorem readExactCalls_le {wire : Wire} {remaining received : ℕ} :
    ∀ call ∈ readExactCalls wire remaining received,
      received ≤ call.received
        ∧ call.received + call.requested = received + remaining := by
  intro call hcall
  by_cases hremaining : remaining = 0
  · rw [readExactCalls, dif_pos hremaining] at hcall
    cases hcall
  · rw [readExactCalls, dif_neg hremaining] at hcall
    rcases List.mem_cons.mp hcall with rfl | hcall
    · exact ⟨Nat.le_refl _, rfl⟩
    · rcases recv_cases wire hremaining with
        ⟨outcome, wire', hrecv, hend, -⟩ | ⟨wire', hrecv, -, -⟩
          | ⟨got, wire', hrecv, -, hle, -, -⟩
      · rw [hrecv] at hcall
        rcases hend with rfl | rfl <;> cases hcall
      · have hsize := recv_size_lt hremaining hrecv (by simp)
        rw [hrecv] at hcall
        exact readExactCalls_le call hcall
      · have hsize := recv_size_lt hremaining hrecv (by simp)
        rw [hrecv] at hcall
        have := readExactCalls_le call hcall
        omega
  termination_by wire.size

/-- **Nor does a drain**, and it never asks for more than its scratch buffer holds. -/
theorem drainExactlyCalls_le {wire : Wire} {bytes received : ℕ} :
    ∀ call ∈ drainExactlyCalls wire bytes received,
      call.received + call.requested ≤ received + bytes ∧ call.requested ≤ kScratchBytes := by
  intro call hcall
  by_cases hbytes : bytes = 0
  · rw [drainExactlyCalls, dif_pos hbytes] at hcall
    cases hcall
  · have hless : bytes - min bytes kScratchBytes < bytes := by
      simp only [kScratchBytes]
      omega
    rw [drainExactlyCalls, dif_neg hbytes] at hcall
    rcases List.mem_append.mp hcall with hcall | hcall
    · have := readExactCalls_le call hcall
      omega
    · rcases hresult : readExact wire (min bytes kScratchBytes) [] with ⟨result, buffer, wire'⟩
      rw [hresult] at hcall
      cases result with
      | kOk =>
          have := drainExactlyCalls_le call hcall
          omega
      | kEof => cases hcall
      | kError => cases hcall
  termination_by bytes

/-! ## The calls are those of the loop -/

/-- The calls made one after the other, each where the ones before it have got to: the bytes they
bring, and the wire behind them. -/
def replay (wire : Wire) (received : ℕ) : List ReadCall → Option (List UInt8 × Wire)
  | [] => some ([], wire)
  | call :: calls =>
      if call.received = received then
        let (outcome, wire') := recv wire call.requested
        (replay wire' (received + outcome.bytes.length) calls).map fun (bytes, wire'') =>
          (outcome.bytes ++ bytes, wire'')
      else none

lemma replay_append {wire wire' wire'' : Wire} {received : ℕ} {calls calls' : List ReadCall}
    {bytes bytes' : List UInt8} (h : replay wire received calls = some (bytes, wire'))
    (h' : replay wire' (received + bytes.length) calls' = some (bytes', wire'')) :
    replay wire received (calls ++ calls') = some (bytes ++ bytes', wire'') := by
  induction calls generalizing wire received bytes with
  | nil =>
      cases h
      exact h'
  | cons call calls ih =>
      simp only [replay] at h
      split_ifs at h with hreceived
      rcases Option.map_eq_some_iff.mp h with ⟨⟨later, wire₁⟩, hlater, hjoin⟩
      obtain ⟨rfl, rfl⟩ := Prod.mk.inj hjoin
      rw [List.length_append, ← Nat.add_assoc] at h'
      simp only [List.cons_append, replay, if_pos hreceived, ih hlater h', Option.map_some,
        List.append_assoc]

/-- **Made one after the other, the calls of a read** bring its bytes and leave its wire. -/
theorem readExact_replay (wire : Wire) (remaining received : ℕ) (buffer : List UInt8) :
    ∃ bytes, (readExact wire remaining buffer).2.1 = buffer ++ bytes
      ∧ replay wire received (readExactCalls wire remaining received)
        = some (bytes, (readExact wire remaining buffer).2.2) := by
  by_cases hremaining : remaining = 0
  · refine ⟨[], ?_, ?_⟩
    · rw [readExact, dif_pos hremaining, List.append_nil]
    · rw [readExact, dif_pos hremaining, readExactCalls, dif_pos hremaining]
      rfl
  · rcases hrecv : recv wire remaining with ⟨outcome, wire'⟩
    rw [readExact, dif_neg hremaining, readExactCalls, dif_neg hremaining, hrecv]
    cases outcome with
    | eof => exact ⟨[], (List.append_nil _).symm, by simp [replay, hrecv, Recv.bytes]⟩
    | error => exact ⟨[], (List.append_nil _).symm, by simp [replay, hrecv, Recv.bytes]⟩
    | interrupted =>
        have hsize := recv_size_lt hremaining hrecv (by simp)
        obtain ⟨bytes, hbytes, hreplay⟩ := readExact_replay wire' remaining received buffer
        exact ⟨bytes, hbytes, by simp [replay, hrecv, Recv.bytes, hreplay]⟩
    | data got =>
        have hsize := recv_size_lt hremaining hrecv (by simp)
        obtain ⟨bytes, hbytes, hreplay⟩ :=
          readExact_replay wire' (remaining - got.length) (received + got.length) (buffer ++ got)
        exact ⟨got ++ bytes, by simp [hbytes], by simp [replay, hrecv, Recv.bytes, hreplay]⟩
  termination_by wire.size

/-- **So do the calls of a drain.** -/
theorem drainExactly_replay (wire : Wire) (count received : ℕ) :
    ∃ bytes, replay wire received (drainExactlyCalls wire count received)
      = some (bytes, (drainExactly wire count).2) := by
  by_cases hcount : count = 0
  · refine ⟨[], ?_⟩
    rw [drainExactly, dif_pos hcount, drainExactlyCalls, dif_pos hcount]
    rfl
  · have hless : count - min count kScratchBytes < count := by
      simp only [kScratchBytes]
      omega
    obtain ⟨bytes, hbytes, hreplay⟩ := readExact_replay wire (min count kScratchBytes) received []
    rw [drainExactly, dif_neg hcount, drainExactlyCalls, dif_neg hcount]
    rcases hresult : readExact wire (min count kScratchBytes) [] with ⟨result, buffer, wire'⟩
    rw [hresult] at hbytes hreplay
    obtain rfl : buffer = bytes := hbytes
    simp only [hresult]
    cases result with
    | kOk =>
        have hbuffer : buffer.length = min count kScratchBytes := by
          have hlength := readExact_length (congrArg Prod.fst hresult)
          rw [hresult, List.length_nil, Nat.zero_add] at hlength
          exact hlength
        obtain ⟨later, hlater⟩ := drainExactly_replay wire' (count - min count kScratchBytes)
          (received + min count kScratchBytes)
        refine ⟨buffer ++ later, replay_append hreplay ?_⟩
        rw [hbuffer]
        exact hlater
    | kEof => exact ⟨buffer, by rw [List.append_nil]; exact hreplay⟩
    | kError => exact ⟨buffer, by rw [List.append_nil]; exact hreplay⟩
  termination_by count

/-! ## Every transfer -/

/-- Whatever becomes of a write, what went out is a prefix of its bytes. -/
lemma writeExact_head (sends : List Sent) (bytes : List UInt8) :
    (writeExact sends bytes).2.1 <+: bytes := by
  induction sends generalizing bytes with
  | nil => cases bytes <;> exact List.nil_prefix
  | cons sent sends ih =>
      cases bytes with
      | nil => exact List.nil_prefix
      | cons byte bytes =>
          cases sent with
          | accepted count =>
              have hrest := ih ((byte :: bytes).drop count)
              have hjoin := (List.prefix_append_right_inj ((byte :: bytes).take count)).mpr hrest
              rw [List.take_append_drop] at hjoin
              exact hjoin
          | interrupted => exact ih (byte :: bytes)
          | error => exact List.nil_prefix

/-- **Reads, drains and writes are exact**, however the stream is cut and whenever it ends.  A read
or a drain succeeds if and only if its bytes arrive before the end and before any error; then the
buffer holds them, and exactly they are gone from the stream.  The calls it makes never ask for more
than is still wanted, and made one after the other they bring what it reads and leave what it
leaves.  A write sends a prefix, and all of it if it succeeds. -/
theorem transfers_exact (wire : Wire) (count : ℕ) :
    ((readExact wire count []).1 = .kOk ↔ count ≤ wire.delivered.length)
      ∧ ((readExact wire count []).1 = .kOk →
        (readExact wire count []).2.1 = wire.delivered.take count
          ∧ Taken wire count (readExact wire count []).2.2)
      ∧ ((drainExactly wire count).1 = .kOk ↔ count ≤ wire.delivered.length)
      ∧ ((drainExactly wire count).1 = .kOk → Taken wire count (drainExactly wire count).2)
      ∧ (∀ call ∈ readExactCalls wire count 0, call.received + call.requested ≤ count)
      ∧ (∀ call ∈ drainExactlyCalls wire count 0, call.received + call.requested ≤ count)
      ∧ replay wire 0 (readExactCalls wire count 0)
        = some ((readExact wire count []).2.1, (readExact wire count []).2.2)
      ∧ (∃ bytes, replay wire 0 (drainExactlyCalls wire count 0)
        = some (bytes, (drainExactly wire count).2))
      ∧ ∀ (sends : List Sent) (bytes : List UInt8), (writeExact sends bytes).2.1 <+: bytes
        ∧ ((writeExact sends bytes).1 = .kOk → (writeExact sends bytes).2.1 = bytes) := by
  refine ⟨readExact_kOk, fun hok => ?_, drainExactly_kOk, fun hok => ?_, fun call hcall => ?_,
    fun call hcall => ?_, ?_, drainExactly_replay wire count 0,
    fun sends bytes => ⟨writeExact_head sends bytes, writeExact_kOk⟩⟩
  · obtain ⟨wire', hread, htaken⟩ := readExact_enough (readExact_kOk.mp hok) []
    rw [hread]
    exact ⟨rfl, htaken⟩
  · obtain ⟨wire', hdrain, htaken⟩ := drainExactly_enough (drainExactly_kOk.mp hok)
    rw [hdrain]
    exact htaken
  · have := readExactCalls_le call hcall
    omega
  · have := drainExactlyCalls_le call hcall
    omega
  · obtain ⟨bytes, hbytes, hreplay⟩ := readExact_replay wire count 0 []
    rw [hreplay, hbytes, List.nil_append]

end Imgjit
