import Imgjit.Net.Socket

/-!
# Whole transfers

`read_exact` and `write_exact`: the two loops that turn the pieces a stream socket deals in into
buffers of a known length.  Everything that the reader, the writer and the client do on a socket
goes through them.

* `readExact` — the receiving loop, over a `Wire`.  It goes on behind an interruption and ends at
  the end of the stream or at an error; each call shortens the wire, so it comes to an end.
* `Sent`, `writeExact` — the sending loop, over what the calls of `send` return.  A call may take a
  part of what it is given, and what was sent before an error has been sent.
* `readExact_delivers`, `writeExact_kOk` — a transfer that succeeds has moved exactly its bytes.

What the loops do on a wire with errors is in `ExactTransfer.lean`.
-/

namespace Imgjit

/-! ## Receiving -/

/-- A call that does not find the end of the stream uses up some of what is still to happen. -/
lemma recv_size_lt {wire wire' : Wire} {count : ℕ} {outcome : Recv} (hcount : count ≠ 0)
    (h : recv wire count = (outcome, wire')) (hne : outcome ≠ .eof) : wire'.size < wire.size := by
  rcases wire with _ | ⟨arrival, wire⟩
  · cases h
    exact absurd rfl hne
  · cases arrival with
    | interrupt =>
        cases h
        simp only [Wire.size]
        omega
    | failure =>
        cases h
        simp only [Wire.size]
        omega
    | segment first rest =>
        obtain ⟨n, rfl⟩ := Nat.exists_eq_succ_of_ne_zero hcount
        have hdrop : ((first :: rest).drop (n + 1)).length ≤ rest.length := by
          simp only [List.length_drop, List.length_cons]
          omega
        simp only [recv, Prod.mk.injEq] at h
        obtain ⟨-, rfl⟩ := h
        rcases hleft : (first :: rest).drop (n + 1) with _ | ⟨byte, bytes⟩
        · simp only [Wire.size]
          omega
        · rw [hleft, List.length_cons] at hdrop
          simp only [Wire.size]
          omega

/-- `read_exact`, with `remaining` bytes to go and `buffer` received. -/
def readExact (wire : Wire) (remaining : ℕ) (buffer : List UInt8) :
    IoResult × List UInt8 × Wire :=
  if _hremaining : remaining = 0 then (.kOk, buffer, wire)
  else
    match _h : recv wire remaining with
    | (.eof, wire') => (.kEof, buffer, wire')
    | (.interrupted, wire') => readExact wire' remaining buffer
    | (.error, wire') => (.kError, buffer, wire')
    | (.data bytes, wire') => readExact wire' (remaining - bytes.length) (buffer ++ bytes)
  termination_by wire.size
  decreasing_by all_goals exact recv_size_lt _hremaining _h (by simp)

/-- **A wire that brings the bytes delivers them**, whatever its pieces are. -/
theorem readExact_delivers {wire : Wire} {wanted rest : List UInt8} (hclean : wire.Clean)
    (hbytes : wire.bytes = wanted ++ rest) (buffer : List UInt8) :
    ∃ wire' : Wire, wire'.Clean ∧ wire'.bytes = rest
      ∧ readExact wire wanted.length buffer = (.kOk, buffer ++ wanted, wire') := by
  by_cases hwanted : wanted = []
  · subst hwanted
    refine ⟨wire, hclean, hbytes, ?_⟩
    rw [readExact, dif_pos List.length_nil, List.append_nil]
  · have hcount : wanted.length ≠ 0 := by simpa using hwanted
    obtain ⟨wire', hclean', hsize, ⟨hrecv, hkept⟩ | ⟨got, missing, rfl, hgot, hrecv, hkept⟩⟩ :=
      recv_delivers hclean hbytes hwanted
    · obtain ⟨wire'', hclean'', hrest, hread⟩ := readExact_delivers hclean' hkept buffer
      refine ⟨wire'', hclean'', hrest, ?_⟩
      rw [readExact, dif_neg hcount, hrecv]
      exact hread
    · obtain ⟨wire'', hclean'', hrest, hread⟩ :=
        readExact_delivers hclean' hkept (buffer ++ got)
      refine ⟨wire'', hclean'', hrest, ?_⟩
      have hmissing : (got ++ missing).length - got.length = missing.length := by simp
      rw [readExact, dif_neg hcount, hrecv]
      simp only [hmissing, hread, List.append_assoc]
  termination_by wire.size

/-! ## Sending -/

/-- The outcome of one `send`: some bytes taken, `EINTR`, or another error. -/
inductive Sent where
  | accepted (count : ℕ)
  | interrupted
  | error
  deriving DecidableEq, Repr

/-- `write_exact`: its result, the bytes that went out, and what the calls after it will return.  A
connection about which nothing more is said is dead. -/
def writeExact : List Sent → List UInt8 → IoResult × List UInt8 × List Sent
  | sends, [] => (.kOk, [], sends)
  | [], _ :: _ => (.kError, [], [])
  | .interrupted :: sends, bytes => writeExact sends bytes
  | .error :: sends, _ => (.kError, [], sends)
  | .accepted count :: sends, bytes =>
      let (result, written, sends') := writeExact sends (bytes.drop count)
      (result, bytes.take count ++ written, sends')

/-- **A write that succeeds has sent exactly its bytes.** -/
theorem writeExact_kOk {sends : List Sent} {bytes : List UInt8}
    (h : (writeExact sends bytes).1 = .kOk) : (writeExact sends bytes).2.1 = bytes := by
  induction sends generalizing bytes with
  | nil =>
      cases bytes with
      | nil => rfl
      | cons byte bytes => cases h
  | cons sent sends ih =>
      cases bytes with
      | nil => rfl
      | cons byte bytes =>
          cases sent with
          | accepted count =>
              simp only [writeExact] at h ⊢
              rw [ih h, List.take_append_drop]
          | interrupted =>
              simp only [writeExact] at h ⊢
              exact ih h
          | error => cases h

/-- One call that takes everything. -/
lemma writeExact_accepted {count : ℕ} {bytes : List UInt8} (sends : List Sent) (hne : bytes ≠ [])
    (h : bytes.length ≤ count) :
    writeExact (.accepted count :: sends) bytes = (.kOk, bytes, sends) := by
  rcases bytes with _ | ⟨byte, bytes⟩
  · exact absurd rfl hne
  · have hnil : ∀ tape, writeExact tape [] = (.kOk, [], tape) := by
      intro tape
      cases tape <;> rfl
    simp only [writeExact, List.drop_of_length_le h, List.take_of_length_le h, hnil,
      List.append_nil]

end Imgjit
