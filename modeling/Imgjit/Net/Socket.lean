import Mathlib.Data.List.Basic
import Mathlib.Tactic.Common

/-!
# The receiving side of a stream socket

TCP delivers a byte stream in pieces of its own choosing, and a signal can interrupt any call.  A
`Wire` is what is still to come on one connection, piece by piece; `recv` is one call of the system
function.  Segmentation is data here, not chance: a theorem for every wire is a theorem for every
segmentation, every interruption, and every end.

* `Wire` — pieces, interruptions and an error, in the order in which they will come; its end is the
  orderly end of the stream.
* `Wire.bytes` — all the bytes on it; `Wire.Clean` — it has no error.
* `recv` — one call, which takes no more than it asks for and leaves the rest of a piece.
* `recv_delivers` — on a wire that brings `n` more bytes, one call for `n` bytes either is
  interrupted or returns a non-empty piece of them, and nothing else is lost.
* `kScratchBytes` — the size of the buffer that unwanted bytes are read into.
-/

namespace Imgjit

/-- `enum class IoResult`. -/
inductive IoResult where
  | kOk
  | kEof
  | kError
  deriving DecidableEq, Repr

/-- What happens next on a connection: a non-empty run of bytes arrives, a signal interrupts the
call, or the connection fails. -/
inductive Arrival where
  | segment (first : UInt8) (rest : List UInt8)
  | interrupt
  | failure
  deriving DecidableEq, Repr

/-- Everything still to happen on a connection.  Behind it lies the end of the stream. -/
abbrev Wire := List Arrival

/-- The outcome of one `recv`: a positive count, zero, `EINTR`, or another error. -/
inductive Recv where
  | data (bytes : List UInt8)
  | eof
  | interrupted
  | error
  deriving DecidableEq, Repr

/-- The bytes a call brings. -/
def Recv.bytes : Recv → List UInt8
  | .data bytes => bytes
  | _ => []

/-- One `recv` for at most `count` bytes, `count > 0`.  It returns what is there, and leaves the
rest of a longer segment for the next call. -/
def recv : Wire → ℕ → Recv × Wire
  | [], _ => (.eof, [])
  | .interrupt :: wire, _ => (.interrupted, wire)
  | .failure :: wire, _ => (.error, wire)
  | .segment first rest :: wire, count =>
      (.data ((first :: rest).take count),
        match (first :: rest).drop count with
        | [] => wire
        | byte :: bytes => .segment byte bytes :: wire)

namespace Wire

/-- The byte stream a wire carries. -/
def bytes : Wire → List UInt8
  | [] => []
  | .segment first rest :: wire => first :: rest ++ bytes wire
  | _ :: wire => bytes wire

/-- No error comes before the end of the stream. -/
def Clean (wire : Wire) : Prop := Arrival.failure ∉ wire

/-- Whether a wire has no error can be computed. -/
instance (wire : Wire) : Decidable wire.Clean := inferInstanceAs (Decidable (_ ∉ _))

/-- Enough fuel for as many calls as the wire can answer. -/
def size : Wire → ℕ
  | [] => 0
  | .segment _ rest :: wire => rest.length + 2 + size wire
  | _ :: wire => 1 + size wire

end Wire

/-- `scratch.size()` of `drain_exactly`. -/
def kScratchBytes : ℕ := 4096

/-- Whatever the segmentation, a call that finds bytes to read makes progress and loses none. -/
theorem recv_delivers {wire : Wire} {wanted rest : List UInt8} (hclean : wire.Clean)
    (hbytes : wire.bytes = wanted ++ rest) (hwanted : wanted ≠ []) :
    ∃ wire' : Wire, wire'.Clean ∧ wire'.size < wire.size ∧
      ((recv wire wanted.length = (.interrupted, wire') ∧ wire'.bytes = wanted ++ rest) ∨
        ∃ got missing, wanted = got ++ missing ∧ got ≠ [] ∧
          recv wire wanted.length = (.data got, wire') ∧ wire'.bytes = missing ++ rest) := by
  have hpos := List.length_pos_of_ne_nil hwanted
  rcases wire with _ | ⟨arrival, wire⟩
  · simp [Wire.bytes] at hbytes
    exact absurd hbytes.1 hwanted
  · have htail : Wire.Clean wire := fun h => hclean (List.mem_cons_of_mem _ h)
    cases arrival with
    | failure => exact absurd List.mem_cons_self hclean
    | interrupt =>
        exact ⟨wire, htail, by simp only [Wire.size]; omega, .inl ⟨rfl, hbytes⟩⟩
    | segment first tail =>
        simp only [Wire.bytes] at hbytes
        rcases List.append_eq_append_iff.mp hbytes
          with ⟨missing, hsplit, hrest⟩ | ⟨left, hsplit, hrest⟩
        · -- The segment ends inside the request: all of it is delivered.
          have hle : (first :: tail).length ≤ wanted.length := by
            rw [hsplit, List.length_append]
            omega
          refine ⟨wire, htail, by simp only [Wire.size]; omega,
            .inr ⟨first :: tail, missing, hsplit, by simp, ?_, hrest⟩⟩
          rw [recv, List.take_of_length_le hle, List.drop_of_length_le hle]
        · cases left with
          | nil =>
              rw [List.append_nil] at hsplit
              refine ⟨wire, htail, by simp only [Wire.size]; omega,
                .inr ⟨wanted, [], by simp, hwanted, ?_, ?_⟩⟩
              · rw [recv, hsplit, List.take_length, List.drop_length]
              · exact hrest.symm
          | cons byte left =>
              -- The segment reaches past the request: its rest stays on the wire.
              have hlength : tail.length + 1 = wanted.length + (left.length + 1) := by
                have := congrArg List.length hsplit
                simpa using this
              refine ⟨.segment byte left :: wire, ?_, by simp only [Wire.size]; omega,
                .inr ⟨wanted, [], by simp, hwanted, ?_, ?_⟩⟩
              · intro h
                rcases List.mem_cons.mp h with h | h
                · cases h
                · exact htail h
              · rw [recv, hsplit, List.take_left, List.drop_left]
              · exact hrest.symm

end Imgjit
