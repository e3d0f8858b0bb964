import Mathlib.Data.List.Basic

/-!
# Self-delimiting encodings

A format in which a frame can be cut off the front of a stream without looking past its own end.
Frames laid end to end are then recovered one by one, whatever follows them.  Protocols over a byte
stream depend on it: the receiver sees neither the writes of the sender nor where they end.

* `Format` — an encoding with its partial inverse on streams; the two laws are fields, so a format
  cannot be written down without them.
* `Format.split` — every complete frame of a stream, in order, and what is left.
* `Format.encodeAll` — frames laid end to end.
* `Format.split_append` — splitting frames laid end to end yields those frames, and goes on with
  what follows.
* `Format.frames_of_arrived` — what has arrived of frames laid end to end is the first of them, and
  a part of the rest.
-/

namespace SelfDelimiting

/-- Frames of type `F` written as words over `α`. -/
structure Format (α F : Type*) where
  encode : F → List α
  /-- The frame at the front of the stream, if one is complete, and what lies behind it. -/
  decode : List α → Option (F × List α)
  decode_encode : ∀ frame rest, decode (encode frame ++ rest) = some (frame, rest)
  encode_decode : ∀ {stream frame rest}, decode stream = some (frame, rest) →
    stream = encode frame ++ rest
  encode_ne_nil : ∀ frame, encode frame ≠ []

namespace Format

variable {α F : Type*} (format : Format α F)

lemma length_decode_lt {stream rest : List α} {frame : F}
    (h : format.decode stream = some (frame, rest)) : rest.length < stream.length := by
  rw [format.encode_decode h, List.length_append]
  have := List.length_pos_of_ne_nil (format.encode_ne_nil frame)
  omega

/-- The complete frames of a stream, in order. -/
def split (stream : List α) : List F :=
  match _h : format.decode stream with
  | none => []
  | some (frame, rest) => frame :: split rest
  termination_by stream.length
  decreasing_by exact format.length_decode_lt _h

/-- The frames laid end to end. -/
def encodeAll (frames : List F) : List α := frames.flatMap format.encode

@[simp] lemma encodeAll_nil : format.encodeAll [] = [] := rfl

@[simp] lemma encodeAll_cons (frame : F) (frames : List F) :
    format.encodeAll (frame :: frames) = format.encode frame ++ format.encodeAll frames := rfl

@[simp] lemma encodeAll_append (frames frames' : List F) :
    format.encodeAll (frames ++ frames') = format.encodeAll frames ++ format.encodeAll frames' :=
  List.flatMap_append

lemma split_of_decode_eq_some {stream rest : List α} {frame : F}
    (h : format.decode stream = some (frame, rest)) :
    format.split stream = frame :: format.split rest := by
  rw [split]
  split
  · rename_i hnone
    rw [h] at hnone
    cases hnone
  · rename_i frame' rest' hsome
    rw [h] at hsome
    cases hsome
    rfl

/-- **Frames laid end to end are recovered**, whatever comes behind them. -/
theorem split_append (frames : List F) (rest : List α) :
    format.split (format.encodeAll frames ++ rest) = frames ++ format.split rest := by
  induction frames with
  | nil => rfl
  | cons frame frames ih =>
      rw [encodeAll_cons, List.append_assoc,
        format.split_of_decode_eq_some (format.decode_encode frame _), ih, List.cons_append]

/-- **The first bytes of a stream are those of its first frames.** -/
theorem frames_of_arrived {frames all : List F} {received : List α}
    (h : format.encodeAll frames ++ received <+: format.encodeAll all) :
    ∃ later, all = frames ++ later ∧ received <+: format.encodeAll later := by
  induction frames generalizing all with
  | nil => exact ⟨all, rfl, h⟩
  | cons frame frames ih =>
      rcases h with ⟨rest, hrest⟩
      rw [encodeAll_cons, List.append_assoc, List.append_assoc] at hrest
      have hfirst := format.decode_encode frame (format.encodeAll frames ++ (received ++ rest))
      rw [hrest] at hfirst
      cases all with
      | nil =>
          have hnil : format.encode frame = [] := (List.append_eq_nil_iff.mp hrest).1
          exact absurd hnil (format.encode_ne_nil frame)
      | cons other all =>
          rw [encodeAll_cons, format.decode_encode] at hfirst
          simp only [Option.some.injEq, Prod.mk.injEq] at hfirst
          rcases hfirst with ⟨rfl, htail⟩
          rw [← List.append_assoc] at htail
          rcases ih ⟨rest, htail.symm⟩ with ⟨later, rfl, hreceived⟩
          exact ⟨later, rfl, hreceived⟩

end Format

end SelfDelimiting
