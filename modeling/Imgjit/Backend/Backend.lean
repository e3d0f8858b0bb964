import Imgjit.Core.Image
import Imgjit.Core.OpChain

/-!
# The backend interface

The vocabulary in which the server and a backend talk.  The server's worker hands a frame to
`submit` and is given a handle, which the backend chooses; the result comes back later, out of
`poll_completions`, under that handle and in no guaranteed order.

* `FrameJob` — what a worker asks for: the slot the frame lies in, its dimensions and its chain.
* `JobHandle`, `JobStatus`, `Completion` — what it gets back.  A completion carries a picture or a
  text that says what went wrong.

Nothing here says what a backend does.  `CpuBackend` and `CudaBackend` are the two the repository
has; the server is modelled against the interface, and what it relies on in a backend is a contract
of its own (`Net/ServerPixels.lean`), which the two backends are then shown to keep.
-/

namespace Imgjit

/-- `JobHandle`: backend-assigned. -/
abbrev JobHandle := ℕ

/-- Input pixels live in a slot; `none` is the null pointer. -/
structure FrameJob where
  input : Option ℕ := none
  width : Int32 := 0
  height : Int32 := 0
  channels : Int32 := 0
  stride : UInt64 := 0
  chain : OpChain := ⟨[]⟩
  deriving DecidableEq, Repr

/-- How a job ended. -/
inductive JobStatus where
  | kOk
  | kError
  deriving DecidableEq, Repr

/-- What a backend says of a job that is over: a picture only if the status is `kOk`, and then no
error text. -/
structure Completion where
  handle : JobHandle := 0
  status : JobStatus := .kOk
  output : Option Image := none
  error : String := ""
  deriving DecidableEq, Repr

end Imgjit
