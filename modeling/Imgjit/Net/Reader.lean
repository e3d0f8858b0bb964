import Imgjit.Net.Framing
import Imgjit.Net.Socket
import Imgjit.Core.OpChain
import Mathlib.Logic.Function.Basic

/-!
# The reader thread, up to its next blocking call

`reader_loop` as an automaton.  A `ReaderPc` is a place in the loop together with the local
variables that are alive there; the functions of this file compute, from one place and the outcome
of the call made there, the next place.  The sequential run on one connection and the concurrent
server both drive this automaton, with one `recv` call, one claim or one push at a time; so what the
loop does is written down once, and neither run can disagree with the other about it.

* `ReaderPc` and its continuations `headerRead`, `chainRead`, `responded`, `drained`, `claimed` —
  the code between two blocking calls, in the order of the source: the header's checks, the chain's
  parse, and the disposition of a frame that is refused.
* `received`, `failed` — one step of the `read_exact` under way, or of the chunk of a drain.
* `silent` — the steps that make no call.
* `writeAt`, `ReadInto.store` — where received bytes go: straight into the slot for a payload, and
  into a buffer of the loop's own otherwise.
-/

namespace Imgjit

/-- What a reader thread reads of its surroundings: the limits, and the number lexer behind
`parse_op_chain`. -/
structure ReaderConfig where
  limits : Limits
  strtof : List Char → Option ℚ

/-- `parse_op_chain` on the bytes of a chain descriptor. -/
def ReaderConfig.parse (config : ReaderConfig) (bytes : List UInt8) : Option OpChain :=
  (parseOpChain config.strtof (bytes.map fun byte => Char.ofNat byte.toNat)).toOption

/-! ## What the reader hands on -/

/-- What the writer thread needs in order to answer one request.  The pixels are carried by
value. -/
structure Response where
  seqNum : UInt32 := 0
  status : Status := .kOk
  echo : Bool := false
  writeFile : Bool := false
  image : Option Image := none
  deriving DecidableEq, Repr

/-- One frame's worth of work, from a reader thread to the worker.  The payload lies in slot
`slot`; connections are named by their ids. -/
structure QueuedFrame where
  connection : ℕ
  seqNum : UInt32
  flags : UInt8
  slot : ℕ
  width : Int32
  height : Int32
  channels : Int32
  chain : OpChain
  deriving DecidableEq, Repr

/-- The frame a reader queues for a header, with the fields narrowed to `int`. -/
def queuedFrame (connection : ℕ) (header : RequestHeader) (chain : OpChain) (slot : ℕ) :
    QueuedFrame where
  connection := connection
  seqNum := header.seqNum
  flags := header.flags
  slot := slot
  width := header.width.toInt32
  height := header.height.toInt32
  channels := header.channels.toUInt32.toInt32
  chain := chain

/-! ## Places in the loop -/

/-- What the `read_exact` under way is filling. -/
inductive ReadInto where
  | header
  | chain (header : RequestHeader)
  | payload (header : RequestHeader) (chain : OpChain) (slot : ℕ)
  /-- The scratch buffer of `drain_exactly`, with `left` bytes to drain after this chunk. -/
  | scratch (left : ℕ)
  deriving DecidableEq, Repr

/-- A place in `reader_loop`, with the variables that are alive there. -/
inductive ReaderPc where
  /-- The head of `for (;;)`. -/
  | loopHead
  /-- In `read_exact`, with `remaining` bytes to go and `buffer` received. -/
  | reading (into : ReadInto) (remaining : ℕ) (buffer : List UInt8)
  /-- About to push an error response, with `unread` bytes of the frame still to come. -/
  | respond (header : RequestHeader) (status : Status) (unread : ℕ)
  /-- In `drain_exactly`, between two chunks. -/
  | drain (left : ℕ)
  /-- In `slots->claim`. -/
  | claim (header : RequestHeader) (chain : OpChain)
  /-- The payload is complete; about to call `job_submitted`. -/
  | submit (header : RequestHeader) (chain : OpChain) (slot : ℕ)
  /-- In `queue.push`. -/
  | push (header : RequestHeader) (chain : OpChain) (slot : ℕ)
  /-- The push failed: about to call `job_retired`, then to release the slot. -/
  | pushFailed (slot : ℕ)
  /-- About to release the slot and return. -/
  | giveBack (slot : ℕ)
  | returned
  deriving DecidableEq, Repr

namespace ReaderPc

/-! ## The code between two calls -/

/-- The 25 bytes of a header are there. -/
def headerRead (config : ReaderConfig) (buffer : List UInt8) : ReaderPc :=
  match decodeRequestHeader buffer with
  | none => returned
  | some header =>
      match validateRequestHeader header config.limits with
      | .kOk => reading (.chain header) header.chainLen.toNat []
      | status => respond header status (header.chainLen.toNat + header.payloadLen.toNat)

/-- The chain bytes are there. -/
def chainRead (config : ReaderConfig) (header : RequestHeader) (buffer : List UInt8) : ReaderPc :=
  match config.parse buffer with
  | some chain => claim header chain
  | none => respond header .kBadChain header.payloadLen.toNat

/-- The error response is in the outbox. -/
def responded (status : Status) (unread : ℕ) : ReaderPc :=
  if dispositionFor status = .kClose then returned else drain unread

/-- The loop test of `drain_exactly`. -/
def drained (left : ℕ) : ReaderPc :=
  if left = 0 then loopHead
  else reading (.scratch (left - min left kScratchBytes)) (min left kScratchBytes) []

/-- A slot has been claimed. -/
def claimed (header : RequestHeader) (chain : OpChain) (slot : ℕ) : ReaderPc :=
  reading (.payload header chain slot) header.payloadLen.toNat []

/-- `read_exact` returned `kOk`. -/
def readDone (config : ReaderConfig) (into : ReadInto) (buffer : List UInt8) : ReaderPc :=
  match into with
  | .header => headerRead config buffer
  | .chain header => chainRead config header buffer
  | .payload header chain slot => submit header chain slot
  | .scratch left => drain left

/-- `read_exact` returned anything else. -/
def readFailed (into : ReadInto) : ReaderPc :=
  match into with
  | .payload _ _ slot => giveBack slot
  | _ => returned

/-- What becomes of the `read_exact` when its `recv` returns. -/
def received (into : ReadInto) (remaining : ℕ) (buffer : List UInt8) : Recv → ReaderPc
  | .data bytes => reading into (remaining - bytes.length) (buffer ++ bytes)
  | .interrupted => reading into remaining buffer
  | .eof => readFailed into
  | .error => readFailed into

/-- The moves between two calls that only involve the reader itself. -/
def silent (config : ReaderConfig) : ReaderPc → Option ReaderPc
  | loopHead => some (reading .header kRequestHeaderBytes [])
  | reading into 0 buffer => some (readDone config into buffer)
  | drain left => some (drained left)
  | _ => none

end ReaderPc

/-! ## Where received bytes go -/

/-- The bytes of a buffer after `bytes` were received at `cursor`. -/
def writeAt (memory : List UInt8) (cursor : ℕ) (bytes : List UInt8) : List UInt8 :=
  memory.take cursor ++ bytes ++ memory.drop (cursor + bytes.length)

/-- The slots after one `recv`.  Only a payload goes into a slot. -/
def ReadInto.store (into : ReadInto) (cursor : ℕ) (memory : ℕ → List UInt8) :
    Recv → ℕ → List UInt8
  | .data bytes =>
      match into with
      | .payload _ _ slot => Function.update memory slot (writeAt (memory slot) cursor bytes)
      | _ => memory
  | _ => memory

lemma length_writeAt {memory bytes : List UInt8} {cursor : ℕ}
    (h : cursor + bytes.length ≤ memory.length) :
    (writeAt memory cursor bytes).length = memory.length := by
  simp only [writeAt, List.length_append, List.length_take, List.length_drop]
  omega

/-- Receiving at the cursor extends what has been received so far. -/
lemma take_writeAt {memory got : List UInt8} (bytes : List UInt8)
    (hgot : memory.take got.length = got) :
    (writeAt memory got.length bytes).take (got ++ bytes).length = got ++ bytes := by
  rw [writeAt, hgot, List.take_left]

end Imgjit
