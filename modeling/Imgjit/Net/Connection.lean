import Imgjit.Net.Reader

/-!
# One connection's shared state

What the reader, the writer and the worker share for one connection: the outbox the writer drains,
and the count of outstanding jobs that decides when the outbox may close.  The writer leaves when
its outbox is closed and empty; if it closed too early, answers would be lost, and if it never
closed, the connection would never be joined.

* `Outbox` — the response queue.  Closing it does not discard what is queued.
* `Connection` — the outbox, the counters and the two threads' places.  `consumed`, `answered` and
  `popped` are history: the bytes received, the sequence numbers of the frames the reader has
  answered or queued, and the responses the writer has taken.  Nothing reads them.
* `jobSubmitted` — one more job is outstanding.
* `jobRetired`, `readerFinished` — the two calls that may close the outbox, whichever comes last.
  The count is unsigned in the source and would wrap below zero; `decrement` keeps the wrap visible,
  so that it has to be shown that there is none.
-/

namespace Imgjit

/-- The responses that the writer has still to take, front first. -/
structure Outbox where
  items : List Response := []
  closed : Bool := false

namespace Outbox

/-- A push on a closed outbox has nowhere to go. -/
def push (outbox : Outbox) (response : Response) : Outbox :=
  if outbox.closed then outbox else { outbox with items := outbox.items ++ [response] }

/-- `pop`, once it need not wait.  `none` as its value means closed and drained. -/
def pop (outbox : Outbox) : Option (Option Response × Outbox) :=
  match outbox.items with
  | [] => if outbox.closed then some (none, outbox) else none
  | response :: rest => some (some response, { outbox with items := rest })

/-- No more responses come. -/
def close (outbox : Outbox) : Outbox := { outbox with closed := true }

lemma push_open {outbox : Outbox} (h : outbox.closed = false) (response : Response) :
    outbox.push response = { outbox with items := outbox.items ++ [response] } := by
  simp only [push, h, Bool.false_eq_true, if_false]

lemma pop_some {outbox outbox' : Outbox} {response : Response}
    (h : outbox.pop = some (some response, outbox')) :
    outbox.items = response :: outbox'.items ∧ outbox'.closed = outbox.closed := by
  unfold pop at h
  split at h
  · split at h <;> cases h
  · rename_i hitems
    cases h
    exact ⟨hitems, rfl⟩

lemma pop_none {outbox outbox' : Outbox} (h : outbox.pop = some (none, outbox')) :
    outbox.items = [] ∧ outbox.closed = true ∧ outbox' = outbox := by
  unfold pop at h
  split at h
  · rename_i hitems
    split at h
    · rename_i hclosed
      cases h
      exact ⟨hitems, hclosed, rfl⟩
    · cases h
  · cases h

end Outbox

/-- What the three threads share for one connection, and its history. -/
structure Connection where
  outbox : Outbox := {}
  /-- A `std::size_t`: see `jobRetired` for what happens below zero. -/
  outstanding : ℕ := 0
  readerDone : Bool := false
  finished : Bool := false
  /-- Where the reader thread is. -/
  reader : ReaderPc := .loopHead
  /-- The writer thread has left its loop. -/
  writerDone : Bool := false
  consumed : List UInt8 := []
  answered : List UInt32 := []
  popped : List Response := []

namespace Connection

/-- `job_submitted`. -/
def jobSubmitted (connection : Connection) : Connection :=
  { connection with outstanding := connection.outstanding + 1 }

/-- The outbox closes when the reader is done and no job is outstanding. -/
def closeOutboxIfDone (connection : Connection) : Connection :=
  if connection.readerDone ∧ connection.outstanding = 0 then
    { connection with outbox := connection.outbox.close }
  else connection

/-- `--outstanding` on an unsigned counter wraps around at zero. -/
def decrement (count : ℕ) : ℕ := if count = 0 then 2 ^ 64 - 1 else count - 1

/-- `job_retired`. -/
def jobRetired (connection : Connection) : Connection :=
  closeOutboxIfDone { connection with outstanding := decrement connection.outstanding }

/-- `reader_finished`. -/
def readerFinished (connection : Connection) : Connection :=
  closeOutboxIfDone { connection with readerDone := true }

section Fields

variable (connection : Connection)

@[simp] lemma closeOutboxIfDone_items :
    connection.closeOutboxIfDone.outbox.items = connection.outbox.items := by
  simp only [closeOutboxIfDone]; split_ifs <;> rfl

@[simp] lemma closeOutboxIfDone_outstanding :
    connection.closeOutboxIfDone.outstanding = connection.outstanding := by
  simp only [closeOutboxIfDone]; split_ifs <;> rfl

@[simp] lemma closeOutboxIfDone_readerDone :
    connection.closeOutboxIfDone.readerDone = connection.readerDone := by
  simp only [closeOutboxIfDone]; split_ifs <;> rfl

@[simp] lemma closeOutboxIfDone_finished :
    connection.closeOutboxIfDone.finished = connection.finished := by
  simp only [closeOutboxIfDone]; split_ifs <;> rfl

@[simp] lemma closeOutboxIfDone_reader :
    connection.closeOutboxIfDone.reader = connection.reader := by
  simp only [closeOutboxIfDone]; split_ifs <;> rfl

@[simp] lemma closeOutboxIfDone_writerDone :
    connection.closeOutboxIfDone.writerDone = connection.writerDone := by
  simp only [closeOutboxIfDone]; split_ifs <;> rfl

@[simp] lemma closeOutboxIfDone_consumed :
    connection.closeOutboxIfDone.consumed = connection.consumed := by
  simp only [closeOutboxIfDone]; split_ifs <;> rfl

@[simp] lemma closeOutboxIfDone_answered :
    connection.closeOutboxIfDone.answered = connection.answered := by
  simp only [closeOutboxIfDone]; split_ifs <;> rfl

@[simp] lemma closeOutboxIfDone_popped :
    connection.closeOutboxIfDone.popped = connection.popped := by
  simp only [closeOutboxIfDone]; split_ifs <;> rfl

/-- The outbox is closed after the test exactly when it was before or the test succeeds. -/
lemma closeOutboxIfDone_closed :
    connection.closeOutboxIfDone.outbox.closed = true ↔ connection.outbox.closed = true
      ∨ connection.readerDone = true ∧ connection.outstanding = 0 := by
  simp only [closeOutboxIfDone, Outbox.close]
  split_ifs with h <;> simp [h]

lemma decrement_of_pos {count : ℕ} (h : 0 < count) : decrement count = count - 1 :=
  if_neg (by omega)

end Fields

end Connection

end Imgjit
