/-
  The buffer between those who bring records and those who write them.

  It is a queue without a bound. Taking from it waits while it is empty, until a
  record comes or the buffer is closed; a closed buffer refuses records and still
  gives those it has. A waiting pop is known by a number. It holds no record, so
  abandoning it loses none.
-/
import MetricIngest.Buffer.Notifier

namespace MetricIngest

variable {α : Type}

/-- Why a record could not be put into a buffer or taken from it. -/
inductive BufferError where
  | unavailable (reason : String)
  | closed
deriving Repr, DecidableEq

/-- The wording of a buffer's error. -/
def BufferError.message : BufferError → String
  | .unavailable reason => "buffer unavailable: " ++ reason
  | .closed => "buffer closed"

/-- Records in the order they came, whether more are refused, and who waits. -/
structure Buffer (α : Type) where
  records : List α
  closed : Bool
  notifier : Notifier
deriving Repr, DecidableEq, Inhabited

/-- What a look at the buffer gives to one who takes from it. -/
inductive Pop (α : Type) where
  | record (a : α)
  | closed
  | waiting
deriving Repr, DecidableEq

namespace Buffer

/-- A buffer with nothing in it. -/
def empty : Buffer α := ⟨[], false, .idle⟩

/-- Put a record at the end and wake one who waits. -/
def push (b : Buffer α) (a : α) : Except BufferError (Buffer α) :=
  if b.closed then .error .closed
  else .ok { b with records := b.records ++ [a], notifier := b.notifier.signal }

/-- Refuse records from now on and wake all who wait. -/
def close (b : Buffer α) : Buffer α :=
  { b with closed := true, notifier := b.notifier.signalAll }

/-- Take everything there is. -/
def drain (b : Buffer α) : List α × Buffer α := (b.records, { b with records := [] })

/-- Take the oldest record, or learn that none will come, or stand in the line.
A permit is used up in any case. -/
def beginPop (b : Buffer α) (id : Nat) : Pop α × Buffer α :=
  let notifier := b.notifier.usePermit
  match b.records with
  | a :: rest => (.record a, { b with records := rest, notifier })
  | [] =>
    if b.closed then (.closed, { b with notifier })
    else (.waiting, { b with notifier := notifier.enter id })

/-- Look again after having been woken. -/
def resumePop (b : Buffer α) (id : Nat) : Pop α × Buffer α :=
  { b with notifier := b.notifier.acknowledge id }.beginPop id

/-- Abandon a waiting pop. -/
def cancelPop (b : Buffer α) (id : Nat) : Buffer α :=
  { b with notifier := b.notifier.leave id }

end Buffer

end MetricIngest
