/-
  Decoding a stream of bytes with several workers.

  A reader cuts the input, which arrives in pieces, into lines and puts them into
  a bounded queue. Workers take lines from it, decode them and send what they got
  to one of two receivers, records to the one and faults to the other, each over
  a bounded channel. A line that has neither form is dropped; what is meant for a
  receiver that is gone is counted as undelivered. The reader stops at the end of
  the input, at a failure to read, or when the stream is cancelled. What it has
  of a line that no line feed ended is a line at the end of the input alone. The
  workers leave when no line will come. A line for which there is no queue, as no
  worker is left, would be given up.

  `LineStream.step` is a single step of one of these parties, so the runs of
  steps are all the orders in which things can happen.
-/
import MetricIngest.Line.Decoder
import MetricIngest.Settings.Basic

namespace MetricIngest

/-- What was done with the lines of a stream. -/
structure DecodeSummary where
  lines : Nat := 0
  records : Nat := 0
  errors : Nat := 0
  dropped : Nat := 0
  undelivered : Nat := 0
deriving Repr, DecidableEq, Inhabited

/-- Where the reader is: within a line, with a line for which the queue may have
no room, or gone. -/
inductive LineReader where
  | reading (part : List UInt8)
  | sending (line : List UInt8)
  | gone
deriving Repr, DecidableEq, Inhabited

/-- Where a worker is: before a line, with a result for which the channel may have
no room, or gone. -/
inductive DecodeWorker where
  | idle
  | holding (result : Except DecodeError Record)
  | gone
deriving Inhabited

/-- A channel: what is in it, what its receiver has taken, and whether there is
still a receiver. -/
structure Outlet (β : Type) where
  queue : List β
  received : List β
  isOpen : Bool
deriving Repr, DecidableEq, Inhabited

namespace Outlet

variable {β : Type}

/-- A channel with a receiver and nothing in it. -/
def empty : Outlet β := ⟨[], [], true⟩

/-- The receiver takes the oldest one. -/
def receive (o : Outlet β) : Option (Outlet β) :=
  match o.queue with
  | [] => none
  | b :: rest =>
    if o.isOpen then some { o with queue := rest, received := o.received ++ [b] } else none

/-- The receiver leaves; what is in the channel is lost. -/
def drop (o : Outlet β) : Outlet β := { o with queue := [], isOpen := false }

/-- Send one; nothing when there is no room. The flag says whether there was a
receiver. -/
def send (o : Outlet β) (capacity : Nat) (b : β) : Option (Bool × Outlet β) :=
  if ¬ o.isOpen then some (false, o)
  else if o.queue.length < capacity then some (true, { o with queue := o.queue ++ [b] })
  else none

end Outlet

/-- A choice of what is done next. -/
inductive StreamStep where
  /-- The reader goes on. -/
  | read
  /-- A worker goes on; the clock shows a time if it decodes a line. -/
  | work (worker : Nat) (now : Timestamp)
  /-- The receiver of records takes one. -/
  | receiveRecord
  /-- The receiver of faults takes one. -/
  | receiveError
  /-- The receiver of records leaves. -/
  | dropRecords
  /-- The receiver of faults leaves. -/
  | dropErrors
  /-- Somebody cancels the stream. -/
  | cancel

/-- The state of a stream. `pieces` is the input that has not arrived, `fails`
whether a failure to read comes at its end, and `buffered` what has arrived and
has not been cut. -/
structure LineStream where
  decoder : Decoder
  settings : Settings.Decoding
  pieces : List (List UInt8)
  fails : Bool
  buffered : List UInt8
  reader : LineReader
  lines : List (List UInt8)
  workers : List DecodeWorker
  records : Outlet Record
  errors : Outlet DecodeError
  summary : DecodeSummary
  cancelled : Bool

namespace LineStream

/-- A stream that starts on an input. -/
def start (decoder : Decoder) (settings : Settings.Decoding) (pieces : List (List UInt8))
    (fails cancelled : Bool) : LineStream where
  decoder := decoder
  settings := settings
  pieces := pieces
  fails := fails
  buffered := []
  reader := .reading []
  lines := []
  workers := List.replicate settings.poolSize .idle
  records := .empty
  errors := .empty
  summary := {}
  cancelled := cancelled

/-! ### The reader -/

/-- The reader goes on within a line: it looks for the line feed in what has
arrived, and else waits for more. -/
def readOn (s : LineStream) (part : List UInt8) : LineStream :=
  let found := s.buffered.takeWhile (· ≠ Text.newline)
  match s.buffered.dropWhile (· ≠ Text.newline) with
  | _ :: rest => { s with buffered := rest, reader := .sending (part ++ found) }
  | [] =>
    match s.pieces with
    | piece :: pieces =>
      { s with pieces, buffered := piece, reader := .reading (part ++ found) }
    | [] =>
      if s.fails ∨ part ++ found = [] then { s with buffered := [], reader := .gone }
      else { s with buffered := [], reader := .sending (part ++ found) }

/-- Whether every worker is gone, so that the queue has nobody to take from it. -/
def allGone (s : LineStream) : Bool := s.workers.all fun
  | .gone => true
  | _ => false

/-- The reader goes on. Cancelling is noticed before it reads and while it waits
for room in the queue. Without a queue it gives its line up and leaves. -/
def read (s : LineStream) : Option LineStream :=
  match s.reader with
  | .gone => none
  | .reading part => if s.cancelled then some { s with reader := .gone } else some (s.readOn part)
  | .sending line =>
    if s.cancelled ∨ s.allGone then some { s with reader := .gone }
    else if s.lines.length < s.settings.lineCapacity then
      some { s with
        lines := s.lines ++ [line]
        reader := .reading []
        summary := { s.summary with lines := s.summary.lines + 1 } }
    else none

/-! ### The workers -/

/-- The state with a worker in another place. -/
def setWorker (s : LineStream) (i : Nat) (place : DecodeWorker) : LineStream :=
  { s with workers := s.workers.set i place }

/-- A worker decodes a line. -/
def decodeLine (s : LineStream) (i : Nat) (now : Timestamp) (line : List UInt8) : LineStream :=
  match s.decoder.decodeBytes now line with
  | none => { s with summary := { s.summary with dropped := s.summary.dropped + 1 } }
  | some result => s.setWorker i (.holding result)

/-- The summary after one more was sent, to a receiver or to nobody. -/
def countUndelivered (m : DecodeSummary) : DecodeSummary :=
  { m with undelivered := m.undelivered + 1 }

/-- A worker sends what it got. -/
def sendResult (s : LineStream) (i : Nat) : Except DecodeError Record → Option LineStream
  | .ok r =>
    (s.records.send s.settings.outputCapacity r).map fun (delivered, records) =>
      { s with
        records
        summary := if delivered then { s.summary with records := s.summary.records + 1 }
          else countUndelivered s.summary }.setWorker i .idle
  | .error e =>
    (s.errors.send s.settings.outputCapacity e).map fun (delivered, errors) =>
      { s with
        errors
        summary := if delivered then { s.summary with errors := s.summary.errors + 1 }
          else countUndelivered s.summary }.setWorker i .idle

/-- A worker goes on. -/
def work (s : LineStream) (i : Nat) (now : Timestamp) : Option LineStream :=
  match s.workers[i]? with
  | some .idle =>
    match s.lines, s.reader with
    | line :: lines, _ => some ({ s with lines }.decodeLine i now line)
    | [], .gone => some (s.setWorker i .gone)
    | [], _ => none
  | some (.holding result) => s.sendResult i result
  | _ => none

/-! ### Steps and runs -/

/-- A single step, if it is possible. -/
def step (s : LineStream) : StreamStep → Option LineStream
  | .read => s.read
  | .work i now => s.work i now
  | .receiveRecord => s.records.receive.map fun records => { s with records }
  | .receiveError => s.errors.receive.map fun errors => { s with errors }
  | .dropRecords => some { s with records := s.records.drop }
  | .dropErrors => some { s with errors := s.errors.drop }
  | .cancel => some { s with cancelled := true }

/-- A run of steps, if each is possible. -/
def run (s : LineStream) (steps : List StreamStep) : Option LineStream :=
  steps.foldlM step s

/-- Whether the reader and all workers are gone. -/
def hasEnded (s : LineStream) : Bool :=
  (match s.reader with
    | .gone => true
    | _ => false)
    && s.allGone

/-! ### One fixed order -/

/-- The first step that is possible: the receivers come first, then the workers,
then the reader. -/
def move? (s : LineStream) (now : Timestamp) : Option LineStream :=
  (s.step .receiveRecord).orElse fun _ => (s.step .receiveError).orElse fun _ =>
  ((List.range s.workers.length).findSome? fun i => s.step (.work i now)).orElse fun _ =>
  s.step .read

/-- Take at most some number of steps. -/
def moves (now : Timestamp) : Nat → LineStream → LineStream
  | 0, s => s
  | n + 1, s =>
    match s.move? now with
    | none => s
    | some s => moves now n s

/-- A number of steps that is enough for a stream that has just started: at most
five for each line, of which there are no more than bytes and one, one for each
piece and one for each party. -/
def moveLimit (s : LineStream) : Nat :=
  5 * (s.pieces.flatten.length + 1) + s.pieces.length + s.workers.length + 1

/-- A stream at its end, if both receivers take all there is while they are
there. -/
def finish (s : LineStream) (now : Timestamp) : LineStream := moves now s.moveLimit s

end LineStream

end MetricIngest
