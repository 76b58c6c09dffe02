/-
  The whole way from lines to the sink.

  The records of a stream are pushed into the buffer of a writer; its faults are
  passed over. When the stream has ended, all its records are pushed and all its
  faults passed over, the buffer is closed, so that the writer writes what is left
  and ends. Cancelling stops the stream and the writer.

  The loop of the writer asks for its deadline before each record. When the clock
  cannot tell it, the task of the writer fails, and the workers and the tasks of
  batches go with it. The stream goes on to its end, and then there is an error
  and no report.

  `Pipeline.step` is a single step of one of the parts, and `Pipeline.finish` one
  fixed order of them.
-/
import MetricIngest.Stream.Basic
import MetricIngest.Writer.Session

namespace MetricIngest

/-- A stream and the writer of its records. The horizon is the last time that the
clock can tell; `failed` says that the task of the writer has failed. -/
structure Pipeline where
  stream : LineStream
  writer : Writer Record
  horizon : Nat
  failed : Bool

/-- A choice of what is done next. -/
inductive PipelineStep where
  /-- The reader of the stream goes on. -/
  | read
  /-- A worker of the stream goes on. -/
  | decode (worker : Nat) (now : Timestamp)
  /-- A fault is passed over. -/
  | passOver
  /-- A record is pushed into the buffer. -/
  | forward
  /-- The buffer is closed after the last record and the last fault. -/
  | closeBuffer
  /-- A step of the writer, of its sink or of time. -/
  | write (next : WriterStep Record)
  /-- The loop of the writer finds no deadline, and its task fails. -/
  | fail
  /-- Somebody cancels everything. -/
  | cancel

/-- Why a pipeline has no report. -/
inductive PipelineError where
  | taskFailed
deriving Repr, DecidableEq

/-- The wording of an error. It is followed by what became of the task. -/
def PipelineError.message : PipelineError → String
  | .taskFailed => "pipeline task failed: "

namespace Pipeline

/-- A step of the writer that is not taken by those who use the buffer. The buffer
of a pipeline is in memory, so that no pop of it fails. -/
def isOwn : WriterStep Record → Bool
  | .push _ | .closeBuffer | .cancel | .work _ (some _) => false
  | _ => true

/-- Whether the writer is able to take a step: not once its task has failed, and
its loop only with a deadline. Time passes in any case. -/
def permits (p : Pipeline) : WriterStep Record → Bool
  | .elapse _ => true
  | .receive | .tick => !p.failed && (p.writer.accumulator.deadline? p.horizon).isSome
  | _ => !p.failed

/-- Whether the loop of the writer is about to fail: it asks for a deadline that the
clock cannot tell. -/
def isFailing (p : Pipeline) : Bool :=
  !p.failed && (p.writer.accumulator.deadline? p.horizon).isNone &&
    match p.writer.phase with
    | .collecting => true
    | _ => false

/-- Whether the stream has ended and nothing that it gave is left in its channels. -/
def isServed (p : Pipeline) : Bool :=
  p.stream.hasEnded && p.stream.records.queue.isEmpty && p.stream.errors.queue.isEmpty

/-- A single step, if it is possible, and what happened at the writer. -/
def step (p : Pipeline) : PipelineStep → Option (Pipeline × List (WriterEvent Record))
  | .read => (p.stream.step .read).map fun stream => ({ p with stream }, [])
  | .decode i now => (p.stream.step (.work i now)).map fun stream => ({ p with stream }, [])
  | .passOver => (p.stream.step .receiveError).map fun stream => ({ p with stream }, [])
  | .forward =>
    match p.stream.records.queue, p.stream.step .receiveRecord with
    | r :: _, some stream =>
      (p.writer.step (.push r)).map fun (writer, events) => ({ p with stream, writer }, events)
    | _, _ => none
  | .closeBuffer =>
    if p.isServed then
      (p.writer.step .closeBuffer).map fun (writer, events) => ({ p with writer }, events)
    else none
  | .write next =>
    if isOwn next ∧ p.permits next then
      (p.writer.step next).map fun (writer, events) => ({ p with writer }, events)
    else none
  | .fail => if p.isFailing then some ({ p with failed := true }, []) else none
  | .cancel =>
    match p.stream.step .cancel, p.writer.step .cancel with
    | some stream, some (writer, events) => some ({ p with stream, writer }, events)
    | _, _ => none

/-- A run of steps, if each is possible, and what happened at the writer. -/
def run (p : Pipeline) : List PipelineStep → Option (Pipeline × List (WriterEvent Record)) :=
  Steps.run (fun events => events) step p

/-- A pipeline that starts on an input, with a clock of some horizon. -/
def start (rules : RuleTable) (settings : Settings) (pieces : List (List UInt8))
    (fails cancelled : Bool) (horizon : Nat) : Pipeline where
  stream := .start ⟨rules, settings.decoder.mode⟩ settings.decoder pieces fails cancelled
  writer := .start settings.writer .empty cancelled
  horizon := horizon
  failed := false

/-- What became of the lines and of the records. -/
structure Report where
  decode : DecodeSummary
  writer : WriterStats
deriving Repr, DecidableEq

/-- The result, once the stream is served and the writer has ended or its task has
failed. -/
def result? (p : Pipeline) : Option (Except PipelineError Report) :=
  if p.isServed then
    if p.failed then some (.error .taskFailed)
    else p.writer.final?.map fun stats => .ok ⟨p.stream.summary, stats⟩
  else none

/-! ### One fixed order -/

/-- Run everything to its end, on a clock that can tell all deadlines: the stream
first, then the writer. The sink and the files are given as they are afterwards. -/
def finish (rules : RuleTable) (settings : Settings) (sink : Sink) (files : FileTree)
    (pieces : List (List UInt8)) (fails cancelled : Bool) (now : Timestamp) :
    Report × Sink × FileTree :=
  let decoder : Decoder := ⟨rules, settings.decoder.mode⟩
  let begun := LineStream.start decoder settings.decoder pieces fails cancelled
  let stream := begun.finish now
  let writer := WriterSession.start settings.writer .empty (.ofSeed 0 .none) sink files 0 cancelled
  let done := (writer.push stream.records.received).closeBuffer
  (⟨stream.summary, done.writer.final?.getD done.writer.stats⟩, done.sink, done.files)

end Pipeline

end MetricIngest
