/-
  A writer with its buffer and its sink, run in one fixed order.

  Of the steps that are possible the first is taken: those of the workers, the
  loop, the tasks and at last the loop's deadline. Time stands still while a step
  is possible and then goes on to the next moment at which one will be. Workers
  whose records wait for room in the pipe put them there in the order in which
  they took them. A submission may take some time before the sink decides.
-/
import MetricIngest.Buffer.Faulty
import MetricIngest.Sink.Basic
import MetricIngest.Writer.History

namespace MetricIngest

/-- A writer with its surroundings. `line` are the workers with a record in hand
in the order in which they took it. -/
structure WriterSession where
  writer : Writer Record
  faults : BufferFaults
  sink : Sink
  files : FileTree
  delay : Nat
  line : List Nat
  rootCancelled : Bool

namespace WriterSession

/-! ### Single moves -/

/-- Take a step. When the writer closes its sink, the sink is closed. -/
def take (s : WriterSession) (next : WriterStep Record) : Option WriterSession :=
  (s.writer.step next).map fun (writer, events) =>
    { s with writer, sink := if History.isClosed events then (s.sink.close {}).2 else s.sink }

/-- A worker with a record in hand stands behind the others. -/
def standIn (s : WriterSession) (i : Nat) : WriterSession :=
  match s.writer.workers[i]? with
  | some (.holding _) => { s with line := s.line ++ [i] }
  | _ => s

/-- A worker's move. A record in hand is put into the pipe if there is room for
it and for those before it. -/
def work? (s : WriterSession) (i : Nat) : Option WriterSession :=
  match s.writer.workers[i]? with
  | some .ready =>
    if s.writer.cancelled then s.take (.work i none)
    else
      let (fails, faults) := s.faults.drawPop
      let drawn : WriterSession := { s with faults }
      let fault := if fails then some BufferFaults.popFault else none
      (drawn.take (.work i fault)).map fun s => standIn s i
  | some .waiting => (s.take (.work i none)).map fun s => standIn s i
  | some (.holding _) =>
    if s.writer.pipe.length + s.line.idxOf i < s.writer.settings.pipeCapacity then
      (s.take (.work i none)).map fun s => { s with line := s.line.erase i }
    else none
  | _ => none

/-- The move of a batch's task. -/
def flush? (s : WriterSession) (f : Flush Record) : Option WriterSession :=
  match f.since with
  | none => s.take (.submit f.batch.id)
  | some t =>
    if t + s.delay ≤ s.writer.now then
      let (result, sink, files) := s.sink.submit s.files {} f.batch.records
      let done : WriterSession := { s with sink, files }
      done.take (.settle f.batch.id result)
    else none

/-- The move of the loop's deadline, unless it was looked at in this moment and
there is nothing to take. -/
def tick? (s : WriterSession) : Option WriterSession :=
  if s.writer.accumulator.lastFlush < s.writer.now ∨ s.writer.accumulator.records ≠ [] then
    s.take .tick
  else none

/-- The first move that is possible. -/
def move? (s : WriterSession) : Option WriterSession :=
  ((List.range s.writer.workers.length).findSome? s.work?).orElse fun _ =>
  (s.take .dispatch).orElse fun _ => (s.take .receive).orElse fun _ =>
  (s.take .finish).orElse fun _ => (s.writer.flushes.findSome? s.flush?).orElse fun _ => s.tick?

/-! ### Letting time pass -/

/-- The number of moves that are made within one moment. -/
def moveLimit : Nat := 1000000

/-- Make at most some number of moves. -/
def moves : Nat → WriterSession → WriterSession
  | 0, s => s
  | n + 1, s =>
    match s.move? with
    | none => s
    | some s => moves n s

/-- Make moves until none is possible without time passing. -/
def settle (s : WriterSession) : WriterSession := moves moveLimit s

/-- The moments at which something is due. -/
def dueTimes (s : WriterSession) : List Nat :=
  (match s.writer.phase with
    | .collecting => [s.writer.accumulator.deadline]
    | _ => [])
    ++ s.writer.flushes.filterMap fun f => f.since.map (· + s.delay)

/-- Whether the writer has ended. -/
def hasEnded (s : WriterSession) : Bool := s.writer.final?.isSome

/-- Go on to a later moment without a move. -/
def passTo (s : WriterSession) (time : Nat) : WriterSession :=
  (s.take (.elapse (time - s.writer.now))).getD s

/-- Let time pass until a moment, with all that is due on the way; stop earlier
if `stops` says so. The moments on the way are bounded. -/
def passUntil (stops : WriterSession → Bool) (time : Nat) : Nat → WriterSession → WriterSession
  | 0, s => s
  | n + 1, s =>
    if stops s then s
    else
      match (s.dueTimes.filter fun t => s.writer.now < t).min? with
      | none => s.passTo time
      | some t =>
        if t ≤ time then passUntil stops time n (s.passTo t).settle else s.passTo time

/-- Let some milliseconds pass. -/
def advance (s : WriterSession) (ms : Nat) : WriterSession :=
  passUntil (fun _ => false) (s.writer.now + ms) moveLimit s

/-- The longest that one waits for a writer to end. -/
def joinLimit : Nat := 60000

/-- Wait for the writer to end, but not too long. -/
def join (s : WriterSession) : WriterSession :=
  passUntil hasEnded (s.writer.now + joinLimit) moveLimit s

/-! ### Acting from outside -/

/-- A writer that starts on a buffer. Its sink gets its schema first. -/
def start (settings : Settings.Batching) (buffer : Buffer Record) (faults : BufferFaults)
    (sink : Sink) (files : FileTree) (delay : Nat) (cancelled : Bool) : WriterSession :=
  let (sink, files) := sink.ensureSchema files
  settle ⟨.start settings buffer cancelled, faults, sink, files, delay, [], cancelled⟩

/-- Push records into the buffer. -/
def push (s : WriterSession) (records : List Record) : WriterSession :=
  (records.foldl (fun s a => (s.take (.push a)).getD s) s).settle

/-- Close the buffer. -/
def closeBuffer (s : WriterSession) : WriterSession := ((s.take .closeBuffer).getD s).settle

/-- Cancel the writer alone. -/
def shutdown (s : WriterSession) : WriterSession := ((s.take .cancel).getD s).settle

/-- Cancel everything under the root. -/
def cancelRoot (s : WriterSession) : WriterSession := { s with rootCancelled := true }.shutdown

end WriterSession

end MetricIngest
