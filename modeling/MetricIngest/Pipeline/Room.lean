/-
  How much room a pipeline has.

  Lines, records and faults wait in channels, and batches are submitted in slots. Each of these has
  room for a fixed number (`Pipeline.capacity`), of which some is taken up (`Pipeline.used`).
  `Settings.Safe` is what settings promise to those who run a pipeline with them.
-/
import MetricIngest.Pipeline

namespace MetricIngest

/-- What has room for only so many. -/
inductive Room where
  /-- Records between the workers of the writer and its loop. -/
  | pipe
  /-- Records between the workers of the stream and their receiver. -/
  | records
  /-- Faults between the workers of the stream and their receiver. -/
  | faults
  /-- Lines between the reader of the stream and its workers. -/
  | lines
  /-- Batches that are being submitted. -/
  | slots
deriving Repr, DecidableEq

namespace Pipeline

/-- How many there is room for. -/
def capacity (p : Pipeline) : Room → Nat
  | .pipe => p.writer.settings.pipeCapacity
  | .records => p.stream.settings.outputCapacity
  | .faults => p.stream.settings.outputCapacity
  | .lines => p.stream.settings.lineCapacity
  | .slots => p.writer.slots.count

/-- How many there are. -/
def used (p : Pipeline) : Room → Nat
  | .pipe => p.writer.pipe.length
  | .records => p.stream.records.queue.length
  | .faults => p.stream.errors.queue.length
  | .lines => p.stream.lines.length
  | .slots => p.writer.flushes.length

end Pipeline

/-- **What settings promise** to those who run a pipeline with them, whatever its input is and in
whatever order its parts move. -/
structure Settings.Safe (s : Settings) : Prop where
  /-- The capacity of the pipe is the exact product, brought into a range. -/
  pipeCapacity_eq : s.writer.pipeCapacity =
    max 1 (min (s.writer.bulkMax * s.writer.concurrency * s.writer.pipeFactor) (0x1000000))
  /-- The other capacities are those of the settings, and no product stops at a limit. -/
  capacity_start : ∀ rules pieces fails cancelled horizon,
    let p := Pipeline.start rules s pieces fails cancelled horizon
    p.capacity .pipe = s.writer.pipeCapacity ∧ p.capacity .records = s.decoder.channelCapacity ∧
      p.capacity .faults = s.decoder.channelCapacity ∧
      p.capacity .lines = s.decoder.workers * 16 ∧ p.capacity .slots = s.writer.concurrency
  /-- At all times there is room for at least one and for no more than can be provided, and no
  more room is taken up than there is. -/
  capacity_mem : ∀ rules pieces fails cancelled horizon steps p events,
    (Pipeline.start rules s pieces fails cancelled horizon).run steps = some (p, events) → ∀ room,
      1 ≤ p.capacity room ∧ p.capacity room ≤ 0x1000000 ∧ p.used room ≤ p.capacity room
  flushInterval_pos : 0 < s.writer.flushInterval
  /-- A sink that is a file has a path. -/
  path : s.sink.kind = .file → ∃ path, s.sink.path = some path

end MetricIngest
