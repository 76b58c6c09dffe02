/-
  A sink that keeps batches.

  It refuses the records that a predicate picks and stores the others of each
  batch, in their order, as one stored batch. It can be made to fail a number of
  submissions. After it is closed every submission fails.
-/
import MetricIngest.Sink.Outcome

namespace MetricIngest

variable {α : Type}

/-- Stored batches in the order of their submission, and how the sink behaves. -/
structure MemorySink (α : Type) where
  refuses : α → Bool
  batches : List (List α)
  failures : Nat
  hasSchema : Bool
  schemaCreates : Nat
  closed : Bool

namespace MemorySink

/-- An open sink with nothing stored. -/
def ofPredicate (refuses : α → Bool) : MemorySink α := ⟨refuses, [], 0, false, 0, false⟩

instance : Inhabited (MemorySink α) := ⟨ofPredicate fun _ => false⟩

/-- Everything that is stored. -/
def records (s : MemorySink α) : List α := s.batches.flatten

/-- The number of records that are stored. -/
def size (s : MemorySink α) : Nat := s.batches.flatten.length

/-- Make the next submissions fail. -/
def failNext (s : MemorySink α) (count : Nat) : MemorySink α := { s with failures := count }

/-- Make the schema, whether it is there or not. -/
def createSchema (s : MemorySink α) : MemorySink α :=
  { s with hasSchema := true, schemaCreates := s.schemaCreates + 1 }

/-- Submit a batch. -/
def submit (s : MemorySink α) (batch : List α) :
    Except SinkError SubmitOutcome × MemorySink α :=
  if s.closed then (.error .closed, s)
  else if s.failures ≠ 0 then
    (.error (.transport "forced submit failure"), { s with failures := s.failures - 1 })
  else
    let accepted := batch.filter fun a => !s.refuses a
    (.ok ⟨accepted.length, (batch.filter s.refuses).length⟩,
      { s with batches := s.batches ++ [accepted] })

/-- Close the sink. -/
def close (s : MemorySink α) : MemorySink α := { s with closed := true }

end MemorySink

end MetricIngest
