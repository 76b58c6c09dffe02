/-
  A buffer that fails now and then.

  Each pop and each push first draws from a generator whether it fails. A failed
  one never reaches the buffer behind. A pop that has begun to wait draws no more.
-/
import MetricIngest.Buffer.Queue
import MetricIngest.Random.ChaCha

namespace MetricIngest

variable {α : Type}

/-- How likely pops and pushes fail. -/
structure BufferRates where
  popFail : Binary64
  pushFail : Binary64
deriving Repr, DecidableEq, Inhabited

/-- Nothing fails. -/
def BufferRates.none : BufferRates := ⟨.zero, .zero⟩

/-- Five pops of a hundred fail. -/
def BufferRates.usual : BufferRates := ⟨Binary64.ofDecimal false 1 5 (-2), .zero⟩

/-- What was tried and what failed. -/
structure BufferCounts where
  popAttempts : Nat := 0
  popFailures : Nat := 0
  pushAttempts : Nat := 0
  pushFailures : Nat := 0
deriving Repr, DecidableEq, Inhabited

/-- The source of a buffer's failures. -/
structure BufferFaults where
  generator : Random.Generator
  rates : BufferRates
  counts : BufferCounts

namespace BufferFaults

/-- Failures drawn from a seed. -/
def ofSeed (seed : UInt64) (rates : BufferRates) : BufferFaults := ⟨.ofSeed seed, rates, {}⟩

/-- Draw whether a pop fails. -/
def drawPop (f : BufferFaults) : Bool × BufferFaults :=
  let (fails, generator) := f.generator.decide f.rates.popFail
  (fails, { f with
    generator
    counts := { f.counts with
      popAttempts := f.counts.popAttempts + 1
      popFailures := f.counts.popFailures + fails.toNat } })

/-- A pop is counted as failed just when it was drawn to fail. -/
theorem popFailures_drawPop (f : BufferFaults) :
    f.drawPop.2.counts.popFailures = f.counts.popFailures + f.drawPop.1.toNat := rfl

/-- What a pop says that was drawn to fail. -/
def popFault : BufferError := .unavailable "simulated pop failure"

/-- Draw whether a push fails. -/
def drawPush (f : BufferFaults) : Bool × BufferFaults :=
  let (fails, generator) := f.generator.decide f.rates.pushFail
  (fails, { f with
    generator
    counts := { f.counts with
      pushAttempts := f.counts.pushAttempts + 1
      pushFailures := f.counts.pushFailures + fails.toNat } })

end BufferFaults

/-- A buffer with a source of failures in front of it. -/
structure FaultyBuffer (α : Type) where
  inner : Buffer α
  faults : BufferFaults

namespace FaultyBuffer

/-- Put a record at the end, unless the push fails or the buffer is closed. -/
def push (b : FaultyBuffer α) (a : α) : Except BufferError Unit × FaultyBuffer α :=
  let (fails, faults) := b.faults.drawPush
  if fails then (.error (.unavailable "simulated push failure"), { b with faults })
  else
    match b.inner.push a with
    | .error e => (.error e, { b with faults })
    | .ok inner => (.ok (), ⟨inner, faults⟩)

/-- Begin a pop, unless it fails. -/
def beginPop (b : FaultyBuffer α) (id : Nat) : Except BufferError (Pop α) × FaultyBuffer α :=
  let (fails, faults) := b.faults.drawPop
  if fails then (.error BufferFaults.popFault, { b with faults })
  else
    let (pop, inner) := b.inner.beginPop id
    (.ok pop, ⟨inner, faults⟩)

/-- Look again after having been woken. -/
def resumePop (b : FaultyBuffer α) (id : Nat) : Pop α × FaultyBuffer α :=
  let (pop, inner) := b.inner.resumePop id
  (pop, { b with inner })

/-- Abandon a waiting pop. -/
def cancelPop (b : FaultyBuffer α) (id : Nat) : FaultyBuffer α :=
  { b with inner := b.inner.cancelPop id }

/-! ### Several in turn -/

/-- Push records one after the other. -/
def pushAll (b : FaultyBuffer α) : List α → List (Except BufferError Unit) × FaultyBuffer α
  | [] => ([], b)
  | a :: rest =>
    let (result, b) := b.push a
    let (results, b) := b.pushAll rest
    (result :: results, b)

/-- Let waiters look one after the other, and say what each of them got. -/
def resumeAll (b : FaultyBuffer α) : List Nat → List (Nat × Pop α) × FaultyBuffer α
  | [] => ([], b)
  | id :: rest =>
    let (pop, b) := b.resumePop id
    let (pops, b) := b.resumeAll rest
    ((id, pop) :: pops, b)

/-- Let everyone who was woken look, in the order they were woken. -/
def settle (b : FaultyBuffer α) : List (Nat × Pop α) × FaultyBuffer α :=
  b.resumeAll (b.inner.notifier.woken.map (·.1))

end FaultyBuffer

end MetricIngest
