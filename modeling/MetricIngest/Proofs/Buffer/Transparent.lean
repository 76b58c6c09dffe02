/-
  A source of failures in front of a buffer is transparent.

  An operation that fails does not reach the buffer behind, and one that does not fail is a call
  of it with the same result (`Through`). So what is left of a run without the operations that
  failed is a run of the buffer behind (`transparent_of_run`), and the counters say how many
  operations were tried and how many failed.
-/
import MetricIngest.Buffer.FaultyCalls

namespace MetricIngest

variable {α : Type}

namespace FaultyBuffer

open FaultyCall FaultyEvent

variable {b b' last : FaultyBuffer α} {call : FaultyCall α} {calls : List (FaultyCall α)}
  {event : FaultyEvent α} {events : List (FaultyEvent α)}

/-! ### A single call -/

/-- What is drawn in a call: whether it fails, and the source of failures afterwards. -/
def draw (b : FaultyBuffer α) : FaultyCall α → Bool × BufferFaults
  | .push _ => b.faults.drawPush
  | .start _ => b.faults.drawPop
  | .behind _ => (false, b.faults)

/-- **The ways in which a call can go**: it fails and does not reach the buffer behind, or it is
a call of that buffer with the same result. -/
inductive Through (b : FaultyBuffer α) (call : FaultyCall α) :
    FaultyBuffer α → FaultyEvent α → Prop where
  | fails {event : FaultyEvent α} (hdraw : (b.draw call).1 = true)
    (hpush : event.isFailedPush = call.isPush) (hpop : event.isFailedPop = call.isPop)
    (hplain : event.plain? = none) :
    Through b call { b with faults := (b.draw call).2 } event
  | passes {event : FaultyEvent α} {inner happened} (hdraw : (b.draw call).1 = false)
    (hstep : b.inner.step call.plain = some (inner, happened))
    (hplain : event.plain? = some happened) :
    Through b call ⟨inner, (b.draw call).2⟩ event

/-- An operation fails just if nothing happens at the buffer behind. -/
theorem isFailed_eq (event : FaultyEvent α) : event.isFailed = event.plain?.isNone := by
  unfold plain?
  split <;> rfl

theorem through_push (b : FaultyBuffer α) (a : α) :
    b.Through (.push a) (b.push a).2 (.pushed a (b.push a).1) := by
  unfold FaultyBuffer.push
  cases hdraw : b.faults.drawPush.1 with
  | true =>
    simp only [hdraw, ↓reduceIte]
    exact .fails hdraw rfl rfl rfl
  | false =>
    simp only [hdraw, Bool.false_eq_true, ↓reduceIte]
    cases hpush : b.inner.push a with
    | error e =>
      obtain rfl : e = .closed := by
        unfold Buffer.push at hpush
        split at hpush <;> cases hpush
        rfl
      have hstep : b.inner.step (plain (.push a)) =
          some (b.inner, .pushed a (.error .closed)) := by
        simp [plain, Buffer.step, hpush]
      exact .passes hdraw hstep rfl
    | ok inner =>
      have hstep : b.inner.step (plain (.push a)) = some (inner, .pushed a (.ok ())) := by
        simp [plain, Buffer.step, hpush]
      exact .passes hdraw hstep rfl

theorem through_beginPop {id : Nat} (h : b.inner.notifier.Absent id) :
    b.Through (.start id) (b.beginPop id).2 (.began id (b.beginPop id).1) := by
  unfold FaultyBuffer.beginPop
  cases hdraw : b.faults.drawPop.1 with
  | true =>
    simp only [hdraw, ↓reduceIte]
    exact .fails hdraw rfl rfl rfl
  | false =>
    simp only [hdraw, Bool.false_eq_true, ↓reduceIte]
    refine .passes hdraw ?_ rfl
    simp [plain, Buffer.step, h]

theorem through_of_step (h : b.step call = some (b', event)) : b.Through call b' event := by
  cases call with
  | push a =>
    cases h
    exact b.through_push a
  | start id =>
    simp only [step] at h
    split at h
    · cases h
      exact through_beginPop ‹_›
    · cases h
  | behind call =>
    obtain ⟨⟨inner, happened⟩, hstep, heq⟩ := Option.map_eq_some_iff.mp h
    cases heq
    exact .passes rfl hstep rfl

/-- A call is possible just if it is one without the source of failures. -/
theorem step_eq_none_iff : b.step call = none ↔ b.inner.step call.plain = none := by
  cases call with
  | push a =>
    simp only [step, plain, Buffer.step, reduceCtorEq, false_iff]
    split <;> simp
  | start id => simp [step, plain, Buffer.step]
  | behind call => simp [step, plain]

/-- What some calls add to the counters: how many operations were tried, and how many failed. -/
structure Counted (b : FaultyBuffer α) (calls : List (FaultyCall α)) (events : List (FaultyEvent α))
    (b' : FaultyBuffer α) : Prop where
  popAttempts : b'.faults.counts.popAttempts = b.faults.counts.popAttempts + calls.countP isPop
  popFailures :
    b'.faults.counts.popFailures = b.faults.counts.popFailures + events.countP isFailedPop
  pushAttempts : b'.faults.counts.pushAttempts = b.faults.counts.pushAttempts + calls.countP isPush
  pushFailures :
    b'.faults.counts.pushFailures = b.faults.counts.pushFailures + events.countP isFailedPush

theorem Counted.cons {after : FaultyBuffer α} (h : b.Counted [call] [event] after)
    (h' : after.Counted calls events b') : b.Counted (call :: calls) (event :: events) b' := by
  obtain ⟨hpopAttempts, hpopFailures, hpushAttempts, hpushFailures⟩ := h
  obtain ⟨hpopAttempts', hpopFailures', hpushAttempts', hpushFailures'⟩ := h'
  simp only [List.countP_singleton] at *
  constructor <;> rw [List.countP_cons] <;> omega

/-- An operation is counted when it is tried, and counted as failed just if it was drawn to
fail. -/
theorem Through.counted (h : b.Through call b' event) : b.Counted [call] [event] b' := by
  have hdrawn (after : FaultyBuffer α) (hafter : after.faults = (b.draw call).2)
      (hpop : event.isFailedPop = (call.isPop && (b.draw call).1))
      (hpush : event.isFailedPush = (call.isPush && (b.draw call).1)) :
      b.Counted [call] [event] after := by
    have hone (c : Bool) : c.toNat = if c = true then 1 else 0 := by cases c <;> rfl
    cases call <;>
      constructor <;>
      simp [hafter, hpop, hpush, draw, isPop, isPush, BufferFaults.drawPop, BufferFaults.drawPush,
        hone]
  cases h with
  | fails hdraw hpush hpop => exact hdrawn _ rfl (by simp [hpop, hdraw]) (by simp [hpush, hdraw])
  | passes hdraw hstep hplain =>
    have hfailed := isFailed_eq event
    rw [hplain, isFailed, Option.isNone_some, Bool.or_eq_false_iff] at hfailed
    exact hdrawn _ rfl (by simp [hfailed, hdraw]) (by simp [hfailed, hdraw])

/-! ### Runs -/

theorem unfailed_cons_of_fails (h : event.plain? = none) :
    unfailed (call :: calls) (event :: events) = unfailed calls events := by
  simp [unfailed, isFailed_eq, h]

theorem unfailed_cons_of_passes {happened : BufferEvent α} (h : event.plain? = some happened) :
    unfailed (call :: calls) (event :: events) = call.plain :: unfailed calls events := by
  simp [unfailed, isFailed_eq, h]

/-- **What is left without the operations that failed** is a run of the buffer behind. -/
theorem run_unfailed (h : b.run calls = some (last, events)) :
    b.inner.run (unfailed calls events) = some (last.inner, events.filterMap plain?) := by
  induction calls generalizing b events with
  | nil =>
    cases h
    rfl
  | cons call calls ih =>
    obtain ⟨after, event, more, hstep, hrest, rfl⟩ := Steps.of_run_cons h
    have hlater := ih hrest
    cases through_of_step hstep with
    | fails _ _ _ hplain =>
      rw [List.singleton_append, unfailed_cons_of_fails hplain, List.filterMap_cons_none hplain]
      exact hlater
    | passes _ hbehind hplain =>
      rw [List.singleton_append, unfailed_cons_of_passes hplain, List.filterMap_cons_some hplain]
      exact Steps.run_cons hbehind hlater

theorem counted_of_run (h : b.run calls = some (last, events)) :
    b.Counted calls events last := by
  induction calls generalizing b events with
  | nil =>
    cases h
    exact ⟨rfl, rfl, rfl, rfl⟩
  | cons call calls ih =>
    obtain ⟨after, event, more, hstep, hrest, rfl⟩ := Steps.of_run_cons h
    exact (through_of_step hstep).counted.cons (ih hrest)

/-- **A source of failures is transparent.** Whatever the buffer behind was before, from whatever
seed and how often failures are drawn, and however both are called: without the operations that
were told that the buffer is unavailable, the same calls are a run of the buffer behind alone,
with the same results and with the same records and waiting pops in the end. As many pops and
pushes are counted as were tried by way of the source of failures, abandoned pops among them, and
as many failures as operations were told so. At any time, an operation that fails leaves the
buffer behind as it is, and any other call is one of that buffer; it is possible just if it is
possible there. -/
theorem transparent_of_run {inner : Buffer α} {seed : UInt64} {rates : BufferRates}
    (h : (ofSeed inner seed rates).run calls = some (last, events)) :
    inner.run (unfailed calls events) = some (last.inner, events.filterMap plain?) ∧
    last.faults.counts = ⟨calls.countP isPop, events.countP isFailedPop, calls.countP isPush,
      events.countP isFailedPush⟩ ∧
    ∀ call, (last.step call = none ↔ last.inner.step call.plain = none) ∧
      ∀ after event, last.step call = some (after, event) →
        if event.isFailed then after.inner = last.inner
        else ∃ happened, event.plain? = some happened ∧
          last.inner.step call.plain = some (after.inner, happened) := by
  have hcounted := counted_of_run h
  refine ⟨run_unfailed h, ?_, fun call => ⟨step_eq_none_iff, fun after event hstep => ?_⟩⟩
  · obtain ⟨hpopAttempts, hpopFailures, hpushAttempts, hpushFailures⟩ := hcounted
    simp only [ofSeed, BufferFaults.ofSeed, Nat.zero_add] at *
    cases hlast : last.faults.counts
    simp_all
  · rw [isFailed_eq]
    cases through_of_step hstep with
    | fails _ _ _ hplain => simp [hplain]
    | passes _ hbehind hplain => simp [hplain, hbehind]

/-- Pushes and pops that succeed or fail, and calls that go past the failures. -/
def mixedCalls : List (FaultyCall Nat) :=
  [.push 10, .push 11, .push 12, .start 1, .start 2, .start 3, .behind (.push 20),
    .behind (.cancel 3), .behind .drain]

theorem transparent_of_mixedCalls :
    let half := Binary64.ofDecimal false 1 5 (-1)
    ∃ last events, (ofSeed (.empty : Buffer Nat) 3 ⟨half, half⟩).run mixedCalls =
        some (last, events) ∧
      unfailed mixedCalls events =
        [.push 10, .start 2, .start 3, .push 20, .cancel 3, .drain] ∧
      (.empty : Buffer Nat).run [.push 10, .start 2, .start 3, .push 20, .cancel 3, .drain] =
        some (last.inner, events.filterMap plain?) ∧
      last.faults.counts = ⟨3, 1, 3, 2⟩ := by
  intro half
  have hrun : ((ofSeed (.empty : Buffer Nat) 3 ⟨half, half⟩).run mixedCalls).map
      (fun r => (unfailed mixedCalls r.2, r.2.countP isFailedPop, r.2.countP isFailedPush)) =
      some ([.push 10, .start 2, .start 3, .push 20, .cancel 3, .drain], 1, 2) := by
    decide +kernel
  obtain ⟨⟨last, events⟩, hrun, heq⟩ := Option.map_eq_some_iff.mp hrun
  simp only [Prod.mk.injEq] at heq
  obtain ⟨hleft, hpops, hpushes⟩ := heq
  obtain ⟨hplain, hcounts, -⟩ := transparent_of_run hrun
  rw [hleft] at hplain
  rw [hpops, hpushes] at hcounts
  exact ⟨last, events, hrun, hleft, hplain, hcounts⟩

end FaultyBuffer

end MetricIngest
