/-
  An accumulator cuts the records that are added to it into batches.

  `Accumulator.Answer` is what a single call does, and `Accumulator.Collects` what any number
  of them do, each provided that there is room for a record, which there is at the start and
  after every call. `partitions_records` says what follows from a start: no record is lost or
  comes twice, a batch is as large as it should be, and the deadline goes with the time, as long
  as the clock can tell it.
-/
import MetricIngest.Proofs.Writer.Ledger
import MetricIngest.Writer.Collecting

namespace MetricIngest

variable {α : Type}

/-! ### Restarts -/

/-- The interval begins anew at the time of a call. -/
theorem AccumulatorEvent.restart?_eq_some {e : AccumulatorEvent α} {now : Nat}
    (h : e.restart? = some now) : now = e.call.time := by
  obtain ⟨call, batch⟩ := e
  cases call with
  | add a t =>
    cases batch with
    | none => cases h
    | some b => exact (Option.some.inj h).symm
  | take t => exact (Option.some.inj h).symm

namespace Accumulator

variable {acc acc' acc'' : Accumulator α} {batch : Option (Batch α)} {a : α}
  {now begun horizon time : Nat} {next : AccumulatorCall α} {calls others : List (AccumulatorCall α)}
  {e : AccumulatorEvent α} {events more : List (AccumulatorEvent α)}

@[simp]
theorem lastRestart_nil : lastRestart begun ([] : List (AccumulatorEvent α)) = begun := rfl

@[simp]
theorem lastRestart_cons :
    lastRestart begun (e :: events) = lastRestart (e.restart?.getD begun) events := by
  rw [lastRestart, List.filterMap_cons]
  cases e.restart? with
  | none => rfl
  | some now => exact List.getLastD_cons

/-- The interval last began at the start or in a call. -/
theorem lastRestart_mem :
    lastRestart begun events ∈ begun :: events.map (·.call.time) := by
  have hlast : lastRestart begun events ∈ _ := List.getLastD_mem_cons
  rcases List.mem_cons.mp hlast with hstart | hcall
  · exact List.mem_cons.mpr (Or.inl hstart)
  · obtain ⟨e, he, hrestart⟩ := List.mem_filterMap.mp hcall
    exact List.mem_cons_of_mem _
      (List.mem_map.mpr ⟨e, he, (AccumulatorEvent.restart?_eq_some hrestart).symm⟩)

/-! ### A single call -/

/-- The number of records of a batch that is full. -/
def limit (acc : Accumulator α) : Nat := max 1 acc.bulkMax

/-- **What a call does**: it cuts records into batches, leaves the limits as they are and room
for a record, and returns no more than a full batch, a call that adds a record no less either.
After a batch nothing is held. The interval begins anew at the time of the call or goes on. -/
structure Answer (acc : Accumulator α) (e : AccumulatorEvent α) (acc' : Accumulator α) :
    Prop where
  cut : acc.Cut e.call.added e.batch.toList acc'
  bulkMax : acc'.bulkMax = acc.bulkMax
  interval : acc'.interval = acc.interval
  room : acc'.records.length < acc.limit
  size : ∀ b ∈ e.batch, b.size ≤ acc.limit
  full : ∀ a now, e.call = .add a now → ∀ b ∈ e.batch, b.size = acc.limit
  emptied : e.batch.isSome = true → acc'.records = []
  lastFlush : acc'.lastFlush = e.restart?.getD acc.lastFlush

theorem limit_pos (acc : Accumulator α) : 0 < acc.limit :=
  Nat.lt_of_lt_of_le Nat.one_pos (Nat.le_max_left _ _)

/-- Whatever there is is taken as a batch. -/
theorem take_of_ne_nil (h : acc.records ≠ []) : acc.take now =
    (some ⟨acc.nextId, acc.records⟩,
      { acc with records := [], lastFlush := now, nextId := acc.nextId + 1 }) := by
  rw [take, if_neg (by simpa using h)]

theorem answer_take (hroom : acc.records.length < acc.limit)
    (h : acc.take now = (batch, acc')) : acc.Answer ⟨.take now, batch⟩ acc' := by
  have hcut := cut_take h
  unfold take at h
  split at h
  · cases h
    exact ⟨hcut, rfl, rfl, hroom, by simp, by simp, by simp, rfl⟩
  · cases h
    refine ⟨hcut, rfl, rfl, acc.limit_pos, ?_, by simp, fun _ => rfl, rfl⟩
    rintro b ⟨⟩
    exact Nat.le_of_lt hroom

theorem answer_add (hroom : acc.records.length < acc.limit)
    (h : acc.add a now = (batch, acc')) : acc.Answer ⟨.add a now, batch⟩ acc' := by
  have hcut := cut_add h
  unfold add at h
  dsimp only at h
  split at h
  · rename_i hmany
    rw [take_of_ne_nil (by simp)] at h
    cases h
    have hsize : (acc.records ++ [a]).length = acc.limit := by
      rw [limit] at hroom ⊢
      rw [List.length_append, List.length_singleton] at hmany ⊢
      omega
    refine ⟨hcut, rfl, rfl, acc.limit_pos, ?_, ?_, fun _ => rfl, rfl⟩
    · rintro b ⟨⟩
      exact Nat.le_of_eq hsize
    · rintro a now - b ⟨⟩
      exact hsize
  · rename_i hfew
    cases h
    exact ⟨hcut, rfl, rfl, Nat.lt_of_lt_of_le (Nat.lt_of_not_le hfew) (Nat.le_max_right _ _),
      by simp, by simp, by simp, rfl⟩

theorem answer_call (hroom : acc.records.length < acc.limit)
    (h : acc.call next = (batch, acc')) : acc.Answer ⟨next, batch⟩ acc' := by
  cases next with
  | add a now => exact answer_add hroom h
  | take now => exact answer_take hroom h

/-! ### Any number of calls -/

/-- **What calls do** one after the other. -/
structure Collects (acc : Accumulator α) (events : List (AccumulatorEvent α))
    (acc' : Accumulator α) : Prop where
  cut : acc.Cut (events.flatMap (·.call.added)) (batches events) acc'
  bulkMax : acc'.bulkMax = acc.bulkMax
  interval : acc'.interval = acc.interval
  room : acc'.records.length < acc.limit
  size : ∀ b ∈ batches events, b.size ≤ acc.limit
  full : ∀ a now b, ⟨.add a now, some b⟩ ∈ events → b.size = acc.limit
  lastFlush : acc'.lastFlush = lastRestart acc.lastFlush events

theorem Collects.nil (hroom : acc.records.length < acc.limit) : acc.Collects [] acc :=
  ⟨.refl acc, rfl, rfl, hroom, by simp [batches], by simp, rfl⟩

theorem batches_cons : batches (e :: events) = e.batch.toList ++ batches events := by
  rw [batches, List.filterMap_cons]
  cases e.batch <;> rfl

theorem Collects.cons (h : acc.Answer e acc') (h' : acc'.Collects events acc'') :
    acc.Collects (e :: events) acc'' := by
  have hlimit : acc'.limit = acc.limit := congrArg (max 1) h.bulkMax
  refine ⟨?_, h'.bulkMax.trans h.bulkMax, h'.interval.trans h.interval, ?_, ?_, ?_, ?_⟩
  · rw [List.flatMap_cons, batches_cons]
    exact h.cut.trans h'.cut
  · rw [← hlimit]
    exact h'.room
  · rw [batches_cons]
    intro b hb
    rcases List.mem_append.mp hb with hb | hb
    · exact h.size b (Option.mem_toList.mp hb)
    · rw [← hlimit]
      exact h'.size b hb
  · intro a now b hmem
    rcases List.mem_cons.mp hmem with rfl | hmem
    · exact h.full a now rfl b rfl
    · rw [← hlimit]
      exact h'.full a now b hmem
  · rw [lastRestart_cons, ← h.lastFlush]
    exact h'.lastFlush

/-- Calls that begin with one are this one and the others. -/
theorem of_run_cons (h : acc.run (next :: calls) = (events, acc'')) :
    ∃ batch acc' rest, acc.call next = (batch, acc') ∧ acc'.run calls = (rest, acc'') ∧
      events = ⟨next, batch⟩ :: rest := by
  cases h
  exact ⟨_, _, _, rfl, rfl, rfl⟩

/-- **Each call is answered**, in their order. -/
theorem calls_of_run (h : acc.run calls = (events, acc')) : events.map (·.call) = calls := by
  induction calls generalizing acc events with
  | nil =>
    cases h
    rfl
  | cons next calls ih =>
    obtain ⟨batch, between, rest, -, hrest, rfl⟩ := of_run_cons h
    rw [List.map_cons, ih hrest]

theorem collects_of_run (hroom : acc.records.length < acc.limit)
    (h : acc.run calls = (events, acc')) : acc.Collects events acc' := by
  induction calls generalizing acc events with
  | nil =>
    cases h
    exact .nil hroom
  | cons next calls ih =>
    obtain ⟨batch, between, rest, hcall, hrest, rfl⟩ := of_run_cons h
    have hanswer := answer_call hroom hcall
    have hbetween : between.records.length < between.limit := by
      rw [limit, hanswer.bulkMax]
      exact hanswer.room
    exact .cons hanswer (ih hbetween hrest)

/-- Calls that go on are calls. -/
theorem run_append : acc.run (calls ++ others) =
    ((acc.run calls).1 ++ ((acc.run calls).2.run others).1, ((acc.run calls).2.run others).2) := by
  induction calls generalizing acc with
  | nil => rfl
  | cons next calls ih => simp only [List.cons_append, run, ih]

/-! ### The time -/

theorem deadline?_eq_some_iff :
    acc.deadline? horizon = some time ↔ time = acc.deadline ∧ time ≤ horizon := by
  rw [deadline?, Option.ite_none_right_eq_some, Option.some.injEq]
  constructor
  · rintro ⟨hle, rfl⟩
    exact ⟨rfl, hle⟩
  · rintro ⟨rfl, hle⟩
    exact ⟨hle, rfl⟩

theorem deadline?_eq_none_iff : acc.deadline? horizon = none ↔ horizon < acc.deadline := by
  rw [deadline?, ite_eq_right_iff, ← Nat.not_le]
  simp

theorem lastRestart_append :
    lastRestart begun (events ++ more) = lastRestart (lastRestart begun events) more := by
  induction events generalizing begun with
  | nil => rfl
  | cons e events ih => rw [List.cons_append, lastRestart_cons, ih, lastRestart_cons]

/-- **The interval does not begin earlier** than before if time does not go back. -/
theorem lastRestart_le_append
    (h : (begun :: (events ++ more).map (·.call.time)).Pairwise (· ≤ ·)) :
    lastRestart begun events ≤ lastRestart begun (events ++ more) := by
  rw [List.map_append, ← List.cons_append] at h
  have hlater := (List.pairwise_append.mp h).2.2 _ lastRestart_mem
  rw [lastRestart_append]
  have hlast : lastRestart (lastRestart begun events) more ∈ _ := lastRestart_mem
  rcases List.mem_cons.mp hlast with hsame | hmore
  · exact Nat.le_of_eq hsame.symm
  · exact hlater _ hmore

/-! ### From a start -/

section Start

variable {bulkMax interval : Nat}

theorem collects_of_start (h : (start bulkMax interval begun).run calls = (events, acc)) :
    (start bulkMax interval begun).Collects events acc :=
  collects_of_run (limit_pos _) h

/-- The deadline is an interval after the last restart. -/
theorem Collects.deadline_eq (h : (start bulkMax interval begun).Collects events acc) :
    acc.deadline = lastRestart begun events + interval := by
  rw [deadline, h.lastFlush, h.interval]
  rfl

/-- Batches are numbered from zero. -/
theorem Collects.ids_eq (h : (start bulkMax interval begun).Collects events acc) :
    (batches events).map Batch.id = List.range (batches events).length := by
  have hids : (batches events).map Batch.id = List.range acc.nextId := h.cut.ids
  have hlength := congrArg List.length hids
  rw [List.length_map, List.length_range] at hlength
  rw [hids, hlength]

/-- **The deadline does not move backwards** if time does not. -/
theorem deadline_le_of_append {before after : List (AccumulatorCall α)}
    (htimes : (begun :: (before ++ after).map AccumulatorCall.time).Pairwise (· ≤ ·))
    (h : (start bulkMax interval begun).run (before ++ after) = (events, acc)) :
    ((start bulkMax interval begun).run before).2.deadline ≤ acc.deadline := by
  have hbefore : (start bulkMax interval begun).Collects
      ((start bulkMax interval begun).run before).1 ((start bulkMax interval begun).run before).2 :=
    collects_of_start rfl
  rw [hbefore.deadline_eq, (collects_of_start h).deadline_eq]
  rw [← calls_of_run h, List.map_map] at htimes
  rw [run_append] at h
  cases h
  exact Nat.add_le_add_right (lastRestart_le_append htimes) _

/-- **An accumulator partitions its input.** Whatever the limit and the interval, and however
records are added and taken: the batches that were returned, one after the other, and the
records that are still held make up the records that were added, in their order. The batches
are numbered from zero, none is empty and none has more records than the limit allows; one that
is returned when a record is added has just as many, and fewer are held after each call.

Whatever the horizon of the clock is: the deadline comes an interval after a batch was last
returned or somebody last took what there was, or after the start. If this is a time that the
clock can tell there is a deadline, and else there is none to be told. It does not move backwards
unless time does: when there is a deadline there was one all along, and no later one. -/
theorem partitions_records (h : (start bulkMax interval begun).run calls = (events, acc)) :
    events.map (·.call) = calls ∧
    (batches events).flatMap Batch.records ++ acc.records = calls.flatMap AccumulatorCall.added ∧
    (batches events).map Batch.id = List.range (batches events).length ∧
    (∀ b ∈ batches events, b.records ≠ [] ∧ b.size ≤ max 1 bulkMax) ∧
    (∀ a now b, ⟨.add a now, some b⟩ ∈ events → b.size = max 1 bulkMax) ∧
    acc.records.length < max 1 bulkMax ∧
    ∀ horizon,
      (∀ time, acc.deadline? horizon = some time ↔
        time = lastRestart begun events + interval ∧ time ≤ horizon) ∧
      ((begun :: calls.map AccumulatorCall.time).Pairwise (· ≤ ·) →
        ∀ before after time, calls = before ++ after → acc.deadline? horizon = some time →
          ∃ earlier ≤ time,
            ((start bulkMax interval begun).run before).2.deadline? horizon = some earlier) := by
  have hc := collects_of_start h
  have hcalls := calls_of_run h
  refine ⟨hcalls, ?_, hc.ids_eq, fun b hb => ⟨hc.cut.filled b hb, hc.size b hb⟩, hc.full, hc.room,
    fun horizon => ⟨fun time => hc.deadline_eq ▸ deadline?_eq_some_iff, ?_⟩⟩
  · rw [← hcalls, List.flatMap_map]
    exact hc.cut.records.symm
  rintro htimes before after time rfl htime
  have hle := deadline_le_of_append htimes h
  obtain ⟨rfl, hhorizon⟩ := deadline?_eq_some_iff.mp htime
  exact ⟨_, hle, deadline?_eq_some_iff.mpr ⟨rfl, Nat.le_trans hle hhorizon⟩⟩

/-- Calls of an accumulator of two records: it is filled up, somebody takes a record and then
nothing, and it is filled up again in part. -/
def mixedCalls : List (AccumulatorCall Nat) :=
  [.add 10 1, .add 20 4, .add 30 4, .take 9, .take 12, .add 40 13]

theorem partitions_records_mixedCalls : ∃ events acc,
    (start 2 5 1).run mixedCalls = (events, acc) ∧
    batches events = [⟨0, [10, 20]⟩, ⟨1, [30]⟩] ∧ acc.records = [40] ∧
    (1 :: mixedCalls.map AccumulatorCall.time).Pairwise (· ≤ ·) ∧
    lastRestart 1 events = 12 ∧ acc.deadline? 17 = some 17 ∧ acc.deadline? 16 = none ∧
    ∃ earlier ≤ 17, ((start 2 5 1).run (mixedCalls.take 3)).2.deadline? 17 = some earlier := by
  obtain ⟨events, acc, h, hbatches, hheld, htimes, hlast⟩ : ∃ events acc,
      (start 2 5 1).run mixedCalls = (events, acc) ∧
      batches events = [⟨0, [10, 20]⟩, ⟨1, [30]⟩] ∧ acc.records = [40] ∧
      (1 :: mixedCalls.map AccumulatorCall.time).Pairwise (· ≤ ·) ∧
      lastRestart 1 events = 12 := ⟨_, _, rfl, rfl, rfl, by decide, rfl⟩
  obtain ⟨_, _, _, _, _, _, hclock⟩ := partitions_records h
  rw [hlast] at hclock
  have hdeadline : acc.deadline? 17 = some 17 := ((hclock 17).1 17).mpr ⟨rfl, Nat.le_refl 17⟩
  have hbeyond : acc.deadline? 16 = none := by
    rw [Option.eq_none_iff_forall_ne_some]
    intro time htime
    obtain ⟨rfl, hle⟩ := ((hclock 16).1 time).mp htime
    omega
  exact ⟨events, acc, h, hbatches, hheld, htimes, hlast, hdeadline, hbeyond,
    (hclock 17).2 htimes (mixedCalls.take 3) (mixedCalls.drop 3) 17 rfl hdeadline⟩

end Start

end Accumulator

end MetricIngest
