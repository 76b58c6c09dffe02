/-
  What settings promise that pass the check.

  Settings pass just when they are valid (`check_eq_ok_iff`). The pipe is as large as the exact
  product says, whatever the numbers are (`Batching.pipeCapacity_eq`); the other capacities are just
  what valid settings say.
-/
import MetricIngest.Settings.Check

namespace MetricIngest.Settings

variable {s : Settings} {a b c : Nat}

/-! ### Rules -/

theorem faultUnless_eq_none_iff {rule : Prop} [Decidable rule] {fault : Fault} :
    faultUnless rule fault = none ↔ rule := by
  unfold faultUnless
  split
  · simpa
  · simpa

theorem Limited.fault?_eq_none_iff {setting : Limited} {n : Nat} :
    setting.fault? n = none ↔ 1 ≤ n ∧ n ≤ setting.limit :=
  faultUnless_eq_none_iff

theorem fault?_eq_none_iff : s.fault? = none ↔ s.Valid := by
  unfold fault? Decoding.fault? Batching.fault? Output.fault?
  simp only [Option.or_eq_none_iff, Limited.fault?_eq_none_iff, faultUnless_eq_none_iff]
  have hblank : (¬ s.sink.index.toList.any Text.isWhiteSpace = true) ↔
      ∀ c ∈ s.sink.index.toList, Text.isWhiteSpace c = false := by
    simp only [List.any_eq_true, not_exists, not_and, Bool.not_eq_true]
  have hpath : s.sink.path ≠ none ↔ ∃ path, s.sink.path = some path := Option.ne_none_iff_exists'
  rw [hblank, hpath]
  constructor
  · rintro ⟨⟨hworkers, hchannels⟩, ⟨hconcurrency, hbulkMax, hfactor, hinterval⟩,
      ⟨hindex, hunbroken⟩, htype, hfile⟩
    exact {
      workers := hworkers
      channelCapacity := hchannels
      concurrency := hconcurrency
      bulkMax := hbulkMax
      pipeFactor := Nat.pos_of_ne_zero hfactor
      flushInterval := Nat.pos_of_ne_zero hinterval
      index_ne_empty := hindex
      index_unbroken := hunbroken
      docType_ne_empty := htype
      path := hfile }
  · intro h
    exact ⟨⟨h.workers, h.channelCapacity⟩,
      ⟨h.concurrency, h.bulkMax, Nat.ne_of_gt h.pipeFactor, Nat.ne_of_gt h.flushInterval⟩,
      ⟨h.index_ne_empty, h.index_unbroken⟩, h.docType_ne_empty, h.path⟩

/-- **Settings pass the check just when they are valid.** -/
theorem check_eq_ok_iff : s.check = .ok () ↔ s.Valid := by
  unfold check
  rw [← fault?_eq_none_iff]
  split
  · simp [*]
  · simp [*]

example : ({} : Settings).check = .ok () ∧ small.check = .ok () := ⟨rfl, rfl⟩

/-! ### Capacities -/

/-- Three numbers whose product stops at the limit of a word: it makes no difference that the
product of the first two stops there as well. -/
theorem boundedProduct_boundedProduct :
    boundedProduct (boundedProduct a b) c = min (a * b * c) wordLimit := by
  unfold boundedProduct
  rcases Nat.le_total (a * b) wordLimit with hle | hle
  · rw [Nat.min_eq_left hle]
  · rw [Nat.min_eq_right hle]
    rcases Nat.eq_zero_or_pos c with rfl | hc
    · rfl
    · -- Both products are past the limit.
      have hfirst : wordLimit ≤ wordLimit * c := Nat.le_mul_of_pos_right _ hc
      have hsecond : wordLimit * c ≤ a * b * c := Nat.mul_le_mul_right c hle
      rw [Nat.min_eq_right hfirst, Nat.min_eq_right (Nat.le_trans hfirst hsecond)]

/-- **The capacity of the pipe** is the exact product, brought into its range. -/
theorem Batching.pipeCapacity_eq (w : Batching) :
    w.pipeCapacity = max 1 (min (w.bulkMax * w.concurrency * w.pipeFactor) (0x1000000)) := by
  have hlimit : maxPipeCapacity ≤ wordLimit := by decide
  unfold pipeCapacity clamp
  rw [boundedProduct_boundedProduct, Nat.min_left_comm, Nat.min_eq_left hlimit]
  rfl

theorem Valid.outputCapacity_eq (h : s.Valid) :
    s.decoder.outputCapacity = s.decoder.channelCapacity :=
  Nat.max_eq_right h.channelCapacity.1

theorem Valid.workers_eq (h : s.Valid) : s.writer.workers = s.writer.concurrency :=
  Nat.max_eq_right h.concurrency.1

/-- The lines of all workers are counted exactly. -/
theorem Valid.lineCapacity_eq (h : s.Valid) : s.decoder.lineCapacity = s.decoder.workers * 16 := by
  obtain ⟨hleast, hmost⟩ := h.workers
  simp only [Decoding.lineCapacity, Decoding.poolSize, Decoding.linesPerWorker, boundedProduct,
    wordLimit]
  omega

end MetricIngest.Settings
