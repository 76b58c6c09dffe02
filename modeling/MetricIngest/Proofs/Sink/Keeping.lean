/-
  A sink that keeps batches does what a sink has to, with failures in front of it or without.

  `Keeper.Serves` is what a submission does, from the ways in which it may end on both layers,
  and `Keeper.Follows` what calls leave of a sink, which is put together from single calls.
  `keeps_contract` says it of all that can become of a new sink.
-/
import MetricIngest.Proofs.Sink.Answers
import MetricIngest.Sink.Keeping

namespace MetricIngest

variable {α : Type}

/-! ### The sink in memory -/

namespace MemorySink

variable {s s' : MemorySink α} {batch : List α} {result : Except SinkError SubmitOutcome}

theorem Answer.keeps (h : s.Answer batch result s') :
    Keeper.Keeps s.refuses batch s.batches result s'.batches := by
  cases h with
  | closed | forced => exact .failed
  | takes =>
    refine .stored (s.stored_sublist batch) ?_ rfl ?_
    · intro a ha
      simpa using (List.mem_filter.mp ha).2
    · exact Nat.add_sub_cancel' (s.stored_sublist batch).length_le

/-- A submission changes neither which records are refused nor whether the sink is closed. -/
theorem Answer.frame (h : s.Answer batch result s') :
    s'.refuses = s.refuses ∧ s'.closed = s.closed := by
  cases h <;> exact ⟨rfl, rfl⟩

/-- A sink that is closed takes nothing. -/
theorem Answer.ne_ok (h : s.Answer batch result s') (hclosed : s.closed = true)
    (o : SubmitOutcome) : result ≠ .ok o := by
  cases h with
  | closed | forced => simp
  | takes hopen => simp [hopen] at hclosed

end MemorySink

/-! ### A single submission -/

namespace Keeper

variable {refuses : α → Bool} {before after : List (List α)} {batch kept : List α}
  {result : Except SinkError SubmitOutcome} {o : SubmitOutcome}

/-- Records that were taken out of a batch before are answered for as refused. -/
theorem Keeps.of_sublist (h : Keeps refuses kept before (.ok o) after)
    (hsub : kept.Sublist batch) :
    Keeps refuses batch before (.ok { o with failed := o.failed + (batch.length - kept.length) })
      after := by
  cases h with
  | stored sublist accepted succeeded total =>
    refine .stored (sublist.trans hsub) accepted succeeded ?_
    have hlength := hsub.length_le
    dsimp only
    omega

/-- As many records are stored as were accepted. -/
theorem Keeps.length_eq (h : Keeps refuses batch before result after) :
    after.flatten.length = before.flatten.length + Submission.succeeded ⟨batch, result⟩ := by
  cases h with
  | stored sublist accepted succeeded total =>
    simp [Submission.succeeded, succeeded]
  | failed => rfl

variable {k k' k'' : Keeper α} {next : KeeperCall α} {calls : List (KeeperCall α)}
  {past more : List (Submission α)}

/-- **What a submission does**: it ends as it may, and nothing comes of it once the sink is
closed. What is refused and whether the sink is closed stays as it is, and the source of failures
counts what was accepted. -/
structure Serves (k : Keeper α) (batch : List α) (result : Except SinkError SubmitOutcome)
    (k' : Keeper α) : Prop where
  keeps : Keeps k.memory.refuses batch k.memory.batches result k'.memory.batches
  refuses : k'.memory.refuses = k.memory.refuses
  closed : k'.memory.closed = k.memory.closed
  shut : k.memory.closed = true → ∀ o, result ≠ .ok o
  accepted : k'.accepted? = k.accepted?.map (· + Submission.succeeded ⟨batch, result⟩)

theorem serves_plain {s s' : MemorySink α} (h : s.Answer batch result s') :
    (Keeper.plain s).Serves batch result (.plain s') :=
  ⟨h.keeps, h.frame.1, h.frame.2, h.ne_ok, rfl⟩

/-- Both layers pick from the same batch, the one in front first. -/
theorem serves_faulty {s s' : FaultySink α} (h : s.Answer batch result s') :
    (Keeper.faulty s).Serves batch result (.faulty s') := by
  cases h with
  | drawn rolled =>
    obtain ⟨hinner, haccepted⟩ := rolled.inner_eq
    refine ⟨?_, congrArg (·.refuses) hinner, congrArg (·.closed) hinner, fun _ o => by simp,
      congrArg some haccepted⟩
    rw [memory, memory, hinner]
    exact .failed
  | fails rolled behind =>
    exact ⟨by cases behind <;> exact .failed, behind.frame.1, behind.frame.2, fun _ o => by simp,
      congrArg some rolled.inner_eq.2⟩
  | @takes _ _ o _ rolled behind =>
    refine ⟨behind.keeps.of_sublist rolled.sublist, behind.frame.1, behind.frame.2, ?_, ?_⟩
    · intro hclosed
      exact absurd rfl (behind.ne_ok hclosed o)
    · exact congrArg some (congrArg (· + o.succeeded) rolled.inner_eq.2)

theorem serves_submit (k : Keeper α) (batch : List α) :
    k.Serves batch (k.submit batch).1 (k.submit batch).2 := by
  cases k with
  | plain s => exact serves_plain (s.answer_submit batch)
  | faulty s => exact serves_faulty (s.answer_submit batch)

/-! ### Any number of calls -/

/-- **What calls leave** of a sink in which some batches were submitted: as many records more as
were accepted, and it is closed if it was. -/
structure Follows (k : Keeper α) (past : List (Submission α)) (k' : Keeper α) : Prop where
  refuses : k'.memory.refuses = k.memory.refuses
  size : k'.memory.size = k.memory.size + succeeded past
  accepted : k'.accepted? = k.accepted?.map (· + succeeded past)
  closed : k.memory.closed = true → k'.memory.closed = true

theorem Follows.refl (k : Keeper α) : k.Follows [] k :=
  ⟨rfl, rfl, Option.map_id'.symm, id⟩

theorem Follows.trans (h : k.Follows past k') (h' : k'.Follows more k'') :
    k.Follows (past ++ more) k'' := by
  have hsum : succeeded (past ++ more) = succeeded past + succeeded more := by
    simp [succeeded]
  refine ⟨h'.refuses.trans h.refuses, ?_, ?_, h'.closed ∘ h.closed⟩
  · rw [h'.size, h.size, hsum, Nat.add_assoc]
  · rw [h'.accepted, h.accepted, hsum, Option.map_map]
    simp only [Function.comp_def, Nat.add_assoc]

theorem follows_call (k : Keeper α) (next : KeeperCall α) :
    k.Follows (k.call next).1 (k.call next).2 := by
  cases next with
  | submit batch =>
    have hserves := k.serves_submit batch
    exact ⟨hserves.refuses, hserves.keeps.length_eq, hserves.accepted, hserves.closed.trans⟩
  | close => cases k <;> exact ⟨rfl, rfl, rfl, fun _ => rfl⟩
  | failNext count => cases k <;> exact ⟨rfl, rfl, rfl, id⟩

theorem follows_run (k : Keeper α) (calls : List (KeeperCall α)) :
    k.Follows (k.run calls).1 (k.run calls).2 := by
  induction calls generalizing k with
  | nil => exact .refl k
  | cons next calls ih => exact (k.follows_call next).trans (ih _)

/-- **A sink that was closed** stays closed. -/
theorem closed_of_close_mem (k : Keeper α) (hclose : .close ∈ calls) :
    (k.run calls).2.memory.closed = true := by
  induction calls generalizing k with
  | nil => simp at hclose
  | cons next calls ih =>
    rcases List.mem_cons.mp hclose with rfl | hlater
    · exact (follows_run _ calls).closed (by cases k <;> rfl)
    · exact ih _ hlater

/-! ### From a start -/

/-- **The contract of a sink.** Whatever a new sink refuses, from whatever seed and how often
failures are drawn in front of it, if at all, and however it was called before: a batch that is
submitted has a part of it stored behind all others, in its order and with nothing that is
refused, and the sink answers for all of its records, or the submission fails and nothing is
stored. Once the sink was closed each submission fails. There are as many records stored as the
sink said that it accepted, and as many are counted in front of it. -/
theorem keeps_contract {source : Option (UInt64 × SinkRates)}
    (h : (start refuses source).run calls = (past, k)) :
    (∀ batch, Keeps refuses batch k.memory.batches (k.submit batch).1
      (k.submit batch).2.memory.batches) ∧
    (.close ∈ calls → ∀ batch o, (k.submit batch).1 ≠ .ok o) ∧
    k.memory.size = succeeded past ∧
    k.accepted? = source.map fun _ => k.memory.size := by
  have hfollows := follows_run (start refuses source) calls
  have hclosed (hmem : .close ∈ calls) := (start refuses source).closed_of_close_mem hmem
  rw [h] at hfollows hclosed
  have hsize : k.memory.size = succeeded past := by
    rw [hfollows.size]
    cases source <;> exact Nat.zero_add _
  refine ⟨fun batch => ?_, fun hmem batch => (k.serves_submit batch).shut (hclosed hmem), hsize, ?_⟩
  · have hrefuses : k.memory.refuses = refuses := by
      rw [hfollows.refuses]
      cases source <;> rfl
    rw [← hrefuses]
    exact (k.serves_submit batch).keeps
  · rw [hfollows.accepted, hsize]
    cases source with
    | none => rfl
    | some source => exact congrArg some (Nat.zero_add _)

/-- Calls of a sink: it takes a batch, fails on the next one, takes one more and is closed. -/
def forcedThenClosed : List (KeeperCall Nat) :=
  [.submit [1, 2, 3], .failNext 1, .submit [4, 5], .submit [6, 7], .close]

theorem keeps_contract_forcedThenClosed : ∃ past k,
    (start (fun n : Nat => n % 2 == 0) (some (7, .none))).run forcedThenClosed = (past, k) ∧
    k.memory.batches = [[1, 3], [7]] ∧ past.map Submission.succeeded = [2, 0, 1] ∧
    k.memory.size = 3 ∧ k.accepted? = some 3 ∧
    ∀ batch o, (k.submit batch).1 ≠ .ok o := by
  obtain ⟨past, k, h, hbatches, hpast⟩ : ∃ past k,
      (start (fun n : Nat => n % 2 == 0) (some (7, .none))).run forcedThenClosed = (past, k) ∧
      k.memory.batches = [[1, 3], [7]] ∧ past.map Submission.succeeded = [2, 0, 1] :=
    ⟨_, _, rfl, rfl, rfl⟩
  obtain ⟨_, hclosed, hsize, haccepted⟩ := keeps_contract h
  rw [succeeded, hpast] at hsize
  rw [hsize] at haccepted
  exact ⟨past, k, h, hbatches, hpast, hsize, haccepted, hclosed (by simp [forcedThenClosed])⟩

end Keeper

end MetricIngest
