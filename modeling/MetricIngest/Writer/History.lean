/-
  What has happened at a writer, and what it has in hand.

  A history is the list of events that a run leaves, the oldest first. Each view
  picks the events of one kind, in their order. A history is balanced if every
  answer of the sink is about all records of the batch that it answers.

  A record that was popped and is not settled is with a worker, in the pipe, in the
  accumulator, in a batch that waits for a slot, or in a batch that has a task.
-/
import MetricIngest.Writer.Basic

namespace MetricIngest

variable {α : Type}

/-- The events of a run, the oldest first. -/
abbrev History (α : Type) := List (WriterEvent α)

namespace History

/-- The records that the buffer accepted. -/
def pushed (past : History α) : List α := past.filterMap fun
  | .pushed a => some a
  | _ => none

/-- The records that the workers took from the buffer. -/
def popped (past : History α) : List α := past.filterMap fun
  | .popped a => some a
  | _ => none

/-- The records that the loop took from the pipe. -/
def received (past : History α) : List α := past.filterMap fun
  | .received a => some a
  | _ => none

/-- The batches that the loop made. -/
def collected (past : History α) : List (Batch α) := past.filterMap fun
  | .collected b => some b
  | _ => none

/-- The batches that were submitted. -/
def submitted (past : History α) : List (Batch α) := past.filterMap fun
  | .submitted b => some b
  | _ => none

/-- The batches whose submission is over. -/
def returned (past : History α) : List (Batch α) := past.filterMap fun
  | .returned b _ => some b
  | _ => none

/-- The batches that the sink took. -/
def accepted (past : History α) : List (Batch α) := past.filterMap fun
  | .returned b (.ok _) => some b
  | _ => none

/-- The batches whose submission failed. -/
def failed (past : History α) : List (Batch α) := past.filterMap fun
  | .returned b (.error _) => some b
  | _ => none

/-- The records that were given up without a submission. -/
def discarded (past : History α) : List α := past.flatMap fun
  | .discarded records => records
  | _ => []

/-- Whether the sink was closed. -/
def isClosed (past : History α) : Bool := past.any fun
  | .closed => true
  | _ => false

/-- The number of records of some batches. -/
def load (batches : List (Batch α)) : Nat := (batches.flatMap Batch.records).length

/-- The number of records that the sink took with their batches and of which its answers
say nothing. -/
def unreported : History α → Nat
  | [] => 0
  | .returned b (.ok o) :: past => b.size - o.total + unreported past
  | _ :: past => unreported past

/-- Every answer of the sink that is no failure is about as many records as its
batch has. -/
def Balanced (past : History α) : Prop :=
  ∀ b o, WriterEvent.returned b (.ok o) ∈ past → o.total = b.size

/-- Whether an answer of the sink that is no failure is about all records of its batch. -/
def isBalanced : WriterEvent α → Bool
  | .returned b (.ok o) => o.total = b.size
  | _ => true

theorem balanced_iff {past : History α} : Balanced past ↔ ∀ e ∈ past, isBalanced e = true := by
  constructor
  · intro h e hmem
    cases e with
    | returned b result =>
      cases result with
      | ok o => simpa [isBalanced] using h b o hmem
      | error e => rfl
    | _ => rfl
  · intro h b o hmem
    simpa [isBalanced] using h _ hmem

instance {past : History α} : Decidable (Balanced past) := decidable_of_iff _ balanced_iff.symm

variable (p q : History α)

@[simp]
theorem pushed_append : pushed (p ++ q) = pushed p ++ pushed q := List.filterMap_append

@[simp]
theorem popped_append : popped (p ++ q) = popped p ++ popped q := List.filterMap_append

@[simp]
theorem received_append : received (p ++ q) = received p ++ received q := List.filterMap_append

@[simp]
theorem collected_append : collected (p ++ q) = collected p ++ collected q :=
  List.filterMap_append

@[simp]
theorem submitted_append : submitted (p ++ q) = submitted p ++ submitted q :=
  List.filterMap_append

@[simp]
theorem returned_append : returned (p ++ q) = returned p ++ returned q := List.filterMap_append

@[simp]
theorem accepted_append : accepted (p ++ q) = accepted p ++ accepted q := List.filterMap_append

@[simp]
theorem failed_append : failed (p ++ q) = failed p ++ failed q := List.filterMap_append

@[simp]
theorem discarded_append : discarded (p ++ q) = discarded p ++ discarded q :=
  List.flatMap_append

@[simp]
theorem isClosed_append : isClosed (p ++ q) = (isClosed p || isClosed q) := List.any_append

@[simp]
theorem load_singleton (b : Batch α) : load [b] = b.size := by
  simp [load, Batch.size]

@[simp]
theorem load_append (bs cs : List (Batch α)) : load (bs ++ cs) = load bs + load cs := by
  simp [load]

@[simp]
theorem unreported_append : unreported (p ++ q) = unreported p + unreported q := by
  induction p using unreported.induct with
  | case1 => simp [unreported]
  | case2 b o p ih => simp only [List.cons_append, unreported, ih, Nat.add_assoc]
  | case3 e p he ih => rw [List.cons_append, unreported, unreported, ih] <;> exact he

variable {p q}

/-- A sink whose answers are about all records leaves none out. -/
theorem Balanced.unreported_eq_zero (h : Balanced p) : unreported p = 0 := by
  induction p using unreported.induct with
  | case1 => rfl
  | case2 b o p ih =>
    have hp : Balanced p := fun b o hmem => h b o (List.mem_cons_of_mem _ hmem)
    rw [unreported, h b o List.mem_cons_self, Nat.sub_self, ih hp]
  | case3 e p he ih =>
    have hp : Balanced p := fun b o hmem => h b o (List.mem_cons_of_mem _ hmem)
    rw [unreported, ih hp]
    exact he

theorem Balanced.left (h : Balanced (p ++ q)) : Balanced p :=
  fun b o hmem => h b o (List.mem_append_left _ hmem)

theorem Balanced.right (h : Balanced (p ++ q)) : Balanced q :=
  fun b o hmem => h b o (List.mem_append_right _ hmem)

theorem Balanced.append (h : Balanced p) (h' : Balanced q) : Balanced (p ++ q) := by
  intro b o hmem
  rcases List.mem_append.mp hmem with hmem | hmem
  · exact h b o hmem
  · exact h' b o hmem

/-- A submission that is over was either taken by the sink or failed. -/
theorem returned_perm : (returned p).Perm (accepted p ++ failed p) := by
  induction p with
  | nil => rfl
  | cons e p ih =>
    cases e with
    | returned b result =>
      cases result with
      | ok o => simpa [returned, accepted, failed] using ih.cons b
      | error e =>
        have hmid := (ih.cons b).trans List.perm_middle.symm
        simpa [returned, accepted, failed] using hmid
    | _ => simpa [returned, accepted, failed] using ih

/-- Where no submission is over, the sink has said nothing. -/
theorem unanswered (h : returned p = []) : accepted p = [] ∧ failed p = [] ∧ Balanced p := by
  have hperm := returned_perm (p := p)
  rw [h, List.nil_perm, List.append_eq_nil_iff] at hperm
  refine ⟨hperm.1, hperm.2, fun b o hmem => ?_⟩
  have hb : b ∈ returned p := List.mem_filterMap.mpr ⟨_, hmem, rfl⟩
  simp [h] at hb

end History

/-! ### What is in hand -/

/-- The record that a worker has in hand. -/
def Worker.held : Worker α → List α
  | .holding a => [a]
  | _ => []

/-- The batch that waits for a slot. -/
def Phase.sealed : Phase α → List (Batch α)
  | .dispatching b _ => [b]
  | _ => []

/-- Whether the loop knows that no record will come. -/
def Phase.isPast : Phase α → Bool
  | .collecting => false
  | .dispatching _ last => last
  | .joining => true
  | .finished _ => true

namespace Phase

@[simp]
theorem sealed_collecting : (.collecting : Phase α).sealed = [] := rfl

@[simp]
theorem sealed_dispatching (b : Batch α) (last : Bool) :
    (Phase.dispatching b last).sealed = [b] := rfl

@[simp]
theorem sealed_joining : (.joining : Phase α).sealed = [] := rfl

@[simp]
theorem sealed_finished (stats : WriterStats) : (.finished stats : Phase α).sealed = [] := rfl

@[simp]
theorem sealed_elim_collecting (batch : Option (Batch α)) (last : Bool) :
    (batch.elim Phase.collecting (.dispatching · last)).sealed = batch.toList := by
  cases batch <;> rfl

@[simp]
theorem sealed_elim_joining (batch : Option (Batch α)) (last : Bool) :
    (batch.elim Phase.joining (.dispatching · last)).sealed = batch.toList := by
  cases batch <;> rfl

@[simp]
theorem sealed_after (last : Bool) :
    (if last then .joining else .collecting : Phase α).sealed = [] := by
  cases last <;> rfl

@[simp]
theorem isPast_elim_collecting (batch : Option (Batch α)) :
    (batch.elim Phase.collecting (.dispatching · false)).isPast = false := by
  cases batch <;> rfl

@[simp]
theorem isPast_after (last : Bool) :
    (if last then .joining else .collecting : Phase α).isPast = last := by
  cases last <;> rfl

end Phase

namespace Writer

/-- The records that workers have in hand. -/
def held (w : Writer α) : List α := w.workers.flatMap Worker.held

/-- The batch that waits for a slot. -/
def sealed (w : Writer α) : List (Batch α) := w.phase.sealed

/-- The batches that have a task. -/
def underway (w : Writer α) : List (Batch α) := w.flushes.map (·.batch)

/-- The batches that are being submitted. -/
def inSubmission (w : Writer α) : List (Batch α) :=
  (w.flushes.filter (·.since.isSome)).map (·.batch)

end Writer

end MetricIngest
