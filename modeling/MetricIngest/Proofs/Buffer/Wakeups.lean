/-
  No wake-up is lost, and pops are served in the order in which they came to wait.

  `Alert` is what every run keeps: while a pop waits and was not woken, there are at least as
  many pops that were woken and have not looked yet as there are records, and the buffer is
  open. `Calm` lists the states of a run that settles after each call, in which a single pop
  was woken for a single record, or all were woken by the close. `Behind` is what such a run
  keeps of a pop that waits: nobody who came later stands before it.
-/
import MetricIngest.Buffer.Settling
import MetricIngest.Proofs.Buffer.Order
import MetricIngest.Proofs.Lists

namespace MetricIngest

/-! ### Who is present -/

namespace Notifier

variable {n : Notifier} {id : Nat}

theorem isWoken_iff : n.isWoken id = true ↔ id ∈ n.woken.map (·.1) := by
  simp [isWoken]

theorem isWoken_iff_of_single {other : Nat} {sent : Bool} (h : n.woken = [(other, sent)]) :
    n.isWoken id = true ↔ other = id := by
  simp [isWoken, h]

theorem absent_iff : n.Absent id ↔ id ∉ n.present := by
  rw [Absent, ← Bool.not_eq_true, isWoken_iff, present, List.mem_append, not_or, and_comm]

/-- A signal changes who was woken, but not the order of those present. -/
@[simp]
theorem present_signal (n : Notifier) : n.signal.present = n.present := by
  unfold signal
  split
  · rfl
  · rename_i heq
    simp [present, heq]

@[simp]
theorem present_signalAll (n : Notifier) : n.signalAll.present = n.present := by
  simp [present, signalAll, Function.comp_def]

@[simp]
theorem present_enter (n : Notifier) (id : Nat) : (n.enter id).present = n.present ++ [id] := by
  simp [present, enter]

@[simp]
theorem present_usePermit (n : Notifier) : n.usePermit.present = n.present := rfl

theorem map_woken_acknowledge (n : Notifier) (id : Nat) :
    (n.acknowledge id).woken.map (·.1) = (n.woken.map (·.1)).filter (· ≠ id) := by
  simp [acknowledge, List.filter_map, Function.comp_def]

theorem present_leave (n : Notifier) (id : Nat) :
    (n.leave id).present = n.present.filter (· ≠ id) := by
  refine leave_induction (motive := fun m => m.present = n.present.filter (· ≠ id)) ?_ ?_
  · intro m hm
    rw [present_signal, hm]
  · rw [present, present, List.filter_append, ← map_woken_acknowledge]

theorem present_acknowledge (hnodup : n.present.Nodup) (h : n.isWoken id = true) :
    (n.acknowledge id).present = n.present.filter (· ≠ id) := by
  have hwaiting : n.waiting.filter (· ≠ id) = n.waiting := by
    rw [List.filter_eq_self]
    intro other hother
    have hdisjoint := (List.nodup_append.mp hnodup).2.2 id (isWoken_iff.mp h) other hother
    simpa using Ne.symm hdisjoint
  rw [present, present, List.filter_append, ← map_woken_acknowledge, hwaiting]
  rfl

/-- One who has looked was woken once. -/
theorem length_woken_acknowledge (hnodup : n.present.Nodup) {sent : Bool}
    (h : (id, sent) ∈ n.woken) : (n.acknowledge id).woken.length + 1 = n.woken.length := by
  have hkeys : (n.woken.map (·.1)).Nodup := (List.nodup_append.mp hnodup).1
  exact (ListFacts.perm_cons_filter_ne Prod.fst h hkeys).length_eq.symm

/-- One who was not woken leaves those who were. -/
theorem woken_acknowledge (h : n.isWoken id = false) : (n.acknowledge id).woken = n.woken := by
  rw [acknowledge, List.filter_eq_self]
  intro w hw
  have hne : w.1 ≠ id := by
    rintro rfl
    rw [← Bool.not_eq_true, isWoken_iff] at h
    exact h (List.mem_map_of_mem hw)
  simpa using hne

/-- Whom a signal wakes is marked as woken by a single signal. -/
theorem single_signal (h : ∀ w ∈ n.woken, w.2 = true) : ∀ w ∈ n.signal.woken, w.2 = true := by
  unfold signal
  split
  · exact h
  · simpa [or_imp, forall_and] using h

end Notifier

namespace Buffer

variable {α : Type} {b b' mid last : Buffer α} {call : BufferCall α}
  {calls : List (BufferCall α)} {event : BufferEvent α} {past events : List (BufferEvent α)}
  {line : Notifier} {id i j : Nat}

/-! ### What every run keeps -/

/-- What is kept by every call. -/
structure Alert (b : Buffer α) : Prop where
  /-- Nobody is present twice. -/
  nodup : b.notifier.present.Nodup
  /-- At an open buffer everyone who was woken was woken by a single signal. -/
  single : b.closed = false → ∀ w ∈ b.notifier.woken, w.2 = true
  /-- While somebody waits, there is a pop that was woken for each record. -/
  enough : b.notifier.waiting ≠ [] →
    b.records.length ≤ b.notifier.woken.length ∧ b.closed = false

theorem alert_empty : Alert (empty : Buffer α) where
  nodup := List.nodup_nil
  single := by simp [empty, Notifier.idle]
  enough := by simp [empty, Notifier.idle]

/-- Who looks is not present any more. -/
theorem Looks.present_eq (h : b.Looks call id line) (hnodup : b.notifier.present.Nodup) :
    line.present = b.notifier.present.filter (· ≠ id) := by
  cases h with
  | first habsent =>
    rw [eq_comm, List.filter_eq_self]
    intro other hother
    have hne : other ≠ id := fun heq => Notifier.absent_iff.mp habsent (heq ▸ hother)
    simpa using hne
  | again hwoken => exact Notifier.present_acknowledge hnodup hwoken

/-- At most one of those who were woken looks. -/
theorem Looks.length_woken_le (h : b.Looks call id line) (hnodup : b.notifier.present.Nodup) :
    b.notifier.woken.length ≤ line.woken.length + 1 := by
  cases h with
  | first => omega
  | again hwoken =>
    obtain ⟨⟨_, sent⟩, hmem, rfl⟩ := List.mem_map.mp (Notifier.isWoken_iff.mp hwoken)
    exact Nat.le_of_eq (Notifier.length_woken_acknowledge hnodup hmem).symm

/-- A look wakes nobody. -/
theorem Looks.woken_subset (h : b.Looks call id line) : line.woken ⊆ b.notifier.woken := by
  cases h with
  | first => exact List.Subset.refl _
  | again => exact List.filter_subset_self _

/-- One who leaves hands on the signal that was meant for him, so that no fewer are awake as
long as somebody waits. -/
theorem Alert.length_woken_leave (ha : Alert b) (id : Nat)
    (hopen : b.closed = false) (hwaits : (b.notifier.leave id).waiting ≠ []) :
    b.notifier.waiting ≠ [] ∧
      (b.notifier.leave id).woken.length = b.notifier.woken.length := by
  unfold Notifier.leave at hwaits ⊢
  dsimp only at hwaits ⊢
  split at hwaits
  · -- The signal goes on to the one who waits longest, if there is one.
    rename_i hpass
    rw [if_pos hpass]
    have hmem : (id, true) ∈ b.notifier.woken := by simpa using hpass
    have hlength := Notifier.length_woken_acknowledge ha.nodup hmem
    unfold Notifier.signal at hwaits ⊢
    split at hwaits
    · rename_i hnobody
      exact absurd hnobody hwaits
    · rename_i oldest rest hrest
      refine ⟨fun hnone => ?_, by simpa [hrest] using hlength⟩
      simp [hnone] at hrest
  · -- Without a signal to hand on, who leaves was not awake: the buffer is still open.
    rename_i hpass
    rw [if_neg hpass]
    have hasleep : b.notifier.isWoken id = false := by
      rw [← Bool.not_eq_true, Notifier.isWoken_iff]
      intro hmem
      obtain ⟨⟨_, sent⟩, hw, rfl⟩ := List.mem_map.mp hmem
      obtain rfl : sent = true := ha.single hopen _ hw
      exact hpass (by simpa using hw)
    refine ⟨fun hnone => hwaits (by simp [hnone]), ?_⟩
    exact congrArg List.length (Notifier.woken_acknowledge hasleep)

theorem Alert.move (ha : Alert b) (h : b.Move call b' event) : Alert b' where
  nodup := by
    have hnodup := ha.nodup
    cases h with
    | put | close => simpa [close] using hnodup
    | take hlook | miss hlook =>
      rw [Notifier.present_usePermit, hlook.present_eq hnodup]
      exact hnodup.filter _
    | wait hlook =>
      rw [Notifier.present_enter, Notifier.present_usePermit, hlook.present_eq hnodup]
      refine List.Nodup.append (hnodup.filter _) (List.nodup_singleton _) ?_
      simp [List.disjoint_singleton]
    | @leave id =>
      rw [cancelPop, Notifier.present_leave]
      exact hnodup.filter _
    | _ => exact hnodup
  single := by
    have hsingle := ha.single
    cases h with
    | put hopen => exact fun _ => Notifier.single_signal (hsingle hopen)
    | take hlook => exact fun hopen w hw => hsingle hopen w (hlook.woken_subset hw)
    | miss => simp
    | wait hlook _ hopen => exact fun _ w hw => hsingle hopen w (hlook.woken_subset hw)
    | leave =>
      intro hopen
      refine Notifier.leave_induction (motive := fun m => ∀ w ∈ m.woken, w.2 = true)
        Notifier.single_signal ?_
      exact fun w hw => hsingle hopen w (List.mem_of_mem_filter hw)
    | close => simp [close]
    | _ => exact hsingle
  enough := by
    have henough := ha.enough
    cases h with
    | put hopen =>
      -- Either nobody waits, or the record wakes one more.
      intro hwaits
      unfold Notifier.signal at hwaits ⊢
      split at hwaits
      · rename_i hnobody
        exact absurd hnobody hwaits
      · rename_i hline
        have hbefore := (henough (by simp [hline])).1
        simp only [List.length_append, List.length_singleton, and_true]
        omega
    | take hlook hrecords =>
      intro hwaits
      obtain ⟨hle, hopen⟩ := henough (by rwa [← hlook.waiting_eq])
      have hlooked := hlook.length_woken_le ha.nodup
      rw [hrecords, List.length_cons] at hle
      refine ⟨?_, hopen⟩
      simp only [Notifier.usePermit]
      omega
    | miss hlook _ hclosed =>
      intro hwaits
      have hopen := (henough (by rwa [← hlook.waiting_eq])).2
      simp [hclosed] at hopen
    | wait => exact fun _ => ⟨Nat.zero_le _, rfl⟩
    | @leave id =>
      intro hwaits
      have hsome : b.notifier.waiting ≠ [] := by
        intro hnone
        exact hwaits (Notifier.waiting_leave hnone)
      obtain ⟨hle, hopen⟩ := henough hsome
      have hlength := (ha.length_woken_leave id hopen hwaits).2
      exact ⟨hlength ▸ hle, hopen⟩
    | drain => exact fun hwaits => ⟨Nat.zero_le _, (henough hwaits).2⟩
    | close => exact fun hwaits => absurd rfl hwaits
    | _ => exact henough

/-- **Every run from the empty buffer stays alert.** -/
theorem alert_of_run (h : (empty : Buffer α).run calls = some (b, events)) : Alert b :=
  @run_induction _ _ _ _ [] _ (fun _ => Alert) .move alert_empty h

/-! ### Buffers that are settled -/

/-- A buffer is settled when everyone who was woken has looked. -/
theorem settled_iff : b.Settled ↔ b.notifier.woken = [] := by
  constructor
  · intro hsettled
    by_contra hwoken
    obtain ⟨w, hw⟩ := List.exists_mem_of_ne_nil _ hwoken
    have hawake : b.notifier.isWoken w.1 = true :=
      Notifier.isWoken_iff.mpr (List.mem_map_of_mem hw)
    have hlooks : b.Looks (.poll w.1) w.1 (b.notifier.acknowledge w.1) := .again hawake
    -- Who looks takes note of having been woken, which changes the buffer.
    have hafter := hsettled w.1 (b.resumePop w.1).2 (.looked w.1 (b.resumePop w.1).1)
      (by simp [step, hawake])
    have hline : (b.resumePop w.1).2.notifier.woken = (b.notifier.acknowledge w.1).woken := by
      unfold resumePop beginPop
      split
      · rfl
      · split <;> rfl
    rw [hafter] at hline
    rw [hline] at hw
    simp [Notifier.acknowledge] at hw
  · intro hnobody id after event hstep
    have hasleep : b.notifier.isWoken id = false := by simp [Notifier.isWoken, hnobody]
    cases move_of_step hstep with
    | take hlook | miss hlook | wait hlook =>
      cases hlook with
      | again hwoken => simp [hasleep] at hwoken
    | stay => rfl

instance (b : Buffer α) : Decidable b.Settled := decidable_of_iff _ settled_iff.symm

instance (b : Buffer α) : (call : BufferCall α) → Decidable (b.LetsSettle call)
  | .poll id => inferInstanceAs (Decidable (b.notifier.isWoken id = true))
  | .push _ | .start _ | .cancel _ | .drain | .close => inferInstanceAs (Decidable b.Settled)

instance (b : Buffer α) : (call : BufferCall α) → Decidable (b.InTurn call)
  | .poll id => inferInstanceAs (Decidable (b.notifier.woken.head?.map (·.1) = some id))
  | .push _ | .start _ | .cancel _ | .drain | .close => inferInstanceAs (Decidable True)

/-- **At a settled buffer** nobody waits for a record that is there, nor for a close that has
come. -/
theorem Alert.absent_of_settled (ha : Alert b) (hsettled : b.Settled)
    (h : b.records ≠ [] ∨ b.closed = true) (id : Nat) : b.notifier.Absent id := by
  have hwoken := settled_iff.mp hsettled
  have hline : b.notifier.waiting = [] := by
    by_contra hwaits
    obtain ⟨hle, hopen⟩ := ha.enough hwaits
    rw [hwoken, List.length_nil, Nat.le_zero, List.length_eq_zero_iff] at hle
    simp [hle, hopen] at h
  rw [Notifier.absent_iff, Notifier.present, hwoken, hline]
  exact List.not_mem_nil

/-! ### Runs that settle -/

variable {p : Buffer α → BufferCall α → Prop}

theorem throughout_cons_iff {after : Buffer α} (h : b.step call = some (after, event)) :
    b.Throughout p (call :: calls) ↔ p b call ∧ after.Throughout p calls := by
  simp [Throughout, h]

theorem throughout_cons_of_none (h : b.step call = none) :
    b.Throughout p (call :: calls) ↔ p b call := by
  simp [Throughout, h]

instance instDecidableThroughout [∀ b call, Decidable (p b call)] (b : Buffer α) :
    (calls : List (BufferCall α)) → Decidable (b.Throughout p calls)
  | [] => inferInstanceAs (Decidable True)
  | call :: calls =>
    match h : b.step call with
    | none => decidable_of_iff _ (throughout_cons_of_none h).symm
    | some (after, _) =>
      have := instDecidableThroughout after calls
      decidable_of_iff _ (throughout_cons_iff h).symm

/-- Induction over a run each of whose calls is as `p` says. -/
theorem run_induction_throughout {motive : List (BufferEvent α) → Buffer α → Prop}
    (keep : ∀ {past b call b' event}, motive past b → p b call → Move b call b' event →
      motive (past ++ [event]) b')
    (h : motive past b) (hp : b.Throughout p calls) (hrun : b.run calls = some (b', events)) :
    motive (past ++ events) b' := by
  induction calls generalizing past b events with
  | nil =>
    cases hrun
    simpa using h
  | cons call calls ih =>
    obtain ⟨after, event, more, hstep, hrest, rfl⟩ := Steps.of_run_cons hrun
    rw [← List.append_assoc]
    exact ih (keep h hp.1 (move_of_step hstep)) (hp.2 _ _ hstep) hrest

/-- The states of a run that settles after each call. -/
inductive Calm (b : Buffer α) : Prop where
  /-- Everyone who was woken has looked, and who waits waits for a record. -/
  | resting (hwoken : b.notifier.woken = [])
    (hline : b.notifier.waiting ≠ [] → b.records = [] ∧ b.closed = false)
  /-- A single pop was woken for a single record. -/
  | serving {id a} (hwoken : b.notifier.woken = [(id, true)]) (hrecords : b.records = [a])
    (hopen : b.closed = false)
  /-- Everyone was woken by the close. -/
  | ending (hrecords : b.records = []) (hclosed : b.closed = true)
    (hline : b.notifier.waiting = [])

theorem calm_empty : Calm (empty : Buffer α) :=
  .resting rfl fun hwaits => absurd rfl hwaits

/-- A calm buffer at which nobody has yet to look is at rest. -/
theorem Calm.line_of_settled (hc : Calm b) (hsettled : b.Settled)
    (hwaits : b.notifier.waiting ≠ []) : b.records = [] ∧ b.closed = false := by
  have hnobody := settled_iff.mp hsettled
  cases hc with
  | resting _ hline => exact hline hwaits
  | serving hwoken => simp [hnobody] at hwoken
  | ending _ _ hline => exact absurd hline hwaits

/-- A pop that was woken and looks has its answer. -/
theorem Calm.of_look (hc : Calm b) (hwoken : b.notifier.isWoken id = true)
    (h : b.Move (.poll id) b' event) :
    Calm b' ∧ event ≠ .looked id .waiting := by
  cases hc with
  | resting hnobody => simp [Notifier.isWoken, hnobody] at hwoken
  | serving hone hrecords hopen =>
    have hafter : (b.notifier.acknowledge id).woken = [] := by
      simp [Notifier.acknowledge, hone, (Notifier.isWoken_iff_of_single hone).mp hwoken]
    cases h with
    | take hlook hcons =>
      cases hlook
      simp only [hrecords, List.cons.injEq] at hcons
      obtain ⟨rfl, rfl⟩ := hcons
      exact ⟨.resting hafter fun _ => ⟨rfl, hopen⟩, by simp⟩
    | miss _ hnil | wait _ hnil => simp [hrecords] at hnil
    | stay hasleep => simp [hwoken] at hasleep
  | ending hrecords hclosed hline =>
    cases h with
    | take _ hcons => simp [hrecords] at hcons
    | miss hlook =>
      cases hlook
      exact ⟨.ending rfl rfl hline, by simp⟩
    | wait _ _ hopen => simp [hclosed] at hopen
    | stay _ hwaits => simp [hline] at hwaits

theorem Calm.move (hc : Calm b) (hlets : b.LetsSettle call) (h : b.Move call b' event) :
    Calm b' := by
  have hrest : b.Settled → b.notifier.woken = [] := settled_iff.mp
  cases h with
  | put hopen =>
    have hnobody := hrest hlets
    cases hwaiting : b.notifier.waiting with
    | nil =>
      refine .resting ?_ ?_
      · simp [Notifier.signal, hwaiting, hnobody]
      · simp [Notifier.signal, hwaiting]
    | cons oldest rest =>
      have hempty := (hc.line_of_settled hlets (by simp [hwaiting])).1
      have hwoken : b.notifier.signal.woken = [(oldest, true)] := by
        simp [Notifier.signal, hwaiting, hnobody]
      exact .serving hwoken (by rw [hempty, List.nil_append]) rfl
  | refuse => exact hc
  | take hlook hcons =>
    cases hlook with
    | again hwoken => exact (hc.of_look hwoken (.take (.again hwoken) hcons)).1
    | first =>
      -- Who waits waits for a record, so there is none to be taken past him.
      refine .resting (hrest hlets) fun hwaits => ?_
      simp [(hc.line_of_settled hlets hwaits).1] at hcons
  | miss hlook hrecords hclosed =>
    cases hlook with
    | again hwoken => exact (hc.of_look hwoken (.miss (.again hwoken) hrecords hclosed)).1
    | first =>
      refine .resting (hrest hlets) fun hwaits => ?_
      simp [(hc.line_of_settled hlets hwaits).2] at hclosed
  | wait hlook hrecords hopen =>
    cases hlook with
    | again hwoken => exact (hc.of_look hwoken (.wait (.again hwoken) hrecords hopen)).1
    | first => exact .resting (hrest hlets) fun _ => ⟨rfl, rfl⟩
  | stay => exact hc
  | @leave id =>
    -- Nobody was woken, so there is no signal to hand on.
    have hnobody := hrest hlets
    have hleave : b.notifier.leave id =
        { b.notifier with waiting := b.notifier.waiting.filter (· ≠ id) } := by
      simp [Notifier.leave, Notifier.acknowledge, hnobody]
    refine .resting (by simp [cancelPop, hleave, hnobody]) fun hwaits => ?_
    refine hc.line_of_settled hlets fun hnone => hwaits ?_
    simp [cancelPop, hleave, hnone]
  | drain =>
    exact .resting (hrest hlets) fun hwaits => ⟨rfl, (hc.line_of_settled hlets hwaits).2⟩
  | close =>
    by_cases hwaits : b.notifier.waiting = []
    · refine .resting ?_ fun hsome => absurd rfl hsome
      simp [close, Notifier.signalAll, hrest hlets, hwaits]
    · exact .ending (hc.line_of_settled hlets hwaits).1 rfl rfl

/-- Who waits has just come, and stands behind all others. -/
theorem Calm.of_waiting (hc : Calm b) (hlets : b.LetsSettle call)
    (h : b.Move call b' (.looked id .waiting)) :
    id ∉ b.notifier.present ∧ b'.notifier.present = b.notifier.present ++ [id] := by
  cases h with
  | wait hlook hrecords hopen =>
    cases hlook with
    | again hwoken =>
      exact absurd rfl (hc.of_look hwoken (.wait (.again hwoken) hrecords hopen)).2
    | first habsent =>
      refine ⟨Notifier.absent_iff.mp habsent, ?_⟩
      rw [Notifier.present_enter, Notifier.present_usePermit]
  | stay hasleep => simp [show b.notifier.isWoken id = true from hlets] at hasleep

/-! ### The order of the answers -/

/-- What a run that settles keeps of a pop that waits, with what has happened since it came:
it is over, or still present with nobody before it who came later. -/
def Behind (i : Nat) (past : List (BufferEvent α)) (b : Buffer α) : Prop :=
  (∃ event ∈ past, event.Ends i) ∨
    ∃ front back, b.notifier.present = front ++ i :: back ∧
      ∀ j, .looked j .waiting ∈ past → j ∉ front ∧ j ≠ i

theorem Behind.of_ends (h : event.Ends i) : Behind i (past ++ [event]) b :=
  .inl ⟨event, by simp, h⟩

/-- One who stays present stays behind the same ones, unless one of them goes. -/
theorem Behind.of_filter (hb : Behind i past b) (hne : i ≠ id)
    (hpresent : b'.notifier.present = b.notifier.present.filter (· ≠ id))
    (hevent : ∀ j, event ≠ .looked j .waiting) : Behind i (past ++ [event]) b' := by
  rcases hb with ⟨e, he, hends⟩ | ⟨front, back, hline, hlater⟩
  · exact .inl ⟨e, List.mem_append_left _ he, hends⟩
  · refine .inr ⟨front.filter (· ≠ id), back.filter (· ≠ id), ?_, ?_⟩
    · rw [hpresent, hline, List.filter_append, List.filter_cons_of_pos (by simpa using hne)]
    · intro j hj
      rcases List.mem_append.mp hj with hj | hj
      · exact ⟨fun hfront => (hlater j hj).1 (List.mem_of_mem_filter hfront), (hlater j hj).2⟩
      · exact absurd (List.mem_singleton.mp hj).symm (hevent j)

theorem Behind.of_present_eq (hb : Behind i past b)
    (hpresent : b'.notifier.present = b.notifier.present)
    (hevent : ∀ j, event ≠ .looked j .waiting) : Behind i (past ++ [event]) b' := by
  rcases hb with ⟨e, he, hends⟩ | ⟨front, back, hline, hlater⟩
  · exact .inl ⟨e, List.mem_append_left _ he, hends⟩
  · refine .inr ⟨front, back, hpresent.trans hline, ?_⟩
    intro j hj
    rcases List.mem_append.mp hj with hj | hj
    · exact hlater j hj
    · exact absurd (List.mem_singleton.mp hj).symm (hevent j)

theorem Behind.move (hb : Behind i past b) (ha : Alert b) (hc : Calm b)
    (hlets : b.LetsSettle call) (h : b.Move call b' event) : Behind i (past ++ [event]) b' := by
  have hmove := h
  cases h with
  | put => exact hb.of_present_eq (Notifier.present_signal _) (by simp)
  | close => exact hb.of_present_eq (Notifier.present_signalAll _) (by simp)
  | refuse | drain => exact hb.of_present_eq rfl (by simp)
  | @take _ id _ _ _ hlook | @miss _ id _ hlook =>
    by_cases heq : i = id
    · exact .of_ends heq.symm
    · exact hb.of_filter heq (hlook.present_eq ha.nodup) (by simp)
  | @leave id =>
    by_cases heq : i = id
    · exact .of_ends heq.symm
    · exact hb.of_filter heq (Notifier.present_leave _ _) (by simp)
  | wait | stay =>
    -- Who comes to wait stands behind all others, and so not in front.
    obtain ⟨habsent, hpresent⟩ := hc.of_waiting hlets hmove
    rcases hb with ⟨e, he, hends⟩ | ⟨front, back, hline, hlater⟩
    · exact .inl ⟨e, List.mem_append_left _ he, hends⟩
    · rw [hline, List.mem_append, List.mem_cons, not_or, not_or] at habsent
      refine .inr ⟨front, back ++ [_], by rw [hpresent, hline, List.append_assoc]; rfl, ?_⟩
      intro j hj
      rcases List.mem_append.mp hj with hj | hj
      · exact hlater j hj
      · cases List.mem_singleton.mp hj
        exact ⟨habsent.1, habsent.2.1⟩

/-- **Who is answered stands before all others** that are present: always if the answer is a
record, and if the pops that were woken look in turn, whatever the answer is. -/
theorem Calm.answered_first {pop : Pop α} (hc : Calm b) (hlets : b.LetsSettle call)
    (h : b.Move call b' (.looked j pop)) (hpop : pop ≠ .waiting)
    (hturn : (∃ a, pop = .record a) ∨ b.InTurn call) :
    b.notifier.present = [] ∨ b.notifier.present.head? = some j := by
  have hnobody : b.Settled → b.notifier.waiting = [] → b.notifier.present = [] := by
    intro hsettled hline
    simp [Notifier.present, settled_iff.mp hsettled, hline]
  cases h with
  | take hlook hcons =>
    cases hlook with
    | first =>
      refine .inl (hnobody hlets ?_)
      by_contra hwaits
      simp [(hc.line_of_settled hlets hwaits).1] at hcons
    | again hwoken =>
      cases hc with
      | resting hnone => simp [Notifier.isWoken, hnone] at hwoken
      | serving hone =>
        refine .inr ?_
        simp [Notifier.present, hone, (Notifier.isWoken_iff_of_single hone).mp hwoken]
      | ending hrecords => simp [hrecords] at hcons
  | miss hlook hrecords hclosed =>
    cases hlook with
    | first =>
      refine .inl (hnobody hlets ?_)
      by_contra hwaits
      simp [(hc.line_of_settled hlets hwaits).2] at hclosed
    | again =>
      have hhead := hturn.resolve_left (by simp)
      refine .inr ?_
      rw [Notifier.present, List.head?_append, List.head?_map]
      simp only [InTurn] at hhead
      simp [hhead]
  | wait | stay => exact absurd rfl hpop

/-- A run up to an event, the call in which it happens, and the run after it. -/
theorem exists_split_of_run {before after : List (BufferEvent α)}
    (h : b.run calls = some (last, before ++ event :: after)) :
    ∃ first call rest mid next, calls = first ++ call :: rest ∧
      b.run first = some (mid, before) ∧ mid.step call = some (next, event) ∧
      next.run rest = some (last, after) := by
  induction before generalizing b calls with
  | nil =>
    cases calls with
    | nil => cases h
    | cons call calls =>
      obtain ⟨next, event', more, hstep, hrest, heq⟩ := Steps.of_run_cons h
      obtain ⟨rfl, rfl⟩ := List.cons.inj heq
      exact ⟨[], call, calls, b, next, rfl, rfl, hstep, hrest⟩
  | cons e before ih =>
    cases calls with
    | nil => cases h
    | cons call calls =>
      obtain ⟨mid', e', more, hstep, hrest, heq⟩ := Steps.of_run_cons h
      obtain ⟨rfl, rfl⟩ := List.cons.inj heq
      obtain ⟨first, call', rest, mid, next, rfl, hfirst, hcall, hlast⟩ := ih hrest
      exact ⟨call :: first, call', rest, mid, next, rfl, Steps.run_cons hstep hfirst, hcall, hlast⟩

theorem Throughout.split {first rest : List (BufferCall α)} {next : Buffer α}
    (hp : b.Throughout p (first ++ call :: rest)) (hfirst : b.run first = some (mid, past))
    (hcall : mid.step call = some (next, event)) :
    b.Throughout p first ∧ p mid call ∧ next.Throughout p rest := by
  induction first generalizing b past with
  | nil =>
    cases hfirst
    exact ⟨trivial, hp.1, hp.2 _ _ hcall⟩
  | cons c first ih =>
    obtain ⟨after, e, more, hstep, hrest, rfl⟩ := Steps.of_run_cons hfirst
    obtain ⟨hbegin, hhere, hend⟩ := ih (hp.2 _ _ hstep) hrest
    refine ⟨⟨hp.1, ?_⟩, hhere, hend⟩
    intro after' e' hstep'
    rw [hstep] at hstep'
    cases hstep'
    exact hbegin

/-- What a run that settles keeps of the buffer. -/
theorem alert_calm_of_run (hlets : (empty : Buffer α).Throughout LetsSettle calls)
    (h : (empty : Buffer α).run calls = some (b, events)) : Alert b ∧ Calm b :=
  @run_induction_throughout _ _ _ _ [] _ _ (fun _ b => Alert b ∧ Calm b)
    (fun hb hcall hmove => ⟨hb.1.move hmove, hb.2.move hcall hmove⟩)
    ⟨alert_empty, calm_empty⟩ hlets h

/-- What such a run keeps of a pop that waits, from any moment on. -/
theorem behind_of_run (ha : Alert b) (hc : Calm b) (hb : Behind i past b)
    (hlets : b.Throughout LetsSettle calls) (h : b.run calls = some (last, events)) :
    Alert last ∧ Calm last ∧ Behind i (past ++ events) last :=
  run_induction_throughout (motive := fun past b => Alert b ∧ Calm b ∧ Behind i past b)
    (fun hb hcall hmove => ⟨hb.1.move hmove, hb.2.1.move hcall hmove,
      hb.2.2.move hb.1 hb.2.1 hcall hmove⟩)
    ⟨ha, hc, hb⟩ hlets h

/-- **Pops are answered in the order in which they came to wait**, if the run settles after
each call: one that came earlier is over before one that came later gets a record, and, if the
pops that were woken look in turn, before one that came later gets any answer. -/
theorem ends_before_of_run {before between since after : List (BufferEvent α)} {pop : Pop α}
    (h : (empty : Buffer α).run calls = some (b, before ++ .looked i .waiting ::
      (between ++ .looked j .waiting :: (since ++ .looked j pop :: after))))
    (hlets : (empty : Buffer α).Throughout LetsSettle calls) (hpop : pop ≠ .waiting)
    (hturn : (∃ a, pop = .record a) ∨ (empty : Buffer α).Throughout InTurn calls) :
    ∃ event ∈ between ++ since, event.Ends i := by
  -- The run up to the moment at which the first pop begins to wait.
  obtain ⟨first, start, rest, mid, next, rfl, hfirst, hstart, hrest⟩ := exists_split_of_run h
  obtain ⟨hletsFirst, hletsStart, hletsRest⟩ := hlets.split hfirst hstart
  obtain ⟨haMid, hcMid⟩ := alert_calm_of_run hletsFirst hfirst
  have hmove := move_of_step hstart
  have hbegin : Behind i [] next := by
    refine .inr ⟨mid.notifier.present, [], (hcMid.of_waiting hletsStart hmove).2, ?_⟩
    simp
  -- From there to the moment at which the second pop gets its answer.
  have hrest' : next.run rest =
      some (b, (between ++ .looked j .waiting :: since) ++ .looked j pop :: after) := by
    simpa using hrest
  obtain ⟨wait, look, tail, mid', next', rfl, hwait, hlook, htail⟩ := exists_split_of_run hrest'
  obtain ⟨hletsWait, hletsLook, -⟩ := hletsRest.split hwait hlook
  obtain ⟨-, hcMid', hbehind⟩ := behind_of_run (haMid.move hmove)
    (hcMid.move hletsStart hmove) hbegin hletsWait hwait
  have hturn' : (∃ a, pop = .record a) ∨ mid'.InTurn look :=
    hturn.imp_right fun hall => ((hall.split hfirst hstart).2.2.split hwait hlook).2.1
  have hfirstOfAll := hcMid'.answered_first hletsLook (move_of_step hlook) hpop hturn'
  rcases hbehind with ⟨event, hevent, hends⟩ | ⟨front, back, hline, hlater⟩
  · refine ⟨event, ?_, hends⟩
    simp only [List.nil_append, List.mem_append, List.mem_cons] at hevent ⊢
    rcases hevent with hevent | rfl | hevent
    · exact .inl hevent
    · exact hends.elim
    · exact .inr hevent
  · -- The second pop is not before the first one, and so not the one that is answered.
    obtain ⟨hnot, hne⟩ := hlater j (by simp)
    cases front with
    | nil => simp [hline, Ne.symm hne] at hfirstOfAll
    | cons k front =>
      simp only [hline, List.cons_append, List.head?_cons, Option.some.injEq, reduceCtorEq,
        false_or] at hfirstOfAll
      exact absurd (List.mem_cons.mpr (.inl hfirstOfAll.symm)) hnot

/-! ### No wake-up is lost -/

/-- **No wake-up is lost.** After any sequence of calls of an empty buffer, while a pop waits
that was not woken, there are no more records than pops that were woken and have not looked
yet, and the buffer is open. So when nothing happens any more unless somebody calls, nobody
waits at a buffer that has a record or is closed. If the run settles after each call, pops are
answered in the order in which they came to wait: one that came earlier is over before one
that came later gets a record, and, if the pops that were woken look in turn, before one that
came later gets any answer. -/
theorem no_lost_wakeup_of_run (h : (empty : Buffer α).run calls = some (b, events)) :
    (b.notifier.waiting ≠ [] →
      b.records.length ≤ b.notifier.woken.length ∧ b.closed = false) ∧
    (b.Settled → (b.records ≠ [] ∨ b.closed = true) → ∀ id, b.notifier.Absent id) ∧
    ((empty : Buffer α).Throughout LetsSettle calls →
      ∀ (before between since after : List (BufferEvent α)) (i j : Nat) (pop : Pop α),
        events = before ++ .looked i .waiting ::
          (between ++ .looked j .waiting :: (since ++ .looked j pop :: after)) →
        pop ≠ .waiting →
        ((∃ a, pop = .record a) ∨ (empty : Buffer α).Throughout InTurn calls) →
        ∃ event ∈ between ++ since, event.Ends i) := by
  have ha := alert_of_run h
  refine ⟨ha.enough, fun hsettled hready id => ha.absent_of_settled hsettled hready id, ?_⟩
  rintro hlets before between since after i j pop rfl hpop hturn
  exact ends_before_of_run h hlets hpop hturn

/-- Two pops wait and are woken by a record each; two more wait for the close. -/
def pairedPops : List (BufferCall Nat) :=
  [.start 1, .start 2, .push 10, .poll 1, .push 20, .poll 2, .start 3, .start 4, .close,
    .poll 3, .poll 4]

theorem no_lost_wakeup_of_pairedPops :
    (∃ (b : Buffer Nat) (events : List (BufferEvent Nat)),
      (empty : Buffer Nat).run (pairedPops.take 3) = some (b, events) ∧
      b.notifier.waiting = [2] ∧ b.records.length ≤ b.notifier.woken.length) ∧
    ∃ (b : Buffer Nat) (before since : List (BufferEvent Nat)),
      (empty : Buffer Nat).run pairedPops = some (b, before ++ BufferEvent.looked 3 .waiting ::
        BufferEvent.looked 4 .waiting :: (since ++ [BufferEvent.looked 4 .closed])) ∧
      b.Settled ∧ b.closed = true ∧ (∀ id, b.notifier.Absent id) ∧
      (empty : Buffer Nat).Throughout LetsSettle pairedPops ∧
      (empty : Buffer Nat).Throughout InTurn pairedPops ∧ ∃ event ∈ since, event.Ends 3 := by
  constructor
  · obtain ⟨b, events, hrun, hline⟩ : ∃ b events,
        (empty : Buffer Nat).run (pairedPops.take 3) = some (b, events) ∧
        b.notifier.waiting = [2] := ⟨_, _, rfl, rfl⟩
    have henough := (no_lost_wakeup_of_run hrun).1 (by simp [hline])
    exact ⟨b, events, hrun, hline, henough.1⟩
  · let before : List (BufferEvent Nat) := [.looked 1 .waiting, .looked 2 .waiting,
      .pushed 10 (.ok ()), .looked 1 (.record 10), .pushed 20 (.ok ()), .looked 2 (.record 20)]
    let since : List (BufferEvent Nat) := [.closed, .looked 3 .closed]
    obtain ⟨b, hrun, hsettled, hclosed⟩ : ∃ b : Buffer Nat,
        (empty : Buffer Nat).run pairedPops = some (b, before ++ BufferEvent.looked 3 .waiting ::
          BufferEvent.looked 4 .waiting :: (since ++ [BufferEvent.looked 4 .closed])) ∧
        b.notifier.woken = [] ∧ b.closed = true := ⟨_, rfl, rfl, rfl⟩
    have hlets : (empty : Buffer Nat).Throughout LetsSettle pairedPops := by decide
    have hturn : (empty : Buffer Nat).Throughout InTurn pairedPops := by decide
    obtain ⟨-, habsent, horder⟩ := no_lost_wakeup_of_run hrun
    exact ⟨b, before, since, hrun, settled_iff.mpr hsettled, hclosed,
      habsent (settled_iff.mpr hsettled) (.inr hclosed), hlets, hturn,
      horder hlets before [] since [] 3 4 .closed rfl (by simp) (.inr hturn)⟩

end Buffer

end MetricIngest
