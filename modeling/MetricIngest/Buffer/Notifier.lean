/-
  Waking those who wait for a record.

  Waiters stand in a line, the oldest first. A single signal wakes the oldest
  one; with nobody in the line it is kept as a permit, of which there is at most
  one, for the next who wants to wait. A signal to all wakes the whole line and
  leaves no permit. A waiter that was woken by a single signal and leaves without
  having looked passes the signal on.
-/

namespace MetricIngest

/-- Those who wait, by number, and those who were woken but have not looked yet. -/
structure Notifier where
  permit : Bool
  waiting : List Nat
  woken : List (Nat × Bool)
deriving Repr, DecidableEq, Inhabited

namespace Notifier

/-- Nobody waits and there is no permit. -/
def idle : Notifier := ⟨false, [], []⟩

/-- A single signal. Who it wakes is marked as woken by a single signal. -/
def signal (n : Notifier) : Notifier :=
  match n.waiting with
  | [] => { n with permit := true }
  | id :: rest => { n with waiting := rest, woken := n.woken ++ [(id, true)] }

/-- A signal to all who wait. -/
def signalAll (n : Notifier) : Notifier :=
  { n with waiting := [], woken := n.woken ++ n.waiting.map fun id => (id, false) }

/-- Use up the permit. -/
def usePermit (n : Notifier) : Notifier := { n with permit := false }

/-- Stand in the line behind all others. -/
def enter (n : Notifier) (id : Nat) : Notifier := { n with waiting := n.waiting ++ [id] }

/-- Whether a waiter was woken and has not looked yet. -/
def isWoken (n : Notifier) (id : Nat) : Bool := n.woken.any fun w => w.1 = id

/-- Take note of having been woken. -/
def acknowledge (n : Notifier) (id : Nat) : Notifier :=
  { n with woken := n.woken.filter fun w => w.1 ≠ id }

/-- Leave without having looked. -/
def leave (n : Notifier) (id : Nat) : Notifier :=
  let passOn := n.woken.any fun w => w = (id, true)
  let left := { n.acknowledge id with waiting := n.waiting.filter (· ≠ id) }
  if passOn then left.signal else left

/-- Who neither waits nor was woken. -/
def Absent (n : Notifier) (id : Nat) : Prop := id ∉ n.waiting ∧ n.isWoken id = false

instance (n : Notifier) (id : Nat) : Decidable (n.Absent id) :=
  inferInstanceAs (Decidable (_ ∧ _))

variable {n : Notifier} {id : Nat}

/-- A signal wakes only one who waits. -/
theorem Absent.signal (h : n.Absent id) : n.signal.Absent id := by
  obtain ⟨hwaiting, hwoken⟩ := h
  unfold Notifier.signal
  split
  · exact ⟨hwaiting, hwoken⟩
  · rename_i oldest rest heq
    rw [heq, List.mem_cons, not_or] at hwaiting
    refine ⟨hwaiting.2, ?_⟩
    simpa [isWoken, Ne.symm hwaiting.1] using hwoken

/-- What holds of those who stay, and is kept by a signal, holds when one has left. -/
theorem leave_induction {motive : Notifier → Prop}
    (hsignal : ∀ {m : Notifier}, motive m → motive m.signal)
    (hleft : motive { n.acknowledge id with waiting := n.waiting.filter (· ≠ id) }) :
    motive (n.leave id) := by
  unfold leave
  dsimp only
  split
  · exact hsignal hleft
  · exact hleft

/-- Who leaves is absent, even if a signal was meant for it, which goes to the next one. -/
theorem absent_leave (n : Notifier) (id : Nat) : (n.leave id).Absent id :=
  leave_induction (motive := (·.Absent id)) (·.signal) (by simp [Absent, isWoken, acknowledge])

/-- Nobody comes to wait by a signal. -/
theorem waiting_signal (h : n.waiting = []) : n.signal.waiting = [] := by
  simp [Notifier.signal, h]

/-- Nobody comes to wait by another one's leaving. -/
theorem waiting_leave (h : n.waiting = []) : (n.leave id).waiting = [] :=
  leave_induction (motive := (·.waiting = [])) waiting_signal (by simp [h])

end Notifier

end MetricIngest
