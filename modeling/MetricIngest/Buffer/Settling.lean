/-
  A buffer that comes to rest between calls.

  A pop that was woken looks again when its turn comes. Once every pop that was woken has
  looked, the buffer is settled, and nothing happens until somebody calls. A run settles
  after each call if nobody calls before that but the pops that were woken, and these look
  in turn if each of them is the one that was woken first.
-/
import MetricIngest.Buffer.Calls

namespace MetricIngest

variable {α : Type}

/-- Those who wait, the ones that were woken and have not looked yet before the others. -/
def Notifier.present (n : Notifier) : List Nat := n.woken.map (·.1) ++ n.waiting

/-- Whether a pop is over with an event: it has its answer or is abandoned. -/
def BufferEvent.Ends (id : Nat) : BufferEvent α → Prop
  | .looked i (.record _) => i = id
  | .looked i .closed => i = id
  | .cancelled i => i = id
  | _ => False

namespace Buffer

/-- Whether no pop that waits gets anywhere by looking again. -/
def Settled (b : Buffer α) : Prop :=
  ∀ id after event, b.step (.poll id) = some (after, event) → after = b

/-- Whether a call leaves pops that were woken the time to look: it is such a look itself, or
it comes when the buffer is settled. -/
def LetsSettle (b : Buffer α) : BufferCall α → Prop
  | .poll id => b.notifier.isWoken id = true
  | _ => b.Settled

/-- Whether a call, if it is a look of a pop that waits, is that of the pop woken first. -/
def InTurn (b : Buffer α) : BufferCall α → Prop
  | .poll id => b.notifier.woken.head?.map (·.1) = some id
  | _ => True

/-- Whether each call of a run is as `p` says of the buffer at that time. -/
def Throughout (p : Buffer α → BufferCall α → Prop) (b : Buffer α) :
    List (BufferCall α) → Prop
  | [] => True
  | call :: calls =>
    p b call ∧ ∀ after event, b.step call = some (after, event) → after.Throughout p calls

end Buffer

end MetricIngest
