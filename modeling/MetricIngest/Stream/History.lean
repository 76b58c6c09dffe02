/-
  What has happened at a stream, and what it has in hand.

  The history of a stream is the list of the lines that its workers took from the
  queue, each with the time that the clock showed then, and the list of the results
  that they sent, each to its receiver or to nobody. A line of the input that was not
  taken is in the queue or still to be read; a result that was not sent is with a
  worker.
-/
import MetricIngest.Stream.Basic

namespace MetricIngest

/-- A line that a worker took from the queue, and the time at which it did. -/
structure Taking where
  time : Timestamp
  line : List UInt8
deriving Repr, DecidableEq

namespace Decoder

/-- What the lines give that were taken; a line of neither form gives nothing. -/
def results (d : Decoder) (past : List Taking) : List (Except DecodeError Record) :=
  past.filterMap fun t => d.decodeBytes t.time t.line

/-- The lines that give nothing. -/
def unreadable (d : Decoder) (past : List Taking) : List Taking :=
  past.filter fun t => (d.decodeBytes t.time t.line).isNone

variable (d : Decoder) (p q : List Taking)

@[simp]
theorem results_nil : d.results [] = [] := rfl

@[simp]
theorem results_append : d.results (p ++ q) = d.results p ++ d.results q := List.filterMap_append

@[simp]
theorem unreadable_nil : d.unreadable [] = [] := rfl

@[simp]
theorem unreadable_append : d.unreadable (p ++ q) = d.unreadable p ++ d.unreadable q :=
  List.filter_append p q

end Decoder

/-! ### Kinds of result -/

/-- The kinds of result, each of which has a receiver of its own. -/
inductive ResultKind where
  | record
  | fault
deriving Repr, DecidableEq

namespace ResultKind

/-- The other kind. -/
def other : ResultKind → ResultKind
  | .record => .fault
  | .fault => .record

/-- The kind of a result. -/
def of : Except DecodeError Record → ResultKind
  | .ok _ => .record
  | .error _ => .fault

/-- The step with which the receiver of a kind leaves. -/
def drop : ResultKind → StreamStep
  | .record => .dropRecords
  | .fault => .dropErrors

/-- The results of a kind. -/
def among (k : ResultKind) (results : List (Except DecodeError Record)) :
    List (Except DecodeError Record) :=
  results.filter fun result => of result = k

variable (k : ResultKind) (l m : List (Except DecodeError Record))

@[simp]
theorem among_nil : k.among [] = [] := rfl

@[simp]
theorem among_append : k.among (l ++ m) = k.among l ++ k.among m := List.filter_append l m

end ResultKind

/-- The counter of the results of a kind. -/
def DecodeSummary.delivered (m : DecodeSummary) : ResultKind → Nat
  | .record => m.records
  | .fault => m.errors

/-- A result that a worker sent, and whether there was somebody who would receive it. -/
structure Sending where
  result : Except DecodeError Record
  hasReceiver : Bool

namespace Sending

/-- The results that were sent to a receiver, or those that were sent to nobody. -/
def outcome (hasReceiver : Bool) (past : List Sending) : List (Except DecodeError Record) :=
  (past.filter (·.hasReceiver = hasReceiver)).map Sending.result

/-- The results that were put into a channel. -/
def delivered (past : List Sending) : List (Except DecodeError Record) := outcome true past

/-- The results of which nobody was there to receive them. -/
def undelivered (past : List Sending) : List (Except DecodeError Record) := outcome false past

variable (p q : List Sending)

theorem outcome_append (b : Bool) : outcome b (p ++ q) = outcome b p ++ outcome b q := by
  simp [outcome]

@[simp]
theorem delivered_append : delivered (p ++ q) = delivered p ++ delivered q :=
  outcome_append p q true

@[simp]
theorem undelivered_append : undelivered (p ++ q) = undelivered p ++ undelivered q :=
  outcome_append p q false

end Sending

/-! ### What is in hand -/

/-- All that was sent to a receiver while there was one. -/
def Outlet.sent {β : Type} (o : Outlet β) : List β := o.received ++ o.queue

/-- The result that a worker has in hand. -/
def DecodeWorker.held : DecodeWorker → List (Except DecodeError Record)
  | .holding result => [result]
  | _ => []

namespace LineStream

/-- The lines that the reader has still to put into the queue. -/
def unread (s : LineStream) : List (List UInt8) :=
  match s.reader with
  | .reading part => Text.readLines s.fails (part ++ s.buffered ++ s.pieces.flatten)
  | .sending line => line :: Text.readLines s.fails (s.buffered ++ s.pieces.flatten)
  | .gone => []

/-- The results that workers have in hand. -/
def held (s : LineStream) : List (Except DecodeError Record) :=
  s.workers.flatMap DecodeWorker.held

/-- Whether there is a receiver for a kind of result. -/
def hasReceiver (s : LineStream) : ResultKind → Bool
  | .record => s.records.isOpen
  | .fault => s.errors.isOpen

/-- The results of a kind that its receiver has taken. -/
def received (s : LineStream) : ResultKind → List (Except DecodeError Record)
  | .record => s.records.received.map .ok
  | .fault => s.errors.received.map .error

/-- The results of a kind that its receiver has taken or will find in its channel. -/
def sent (s : LineStream) : ResultKind → List (Except DecodeError Record)
  | .record => s.records.sent.map .ok
  | .fault => s.errors.sent.map .error

/-! ### What happens in a run -/

/-- The line that a step takes from the queue, if it takes one. -/
def taking? (s : LineStream) : StreamStep → Option Taking
  | .work i now =>
    match s.workers[i]?, s.lines with
    | some .idle, line :: _ => some ⟨now, line⟩
    | _, _ => none
  | _ => none

/-- The lines that a run of steps takes from the queue. -/
def takings (s : LineStream) : List StreamStep → List Taking
  | [] => []
  | next :: steps =>
    match s.step next with
    | none => []
    | some s' => (s.taking? next).toList ++ s'.takings steps

/-- The result that a step sends, if it sends one. -/
def sending? (s : LineStream) : StreamStep → Option Sending
  | .work i _ =>
    match s.workers[i]? with
    | some (.holding result) => some ⟨result, s.hasReceiver (.of result)⟩
    | _ => none
  | _ => none

/-- The results that a run of steps sends. -/
def sendings (s : LineStream) : List StreamStep → List Sending
  | [] => []
  | next :: steps =>
    match s.step next with
    | none => []
    | some s' => (s.sending? next).toList ++ s'.sendings steps

end LineStream

end MetricIngest
