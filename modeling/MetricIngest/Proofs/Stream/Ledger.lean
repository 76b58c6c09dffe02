/-
  What every run of a stream keeps.

  `LineStream.Sound` is what holds of each state that a start can come to, and
  `LineStream.Passed` says what happened between two states: while nobody cancels the stream
  each line of the input is taken from the queue in its turn, what a line gives is sent or in
  hand, what is sent is put into its channel if there is a receiver, and the counters follow.
  `passed_of_run` proves both of all runs from a sound state, move by move; `sound_start` says
  that streams start in one.
-/
import MetricIngest.Proofs.Lists
import MetricIngest.Proofs.Stream.Moves

namespace MetricIngest

open ListFacts Decoder Sending

/-- A step that cuts nothing short: it does not cancel the stream, and no receiver leaves. -/
def StreamStep.isSteady : StreamStep → Bool
  | .cancel | .dropRecords | .dropErrors => false
  | _ => true

/-! ### What was sent -/

namespace ResultKind

variable (k : ResultKind) (l : List (Except DecodeError Record))

/-- Each result is of one kind or of the other. -/
theorem length_among_add : (k.among l).length + (k.other.among l).length = l.length := by
  have hother : k.other.among l = l.filter fun result => !decide (of result = k) := by
    refine List.filter_congr fun result _ => ?_
    cases result <;> cases k <;> rfl
  rw [hother]
  exact (List.length_eq_length_filter_add _).symm

theorem map_record? : (l.filterMap record?).map .ok = record.among l := by
  induction l with
  | nil => rfl
  | cons result l ih =>
    cases result with
    | ok r => exact congrArg (Except.ok r :: ·) ih
    | error e => exact ih

theorem map_fault? : (l.filterMap fault?).map .error = fault.among l := by
  induction l with
  | nil => rfl
  | cons result l ih =>
    cases result with
    | ok r => exact ih
    | error e => exact congrArg (Except.error e :: ·) ih

end ResultKind

namespace Sending

variable {past : List Sending}

/-- Each result that was sent was put into a channel or was not. -/
theorem length_delivered_add (past : List Sending) :
    (delivered past).length + (undelivered past).length = past.length := by
  have hnone : past.filter (·.hasReceiver = false) =
      past.filter fun t => !decide (t.hasReceiver = true) := by
    refine List.filter_congr fun t _ => ?_
    cases t.hasReceiver <;> rfl
  rw [delivered, undelivered, outcome, outcome, List.length_map, List.length_map, hnone]
  exact (List.length_eq_length_filter_add _).symm

/-- Of results that all came to a receiver, or all did not, those are all there is. -/
theorem filter_outcome {b : Bool} (p : Except DecodeError Record → Bool)
    (h : ∀ t ∈ past, p t.result = true → t.hasReceiver = b) :
    (outcome b past).filter p = (past.map Sending.result).filter p ∧
      (outcome (!b) past).filter p = [] := by
  rw [outcome, outcome, List.filter_map, List.filter_map, List.filter_map, List.filter_filter]
  constructor
  · congr 1
    refine List.filter_congr fun t ht => ?_
    cases hp : p t.result with
    | true => simp [hp, h t ht hp]
    | false => simp [hp]
  · simp only [List.map_eq_nil_iff, List.filter_eq_nil_iff, List.mem_filter, decide_eq_true_eq]
    intro t ht hp
    simp [h t ht.1 hp] at ht

end Sending

/-! ### Channels -/

namespace Outlet

variable {β : Type} {o o' o'' : Outlet β} {put put' : List β} {b : β}

/-- **How a channel moves** into which these are put: all that was sent stays in its order
while there is a receiver, which takes it from the beginning, and none comes back. -/
structure Conveys (o : Outlet β) (put : List β) (o' : Outlet β) : Prop where
  isOpen : o'.isOpen = true → o.isOpen = true
  sent : o'.isOpen = true → o'.sent = o.sent ++ put
  left : o.isOpen = false → o'.received = o.received
  received : o'.received <+: o.sent ++ put

theorem Conveys.refl (o : Outlet β) : o.Conveys [] o where
  isOpen := id
  sent := fun _ => (List.append_nil _).symm
  left := fun _ => rfl
  received := by
    rw [List.append_nil]
    exact List.prefix_append _ _

theorem Conveys.trans (h : o.Conveys put o') (h' : o'.Conveys put' o'') :
    o.Conveys (put ++ put') o'' where
  isOpen := fun hopen => h.isOpen (h'.isOpen hopen)
  sent := fun hopen => by rw [h'.sent hopen, h.sent (h'.isOpen hopen), List.append_assoc]
  left := fun hleft => by
    have hleft' : o'.isOpen = false := by
      rw [← Bool.not_eq_true] at hleft ⊢
      exact fun hopen => hleft (h.isOpen hopen)
    rw [h'.left hleft', h.left hleft]
  received := by
    rw [← List.append_assoc]
    cases hopen : o'.isOpen with
    | true =>
      rw [← h.sent hopen]
      exact h'.received
    | false =>
      rw [h'.left hopen]
      exact h.received.trans (List.prefix_append _ _)

/-- One that is sent stands behind all that was sent before. -/
theorem conveys_send (b : β) (hopen : o.isOpen = true) :
    o.Conveys [b] { o with queue := o.queue ++ [b] } where
  isOpen := fun _ => hopen
  sent := fun _ => (List.append_assoc _ _ _).symm
  left := fun _ => rfl
  received := by
    rw [Outlet.sent, List.append_assoc]
    exact List.prefix_append _ _

/-- What a receiver takes was sent to it before. -/
theorem conveys_receive (h : o.receive = some o') : o.Conveys [] o' := by
  obtain ⟨hopen, b, hqueue, hreceived, _⟩ := receive_eq_some h
  have hsent : o'.sent = o.sent := by
    rw [Outlet.sent, Outlet.sent, hqueue, hreceived, List.append_assoc]
    rfl
  refine ⟨fun _ => hopen, fun _ => by rw [hsent, List.append_nil], by simp [hopen], ?_⟩
  rw [List.append_nil, ← hsent]
  exact List.prefix_append _ _

/-- A receiver that leaves takes nothing more. -/
theorem conveys_drop (o : Outlet β) : o.Conveys [] o.drop where
  isOpen := by simp [drop]
  sent := by simp [drop]
  left := fun _ => rfl
  received := (Conveys.refl o).received

end Outlet

namespace LineStream

variable {s s' s'' : LineStream} {next : StreamStep} {steps : List StreamStep}
  {log more : List Taking} {out others : List Sending} {i : Nat} {k : ResultKind}

/-! ### Sound states -/

/-- **What holds of every state** that a start can come to. What the reader has of a line
holds no line feed. There are workers, and one is gone only if no line will come. -/
structure Sound (s : LineStream) : Prop where
  part : ∀ part, s.reader = .reading part → Text.newline ∉ part
  staffed : s.workers ≠ []
  exits : .gone ∈ s.workers → s.reader = .gone ∧ s.lines = []

theorem sound_start (decoder : Decoder) (settings : Settings.Decoding)
    (pieces : List (List UInt8)) (fails cancelled : Bool) :
    (start decoder settings pieces fails cancelled).Sound where
  part := by
    intro part h
    obtain rfl : [] = part := by simpa [start] using h
    exact List.not_mem_nil
  staffed := by
    simp only [start, Settings.Decoding.poolSize, ne_eq, List.replicate_eq_nil_iff]
    omega
  exits := by simp [start]

/-- Where every worker is gone one is. -/
theorem gone_mem_of_allGone (hstaffed : s.workers ≠ []) (h : s.allGone = true) :
    .gone ∈ s.workers := by
  obtain ⟨place, hplace⟩ := List.exists_mem_of_ne_nil _ hstaffed
  have hgone := List.all_eq_true.mp h place hplace
  cases place with
  | gone => exact hplace
  | _ => cases hgone

/-- **The queue is there as long as the reader is**, so the reader never gives up a line. -/
theorem Sound.allGone_eq_false (hs : s.Sound) (h : s.reader ≠ .gone) : s.allGone = false := by
  rw [← Bool.not_eq_true]
  exact fun hgone => h (hs.exits (gone_mem_of_allGone hs.staffed hgone)).1

/-- A worker that stays leaves those that are gone as they were. -/
theorem gone_mem_of_set {place : DecodeWorker} (h : .gone ∈ s.workers.set i place)
    (hne : place ≠ .gone) : .gone ∈ s.workers := by
  rcases List.mem_or_eq_of_mem_set h with hmem | heq
  · exact hmem
  · exact absurd heq.symm hne

/-- **Moves keep soundness.** -/
theorem Sound.move (hs : s.Sound) (h : Move s next s' log out) : s'.Sound := by
  obtain ⟨hpart, hstaffed, hexits⟩ := hs
  have hset : ∀ {i : Nat} {place : DecodeWorker}, s.workers.set i place ≠ [] :=
    fun hnil => hstaffed ((List.set_eq_nil_iff _ _).mp hnil)
  cases h with
  | stop place => exact ⟨by simp, hstaffed, fun hgone => absurd (hexits hgone).1 place⟩
  | cut place | lastLine place | inputEnds place | loseLine place =>
    exact ⟨by simp, hstaffed, fun hgone => by simp [(hexits hgone).1] at place⟩
  | fetch place hc hbuffered =>
    refine ⟨?_, hstaffed, fun hgone => by simp [(hexits hgone).1] at place⟩
    rintro part ⟨⟩
    rw [List.mem_append, not_or]
    exact ⟨hpart _ place, hbuffered⟩
  | enqueue place =>
    refine ⟨?_, hstaffed, fun hgone => by simp [(hexits hgone).1] at place⟩
    rintro part ⟨⟩
    exact List.not_mem_nil
  | pass place hlines =>
    exact ⟨hpart, hstaffed, fun hgone => by simp [(hexits hgone).2] at hlines⟩
  | decode place hlines =>
    refine ⟨hpart, hset, fun hgone => ?_⟩
    have hempty := (hexits (gone_mem_of_set hgone (by simp))).2
    simp [hempty] at hlines
  | leave place hlines hreader => exact ⟨hpart, hset, fun _ => ⟨hreader, hlines⟩⟩
  | sendRecord | sendError | loseRecord | loseError =>
    exact ⟨hpart, hset, fun hgone => hexits (gone_mem_of_set hgone (by simp))⟩
  | _ => exact ⟨hpart, hstaffed, hexits⟩

/-! ### What a move keeps -/

/-- **Lines are taken in their turn** while nobody cancels the stream: those that are in the
queue or still to be read are taken, or are there after the move, in the same order. -/
theorem Move.lines_eq (hs : s.Sound) (hlive : s.cancelled = false) (h : Move s next s' log out) :
    s.lines ++ s.unread = log.map Taking.line ++ (s'.lines ++ s'.unread) := by
  cases h with
  | stop place hc => simp [hlive] at hc
  | @cut part found rest place hc hfound hbuffered =>
    -- The line is what the reader had of it and what it found, and holds no line feed.
    have hline : Text.newline ∉ part ++ found := by
      rw [List.mem_append, not_or]
      exact ⟨hs.part part place, hfound⟩
    have hread : s.unread =
        (part ++ found) :: Text.readLines s.fails (rest ++ s.pieces.flatten) := by
      rw [← Text.readLines_append_newline s.fails hline]
      simp [unread, place, hbuffered]
    rw [hread]
    rfl
  | fetch place hc hbuffered hpieces => simp [unread, place, hpieces]
  | @lastLine part place hc hbuffered hpieces hf hpart =>
    -- All that is left of the input is one line that no line feed ends.
    have hline : Text.newline ∉ part ++ s.buffered := by
      rw [List.mem_append, not_or]
      exact ⟨hs.part part place, hbuffered⟩
    simp [unread, place, hpieces, hf, Text.readLines_of_notMem _ hline, hpart,
      Text.readLines_of_notMem]
  | @inputEnds part place hc hbuffered hpieces hpart =>
    have hline : Text.newline ∉ part ++ s.buffered := by
      rw [List.mem_append, not_or]
      exact ⟨hs.part part place, hbuffered⟩
    simp only [unread, place, hpieces, List.flatten_nil, List.append_nil,
      Text.readLines_of_notMem _ hline, hpart, if_true]
    rfl
  | enqueue place => simp [unread, place]
  | loseLine place _ hgone =>
    have hopen := hs.allGone_eq_false (by simp [place])
    simp [hopen] at hgone
  | pass place hlines | decode place hlines => simp [hlines, unread, setWorker]
  | leave place hlines hreader => simp [unread, setWorker, hreader]
  | _ => simp [unread, setWorker]

/-- A worker that goes from one place to another: what it had in hand and got is sent or in
its hand. -/
theorem same_of_worker {old new : DecodeWorker} {put gained : List (Except DecodeError Record)}
    (place : s.workers[i]? = some old) (hworkers : s'.workers = s.workers.set i new)
    (hhand : old.held ++ gained = put ++ new.held) :
    Same (s.workers.length = 1) (s.held ++ gained) (put ++ s'.held) := by
  have hset : Same (s.workers.length = 1) ([] ++ s.held ++ gained)
      ([] ++ put ++ (s.workers.set i new).flatMap DecodeWorker.held) :=
    same_of_set DecodeWorker.held place hhand
  rw [← hworkers] at hset
  exact hset

/-- **What lines give is sent** or in hand, and a worker that is alone keeps its order. -/
theorem Move.results_same (h : Move s next s' log out) :
    Same (s.workers.length = 1) (s.held ++ s.decoder.results log)
      (out.map Sending.result ++ s'.held) := by
  cases h with
  | pass place hlines hresult => exact .of_eq (by simp [results, hresult, held])
  | @decode i now line lines result place hlines hresult =>
    have hgained : s.decoder.results [⟨now, line⟩] = [result] := by simp [results, hresult]
    rw [hgained]
    exact same_of_worker place rfl rfl
  | leave place | sendRecord place | sendError place | loseRecord place | loseError place =>
    exact same_of_worker place rfl rfl
  | _ => exact .of_eq (by simp [held])

/-- **Lines are counted** when they are put into the queue, and those that give nothing when
they are taken from it. -/
theorem Move.counted (h : Move s next s' log out) :
    s'.summary.lines + s.lines.length = s.summary.lines + log.length + s'.lines.length ∧
      s'.summary.dropped = s.summary.dropped + (s.decoder.unreadable log).length := by
  cases h with
  | enqueue =>
    refine ⟨?_, rfl⟩
    simp only [List.length_append, List.length_singleton, List.length_nil]
    omega
  | pass place hlines hresult =>
    refine ⟨?_, by simp [unreadable, hresult]⟩
    simp only [hlines, List.length_cons, List.length_nil]
    omega
  | decode place hlines hresult =>
    refine ⟨?_, by simp [unreadable, hresult, setWorker]⟩
    simp only [setWorker, hlines, List.length_cons, List.length_nil]
    omega
  | _ => simp [setWorker, countUndelivered]

/-- **Results are counted** when they are sent, by their kind if there is a receiver. -/
theorem Move.booked (h : Move s next s' log out) :
    (∀ k, s'.summary.delivered k = s.summary.delivered k + (k.among (delivered out)).length) ∧
      s'.summary.undelivered = s.summary.undelivered + (undelivered out).length := by
  cases h with
  | sendRecord | sendError => exact ⟨fun k => by cases k <;> rfl, rfl⟩
  | loseRecord | loseError => exact ⟨fun k => by cases k <;> rfl, rfl⟩
  | _ => exact ⟨fun k => rfl, rfl⟩

/-- **Channels hold what is sent** while there is a receiver. -/
theorem Move.conveys (h : Move s next s' log out) :
    s.records.Conveys ((delivered out).filterMap record?) s'.records ∧
      s.errors.Conveys ((delivered out).filterMap fault?) s'.errors := by
  cases h with
  | sendRecord place hopen => exact ⟨Outlet.conveys_send _ hopen, .refl _⟩
  | sendError place hopen => exact ⟨.refl _, Outlet.conveys_send _ hopen⟩
  | receiveRecord hreceive => exact ⟨Outlet.conveys_receive hreceive, .refl _⟩
  | receiveError hreceive => exact ⟨.refl _, Outlet.conveys_receive hreceive⟩
  | dropRecords => exact ⟨Outlet.conveys_drop _, .refl _⟩
  | dropErrors => exact ⟨.refl _, Outlet.conveys_drop _⟩
  | _ => exact ⟨.refl _, .refl _⟩

/-- The decoder and the number of workers stay as they are. -/
theorem Move.crew (h : Move s next s' log out) :
    s'.decoder = s.decoder ∧ s'.workers.length = s.workers.length := by
  cases h <;> simp [setWorker]

/-- A stream that is cancelled stays so. -/
theorem Move.live (h : Move s next s' log out) (hlive : s'.cancelled = false) :
    s.cancelled = false := by
  cases h with
  | cancel => cases hlive
  | _ => exact hlive

/-! ### Runs from sound states -/

/-- **What passes between two states** of a run that takes these lines and sends these results:
unless the stream is cancelled each line that was in the queue or to be read was taken or is
still there; what the lines gave was sent or is in hand, and what was sent was put into its
channel if there was a receiver, with a single worker all this in its order. All is counted. -/
structure Passed (s : LineStream) (log : List Taking) (out : List Sending) (s' : LineStream) :
    Prop where
  decoder : s'.decoder = s.decoder
  crew : s'.workers.length = s.workers.length
  live : s'.cancelled = false → s.cancelled = false
  lines : s'.cancelled = false →
    s.lines ++ s.unread = log.map Taking.line ++ (s'.lines ++ s'.unread)
  results : Same (s.workers.length = 1) (s.held ++ s.decoder.results log)
    (out.map Sending.result ++ s'.held)
  records : s.records.Conveys ((delivered out).filterMap record?) s'.records
  errors : s.errors.Conveys ((delivered out).filterMap fault?) s'.errors
  read : s'.summary.lines + s.lines.length = s.summary.lines + log.length + s'.lines.length
  dropped : s'.summary.dropped = s.summary.dropped + (s.decoder.unreadable log).length
  delivered : ∀ k,
    s'.summary.delivered k = s.summary.delivered k + (k.among (delivered out)).length
  undelivered : s'.summary.undelivered = s.summary.undelivered + (undelivered out).length

theorem Passed.refl (s : LineStream) : s.Passed [] [] s where
  decoder := rfl
  crew := rfl
  live := id
  lines := by simp
  results := .of_eq (by simp)
  records := .refl _
  errors := .refl _
  read := rfl
  dropped := rfl
  delivered := fun _ => rfl
  undelivered := rfl

theorem Passed.trans (h : s.Passed log out s') (h' : s'.Passed more others s'') :
    s.Passed (log ++ more) (out ++ others) s'' where
  decoder := h'.decoder.trans h.decoder
  crew := h'.crew.trans h.crew
  live := fun hlive => h.live (h'.live hlive)
  lines := fun hlive => by
    rw [h.lines (h'.live hlive), h'.lines hlive, List.map_append, List.append_assoc]
  results := by
    have hrest := h'.results
    rw [h.crew, h.decoder] at hrest
    rw [results_append, ← List.append_assoc, List.map_append, List.append_assoc (out.map _)]
    refine (h.results.append_right _).trans ?_
    rw [List.append_assoc]
    exact hrest.append_left _
  records := by
    rw [delivered_append, List.filterMap_append]
    exact h.records.trans h'.records
  errors := by
    rw [delivered_append, List.filterMap_append]
    exact h.errors.trans h'.errors
  read := by
    have hfirst := h.read
    have hrest := h'.read
    rw [List.length_append]
    omega
  dropped := by
    rw [h'.dropped, h.dropped, h.decoder, unreadable_append, List.length_append, Nat.add_assoc]
  delivered := fun k => by
    rw [h'.delivered k, h.delivered k, delivered_append, ResultKind.among_append,
      List.length_append, Nat.add_assoc]
  undelivered := by
    rw [h'.undelivered, h.undelivered, undelivered_append, List.length_append, Nat.add_assoc]

theorem Move.passed (hs : s.Sound) (h : Move s next s' log out) : s.Passed log out s' where
  decoder := h.crew.1
  crew := h.crew.2
  live := h.live
  lines := fun hlive => h.lines_eq hs (h.live hlive)
  results := h.results_same
  records := h.conveys.1
  errors := h.conveys.2
  read := h.counted.1
  dropped := h.counted.2
  delivered := h.booked.1
  undelivered := h.booked.2

/-- From a sound state runs lead to sound states, and no line is lost on the way unless the
stream is cancelled. -/
theorem passed_of_run (hs : s.Sound) (h : s.run steps = some s') :
    s'.Sound ∧ s.Passed (s.takings steps) (s.sendings steps) s' := by
  induction steps generalizing s with
  | nil =>
    cases h
    exact ⟨hs, .refl _⟩
  | cons next steps ih =>
    obtain ⟨between, taken, sent, hmove, hrest, htakings, hsendings⟩ := run_cons h
    obtain ⟨hsound, hpassed⟩ := ih (hs.move hmove) hrest
    rw [htakings, hsendings]
    exact ⟨hsound, (hmove.passed hs).trans hpassed⟩

/-- Only cancelling cancels a stream. -/
theorem live_of_run (hlive : s.cancelled = false) (h : s.run steps = some s')
    (hcancel : .cancel ∉ steps) : s'.cancelled = false := by
  induction steps generalizing s with
  | nil =>
    cases h
    exact hlive
  | cons next steps ih =>
    obtain ⟨between, taken, sent, hmove, hrest, _⟩ := run_cons h
    rw [List.mem_cons, not_or] at hcancel
    refine ih ?_ hrest hcancel.2
    cases hmove with
    | cancel => exact absurd rfl hcancel.1
    | _ => exact hlive

/-! ### Runs from the start -/

section Start

variable {decoder : Decoder} {settings : Settings.Decoding} {pieces : List (List UInt8)}
  {fails cancelled : Bool}

/-- No worker has a result in hand at the start. -/
theorem held_start : (start decoder settings pieces fails cancelled).held = [] := by
  simp [start, held, DecodeWorker.held]

/-- Nothing is in a channel at the start. -/
theorem sent_start (k : ResultKind) :
    (start decoder settings pieces fails cancelled).sent k = [] := by
  cases k <;> rfl

variable (hpassed : (start decoder settings pieces fails cancelled).Passed log out s)

include hpassed

/-- The lines that were read were taken or are in the queue. -/
theorem Passed.lines_eq_length : s.summary.lines = log.length + s.lines.length := by
  simpa [start] using hpassed.read

theorem Passed.dropped_eq_length : s.summary.dropped = (decoder.unreadable log).length := by
  simpa [start] using hpassed.dropped

theorem Passed.delivered_eq_length (k : ResultKind) :
    s.summary.delivered k = (k.among (Sending.delivered out)).length := by
  rw [hpassed.delivered k]
  cases k <;> exact Nat.zero_add _

theorem Passed.undelivered_eq_length :
    s.summary.undelivered = (Sending.undelivered out).length := by
  simpa [start] using hpassed.undelivered

/-- What the lines gave was sent or is in hand. -/
theorem Passed.results_eq : Same (settings.poolSize = 1) (decoder.results log)
    (out.map Sending.result ++ s.held) := by
  have hresults := hpassed.results
  rw [held_start, List.nil_append] at hresults
  simpa [start] using hresults

/-- The lines of the input were taken or are still there, unless the stream was cancelled. -/
theorem Passed.input_eq (hlive : s.cancelled = false) :
    Text.readLines fails pieces.flatten = log.map Taking.line ++ (s.lines ++ s.unread) := by
  rw [← hpassed.lines hlive]
  simp [start, unread]

end Start

/-! ### Receivers that stay and receivers that leave -/

/-- A receiver stays until it leaves. -/
theorem Move.hasReceiver (h : Move s next s' log out) (hk : s.hasReceiver k = true)
    (hnext : next ≠ k.drop) : s'.hasReceiver k = true := by
  cases h with
  | receiveRecord hreceive =>
    cases k with
    | record => exact (Outlet.receive_eq_some hreceive).2.choose_spec.2.2
    | fault => exact hk
  | receiveError hreceive =>
    cases k with
    | record => exact hk
    | fault => exact (Outlet.receive_eq_some hreceive).2.choose_spec.2.2
  | dropRecords =>
    cases k with
    | record => exact absurd rfl hnext
    | fault => exact hk
  | dropErrors =>
    cases k with
    | record => exact hk
    | fault => exact absurd rfl hnext
  | _ => exact hk

/-- A receiver that has left does not come back. -/
theorem Move.hasReceiver_eq_false (h : Move s next s' log out) (hk : s.hasReceiver k = false) :
    s'.hasReceiver k = false := by
  rw [← Bool.not_eq_true] at hk ⊢
  cases k with
  | record => exact fun hopen => hk (h.conveys.1.isOpen hopen)
  | fault => exact fun hopen => hk (h.conveys.2.isOpen hopen)

/-- What is sent is sent to the receiver of its kind. -/
theorem Move.hasReceiver_of_mem {t : Sending} (h : Move s next s' log out) (ht : t ∈ out) :
    t.hasReceiver = s.hasReceiver (.of t.result) := by
  cases h with
  | sendRecord place hopen | sendError place hopen =>
    obtain rfl := List.mem_singleton.mp ht
    exact hopen.symm
  | loseRecord place hclosed | loseError place hclosed =>
    obtain rfl := List.mem_singleton.mp ht
    exact hclosed.symm
  | _ => cases ht

/-- **A receiver that stays** gets all results of its kind that are sent. -/
theorem hasReceiver_of_run (hk : s.hasReceiver k = true) (h : s.run steps = some s')
    (hdrop : k.drop ∉ steps) : s'.hasReceiver k = true ∧
      ∀ t ∈ s.sendings steps, ResultKind.of t.result = k → t.hasReceiver = true := by
  induction steps generalizing s with
  | nil =>
    cases h
    exact ⟨hk, by simp [sendings]⟩
  | cons next steps ih =>
    obtain ⟨between, taken, sent, hmove, hrest, _, hsendings⟩ := run_cons h
    rw [List.mem_cons, not_or] at hdrop
    obtain ⟨hend, hall⟩ := ih (hmove.hasReceiver hk (Ne.symm hdrop.1)) hrest hdrop.2
    refine ⟨hend, fun t ht hkind => ?_⟩
    rw [hsendings] at ht
    rcases List.mem_append.mp ht with ht | ht
    · rw [hmove.hasReceiver_of_mem ht, hkind, hk]
    · exact hall t ht hkind

/-- **A receiver that has left** gets none. -/
theorem hasReceiver_eq_false_of_run (hk : s.hasReceiver k = false) (h : s.run steps = some s') :
    ∀ t ∈ s.sendings steps, ResultKind.of t.result = k → t.hasReceiver = false := by
  induction steps generalizing s with
  | nil => simp [sendings]
  | cons next steps ih =>
    obtain ⟨between, taken, sent, hmove, hrest, _, hsendings⟩ := run_cons h
    intro t ht hkind
    rw [hsendings] at ht
    rcases List.mem_append.mp ht with ht | ht
    · rw [hmove.hasReceiver_of_mem ht, hkind, hk]
    · exact ih (hmove.hasReceiver_eq_false hk) hrest t ht hkind

end LineStream

end MetricIngest
