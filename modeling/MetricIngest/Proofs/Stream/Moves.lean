/-
  What a single step of a stream can do.

  `LineStream.Move` lists the ways in which a step can go, each with what it needs and
  what it leaves, and `move_of_step` says that there are no others. A law about steps is
  proved by cases on the move and a law about runs by induction with `run_cons`, so nothing
  else opens `LineStream.step`.
-/
import MetricIngest.Stream.History

namespace MetricIngest

/-! ### Sending -/

namespace Outlet

variable {β : Type} {o o' : Outlet β} {capacity : Nat} {b : β} {delivered : Bool}

/-- What is sent to a receiver stands behind all that was sent to it; without a receiver
nothing happens. -/
theorem send_eq_some (h : o.send capacity b = some (delivered, o')) :
    (delivered = true ∧ o.isOpen = true ∧ o.queue.length < capacity ∧
        o' = { o with queue := o.queue ++ [b] }) ∨
      (delivered = false ∧ o.isOpen = false ∧ o' = o) := by
  unfold send at h
  split at h
  · rename_i hclosed
    simp only [Option.some.injEq, Prod.mk.injEq] at h
    exact Or.inr ⟨h.1.symm, by simpa using hclosed, h.2.symm⟩
  · rename_i hopen
    split at h
    · rename_i room
      simp only [Option.some.injEq, Prod.mk.injEq] at h
      exact Or.inl ⟨h.1.symm, by simpa using hopen, room, h.2.symm⟩
    · cases h

/-- A receiver takes the oldest of what was sent to it. -/
theorem receive_eq_some (h : o.receive = some o') :
    o.isOpen = true ∧ ∃ b, o.queue = b :: o'.queue ∧ o'.received = o.received ++ [b] ∧
      o'.isOpen = true := by
  unfold receive at h
  split at h
  · cases h
  · rename_i b rest hqueue
    split at h
    · rename_i hopen
      simp only [Option.some.injEq] at h
      subst h
      exact ⟨hopen, b, hqueue, rfl, hopen⟩
    · cases h

end Outlet

namespace LineStream

/-! ### The moves -/

/-- The ways in which a step can go: what a way needs, the state that it leaves, the line that
it takes from the queue, and the result that it sends. -/
inductive Move (s : LineStream) :
    StreamStep → LineStream → List Taking → List Sending → Prop where
  /-- The reader notices that the stream is cancelled. -/
  | stop (place : s.reader ≠ .gone) (hc : s.cancelled = true) :
    Move s .read { s with reader := .gone } [] []
  /-- The reader finds the end of a line in what has arrived. -/
  | cut {part found rest} (place : s.reader = .reading part) (hc : s.cancelled = false)
    (hfound : Text.newline ∉ found) (hbuffered : s.buffered = found ++ Text.newline :: rest) :
    Move s .read { s with buffered := rest, reader := .sending (part ++ found) } [] []
  /-- The reader finds none and gets the next piece of the input. -/
  | fetch {part piece pieces} (place : s.reader = .reading part) (hc : s.cancelled = false)
    (hbuffered : Text.newline ∉ s.buffered) (hpieces : s.pieces = piece :: pieces) :
    Move s .read
      { s with pieces, buffered := piece, reader := .reading (part ++ s.buffered) } [] []
  /-- The reader finds none, and what it has is the last line. -/
  | lastLine {part} (place : s.reader = .reading part) (hc : s.cancelled = false)
    (hbuffered : Text.newline ∉ s.buffered) (hpieces : s.pieces = []) (hf : s.fails = false)
    (hpart : part ++ s.buffered ≠ []) :
    Move s .read { s with buffered := [], reader := .sending (part ++ s.buffered) } [] []
  /-- The reader finds none, and what it has is no line. -/
  | inputEnds {part} (place : s.reader = .reading part) (hc : s.cancelled = false)
    (hbuffered : Text.newline ∉ s.buffered) (hpieces : s.pieces = [])
    (hpart : s.fails = true ∨ part ++ s.buffered = []) :
    Move s .read { s with buffered := [], reader := .gone } [] []
  /-- The reader puts its line into the queue. -/
  | enqueue {line} (place : s.reader = .sending line) (hc : s.cancelled = false)
    (room : s.lines.length < s.settings.lineCapacity) :
    Move s .read { s with
      lines := s.lines ++ [line]
      reader := .reading []
      summary := { s.summary with lines := s.summary.lines + 1 } } [] []
  /-- The reader finds nobody who would take its line. -/
  | loseLine {line} (place : s.reader = .sending line) (hc : s.cancelled = false)
    (hgone : s.allGone = true) : Move s .read { s with reader := .gone } [] []
  /-- A worker takes a line of neither form. -/
  | pass {i now line lines} (place : s.workers[i]? = some .idle) (hlines : s.lines = line :: lines)
    (hresult : s.decoder.decodeBytes now line = none) :
    Move s (.work i now) { s with
      lines
      summary := { s.summary with dropped := s.summary.dropped + 1 } } [⟨now, line⟩] []
  /-- A worker takes a line and decodes it. -/
  | decode {i now line lines result} (place : s.workers[i]? = some .idle)
    (hlines : s.lines = line :: lines)
    (hresult : s.decoder.decodeBytes now line = some result) :
    Move s (.work i now) ({ s with lines }.setWorker i (.holding result)) [⟨now, line⟩] []
  /-- A worker learns that no line will come. -/
  | leave {i now} (place : s.workers[i]? = some .idle) (hlines : s.lines = [])
    (hreader : s.reader = .gone) : Move s (.work i now) (s.setWorker i .gone) [] []
  /-- A worker sends a record. -/
  | sendRecord {i now r} (place : s.workers[i]? = some (.holding (.ok r)))
    (hopen : s.records.isOpen = true)
    (room : s.records.queue.length < s.settings.outputCapacity) :
    Move s (.work i now) ({ s with
      records := { s.records with queue := s.records.queue ++ [r] }
      summary := { s.summary with records := s.summary.records + 1 } }.setWorker i .idle) []
      [⟨.ok r, true⟩]
  /-- A worker sends a fault. -/
  | sendError {i now e} (place : s.workers[i]? = some (.holding (.error e)))
    (hopen : s.errors.isOpen = true)
    (room : s.errors.queue.length < s.settings.outputCapacity) :
    Move s (.work i now) ({ s with
      errors := { s.errors with queue := s.errors.queue ++ [e] }
      summary := { s.summary with errors := s.summary.errors + 1 } }.setWorker i .idle) []
      [⟨.error e, true⟩]
  /-- A worker finds nobody who would receive a record. -/
  | loseRecord {i now r} (place : s.workers[i]? = some (.holding (.ok r)))
    (hclosed : s.records.isOpen = false) :
    Move s (.work i now)
      ({ s with summary := countUndelivered s.summary }.setWorker i .idle) [] [⟨.ok r, false⟩]
  /-- A worker finds nobody who would receive a fault. -/
  | loseError {i now e} (place : s.workers[i]? = some (.holding (.error e)))
    (hclosed : s.errors.isOpen = false) :
    Move s (.work i now)
      ({ s with summary := countUndelivered s.summary }.setWorker i .idle) [] [⟨.error e, false⟩]
  /-- The receiver of records takes one. -/
  | receiveRecord {records} (h : s.records.receive = some records) :
    Move s .receiveRecord { s with records } [] []
  /-- The receiver of faults takes one. -/
  | receiveError {errors} (h : s.errors.receive = some errors) :
    Move s .receiveError { s with errors } [] []
  /-- The receiver of records leaves. -/
  | dropRecords : Move s .dropRecords { s with records := s.records.drop } [] []
  /-- The receiver of faults leaves. -/
  | dropErrors : Move s .dropErrors { s with errors := s.errors.drop } [] []
  /-- The stream is cancelled. -/
  | cancel : Move s .cancel { s with cancelled := true } [] []

variable {s s' : LineStream} {next : StreamStep} {steps : List StreamStep} {past log : List Taking}
  {out : List Sending} {i : Nat} {now : Timestamp}

/-- The bytes before the first line feed hold none. -/
theorem newline_notMem_takeWhile (bytes : List UInt8) :
    Text.newline ∉ bytes.takeWhile (· ≠ Text.newline) := by
  intro hmem
  have hne := List.all_eq_true.mp List.all_takeWhile _ hmem
  simp at hne

/-- Within a line the reader cuts it off, gets more, or comes to the end of the input. -/
theorem move_of_readOn {part : List UInt8} (place : s.reader = .reading part)
    (hc : s.cancelled = false) : Move s .read (s.readOn part) [] [] := by
  have happend := List.takeWhile_append_dropWhile (p := (· ≠ Text.newline)) (l := s.buffered)
  have hfound := newline_notMem_takeWhile s.buffered
  unfold readOn
  dsimp only
  split
  · rename_i b rest hdrop
    have hb : b = Text.newline := by
      have hhead := List.head?_dropWhile_not (fun b => decide (b ≠ Text.newline)) s.buffered
      rw [hdrop] at hhead
      simpa using hhead
    rw [hdrop, hb] at happend
    exact .cut place hc hfound happend.symm
  · rename_i hdrop
    -- No line feed has arrived, so what was found is all there is.
    rw [hdrop, List.append_nil] at happend
    rw [happend] at hfound ⊢
    split
    · exact .fetch place hc hfound ‹_›
    · rename_i hpieces
      split
      · exact .inputEnds place hc hfound hpieces ‹_›
      · rename_i hpart
        simp only [not_or, Bool.not_eq_true] at hpart
        exact .lastLine place hc hfound hpieces hpart.1 hpart.2

theorem move_of_read (h : s.read = some s') : Move s .read s' [] [] := by
  unfold read at h
  split at h
  · cases h
  · rename_i part place
    split at h
    · cases h
      exact .stop (by simp [place]) ‹_›
    · cases h
      exact move_of_readOn place (by simpa using ‹¬ s.cancelled = true›)
  · rename_i line place
    cases hc : s.cancelled with
    | true =>
      rw [if_pos (Or.inl hc)] at h
      cases h
      exact .stop (by simp [place]) hc
    | false =>
      split at h
      · rename_i hleaves
        cases h
        exact .loseLine place hc (by simpa [hc] using hleaves)
      · split at h
        · cases h
          exact .enqueue place hc ‹_›
        · cases h

/-- A worker sends what it has in hand to its receiver, or to nobody. -/
theorem move_of_sendResult {result : Except DecodeError Record}
    (place : s.workers[i]? = some (.holding result)) (h : s.sendResult i result = some s') :
    Move s (.work i now) s' [] [⟨result, s.hasReceiver (.of result)⟩] := by
  cases result with
  | ok r =>
    obtain ⟨⟨delivered, records⟩, hsend, rfl⟩ := Option.map_eq_some_iff.mp h
    obtain ⟨rfl, hopen, room, rfl⟩ | ⟨rfl, hclosed, rfl⟩ := Outlet.send_eq_some hsend
    · have hreceiver : s.hasReceiver (.of (.ok r)) = true := hopen
      rw [hreceiver]
      exact .sendRecord place hopen room
    · have hreceiver : s.hasReceiver (.of (.ok r)) = false := hclosed
      rw [hreceiver]
      exact .loseRecord place hclosed
  | error e =>
    obtain ⟨⟨delivered, errors⟩, hsend, rfl⟩ := Option.map_eq_some_iff.mp h
    obtain ⟨rfl, hopen, room, rfl⟩ | ⟨rfl, hclosed, rfl⟩ := Outlet.send_eq_some hsend
    · have hreceiver : s.hasReceiver (.of (.error e)) = true := hopen
      rw [hreceiver]
      exact .sendError place hopen room
    · have hreceiver : s.hasReceiver (.of (.error e)) = false := hclosed
      rw [hreceiver]
      exact .loseError place hclosed

theorem move_of_work (h : s.work i now = some s') :
    Move s (.work i now) s' (s.taking? (.work i now)).toList
      (s.sending? (.work i now)).toList := by
  unfold work at h
  split at h
  · rename_i place
    have hsending : s.sending? (.work i now) = none := by simp [sending?, place]
    rw [hsending, Option.toList_none]
    split at h
    · rename_i line lines hlines
      have htaking : s.taking? (.work i now) = some ⟨now, line⟩ := by
        simp [taking?, place, hlines]
      rw [htaking, Option.toList_some]
      simp only [Option.some.injEq, decodeLine] at h
      subst h
      split
      · exact .pass place hlines ‹_›
      · exact .decode place hlines ‹_›
    · rename_i hlines hreader
      cases h
      have hleave : Move s (.work i now) (s.setWorker i .gone) [] [] := .leave place hlines hreader
      simpa [taking?, place, hlines] using hleave
    · cases h
  · rename_i result place
    have hsend : Move s (.work i now) s' [] _ := move_of_sendResult place h
    simpa [taking?, sending?, place] using hsend
  · cases h

/-- **No step goes in another way** than the moves. -/
theorem move_of_step (h : s.step next = some s') :
    Move s next s' (s.taking? next).toList (s.sending? next).toList := by
  cases next with
  | read => exact move_of_read h
  | work i now => exact move_of_work h
  | receiveRecord =>
    obtain ⟨records, hreceive, rfl⟩ := Option.map_eq_some_iff.mp h
    exact .receiveRecord hreceive
  | receiveError =>
    obtain ⟨errors, hreceive, rfl⟩ := Option.map_eq_some_iff.mp h
    exact .receiveError hreceive
  | dropRecords =>
    cases h
    exact .dropRecords
  | dropErrors =>
    cases h
    exact .dropErrors
  | cancel =>
    cases h
    exact .cancel

/-! ### Runs -/

/-- A run that begins with a step is that step and the rest of the run. -/
theorem run_cons (h : s.run (next :: steps) = some s') :
    ∃ between taken out, Move s next between taken out ∧ between.run steps = some s' ∧
      s.takings (next :: steps) = taken ++ between.takings steps ∧
      s.sendings (next :: steps) = out ++ between.sendings steps := by
  obtain ⟨between, hstep, hrest⟩ := Option.bind_eq_some_iff.mp h
  exact ⟨between, _, _, move_of_step hstep, hrest, by simp [takings, hstep],
    by simp [sendings, hstep]⟩

end LineStream

end MetricIngest
