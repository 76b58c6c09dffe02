/-
  A pipeline neither loses, duplicates nor invents a record.

  Once a pipeline that nobody cancelled has a report, the records of the batches that were
  submitted are just those that the lines of the input give, whatever its parts did in
  whatever order; the counts of both parts agree, and the sink is closed. It has an error in place
  of a report only if the clock cannot tell a time that is an interval ahead, and then no
  record was duplicated or invented either.
-/
import MetricIngest.Proofs.Pipeline.Deadlines
import MetricIngest.Proofs.Writer.Accounting

namespace MetricIngest

open History ListFacts

/-- Records and faults make up for all results. -/
theorem Decoder.length_records_add_faults (results : List (Except DecodeError Record)) :
    (results.filterMap record?).length + (results.filterMap fault?).length = results.length := by
  have hkinds := ResultKind.record.length_among_add results
  rw [← ResultKind.map_record?, List.length_map] at hkinds
  rw [← hkinds, ResultKind.other, ← ResultKind.map_fault?, List.length_map]

/-- Each line of a finished stream gave a record, a fault or nothing. -/
theorem LineStream.Finished.lines_eq {decoder : Decoder} {settings : Settings.Decoding}
    {lines : List (List UInt8)} {log : List Taking} {s : LineStream}
    (hf : s.Finished decoder settings lines log) :
    s.summary.lines = s.summary.records + s.summary.errors + s.summary.dropped := by
  have hlog := length_filter_isNone_add (fun t : Taking => decoder.decodeBytes t.time t.line) log
  have hresults := Decoder.length_records_add_faults (decoder.results log)
  have hrecords := hf.records.perm.length_eq
  have herrors := hf.errors.perm.length_eq
  rw [hf.summary]
  simp only [Decoder.results, Decoder.unreadable] at hlog hresults hrecords herrors ⊢
  omega

namespace Pipeline

variable {rules : RuleTable} {settings : Settings} {pieces : List (List UInt8)} {fails : Bool}
  {horizon : Nat} {steps : List PipelineStep} {p : Pipeline} {events : History Record}
  {report : Report} {e : PipelineError}

/-- A pipeline starts with an open buffer. -/
theorem orderly_start (cancelled : Bool) :
    (start rules settings pieces fails cancelled horizon).Orderly := by
  intro hclosed
  simp [start, Writer.start, Buffer.empty] at hclosed

/-- There is a report once the stream has nothing more to give and the writer has ended. -/
theorem result?_eq_ok (h : p.result? = some (.ok report)) : p.isServed = true ∧
    p.writer.final? = some report.writer ∧ report.decode = p.stream.summary := by
  unfold result? at h
  split at h
  · rename_i hserved
    split at h
    · cases h
    · obtain ⟨stats, hfinal, heq⟩ := Option.map_eq_some_iff.mp h
      cases heq
      exact ⟨hserved, hfinal, rfl⟩
  · cases h

/-- There is an error once the stream has nothing more to give and the task of the writer has
failed. -/
theorem result?_eq_error (h : p.result? = some (.error e)) :
    p.isServed = true ∧ p.failed = true := by
  unfold result? at h
  split at h
  · rename_i hserved
    split at h
    · exact ⟨hserved, ‹_›⟩
    · obtain ⟨_, _, heq⟩ := Option.map_eq_some_iff.mp h
      cases heq
  · cases h

/-- The lines that the stream of a pipeline takes in a run, and when. -/
def takings (p : Pipeline) (steps : List PipelineStep) : List Taking :=
  p.stream.takings (steps.filterMap streamStep?)

/-- **A stream that is served** has given all that the lines of the input give, and its records
were pushed into the buffer. -/
theorem finished_of_served
    (h : (start rules settings pieces fails false horizon).run steps = some (p, events))
    (hcancel : .cancel ∉ steps) (hserved : p.isServed = true) :
    p.stream.Finished ⟨rules, settings.decoder.mode⟩ settings.decoder
      (Text.readLines fails pieces.flatten)
      ((start rules settings pieces fails false horizon).takings steps) ∧
    p.stream.records.sent = pushed events := by
  unfold isServed at hserved
  simp only [Bool.and_eq_true, List.isEmpty_iff] at hserved
  obtain ⟨⟨hended, hqueue⟩, _⟩ := hserved
  have hsplit := split_of_run (orderly_start false) h hcancel
  have hsteady : ∀ taken ∈ steps.filterMap streamStep?, taken.isSteady = true := by
    intro taken htaken
    obtain ⟨next, hnext, heq⟩ := List.mem_filterMap.mp htaken
    cases next with
    | cancel => exact absurd hnext hcancel
    | _ => cases heq <;> rfl
  refine ⟨LineStream.finished_of_run hsplit.stream hsteady hended, ?_⟩
  -- What was sent was received, and what was received was pushed.
  rw [Outlet.sent, hqueue, List.append_nil, hsplit.received]
  rfl

/-- A writer that has ended has taken all that the stream sent and submitted it. -/
theorem submitted_perm_sent {stats : WriterStats}
    (h : (start rules settings pieces fails false horizon).run steps = some (p, events))
    (hcancel : .cancel ∉ steps) (hserved : p.isServed = true)
    (hfinal : p.writer.final? = some stats) : popped events = p.stream.records.sent ∧
      ((submitted events).flatMap Batch.records).Perm p.stream.records.sent := by
  obtain ⟨-, hsent⟩ := finished_of_served h hcancel hserved
  obtain ⟨wsteps, hwriter, hwcancel, hwfault⟩ :=
    (split_of_run (orderly_start false) h hcancel).writer
  have hl := Writer.ledger_of_run hwriter
  obtain ⟨hidle, -⟩ := hl.sound.final hfinal
  have hpopped : popped events = p.stream.records.sent :=
    (Writer.popped_of_run hwriter hwcancel hwfault hfinal).2.2.trans hsent.symm
  exact ⟨hpopped, hpopped ▸ hl.submitted_records_perm hidle⟩

/-- Whatever became of the writer, it submitted nothing that the stream did not send, and nothing
more often. -/
theorem submitted_subperm_sent
    (h : (start rules settings pieces fails false horizon).run steps = some (p, events))
    (hcancel : .cancel ∉ steps) (hserved : p.isServed = true) :
    ((submitted events).flatMap Batch.records).Subperm p.stream.records.sent := by
  obtain ⟨-, hsent⟩ := finished_of_served h hcancel hserved
  obtain ⟨wsteps, hwriter, -⟩ := (split_of_run (orderly_start false) h hcancel).writer
  have hl := Writer.ledger_of_run hwriter
  -- What the writer has taken may be in its hands still, and the rest is in the buffer.
  have hbuffer : pushed events = popped events ++ p.writer.buffer.records := hl.buffer
  rw [hsent, hbuffer]
  exact hl.submitted_records_subperm.trans (List.sublist_append_left _ _).subperm

/-- **Conservation.** When a pipeline that nobody cancels has a report, its stream has taken
each line of the input once, in its turn; the records that were submitted, whatever the sink
said, are those that the lines gave at the times at which they were taken, each as often;
no batch was submitted twice. All records that the stream counts were taken from the buffer
and are settled, nothing was left undelivered, each line is counted once by what it gave,
and the sink is closed.

There is an error in its place only if the clock cannot tell the time an interval ahead. Then too
each line was taken once, no batch was submitted twice, and the records that were submitted are
among those that the lines gave, each at most as often; the sink is not closed. -/
theorem conserves_records
    (h : (start rules settings pieces fails false horizon).run steps = some (p, events))
    (hcancel : .cancel ∉ steps) (hb : Balanced events) :
    let decoder : Decoder := ⟨rules, settings.decoder.mode⟩
    let log := (start rules settings pieces fails false horizon).takings steps
    let decoded := (decoder.results log).filterMap Decoder.record?
    let written := (submitted events).flatMap Batch.records
    (∀ report, p.result? = some (.ok report) →
      log.map Taking.line = Text.readLines fails pieces.flatten ∧
      written.Perm decoded ∧ ((submitted events).map Batch.id).Nodup ∧
      report.writer.recordsPopped = report.decode.records ∧
      report.writer.settled = report.writer.recordsPopped ∧
      report.decode.undelivered = 0 ∧
      report.decode.lines = report.decode.records + report.decode.errors + report.decode.dropped ∧
      isClosed events = true) ∧
    ∀ e, p.result? = some (.error e) →
      horizon < p.writer.now + settings.writer.flushInterval ∧
      log.map Taking.line = Text.readLines fails pieces.flatten ∧
      written.Subperm decoded ∧ ((submitted events).map Batch.id).Nodup ∧
      isClosed events = false := by
  intro decoder log decoded written
  obtain ⟨wsteps, hwriter, -⟩ := (split_of_run (orderly_start false) h hcancel).writer
  have hl := Writer.ledger_of_run hwriter
  have hclosed : p.writer.final?.isSome = isClosed events := Writer.isSome_final?_of_run hwriter
  constructor
  · intro report hreport
    obtain ⟨hserved, hfinal, hdecode⟩ := result?_eq_ok hreport
    obtain ⟨hf, -⟩ := finished_of_served h hcancel hserved
    obtain ⟨hidle, hstats⟩ := hl.sound.final hfinal
    obtain ⟨hpopped, hperm⟩ := submitted_perm_sent h hcancel hserved hfinal
    have hcount : report.writer.recordsPopped = p.stream.summary.records := by
      rw [hstats, hl.recordsPopped_eq, hpopped, hf.summary]
    have hsettled : report.writer.settled = report.writer.recordsPopped := by
      rw [hstats]
      exact hl.settled_eq_popped hidle hb
    have hundelivered : p.stream.summary.undelivered = 0 := by rw [hf.summary]
    rw [← hclosed, hfinal, hdecode]
    exact ⟨hf.lines, hperm.trans hf.records.perm.symm, hl.nodup_submitted, hcount, hsettled,
      hundelivered, hf.lines_eq, rfl⟩
  · intro e herror
    obtain ⟨hserved, hfailed⟩ := result?_eq_error herror
    obtain ⟨hf, -⟩ := finished_of_served h hcancel hserved
    obtain ⟨hphase, hlate⟩ := late_of_failed h hfailed
    have hsubperm := submitted_subperm_sent h hcancel hserved
    rw [← hclosed, Writer.final?, hphase]
    exact ⟨hlate, hf.lines, hsubperm.trans hf.records.perm.symm.subperm, hl.nodup_submitted, rfl⟩

/-- Steps of a pipeline with two workers of either kind and batches of two records, for five lines
of which one has a fault and one neither form. The second line is written before the first. -/
def fiveLines : List PipelineStep :=
  let later : Timestamp := ⟨1⟩
  [.read, .write (.work 1 none), .write (.work 0 none), .read, .read, .decode 0 .epoch, .read,
    .read, .read, .decode 1 later, .decode 1 later, .forward, .read, .write (.work 1 none),
    .write (.work 1 none), .write .receive, .write (.work 1 none), .read, .decode 1 later, .read,
    .read, .decode 1 later, .decode 1 later, .read, .read, .decode 1 later, .decode 1 later,
    .forward, .write (.work 0 none), .write (.work 0 none), .write .receive, .write .dispatch,
    .write (.submit 0), .write (.work 0 none), .write (.settle 0 (.ok ⟨1, 1⟩)), .passOver, .read,
    .decode 1 later, .decode 0 .epoch, .forward, .write (.work 1 none), .decode 0 .epoch,
    .closeBuffer, .write (.work 1 none), .write .receive, .write (.work 1 none),
    .write (.work 0 none), .write .receive, .write .dispatch, .write (.submit 1),
    .write (.settle 1 (.error .closed)), .write .finish]

theorem conserves_records_fiveLines :
    let settings : Settings :=
      { decoder := { workers := 2, channelCapacity := 1 }
        writer := { concurrency := 2, bulkMax := 2 } }
    let pieces := ["a,k=v 1\nb,k", "=v 2\n?\nc,k=v 1.2.\nd,k=v 3"].map Text.Utf8.encode
    ∃ p events report,
      (start .empty settings pieces false false 10000).run fiveLines = some (p, events) ∧
      p.result? = some (.ok report) ∧ report.decode = ⟨5, 3, 1, 1, 0⟩ ∧
      (submitted events).map Batch.size = [2, 1] ∧
      (((submitted events).flatMap Batch.records).map Record.name).Perm ["a", "b", "d"] ∧
      ((submitted events).map Batch.id).Nodup ∧ report.writer.recordsPopped = 3 ∧
      report.writer.settled = 3 ∧ isClosed events = true := by
  intro settings pieces
  have hrun : ((start .empty settings pieces false false 10000).run fiveLines).map
      (fun r => (r.1.result?, decide (Balanced r.2), (submitted r.2).map Batch.size)) =
      some (some (.ok ⟨⟨5, 3, 1, 1, 0⟩, ⟨3, 0, 1, 1, 1, 1, 1⟩⟩), true, [2, 1]) := by decide +kernel
  have hdecoded : (((Decoder.results ⟨.empty, settings.decoder.mode⟩
      ((start .empty settings pieces false false 10000).takings fiveLines)).filterMap
        Decoder.record?).map Record.name) = ["a", "b", "d"] := by decide +kernel
  obtain ⟨⟨p, events⟩, h, heq⟩ := Option.map_eq_some_iff.mp hrun
  simp only [Prod.mk.injEq, decide_eq_true_eq] at heq
  obtain ⟨hresult, hb, hsizes⟩ := heq
  obtain ⟨hreport, -⟩ := conserves_records h (by simp [fiveLines]) hb
  obtain ⟨-, hperm, hnodup, hpopped, hsettled, -, -, hclosed⟩ := hreport _ hresult
  have hnames := hperm.map Record.name
  rw [hdecoded] at hnames
  exact ⟨p, events, _, h, hresult, rfl, hsizes, hnames, hnodup, hpopped, hsettled.trans hpopped,
    hclosed⟩

end Pipeline

end MetricIngest
