/-
  Decoding with several workers agrees with decoding one line after the other.

  However the input arrives and in whatever order the reader, the workers and the
  receivers move, the stream sends just the records and the faults that the lines of the
  input give, each as often; a single worker also keeps their order.
-/
import MetricIngest.Proofs.Line.LineEnd
import MetricIngest.Proofs.Stream.Ledger

namespace MetricIngest.LineStream

open ListFacts Decoder Sending

variable {s : LineStream} {decoder : Decoder} {settings : Settings.Decoding}
  {pieces : List (List UInt8)} {fails cancelled : Bool} {steps : List StreamStep} {now : Timestamp}

/-! ### The end of a run -/

/-- At its end a stream has nothing in hand. -/
theorem held_of_hasEnded (h : s.hasEnded = true) :
    s.reader = .gone ∧ (∀ place ∈ s.workers, place = .gone) ∧ s.held = [] := by
  unfold hasEnded at h
  rw [Bool.and_eq_true] at h
  obtain ⟨hreader, hworkers⟩ := h
  have hgone : ∀ place ∈ s.workers, place = .gone := by
    intro place hplace
    have hall := List.all_eq_true.mp hworkers place hplace
    cases place <;> simp_all
  refine ⟨?_, hgone, ?_⟩
  · split at hreader
    · assumption
    · cases hreader
  · rw [held, List.flatMap_eq_nil_iff]
    intro place hplace
    rw [hgone place hplace]
    rfl

/-- A line is taken at a time that the clock shows to a worker. -/
theorem time_of_mem_takings {t : Taking} (h : t ∈ s.takings steps) :
    ∃ i, .work i t.time ∈ steps := by
  induction steps generalizing s with
  | nil => simp [takings] at h
  | cons next steps ih =>
    rw [takings] at h
    split at h
    · simp at h
    · rcases List.mem_append.mp h with htaking | hrest
      · rw [Option.mem_toList] at htaking
        unfold taking? at htaking
        split at htaking
        · split at htaking
          · obtain rfl := Option.some.inj htaking
            exact ⟨_, List.mem_cons_self⟩
          · cases htaking
        · cases htaking
      · obtain ⟨i, hi⟩ := ih hrest
        exact ⟨i, List.mem_cons_of_mem _ hi⟩

/-- **A stream at its end** that nobody cut short: each line of the input was taken once, in
its turn; what the lines gave was sent, and all this is counted. -/
structure Finished (decoder : Decoder) (settings : Settings.Decoding) (lines : List (List UInt8))
    (log : List Taking) (s : LineStream) : Prop where
  lines : log.map Taking.line = lines
  records : Same (settings.poolSize = 1) ((decoder.results log).filterMap record?) s.records.sent
  errors : Same (settings.poolSize = 1) ((decoder.results log).filterMap fault?) s.errors.sent
  summary : s.summary = ⟨log.length, s.records.sent.length, s.errors.sent.length,
    (decoder.unreadable log).length, 0⟩

/-- At its end a stream has no line left in the queue, for there is a worker, and it left when no
line would come. -/
theorem Sound.lines_eq_nil (hs : s.Sound) (hended : s.hasEnded = true) : s.lines = [] := by
  obtain ⟨place, hplace⟩ := List.exists_mem_of_ne_nil _ hs.staffed
  exact (hs.exits ((held_of_hasEnded hended).2.1 place hplace ▸ hplace)).2

/-- At the end of a run each line of the input was taken in its turn, if nobody cancelled it. -/
theorem Passed.input_taken {log : List Taking} {out : List Sending} (hs : s.Sound)
    (hpassed : (start decoder settings pieces fails cancelled).Passed log out s)
    (hended : s.hasEnded = true) (hlive : s.cancelled = false) :
    log.map Taking.line = Text.readLines fails pieces.flatten := by
  rw [hpassed.input_eq hlive, hs.lines_eq_nil hended, unread, (held_of_hasEnded hended).1]
  simp

theorem finished_of_run (h : (start decoder settings pieces fails false).run steps = some s)
    (hsteps : ∀ next ∈ steps, next.isSteady = true) (hended : s.hasEnded = true) :
    Finished decoder settings (Text.readLines fails pieces.flatten)
      ((start decoder settings pieces fails false).takings steps) s := by
  obtain ⟨hs, hpassed⟩ := passed_of_run (sound_start decoder settings pieces fails false) h
  have hlive : s.cancelled = false := live_of_run rfl h fun hmem => by cases hsteps _ hmem
  have hstay : ∀ k, s.hasReceiver k = true ∧
      ∀ t ∈ (start decoder settings pieces fails false).sendings steps,
        ResultKind.of t.result = k → t.hasReceiver = true := by
    intro k
    refine hasReceiver_of_run (by cases k <;> rfl) h fun hmem => ?_
    cases k <;> cases hsteps _ hmem
  -- All that the workers sent came to its receiver.
  have hall := filter_outcome (fun _ => true) fun t ht _ => (hstay _).2 t ht rfl
  generalize (start decoder settings pieces fails false).sendings steps = out at hpassed hall
  generalize (start decoder settings pieces fails false).takings steps = log at hpassed ⊢
  have hlines := hs.lines_eq_nil hended
  have hdelivered : delivered out = out.map Sending.result := by simpa [delivered] using hall.1
  have hundelivered : undelivered out = [] := by simpa [undelivered] using hall.2
  have hresults := hpassed.results_eq
  rw [(held_of_hasEnded hended).2.2, List.append_nil, ← hdelivered] at hresults
  have hrecords : s.records.sent = (delivered out).filterMap record? :=
    hpassed.records.sent (hstay .record).1
  have herrors : s.errors.sent = (delivered out).filterMap fault? :=
    hpassed.errors.sent (hstay .fault).1
  refine ⟨hpassed.input_taken hs hended hlive, ?_, ?_, ?_⟩
  · rw [hrecords]
    exact hresults.filterMap record?
  · rw [herrors]
    exact hresults.filterMap fault?
  · have hread : s.summary.lines = log.length := by rw [hpassed.lines_eq_length, hlines]; rfl
    have hr : s.summary.records = s.records.sent.length := by
      rw [hrecords, ← List.length_map Except.ok, ResultKind.map_record?]
      exact hpassed.delivered_eq_length .record
    have he : s.summary.errors = s.errors.sent.length := by
      rw [herrors, ← List.length_map Except.error, ResultKind.map_fault?]
      exact hpassed.delivered_eq_length .fault
    have hu : s.summary.undelivered = 0 := by rw [hpassed.undelivered_eq_length, hundelivered]; rfl
    rw [← hread, ← hpassed.dropped_eq_length, ← hr, ← he, ← hu]

/-! ### Agreement -/

/-- What lines give that are all taken at one time. -/
theorem results_of_frozen {log : List Taking} (h : ∀ t ∈ log, t.time = now) :
    decoder.results log = (log.map Taking.line).filterMap (decoder.decodeBytes now) := by
  rw [results, List.filterMap_map]
  apply List.filterMap_congr
  intro t ht
  rw [h t ht, Function.comp_apply]

/-- Decoding the lines of an input one after the other, in terms of what each gives. -/
theorem decodeAll_readPieces (bytes : List UInt8) :
    decoder.decodeAll now ((Text.readPieces fails bytes).map Text.Utf8.decodeLossy) =
      (((Text.readPieces fails bytes).filterMap (decoder.decodeBytes now)).filterMap record?,
        ((Text.readPieces fails bytes).filterMap (decoder.decodeBytes now)).filterMap fault?) := by
  simp only [decodeAll, List.filterMap_map]
  rfl

/-- Lines that are all taken at one time give what they give in their order. -/
theorem Finished.results_eq {log : List Taking} {bytes : List UInt8}
    (hf : s.Finished decoder settings (Text.readLines fails bytes) log)
    (hfrozen : ∀ t ∈ log, t.time = now) : decoder.results log =
      (Text.readPieces fails bytes).filterMap (decoder.decodeBytes now) := by
  rw [results_of_frozen hfrozen, hf.lines, filterMap_readPieces]

/-- Lines that give nothing are those that neither give a record nor a fault. -/
theorem Finished.length_unreadable {log : List Taking} {bytes : List UInt8}
    (hf : s.Finished decoder settings (Text.readLines fails bytes) log)
    (hfrozen : ∀ t ∈ log, t.time = now) : (decoder.unreadable log).length =
      ((Text.readPieces fails bytes).filter fun line =>
        (decoder.decodeBytes now line).isNone).length := by
  have hlength := congrArg List.length hf.lines
  have hlog := length_filter_isNone_add (fun t : Taking => decoder.decodeBytes t.time t.line) log
  have hlines :=
    length_filter_isNone_add (decoder.decodeBytes now) (Text.readPieces fails bytes)
  rw [List.length_map, ← Text.length_readPieces] at hlength
  rw [← hf.results_eq hfrozen] at hlines
  simp only [results, unreadable] at hlog hlines ⊢
  omega

/-- **Agreement.** A stream that nobody cancels and whose receivers stay, at a clock that
stands still: once it has ended, it has sent the records and the faults that come from
decoding the lines of its input one after the other, however the input arrived and whoever
moved when; with a single worker in the same order. Each line, with the line feed that ends
it if one does, is counted, and what it gave. When the input ends with a failure to read,
a rest that no line feed ends is left out. -/
theorem agrees_with_decodeAll
    (h : (start decoder settings pieces fails false).run steps = some s)
    (hended : s.hasEnded = true) (hcancel : .cancel ∉ steps) (hrecords : .dropRecords ∉ steps)
    (herrors : .dropErrors ∉ steps) (hclock : ∀ i t, .work i t ∈ steps → t = now) :
    let lines := Text.readPieces fails pieces.flatten
    let expected := decoder.decodeAll now (lines.map Text.Utf8.decodeLossy)
    s.records.sent.Perm expected.1 ∧ s.errors.sent.Perm expected.2 ∧
    (settings.poolSize = 1 → s.records.sent = expected.1 ∧ s.errors.sent = expected.2) ∧
    s.summary = ⟨lines.length, expected.1.length, expected.2.length,
      (lines.filter fun line => (decoder.decodeBytes now line).isNone).length, 0⟩ := by
  intro lines expected
  have hsteps : ∀ next ∈ steps, next.isSteady = true := by
    intro next hnext
    cases next with
    | cancel => exact absurd hnext hcancel
    | dropRecords => exact absurd hnext hrecords
    | dropErrors => exact absurd hnext herrors
    | _ => rfl
  have hf := finished_of_run h hsteps hended
  have hfrozen : ∀ t ∈ (start decoder settings pieces fails false).takings steps, t.time = now := by
    intro t ht
    obtain ⟨i, hi⟩ := time_of_mem_takings ht
    exact hclock i _ hi
  -- What the workers decoded is what the lines of the input give in their order.
  have hexpected : expected = _ := decodeAll_readPieces pieces.flatten
  rw [← hf.results_eq hfrozen] at hexpected
  rw [hexpected]
  have hr := hf.records
  have he := hf.errors
  refine ⟨hr.perm.symm, he.perm.symm, ?_, ?_⟩
  · intro hsingle
    exact ⟨(hr.eq hsingle).symm, (he.eq hsingle).symm⟩
  · have hlength := congrArg List.length hf.lines
    rw [List.length_map, ← Text.length_readPieces] at hlength
    rw [hf.summary, hlength, hf.length_unreadable hfrozen, hr.perm.length_eq, he.perm.length_eq]

/-- Steps of a single worker that decode two lines, the second of which no line feed ends,
from an input in two pieces. -/
def twoLines : List StreamStep :=
  [.read, .read, .read, .read, .work 0 .epoch, .work 0 .epoch, .receiveRecord, .read, .read,
    .read, .work 0 .epoch, .work 0 .epoch]

theorem agrees_with_decodeAll_twoLines : ∃ s,
    (start ⟨.empty, .compat⟩ { workers := 1 } [[97, 44, 107], [61, 118, 32, 49, 10, 120]] false
      false).run twoLines = some s ∧
    s.hasEnded = true ∧ s.summary = ⟨2, 1, 0, 1, 0⟩ ∧
    s.records.sent = (Decoder.decodeAll ⟨.empty, .compat⟩ .epoch
      [['a', ',', 'k', '=', 'v', ' ', '1', '\n'], ['x']]).1 := by
  have hrun : ((start ⟨.empty, .compat⟩ { workers := 1 }
      [[97, 44, 107], [61, 118, 32, 49, 10, 120]] false false).run twoLines).map
        (fun s => (s.hasEnded, s.summary)) = some (true, ⟨2, 1, 0, 1, 0⟩) := by decide +kernel
  obtain ⟨s, h, heq⟩ := Option.map_eq_some_iff.mp hrun
  obtain ⟨hended, hsummary⟩ := Prod.mk.inj heq
  have hclock : ∀ i t, .work i t ∈ twoLines → t = .epoch := by simp [twoLines]
  have hagrees := agrees_with_decodeAll h hended (by simp [twoLines]) (by simp [twoLines])
    (by simp [twoLines]) hclock
  have hlines : (Text.readPieces false [[97, 44, 107], [61, 118, 32, 49, 10, 120]].flatten).map
      Text.Utf8.decodeLossy = [['a', ',', 'k', '=', 'v', ' ', '1', '\n'], ['x']] := by
    decide +kernel
  have hrecords := (hagrees.2.2.1 rfl).1
  rw [hlines] at hrecords
  exact ⟨s, h, hended, hsummary, hrecords⟩

end MetricIngest.LineStream
