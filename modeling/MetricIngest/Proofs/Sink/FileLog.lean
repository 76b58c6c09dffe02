/-
  The file of a sink is a log of the records that were taken.

  A call adds to the file the documents of the batch that it took, one on a line, and nothing
  else (`FileSession.Keeps.step`); so after any calls the file has the text from before and then
  the documents of all records that were taken, in order (`log_of_run`). No document holds a
  line break, so cutting the added text at the line breaks gives the documents back.
-/
import MetricIngest.Proofs.Json.Reader
import MetricIngest.Proofs.Storage.FileTree
import MetricIngest.Sink.Encoding
import MetricIngest.Sink.FileSession

namespace MetricIngest

/-! ### Documents on lines -/

theorem asLines_append (documents more : List (List Char)) :
    asLines (documents ++ more) = asLines documents ++ asLines more :=
  List.flatMap_append

/-- **Cutting lines at the line breaks** gives the documents, and nothing after the last. -/
theorem pieces_asLines {documents : List (List Char)} (h : ∀ d ∈ documents, '\n' ∉ d) :
    Text.pieces '\n' (asLines documents) = documents ++ [[]] := by
  induction documents with
  | nil => rfl
  | cons d rest ih =>
    obtain ⟨hd, hrest⟩ := List.forall_mem_cons.mp h
    have hcons : asLines (d :: rest) = d ++ '\n' :: asLines rest := by
      simp [asLines]
    rw [hcons, Text.pieces_append_cons hd, ih hrest, List.cons_append]

theorem newline_notMem_compactChars (v : Json.Value) : '\n' ∉ v.compactChars := fun hmem =>
  absurd (Json.isPrintable_of_mem_compactChars v '\n' hmem) (by decide)

theorem FileEvent.newline_notMem_of_mem_accepted (event : FileEvent) :
    ∀ d ∈ event.accepted, '\n' ∉ d := by
  unfold accepted
  split
  · intro d hd
    obtain ⟨r, -, rfl⟩ := List.mem_map.mp hd
    exact newline_notMem_compactChars _
  · simp

/-! ### Single calls -/

namespace LinesSink

theorem lines_eq_asLines (s : LinesSink) (batch : List Record) :
    s.lines batch = asLines (batch.map fun r => (r.document s.index s.docType).compactChars) := by
  simp [lines, asLines, List.flatMap_map, Record.documentChars]

/-- Every record can be encoded. -/
theorem encodeBatch_encode? (s : LinesSink) (batch : List Record) :
    encodeBatch s.encode? batch = (s.lines batch, ⟨batch.length, 0⟩) := by
  induction batch with
  | nil => rfl
  | cons r batch ih =>
    have hlines : s.lines (r :: batch) =
        (r.document s.index s.docType).compactChars ++ '\n' :: s.lines batch := by
      simp [lines, Record.documentChars]
    simp only [encodeBatch, ih, encode?, hlines, List.length_cons]

/-- **No record of a batch counts as failed**: a sink does what it would do if it asked for each
record whether it can be encoded. -/
theorem submit_eq_submitWith (s : LinesSink) (f : DeviceFaults) (batch : List Record) :
    s.submit f batch = s.submitWith s.encode? f batch := by
  have hdeliver : s.submit f batch = s.deliver f (s.lines batch) ⟨batch.length, 0⟩ := rfl
  rw [hdeliver, submitWith, encodeBatch_encode?]

/-- On a device that does not fail, an open sink takes every batch. -/
theorem submit_of_open {s : LinesSink} (h : s.closed = false) (batch : List Record) :
    s.submit {} batch = (.ok ⟨batch.length, 0⟩, { s with
      device := ⟨s.device.text ++ s.lines batch, (s.device.text ++ s.lines batch).length⟩ }) := by
  simp [submit, h, Device.write, Device.flush]

theorem close_of_open {s : LinesSink} (h : s.closed = false) : s.close {} = (.ok (), { s with
    device := ⟨s.device.text, s.device.text.length⟩
    closed := true }) := by
  simp [close, h, Device.flush]

end LinesSink

namespace FileSession

variable {s : FileSession} {full : List String} {status : FileStatus} {text : List Char}

/-- The path of a session leads to a file with a text, and its sink writes there, with the names
of the session, as long as it is open. -/
structure Keeps (s : FileSession) (full : List String) (status : FileStatus) (text : List Char) :
    Prop where
  sink_eq : ∃ l : LinesSink, s.sink = .file l full ∧ l.index = status.index ∧
    l.docType = status.docType ∧ l.closed = !status.isOpen
  names_eq : s.index = status.index ∧ s.docType = status.docType
  fileAt : s.files.FileAt s.path full text

theorem start_of_fileAt {files : FileTree} {path : String} (h : files.FileAt path full text)
    (index docType : String) (templatePath : Option String) :
    start index docType templatePath path files =
      .ok ⟨path, files, index, docType, .file { index, docType, templatePath } full⟩ := by
  rw [start, Sink.openFile, h.openAtEnd_eq]
  rfl

/-- A session that was started has an open sink on the file of its path. -/
theorem keeps_start {index docType path : String} {templatePath : Option String}
    {files : FileTree} (h : start index docType templatePath path files = .ok s) :
    s.path = path ∧ ∃ full text, s.Keeps full ⟨true, index, docType⟩ text ∧
      (files.read path = .ok text ∨ files.read path = .error .notFound ∧ text = []) := by
  rw [start, Sink.openFile] at h
  split at h
  · cases h
  · rename_i full opened hopen
    cases h
    obtain ⟨text, hat, hbefore⟩ := FileTree.fileAt_of_openAtEnd hopen
    exact ⟨rfl, full, text, ⟨⟨_, rfl, rfl, rfl, rfl⟩, ⟨rfl, rfl⟩, hat⟩, hbefore⟩

theorem path_step (s : FileSession) (next : FileCall) : (s.step next).2.path = s.path := by
  cases next with
  | submit batch => rfl
  | close => rfl
  | reopen index docType templatePath =>
    simp only [step]
    split
    · rfl
    · rename_i hstart
      exact (keeps_start hstart).1

/-- **A call adds the documents of the batch that it took**, one on a line, and answers as it
has to. -/
theorem Keeps.step (h : s.Keeps full status text) (next : FileCall) :
    (s.step next).2.Keeps full (status.after (s.step next).1)
        (text ++ asLines (s.step next).1.accepted) ∧ (s.step next).1.Expected status := by
  obtain ⟨⟨l, hsink, hindex, hdocType, hclosed⟩, ⟨hindex', hdocType'⟩, hat⟩ := h
  obtain ⟨isOpen, index, docType⟩ := status
  dsimp only at hindex hdocType hclosed hindex' hdocType'
  cases next with
  | submit batch =>
    cases isOpen with
    | true =>
      have hsubmit := LinesSink.submit_of_open hclosed batch
      have hlines := l.lines_eq_asLines batch
      rw [hindex, hdocType] at hlines
      simp only [FileSession.step, hsink, Sink.submit, hsubmit, hindex', hdocType']
      refine ⟨⟨⟨_, rfl, hindex, hdocType, hclosed⟩, ⟨rfl, rfl⟩, ?_⟩, rfl, rfl, rfl⟩
      -- The file gets what the device has beyond its text from before.
      simp only [Sink.follow, List.drop_left, FileEvent.accepted, ← hlines]
      exact hat.append _
    | false =>
      have hsubmit := LinesSink.submit_of_closed hclosed {} batch
      simp only [FileSession.step, hsink, Sink.submit, hsubmit, hindex', hdocType']
      refine ⟨⟨⟨_, rfl, hindex, hdocType, hclosed⟩, ⟨rfl, rfl⟩, ?_⟩, rfl, rfl, rfl⟩
      simp only [Sink.follow, List.drop_length, FileEvent.accepted]
      exact hat.append []
  | close =>
    -- Flushing marks what is written as kept, but the file has it already.
    have hclose : ∃ after : LinesSink, l.close {} = (.ok (), after) ∧ after.index = l.index ∧
        after.docType = l.docType ∧ after.closed = true := by
      cases isOpen with
      | true => exact ⟨_, LinesSink.close_of_open hclosed, rfl, rfl, rfl⟩
      | false => exact ⟨l, LinesSink.close_of_closed hclosed {}, rfl, rfl, hclosed⟩
    obtain ⟨after, hclose, hindexAfter, hdocTypeAfter, hclosedAfter⟩ := hclose
    simp only [FileSession.step, hsink, Sink.close, hclose]
    refine ⟨⟨⟨after, rfl, hindexAfter.trans hindex, hdocTypeAfter.trans hdocType, hclosedAfter⟩,
      ⟨hindex', hdocType'⟩, ?_⟩, rfl⟩
    simpa [FileEvent.accepted, asLines] using hat
  | reopen index docType templatePath =>
    simp only [FileSession.step, start_of_fileAt hat]
    refine ⟨⟨⟨_, rfl, rfl, rfl, rfl⟩, ⟨rfl, rfl⟩, ?_⟩, rfl⟩
    simpa [FileEvent.accepted, asLines] using hat

/-- Closing a closed sink changes nothing. -/
theorem Keeps.close_again (h : s.Keeps full status text) (hclosed : status.isOpen = false) :
    s.step .close = (.closed (.ok ()), s) := by
  obtain ⟨⟨l, hsink, -, -, hl⟩, -⟩ := h
  rw [hclosed] at hl
  have hclose := LinesSink.close_of_closed hl {}
  obtain ⟨path, files, index, docType, sink⟩ := s
  dsimp only at hsink
  subst hsink
  simp only [FileSession.step, Sink.close, hclose]

/-- A closed sink leaves the file as it is when a batch is submitted. -/
theorem Keeps.submit_again (h : s.Keeps full status text) (hclosed : status.isOpen = false)
    (batch : List Record) :
    (s.step (.submit batch)).2.files.read s.path = s.files.read s.path := by
  obtain ⟨hkeeps, -, -, hresult⟩ := h.step (.submit batch)
  rw [hclosed, if_neg Bool.false_ne_true] at hresult
  have hrefused : (s.sink.submit s.files {} batch).1 = .error .closed := hresult
  have hnone : (s.step (.submit batch)).1.accepted = [] := by
    simp only [FileSession.step, FileEvent.accepted, hrefused]
  rw [hnone, asLines, List.flatMap_nil, List.append_nil] at hkeeps
  have hread := hkeeps.fileAt.read_eq
  rw [s.path_step] at hread
  rw [hread, h.fileAt.read_eq]

/-! ### Calls one after the other -/

theorem run_spec (h : s.Keeps full status text) (calls : List FileCall) :
    (s.run calls).2.Keeps full (status.afterAll (s.run calls).1)
        (text ++ asLines ((s.run calls).1.flatMap FileEvent.accepted)) ∧
      ∀ before event after, (s.run calls).1 = before ++ event :: after →
        event.Expected (status.afterAll before) := by
  induction calls generalizing s status text with
  | nil => exact ⟨by simpa [run, asLines, FileStatus.afterAll] using h, by simp [run]⟩
  | cons next calls ih =>
    obtain ⟨hnext, hexpected⟩ := h.step next
    obtain ⟨hrest, hothers⟩ := ih hnext
    simp only [run]
    constructor
    · rw [List.flatMap_cons, asLines_append, ← List.append_assoc]
      exact hrest
    · -- The event is the one at hand, or one of those after it.
      intro before event after heq
      cases before with
      | nil =>
        obtain ⟨rfl, -⟩ := List.cons.inj heq
        exact hexpected
      | cons first before =>
        obtain ⟨rfl, hlater⟩ := List.cons.inj heq
        exact hothers before event after hlater

theorem calls_run (s : FileSession) (calls : List FileCall) :
    (s.run calls).1.map FileEvent.call = calls ∧ (s.run calls).2.path = s.path := by
  induction calls generalizing s with
  | nil => exact ⟨rfl, rfl⟩
  | cons next calls ih =>
    obtain ⟨hcalls, hpath⟩ := ih (s.step next).2
    simp only [run, List.map_cons, s.call_step, hcalls]
    exact ⟨trivial, hpath.trans (s.path_step next)⟩

/-- The documents that were taken are as many as the sink says. -/
theorem length_accepted {events : List FileEvent}
    (h : ∀ before event after, events = before ++ event :: after →
      event.Expected (status.afterAll before)) :
    (events.flatMap FileEvent.accepted).length = (events.map FileEvent.succeeded).sum := by
  have hevent : ∀ event ∈ events, event.accepted.length = event.succeeded := by
    intro event hmem
    obtain ⟨before, after, rfl⟩ := List.append_of_mem hmem
    have hexpected := h before event after rfl
    cases event with
    | submitted index docType batch result =>
      obtain ⟨-, -, rfl⟩ := hexpected
      cases (status.afterAll before).isOpen <;> simp [FileEvent.accepted, FileEvent.succeeded]
    | _ => rfl
  rw [List.length_flatMap]
  exact congrArg List.sum (List.map_congr_left hevent)

/-- **The file of a sink is a log** of the records that were taken. After a sink was opened on
a path, and after any calls, the file has the text from before and then the documents of the
taken records, one on a line: cutting them at the line breaks gives them back, as many as the
sink counted. An open sink takes every batch, a closed one refuses it and changes nothing, and
opening the path again succeeds and keeps the text. No record is left out: the sink does what it
would do if it asked for each record whether it can be encoded. -/
theorem log_of_run {index docType path : String} {templatePath : Option String}
    {files : FileTree} (h : start index docType templatePath path files = .ok s)
    (calls : List FileCall) :
    ∃ previous events last, s.run calls = (events, last) ∧ events.map FileEvent.call = calls ∧
      (files.read path = .ok previous ∨ files.read path = .error .notFound ∧ previous = []) ∧
      (let documents := events.flatMap FileEvent.accepted
      last.files.read path = .ok (previous ++ asLines documents) ∧
        Text.pieces '\n' (asLines documents) = documents ++ [[]] ∧
        documents.length = (events.map FileEvent.succeeded).sum) ∧
      (∀ before event after, events = before ++ event :: after →
        event.Expected (FileStatus.afterAll ⟨true, index, docType⟩ before)) ∧
      ((FileStatus.afterAll ⟨true, index, docType⟩ events).isOpen = false →
        last.step .close = (.closed (.ok ()), last) ∧
        ∀ batch, (last.step (.submit batch)).2.files.read path = last.files.read path) ∧
      ∀ l full batch, last.sink = .file l full →
        l.submit {} batch = l.submitWith l.encode? {} batch := by
  obtain ⟨rfl, full, text, hkeeps, hprevious⟩ := keeps_start h
  obtain ⟨hlast, hexpected⟩ := run_spec hkeeps calls
  obtain ⟨hcalls, hpath⟩ := s.calls_run calls
  have hbreaks : ∀ d ∈ (s.run calls).1.flatMap FileEvent.accepted, '\n' ∉ d := by
    intro d hd
    obtain ⟨event, -, hmem⟩ := List.mem_flatMap.mp hd
    exact event.newline_notMem_of_mem_accepted d hmem
  refine ⟨text, (s.run calls).1, (s.run calls).2, rfl, hcalls, hprevious,
    ⟨?_, pieces_asLines hbreaks, length_accepted hexpected⟩, hexpected, fun hclosed => ⟨?_, ?_⟩,
    fun l _ batch _ => l.submit_eq_submitWith {} batch⟩
  · rw [← hpath]
    exact hlast.fileAt.read_eq
  · exact hlast.close_again hclosed
  · intro batch
    rw [← hpath]
    exact hlast.submit_again hclosed batch

/-- A file with a line from before. -/
def earlierFile : FileTree := ⟨[], [], [(["log"], ['x', '\n'])]⟩

/-- Two sessions, and a batch that comes between them. -/
def twoSessions : List FileCall :=
  [.submit [.numbered 0], .close, .submit [.numbered 1], .close, .reopen "metrics" "raw" none,
    .submit [], .submit [.numbered 2, .numbered 3]]

theorem log_of_twoSessions : ∃ s : FileSession,
    start "metrics" "raw" none "log" earlierFile = .ok s ∧
      ∃ events last, s.run twoSessions = (events, last) ∧ events.length = 7 ∧
        last.files.read "log" = .ok (['x', '\n'] ++ asLines (events.flatMap FileEvent.accepted)) ∧
        (events.flatMap FileEvent.accepted).length = (events.map FileEvent.succeeded).sum := by
  have hat : earlierFile.FileAt "log" ["log"] ['x', '\n'] :=
    ⟨by decide +kernel, by decide +kernel, by decide +kernel⟩
  have hstart := start_of_fileAt hat "metrics" "raw" none
  obtain ⟨previous, events, last, hrun, hcalls, hprevious, ⟨hread, -, hcount⟩, -⟩ :=
    log_of_run hstart twoSessions
  have hsame : previous = ['x', '\n'] := by
    rcases hprevious with hprevious | ⟨hnone, -⟩
    · exact Except.ok.inj (hprevious.symm.trans hat.read_eq)
    · cases hnone.symm.trans hat.read_eq
  have hlength : events.length = 7 := by
    rw [← List.length_map (f := FileEvent.call), hcalls]
    rfl
  exact ⟨_, hstart, events, last, hrun, hlength, hsame ▸ hread, hcount⟩

end FileSession

end MetricIngest
