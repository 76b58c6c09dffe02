/-
  A document is a faithful encoding of its record on one line.

  `line_faithful` says that the line of a record ends in its only line break and is one object
  with the keys of a document, from which a reader gets back what `Document.ofRecord` lists. So
  records with the same line agree in all that.
-/
import MetricIngest.Proofs.Json.Reader
import MetricIngest.Proofs.Record.FieldMap
import MetricIngest.Record.Reader
import MetricIngest.Sink.Lines

namespace MetricIngest

/-! ### Reading a document -/

namespace Document

open Json

/-- Strings are shown as they are. -/
theorem shownMembers_entries (entries : List (String × String)) :
    shownMembers (entries.map fun (k, v) => (k, .string v)) =
      entries.map fun (k, v) => (k, .string v) := by
  induction entries with
  | nil => rfl
  | cons e rest ih =>
    rw [List.map_cons, shownMembers, ih, Value.shown]
    all_goals simp

theorem entries?_map (entries : List (String × String)) :
    entries? (entries.map fun (k, v) => (k, .string v)) = some entries := by
  induction entries with
  | nil => rfl
  | cons e rest ih => simp [entries?, string?, ih]

/-- The members of a record's document as a reader sees them. -/
def visibleMembers (r : Record) (index docType : String) : List (String × Value) :=
  [("_index", .string (r.indexName index)), ("_type", .string docType),
    ("@timestamp", .int r.timestamp.millis), ("name", .string r.name),
    ("value", if r.value.isFinite then .number r.value else .null),
    ("fields", .object (r.fields.entries.map fun (k, v) => (k, .string v)))]

theorem shown_document (r : Record) (index docType : String) :
    (r.document index docType).shown = .object (visibleMembers r index docType) := by
  simp only [Record.document, Record.members, Value.shown, shownMembers, shownMembers_entries,
    visibleMembers]

theorem ofMembers?_visibleMembers (r : Record) (index docType : String) :
    ofMembers? (visibleMembers r index docType) = some (ofRecord r index docType) := by
  have hvalue : number? (if r.value.isFinite then .number r.value else .null) =
      some (if r.value.isFinite then some r.value else none) := by
    split <;> rfl
  simp [visibleMembers, ofMembers?, member?, string?, int?, hvalue, fields?, entries?_map,
    FieldMap.ofList_entries, ofRecord]

/-- **A document is read back from its line.** -/
theorem ofChars?_documentChars (r : Record) (index docType : String) :
    ofChars? (r.documentChars index docType) = some (ofRecord r index docType) := by
  rw [ofChars?, Record.documentChars, read?_compactChars _ (by decide), shown_document]
  exact ofMembers?_visibleMembers r index docType

end Document

namespace LinesSink

/-- **The line of a record** holds no control character before its line break, is one object
with the keys of a document, and is read back as what the document of the record tells. Two
records with the same line agree in that. -/
theorem line_faithful (s : LinesSink) (r : Record) : ∃ text members,
    s.lines [r] = text ++ ['\n'] ∧ (∀ c ∈ text, 0x20 ≤ c.toNat) ∧
      Json.Value.read? text = some (.object members) ∧ members.map (·.1) = Document.keys ∧
      Document.ofChars? text = some (Document.ofRecord r s.index s.docType) ∧
      ∀ (s' : LinesSink) (r' : Record), s'.lines [r'] = s.lines [r] →
        Document.ofRecord r' s'.index s'.docType = Document.ofRecord r s.index s.docType := by
  have hline (s : LinesSink) (r : Record) :
      s.lines [r] = (r.document s.index s.docType).compactChars ++ ['\n'] := by
    rw [lines, List.flatMap_singleton, Record.documentChars]
  have hread (s : LinesSink) (r : Record) :
      Document.ofChars? (s.lines [r]) = some (Document.ofRecord r s.index s.docType) := by
    rw [hline]
    exact Document.ofChars?_documentChars r s.index s.docType
  have hblank : ([] : List Char).all Json.isBlank = true := rfl
  have htext := Json.read?_compactChars (r.document s.index s.docType) hblank
  rw [List.append_nil, Document.shown_document] at htext
  refine ⟨_, _, hline s r, Json.isPrintable_of_mem_compactChars _, htext, rfl, ?_, ?_⟩
  · rw [Document.ofChars?, htext]
    exact Document.ofMembers?_visibleMembers r s.index s.docType
  · intro s' r' heq
    have hboth := (hread s' r').symm.trans ((congrArg Document.ofChars? heq).trans (hread s r))
    exact Option.some.inj hboth

end LinesSink

end MetricIngest
