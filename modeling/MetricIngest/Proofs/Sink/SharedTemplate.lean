/-
  A template at a shared path is made once.

  `Turn` says what a step can do in terms of the text at the path and of the calls that are still
  to write it; nothing else opens `SharedTemplate.step`. From it, `Course.turn` carries the course
  of events on by one event, and `kept_of_run` is what every run keeps.
-/
import MetricIngest.Proofs.Lists
import MetricIngest.Proofs.Storage.FileTree
import MetricIngest.Sink.Basic
import MetricIngest.Sink.SharedTemplate

namespace MetricIngest

/-! ### A place for a file -/

namespace FileTree

variable {t : FileTree} {path : String} {full : List String}

theorem PlaceFor.put (h : t.PlaceFor path full) (text : List Char) :
    (t.put full text).PlaceFor path full := ⟨locate_put h.located, h.isDirectory_eq⟩

theorem PlaceFor.exists?_eq (h : t.PlaceFor path full) :
    t.exists? path = .ok (t.file? full).isSome := by
  simp only [exists?, h.located, h.isDirectory_eq, Bool.false_eq_true, ↓reduceIte]
  cases (t.file? full).isSome <;> rfl

theorem PlaceFor.openNew_eq (h : t.PlaceFor path full) : t.openNew path =
    .ok (if (t.file? full).isSome then none else some (full, t.put full [])) := by
  simp only [openNew, h.located, h.isDirectory_eq, Bool.false_eq_true, ↓reduceIte, Bool.false_or]
  split <;> rfl

theorem PlaceFor.overwrite_eq (h : t.PlaceFor path full) (text : List Char) :
    t.overwrite path text = .ok (t.put full text) := by
  simp only [overwrite, openAtEnd, h.located, h.isDirectory_eq, Bool.or_self, Bool.false_eq_true,
    ↓reduceIte]
  split
  · rfl
  · simp [Except.map]

end FileTree

namespace TemplateEvent

variable {full : List String} {event : TemplateEvent} {past events : List TemplateEvent}
  {before : Option (List Char)} {makers makers' : List TemplateTask}

/-! ### The course of events -/

/-- **What a step can do**, by the text at the path and the calls that are still to write it:
what happens, and which calls are still to write afterwards. -/
inductive Turn (full : List String) (text : Option (List Char)) (makers : List TemplateTask) :
    TemplateEvent → List TemplateTask → Prop where
  | asks {sink} : Turn full text makers (.asked sink (.ok text.isSome)) makers
  | looks {id sink} : Turn full text makers (.looked id sink (.ok text.isSome)) makers
  | finds {id sink} (hthere : text.isSome = true) :
    Turn full text makers (.opened id sink (.ok false)) makers
  | makes {id sink} (hmissing : text = none) :
    Turn full text makers (.opened id sink (.ok true)) (makers ++ [⟨id, sink, .made full⟩])
  | writes {id sink front back} (hmakers : makers = front ++ ⟨id, sink, .made full⟩ :: back) :
    Turn full text makers (.written id sink sink.templateText) (front ++ back)
  | rewrites {text'} : Turn full text makers (.rewritten text') makers

/-- Once there is a file, there is one ever after. -/
theorem isSome_foldl_leaves (h : before.isSome = true) :
    (events.foldl leaves before).isSome = true := by
  induction events generalizing before with
  | nil => exact h
  | cons event events ih =>
    refine ih ?_
    unfold leaves
    split
    · rfl
    · rfl
    · rfl
    · exact h

/-- At a path with a file, a step only finds it, unless it is that of a call that has made the
file and writes it. -/
theorem Turn.cases_of_isSome {text : Option (List Char)} (h : Turn full text makers event makers')
    (hthere : text.isSome = true) : event.Finds ∧ makers' = makers ∨
      ∃ id sink front back, event = .written id sink sink.templateText ∧
        makers = front ++ ⟨id, sink, .made full⟩ :: back ∧ makers' = front ++ back := by
  cases h with
  | asks =>
    rw [hthere]
    exact .inl ⟨.asked, rfl⟩
  | looks =>
    rw [hthere]
    exact .inl ⟨.looked, rfl⟩
  | finds => exact .inl ⟨.opened, rfl⟩
  | makes hmissing => simp [hmissing] at hthere
  | writes hmakers => exact .inr ⟨_, _, _, _, rfl, hmakers, rfl⟩
  | rewrites => exact .inl ⟨.rewritten, rfl⟩

/-- **One more step** carries the course on. -/
theorem Course.turn (hc : Course before past makers)
    (h : Turn full (past.foldl leaves before) makers event makers') :
    Course before (past ++ [event]) makers' := by
  have hthere (first since : List TemplateEvent) (id : Nat) (sink : LinesSink) :
      ((first ++ .opened id sink (.ok true) :: since).foldl leaves before).isSome = true := by
    rw [List.foldl_append, List.foldl_cons]
    exact isSome_foldl_leaves rfl
  have hmore {p : TemplateEvent → Prop} {l : List TemplateEvent} (hl : ∀ e ∈ l, p e)
      (hevent : p event) : ∀ e ∈ l ++ [event], p e := by
    rw [List.forall_mem_append, List.forall_mem_singleton]
    exact ⟨hl, hevent⟩
  cases hc with
  | unmade hpast =>
    cases h with
    | asks => exact .unmade (hmore hpast .asked)
    | looks => exact .unmade (hmore hpast .looked)
    | finds => exact .unmade (hmore hpast .opened)
    | makes hmissing => exact .made hpast hmissing (List.forall_mem_nil _)
    | writes hmakers => simp at hmakers
    | rewrites => exact .unmade (hmore hpast .rewritten)
  | @made first id sink _ since hfirst hmissing hsince =>
    -- The file is there from when it was made, so this step is one that finds it, or the writing.
    rcases h.cases_of_isSome (hthere ..) with
      ⟨hfinds, rfl⟩ | ⟨id', sink', front, back, rfl, hmakers, rfl⟩
    · rw [List.append_assoc, List.cons_append]
      exact .made hfirst hmissing (hmore hsince hfinds)
    · -- The call that writes is the one that has made the file.
      obtain ⟨rfl, hmakers, rfl⟩ | ⟨rest, hmakers, -⟩ :=
        ListFacts.append_singleton_eq_append_cons_iff.mp
          (show [] ++ [_] = front ++ _ :: back from hmakers)
      · cases hmakers
        rw [List.append_assoc, List.cons_append]
        exact .written hfirst hmissing hsince (List.forall_mem_nil _)
      · simp at hmakers
  | @written first id sink since after hfirst hmissing hsince hafter =>
    -- Nobody is left who would write.
    rcases h.cases_of_isSome (hthere ..) with ⟨hfinds, rfl⟩ | ⟨_, _, front, back, -, hmakers, -⟩
    · have hassoc : first ++ TemplateEvent.opened id sink (.ok true) ::
          (since ++ .written id sink sink.templateText :: after) ++ [event] =
            first ++ .opened id sink (.ok true) ::
              (since ++ .written id sink sink.templateText :: (after ++ [event])) := by
        simp
      rw [hassoc]
      exact .written hfirst hmissing hsince (hmore hafter hfinds)
    · simp at hmakers

end TemplateEvent

namespace SharedTemplate

open TemplateEvent

variable {t t' last : SharedTemplate} {path : String} {full : List String} {next : TemplateStep}
  {steps : List TemplateStep} {event : TemplateEvent} {past events : List TemplateEvent}
  {before text : Option (List Char)}

/-! ### Single steps -/

/-- What a run keeps: the path, which leads to a place for a file, with this text, and that the
calls that are still to write it have made it there. -/
structure Seated (t : SharedTemplate) (path : String) (full : List String)
    (text : Option (List Char)) : Prop where
  path_eq : t.path = path
  place : t.files.PlaceFor path full
  text_eq : t.files.file? full = text
  made : ∀ task ∈ t.makers, task.stage = .made full

theorem Seated.schemaExists_eq {sink : LinesSink} (h : t.Seated path full text)
    (hpath : sink.templatePath = some path) : sink.schemaExists t.files = .ok text.isSome := by
  simp [LinesSink.schemaExists, hpath, h.place.exists?_eq, h.text_eq, Except.mapError]

/-- Opening the file anew makes it if nothing is there, and else finds it. -/
theorem Seated.openFor (h : t.Seated path full text) (id : Nat) (sink : LinesSink) :
    (t.openFor id sink).1.Seated path full ((t.openFor id sink).2.leaves text) ∧
      Turn full text t.makers (t.openFor id sink).2 (t.openFor id sink).1.makers := by
  obtain ⟨hpath, hplace, htext, hmade⟩ := h
  rw [SharedTemplate.openFor, hpath, hplace.openNew_eq, htext]
  cases text with
  | some text => exact ⟨⟨hpath, hplace, htext, hmade⟩, .finds rfl⟩
  | none =>
    have hmakers : makers { t with
        files := t.files.put full []
        tasks := t.tasks ++ [⟨id, sink, .made full⟩] } =
          t.makers ++ [⟨id, sink, .made full⟩] := by
      simp [makers]
    refine ⟨⟨rfl, hplace.put [], FileTree.file?_put .., ?_⟩, ?_⟩
    · intro task htask
      rcases List.mem_append.mp (hmakers ▸ htask) with htask | htask
      · exact hmade task htask
      · rw [List.mem_singleton.mp htask]
    · exact hmakers ▸ .makes rfl

/-- The call that a number belongs to, among the others. -/
theorem exists_split_of_find {tasks : List TemplateTask} {id : Nat} {task : TemplateTask}
    (h : tasks.find? (·.id = id) = some task) : ∃ front back, tasks = front ++ task :: back ∧
      tasks.eraseP (·.id = task.id) = front ++ back := by
  obtain ⟨hid, front, back, rfl, hfront⟩ := List.find?_eq_some_iff_append.mp h
  obtain rfl : task.id = id := by simpa using hid
  refine ⟨front, back, rfl, ?_⟩
  rw [List.eraseP_append_right _ (by simpa using hfront), List.eraseP_cons_of_pos (by simp)]

/-- **Each step takes one of the turns**, and what a run keeps holds of the new text. -/
theorem Seated.step (h : t.Seated path full text) (hstep : t.step next = some (t', event)) :
    t'.Seated path full (event.leaves text) ∧ Turn full text t.makers event t'.makers := by
  cases next with
  | ask sink =>
    simp only [SharedTemplate.step] at hstep
    split at hstep
    · rename_i hpath
      rw [h.schemaExists_eq (h.path_eq ▸ hpath)] at hstep
      cases hstep
      exact ⟨h, .asks⟩
    · cases hstep
  | create id sink =>
    simp only [SharedTemplate.step] at hstep
    split at hstep
    · have hopen := h.openFor id sink
      rwa [Option.some.inj hstep] at hopen
    · cases hstep
  | ensure id sink =>
    simp only [SharedTemplate.step] at hstep
    split at hstep
    · rename_i hguard
      rw [h.schemaExists_eq (h.path_eq ▸ hguard.1)] at hstep
      -- A look that finds nothing leaves a call under way, which has not made the file.
      have hmakers : makers { t with tasks := t.tasks ++ [⟨id, sink, .missing⟩] } = t.makers := by
        simp [makers]
      cases text with
      | some text =>
        cases hstep
        exact ⟨h, .looks⟩
      | none =>
        cases hstep
        exact ⟨⟨h.path_eq, h.place, h.text_eq, hmakers ▸ h.made⟩, hmakers ▸ .looks⟩
    · cases hstep
  | proceed id =>
    simp only [SharedTemplate.step] at hstep
    split at hstep
    · cases hstep
    · rename_i id' sink stage hfind
      obtain ⟨front, back, htasks, herase⟩ := exists_split_of_find hfind
      rw [herase] at hstep
      cases stage with
      | missing =>
        have hmakers : makers { t with tasks := front ++ back } = t.makers := by
          simp [makers, htasks]
        have hrest : Seated { t with tasks := front ++ back } path full text :=
          ⟨h.path_eq, h.place, h.text_eq, hmakers ▸ h.made⟩
        have hopen := hrest.openFor id' sink
        rwa [Option.some.inj hstep, hmakers] at hopen
      | made full' =>
        have hmakers : t.makers = front.filter (·.stage ≠ .missing) ++ ⟨id', sink, .made full'⟩ ::
            back.filter (·.stage ≠ .missing) := by
          simp [makers, htasks]
        obtain rfl : full' = full := by
          simpa using h.made ⟨id', sink, .made full'⟩ (by simp [hmakers])
        cases hstep
        refine ⟨⟨h.path_eq, h.place.put _, ?_, fun task htask => h.made task ?_⟩, ?_⟩
        · rw [FileTree.writeOver, FileTree.file?_put, h.text_eq]
          rfl
        · simp only [makers, List.filter_append, List.mem_append] at htask
          rw [hmakers, List.mem_append, List.mem_cons]
          exact htask.imp_right .inr
        · simpa [makers] using Turn.writes hmakers
  | rewrite text' =>
    simp only [SharedTemplate.step, h.path_eq, h.place.overwrite_eq] at hstep
    cases hstep
    exact ⟨⟨rfl, h.place.put text', FileTree.file?_put .., h.made⟩, .rewrites⟩

/-- **A call that begins while there is a file** finds it, and leaves all as it is. -/
theorem Seated.finds {sink : LinesSink} (h : t.Seated path full text)
    (hthere : text.isSome = true) (hpath : sink.templatePath = some path) :
    t.step (.ask sink) = some (t, .asked sink (.ok true)) ∧
      ∀ id, t.tasks.all (·.id ≠ id) = true →
        t.step (.create id sink) = some (t, .opened id sink (.ok false)) ∧
        t.step (.ensure id sink) = some (t, .looked id sink (.ok true)) := by
  have hexists : sink.schemaExists t.files = .ok true := by
    rw [h.schemaExists_eq hpath, hthere]
  have hopen : t.files.openNew t.path = .ok none := by
    rw [h.path_eq, h.place.openNew_eq, h.text_eq, if_pos hthere]
  rw [← h.path_eq] at hpath
  refine ⟨by simp only [SharedTemplate.step, if_pos hpath, hexists], fun id hnew => ?_⟩
  simp only [SharedTemplate.step, if_pos (And.intro hpath hnew), hexists, SharedTemplate.openFor,
    hopen, and_self]

/-- What a run keeps, with what has happened in it. -/
structure Kept (before : Option (List Char)) (path : String) (full : List String)
    (past : List TemplateEvent) (t : SharedTemplate) : Prop where
  seated : t.Seated path full (past.foldl leaves before)
  course : Course before past t.makers
  /-- Once a call has tried to make the file, there is one. -/
  tried : (∃ id sink made, .opened id sink (.ok made) ∈ past) →
    (past.foldl leaves before).isSome = true

theorem Kept.step (h : Kept before path full past t) (hstep : t.step next = some (t', event)) :
    Kept before path full (past ++ [event]) t' := by
  obtain ⟨hseated, hturn⟩ := h.seated.step hstep
  have htext : (past ++ [event]).foldl leaves before = event.leaves (past.foldl leaves before) := by
    simp
  refine ⟨htext ▸ hseated, h.course.turn hturn, ?_⟩
  rintro ⟨id, sink, made, hmem⟩
  rw [List.foldl_append]
  -- A call that tried before left a file there; one that tries now makes it or finds it.
  rcases List.mem_append.mp hmem with hmem | hmem
  · exact isSome_foldl_leaves (h.tried ⟨id, sink, made, hmem⟩)
  · obtain rfl := List.mem_singleton.mp hmem
    generalize t'.makers = makers at hturn
    cases hturn with
    | finds hthere => exact hthere
    | makes => rfl

theorem Kept.run (h : Kept before path full past t) (hrun : t.run steps = some (last, events)) :
    Kept before path full (past ++ events) last :=
  Steps.run_induction Kept.step h hrun

theorem kept_of_run {files : FileTree} (hplace : files.PlaceFor path full)
    (h : (start path files).run steps = some (last, events)) :
    Kept (files.file? full) path full events last := by
  have hstart : Kept (files.file? full) path full [] (start path files) :=
    ⟨⟨rfl, hplace, rfl, by simp [start, makers]⟩, .unmade (by simp), by simp⟩
  simpa using hstart.run h

/-! ### Undisturbed calls -/

/-- **A call of a sink that nobody disturbs** does what `LinesSink.createSchema` does. -/
theorem createSchema_eq {files : FileTree} {sink : LinesSink}
    (hplace : files.PlaceFor path full) (hpath : sink.templatePath = some path) (id : Nat) :
    ∃ steps last events, (∀ next ∈ steps, next = .proceed id) ∧
      (start path files).run (.create id sink :: steps) = some (last, events) ∧
      last.tasks = [] ∧ sink.createSchema files = .ok last.files := by
  have hopen := hplace.openNew_eq
  cases htext : files.file? full with
  | some text =>
    rw [htext] at hopen
    refine ⟨[], start path files, [.opened id sink (.ok false)], by simp, ?_, rfl, ?_⟩
    · simp [run, Steps.run, step, start, hpath, openFor, hopen]
    · simp [LinesSink.createSchema, hpath, FileTree.createNew_eq, hopen, Except.map,
        Except.mapError, start]
  | none =>
    rw [htext] at hopen
    refine ⟨[.proceed id],
      ⟨path, (files.put full []).writeOver full sink.templateText, []⟩,
      [.opened id sink (.ok true), .written id sink sink.templateText], by simp, ?_, rfl, ?_⟩
    · simp [run, Steps.run, step, start, hpath, openFor, hopen]
    · simp [LinesSink.createSchema, hpath, FileTree.createNew_eq, hopen, Except.map,
        Except.mapError]

/-- **A call of a writer that nobody disturbs** does what `Sink.ensureSchema` does. -/
theorem ensureSchema_eq {files : FileTree} {sink : LinesSink}
    (hplace : files.PlaceFor path full) (hpath : sink.templatePath = some path) (id : Nat) :
    ∃ steps last events, (∀ next ∈ steps, next = .proceed id) ∧
      (start path files).run (.ensure id sink :: steps) = some (last, events) ∧
      last.tasks = [] ∧ (Sink.lines sink).ensureSchema files = (.lines sink, last.files) := by
  have hopen := hplace.openNew_eq
  have hexists : sink.schemaExists files = .ok (files.file? full).isSome := by
    simp [LinesSink.schemaExists, hpath, hplace.exists?_eq, Except.mapError]
  cases htext : files.file? full with
  | some text =>
    rw [htext] at hexists
    refine ⟨[], start path files, [.looked id sink (.ok true)], by simp, ?_, rfl, ?_⟩
    · simp [run, Steps.run, step, start, hpath, hexists]
    · simp [Sink.ensureSchema, Sink.schemaExists, hexists, start]
  | none =>
    rw [htext] at hopen hexists
    refine ⟨[.proceed id, .proceed id],
      ⟨path, (files.put full []).writeOver full sink.templateText, []⟩,
      [.looked id sink (.ok false), .opened id sink (.ok true),
        .written id sink sink.templateText], by simp, ?_, rfl, ?_⟩
    · simp [run, Steps.run, step, start, hpath, openFor, hopen, hexists]
    · simp [Sink.ensureSchema, Sink.schemaExists, Sink.createSchema, hexists,
        LinesSink.createSchema, hpath, FileTree.createNew_eq, hopen, Except.map, Except.mapError]

end SharedTemplate

end MetricIngest
