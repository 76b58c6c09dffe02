/-
  A pipeline keeps to its room.

  No step changes how much room there is, and none of the stream or of the writer puts more into a
  channel or a slot than fits (`keepsRoom_of_step`). So in each state of a run there is the room of
  the beginning, and no more than that is taken up (`room_of_run`). `safe_of_valid` puts this
  together with the limits of valid settings.
-/
import MetricIngest.Pipeline.Room
import MetricIngest.Proofs.Pipeline.Runs
import MetricIngest.Proofs.Settings.Check
import MetricIngest.Proofs.Writer.Bounds

namespace MetricIngest

/-! ### The stream -/

namespace LineStream

variable {s s' : LineStream} {next : StreamStep} {log : List Taking} {out : List Sending}

/-- No channel of the stream holds more than it has room for. -/
structure Within (s : LineStream) : Prop where
  lines : s.lines.length ≤ s.settings.lineCapacity
  records : s.records.queue.length ≤ s.settings.outputCapacity
  errors : s.errors.queue.length ≤ s.settings.outputCapacity

theorem settings_of_move (h : Move s next s' log out) : s'.settings = s.settings := by
  cases h <;> rfl

/-- A receiver makes room. -/
theorem length_queue_of_receive {β : Type} {o o' : Outlet β} (h : o.receive = some o') :
    o'.queue.length ≤ o.queue.length := by
  obtain ⟨_, b, hqueue, _⟩ := Outlet.receive_eq_some h
  rw [hqueue, List.length_cons]
  exact Nat.le_succ _

theorem Within.move (hw : s.Within) (h : Move s next s' log out) : s'.Within := by
  obtain ⟨hlines, hrecords, herrors⟩ := hw
  cases h with
  | enqueue place hc room =>
    refine ⟨?_, hrecords, herrors⟩
    rw [List.length_append]
    exact room
  | pass place hlines' | decode place hlines' =>
    rw [hlines', List.length_cons] at hlines
    exact ⟨Nat.le_of_succ_le hlines, hrecords, herrors⟩
  | sendRecord place hopen room =>
    refine ⟨hlines, ?_, herrors⟩
    simp only [setWorker, List.length_append]
    exact room
  | sendError place hopen room =>
    refine ⟨hlines, hrecords, ?_⟩
    simp only [setWorker, List.length_append]
    exact room
  | receiveRecord hreceive =>
    exact ⟨hlines, Nat.le_trans (length_queue_of_receive hreceive) hrecords, herrors⟩
  | receiveError hreceive =>
    exact ⟨hlines, hrecords, Nat.le_trans (length_queue_of_receive hreceive) herrors⟩
  | dropRecords => exact ⟨hlines, Nat.zero_le _, herrors⟩
  | dropErrors => exact ⟨hlines, hrecords, Nat.zero_le _⟩
  | _ => exact ⟨hlines, hrecords, herrors⟩

end LineStream

/-! ### The writer -/

namespace Writer

variable {α : Type} {w w' : Writer α} {next : WriterStep α} {events : History α}

/-- No more records are in the pipe, and no more tasks begin, than there is room for. -/
structure Within (w : Writer α) : Prop where
  pipe : w.pipe.length ≤ w.settings.pipeCapacity
  tasks : w.flushes.length ≤ w.slots.count

theorem Within.move (hw : w.Within) (h : Move w next w' events) : w'.Within := by
  obtain ⟨hsettings, hslots⟩ := settings_of_move h
  constructor
  · rw [hsettings]
    exact h.length_pipe_le hw.pipe
  · rw [hslots]
    exact h.length_flushes_le hw.tasks

end Writer

/-! ### The pipeline -/

namespace Pipeline

open History

variable {p p' p'' : Pipeline} {next : PipelineStep} {steps : List PipelineStep}
  {events : History Record} {rules : RuleTable} {settings : Settings}
  {pieces : List (List UInt8)} {fails cancelled : Bool} {horizon : Nat}

/-- No more room is taken up than there is. -/
def Fits (p : Pipeline) : Prop := ∀ room, p.used room ≤ p.capacity room

theorem fits_iff : p.Fits ↔ p.stream.Within ∧ p.writer.Within := by
  constructor
  · intro h
    exact ⟨⟨h .lines, h .records, h .faults⟩, ⟨h .pipe, h .slots⟩⟩
  · rintro ⟨hstream, hwriter⟩ room
    cases room with
    | pipe => exact hwriter.pipe
    | records => exact hstream.records
    | faults => exact hstream.errors
    | lines => exact hstream.lines
    | slots => exact hwriter.tasks

/-- **How room is kept** from one state to another: there is as much as before, and if what is
there fits before, then it does so after. -/
structure KeepsRoom (p p' : Pipeline) : Prop where
  capacity_eq : p'.capacity = p.capacity
  fits : p.Fits → p'.Fits

theorem KeepsRoom.refl (p : Pipeline) : p.KeepsRoom p where
  capacity_eq := rfl
  fits := id

theorem KeepsRoom.trans (h : p.KeepsRoom p') (h' : p'.KeepsRoom p'') : p.KeepsRoom p'' where
  capacity_eq := h'.capacity_eq.trans h.capacity_eq
  fits := h'.fits ∘ h.fits

theorem keepsRoom_of_stream {taken : StreamStep} {stream : LineStream}
    (h : p.stream.step taken = some stream) : p.KeepsRoom { p with stream } where
  capacity_eq := by
    funext room
    cases room with
    | records | faults | lines =>
      simp only [capacity, LineStream.settings_of_move (LineStream.move_of_step h)]
    | pipe | slots => rfl
  fits := by
    rw [fits_iff, fits_iff]
    rintro ⟨hstream, hwriter⟩
    exact ⟨hstream.move (LineStream.move_of_step h), hwriter⟩

theorem keepsRoom_of_writer {taken : WriterStep Record} {writer : Writer Record}
    (h : p.writer.step taken = some (writer, events)) : p.KeepsRoom { p with writer } where
  capacity_eq := by
    obtain ⟨hsettings, hslots⟩ := Writer.settings_of_move (Writer.move_of_step h)
    funext room
    cases room with
    | pipe | slots => simp only [capacity, hsettings, hslots]
    | records | faults | lines => rfl
  fits := by
    rw [fits_iff, fits_iff]
    rintro ⟨hstream, hwriter⟩
    exact ⟨hstream, hwriter.move (Writer.move_of_step h)⟩

/-- **A step keeps to the room**: it is a step of the stream, or of the writer, or of both, or of
neither. -/
theorem keepsRoom_of_step (h : p.step next = some (p', events)) : p.KeepsRoom p' := by
  cases move_of_step h with
  | flow _ _ _ hstream => exact keepsRoom_of_stream hstream
  | @forward _ _ stream writer _ _ hstream hwriter | @cancel stream writer _ hstream hwriter =>
    have hpart : ({ p with stream } : Pipeline).KeepsRoom { p with stream, writer } :=
      keepsRoom_of_writer hwriter
    exact (keepsRoom_of_stream hstream).trans hpart
  | closeBuffer _ hwriter | write _ _ hwriter => exact keepsRoom_of_writer hwriter
  | fail => exact ⟨rfl, id⟩

theorem keepsRoom_of_run (h : p.run steps = some (p', events)) : p.KeepsRoom p' :=
  Steps.run_related (R := fun p _ p' => KeepsRoom p p') .refl .trans keepsRoom_of_step h

/-- Nothing takes up room at the beginning. -/
theorem fits_start : (start rules settings pieces fails cancelled horizon).Fits := by
  intro room
  cases room <;> exact Nat.zero_le _

/-- **The room of a run** is the room of its beginning, and what is there fits at all times. -/
theorem room_of_run (h : (start rules settings pieces fails cancelled horizon).run steps =
    some (p, events)) :
    p.capacity = (start rules settings pieces fails cancelled horizon).capacity ∧ p.Fits := by
  have hkeeps := keepsRoom_of_run h
  exact ⟨hkeeps.capacity_eq, hkeeps.fits fits_start⟩

end Pipeline

/-! ### Valid settings -/

namespace Settings

variable {s : Settings}

/-- **Valid settings are safe to run with.** -/
theorem safe_of_valid (h : s.Valid) : s.Safe := by
  have hpipe := s.writer.pipeCapacity_eq
  have houtput := h.outputCapacity_eq
  have hlines := h.lineCapacity_eq
  have hslots := h.workers_eq
  have hchannels := h.channelCapacity
  have hworkers := h.workers
  have hconcurrency := h.concurrency
  refine ⟨hpipe, ?_, ?_, h.flushInterval, h.path⟩
  · intro rules pieces fails cancelled horizon p
    exact ⟨rfl, houtput, houtput, hlines, hslots⟩
  · intro rules pieces fails cancelled horizon steps p events hrun room
    obtain ⟨hcapacity, hfits⟩ := Pipeline.room_of_run hrun
    have hmem : 1 ≤ p.capacity room ∧ p.capacity room ≤ 0x1000000 := by
      rw [hcapacity]
      cases room with
      | pipe =>
        show 1 ≤ s.writer.pipeCapacity ∧ s.writer.pipeCapacity ≤ 0x1000000
        omega
      | records | faults =>
        show 1 ≤ s.decoder.outputCapacity ∧ s.decoder.outputCapacity ≤ 0x1000000
        omega
      | lines =>
        show 1 ≤ s.decoder.lineCapacity ∧ s.decoder.lineCapacity ≤ 0x1000000
        omega
      | slots =>
        show 1 ≤ s.writer.workers ∧ s.writer.workers ≤ 0x1000000
        omega
    exact ⟨hmem.1, hmem.2, hfits room⟩

end Settings

end MetricIngest
