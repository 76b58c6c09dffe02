/-
  Settings that load are safe to run with.

  The value of each setting comes from the topmost layer that has one, and the settings that result
  are valid (`Settings.load_eq_ok_iff`). Valid settings leave a pipeline room for at least one of
  everything and never for too many (`Settings.safe_of_valid`), and the program finds a path for a
  sink that is a file, so it never ends for the want of one (`run_ne_missingPath`).
  `Settings.safe_of_load` puts this together.
-/
import MetricIngest.Program
import MetricIngest.Proofs.Pipeline.Room
import MetricIngest.Proofs.Settings.Layers

namespace MetricIngest

open ResultFacts

/-! ### The program -/

namespace Program

variable {o : Settings.Output} {files : FileTree}

/-- A path is missing just where the sink is a file and the settings give none. -/
theorem openSink_eq_missingPath_iff :
    openSink o files = .error .missingPath ↔ o.kind = .file ∧ o.path = none := by
  unfold openSink
  constructor
  · intro h
    split at h
    · obtain ⟨e, _, he⟩ := mapError_eq_error_iff.mp h
      cases he
    · rename_i hkind hpath
      exact ⟨hkind, hpath⟩
    · cases h
  · rintro ⟨hkind, hpath⟩
    rw [hkind, hpath]

/-- **No run of the program ends for the want of a path.** -/
theorem run_ne_missingPath [PatternLanguage] (env : Settings.Environment) (files : FileTree)
    (input : List UInt8) (now : Timestamp) : run env files input now ≠ .error .missingPath := by
  intro h
  unfold run at h
  obtain hload | ⟨s, hload, h⟩ := bind_eq_error_iff.mp h
  · obtain ⟨e, _, he⟩ := mapError_eq_error_iff.mp hload
    cases he
  obtain hrules | ⟨rules, _, h⟩ := bind_eq_error_iff.mp h
  · obtain ⟨e, _, he⟩ := mapError_eq_error_iff.mp hrules
    cases he
  obtain hsink | ⟨opened, _, h⟩ := bind_eq_error_iff.mp h
  · obtain ⟨_, _, _, hvalid⟩ := Settings.load_eq_ok_iff.mp (mapError_eq_ok_iff.mp hload)
    obtain ⟨hkind, hnone⟩ := openSink_eq_missingPath_iff.mp hsink
    obtain ⟨path, hpath⟩ := hvalid.path hkind
    rw [hnone] at hpath
    cases hpath
  · cases h

end Program

/-! ### Loading -/

namespace Settings

/-- **Settings that load are safe to run with.** They are read from the document that the
environment names, or from an empty one: each setting is what the document holds for it, or else
its default, and the environment changes just the five settings for which it has variables, to
what these say. The same holds of settings that are changed by an environment and then checked.
The settings that result are safe, and no run of the program, with patterns of any language, finds
that a path is missing. -/
theorem safe_of_load :
    (∀ env readFile s, load env readFile = .ok s →
      ∃ doc given, Document env readFile doc ∧ given.Described doc ∧ Overrides env given s ∧
        s.Safe) ∧
    (∀ env given s, given.override env = .ok s → s.check = .ok () →
      Overrides env given s ∧ s.Safe ∧ ∀ text, ofText text = .ok given →
        ∃ doc, Toml.read? text = some doc ∧ given.Described doc) ∧
    ∀ [PatternLanguage] env files input now,
      Program.run env files input now ≠ .error .missingPath := by
  refine ⟨?_, ?_, Program.run_ne_missingPath⟩
  · intro env readFile s h
    obtain ⟨given, hbase, hoverrides, hvalid⟩ := load_eq_ok_iff.mp h
    obtain ⟨doc, hdocument, hdescribed⟩ := exists_document hbase
    exact ⟨doc, given, hdocument, hdescribed, hoverrides, safe_of_valid hvalid⟩
  · intro env given s hoverride hcheck
    exact ⟨override_eq_ok_iff.mp hoverride, safe_of_valid (check_eq_ok_iff.mp hcheck),
      fun _ => described_of_ofText⟩

/-- A document whose pipe is larger than any that there is, with a sink that is a file. -/
def hugePipe : String :=
  "[writer]\npipe_factor = 9223372036854775807\n[sink]\nkind = \"file\"\npath = \"out\"\n"

/-- An environment that names a file and gives the size of a batch. -/
def largerBatches : Environment := fun key =>
  [(Environment.file, "settings"), (Environment.bulkMax, " +2000 ")].lookup key

theorem safe_of_load_hugePipe : ∃ given s : Settings,
    let readFile := fun _ : String => Except.ok (Text.Utf8.encode hugePipe)
    load largerBatches readFile = .ok s ∧
    (∃ doc below, Document largerBatches readFile doc ∧ below.Described doc ∧
      Overrides largerBatches below s) ∧
    ofText hugePipe = .ok given ∧ given.override largerBatches = .ok s ∧ s.check = .ok () ∧
    Overrides largerBatches given s ∧ given.writer.bulkMax = 1000 ∧ s.writer.bulkMax = 2000 ∧
    s.Safe ∧ s.writer.pipeCapacity = 0x1000000 ∧ ∃ path, s.sink.path = some path := by
  obtain ⟨hofLoad, hofOverride, -⟩ := safe_of_load
  let given : Settings :=
    { writer := { pipeFactor := 9223372036854775807 }
      sink := { kind := .file, path := some "out" } }
  let s : Settings := { given with writer.bulkMax := 2000 }
  have hload : load largerBatches (fun _ => .ok (Text.Utf8.encode hugePipe)) = .ok s := by
    decide +kernel
  have htext : ofText hugePipe = .ok given := by decide +kernel
  have hoverride : given.override largerBatches = .ok s := by decide +kernel
  have hcheck : s.check = .ok () := by decide +kernel
  obtain ⟨doc, below, hdocument, hdescribed, hbelow, _⟩ := hofLoad _ _ _ hload
  obtain ⟨hoverrides, hsafe, _⟩ := hofOverride _ _ _ hoverride hcheck
  refine ⟨given, s, hload, ⟨doc, below, hdocument, hdescribed, hbelow⟩, htext, hoverride, hcheck,
    hoverrides, rfl, rfl, hsafe, ?_, hsafe.path rfl⟩
  exact hsafe.pipeCapacity_eq.trans (by decide +kernel)

end Settings

end MetricIngest
