/-
  Loaded settings come from the three layers.

  A setting of a section is read from its place or has its default (`setting_eq_some_iff`), so a
  document gives the settings that it describes (`described_of_ofText`). The environment is laid
  over these: it is accepted just when its two counts are, and then it changes five settings at the
  most (`override_eq_ok_iff`). Settings load just when the result of this is valid
  (`load_eq_ok_iff`), and they are read from one document (`exists_document`).
-/
import MetricIngest.Proofs.Number.Digits
import MetricIngest.Proofs.Results
import MetricIngest.Proofs.Settings.Check
import MetricIngest.Proofs.Text.Cuts
import MetricIngest.Proofs.Text.Utf8
import MetricIngest.Settings.Layers

namespace MetricIngest.Settings

open ResultFacts
open Toml (Value Members)

variable {α : Type} {s below given : Settings} {env : Environment}
  {readFile : String → Except IoError (List UInt8)} {doc : Members} {value : String} {n : Nat}

/-! ### What a document gives -/

theorem setting_eq_some_iff {sec : Section} {name : String} {position : Nat} {default x : α}
    {read : Value → Option α} :
    setting sec name position default read = some x ↔
      Given (sec ⟨name, position⟩) read default x := by
  unfold setting
  constructor
  · intro h
    split at h
    · rename_i habsent
      cases h
      exact .absent habsent
    · rename_i v hheld
      exact .held hheld h
  · rintro (⟨hheld, hread⟩ | habsent)
    · rw [hheld]
      exact hread
    · rw [habsent]

theorem Decoding.exists_described {v : Value} {d : Decoding} (h : Decoding.ofValue? v = some d) :
    ∃ sec, section? v = some sec ∧ d.Described sec := by
  simp only [Decoding.ofValue?, Option.bind_eq_bind, Option.bind_eq_some_iff,
    setting_eq_some_iff] at h
  obtain ⟨sec, hsec, _, hrules, _, hworkers, _, hcapacity, _, hmode, heq⟩ := h
  cases heq
  exact ⟨sec, hsec, hrules, hworkers, hcapacity, hmode⟩

theorem Batching.exists_described {v : Value} {b : Batching} (h : Batching.ofValue? v = some b) :
    ∃ sec, section? v = some sec ∧ b.Described sec := by
  simp only [Batching.ofValue?, Option.bind_eq_bind, Option.bind_eq_some_iff,
    setting_eq_some_iff] at h
  obtain ⟨sec, hsec, _, hconcurrency, _, hbulk, _, hinterval, _, hfactor, heq⟩ := h
  cases heq
  exact ⟨sec, hsec, hconcurrency, hbulk, hinterval, hfactor⟩

theorem Output.exists_described {v : Value} {o : Output} (h : Output.ofValue? v = some o) :
    ∃ sec, section? v = some sec ∧ o.Described sec := by
  simp only [Output.ofValue?, Option.bind_eq_bind, Option.bind_eq_some_iff,
    setting_eq_some_iff] at h
  obtain ⟨sec, hsec, _, hkind, _, hpath, _, hindex, _, htype, _, htemplate, heq⟩ := h
  cases heq
  exact ⟨sec, hsec, hkind, hpath, hindex, htype, htemplate⟩

theorem Logging.exists_described {v : Value} {l : Logging} (h : Logging.ofValue? v = some l) :
    ∃ sec, section? v = some sec ∧ l.Described sec := by
  simp only [Logging.ofValue?, Option.bind_eq_bind, Option.bind_eq_some_iff,
    setting_eq_some_iff] at h
  obtain ⟨sec, hsec, _, hlevel, _, hjson, heq⟩ := h
  cases heq
  exact ⟨sec, hsec, hlevel, hjson⟩

/-- A section is read at its name; where there is none the defaults stand, as they do where an
empty table is read. -/
theorem described_of_given {name : String} {read : Value → Option α} {default x : α}
    {Describes : Section → α → Prop} (hempty : read (.table .header []) = some default)
    (hread : ∀ {v x}, read v = some x → ∃ sec, section? v = some sec ∧ Describes sec x)
    (h : Given (doc.get? name) read default x) : Describes (sectionOf doc name) x := by
  unfold sectionOf
  cases h with
  | held hheld hv =>
    obtain ⟨sec, hsec, hdescribes⟩ := hread hv
    rw [hheld, Option.bind_some, hsec]
    exact hdescribes
  | absent habsent =>
    obtain ⟨sec, hsec, hdescribes⟩ := hread hempty
    obtain rfl := Option.some.inj hsec
    rw [habsent]
    exact hdescribes

theorem described_of_ofMembers? (h : ofMembers? doc = some s) : s.Described doc := by
  simp only [ofMembers?, section?, Option.bind_eq_bind, Option.bind_some, Option.bind_eq_some_iff,
    setting_eq_some_iff] at h
  obtain ⟨_, hdecoder, _, hwriter, _, hsink, _, hlogging, heq⟩ := h
  cases heq
  exact {
    decoder := described_of_given rfl Decoding.exists_described hdecoder
    writer := described_of_given rfl Batching.exists_described hwriter
    sink := described_of_given rfl Output.exists_described hsink
    logging := described_of_given rfl Logging.exists_described hlogging }

/-- **A text that is read gives the settings that it describes.** -/
theorem described_of_ofText {text : String} (h : ofText text = .ok s) :
    ∃ doc, Toml.read? text = some doc ∧ s.Described doc := by
  unfold ofText at h
  split at h
  · cases h
  · rename_i s' hread
    cases h
    obtain ⟨doc, hdoc, hmembers⟩ := Option.bind_eq_some_iff.mp hread
    exact ⟨doc, hdoc, described_of_ofMembers? hmembers⟩

/-- **Settings have a document**: the one that the environment names, or an empty one. -/
theorem exists_document (h : base env readFile = .ok s) :
    ∃ doc, Document env readFile doc ∧ s.Described doc := by
  unfold base at h
  split at h
  · rename_i hunnamed
    cases h
    exact ⟨[], .unnamed hunnamed, described_of_ofMembers? rfl⟩
  · rename_i path hnamed
    split at h
    · cases h
    · rename_i bytes hholds
      unfold ofBytes at h
      split at h
      · cases h
      · rename_i cs hdecode
        obtain ⟨doc, hreads, hdescribed⟩ := described_of_ofText h
        rw [← Text.Utf8.decode?_eq_some_iff.mp hdecode] at hholds
        exact ⟨doc, .named hnamed hholds hreads, hdescribed⟩

/-! ### What the environment gives -/

/-- A run of digits is read as a count if a word holds its number. -/
theorem wordOfDigits_eq_some_iff {cs : List Char} :
    ((Numeral.natural? cs).bind fun m => if m ≤ wordLimit then some m else none) = some n ↔
      cs ≠ [] ∧ (∀ c ∈ cs, Text.IsDigit c) ∧ Numeral.digitsValue cs = n ∧ n ≤ wordLimit := by
  simp only [Option.bind_eq_some_iff, Numeral.natural?_eq_some_iff, Option.ite_none_right_eq_some,
    Option.some.injEq]
  constructor
  · rintro ⟨_, ⟨hne, hdigits, rfl⟩, hle, rfl⟩
    exact ⟨hne, hdigits, rfl, hle⟩
  · rintro ⟨hne, hdigits, rfl, hle⟩
    exact ⟨_, ⟨hne, hdigits, rfl⟩, hle, rfl⟩

/-- **Just the texts that write a count are read as one.** -/
theorem count?_eq_some_iff : count? value = some n ↔ WritesCount value n := by
  unfold count? WritesCount
  simp only [Text.trimsTo_iff]
  split
  · rename_i cs hplus
    rw [wordOfDigits_eq_some_iff]
    constructor
    · intro h
      exact ⟨cs, Or.inr hplus, h⟩
    · rintro ⟨digits, htrim | htrim, h⟩
      · -- No digit is a plus.
        rw [hplus] at htrim
        exact absurd (h.2.1 '+' (by simp [← htrim])).1 (by decide)
      · rw [hplus, List.cons.injEq] at htrim
        rw [htrim.2]
        exact h
  · rename_i hplain
    rw [wordOfDigits_eq_some_iff]
    constructor
    · intro h
      exact ⟨_, Or.inl rfl, h⟩
    · rintro ⟨digits, htrim | htrim, h⟩
      · rw [htrim]
        exact h
      · exact absurd htrim (hplain digits)

theorem overriddenCount_eq_ok_iff {key : String} {old : Nat} :
    overriddenCount env key old = .ok n ↔ Overridden (env key) WritesCount old n := by
  unfold overriddenCount
  constructor
  · intro h
    split at h
    · rename_i hunset
      cases h
      exact .unset hunset
    · rename_i value hset
      split at h
      · cases h
      · rename_i m hcount
        cases h
        exact .set hset (count?_eq_some_iff.mp hcount)
  · rintro (⟨hset, hwrites⟩ | hunset)
    · rw [hset]
      dsimp only
      rw [count?_eq_some_iff.mpr hwrites]
    · rw [hunset]

/-- A variable whose text is the value, or is made into it, gives it if it is set. -/
theorem overridden_eq_iff {make : String → α} {said : Option String} {old x : α} :
    Overridden said (fun value x => x = make value) old x ↔ x = (said.map make).getD old := by
  constructor
  · rintro (⟨rfl, rfl⟩ | rfl)
    · rfl
    · rfl
  · rintro rfl
    cases said with
    | none => exact .unset rfl
    | some value => exact .set rfl rfl

/-- **The environment is laid over settings** just when its counts are counts; it changes five
settings at the most. -/
theorem override_eq_ok_iff : below.override env = .ok s ↔ Overrides env below s := by
  have hpath : (env Environment.rulesFile).or below.decoder.rulesFile =
      ((env Environment.rulesFile).map some).getD below.decoder.rulesFile := by
    cases env Environment.rulesFile <;> rfl
  unfold override
  simp only [bind_eq_ok_iff, overriddenCount_eq_ok_iff]
  constructor
  · rintro ⟨concurrency, hconcurrency, bulkMax, hbulkMax, heq⟩
    cases heq
    exact {
      rulesFile := overridden_eq_iff.mpr hpath
      level := overridden_eq_iff.mpr (by rw [Option.map_id'])
      concurrency := hconcurrency
      bulkMax := hbulkMax
      index := overridden_eq_iff.mpr (by rw [Option.map_id'])
      others := rfl }
  · intro h
    have hrules := overridden_eq_iff.mp h.rulesFile
    have hlevel := overridden_eq_iff.mp h.level
    have hindex := overridden_eq_iff.mp h.index
    rw [Option.map_id'] at hlevel hindex
    refine ⟨_, h.concurrency, _, h.bulkMax, congrArg Except.ok ?_⟩
    rw [hpath, ← hrules, ← hlevel, ← hindex]
    exact h.others.symm

/-! ### Both -/

/-- **Settings load** just when the environment is laid over those of the document and the result
is valid. -/
theorem load_eq_ok_iff : load env readFile = .ok s ↔
    ∃ given, base env readFile = .ok given ∧ Overrides env given s ∧ s.Valid := by
  unfold load
  simp only [bind_eq_ok_iff, override_eq_ok_iff]
  constructor
  · rintro ⟨given, hbase, s', hoverrides, _, hcheck, heq⟩
    cases heq
    exact ⟨given, hbase, hoverrides, check_eq_ok_iff.mp hcheck⟩
  · rintro ⟨given, hbase, hoverrides, hvalid⟩
    exact ⟨given, hbase, s, hoverrides, (), check_eq_ok_iff.mpr hvalid, rfl⟩

end MetricIngest.Settings
