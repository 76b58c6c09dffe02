/-
  How a rule text is loaded.

  A line by itself either gives one thing or has one fault (`gives_or_faults`). Lines are read in
  order up to the first one at fault, so a text gives its rules in the order of the lines just
  when no line is at fault, and else the fault of the first such line (`ofLines_eq_ok_iff`,
  `ofLines_eq_error_iff`). A carriage return at the end of a line is white space and changes
  nothing. `ofBytes_outcome` puts this together.
-/
import MetricIngest.Proofs.Lists
import MetricIngest.Proofs.Text.Cuts
import MetricIngest.Proofs.Text.Lines
import MetricIngest.Proofs.Text.Utf8
import MetricIngest.Rules.Entry

namespace MetricIngest

/-! ### Rules -/

namespace Rule

variable [PatternLanguage] {patternText template : String} {r : Rule}

/-- A rule that is read is made of its pattern and its template. -/
theorem IsRead.of?_self (h : r.IsRead) : of? r.patternText r.template = some r := by
  rw [of?, h]
  rfl

theorem of?_eq_some_iff : of? patternText template = some r ↔
    r.patternText = patternText ∧ r.template = template ∧ r.IsRead := by
  constructor
  · intro h
    obtain ⟨applies, hfinder, rfl⟩ := Option.map_eq_some_iff.mp h
    exact ⟨rfl, rfl, hfinder⟩
  · rintro ⟨rfl, rfl, hread⟩
    exact hread.of?_self

theorem of?_eq_none_iff :
    of? patternText template = none ↔ PatternLanguage.finder? patternText = none :=
  Option.map_eq_none_iff

end Rule

namespace RuleTable

open Text

variable {number : Nat} {line : List UInt8} {cs entry before after pattern template : List Char}
  {given : Option Rule} {e : RuleError}

/-! ### One entry -/

/-- **The halves of an entry**, by the delimiters in it. -/
theorem halves?_eq_some_iff : halves? entry = some (pattern, template) ↔
    ∃ before after, CutsAt delimiter entry before after ∧ TrimsTo before pattern ∧
      ∃ upToNext, UpTo delimiter after upToNext ∧ TrimsTo upToNext template := by
  simp only [halves?, Option.map_eq_some_iff, Prod.exists, Prod.mk.injEq, cutsAt_iff, trimsTo_iff,
    upTo_iff, exists_eq_left']

theorem halves?_eq_none_iff : halves? entry = none ↔ ¬ delimiter <:+: entry := by
  rw [halves?, Option.map_eq_none_iff, cutAt_eq_none_iff]

/-! ### What a line shows -/

/-- A line shows something, or it cannot be read. -/
theorem shows_or (line : List UInt8) :
    (∃ entry, Shows line entry) ∨ ∀ cs, Utf8.encode (String.ofList cs) ≠ line := by
  by_cases h : ∃ cs, Utf8.encode (String.ofList cs) = line
  · obtain ⟨cs, hline⟩ := h
    exact Or.inl ⟨trim cs, cs, hline, trimsTo_trim cs⟩
  · exact Or.inr fun cs hline => h ⟨cs, hline⟩

theorem Shows.readable (h : Shows line entry) : ∃ cs, Utf8.encode (String.ofList cs) = line :=
  h.imp fun _ hcs => hcs.1

/-- A line shows one thing. -/
theorem Shows.unique (h : Shows line entry) {entry' : List Char} (h' : Shows line entry') :
    entry = entry' := by
  obtain ⟨cs, hline, htrims⟩ := h
  obtain ⟨cs', hline', htrims'⟩ := h'
  obtain rfl : cs = cs' := Option.some.inj
    ((Utf8.decode?_eq_some_iff.mpr hline).symm.trans (Utf8.decode?_eq_some_iff.mpr hline'))
  exact htrims.unique htrims'

/-- A line that can be read is blank, or a comment, or an entry. -/
theorem cases_of_shows (h : Shows line entry) :
    entry = [] ∨ (∃ rest, entry = '#' :: rest) ∨ IsEntry line entry := by
  cases entry with
  | nil => exact Or.inl rfl
  | cons c rest =>
    by_cases hc : c = '#'
    · exact Or.inr (Or.inl ⟨rest, hc ▸ rfl⟩)
    · exact Or.inr (Or.inr ⟨h, by simp, by simpa using hc⟩)

/-! ### What a line holds -/

variable [PatternLanguage]

/-- What a line given as bytes holds. -/
def ofLineBytes (number : Nat) (line : List UInt8) : Except RuleError (Option Rule) :=
  match Utf8.decode? line with
  | none => .error (.io .invalidUtf8)
  | some cs => ofLine number cs

/-- **What an entry gives** depends on its halves. -/
theorem ofLineBytes_of_isEntry (number : Nat) (h : IsEntry line entry) :
    ofLineBytes number line =
      match halves? entry with
      | none => .error (.missingDelimiter number)
      | some (pattern, template) =>
        match Rule.of? (String.ofList pattern) (String.ofList template) with
        | none => .error (.invalidPattern number (String.ofList pattern))
        | some rule => .ok (some rule) := by
  obtain ⟨cs, hline, htrims⟩ := h.shows
  rw [ofLineBytes, Utf8.decode?_eq_some_iff.mpr hline]
  simp only [ofLine, trimsTo_iff.mp htrims]
  exact if_neg (not_or.mpr ⟨h.ne_nil, h.head_ne⟩)

/-- A blank line and a comment give nothing. -/
theorem ofLineBytes_of_not_isEntry (number : Nat) (h : Shows line entry)
    (hnone : entry = [] ∨ entry.head? = some '#') : ofLineBytes number line = .ok none := by
  obtain ⟨cs, hline, htrims⟩ := h
  rw [ofLineBytes, Utf8.decode?_eq_some_iff.mpr hline]
  simp only [ofLine, trimsTo_iff.mp htrims]
  rw [if_pos hnone]

theorem ofLineBytes_of_gives (number : Nat) (h : Gives line given) :
    ofLineBytes number line = .ok given := by
  cases h with
  | blank hshows => exact ofLineBytes_of_not_isEntry number hshows (Or.inl rfl)
  | comment hshows => exact ofLineBytes_of_not_isEntry number hshows (Or.inr rfl)
  | rule isEntry cut pattern next template isRead =>
    have hhalves := halves?_eq_some_iff.mpr ⟨_, _, cut, pattern, _, next, template⟩
    rw [ofLineBytes_of_isEntry number isEntry, hhalves]
    dsimp only
    rw [String.ofList_toList, String.ofList_toList, isRead.of?_self]

theorem ofLineBytes_of_faults (h : Faults number line e) :
    ofLineBytes number line = .error e := by
  cases h with
  | unreadable hnone =>
    have hdecode : Utf8.decode? line = none :=
      Option.eq_none_iff_forall_ne_some.mpr fun cs hcs => hnone cs (Utf8.decode?_eq_some_iff.mp hcs)
    rw [ofLineBytes, hdecode]
  | undelimited isEntry hnot =>
    rw [ofLineBytes_of_isEntry number isEntry, halves?_eq_none_iff.mpr hnot]
  | @refused entry before after pattern isEntry cut trims hpattern =>
    have hhalves := halves?_eq_some_iff.mpr
      ⟨_, _, cut, trims, _, upTo_iff.mpr rfl, trimsTo_trim _⟩
    rw [ofLineBytes_of_isEntry number isEntry, hhalves]
    dsimp only
    rw [String.ofList_toList, Rule.of?_eq_none_iff.mpr hpattern]

/-- **Each line** gives something or is at fault. -/
theorem gives_or_faults (number : Nat) (line : List UInt8) :
    (∃ given, Gives line given) ∨ ∃ e, Faults number line e := by
  obtain ⟨entry, hshows⟩ | hnone := shows_or line
  · obtain rfl | ⟨rest, rfl⟩ | hentry := cases_of_shows hshows
    · exact Or.inl ⟨none, .blank hshows⟩
    · exact Or.inl ⟨none, .comment hshows⟩
    · cases hhalves : halves? entry with
      | none => exact Or.inr ⟨_, .undelimited hentry (halves?_eq_none_iff.mp hhalves)⟩
      | some halves =>
        obtain ⟨pattern, template⟩ := halves
        obtain ⟨before, after, hcut, hpattern, upToNext, hnext, htemplate⟩ :=
          halves?_eq_some_iff.mp hhalves
        rw [← String.toList_ofList (l := pattern)] at hpattern
        rw [← String.toList_ofList (l := template)] at htemplate
        cases hrule : Rule.of? (String.ofList pattern) (String.ofList template) with
        | none =>
          exact Or.inr ⟨_, .refused hentry hcut hpattern (Rule.of?_eq_none_iff.mp hrule)⟩
        | some r =>
          obtain ⟨hpatternText, htemplateText, hread⟩ := Rule.of?_eq_some_iff.mp hrule
          rw [← hpatternText] at hpattern
          rw [← htemplateText] at htemplate
          exact Or.inl ⟨some r, .rule hentry hcut hpattern hnext htemplate hread⟩
  · exact Or.inr ⟨_, .unreadable hnone⟩

/-- A line gives one thing. -/
theorem Gives.unique (h : Gives line given) {given' : Option Rule} (h' : Gives line given') :
    given = given' :=
  Except.ok.inj ((ofLineBytes_of_gives 1 h).symm.trans (ofLineBytes_of_gives 1 h'))

/-- A line has one fault. -/
theorem Faults.unique (h : Faults number line e) {e' : RuleError} (h' : Faults number line e') :
    e = e' :=
  Except.error.inj ((ofLineBytes_of_faults h).symm.trans (ofLineBytes_of_faults h'))

/-- A line that gives something is not at fault. -/
theorem Gives.not_faults (h : Gives line given) : ¬ Faults number line e := by
  intro hfaults
  have hline := (ofLineBytes_of_gives number h).symm.trans (ofLineBytes_of_faults hfaults)
  cases hline

theorem Gives.readable (h : Gives line given) : ∃ cs, Utf8.encode (String.ofList cs) = line := by
  cases h with
  | blank hshows => exact hshows.readable
  | comment hshows => exact hshows.readable
  | rule isEntry => exact isEntry.shows.readable

/-- What an entry gives is a rule. -/
theorem Gives.exists_rule (h : Gives line given) (hentry : IsEntry line entry) :
    ∃ r, given = some r := by
  cases h with
  | blank hshows => exact absurd (hentry.shows.unique hshows) hentry.ne_nil
  | comment hshows =>
    refine absurd ?_ hentry.head_ne
    rw [hentry.shows.unique hshows]
    rfl
  | @rule _ _ _ _ r => exact ⟨r, rfl⟩

/-- **A line gives something** just when it is sound. -/
theorem sound_iff : Sound line ↔ ∃ given, Gives line given := by
  constructor
  · rintro ⟨⟨cs, hline⟩, haccepted⟩
    refine (gives_or_faults 1 line).resolve_right fun ⟨e, hfaults⟩ => ?_
    cases hfaults with
    | unreadable hnone => exact hnone cs hline
    | undelimited isEntry hnot =>
      obtain ⟨before, after, pattern, hcut, -⟩ := haccepted _ isEntry
      exact hnot (isInfix_of_cutsAt hcut)
    | refused isEntry cut trims hpattern =>
      obtain ⟨before, after, pattern, hcut, htrims, hsome⟩ := haccepted _ isEntry
      obtain ⟨rfl, -⟩ := hcut.unique cut
      obtain rfl := String.toList_inj.mp (htrims.unique trims)
      exact hsome hpattern
  · rintro ⟨given, hgives⟩
    refine ⟨hgives.readable, fun entry hentry => ?_⟩
    obtain ⟨r, rfl⟩ := hgives.exists_rule hentry
    cases hgives with
    | rule isEntry cut pattern next template isRead =>
      obtain rfl := hentry.shows.unique isEntry.shows
      exact ⟨_, _, r.patternText, cut, pattern, Option.ne_none_iff_exists'.mpr ⟨_, isRead⟩⟩

/-- **A carriage return** at the end of a line is white space. -/
theorem ofLineBytes_append_return (number : Nat) (line : List UInt8) :
    ofLineBytes number (line ++ [carriageReturn]) = ofLineBytes number line := by
  rw [ofLineBytes, ofLineBytes, Utf8.decode?_append_byte (by decide)]
  cases Utf8.decode? line with
  | none => rfl
  | some cs =>
    have htrim : trim (cs ++ [Char.ofNat carriageReturn.toNat]) = trim cs :=
      trim_append (List.forall_mem_singleton.mpr (by decide))
    simp only [Option.map_some, ofLine, htrim]

/-! ### All lines -/

variable {lines : List (List UInt8)} {rules : List Rule} {givens : List (Option Rule)}
  {table : RuleTable} {path : String} {r : Rule}

theorem ofLines_cons (number : Nat) (line : List UInt8) (lines : List (List UInt8)) :
    ofLines number (line :: lines) = (ofLineBytes number line).bind fun given =>
      (ofLines (number + 1) lines).map fun rules => given.toList ++ rules := by
  rw [ofLines, ofLineBytes]
  cases Utf8.decode? line with
  | none => rfl
  | some cs =>
    dsimp only
    cases ofLine number cs <;> rfl

/-- Behind a line that is not at fault the next ones are read. -/
theorem ofLines_cons_of_gives (number : Nat) (h : Gives line given) (lines : List (List UInt8)) :
    ofLines number (line :: lines) =
      (ofLines (number + 1) lines).map fun rules => given.toList ++ rules := by
  rw [ofLines_cons, ofLineBytes_of_gives number h]
  rfl

/-- Behind a line at fault none is read. -/
theorem ofLines_cons_of_faults (h : Faults number line e) (lines : List (List UInt8)) :
    ofLines number (line :: lines) = .error e := by
  rw [ofLines_cons, ofLineBytes_of_faults h]
  rfl

/-- **The rules of the lines**, in their order. -/
theorem ofLines_eq_ok_iff : ofLines number lines = .ok rules ↔
    ∃ givens, List.Forall₂ Gives lines givens ∧ givens.reduceOption = rules := by
  induction lines generalizing number rules with
  | nil => simp [ofLines]
  | cons line lines ih =>
    constructor
    · intro h
      obtain ⟨given, hgives⟩ | ⟨e, hfaults⟩ := gives_or_faults number line
      · rw [ofLines_cons_of_gives number hgives] at h
        cases hlines : ofLines (number + 1) lines with
        | error e =>
          rw [hlines] at h
          cases h
        | ok rest =>
          rw [hlines] at h
          obtain rfl := Except.ok.inj h
          obtain ⟨givens, hgivens, rfl⟩ := ih.mp hlines
          refine ⟨given :: givens, .cons hgives hgivens, ?_⟩
          cases given <;> rfl
      · rw [ofLines_cons_of_faults hfaults] at h
        cases h
    · rintro ⟨_, hgivens, rfl⟩
      cases hgivens with
      | @cons _ given _ givens hgives hgivens =>
        rw [ofLines_cons_of_gives number hgives, ih.mpr ⟨givens, hgivens, rfl⟩]
        cases given <;> rfl

theorem exists_givens_iff :
    (∃ givens, List.Forall₂ Gives lines givens) ↔ ∀ line ∈ lines, Sound line := by
  induction lines with
  | nil => simp
  | cons line lines ih =>
    rw [List.forall_mem_cons, ← ih, sound_iff]
    constructor
    · rintro ⟨_, hgivens⟩
      cases hgivens with
      | cons hgives hgivens => exact ⟨⟨_, hgives⟩, _, hgivens⟩
    · rintro ⟨⟨given, hgives⟩, givens, hgivens⟩
      exact ⟨given :: givens, .cons hgives hgivens⟩

/-- **The first line at fault** is the one that counts. -/
theorem ofLines_eq_error_iff : ofLines number lines = .error e ↔
    ∃ before line after, lines = before ++ line :: after ∧
      (∀ earlier ∈ before, Sound earlier) ∧ Faults (number + before.length) line e := by
  induction lines generalizing number with
  | nil => simp [ofLines]
  | cons line lines ih =>
    have hfirst := ListFacts.exists_first_cons_iff (P := fun i line => Faults (number + i) line e)
      (Q := Sound) (b := line) (l := lines)
    have hrest := @ih (number + 1)
    rw [hfirst, sound_iff, Nat.add_zero]
    simp only [Nat.add_assoc, Nat.add_comm 1] at hrest
    obtain ⟨given, hgives⟩ | ⟨e', hfaults⟩ := gives_or_faults number line
    · rw [ofLines_cons_of_gives number hgives, or_iff_right hgives.not_faults,
        and_iff_right ⟨given, hgives⟩, ← hrest]
      cases ofLines (number + 1) lines <;> simp [Except.map]
    · have hnone : ¬ ∃ given, Gives line given := fun ⟨_, hgives⟩ => hgives.not_faults hfaults
      rw [ofLines_cons_of_faults hfaults, or_iff_left fun h => hnone h.1, Except.error.injEq]
      exact ⟨fun h => h ▸ hfaults, hfaults.unique⟩

/-- Carriage returns at the ends of lines change nothing. -/
theorem ofLines_congr {bare : List (List UInt8)}
    (h : List.Forall₂ (fun bare line => line = bare ∨ line = bare ++ [carriageReturn]) bare lines) :
    ofLines number lines = ofLines number bare := by
  induction h generalizing number with
  | nil => rfl
  | cons hline _ ih =>
    rw [ofLines_cons, ofLines_cons, ih]
    obtain rfl | rfl := hline
    · rfl
    · rw [ofLineBytes_append_return]

/-- **The first rule that applies** is that of the first line that gives one. -/
theorem firstMatch_eq_some_iff (hgives : List.Forall₂ Gives lines givens)
    (htable : givens.reduceOption = table.rules) : table.firstMatch path = some r ↔
      ∃ before line after, lines = before ++ line :: after ∧
        (∀ earlier ∈ before, ∀ r', Gives earlier (some r') → r'.applies path = false) ∧
        Gives line (some r) ∧ r.applies path = true := by
  rw [firstMatch, ← htable]
  clear htable
  induction hgives with
  | nil => simp
  | @cons line given lines givens hline _ ih =>
    have hfirst := ListFacts.exists_first_cons_iff
      (P := fun _ line => Gives line (some r) ∧ r.applies path = true)
      (Q := fun line => ∀ r', Gives line (some r') → r'.applies path = false)
      (b := line) (l := lines)
    have hgiven : ∀ given', Gives line given' ↔ given = given' :=
      fun given' => ⟨hline.unique, fun h => h ▸ hline⟩
    rw [hfirst, ← ih]
    simp only [hgiven]
    cases given with
    | none => simp
    | some r' =>
      rw [List.reduceOption_cons_of_some, List.find?_cons]
      cases happlies : r'.applies path with
      | false =>
        -- A rule that does not apply is passed over.
        have hne : ¬ (some r' = some r ∧ r.applies path = true) := by
          rintro ⟨heq, htrue⟩
          rw [← Option.some.inj heq, happlies] at htrue
          cases htrue
        rw [or_iff_right hne]
        simp [happlies]
      | true =>
        simp only [Option.some.injEq, forall_eq', happlies, Bool.true_eq_false, false_and, or_false]
        exact ⟨fun h => ⟨h, h ▸ happlies⟩, And.left⟩

/-- A rule text is loaded line by line, and the lines may be bare. -/
theorem ofBytes_eq {bytes rest : List UInt8} {ended : List (List UInt8)}
    (h : CutsInto bytes ended rest) :
    ofBytes bytes = (ofLines 1 (bareLines ended rest)).map fun rules => ⟨rules⟩ := by
  rw [ofBytes, ofLines_congr (forall₂_bareLines h)]

/-- **The table of a rule text** that is made of these lines. -/
theorem ofBytes_eq_ok_iff {bytes : List UInt8}
    (h : ofBytes bytes = (ofLines 1 lines).map fun rules => ⟨rules⟩) : ofBytes bytes = .ok table ↔
      ∃ givens, List.Forall₂ Gives lines givens ∧ givens.reduceOption = table.rules := by
  obtain ⟨rules⟩ := table
  have hlines : ofLines 1 lines = .ok rules ↔ _ := ofLines_eq_ok_iff
  rw [h, ← hlines]
  cases ofLines 1 lines <;> simp [Except.map]

/-- **How a rule text is loaded**, for all bytes, in terms of the lines that they are cut into: just
when all lines are sound. The table then has the rules of the lines in their order, and the first
rule that applies to a path is that of the first line with one. Else the fault of the first line
that is not sound is reported, with its number if it has one. -/
theorem ofBytes_outcome (bytes : List UInt8) :
    ∃ ended rest, CutsInto bytes ended rest ∧ let lines := bareLines ended rest
    ((∃ table, ofBytes bytes = .ok table) ↔ ∀ line ∈ lines, Sound line) ∧
    (∀ table, ofBytes bytes = .ok table ↔
      ∃ givens, List.Forall₂ Gives lines givens ∧ givens.reduceOption = table.rules) ∧
    (∀ table, ofBytes bytes = .ok table → ∀ path r, table.firstMatch path = some r ↔
      ∃ before line after, lines = before ++ line :: after ∧
        (∀ earlier ∈ before, ∀ r', Gives earlier (some r') → r'.applies path = false) ∧
        Gives line (some r) ∧ r.applies path = true) ∧
    ∀ e, ofBytes bytes = .error e ↔
      ∃ before line after, lines = before ++ line :: after ∧
        (∀ earlier ∈ before, Sound earlier) ∧ Faults (1 + before.length) line e := by
  obtain ⟨ended, rest, hcut⟩ : ∃ ended rest, CutsInto bytes ended rest :=
    ⟨_, _, cutLines_eq_iff.mp rfl⟩
  refine ⟨ended, rest, hcut, ?_⟩
  intro lines
  have hok : ∀ table, ofBytes bytes = .ok table ↔
      ∃ givens, List.Forall₂ Gives lines givens ∧ givens.reduceOption = table.rules :=
    fun table => ofBytes_eq_ok_iff (ofBytes_eq hcut)
  refine ⟨?_, hok, fun table htable path r => ?_, fun e => ?_⟩
  · rw [← exists_givens_iff]
    constructor
    · rintro ⟨table, htable⟩
      exact ((hok table).mp htable).imp fun _ h => h.1
    · rintro ⟨givens, hgivens⟩
      exact ⟨⟨givens.reduceOption⟩, (hok _).mpr ⟨givens, hgivens, rfl⟩⟩
  · obtain ⟨givens, hgivens, hrules⟩ := (hok table).mp htable
    exact firstMatch_eq_some_iff hgivens hrules
  · rw [← ofLines_eq_error_iff, ofBytes_eq hcut]
    cases ofLines 1 lines <;> simp [Except.map]

end RuleTable

end MetricIngest
