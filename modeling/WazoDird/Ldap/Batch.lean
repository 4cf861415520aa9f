import WazoDird.Backends.FormatColumns
import WazoDird.Ldap.FirstMatch

/-!
# When an LDAP batch finds what the single lookup would

An entry matches an extension by any value of a column, as the server
compares; the batch looks for the extension itself, in the first values of
the attributes that it asked for. `matchAll_finds_iff` says which
directories are answered all the same.
-/

namespace WazoDird

namespace LdapPlugin

variable {py : TextOps} {escapeFilterChars : String → String} {plugin : LdapPlugin}
  {extens : List String} {e : String} {entry : LdapEntry}

/-! ## What an entry has in a column -/

/-- The text of the first value of an attribute, of those asked for. -/
def firstText (py : TextOps) (plugin : LdapPlugin) (column : String) (entry : LdapEntry) :
    Option String :=
  ((plugin.server.select (plugin.config.attributes py) entry.attrs).get? column).bind fun values =>
    values.head?.bind (plugin.config.decodeValue column)

/-- The texts of the first values of all of them. -/
def firstTexts (py : TextOps) (plugin : LdapPlugin) (entry : LdapEntry) : Fields :=
  Dict.ofList ((plugin.server.select (plugin.config.attributes py) entry.attrs).entries.filterMap
    fun attr => (attr.2.head?.bind (plugin.config.decodeValue attr.1)).map fun text =>
      (attr.1, .str text))

/-- And the format columns, each over those before it. -/
def columnTexts (py : TextOps) (plugin : LdapPlugin) (entry : LdapEntry) : Fields :=
  (plugin.config.formatColumns.getD ∅).entries.foldl (fun fields column =>
    fields.set column.1 (columnValue py column.2 fields)) (plugin.firstTexts py entry)

/-- **An entry has an extension**, in a first-matched column. -/
def Has (py : TextOps) (plugin : LdapPlugin) (e : String) (entry : LdapEntry) : Prop :=
  ∃ column ∈ plugin.config.firstMatchedColumns,
    (plugin.columnTexts py entry).get? column = some (.str e)

instance : Decidable (plugin.Has py e entry) :=
  inferInstanceAs (Decidable (∃ column ∈ plugin.config.firstMatchedColumns,
    (plugin.columnTexts py entry).get? column = some (.str e)))

/-- The fields of what can be formatted are the texts of first values. -/
theorem filterMap_of_mapM {config : LdapConfig} {attrs : List (String × List Bytes)}
    {fields : List (String × Value)} (h : attrs.mapM config.formatField = .ok fields) :
    attrs.filterMap (fun attr => (attr.2.head?.bind (config.decodeValue attr.1)).map fun text =>
      (attr.1, .str text)) = fields := by
  induction attrs generalizing fields with
  | nil =>
    cases h
    rfl
  | cons attr attrs ih =>
    rw [List.mapM_cons] at h
    obtain ⟨field, hfield, h⟩ := bind_eq_ok.1 h
    obtain ⟨rest, hrest, h⟩ := bind_eq_ok.1 h
    cases h
    obtain ⟨value, hvalue, text, htext, rfl⟩ := LdapConfig.formatField_eq_ok.1 hfield
    rw [Option.mem_def] at hvalue
    rw [List.filterMap_cons, hvalue, Option.bind_some, htext, ih hrest]
    rfl

/-- **The fields of a result** are the texts of the columns. -/
theorem fields_of_formatted {r : SourceResult} (h : plugin.formatted py entry = .ok r) :
    r.fields = plugin.columnTexts py entry := by
  obtain ⟨fields, hfields, hmake⟩ := bind_eq_ok.1 h
  obtain ⟨formatted, hformatted, hpure⟩ := bind_eq_ok.1 hmake
  cases hpure
  rw [columnTexts, firstTexts, filterMap_of_mapM hfields]
  exact addFormatColumns_eq_ok hformatted

/-- An entry that can be formatted shows what it has. -/
theorem shows_iff_has (hformattable : plugin.Formattable py entry) :
    plugin.Shows py e entry ↔ plugin.Has py e entry := by
  obtain ⟨r, hr⟩ := (@LdapConfig.exists_formatOneResult_iff py _ _).2 hformattable
  constructor
  · rintro ⟨r', hr', column, hcolumn, hshows⟩
    rw [fields_of_formatted hr'] at hshows
    exact ⟨column, hcolumn, hshows⟩
  · rintro ⟨column, hcolumn, hhas⟩
    refine ⟨r, hr, column, hcolumn, ?_⟩
    rw [fields_of_formatted hr]
    exact hhas

/-! ## What the batch is given -/

/-- An entry is asked for: it is a match for some extension. -/
def Asked (escapeFilterChars : String → String) (plugin : LdapPlugin) (extens : List String)
    (entry : LdapEntry) : Prop :=
  ∃ e ∈ extens, plugin.IsMatch escapeFilterChars e entry

instance : Decidable (plugin.Asked escapeFilterChars extens entry) :=
  inferInstanceAs (Decidable (∃ e ∈ extens, plugin.IsMatch escapeFilterChars e entry))

/-- The batch is given what is asked for. -/
theorem retrieved_iff_asked (hescape : EscapesFilterChars escapeFilterChars)
    (hvalid : plugin.config.Valid) :
    plugin.Retrieved escapeFilterChars extens entry ↔
      plugin.Asked escapeFilterChars extens entry := by
  refine exists_congr fun e => and_congr_right fun _ => ?_
  by_cases hmatches : plugin.config.MatchesFirst
  · obtain ⟨filter, hbuilt⟩ :=
      @LdapConfig.exists_buildFirstMatchFilter escapeFilterChars plugin.config e hmatches
    rw [← satisfiesFirstMatch_iff hescape hvalid hmatches, SatisfiesFirstMatch, hbuilt]
    simp
  · rw [LdapConfig.buildFirstMatchFilter_eq_none hmatches]
    exact iff_of_false (fun ⟨filter, h, _⟩ => by cases h) fun h => hmatches h.configured

/-! ## The condition -/

/-- **A batch finds what matches.** A source without a filter is not asked
for anything, or has no entry. Each entry asked for can be formatted; where
there is a match for an extension, an entry asked for has it in a column;
and where one has it, there is a match. -/
structure FindsMatches (py : TextOps) (escapeFilterChars : String → String) (plugin : LdapPlugin)
    (extens : List String) : Prop where
  unfiltered : ¬ plugin.config.MatchesFirst → extens = [] ∨ plugin.server.entries = []
  formattable : ∀ entry ∈ plugin.server.entries, plugin.Asked escapeFilterChars extens entry →
    plugin.Formattable py entry
  kept : ∀ e ∈ extens, ∀ entry ∈ plugin.server.entries, plugin.IsMatch escapeFilterChars e entry →
    ∃ entry ∈ plugin.server.entries,
      plugin.Asked escapeFilterChars extens entry ∧ plugin.Has py e entry
  own : ∀ e ∈ extens, ∀ entry ∈ plugin.server.entries,
    plugin.Asked escapeFilterChars extens entry → plugin.Has py e entry →
      ∃ entry ∈ plugin.server.entries, plugin.IsMatch escapeFilterChars e entry

/-- **A plain source**, of columns that are attributes of text and without
a custom filter, over a server for which an attribute equals each of its
values. -/
structure Plain (py : TextOps) (plugin : LdapPlugin) : Prop where
  columns : plugin.config.firstMatchedColumns ≠ []
  custom : plugin.config.customFilter = none
  unformatted : ∀ column ∈ plugin.config.firstMatchedColumns,
    column ∉ (plugin.config.formatColumns.getD ∅).keys
  text : plugin.config.hasBinaryUuid = true →
    ∀ column ∈ plugin.config.firstMatchedColumns, plugin.config.uniqueColumn ≠ some column
  equal : ∀ entry ∈ plugin.server.entries, ∀ column ∈ plugin.config.firstMatchedColumns,
    ∀ values, (plugin.server.select (plugin.config.attributes py) entry.attrs).get? column =
      some values → ∀ e : String, utf8 e.toList ∈ values →
        plugin.server.holds ⟨column.toList, .equal, [utf8 e.toList]⟩ entry = some true

/-- **A batch of a plain source finds what matches**: each entry that has
an extension, as the server compares, can be formatted, and where there is
one, some entry has it as the first value of a column that is asked for. -/
structure FindsPlainly (py : TextOps) (plugin : LdapPlugin) (extens : List String) : Prop where
  formattable : ∀ e ∈ extens, ∀ entry ∈ plugin.server.entries,
    ∀ column ∈ plugin.config.firstMatchedColumns,
      plugin.server.holds ⟨column.toList, .equal, [utf8 e.toList]⟩ entry = some true →
        plugin.Formattable py entry
  kept : ∀ e ∈ extens, ∀ entry ∈ plugin.server.entries,
    ∀ column ∈ plugin.config.firstMatchedColumns,
      plugin.server.holds ⟨column.toList, .equal, [utf8 e.toList]⟩ entry = some true →
        ∃ entry ∈ plugin.server.entries, ∃ column ∈ plugin.config.firstMatchedColumns,
          plugin.firstText py column entry = some e

/-- A batch finds the extensions that the entries it asks for have. -/
theorem finds_iff_has (hescape : EscapesFilterChars escapeFilterChars)
    (hvalid : plugin.config.Valid) (he : e ∈ extens) :
    (∃ found, plugin.matchAll py escapeFilterChars extens = .ok found ∧ e ∈ found.keys) ↔
      (∀ entry ∈ plugin.server.entries, plugin.Asked escapeFilterChars extens entry →
        plugin.Formattable py entry) ∧
      ∃ entry ∈ plugin.server.entries,
        plugin.Asked escapeFilterChars extens entry ∧ plugin.Has py e entry := by
  rw [mem_matchAll_iff hescape hvalid he]
  simp only [retrieved_iff_asked hescape hvalid]
  refine and_congr_right fun hall => exists_congr fun entry => and_congr_right fun hentry => ?_
  exact and_congr_right fun hasked => shows_iff_has (hall entry hentry hasked)

/-- **When the batch finds what the single lookup would**, in columns,
attributes and the values of a directory. -/
theorem matchAllFinds_iff_findsMatches (hescape : EscapesFilterChars escapeFilterChars)
    (hvalid : plugin.config.Valid) :
    MatchAllFinds py escapeFilterChars plugin extens ↔
      plugin.FindsMatches py escapeFilterChars extens := by
  by_cases hmatches : plugin.config.MatchesFirst
  · have hmatch : ∀ e, (∃ entry ∈ plugin.server.entries,
        plugin.SatisfiesFirstMatch escapeFilterChars e entry) ↔
          ∃ entry ∈ plugin.server.entries, plugin.IsMatch escapeFilterChars e entry := by
      intro e
      simp only [satisfiesFirstMatch_iff hescape hvalid hmatches]
    constructor
    · intro h
      have hfinds := fun e he => (finds_iff_has hescape hvalid he).symm.trans
        ((h e he).trans (hmatch e))
      refine ⟨fun hno => absurd hmatches hno, ?_, ?_, ?_⟩
      · rintro entry hentry ⟨e, he, hismatch⟩
        exact ((hfinds e he).2 ⟨entry, hentry, hismatch⟩).1 entry hentry ⟨e, he, hismatch⟩
      · intro e he entry hentry hismatch
        exact ((hfinds e he).2 ⟨entry, hentry, hismatch⟩).2
      · intro e he entry hentry hasked hhas
        refine (hfinds e he).1 ⟨?_, entry, hentry, hasked, hhas⟩
        -- what is asked for is a match, so the batch returned
        obtain ⟨e', he', hismatch⟩ := hasked
        exact ((hfinds e' he').2 ⟨entry, hentry, hismatch⟩).1
    · intro h e he
      rw [finds_iff_has hescape hvalid he, hmatch]
      constructor
      · rintro ⟨-, entry, hentry, hasked, hhas⟩
        exact h.own e he entry hentry hasked hhas
      · rintro ⟨entry, hentry, hismatch⟩
        exact ⟨h.formattable, h.kept e he entry hentry hismatch⟩
  · -- without a filter every entry satisfies it, and none is asked for
    have hnone : ∀ {e entry}, ¬ plugin.IsMatch escapeFilterChars e entry :=
      fun h => hmatches h.configured
    have hasked : ∀ {entry}, ¬ plugin.Asked escapeFilterChars extens entry :=
      fun ⟨_, _, h⟩ => hnone h
    have hall : ∀ e entry, plugin.SatisfiesFirstMatch escapeFilterChars e entry := by
      intro e entry
      rw [SatisfiesFirstMatch, LdapConfig.buildFirstMatchFilter_eq_none hmatches]
      trivial
    constructor
    · intro h
      refine ⟨fun _ => ?_, fun entry _ hyes => absurd hyes hasked,
        fun e _ entry _ hyes => absurd hyes hnone, fun e _ entry _ hyes => absurd hyes hasked⟩
      by_contra hboth
      obtain ⟨hextens, hentries⟩ := not_or.1 hboth
      obtain ⟨e, he⟩ := List.exists_mem_of_ne_nil _ hextens
      obtain ⟨entry, hentry⟩ := List.exists_mem_of_ne_nil _ hentries
      obtain ⟨-, other, -, hyes, -⟩ := (finds_iff_has hescape hvalid he).1
        ((h e he).2 ⟨entry, hentry, hall e entry⟩)
      exact hasked hyes
    · intro h e he
      rw [finds_iff_has hescape hvalid he]
      refine iff_of_false (fun ⟨_, _, _, hyes, _⟩ => hasked hyes) ?_
      rintro ⟨entry, hentry, -⟩
      rcases h.unfiltered hmatches with hempty | hempty
      · rw [hempty] at he
        cases he
      · rw [hempty] at hentry
        cases hentry

/-! ## Plain sources -/

/-- A column that no format writes has the first text of its attribute. -/
theorem get?_columnTexts (hformattable : plugin.Formattable py entry) {column : String}
    (hcolumn : column ∉ (plugin.config.formatColumns.getD ∅).keys) :
    (plugin.columnTexts py entry).get? column = some (.str e) ↔
      plugin.firstText py column entry = some e := by
  obtain ⟨r, hr⟩ := (@LdapConfig.exists_formatOneResult_iff py _ _).2 hformattable
  rw [← fields_of_formatted hr, LdapConfig.get?_formatOneResult hr hcolumn, firstText]
  simp only [Option.bind_eq_some_iff, Option.mem_def]

/-- A match of a plain source has the extension in a column. -/
theorem Plain.isMatch_iff (hplain : plugin.Plain py) :
    plugin.IsMatch escapeFilterChars e entry ↔
      ∃ column ∈ plugin.config.firstMatchedColumns,
        plugin.server.holds ⟨column.toList, .equal, [utf8 e.toList]⟩ entry = some true := by
  constructor
  · exact fun h => h.column hplain.columns
  · intro h
    refine ⟨Or.inr hplain.columns, fun filter hfilter => ?_, fun _ => h⟩
    rw [hplain.custom] at hfilter
    cases hfilter

/-- An entry equals its first texts. -/
theorem Plain.isMatch_of_firstText (hplain : plugin.Plain py) (hentry : entry ∈ plugin.server.entries)
    {column : String} (hcolumn : column ∈ plugin.config.firstMatchedColumns)
    (h : plugin.firstText py column entry = some e) :
    plugin.IsMatch escapeFilterChars e entry := by
  obtain ⟨values, hvalues, h⟩ := Option.bind_eq_some_iff.1 h
  obtain ⟨value, hvalue, htext⟩ := Option.bind_eq_some_iff.1 h
  have hdecoded : decodeUtf8 value = some e := by
    rw [LdapConfig.decodeValue, if_neg] at htext
    · exact htext
    · rintro ⟨hunique, hbinary⟩
      exact hplain.text hbinary column hcolumn hunique.symm
  have hmem : utf8 e.toList ∈ values := by
    rw [← eq_utf8_of_decodeUtf8 hdecoded]
    exact List.mem_of_mem_head? hvalue
  exact hplain.isMatch_iff.2
    ⟨column, hcolumn, hplain.equal entry hentry column hcolumn values hvalues e hmem⟩

/-- **So a batch of a plain source makes nothing up**, and all that is left
is that it keeps what matches. -/
theorem Plain.findsMatches_iff (hplain : plugin.Plain py) :
    plugin.FindsMatches py escapeFilterChars extens ↔ plugin.FindsPlainly py extens := by
  constructor
  · intro h
    refine ⟨fun e he entry hentry column hcolumn heq => ?_,
      fun e he entry hentry column hcolumn heq => ?_⟩
    · exact h.formattable entry hentry ⟨e, he, hplain.isMatch_iff.2 ⟨column, hcolumn, heq⟩⟩
    · obtain ⟨other, hother, hasked, column', hcolumn', htext⟩ :=
        h.kept e he entry hentry (hplain.isMatch_iff.2 ⟨column, hcolumn, heq⟩)
      refine ⟨other, hother, column', hcolumn', ?_⟩
      exact (get?_columnTexts (h.formattable other hother hasked)
        (hplain.unformatted column' hcolumn')).1 htext
  · intro h
    have hformattable : ∀ entry ∈ plugin.server.entries,
        plugin.Asked escapeFilterChars extens entry → plugin.Formattable py entry := by
      rintro entry hentry ⟨e, he, hismatch⟩
      obtain ⟨column, hcolumn, heq⟩ := hplain.isMatch_iff.1 hismatch
      exact h.formattable e he entry hentry column hcolumn heq
    refine ⟨fun hno => absurd (Or.inr hplain.columns) hno, hformattable, ?_, ?_⟩
    · intro e he entry hentry hismatch
      obtain ⟨column, hcolumn, heq⟩ := hplain.isMatch_iff.1 hismatch
      obtain ⟨other, hother, column', hcolumn', htext⟩ := h.kept e he entry hentry column hcolumn heq
      -- an entry that has the extension for its first value is one of those asked for
      have hasked : plugin.Asked escapeFilterChars extens other :=
        ⟨e, he, hplain.isMatch_of_firstText hother hcolumn' htext⟩
      exact ⟨other, hother, hasked, column', hcolumn', (get?_columnTexts
        (hformattable other hother hasked) (hplain.unformatted column' hcolumn')).2 htext⟩
    · rintro e he entry hentry hasked ⟨column, hcolumn, htext⟩
      have hfirst := (get?_columnTexts (hformattable entry hentry hasked)
        (hplain.unformatted column hcolumn)).1 htext
      exact ⟨entry, hentry, hplain.isMatch_of_firstText hentry hcolumn hfirst⟩

/-! ## The theorem -/

/-- **When the batch finds what the single lookup would**, and when it does
for a plain source. -/
theorem matchAll_finds_iff (hescape : EscapesFilterChars escapeFilterChars)
    (hvalid : plugin.config.Valid) :
    (MatchAllFinds py escapeFilterChars plugin extens ↔
      plugin.FindsMatches py escapeFilterChars extens) ∧
    (plugin.Plain py → (MatchAllFinds py escapeFilterChars plugin extens ↔
      plugin.FindsPlainly py extens)) := by
  have hfinds := @matchAllFinds_iff_findsMatches py _ _ extens hescape hvalid
  exact ⟨hfinds, fun hplain => hfinds.trans hplain.findsMatches_iff⟩

/-- A source without format columns is plain, over a server that compares
without regard to case. -/
theorem plain_numberSource {columns : List String} {entries : List LdapEntry}
    (hcolumns : columns ≠ []) : (numberSource none columns entries).Plain plainText where
  columns := hcolumns
  custom := rfl
  unformatted := fun _ _ h => by cases h
  text := fun h => by cases h
  equal := by
    intro entry _ column _ values hvalues e hmem
    have hget : entry.attrs.get? (String.ofList column.toList) = some values := by
      rw [String.ofList_toList]
      exact hvalues
    simp only [numberSource, directory, hget]
    exact congrArg some (List.any_eq_true.2 ⟨_, hmem, decide_eq_true rfl⟩)

/-- A batch of two numbers finds both of two persons. -/
theorem matchAll_finds_two :
    MatchAllFinds plainText escapeChars (numberSource none ["telephoneNumber"]
      [person "Alice" ["1111"], person "Bob" ["2222"]]) ["1111", "2222"] := by
  refine ((matchAll_finds_iff escapeChars_escapes ⟨by decide, fun filter h => by cases h⟩).2
    (plain_numberSource (by decide))).2 ?_
  exact ⟨by decide +kernel, by decide +kernel⟩

/-- **It does not find** a second number of a person, a number among the
attributes that no format asks for, and a name in another case. -/
theorem matchAll_does_not_find :
    ¬ MatchAllFinds plainText escapeChars (numberSource none ["telephoneNumber"]
        [person "Alice" ["1111", "2222"]]) ["2222"] ∧
      ¬ MatchAllFinds plainText escapeChars (numberSource (some (Dict.ofList [("name", "{cn}")]))
        ["telephoneNumber"] [person "Alice" ["1111"]]) ["1111"] ∧
      ¬ MatchAllFinds plainText escapeChars (numberSource none ["cn"]
        [person "Alice" ["1111"]]) ["alice"] := by
  decide +kernel

end LdapPlugin

end WazoDird
