import WazoDird.Ldap.Client
import WazoDird.Ldap.MatchAll

/-!
# The single lookup of an LDAP source

`first_match` asks for at most one entry. The server does not shorten its
answer to that: of more entries it sends none. And where no filter is
configured the search is for every entry. `first_match_finds_iff` says
which directories are answered all the same.
-/

namespace WazoDird

namespace LdapConfig

/-- A source has a filter to match with. -/
def MatchesFirst (config : LdapConfig) : Prop :=
  config.customFilter ≠ none ∨ config.firstMatchedColumns ≠ []

instance (config : LdapConfig) : Decidable config.MatchesFirst :=
  inferInstanceAs (Decidable (_ ∨ _))

/-- A source without one sends none. -/
theorem buildFirstMatchFilter_eq_none {escapeFilterChars : String → String} {config : LdapConfig}
    {term : String} (h : ¬ config.MatchesFirst) :
    config.buildFirstMatchFilter escapeFilterChars term = none := by
  obtain ⟨hcustom, hcolumns⟩ := not_or.1 h
  unfold buildFirstMatchFilter buildFilter
  rw [not_not.1 hcustom, not_not.1 hcolumns]

/-- A source with one sends it. -/
theorem exists_buildFirstMatchFilter {escapeFilterChars : String → String} {config : LdapConfig}
    {term : String} (h : config.MatchesFirst) :
    ∃ filter, config.buildFirstMatchFilter escapeFilterChars term = some filter := by
  unfold buildFirstMatchFilter buildFilter
  cases hcustom : config.customFilter with
  | some custom =>
    cases config.firstMatchedColumns with
    | nil => exact ⟨_, rfl⟩
    | cons column columns => exact ⟨_, rfl⟩
  | none =>
    cases hcolumns : config.firstMatchedColumns with
    | nil => exact absurd h (not_or.2 ⟨not_not.2 hcustom, not_not.2 hcolumns⟩)
    | cons column columns => exact ⟨_, rfl⟩

/-- The first of the raw results, formatted. A reference has no name. -/
def formatFirst (py : TextOps) (config : LdapConfig) :
    List RawResult → Except PyError (Option SourceResult)
  | [] => .ok none
  | .reference _ :: _ => .ok none
  | .entry dn attrs :: _ =>
    if dn = "" then .ok none else (config.formatOneResult py attrs).map some

/-- It is of an entry that has a name. -/
theorem formatFirst_eq_some {py : TextOps} {config : LdapConfig} {results : List RawResult}
    {r : SourceResult} : config.formatFirst py results = .ok (some r) ↔
      ∃ dn attrs, results.head? = some (.entry dn attrs) ∧ dn ≠ "" ∧
        config.formatOneResult py attrs = .ok r := by
  match results with
  | [] => exact iff_of_false (fun h => by cases h) fun ⟨_, _, h, _⟩ => by cases h
  | .reference _ :: _ =>
    exact iff_of_false (fun h => by cases h) fun ⟨_, _, h, _⟩ => by cases h
  | .entry dn attrs :: _ =>
    rw [formatFirst]
    constructor
    · intro h
      split at h
      · cases h
      · next hdn =>
        refine ⟨dn, attrs, rfl, hdn, ?_⟩
        cases hformat : config.formatOneResult py attrs with
        | error error =>
          rw [hformat] at h
          cases h
        | ok r' =>
          rw [hformat] at h
          cases h
          rfl
    · rintro ⟨dn', attrs', hhead, hdn, hformat⟩
      cases hhead
      rw [if_neg hdn, hformat]
      rfl

end LdapConfig

namespace LdapPlugin

variable (py : TextOps) (escapeFilterChars : String → String) (binds : Bool)
  (arrival : RowOrder RawResult) (client : LdapClient) (plugin : LdapPlugin) (e : String)

/-- `first_match`, with `_first_match_and_format`. -/
def firstMatch : Except PyError (Option SourceResult) :=
  let filter := plugin.config.buildFirstMatchFilter escapeFilterChars e
  let answer := plugin.server.searchExt arrival (plugin.config.attributes py) filter (some 1)
  plugin.config.formatFirst py (client.search binds answer).1

/-- **An entry is a match for an extension**: it satisfies the custom
filter for it, if there is one, and some first-matched column equals it, if
there are any. -/
structure IsMatch (entry : LdapEntry) : Prop where
  configured : plugin.config.MatchesFirst
  custom : ∀ filter ∈ plugin.config.customFilter, plugin.server.Satisfies
    (LdapConfig.buildSearchFilterFromCustomFilter filter (escapeFilterChars e)) entry
  column : plugin.config.firstMatchedColumns ≠ [] → ∃ column ∈ plugin.config.firstMatchedColumns,
    plugin.server.holds ⟨column.toList, .equal, [utf8 e.toList]⟩ entry = some true

instance (entry : LdapEntry) : Decidable (plugin.IsMatch escapeFilterChars e entry) :=
  decidable_of_iff
    (plugin.config.MatchesFirst ∧
      (∀ filter ∈ plugin.config.customFilter, plugin.server.Satisfies
        (LdapConfig.buildSearchFilterFromCustomFilter filter (escapeFilterChars e)) entry) ∧
      (plugin.config.firstMatchedColumns ≠ [] → ∃ column ∈ plugin.config.firstMatchedColumns,
        plugin.server.holds ⟨column.toList, .equal, [utf8 e.toList]⟩ entry = some true))
    ⟨fun h => ⟨h.1, h.2.1, h.2.2⟩, fun h => ⟨h.configured, h.custom, h.column⟩⟩

/-- **The single lookup is complete and sound**, with a server that can be
reached and accepts the bind: it returns a result exactly when there is a
match, and the result is of a match that it asked for. -/
def FirstMatchFinds : Prop :=
  binds = true →
    ((∃ r, plugin.firstMatch py escapeFilterChars binds arrival client e = .ok (some r)) ↔
      ∃ entry ∈ plugin.server.entries, plugin.IsMatch escapeFilterChars e entry) ∧
    ∀ r, plugin.firstMatch py escapeFilterChars binds arrival client e = .ok (some r) →
      ∃ entry ∈ plugin.server.entries, plugin.IsMatch escapeFilterChars e entry ∧
        plugin.SatisfiesFirstMatch escapeFilterChars e entry ∧ plugin.formatted py entry = .ok r

/-- **An entry can be answered with**, as the only one of those asked for:
no reference comes before it, and it can be formatted. -/
structure Answerable (entries : List LdapEntry) (entry : LdapEntry) : Prop where
  only : entries = [entry]
  first : plugin.server.ComesFirst arrival (plugin.config.attributes py) entry
  formattable : plugin.Formattable py entry

deriving instance DecidableEq for LdapEntry

instance (entries : List LdapEntry) (entry : LdapEntry) :
    Decidable (plugin.Answerable py arrival entries entry) :=
  decidable_of_iff
    (entries = [entry] ∧ plugin.server.ComesFirst arrival (plugin.config.attributes py) entry ∧
      plugin.Formattable py entry)
    ⟨fun h => ⟨h.1, h.2.1, h.2.2⟩, fun h => ⟨h.only, h.first, h.formattable⟩⟩

/-- Where there is a match, or an entry to answer with, some entry is
both. -/
def MatchesAnswered : Prop :=
  ∀ entry ∈ plugin.server.entries,
    plugin.IsMatch escapeFilterChars e entry ∨ plugin.Answerable py arrival
        (plugin.server.entries.filter (plugin.SatisfiesFirstMatch escapeFilterChars e)) entry →
      ∃ entry ∈ plugin.server.entries,
        plugin.IsMatch escapeFilterChars e entry ∧ plugin.Answerable py arrival
          (plugin.server.entries.filter (plugin.SatisfiesFirstMatch escapeFilterChars e)) entry

instance : Decidable (plugin.MatchesAnswered py escapeFilterChars arrival e) :=
  inferInstanceAs (Decidable (∀ entry ∈ plugin.server.entries,
    _ → ∃ entry ∈ plugin.server.entries, _))

/-- **What keeps the lookup complete and sound.** A source without a filter
can answer with no entry; a match of one with a valid filter is the only
one; and with a filter that is not valid, where there is a match or an entry
to answer with, some entry is both. -/
structure Answers : Prop where
  unfiltered : ¬ plugin.config.MatchesFirst → ∀ entry ∈ plugin.server.entries,
    ¬ plugin.Answerable py arrival plugin.server.entries entry
  filtered : plugin.config.MatchesFirst → plugin.config.Valid → ∀ entry ∈ plugin.server.entries,
    plugin.IsMatch escapeFilterChars e entry → plugin.Answerable py arrival
      (plugin.server.entries.filter (plugin.IsMatch escapeFilterChars e)) entry
  malformed : plugin.config.MatchesFirst → ¬ plugin.config.Valid →
    plugin.MatchesAnswered py escapeFilterChars arrival e

variable {py escapeFilterChars binds arrival client plugin e} {entry : LdapEntry}

/-- A filter that parses is satisfied as what it parses to. -/
theorem satisfies_of_parse {filter : String} {f : Rfc4515.SearchFilter Rfc4515.Item}
    (h : Rfc4515.parse filter.toList = some f) :
    plugin.server.Satisfies filter entry ↔ f.Satisfied (plugin.server.holds · entry) := by
  constructor
  · rintro ⟨g, hg, hs⟩
    cases h.symm.trans hg
    exact hs
  · intro hs
    exact ⟨f, h, hs⟩

/-- **The entries asked for are the matches**, with a valid filter. -/
theorem satisfiesFirstMatch_iff (hescape : EscapesFilterChars escapeFilterChars)
    (hvalid : plugin.config.Valid) (hmatches : plugin.config.MatchesFirst) :
    plugin.SatisfiesFirstMatch escapeFilterChars e entry ↔
      plugin.IsMatch escapeFilterChars e entry := by
  have hparse := LdapConfig.parse_firstMatchedColumns hescape hvalid e
  -- the filter of the columns says that one of them equals the extension
  have hcolumns : plugin.server.Satisfies
      (plugin.config.buildExactSearchFilterFromFirstMatchedColumns (escapeFilterChars e)) entry ↔
        ∃ column ∈ plugin.config.firstMatchedColumns,
          plugin.server.holds ⟨column.toList, .equal, [utf8 e.toList]⟩ entry = some true := by
    rw [satisfies_of_parse hparse]
    simp [Rfc4515.satisfied_disjunction]
  have hmatch : plugin.IsMatch escapeFilterChars e entry ↔
      (∀ filter ∈ plugin.config.customFilter, plugin.server.Satisfies
        (LdapConfig.buildSearchFilterFromCustomFilter filter (escapeFilterChars e)) entry) ∧
      (plugin.config.firstMatchedColumns ≠ [] → plugin.server.Satisfies
        (plugin.config.buildExactSearchFilterFromFirstMatchedColumns
          (escapeFilterChars e)) entry) := by
    rw [hcolumns]
    exact ⟨fun h => ⟨h.custom, h.column⟩, fun h => ⟨hmatches, h.1, h.2⟩⟩
  rw [hmatch]
  cases hcustom : plugin.config.customFilter with
  | none =>
    cases hlist : plugin.config.firstMatchedColumns with
    | nil => exact absurd hmatches (not_or.2 ⟨not_not.2 hcustom, not_not.2 hlist⟩)
    | cons column columns =>
      have hbuilt : plugin.config.buildFirstMatchFilter escapeFilterChars e =
          some (plugin.config.buildExactSearchFilterFromFirstMatchedColumns
            (escapeFilterChars e)) := by
        unfold LdapConfig.buildFirstMatchFilter LdapConfig.buildFilter
        rw [hcustom, hlist]
      rw [SatisfiesFirstMatch, hbuilt]
      simp
  | some custom =>
    cases hlist : plugin.config.firstMatchedColumns with
    | nil =>
      have hbuilt : plugin.config.buildFirstMatchFilter escapeFilterChars e =
          some (LdapConfig.buildSearchFilterFromCustomFilter custom (escapeFilterChars e)) := by
        unfold LdapConfig.buildFirstMatchFilter LdapConfig.buildFilter
        rw [hcustom, hlist]
      rw [SatisfiesFirstMatch, hbuilt]
      simp
    | cons column columns =>
      have hbuilt : plugin.config.buildFirstMatchFilter escapeFilterChars e =
          some (LdapConfig.buildFilterFromCustomAndGeneratedFilter
            (LdapConfig.buildSearchFilterFromCustomFilter custom (escapeFilterChars e))
            (plugin.config.buildExactSearchFilterFromFirstMatchedColumns
              (escapeFilterChars e))) := by
        unfold LdapConfig.buildFirstMatchFilter LdapConfig.buildFilter
        rw [hcustom, hlist]
      obtain ⟨f, hf⟩ := LdapConfig.exists_parse_custom hescape hvalid hcustom e
      rw [SatisfiesFirstMatch, hbuilt]
      show plugin.server.Satisfies _ entry ↔ _
      rw [satisfies_of_parse (LdapConfig.parse_buildFilterFromCustomAndGeneratedFilter hf hparse),
        Rfc4515.satisfied_and, satisfies_of_parse hparse]
      simp [satisfies_of_parse hf]

/-- The entries asked for are those that satisfy the filter sent. -/
theorem satisfiesFilter_iff :
    plugin.server.SatisfiesFilter (plugin.config.buildFirstMatchFilter escapeFilterChars e) entry ↔
      plugin.SatisfiesFirstMatch escapeFilterChars e entry := by
  unfold SatisfiesFirstMatch
  cases plugin.config.buildFirstMatchFilter escapeFilterChars e <;> exact Iff.rfl

/-- **What the lookup returns**: the result of the only entry asked for. -/
theorem firstMatch_eq_some {r : SourceResult} :
    plugin.firstMatch py escapeFilterChars true arrival client e = .ok (some r) ↔
      ∃ entry, plugin.Answerable py arrival
          (plugin.server.entries.filter (plugin.SatisfiesFirstMatch escapeFilterChars e)) entry ∧
        plugin.formatted py entry = .ok r := by
  have hasked : plugin.server.entries.filter (plugin.server.SatisfiesFilter
        (plugin.config.buildFirstMatchFilter escapeFilterChars e)) =
      plugin.server.entries.filter (plugin.SatisfiesFirstMatch escapeFilterChars e) :=
    List.filter_congr fun entry _ => decide_eq_decide.2 satisfiesFilter_iff
  have hhead := fun dn attrs => @LdapServer.head?_searchExt_one plugin.server arrival
    (plugin.config.attributes py) (plugin.config.buildFirstMatchFilter escapeFilterChars e) dn attrs
  rw [hasked] at hhead
  constructor
  · intro h
    obtain ⟨dn, attrs, hresults, hformat⟩ := LdapConfig.formatFirst_eq_some.1 h
    rw [LdapClient.search_fst] at hresults
    obtain ⟨entry, honly, hfirst, hsent⟩ := (hhead dn attrs).1 hresults
    cases hsent
    have hformattable := LdapConfig.exists_formatOneResult_iff.1 ⟨r, hformat.2⟩
    exact ⟨entry, ⟨honly, hfirst, hformattable⟩, hformat.2⟩
  · rintro ⟨entry, ⟨honly, hfirst, -⟩, hformatted⟩
    refine LdapConfig.formatFirst_eq_some.2 ⟨_, _, ?_, entry.dn_ne, hformatted⟩
    rw [LdapClient.search_fst]
    exact (hhead _ _).2 ⟨entry, honly, hfirst, rfl⟩

/-- The only entry asked for satisfies the filter. -/
theorem Answerable.mem {p : LdapEntry → Bool}
    (h : plugin.Answerable py arrival (plugin.server.entries.filter p) entry) :
    entry ∈ plugin.server.entries ∧ p entry = true := by
  rw [← List.mem_filter, h.only]
  exact List.mem_singleton_self entry

/-- The only entry asked for is the only one. -/
theorem Answerable.eq {p : LdapEntry → Bool} {entry' : LdapEntry}
    (h : plugin.Answerable py arrival (plugin.server.entries.filter p) entry)
    (hentry' : entry' ∈ plugin.server.entries) (hp : p entry' = true) : entry' = entry := by
  have hfilter := List.mem_filter.2 ⟨hentry', hp⟩
  rw [h.only] at hfilter
  exact List.mem_singleton.1 hfilter

/-- It is answered with. -/
theorem Answerable.exists_firstMatch (h : plugin.Answerable py arrival
      (plugin.server.entries.filter (plugin.SatisfiesFirstMatch escapeFilterChars e)) entry) :
    ∃ r, plugin.firstMatch py escapeFilterChars true arrival client e = .ok (some r) := by
  obtain ⟨r, hr⟩ := (@LdapConfig.exists_formatOneResult_iff py _ _).2 h.formattable
  exact ⟨r, firstMatch_eq_some.2 ⟨entry, h, hr⟩⟩

/-- **The lookup is complete and sound** where the matches are answered
with. -/
theorem finds_iff_matchesAnswered :
    FirstMatchFinds py escapeFilterChars true arrival client plugin e ↔
      plugin.MatchesAnswered py escapeFilterChars arrival e := by
  constructor
  · intro h entry hentry heither
    obtain ⟨hcomplete, hsound⟩ := h rfl
    obtain ⟨r, hr⟩ : ∃ r, plugin.firstMatch py escapeFilterChars true arrival client e =
        .ok (some r) := by
      rcases heither with hmatch | hanswer
      · exact hcomplete.2 ⟨entry, hentry, hmatch⟩
      · exact hanswer.exists_firstMatch
    -- the match that the result is of is the only entry asked for
    obtain ⟨answered, hanswer, -⟩ := firstMatch_eq_some.1 hr
    obtain ⟨entry', hentry', hmatch, hsat, -⟩ := hsound r hr
    rw [hanswer.eq hentry' (decide_eq_true hsat)] at hmatch
    exact ⟨answered, hanswer.mem.1, hmatch, hanswer⟩
  · intro h _
    refine ⟨⟨?_, ?_⟩, ?_⟩
    · rintro ⟨r, hr⟩
      obtain ⟨entry, hanswer, -⟩ := firstMatch_eq_some.1 hr
      obtain ⟨entry', hentry', hmatch, -⟩ := h entry hanswer.mem.1 (.inr hanswer)
      exact ⟨entry', hentry', hmatch⟩
    · rintro ⟨entry, hentry, hmatch⟩
      obtain ⟨entry', -, -, hanswer⟩ := h entry hentry (.inl hmatch)
      exact hanswer.exists_firstMatch
    · intro r hr
      obtain ⟨entry, hanswer, hformatted⟩ := firstMatch_eq_some.1 hr
      obtain ⟨entry', hentry', hmatch, hanswer'⟩ := h entry hanswer.mem.1 (.inr hanswer)
      rw [hanswer.eq hentry' hanswer'.mem.2] at hmatch
      exact ⟨entry, hanswer.mem.1, hmatch, of_decide_eq_true hanswer.mem.2, hformatted⟩

/-- Without a filter every entry is asked for, and none is a match. -/
theorem matchesAnswered_of_unfiltered (hnone : ¬ plugin.config.MatchesFirst) :
    plugin.MatchesAnswered py escapeFilterChars arrival e ↔
      ∀ entry ∈ plugin.server.entries,
        ¬ plugin.Answerable py arrival plugin.server.entries entry := by
  have hall : plugin.server.entries.filter (plugin.SatisfiesFirstMatch escapeFilterChars e) =
      plugin.server.entries := by
    refine List.filter_eq_self.2 fun entry _ => decide_eq_true ?_
    rw [SatisfiesFirstMatch, LdapConfig.buildFirstMatchFilter_eq_none hnone]
    trivial
  unfold MatchesAnswered
  rw [hall]
  constructor
  · intro h entry hentry hanswer
    obtain ⟨_, -, hmatch, -⟩ := h entry hentry (.inr hanswer)
    exact hnone hmatch.configured
  · rintro h entry hentry (hmatch | hanswer)
    · exact absurd hmatch.configured hnone
    · exact absurd hanswer (h entry hentry)

/-- With a valid filter the matches are asked for. -/
theorem matchesAnswered_of_valid (hescape : EscapesFilterChars escapeFilterChars)
    (hvalid : plugin.config.Valid) (hmatches : plugin.config.MatchesFirst) :
    plugin.MatchesAnswered py escapeFilterChars arrival e ↔
      ∀ entry ∈ plugin.server.entries, plugin.IsMatch escapeFilterChars e entry →
        plugin.Answerable py arrival
          (plugin.server.entries.filter (plugin.IsMatch escapeFilterChars e)) entry := by
  have hasked : plugin.server.entries.filter (plugin.SatisfiesFirstMatch escapeFilterChars e) =
      plugin.server.entries.filter (plugin.IsMatch escapeFilterChars e) :=
    List.filter_congr fun entry _ =>
      decide_eq_decide.2 (satisfiesFirstMatch_iff hescape hvalid hmatches)
  unfold MatchesAnswered
  rw [hasked]
  constructor
  · intro h entry hentry hmatch
    obtain ⟨entry', -, -, hanswer⟩ := h entry hentry (.inl hmatch)
    rwa [hanswer.eq hentry (decide_eq_true hmatch)]
  · rintro h entry hentry (hmatch | hanswer)
    · exact ⟨entry, hentry, hmatch, h entry hentry hmatch⟩
    · exact ⟨entry, hentry, of_decide_eq_true hanswer.mem.2, hanswer⟩

/-- **When the single lookup is complete and sound.** -/
theorem first_match_finds_iff (hescape : EscapesFilterChars escapeFilterChars) :
    FirstMatchFinds py escapeFilterChars binds arrival client plugin e ↔
      (binds = true → Answers py escapeFilterChars arrival plugin e) := by
  have hanswers : Answers py escapeFilterChars arrival plugin e ↔
      plugin.MatchesAnswered py escapeFilterChars arrival e := by
    constructor
    · intro h
      by_cases hmatches : plugin.config.MatchesFirst
      · by_cases hvalid : plugin.config.Valid
        · exact (matchesAnswered_of_valid hescape hvalid hmatches).2 (h.filtered hmatches hvalid)
        · exact h.malformed hmatches hvalid
      · exact (matchesAnswered_of_unfiltered hmatches).2 (h.unfiltered hmatches)
    · intro h
      refine ⟨fun hnone => (matchesAnswered_of_unfiltered hnone).1 h, fun hmatches hvalid => ?_,
        fun _ _ => h⟩
      exact (matchesAnswered_of_valid hescape hvalid hmatches).1 h
  constructor
  · rintro h rfl
    exact hanswers.2 (finds_iff_matchesAnswered.1 h)
  · intro h hbinds
    subst hbinds
    exact finds_iff_matchesAnswered.2 (hanswers.1 (h rfl)) rfl

/-- The number of one of two persons is answered. -/
theorem first_match_finds_one :
    FirstMatchFinds plainText escapeChars true .asStored ⟨true⟩
      (numberSource none ["telephoneNumber"] [person "Alice" ["1111"], person "Bob" ["2222"]])
      "1111" := by
  refine (first_match_finds_iff escapeChars_escapes).2 fun _ => ⟨?_, fun _ _ => ?_, ?_⟩
  · decide +kernel
  · decide +kernel
  · exact fun _ hmalformed => absurd ⟨by decide, fun filter h => by cases h⟩ hmalformed

/-- **It is not answered right** when two persons have the number, when no
column is matched and there is one person only, and when the server sends a
reference first. -/
theorem first_match_does_not_find :
    ¬ FirstMatchFinds plainText escapeChars true .asStored ⟨true⟩
        (numberSource none ["telephoneNumber"] [person "Alice" ["1111"], person "Bob" ["1111"]])
        "1111" ∧
      ¬ FirstMatchFinds plainText escapeChars true .asStored ⟨true⟩
        (numberSource none [] [person "Alice" ["1111"]]) "9999" ∧
      ¬ FirstMatchFinds plainText escapeChars true .newestFirst ⟨true⟩
        { numberSource none ["telephoneNumber"] [person "Alice" ["1111"]] with
          server := { directory [person "Alice" ["1111"]] with references := [["ldap:"]] } }
        "1111" := by
  simp only [finds_iff_matchesAnswered]
  decide +kernel

end LdapPlugin

end WazoDird
