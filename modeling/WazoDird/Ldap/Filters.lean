import WazoDird.Common.Except
import WazoDird.Ldap.Config
import WazoDird.Ldap.Placeholder

/-!
# The filters of an LDAP source are filters

What a valid configuration builds parses: the equalities of the columns,
the custom filter with its placeholder replaced by an escaped term, and
their conjunctions and disjunctions.
-/

namespace WazoDird

open Rfc4515

/-- **What is assumed of `escape_filter_chars`**: it gives the assertion
value of its argument. -/
def EscapesFilterChars (escapeFilterChars : String → String) : Prop :=
  ∀ s, decodeAssertion (escapeFilterChars s).toList = some [utf8 s.toList]

namespace LdapConfig

/-- **A valid configuration**: its columns are attributes, and its custom
filter is a filter. -/
structure Valid (config : LdapConfig) : Prop where
  columns : ∀ column ∈ config.firstMatchedColumns, isAttr column.toList = true
  custom : ∀ filter, config.customFilter = some filter → ∃ f, parse filter.toList = some f

/-! ## What is built -/

variable {escapeFilterChars : String → String} {config : LdapConfig}

/-- The equality of a column. -/
theorem parse_equality {attr value : String} {b : Bytes} (hattr : isAttr attr.toList = true)
    (hvalue : decodeAssertion value.toList = some [b]) :
    parse (equality attr value).toList = some (.item ⟨attr.toList, .equal, [b]⟩) := by
  have htext : (equality attr value).toList =
      '(' :: (attr.toList ++ '=' :: value.toList ++ [')']) := by
    simp [equality, String.toList_append]
  rw [htext, Rfc4515.parse_equality hattr hvalue]

/-- The text of a disjunction. -/
theorem toList_disjunction (filters : List String) :
    ("(|" ++ String.join filters ++ ")").toList =
      '(' :: '|' :: ((filters.map String.toList).flatten ++ [')']) := by
  simp [String.toList_append, List.flatMap]

/-- The disjunction of filters that parse. -/
theorem parse_buildFilterFromList {filters : List String} {fs : List (SearchFilter Item)}
    (h : List.Forall₂ (fun s f => parse s.toList = some f) filters fs) :
    parse (buildFilterFromList filters).toList = some (disjunction fs) := by
  unfold buildFilterFromList
  split
  · next filter =>
    obtain ⟨f, fs', hf, hnil, rfl⟩ := List.forall₂_cons_left_iff.1 h
    cases hnil
    exact hf
  · next hmany =>
    have htexts : List.Forall₂ (fun cs f => parse cs = some f) (filters.map String.toList) fs :=
      List.forall₂_map_left_iff.2 h
    have hor : disjunction fs = .or fs := by
      unfold disjunction
      split
      · next f =>
        obtain ⟨filter, filters', -, hnil, rfl⟩ := List.forall₂_cons_right_iff.1 h
        cases hnil
        exact absurd rfl (hmany filter)
      · rfl
    rw [hor, toList_disjunction, parse_or htexts]

/-- The equalities of columns with a value. -/
theorem exists_parse_equalities {columns : List String} {value : String} {b : Bytes}
    (hcolumns : ∀ column ∈ columns, isAttr column.toList = true)
    (hvalue : decodeAssertion value.toList = some [b]) :
    List.Forall₂ (fun s f => parse s.toList = some f) (columns.map (equality · value))
      (columns.map fun column => .item ⟨column.toList, .equal, [b]⟩) := by
  rw [List.forall₂_map_left_iff, List.forall₂_map_right_iff]
  exact List.forall₂_same.2 fun column hcolumn => parse_equality (hcolumns column hcolumn) hvalue

/-- The conjunction of two filters that parse. -/
theorem parse_buildFilterFromCustomAndGeneratedFilter {custom generated : String}
    {f g : SearchFilter Item} (hf : parse custom.toList = some f)
    (hg : parse generated.toList = some g) :
    parse (buildFilterFromCustomAndGeneratedFilter custom generated).toList =
      some (.and [f, g]) := by
  have htexts : List.Forall₂ (fun cs f => parse cs = some f)
      [custom.toList, generated.toList] [f, g] := .cons hf (.cons hg .nil)
  rw [← parse_and htexts]
  simp [buildFilterFromCustomAndGeneratedFilter, String.toList_append]

/-- The custom filter, with an extension in the place of its placeholder. -/
theorem exists_parse_custom (hescape : EscapesFilterChars escapeFilterChars)
    (hvalid : config.Valid) {custom : String} (h : config.customFilter = some custom)
    (term : String) : ∃ f,
      parse (buildSearchFilterFromCustomFilter custom (escapeFilterChars term)).toList = some f := by
  obtain ⟨f, hf⟩ := hvalid.custom custom h
  obtain ⟨holed, -, hfilled⟩ := parse_fill hf
  rw [buildSearchFilterFromCustomFilter, String.toList_ofList]
  exact ⟨_, hfilled (hescape term)⟩

/-- The filter of the first-matched columns. -/
theorem parse_firstMatchedColumns (hescape : EscapesFilterChars escapeFilterChars)
    (hvalid : config.Valid) (term : String) :
    parse (config.buildExactSearchFilterFromFirstMatchedColumns
        (escapeFilterChars term)).toList =
      some (disjunction (config.firstMatchedColumns.map fun column =>
        .item ⟨column.toList, .equal, [utf8 term.toList]⟩)) :=
  parse_buildFilterFromList (exists_parse_equalities hvalid.columns (hescape term))

/-- **The filter of an extension is a filter.** -/
theorem exists_parse_firstMatch (hescape : EscapesFilterChars escapeFilterChars)
    (hvalid : config.Valid) {term filter : String}
    (h : config.buildFirstMatchFilter escapeFilterChars term = some filter) :
    ∃ f, parse filter.toList = some f := by
  have hgenerated := parse_firstMatchedColumns hescape hvalid term
  unfold buildFirstMatchFilter buildFilter at h
  simp only at h
  split at h
  · next custom _ _ hc _ =>
    obtain ⟨f, hf⟩ := exists_parse_custom hescape hvalid hc term
    rw [← Option.some.inj h]
    exact ⟨_, parse_buildFilterFromCustomAndGeneratedFilter hf hgenerated⟩
  · next custom hc _ =>
    cases h
    exact exists_parse_custom hescape hvalid hc term
  · cases h
    exact ⟨_, hgenerated⟩
  · cases h

/-- A filter is not empty. -/
theorem ne_empty_of_parse {filter : String} {f : SearchFilter Item}
    (h : parse filter.toList = some f) : filter ≠ "" := by
  rintro rfl
  cases h

/-- **The filter of a batch**: the disjunction of those of its extensions. -/
theorem parse_buildMatchAllFilter (hescape : EscapesFilterChars escapeFilterChars)
    (hvalid : config.Valid) (terms : List String) :
    ∃ f, parse (config.buildMatchAllFilter escapeFilterChars terms).toList = some f ∧
      ∀ leaf, f.Satisfied leaf ↔ ∃ term ∈ terms, ∃ filter g,
        config.buildFirstMatchFilter escapeFilterChars term = some filter ∧
        parse filter.toList = some g ∧ g.Satisfied leaf := by
  have hall : ∀ filter ∈ terms.filterMap (config.buildFirstMatchFilter escapeFilterChars),
      ∃ f, parse filter.toList = some f := by
    intro filter hfilter
    obtain ⟨term, -, hterm⟩ := List.mem_filterMap.1 hfilter
    exact exists_parse_firstMatch hescape hvalid hterm
  have hkept : (terms.filterMap (config.buildFirstMatchFilter escapeFilterChars)).filter
      (· ≠ "") = terms.filterMap (config.buildFirstMatchFilter escapeFilterChars) := by
    refine List.filter_eq_self.2 fun filter hfilter => ?_
    obtain ⟨f, hf⟩ := hall filter hfilter
    simpa using ne_empty_of_parse hf
  obtain ⟨fs, hfs⟩ : ∃ fs, List.Forall₂ (fun (s : String) f => parse s.toList = some f)
      (terms.filterMap (config.buildFirstMatchFilter escapeFilterChars)) fs := by
    choose! read hread using hall
    refine ⟨_, List.forall₂_map_right_iff.2 (List.forall₂_same.2 hread)⟩
  refine ⟨disjunction fs, ?_, fun leaf => satisfied_disjunction.trans ?_⟩
  · rw [buildMatchAllFilter, hkept, parse_buildFilterFromList hfs]
  · constructor
    · rintro ⟨g, hg, hs⟩
      obtain ⟨filter, hfilter, hparse⟩ := exists_of_forall₂ hfs.flip hg
      obtain ⟨term, hterm, hbuild⟩ := List.mem_filterMap.1 hfilter
      exact ⟨term, hterm, filter, g, hbuild, hparse, hs⟩
    · rintro ⟨term, hterm, filter, g, hbuild, hparse, hs⟩
      have hfilter := List.mem_filterMap.2 ⟨term, hterm, hbuild⟩
      obtain ⟨g', hg', hparse'⟩ := exists_of_forall₂ hfs hfilter
      rw [hparse] at hparse'
      cases hparse'
      exact ⟨g, hg', hs⟩

end LdapConfig

end WazoDird
