import WazoDird.Ldap.MatchAll

/-!
# No term changes the filter it is put in

What a filter is meant to be is said apart from its text: the custom
filter, read with holes before any term is known, and a test for each
column (`intended`). `parses_as_intended` says that the texts built for a
search, a first match and a batch parse to just that, whatever the terms
are made of.
-/

namespace WazoDird

open Rfc4515

namespace LdapConfig

variable {escapeFilterChars : String → String} {config : LdapConfig} {term : String}

/-- **A sound configuration**: one that is valid, its searched columns
attributes too. -/
structure Sound (config : LdapConfig) : Prop extends Valid config where
  searched : ∀ column ∈ config.searchedColumns, isAttr column.toList = true

/-! ## What is meant -/

/-- The tests of the custom filter, with holes for the term. -/
def customTests (config : LdapConfig) : Option (SearchFilter (Test (Option UInt8))) :=
  config.customFilter.bind fun filter =>
    (parseHoled filter.toList).map (SearchFilter.map HoledItem.test)

/-- A test of each column with a term. -/
def columnTests (test : List Char → Bytes → Test UInt8) (columns : List String) (term : String) :
    SearchFilter (Test UInt8) :=
  disjunction (columns.map fun column => .item (test column.toList (utf8 term.toList)))

/-- **The filter meant for a term**: the custom filter, its holes filled with
the term, and the tests of the columns, as far as either is configured. -/
def intended (config : LdapConfig) (test : List Char → Bytes → Test UInt8)
    (columns : List String) (term : String) : SearchFilter (Test UInt8) :=
  match config.customTests, columns with
  | some custom, _ :: _ =>
    .and [custom.map (Test.map (fillHoles (utf8 term.toList))), columnTests test columns term]
  | some custom, [] => custom.map (Test.map (fillHoles (utf8 term.toList)))
  | none, columns => columnTests test columns term

/-- The filter meant by a search. -/
def searchTree (config : LdapConfig) : String → SearchFilter (Test UInt8) :=
  config.intended .contains config.searchedColumns

/-- The filter meant by a first match. -/
def firstMatchTree (config : LdapConfig) : String → SearchFilter (Test UInt8) :=
  config.intended .equals config.firstMatchedColumns

/-- **What is built parses to what is meant.** -/
structure ParsesAsIntended (escapeFilterChars : String → String) (config : LdapConfig) :
    Prop where
  /-- The tests with holes are those of the custom filter, the placeholder
  standing for itself. -/
  custom : ∀ filter, config.customFilter = some filter → ∃ holed,
    config.customTests = some holed ∧
    parseTests filter.toList = some (holed.map (Test.map (fillHoles (utf8 ['%', 'Q']))))
  /-- The filter of a search. -/
  search : ∀ term, term ≠ "" → config.customFilter ≠ none ∨ config.searchedColumns ≠ [] →
    ∃ filter, config.buildSearchFilter escapeFilterChars term = some filter ∧
      parseTests filter.toList = some (config.searchTree term)
  /-- The filter of a first match. -/
  firstMatch : ∀ term, term ≠ "" →
    config.customFilter ≠ none ∨ config.firstMatchedColumns ≠ [] →
    ∃ filter, config.buildFirstMatchFilter escapeFilterChars term = some filter ∧
      parseTests filter.toList = some (config.firstMatchTree term)
  /-- The filter of a batch. -/
  matchAll : ∀ terms, terms ≠ [] → (∀ term ∈ terms, term ≠ "") →
    config.customFilter ≠ none ∨ config.firstMatchedColumns ≠ [] →
    parseTests (config.buildMatchAllFilter escapeFilterChars terms).toList =
      some (disjunction (terms.map config.firstMatchTree))

/-! ## What is built -/

/-- The disjunction of texts that parse to tests. -/
theorem parseTests_buildFilterFromList {filters : List String}
    {ts : List (SearchFilter (Test UInt8))}
    (h : List.Forall₂ (fun s t => parseTests s.toList = some t) filters ts) :
    parseTests (buildFilterFromList filters).toList = some (disjunction ts) := by
  obtain ⟨fs, hfs, rfl⟩ := exists_parse_of_parseTests (List.forall₂_map_left_iff.2 h)
  rw [parseTests, parse_buildFilterFromList (List.forall₂_map_left_iff.1 hfs), ← map_disjunction]
  rfl

/-- The substrings of a column. -/
theorem parse_substring {attr value : String} {b : Bytes} (hattr : isAttr attr.toList = true)
    (hvalue : decodeAssertion value.toList = some [b]) :
    parse ("(" ++ attr ++ "=*" ++ value ++ "*)").toList =
      some (.item ⟨attr.toList, .equal, [[], b, []]⟩) := by
  have htext : ("(" ++ attr ++ "=*" ++ value ++ "*)").toList =
      '(' :: (attr.toList ++ '=' :: '*' :: (value.toList ++ ['*']) ++ [')']) := by
    simp [String.toList_append]
  rw [htext, parse_contains hattr hvalue]

/-- The tests of columns, from the texts of each. -/
theorem parseTests_columns {columns : List String} {text : String → String}
    {test : List Char → Bytes → Test UInt8}
    (h : ∀ column ∈ columns, parseTests (text column).toList =
      some (.item (test column.toList (utf8 term.toList)))) :
    parseTests (buildFilterFromList (columns.map text)).toList =
      some (columnTests test columns term) := by
  refine parseTests_buildFilterFromList ?_
  rw [List.forall₂_map_left_iff, List.forall₂_map_right_iff]
  exact List.forall₂_same.2 h

/-- The searched columns contain the term. -/
theorem parseTests_searchedColumns (hescape : EscapesFilterChars escapeFilterChars)
    (hsound : config.Sound) (term : String) :
    parseTests (config.buildSearchFilterFromSearchedColumns (escapeFilterChars term)).toList =
      some (columnTests .contains config.searchedColumns term) := by
  refine parseTests_columns fun column hcolumn => ?_
  rw [parseTests, parse_substring (hsound.searched column hcolumn) (hescape term), Option.map_some,
    SearchFilter.map, test_contains]

/-- The first-matched columns are equal to the term. -/
theorem parseTests_firstMatchedColumns (hescape : EscapesFilterChars escapeFilterChars)
    (hvalid : config.Valid) (term : String) :
    parseTests (config.buildExactSearchFilterFromFirstMatchedColumns
        (escapeFilterChars term)).toList =
      some (columnTests .equals config.firstMatchedColumns term) := by
  refine parseTests_columns fun column hcolumn => ?_
  rw [parseTests, parse_equality (hvalid.columns column hcolumn) (hescape term)]
  rfl

/-- Text that is not empty has octets. -/
theorem utf8_ne_nil (h : term ≠ "") : utf8 term.toList ≠ [] := by
  intro hnil
  exact h (String.toList_eq_nil_iff.1 (utf8_injective (hnil.trans utf8_nil.symm)))

/-- The tests of a filter filled with octets. -/
theorem map_test_fill {b : Bytes} (hb : b ≠ []) (holed : SearchFilter HoledItem) :
    (holed.map (HoledItem.fill b)).map Item.test =
      (holed.map HoledItem.test).map (Test.map (fillHoles b)) :=
  SearchFilter.map_map (test_fill hb) holed

/-- **The custom filter has its holes filled with the term.** -/
theorem parseTests_custom (hescape : EscapesFilterChars escapeFilterChars)
    (hvalid : config.Valid) {custom : String} (h : config.customFilter = some custom) :
    ∃ holed, config.customTests = some holed ∧
      parseTests custom.toList = some (holed.map (Test.map (fillHoles (utf8 ['%', 'Q'])))) ∧
      ∀ term, term ≠ "" →
        parseTests (buildSearchFilterFromCustomFilter custom (escapeFilterChars term)).toList =
          some (holed.map (Test.map (fillHoles (utf8 term.toList)))) := by
  obtain ⟨f, hf⟩ := hvalid.custom custom h
  obtain ⟨holed, hholed, hfilled⟩ := parse_fill hf
  obtain ⟨holed', hholed', hself⟩ := parse_eq_fill hf
  obtain rfl : holed = holed' := Option.some.inj (hholed.symm.trans hholed')
  refine ⟨holed.map HoledItem.test, by rw [customTests, h, Option.bind_some, hholed]; rfl, ?_, ?_⟩
  · rw [parseTests, hf, hself, Option.map_some, map_test_fill (by decide)]
  · intro term hterm
    rw [buildSearchFilterFromCustomFilter, String.toList_ofList, parseTests,
      hfilled (hescape term), Option.map_some, map_test_fill (utf8_ne_nil hterm)]

/-- **The filter of an operation**, from the text of its columns. -/
theorem parseTests_buildFilter (hescape : EscapesFilterChars escapeFilterChars)
    (hvalid : config.Valid) {columns : List String} {generated : String → String}
    {test : List Char → Bytes → Test UInt8}
    (hgenerated : parseTests (generated (escapeFilterChars term)).toList =
      some (columnTests test columns term))
    (hterm : term ≠ "") (hsome : config.customFilter ≠ none ∨ columns ≠ []) :
    ∃ filter, config.buildFilter escapeFilterChars columns generated term = some filter ∧
      parseTests filter.toList = some (config.intended test columns term) := by
  unfold buildFilter intended
  simp only
  cases hc : config.customFilter with
  | none =>
    -- then there are columns
    have htests : config.customTests = none := by rw [customTests, hc]; rfl
    rw [htests]
    cases columns with
    | nil => exact absurd hsome (by simp [hc])
    | cons column columns => exact ⟨_, rfl, hgenerated⟩
  | some custom =>
    obtain ⟨holed, htests, -, hfilled⟩ := parseTests_custom hescape hvalid hc
    rw [htests]
    cases columns with
    | nil => exact ⟨_, rfl, hfilled term hterm⟩
    | cons column columns =>
      obtain ⟨f, hf, hcustom⟩ := parseTests_eq_some_iff.1 (hfilled term hterm)
      obtain ⟨g, hg, hcolumns⟩ := parseTests_eq_some_iff.1 hgenerated
      refine ⟨_, rfl, parseTests_eq_some_iff.2
        ⟨_, parse_buildFilterFromCustomAndGeneratedFilter hf hg, ?_⟩⟩
      rw [SearchFilter.map, mapAll, mapAll, mapAll, hcustom, hcolumns]

/-- A text that parses to tests is not empty. -/
theorem ne_empty_of_parseTests {filter : String} {t : SearchFilter (Test UInt8)}
    (h : parseTests filter.toList = some t) : filter ≠ "" := by
  obtain ⟨f, hf, -⟩ := parseTests_eq_some_iff.1 h
  exact ne_empty_of_parse hf

/-- **The filter of a batch**, from those of its terms. -/
theorem parseTests_buildMatchAllFilter {terms : List String}
    {tree : String → SearchFilter (Test UInt8)}
    (h : ∀ term ∈ terms, ∃ filter,
      config.buildFirstMatchFilter escapeFilterChars term = some filter ∧
        parseTests filter.toList = some (tree term)) :
    parseTests (config.buildMatchAllFilter escapeFilterChars terms).toList =
      some (disjunction (terms.map tree)) := by
  have hfilters : List.Forall₂ (fun s t => parseTests s.toList = some t)
      ((terms.filterMap (config.buildFirstMatchFilter escapeFilterChars)).filter (· ≠ ""))
      (terms.map tree) := by
    induction terms with
    | nil => exact .nil
    | cons term terms ih =>
      obtain ⟨filter, hbuild, hparse⟩ := h term List.mem_cons_self
      -- what parses is not empty, so it is not left out
      have hne : filter ≠ "" := ne_empty_of_parseTests hparse
      rw [List.filterMap_cons_some hbuild, List.filter_cons_of_pos (by simpa using hne),
        List.map_cons]
      exact .cons hparse (ih fun term' hterm' => h term' (List.mem_cons_of_mem _ hterm'))
  exact parseTests_buildFilterFromList hfilters

/-- **No term changes the filter it is put in.** -/
theorem parses_as_intended (hescape : EscapesFilterChars escapeFilterChars)
    (hsound : config.Sound) : config.ParsesAsIntended escapeFilterChars := by
  have hfirst : ∀ term, term ≠ "" →
      config.customFilter ≠ none ∨ config.firstMatchedColumns ≠ [] →
      ∃ filter, config.buildFirstMatchFilter escapeFilterChars term = some filter ∧
        parseTests filter.toList = some (config.firstMatchTree term) := fun term =>
    parseTests_buildFilter hescape hsound.toValid
      (parseTests_firstMatchedColumns hescape hsound.toValid term)
  refine ⟨?_, ?_, hfirst, ?_⟩
  · intro filter hfilter
    obtain ⟨holed, hholed, hself, -⟩ := parseTests_custom hescape hsound.toValid hfilter
    exact ⟨holed, hholed, hself⟩
  · intro term
    exact parseTests_buildFilter hescape hsound.toValid
      (parseTests_searchedColumns hescape hsound term)
  · intro terms _ hterms hsome
    exact parseTests_buildMatchAllFilter fun term hterm => hfirst term (hterms term hterm) hsome

/-- A source of persons, whose names begin with the term. -/
def personSource : LdapConfig where
  name := "ldap"
  searchedColumns := ["mail", "telephoneNumber"]
  firstMatchedColumns := ["telephoneNumber"]
  ldapCustomFilter := some "(&(objectClass=person)(cn=%Q*))"
  searches := Or.inr (by decide)

theorem personSource_sound : personSource.Sound where
  columns := by decide
  custom := by
    intro filter hfilter
    cases hfilter
    exact ⟨_, rfl⟩
  searched := by decide

/-- The filters of persons are as meant. -/
theorem parses_as_intended_personSource : personSource.ParsesAsIntended LdapPlugin.escapeChars :=
  parses_as_intended LdapPlugin.escapeChars_escapes personSource_sound

-- a term made of the syntax, and of the placeholder
example : personSource.buildFirstMatchFilter LdapPlugin.escapeChars "%Q)(cn=*" =
    some ("(&(&(objectClass=person)(cn=%Q\\29\\28cn=\\2a*))" ++
      "(telephoneNumber=%Q\\29\\28cn=\\2a))") := by
  decide +kernel

end LdapConfig

end WazoDird
