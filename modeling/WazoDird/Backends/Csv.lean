import WazoDird.Backends.SourceResult
import WazoDird.Common.Listing
import WazoDird.Common.Scan

/-!
# The CSV backends

`plugins/csv_backend/plugin.py` and `plugins/csv_ws_backend/plugin.py`: the
rows of a file, and those a service answers over HTTP, looked up and listed
by the unique column. A row may have fewer cells than the header, and then
lacks the last columns.
-/

namespace WazoDird

/-- A row, by the header. -/
abbrev CsvEntry := Dict String String

/-- The fields of a row. -/
def CsvEntry.fields (entry : CsvEntry) : Fields := entry.map Value.str

/-- `_row_to_dict`. -/
def rowToDict (keys values : List String) : CsvEntry := Dict.ofList (keys.zip values)

/-- What `csv.reader` reads of a text: its first line, and the others. -/
structure CsvText where
  header : List String
  rows : List (List String)

/-- The rows of a text. -/
def CsvText.entries (text : CsvText) : List CsvEntry := text.rows.map (rowToDict text.header)

/-! ## Files -/

/-- The configuration of a csv source. Its schema refuses a unique column
of no character. -/
structure CSVConfig where
  name : String
  searchedColumns : Option (List String) := none
  firstMatchedColumns : Option (List String) := none
  uniqueColumn : Option String := none
  formatColumns : Dict String String := ∅
  uniqueColumn_ne : uniqueColumn ≠ some "" := by simp

/-- `CSVPlugin`. -/
structure CSVPlugin where
  config : CSVConfig
  content : List CsvEntry
  sourceResult : ResultClass

namespace CSVPlugin

/-- `load`, of a file with some text. -/
def load (config : CSVConfig) (file : CsvText) : CSVPlugin where
  config := config
  content := file.entries
  sourceResult := makeResultClass "csv" config.name config.uniqueColumn (some config.formatColumns)

/-- `_entry_values`. -/
def entryValues (columnNames : List String) (entry : CsvEntry) : List String :=
  columnNames.filterMap fun columnName => if columnName = "" then none else entry.get? columnName

variable (py : TextOps) (plugin : CSVPlugin)

/-- `_low_case_match_entry`. -/
def lowCaseMatchEntry (term : String) (columns : List String) (entry : CsvEntry) : Bool :=
  (entryValues columns entry).any fun value => inText term (py.lower value)

/-- `_exact_match_entry`. -/
def exactMatchEntry (term : String) (columns : List String) (entry : CsvEntry) : Bool :=
  (entryValues columns entry).any (term = ·)

/-- The result of a row. -/
def result (entry : CsvEntry) : Except PyError SourceResult :=
  plugin.sourceResult.make py entry.fields

/-- `_list_from_predicate`. -/
def listFromPredicate (predicate : CsvEntry → Except PyError Bool) :
    Except PyError (List SourceResult) :=
  Listing.lazily .ok predicate (plugin.result py) plugin.content

/-- `_make_unique`: the unique column of a row, which has to be there. -/
def makeUnique (entry : CsvEntry) : Except PyError String :=
  match plugin.config.uniqueColumn.bind entry.get? with
  | none => .error .keyError
  | some value => .ok value

/-- `_is_in_unique_ids`. -/
def isInUniqueIds (uniqueIds : List String) (entry : CsvEntry) : Except PyError Bool := do
  return (← plugin.makeUnique entry) ∈ uniqueIds

/-- `search`. -/
def search (term : String) : Except PyError (List SourceResult) :=
  match plugin.config.searchedColumns with
  | none => .ok []
  | some columns =>
    plugin.listFromPredicate py fun entry =>
      .ok (lowCaseMatchEntry py (py.lower term) columns entry)

/-- `first_match`. -/
def firstMatch (term : String) : Except PyError (Option SourceResult) :=
  match plugin.config.firstMatchedColumns with
  | none => .ok none
  | some columns =>
    Scan.first (fun entry => .ok (exactMatchEntry term columns entry)) (plugin.result py)
      plugin.content

/-- `list`. -/
def list (uniqueIds : List String) : Except PyError (List SourceResult) :=
  if plugin.config.uniqueColumn = none then .ok []
  else plugin.listFromPredicate py (plugin.isInUniqueIds uniqueIds)

end CSVPlugin

/-! ## Over HTTP -/

/-- The configuration of a csv_ws source. -/
structure CSVWSConfig where
  name : String
  lookupUrl : String
  listUrl : Option String := none
  searchedColumns : List String := []
  firstMatchedColumns : List String := []
  uniqueColumn : Option String := none
  formatColumns : Dict String String := ∅
  uniqueColumn_ne : uniqueColumn ≠ some "" := by simp

/-- **A service**: the rows it answers at an url, to some parameters. What
it answers to any parameters at the first of its urls is among what it
answers at the second, which is that of all its rows. -/
structure CsvService where
  lookup : Dict String String → List CsvEntry
  all : List CsvEntry
  lookup_subset : ∀ params, ∀ entry ∈ lookup params, entry ∈ all

/-- `CSVWSPlugin`. -/
structure CSVWSPlugin where
  config : CSVWSConfig
  sourceResult : ResultClass

namespace CSVWSPlugin

/-- `load`. -/
def load (config : CSVWSConfig) : CSVWSPlugin where
  config := config
  sourceResult :=
    makeResultClass "csv_ws" config.name config.uniqueColumn (some config.formatColumns)

variable (py : TextOps) (service : CsvService) (plugin : CSVWSPlugin)

/-- The result of a row. -/
def result (entry : CsvEntry) : Except PyError SourceResult :=
  plugin.sourceResult.make py entry.fields

/-- The parameters of a request: the term, for each column. -/
def params (columns : List String) (term : String) : Dict String String :=
  Dict.ofList (columns.map fun column => (column, term))

/-- `search`. A row of no column is passed over. -/
def search (term : String) : Except PyError (List SourceResult) :=
  Listing.lazily .ok (fun entry => .ok !entry.isEmpty) (plugin.result py)
    (service.lookup (params plugin.config.searchedColumns term))

/-- `first_match`. -/
def firstMatch (term : String) : Except PyError (Option SourceResult) :=
  let columns := plugin.config.firstMatchedColumns
  Scan.first (fun entry => .ok (columns.any fun column => entry.get? column = some term))
    (plugin.result py) (service.lookup (params columns term))

/-- `list`. -/
def list (sourceEntryIds : List String) : Except PyError (List SourceResult) :=
  match plugin.config.uniqueColumn, plugin.config.listUrl with
  | some uniqueColumn, some _ =>
    Listing.lazily .ok (fun entry => .ok ((entry.get? uniqueColumn).any (· ∈ sourceEntryIds)))
      (plugin.result py) service.all
  | _, _ => .ok []

end CSVWSPlugin

/-! ## What is found is listed back -/

section Listed

variable {py : TextOps} {column : String}

/-- What a row makes is known by its text in the unique column, if it has
one. -/
theorem CsvEntry.entryId_of_make {cls : ResultClass} (hne : cls.uniqueColumn ≠ some "")
    {entry : CsvEntry} {r : SourceResult} (hmake : cls.make py entry.fields = .ok r) :
    r.relations.sourceEntryId = cls.uniqueColumn.bind entry.get? := by
  rw [ResultClass.entryId_of_make py hmake, ResultClass.getUnique]
  split
  · next h => rw [h, Option.bind_none]
  · next h => exact absurd h hne
  · next column _ h =>
    rw [h, Option.bind_some, CsvEntry.fields, Dict.get?_map, Option.map_map]
    cases entry.get? column with
    | none => rfl
    | some value => exact congrArg some (py.str_str value)

/-- A row can be made a result of by the names of its columns. -/
theorem CsvEntry.exists_make_iff {cls : ResultClass} {entry : CsvEntry} :
    (∃ r, cls.make py entry.fields = .ok r) ↔ CanFormat cls.formatColumns.keys entry.keys := by
  rw [ResultClass.exists_make_iff, CsvEntry.fields, Dict.keys_map]

namespace CSVPlugin

variable {config : CSVConfig} {file : CsvText} {plugin : CSVPlugin} {entry : CsvEntry}
  {s : String} {r : SourceResult}

/-- What a row is compared by. -/
def compared (plugin : CSVPlugin) (entry : CsvEntry) : Except PyError (Option String) := do
  return some (← plugin.makeUnique entry)

/-- A row is kept when it is asked for. -/
theorem requested_compared {ids : List String} :
    Listing.requested plugin.compared ids = plugin.isInUniqueIds ids := by
  funext entry
  rw [Listing.requested, compared, isInUniqueIds]
  cases plugin.makeUnique entry <;> rfl

/-- What is found is a row's result. -/
theorem row_of_found (h : Listing.Found (plugin.search py) (plugin.firstMatch py) r) :
    ∃ entry ∈ plugin.content, plugin.result py entry = .ok r := by
  rcases h with ⟨term, rs, h, hr⟩ | ⟨term, h⟩
  · unfold search at h
    split at h
    · cases h
      cases hr
    · exact Listing.selects_lazily.exists_mem h hr
  · unfold firstMatch at h
    split at h
    · cases h
    · exact Scan.exists_mem_of_first h

/-- A row is compared by its unique column. -/
theorem compared_eq_ok (hcolumn : plugin.config.uniqueColumn = some column) :
    plugin.compared entry = .ok (some s) ↔ entry.get? column = some s := by
  rw [compared, makeUnique, hcolumn, Option.bind_some]
  cases entry.get? column with
  | none => exact iff_of_false (fun h => by cases h) fun h => by cases h
  | some value => exact ⟨fun h => Except.ok.inj h, fun h => congrArg Except.ok h⟩

/-- A row can be compared when it has the unique column. -/
theorem exists_compared_iff (hcolumn : plugin.config.uniqueColumn = some column) :
    (∃ k, plugin.compared entry = .ok k) ↔ column ∈ entry.keys := by
  rw [compared, makeUnique, hcolumn, Option.bind_some, Dict.mem_keys_iff]
  cases entry.get? column with
  | none => exact iff_of_false (fun ⟨k, hk⟩ => by cases hk) Bool.false_ne_true
  | some value => exact iff_of_true ⟨_, rfl⟩ rfl

/-- A listing is a selection of the rows. -/
theorem selects_list (hcolumn : plugin.config.uniqueColumn = some column) (ids : List String) :
    Listing.Selects (Listing.requested plugin.compared ids) (plugin.result py) plugin.content
      (plugin.list py ids) := by
  have hne : plugin.config.uniqueColumn ≠ none := by
    rw [hcolumn]
    exact Option.some_ne_none column
  rw [list, if_neg hne, requested_compared]
  exact Listing.selects_kept

/-- **A row is reached**: a term is part of one of its searched columns, or
is one of its first-matched ones. -/
def Reached (py : TextOps) (config : CSVConfig) (file : CsvText) (entry : CsvEntry) : Prop :=
  Listing.Reached (fun _ => file.entries) (fun _ => file.entries)
    (fun term entry => .ok (config.searchedColumns.any fun columns =>
      lowCaseMatchEntry py (py.lower term) columns entry))
    (fun term entry => .ok (config.firstMatchedColumns.any fun columns =>
      exactMatchEntry term columns entry))
    ((load config file).result py) entry

/-- What is found is made of the rows that are reached. -/
theorem found_iff :
    Listing.Found ((load config file).search py) ((load config file).firstMatch py) r ↔
      ∃ entry, Reached py config file entry ∧ (load config file).result py entry = .ok r := by
  refine Listing.found_iff_reached (fun term => ?_) fun term => ?_
  · unfold search
    split
    · next h =>
      rw [show config.searchedColumns = none from h]
      exact Listing.selects_nil fun _ _ => rfl
    · next columns h =>
      rw [show config.searchedColumns = some columns from h]
      exact Listing.selects_kept
  · unfold firstMatch
    split
    · next h =>
      rw [show config.firstMatchedColumns = none from h]
      exact (Scan.first_eq_none fun _ _ => rfl).symm
    · next columns h =>
      rw [show config.firstMatchedColumns = some columns from h]
      rfl

/-- **When a csv source lists back what it finds**: there is no unique
column; or every row has it, and no row of the id of one that is reached
has columns that cannot be formatted. -/
theorem listsBack_iff :
    Listing.ListsBack
        (Listing.Found ((load config file).search py) ((load config file).firstMatch py))
        (·.relations.sourceEntryId) ((load config file).list py) (load config file).compared
        ((load config file).result py) file.entries ↔
      ∀ column, config.uniqueColumn = some column →
        (∀ entry ∈ file.entries, column ∈ entry.keys) ∧
        ∀ row, Reached py config file row → ∀ entry ∈ file.entries,
          entry.get? column = row.get? column → CanFormat config.formatColumns.keys entry.keys := by
  have hid : ∀ entry r, (load config file).result py entry = .ok r →
      r.relations.sourceEntryId = config.uniqueColumn.bind entry.get? :=
    fun entry r => CsvEntry.entryId_of_make config.uniqueColumn_ne
  cases hunique : config.uniqueColumn with
  | none =>
    -- nothing is listed, and nothing that is found has an id
    have hempty : ∀ ids, (load config file).list py ids = .ok [] := fun ids => if_pos hunique
    refine iff_of_true ((Listing.listsBack_of_empty hempty).2 fun r hfound => ?_)
      fun column h => by cases h
    obtain ⟨entry, -, hmake⟩ := row_of_found hfound
    rw [hid entry r hmake, hunique, Option.bind_none]
  | some column =>
    have hcolumn : (load config file).config.uniqueColumn = some column := hunique
    have hknown : ∀ entry r, (load config file).result py entry = .ok r → ∀ s,
        (load config file).compared entry = .ok (some s) ↔ r.relations.sourceEntryId = some s := by
      intro entry r hmake s
      rw [compared_eq_ok hcolumn, hid entry r hmake, hunique, Option.bind_some]
    have hlist : ∀ ids, Listing.Selects (Listing.requested (load config file).compared ids)
        ((load config file).result py) file.entries ((load config file).list py ids) :=
      selects_list hcolumn
    rw [Listing.listsBack_iff_of_compared hlist (fun r => row_of_found) hknown]
    simp only [exists_compared_iff hcolumn, compared_eq_ok hcolumn, result,
      CsvEntry.exists_make_iff, Option.some.injEq, forall_eq']
    refine and_congr_right fun hall => ?_
    constructor
    · intro h row hrow entry hentry hsame
      obtain ⟨r, hmake⟩ := hrow.exists_make
      obtain ⟨-, hmem⟩ := hrow.exists_mem
      obtain ⟨s, hs⟩ := Option.isSome_iff_exists.1
        (Dict.mem_keys_iff.1 (hall row (or_self_iff.1 hmem)))
      refine h r s (found_iff.2 ⟨row, hrow, hmake⟩) ?_ entry hentry (hsame.trans hs)
      rw [hid row r hmake, hunique, Option.bind_some, hs]
    · intro h r s hfound hs entry hentry hget
      obtain ⟨row, hrow, hmake⟩ := found_iff.1 hfound
      rw [hid row r hmake, hunique, Option.bind_some] at hs
      exact h row hrow entry hentry (hget.trans hs.symm)

end CSVPlugin

namespace CSVWSPlugin

variable {service : CsvService} {config : CSVWSConfig} {plugin : CSVWSPlugin} {entry : CsvEntry}
  {s : String} {r : SourceResult}

/-- What a row is compared by. -/
def compared (plugin : CSVWSPlugin) (entry : CsvEntry) : Except PyError (Option String) :=
  .ok (plugin.config.uniqueColumn.bind entry.get?)

/-- A row is kept when it is asked for. -/
theorem requested_compared {ids : List String}
    (hcolumn : plugin.config.uniqueColumn = some column) :
    Listing.requested plugin.compared ids =
      fun entry => .ok ((entry.get? column).any (· ∈ ids)) := by
  funext entry
  rw [Listing.requested, compared, hcolumn]
  rfl

/-- What is found is the result of a row of the service. -/
theorem row_of_found (h : Listing.Found (plugin.search py service) (plugin.firstMatch py service) r) :
    ∃ entry ∈ service.all, plugin.result py entry = .ok r := by
  rcases h with ⟨term, rs, h, hr⟩ | ⟨term, h⟩
  · obtain ⟨entry, hentry, hmake⟩ := Listing.selects_lazily.exists_mem h hr
    exact ⟨entry, service.lookup_subset _ entry hentry, hmake⟩
  · obtain ⟨entry, hentry, hmake⟩ := Scan.exists_mem_of_first h
    exact ⟨entry, service.lookup_subset _ entry hentry, hmake⟩

/-- A listing is a selection of the rows, when there is an url. -/
theorem selects_list {url : String} (hcolumn : plugin.config.uniqueColumn = some column)
    (hurl : plugin.config.listUrl = some url) (ids : List String) :
    Listing.Selects (Listing.requested plugin.compared ids) (plugin.result py) service.all
      (plugin.list py service ids) := by
  rw [list, hcolumn, hurl, requested_compared hcolumn]
  exact Listing.selects_kept

/-- **A row is reached**: the service answers it to a term, for the searched
columns, or for the first-matched ones, one of which it is. -/
def Reached (py : TextOps) (config : CSVWSConfig) (service : CsvService) (entry : CsvEntry) :
    Prop :=
  Listing.Reached (fun term => service.lookup (params config.searchedColumns term))
    (fun term => service.lookup (params config.firstMatchedColumns term))
    (fun _ entry => .ok !entry.isEmpty)
    (fun term entry =>
      .ok (config.firstMatchedColumns.any fun column => entry.get? column = some term))
    ((load config).result py) entry

/-- What is found is made of the rows that are reached. -/
theorem found_iff :
    Listing.Found ((load config).search py service) ((load config).firstMatch py service) r ↔
      ∃ entry, Reached py config service entry ∧ (load config).result py entry = .ok r :=
  Listing.found_iff_reached (fun _ => Listing.selects_kept) fun _ => rfl

/-- **When a csv_ws source lists back what it finds**: what is reached has
no id; or there is an url to list from, and no row of the id of one that is
reached has columns that cannot be formatted. -/
theorem listsBack_iff :
    Listing.ListsBack
        (Listing.Found ((load config).search py service) ((load config).firstMatch py service))
        (·.relations.sourceEntryId) ((load config).list py service) (load config).compared
        ((load config).result py) service.all ↔
      ∀ column, config.uniqueColumn = some column →
        ∀ row, Reached py config service row → column ∈ row.keys →
          config.listUrl ≠ none ∧ ∀ entry ∈ service.all, entry.get? column = row.get? column →
            CanFormat config.formatColumns.keys entry.keys := by
  have hid : ∀ entry r, (load config).result py entry = .ok r →
      r.relations.sourceEntryId = config.uniqueColumn.bind entry.get? :=
    fun entry r => CsvEntry.entryId_of_make config.uniqueColumn_ne
  have hempty : config.uniqueColumn = none ∨ config.listUrl = none →
      ∀ ids, (load config).list py service ids = .ok [] := by
    rintro (h | h) ids
    · simp [list, load, h]
    · simp [list, load, h]
  cases hunique : config.uniqueColumn with
  | none =>
    refine iff_of_true ((Listing.listsBack_of_empty (hempty (Or.inl hunique))).2
      fun r hfound => ?_) fun column h => by cases h
    obtain ⟨entry, -, hmake⟩ := row_of_found hfound
    rw [hid entry r hmake, hunique, Option.bind_none]
  | some column =>
    simp only [Option.some.injEq, forall_eq']
    cases hurl : config.listUrl with
    | none =>
      -- nothing is listed, so nothing that is found may have an id
      rw [Listing.listsBack_of_empty (hempty (Or.inr hurl))]
      constructor
      · intro hnone row hrow hkey
        obtain ⟨r, hmake⟩ := hrow.exists_make
        have hid' := hnone r (found_iff.2 ⟨row, hrow, hmake⟩)
        rw [hid row r hmake, hunique, Option.bind_some] at hid'
        rw [Dict.mem_keys_iff, hid'] at hkey
        cases hkey
      · intro hcond r hfound
        obtain ⟨row, hrow, hmake⟩ := found_iff.1 hfound
        rw [hid row r hmake, hunique, Option.bind_some, Option.eq_none_iff_forall_ne_some]
        intro s hs
        exact (hcond row hrow (Dict.mem_keys_iff.2 (by rw [hs]; rfl))).1 rfl
    | some url =>
      have hcompared : ∀ entry s, (load config).compared entry = .ok (some s) ↔
          entry.get? column = some s := by
        intro entry s
        rw [compared, show (load config).config.uniqueColumn = some column from hunique,
          Option.bind_some, Except.ok.injEq]
      have hknown : ∀ entry r, (load config).result py entry = .ok r → ∀ s,
          (load config).compared entry = .ok (some s) ↔ r.relations.sourceEntryId = some s := by
        intro entry r hmake s
        rw [hcompared, hid entry r hmake, hunique, Option.bind_some]
      rw [Listing.listsBack_iff_of_compared (selects_list hunique hurl) (fun r => row_of_found)
        hknown]
      simp only [hcompared, result, CsvEntry.exists_make_iff]
      constructor
      · rintro ⟨-, hbuild⟩ row hrow hkey
        obtain ⟨r, hmake⟩ := hrow.exists_make
        obtain ⟨s, hs⟩ := Option.isSome_iff_exists.1 (Dict.mem_keys_iff.1 hkey)
        refine ⟨Option.some_ne_none url, fun entry hentry hsame => ?_⟩
        refine hbuild r s (found_iff.2 ⟨row, hrow, hmake⟩) ?_ entry hentry (hsame.trans hs)
        rw [hid row r hmake, hunique, Option.bind_some, hs]
      · intro hcond
        refine ⟨fun entry _ => ⟨_, rfl⟩, fun r s hfound hs entry hentry hget => ?_⟩
        obtain ⟨row, hrow, hmake⟩ := found_iff.1 hfound
        rw [hid row r hmake, hunique, Option.bind_some] at hs
        exact (hcond row hrow (Dict.mem_keys_iff.2 (by rw [hs]; rfl))).2 entry hentry
          (hget.trans hs.symm)

end CSVWSPlugin

end Listed

end WazoDird
