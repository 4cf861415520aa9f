import WazoDird.Common.Except
import WazoDird.Common.Text

/-!
# Results

`plugins/source_result.py`: a result is the fields of a contact, with the
columns the source formats added, and what relates it to the rest of the
system.
-/

namespace WazoDird

/-- `relations` of a result. -/
structure Relations where
  xivoId : Value := .none
  agentId : Value := .none
  userId : Value := .none
  userUuid : Value := .none
  endpointId : Value := .none
  sourceEntryId : Option String := none
  deriving DecidableEq, Repr

/-- The class that `make_result_class` makes for a source. -/
structure ResultClass where
  backend : String
  source : String
  uniqueColumn : Option String := none
  formatColumns : Dict String String := ∅
  isDeletable : Bool := false
  isPersonal : Bool := false

/-- `make_result_class`. -/
def makeResultClass (sourceBackend sourceName : String) (uniqueColumn : Option String)
    (formatColumns : Option (Dict String String)) (isDeletable isPersonal : Bool := false) :
    ResultClass where
  backend := sourceBackend
  source := sourceName
  uniqueColumn := uniqueColumn
  formatColumns := formatColumns.getD ∅
  isDeletable := isDeletable
  isPersonal := isPersonal

/-- `_SourceResult`. -/
structure SourceResult where
  source : String
  backend : String
  fields : Fields
  relations : Relations
  deriving DecidableEq, Repr

variable (py : TextOps)

/-- The parameters of `_NoErrorFormatter.format`. -/
def formatParameters : List String := ["self", "format_string"]

/-- `_NoErrorFormatter.format`, called with the fields as keywords: those
that its own parameters are named by cannot be passed. -/
def noErrorFormat (formatString : String) (fields : Fields) : Except PyError (Option String) :=
  if ∃ name ∈ formatParameters, name ∈ fields.keys then .error .typeError
  else .ok (py.format formatString fields)

/-- `_add_formatted_columns`. -/
def addFormattedColumns (formatColumns : Dict String String) (fields : Fields) :
    Except PyError Fields :=
  formatColumns.entries.foldlM (fun fields (column, formatString) => do
    let value ← noErrorFormat py formatString fields
    return fields.set column (match value with
      | none | some "" => .none
      | some value => .str value)) fields

/-- `get_unique`, called when there is a unique column. -/
def ResultClass.getUnique (cls : ResultClass) (fields : Fields) : Option String :=
  match cls.uniqueColumn with
  | none | some "" => none
  | some column => (fields.get? column).map py.str

/-- `_SourceResult.__init__`. -/
def ResultClass.make (cls : ResultClass) (fields : Fields) (relations : Relations := {}) :
    Except PyError SourceResult := do
  let formatted ← addFormattedColumns py cls.formatColumns fields
  return {
    source := cls.source
    backend := cls.backend
    fields := formatted
    relations := { relations with sourceEntryId := cls.getUnique py fields } }

/-! ## Keeping results under the terms they show -/

/-- The term an entry is kept under, for a column: its value there, when it
is one of the terms. -/
def kept (terms : List String) (column : String) (entry : SourceResult) :
    Option (String × SourceResult) :=
  match entry.fields.get? column with
  | some (.str value) => if value ∈ terms then some (value, entry) else none
  | _ => none

/-- Keep an entry under the value of a column, if that is one of the terms:
`results[value] = entry`. -/
def keep (terms : List String) (column : String) (results : Dict String SourceResult)
    (entry : SourceResult) : Dict String SourceResult :=
  match kept terms column entry with
  | some (value, entry) => results.set value entry
  | none => results

omit py in
/-- An entry is kept under a term it shows. -/
theorem kept_eq_some_iff {terms : List String} {column : String} {entry : SourceResult}
    {e : String × SourceResult} :
    kept terms column entry = some e ↔
      entry.fields.get? column = some (.str e.1) ∧ e.1 ∈ terms ∧ e.2 = entry := by
  unfold kept
  constructor
  · intro h
    split at h
    · next value hvalue =>
      split at h
      · next hmem =>
        cases h
        exact ⟨hvalue, hmem, rfl⟩
      · cases h
    · cases h
  · rintro ⟨hvalue, hmem, rfl⟩
    rw [hvalue]
    exact if_pos hmem

omit py in
/-- Entries kept one after another are written in their order. -/
theorem foldl_keep (terms : List String) (column : String) (results : Dict String SourceResult)
    (entries : List SourceResult) :
    entries.foldl (keep terms column) results =
      results.setAll (entries.filterMap (kept terms column)) := by
  induction entries generalizing results with
  | nil => rfl
  | cons entry entries ih =>
    rw [List.foldl_cons, ih, keep, List.filterMap_cons]
    cases kept terms column entry <;> rfl

omit py in
/-- **Entries kept column by column**: the terms they are kept under are
those that one of them shows in one of the columns. -/
theorem mem_keys_foldl_keep {terms columns : List String} {entries : List SourceResult}
    {term : String} :
    term ∈ (columns.foldl (fun results column => entries.foldl (keep terms column) results)
      (∅ : Dict String SourceResult)).keys ↔
        term ∈ terms ∧ ∃ column ∈ columns, ∃ entry ∈ entries,
          entry.fields.get? column = some (.str term) := by
  have hloop : ∀ results : Dict String SourceResult,
      columns.foldl (fun results column => entries.foldl (keep terms column) results) results =
        results.setAll (columns.flatMap fun column => entries.filterMap (kept terms column)) := by
    induction columns with
    | nil => exact fun results => rfl
    | cons column columns ih =>
      intro results
      rw [List.foldl_cons, ih, foldl_keep, List.flatMap_cons, Dict.setAll_append]
  rw [hloop]
  refine Dict.mem_keys_ofList.trans ?_
  simp only [List.mem_map, List.mem_flatMap, List.mem_filterMap]
  constructor
  · rintro ⟨e, ⟨column, hcolumn, entry, hentry, hkept⟩, rfl⟩
    obtain ⟨hshows, hmem, -⟩ := kept_eq_some_iff.1 hkept
    exact ⟨hmem, column, hcolumn, entry, hentry, hshows⟩
  · rintro ⟨hmem, column, hcolumn, entry, hentry, hshows⟩
    exact ⟨(term, entry),
      ⟨column, hcolumn, entry, hentry, kept_eq_some_iff.2 ⟨hshows, hmem, rfl⟩⟩, rfl⟩

/-! ## When a result can be built -/

/-- Columns can be formatted from fields of these names: no field is named
as a parameter when a format is called, so no column is either, but the
last. -/
def CanFormat (columns names : List String) : Prop :=
  columns ≠ [] → ∀ name ∈ formatParameters, name ∉ names ∧ name ∉ columns.dropLast

instance (columns names : List String) : Decidable (CanFormat columns names) :=
  inferInstanceAs (Decidable (columns ≠ [] → _))

/-- **When the columns can be added.** -/
theorem exists_addFormattedColumns_iff {formatColumns : Dict String String} {fields : Fields} :
    (∃ formatted, addFormattedColumns py formatColumns fields = .ok formatted) ↔
      CanFormat formatColumns.keys fields.keys := by
  unfold addFormattedColumns Dict.keys
  induction formatColumns.entries generalizing fields with
  | nil => exact iff_of_true ⟨fields, rfl⟩ fun hne => absurd rfl hne
  | cons entry entries ih =>
    obtain ⟨column, formatString⟩ := entry
    simp only [List.foldlM_cons, bind_eq_ok]
    have hcall : (∃ value, noErrorFormat py formatString fields = .ok value) ↔
        ∀ name ∈ formatParameters, name ∉ fields.keys := by
      unfold noErrorFormat
      split
      · next hnamed =>
        obtain ⟨name, hname, hmem⟩ := hnamed
        exact iff_of_false (fun ⟨_, h⟩ => by cases h) fun hall => hall name hname hmem
      · next hnamed => exact iff_of_true ⟨_, rfl⟩ fun name hname hmem => hnamed ⟨name, hname, hmem⟩
    have hset : ∀ (v : Value) name, name ∈ (fields.set column v).keys ↔
        name = column ∨ name ∈ fields.keys := fun v name => Dict.mem_keys_set
    constructor
    · rintro ⟨formatted, mid, ⟨value, hvalue, hmid⟩, hrest⟩ - name hname
      cases hmid
      have hnamed := hcall.1 ⟨value, hvalue⟩ name hname
      refine ⟨hnamed, ?_⟩
      cases entries with
      | nil => exact List.not_mem_nil
      | cons entry entries =>
        obtain ⟨hnot, hlast⟩ := ih.1 ⟨formatted, hrest⟩ (List.cons_ne_nil _ _) name hname
        intro hmem
        rcases List.mem_cons.1 hmem with rfl | hmem
        · exact hnot ((hset _ _).2 (Or.inl rfl))
        · exact hlast hmem
    · intro hcan
      have hcan := hcan (List.cons_ne_nil _ _)
      obtain ⟨value, hvalue⟩ := hcall.2 fun name hname => (hcan name hname).1
      refine (ih.2 ?_).imp fun formatted hrest => ⟨_, ⟨value, hvalue, rfl⟩, hrest⟩
      intro hne name hname
      obtain ⟨hnot, hlast⟩ := hcan name hname
      obtain ⟨entry, entries, rfl⟩ := List.exists_cons_of_ne_nil (by simpa using hne)
      refine ⟨fun hmem => ?_, fun hmem => hlast (List.mem_cons_of_mem _ hmem)⟩
      rcases (hset _ _).1 hmem with rfl | hmem
      · exact hlast List.mem_cons_self
      · exact hnot hmem

/-- A column that no format writes stays. -/
theorem get?_addFormattedColumns {formatColumns : Dict String String} {fields formatted : Fields}
    (h : addFormattedColumns py formatColumns fields = .ok formatted) {column : String}
    (hcolumn : column ∉ formatColumns.keys) : formatted.get? column = fields.get? column := by
  unfold addFormattedColumns at h
  unfold Dict.keys at hcolumn
  generalize formatColumns.entries = entries at h hcolumn
  induction entries generalizing fields with
  | nil =>
    cases h
    rfl
  | cons entry entries ih =>
    rw [List.map_cons, List.mem_cons, not_or] at hcolumn
    rw [List.foldlM_cons] at h
    obtain ⟨mid, hmid, hrest⟩ := bind_eq_ok.1 h
    obtain ⟨value, -, hpure⟩ := bind_eq_ok.1 hmid
    rw [ih hrest hcolumn.2, ← Except.ok.inj hpure, Dict.get?_set_of_ne _ _ (Ne.symm hcolumn.1)]

/-- A field that is there stays, if with another value. -/
theorem mem_keys_addFormattedColumns {formatColumns : Dict String String}
    {fields formatted : Fields} (h : addFormattedColumns py formatColumns fields = .ok formatted)
    {name : String} (hname : name ∈ fields.keys) : name ∈ formatted.keys := by
  unfold addFormattedColumns at h
  generalize formatColumns.entries = entries at h
  induction entries generalizing fields with
  | nil =>
    cases h
    exact hname
  | cons entry entries ih =>
    rw [List.foldlM_cons] at h
    obtain ⟨mid, hmid, hrest⟩ := bind_eq_ok.1 h
    obtain ⟨value, -, hpure⟩ := bind_eq_ok.1 hmid
    refine ih ?_ hrest
    rw [← Except.ok.inj hpure, Dict.mem_keys_set]
    exact Or.inr hname

/-- **When a result can be built.** It is in the names of its fields. -/
theorem ResultClass.exists_make_iff {cls : ResultClass} {fields : Fields}
    {relations : Relations} :
    (∃ entry, cls.make py fields relations = .ok entry) ↔
      CanFormat cls.formatColumns.keys fields.keys := by
  rw [← @exists_addFormattedColumns_iff py]
  simp only [ResultClass.make, bind_eq_ok]
  constructor
  · rintro ⟨-, formatted, hformatted, -⟩
    exact ⟨formatted, hformatted⟩
  · rintro ⟨formatted, hformatted⟩
    exact ⟨_, formatted, hformatted, rfl⟩

/-- The id of a result is read before the columns are formatted. -/
theorem ResultClass.entryId_of_make {cls : ResultClass} {fields : Fields} {relations : Relations}
    {entry : SourceResult} (h : cls.make py fields relations = .ok entry) :
    entry.relations.sourceEntryId = cls.getUnique py fields := by
  obtain ⟨formatted, -, h⟩ := bind_eq_ok.1 h
  cases h
  rfl

end WazoDird
