import WazoDird.Backends.SourceResult
import WazoDird.Database.Queries.ContactRows

/-!
# Formatting results for a display

`_ResultFormatter` of `plugins/default_json/http.py`: a result becomes
one value for each column of a display. A column of type `favorite` shows
whether the contact is one of the favorites of the result's source, which
are kept by the source's name.
-/

namespace WazoDird

/-- `DisplayColumn`. Each of a column's four texts may be missing. -/
structure DisplayColumn where
  title : Option String := none
  type : Option String := none
  default : Option String := none
  field : Option String := none
  deriving DecidableEq, Repr

/-- A result as the views read it: with the flag its class has. -/
structure ViewResult extends SourceResult where
  isPersonal : Bool := false
  deriving DecidableEq, Repr

/-- One formatted result. -/
structure FormattedResult where
  columnValues : List Value
  relations : Relations
  source : String
  backend : String
  deriving DecidableEq, Repr

/-- What a listing is answered. -/
structure FormattedResults where
  columnHeaders : List (Option String)
  columnTypes : List (Option String)
  results : List FormattedResult
  deriving DecidableEq, Repr

/-- The fields a display is read from. A column may have no field, and
then reads, and writes, what is under no name. -/
abbrev ViewFields := Dict (Option String) Value

/-- The fields of a result, each under its name. -/
def Fields.forView (fields : Fields) : ViewFields where
  entries := fields.entries.map fun e => (some e.1, e.2)
  nodup := by
    have h := fields.nodup.map (Option.some_injective String)
    rwa [List.map_map] at h ⊢

namespace ResultFormatter

variable (display : List DisplayColumn)

/-- `_types`. -/
def types : List (Option String) := display.map DisplayColumn.type

/-- `_favorite_field`: the field of the first favorite column. -/
def favoriteField : Option (Option String) :=
  (display.find? (·.type = some "favorite")).map DisplayColumn.field

/-- `_personal_fields`. -/
def personalFields : List (Option String) :=
  (display.filter (·.type = some "personal")).map DisplayColumn.field

/-- `_is_favorite`, for a display with a favorite column. -/
def isFavorite (favorites : Dict String (List String)) (result : SourceResult) : Bool :=
  match favorites.get? result.source, result.relations.sourceEntryId with
  | some ids, some id => id ≠ "" && id ∈ ids
  | _, _ => false

/-- The fields of a result once the favorite and personal columns are
written. -/
def viewFields (favorites : Dict String (List String)) (result : ViewResult) : ViewFields :=
  let fields := result.fields.forView
  let fields := (favoriteField display).elim fields fun field =>
    fields.set field (.bool (isFavorite favorites result.toSourceResult))
  fields.setAll ((personalFields display).map fun field => (field, .bool result.isPersonal))

/-- What a column shows of fields. -/
def cell (fields : ViewFields) (column : DisplayColumn) : Value :=
  (fields.get? column.field).getD (.ofText column.default)

/-- `_format_result`. -/
def formatResult (favorites : Dict String (List String)) (result : ViewResult) :
    FormattedResult where
  columnValues := display.map (cell (viewFields display favorites result))
  relations := result.relations
  source := result.source
  backend := result.backend

/-- `format_results`. -/
def formatResults (favorites : Dict String (List String)) (results : List ViewResult) :
    FormattedResults where
  columnHeaders := display.map DisplayColumn.title
  columnTypes := types display
  results := results.map (formatResult display favorites)

variable {display} {favorites : Dict String (List String)} {result : ViewResult}
  {column : DisplayColumn}

/-- A contact is shown as a favorite when the id of its result is one of
those kept under the name of its source. -/
theorem isFavorite_iff {result : SourceResult} :
    isFavorite favorites result = true ↔ ∃ ids id, favorites.get? result.source = some ids ∧
      result.relations.sourceEntryId = some id ∧ id ≠ "" ∧ id ∈ ids := by
  unfold isFavorite
  split
  · next ids id hids hid =>
    rw [Bool.and_eq_true, decide_eq_true_eq, decide_eq_true_eq, hids, hid]
    constructor
    · rintro ⟨hne, hmem⟩
      exact ⟨ids, id, rfl, rfl, hne, hmem⟩
    · rintro ⟨ids', id', hids', hid', hne, hmem⟩
      cases hids'
      cases hid'
      exact ⟨hne, hmem⟩
  · next hnone =>
    constructor
    · rintro h
      cases h
    · rintro ⟨ids, id, hids, hid, -, -⟩
      exact absurd hid (hnone ids id hids)

/-- The value every write of a list agrees on is the one it leaves. -/
theorem get?_setAll_const {fields : ViewFields} {l : List (Option String)} {v : Value}
    {k : Option String} :
    (fields.setAll (l.map fun field => (field, v))).get? k =
      if k ∈ l then some v else fields.get? k := by
  induction l generalizing fields with
  | nil => rfl
  | cons field l ih =>
      rw [List.map_cons, Dict.setAll_cons, ih, Dict.get?_set]
      by_cases hmem : k ∈ l
      · simp [hmem]
      · by_cases hk : field = k
        · simp [hk]
        · simp [hmem, hk, Ne.symm hk]

/-- **What the favorite column shows**: whether the contact is a favorite,
unless a personal column has its field. -/
theorem cell_favorite (hcolumn : display.find? (·.type = some "favorite") = some column) :
    cell (viewFields display favorites result) column =
      .bool (if column.field ∈ personalFields display then result.isPersonal
        else isFavorite favorites result.toSourceResult) := by
  have hfield : favoriteField display = some column.field := by
    rw [favoriteField, hcolumn]
    rfl
  rw [cell, viewFields, hfield, get?_setAll_const]
  split
  · rfl
  · rw [Option.elim_some, Dict.get?_set_self]
    rfl

end ResultFormatter

end WazoDird
