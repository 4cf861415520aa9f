import WazoDird.Views.ResultFormatter

/-!
# The right cell in every column

What each column of a display should show of a result, and when it does.
The flags are written among the fields of the result, under the fields of
their columns: only the first favorite column has its flag written, a
column of the same field shows the flag too, and a value that is none is
shown as it is where the default was meant.
-/

namespace WazoDird

namespace ResultFormatter

variable (display : List DisplayColumn) (favorites : Dict String (List String))
  (result : ViewResult)

/-- What a result has under the field of a column. -/
def ownValue (column : DisplayColumn) : Option Value := result.fields.forView.get? column.field

/-- The flag that is written under a field. -/
def writtenFlag (field : Option String) : Option Bool :=
  if field ∈ personalFields display then some result.isPersonal
  else if favoriteField display = some field then some (isFavorite favorites result.toSourceResult)
  else none

/-- The flag that a column is for: only favorite and personal columns are
for one. -/
def columnFlag (column : DisplayColumn) : Option Bool :=
  if column.type = some "favorite" then some (isFavorite favorites result.toSourceResult)
  else if column.type = some "personal" then some result.isPersonal
  else none

/-- **What a column should show**: its flag; or the value of its field, the
default where there is none. -/
def rightCell (column : DisplayColumn) : Value :=
  match columnFlag favorites result column with
  | some flag => .bool flag
  | none => ((ownValue result column).filter (· ≠ .none)).getD (.ofText column.default)

/-- **Nothing stands in the way of a column**: a flag that is written under
its field is its own, or what the result has there; its own flag is written
there, or is what the result has there; and a value that is none is not
where a default is meant. -/
def Clear (column : DisplayColumn) : Prop :=
  match writtenFlag display favorites result column.field, columnFlag favorites result column with
  | some written, some flag => written = flag
  | some flag, none | none, some flag => ownValue result column = some (.bool flag)
  | none, none => ownValue result column = some .none → column.default = none

variable {display favorites result} {column : DisplayColumn}

/-- **What a column shows**: the flag written under its field, or what the
result has there. -/
theorem cell_eq : cell (viewFields display favorites result) column =
    (writtenFlag display favorites result column.field).elim
      ((ownValue result column).getD (.ofText column.default)) Value.bool := by
  rw [cell, viewFields, get?_setAll_const, writtenFlag, ownValue]
  by_cases hpersonal : column.field ∈ personalFields display
  · simp [hpersonal]
  · cases hfavorite : favoriteField display with
    | none => simp [hpersonal]
    | some field =>
      by_cases hfield : field = column.field
      · simp [hpersonal, hfield]
      · simp [hpersonal, hfield, Dict.get?_set]

/-- A default is no flag. -/
theorem getD_ofText_eq_bool {value : Option Value} {default : Option String} {b : Bool} :
    value.getD (.ofText default) = .bool b ↔ value = some (.bool b) := by
  cases value with
  | some value => simp
  | none => cases default <;> simp [Value.ofText]

/-- A value that is none is dropped for a default that is none alone. -/
theorem getD_eq_filter_getD {value : Option Value} {default : Option String} :
    value.getD (.ofText default) = (value.filter (· ≠ .none)).getD (.ofText default) ↔
      (value = some .none → default = none) := by
  cases value with
  | none => simp
  | some value =>
    by_cases hvalue : value = .none
    · cases default <;> simp [hvalue, Value.ofText, Option.filter]
    · simp [hvalue, Option.filter]

/-- **A column shows the right cell exactly when nothing stands in its
way.** -/
theorem cell_eq_rightCell_iff :
    cell (viewFields display favorites result) column = rightCell favorites result column ↔
      Clear display favorites result column := by
  rw [cell_eq, rightCell, Clear]
  cases writtenFlag display favorites result column.field with
  | some written =>
    cases columnFlag favorites result column with
    | some flag => simp
    | none =>
      rw [Option.elim_some, eq_comm, getD_ofText_eq_bool]
      simp only [Option.filter_eq_some_iff]
      simp
  | none =>
    cases columnFlag favorites result column with
    | some flag => exact getD_ofText_eq_bool
    | none => exact getD_eq_filter_getD

/-- Nothing stands in the way of a column where favorite columns all have the
field of the first and no personal column has it, no other column has a field
of these, and the result has no none. -/
theorem clear_of_apart (hcolumn : column ∈ display)
    (hfavorite : column.type = some "favorite" →
      favoriteField display = some column.field ∧ column.field ∉ personalFields display)
    (hother : column.type ≠ some "favorite" → column.type ≠ some "personal" →
      favoriteField display ≠ some column.field ∧ column.field ∉ personalFields display)
    (hnone : ownValue result column ≠ some .none) :
    Clear display favorites result column := by
  unfold Clear writtenFlag columnFlag
  by_cases hfav : column.type = some "favorite"
  · obtain ⟨hfield, hpersonal⟩ := hfavorite hfav
    simp [hfav, hfield, hpersonal]
  · by_cases hper : column.type = some "personal"
    · have hmem : column.field ∈ personalFields display :=
        List.mem_map_of_mem (List.mem_filter.2 ⟨hcolumn, by simp [hper]⟩)
      simp [hper, hmem]
    · obtain ⟨hfield, hpersonal⟩ := hother hfav hper
      simp [hfav, hper, hfield, hpersonal, hnone]

/-- **When every formatted result has the right cell in every column**: nothing
stands in the way of any, for any of the results. -/
theorem columnValues_eq_iff (display : List DisplayColumn) (favorites : Dict String (List String))
    (results : List ViewResult) :
    (formatResults display favorites results).results.map FormattedResult.columnValues =
        results.map (fun result => display.map (rightCell favorites result)) ↔
      ∀ result ∈ results, ∀ column ∈ display, Clear display favorites result column := by
  rw [formatResults, List.map_map, List.map_inj_left]
  refine forall₂_congr fun result _ => ?_
  rw [Function.comp_apply, formatResult, List.map_inj_left]
  exact forall₂_congr fun column _ => cell_eq_rightCell_iff

/-- A column with a default. -/
def emailColumn : DisplayColumn where
  title := some "Email"
  default := some "-"
  field := some "email"

/-- A result whose email is none, as a format string of nothing leaves it. -/
def resultWithoutEmail : ViewResult where
  source := "s"
  backend := "b"
  fields := Dict.ofList [("email", .none)]
  relations := {}

/-- **A value that is none is shown where the default was meant.** -/
theorem columnValues_ne_of_none :
    ¬ ∀ (display : List DisplayColumn) (favorites : Dict String (List String))
        (results : List ViewResult),
      (formatResults display favorites results).results.map FormattedResult.columnValues =
        results.map fun result => display.map (rightCell favorites result) := by
  intro h
  have hcells := h [emailColumn] ∅ [resultWithoutEmail]
  revert hcells
  decide

end ResultFormatter

end WazoDird
