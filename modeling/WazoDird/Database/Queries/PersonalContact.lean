import Mathlib.Data.List.Dedup
import WazoDird.Common.Like
import WazoDird.Database.Queries.Base

/-!
# Searching the contacts of a user

`PersonalContactSearchEngine` of `database/queries/personal.py`. As in a
phonebook, a search selects rows of the contacts in scope and then reads
the contacts these belong to; unlike there, texts are compared without
their accents, and a first match is an equality.
-/

namespace WazoDird

/-- How the server and the language fold texts: `ILIKE`'s lowering,
`unaccent` and `unidecode`. -/
structure FoldText where
  lower : String → String
  unaccent : String → String
  unidecode : String → String

/-- `PersonalContactSearchEngine`. -/
structure PersonalContactSearchEngine where
  searchedColumns : List String := []
  firstMatchColumns : List String := []

namespace PersonalContactSearchEngine

/-- The contact is of a user there is: the joins of every query, and their
user filter. -/
def inScope (db : Database) (userUuid contactUuid : Uuid) : Bool :=
  db.contacts.any fun c => c.uuid = contactUuid && db.users.any fun u =>
    c.userUuid = some u.userUuid && u.userUuid = userUuid

/-- The distinct contacts of the user of the rows that meet a filter. -/
def contactUuids (db : Database) (userUuid : Uuid) (filter : ContactFields → Bool) : List Uuid :=
  ((db.contactFields.filter fun row => filter row && inScope db userUuid row.contactUuid).map
    ContactFields.contactUuid).dedup

/-- What the server answers to `_find_personal_contacts_with_filter`. -/
def personalContactsWithFilter (ou : RowOrder Uuid) (o : RowOrder ContactFields)
    (db : Database) (userUuid : Uuid) (filter : ContactFields → Bool) (limit : Option ℕ) :
    List ContactInfo :=
  let uuids := ou.order (contactUuids db userUuid filter)
  listContactsByUuid o db (limit.elim uuids uuids.take)

/-- `_find_personal_contacts_with_filter`. -/
def findPersonalContactsWithFilter (ou : RowOrder Uuid) (o : RowOrder ContactFields)
    (db : Database) (userUuid : Uuid) (filter : RowFilter) (limit : Option ℕ) :
    Except DirdError (List ContactInfo) := do
  takeTexts filter.texts
  return personalContactsWithFilter ou o db userUuid filter.holds limit

/-- `_new_list_filter`, and `_new_user_contacts_filter` where there is no
list. -/
def newListFilter (uuids : Option (List Uuid)) : RowFilter where
  holds row := uuids.elim true (row.contactUuid ∈ ·)
  texts := uuids.getD []

/-- `_new_search_filter`. -/
def newSearchFilter (fold : FoldText) (term : String) (columns : List String) : RowFilter :=
  if columns = [] then .never
  else
    let pattern := "%" ++ fold.unidecode term ++ "%"
    { holds := fun row =>
        row.value.elim false (fun value => ilike fold.lower pattern (fold.unaccent value)) &&
          row.name ∈ columns
      texts := pattern :: columns }

/-- `_new_strict_filter`. -/
def newStrictFilter (term : String) (columns : List String) : RowFilter :=
  if columns = [] then .never
  else
    { holds := fun row => row.value = some term && row.name ∈ columns
      texts := term :: columns }

variable (engine : PersonalContactSearchEngine)

/-- `find_personal_contacts`. -/
def findPersonalContacts (fold : FoldText) (ou : RowOrder Uuid) (o : RowOrder ContactFields)
    (db : Database) (userUuid : Uuid) (term : String) : Except DirdError (List ContactInfo) :=
  findPersonalContactsWithFilter ou o db userUuid
    (newSearchFilter fold term engine.searchedColumns) none

/-- `find_first_personal_contact`. -/
def findFirstPersonalContact (ou : RowOrder Uuid) (o : RowOrder ContactFields)
    (db : Database) (userUuid : Uuid) (term : String) : Except DirdError (List ContactInfo) :=
  findPersonalContactsWithFilter ou o db userUuid
    (newStrictFilter term engine.firstMatchColumns) (some 1)

/-- `find_contacts_for_extens`. -/
def findContactsForExtens (o : RowOrder ContactFields) (db : Database) (userUuid : Uuid)
    (extens : List String) : Except DirdError (Dict String ContactInfo) :=
  match extens, engine.firstMatchColumns with
  | [], _ | _, [] => .ok ∅
  | extens, columns => do
    takeTexts (extens ++ columns)
    let uuids := contactUuids db userUuid fun row =>
      row.value.elim false (· ∈ extens) && row.name ∈ columns
    let rows := o.order (db.contactFields.filter (·.contactUuid ∈ uuids))
    return buildExtenContactMap rows extens columns

/-- `list_personal_contacts`: all the user's, or those of a list. -/
def listPersonalContacts (ou : RowOrder Uuid) (o : RowOrder ContactFields) (db : Database)
    (userUuid : Uuid) (uuids : Option (List Uuid)) : Except DirdError (List ContactInfo) :=
  findPersonalContactsWithFilter ou o db userUuid (newListFilter uuids) none

/-- **The driver takes a search** for a text in some columns: there are
none, or no null character. -/
def Takes (columns : List String) (text : String) : Prop :=
  columns = [] ∨ NullFree (text :: columns)

instance (columns : List String) (text : String) : Decidable (Takes columns text) :=
  inferInstanceAs (Decidable (_ ∨ _))

/-- The search selects the rows of its columns whose value, unaccented, it
matches. -/
theorem newSearchFilter_iff {fold : FoldText} {term : String} {columns : List String}
    {row : ContactFields} : (newSearchFilter fold term columns).holds row = true ↔
      row.name ∈ columns ∧ ∃ v, row.value = some v ∧
        ilike fold.lower ("%" ++ fold.unidecode term ++ "%") (fold.unaccent v) = true := by
  unfold newSearchFilter
  split
  · next hnil => simp [hnil, RowFilter.never]
  · cases hv : row.value with
    | none => simp [hv]
    | some v => simp [hv, and_comm]

/-- A first match selects the rows of its columns that have the term. -/
theorem newStrictFilter_iff {term : String} {columns : List String} {row : ContactFields} :
    (newStrictFilter term columns).holds row = true ↔
      row.name ∈ columns ∧ row.value = some term := by
  unfold newStrictFilter
  split
  · next hnil => simp [hnil, RowFilter.never]
  · simp [and_comm]

/-- **A search is answered when the driver takes it.** -/
theorem findPersonalContactsWithFilter_search {fold : FoldText} {term : String}
    {columns : List String} {ou : RowOrder Uuid} {o : RowOrder ContactFields} {db : Database}
    {userUuid : Uuid} {limit : Option ℕ} :
    findPersonalContactsWithFilter ou o db userUuid (newSearchFilter fold term columns) limit =
      if Takes columns (fold.unidecode term) then
        .ok (personalContactsWithFilter ou o db userUuid
          (newSearchFilter fold term columns).holds limit)
      else .error (.python .valueError) := by
  rw [findPersonalContactsWithFilter, takeTexts_bind]
  refine if_congr ?_ rfl rfl
  unfold Takes newSearchFilter
  split
  · next hnil => simp [hnil, RowFilter.never, NullFree]
  · next hne => simp [hne, nullFree_cons, String.toList_append]

/-- **A first match is answered when the driver takes it.** -/
theorem findPersonalContactsWithFilter_strict {term : String} {columns : List String}
    {ou : RowOrder Uuid} {o : RowOrder ContactFields} {db : Database} {userUuid : Uuid}
    {limit : Option ℕ} :
    findPersonalContactsWithFilter ou o db userUuid (newStrictFilter term columns) limit =
      if Takes columns term then
        .ok (personalContactsWithFilter ou o db userUuid (newStrictFilter term columns).holds limit)
      else .error (.python .valueError) := by
  rw [findPersonalContactsWithFilter, takeTexts_bind]
  refine if_congr ?_ rfl rfl
  unfold Takes newStrictFilter
  split
  · next hnil => simp [hnil, RowFilter.never, NullFree]
  · next hne => simp [hne]

/-- Its contacts are those in scope with a row that meets the filter. -/
theorem mem_contactUuids {db : Database} {userUuid uuid : Uuid} {filter : ContactFields → Bool} :
    uuid ∈ contactUuids db userUuid filter ↔
      inScope db userUuid uuid = true ∧
        ∃ row ∈ db.contactFields, row.contactUuid = uuid ∧ filter row = true :=
  mem_scopedUuids

end PersonalContactSearchEngine

end WazoDird
