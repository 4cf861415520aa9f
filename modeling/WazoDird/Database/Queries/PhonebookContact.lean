import Mathlib.Data.List.Dedup
import WazoDird.Common.Like
import WazoDird.Database.Queries.Base
import WazoDird.Database.Queries.Phonebook

/-!
# The contacts of a phonebook

`PhonebookContactSearchEngine` of `database/queries/phonebook.py`. A
search selects rows of the contacts in scope and then reads the contacts
these belong to; a reverse lookup of one extension is such a search with
the extension as an `ILIKE` pattern, that of many selects the rows whose
value is one of them.
-/

namespace WazoDird

/-- `PhonebookContactSearchEngine`. -/
structure PhonebookContactSearchEngine where
  visibleTenants : Option (List Uuid)
  phonebookKey : PhonebookKey
  searchedColumns : Option (List String) := none
  firstMatchColumns : Option (List String) := none

namespace PhonebookContactSearchEngine

/-- `_new_search_filter`. -/
def newSearchFilter (lower : String → String) (pattern : String)
    (columns : Option (List String)) : RowFilter :=
  match columns with
  | none | some [] => .never
  | some columns =>
    { holds := fun row => row.value.elim false (ilike lower pattern) && row.name ∈ columns
      texts := pattern :: columns }

/-- `_new_list_filter`. -/
def newListFilter (contactUuids : List Uuid) : RowFilter where
  holds row := row.contactUuid ∈ contactUuids
  texts := contactUuids

variable (engine : PhonebookContactSearchEngine)

/-- The contact is of the phonebook, and the phonebook of a visible
tenant: the joins of every query, and their tenant filter. -/
def inScope (db : Database) (contactUuid : Uuid) : Bool :=
  db.contacts.any fun c => c.uuid = contactUuid && db.phonebooks.any fun p =>
    c.phonebookUuid = some p.uuid && phonebookSelector engine.visibleTenants engine.phonebookKey p

/-- The distinct contacts in scope of the rows that meet a filter. -/
def contactUuids (db : Database) (filter : ContactFields → Bool) : List Uuid :=
  ((db.contactFields.filter fun row => filter row && engine.inScope db row.contactUuid).map
    ContactFields.contactUuid).dedup

/-- What the server answers to `_find_contacts_with_filter`. -/
def contactsWithFilter (ou : RowOrder Uuid) (o : RowOrder ContactFields) (db : Database)
    (filter : ContactFields → Bool) (limit : Option ℕ) : List ContactInfo :=
  let uuids := ou.order (engine.contactUuids db filter)
  listContactsByUuid o db (limit.elim uuids uuids.take)

/-- `_find_contacts_with_filter`. In the scope of no tenant the filter is
`false`, and no text is sent. -/
def findContactsWithFilter (ou : RowOrder Uuid) (o : RowOrder ContactFields) (db : Database)
    (filter : RowFilter) (limit : Option ℕ) : Except DirdError (List ContactInfo) := do
  takeTexts (if engine.visibleTenants = some [] then [] else filter.texts)
  return engine.contactsWithFilter ou o db filter.holds limit

/-- `find_contacts`. -/
def findContacts (lower : String → String) (ou : RowOrder Uuid) (o : RowOrder ContactFields)
    (db : Database) (term : String) : Except DirdError (List ContactInfo) :=
  let pattern := "%" ++ term ++ "%"
  engine.findContactsWithFilter ou o db (newSearchFilter lower pattern engine.searchedColumns) none

/-- `find_contacts_for_extens`. -/
def findContactsForExtens (o : RowOrder ContactFields) (db : Database) (extens : List String) :
    Except DirdError (Dict String ContactInfo) :=
  match extens, engine.firstMatchColumns, engine.visibleTenants with
  | [], _, _ | _, none, _ | _, some [], _ | _, _, some [] => .ok ∅
  | extens, some columns, _ => do
    takeTexts (extens ++ columns)
    let uuids := engine.contactUuids db fun row =>
      row.value.elim false (· ∈ extens) && row.name ∈ columns
    let rows := o.order (db.contactFields.filter (·.contactUuid ∈ uuids))
    return buildExtenContactMap rows extens columns

/-- `list_contacts`. -/
def listContacts (ou : RowOrder Uuid) (o : RowOrder ContactFields) (db : Database)
    (contactUuids : List Uuid) : Except DirdError (List ContactInfo) :=
  engine.findContactsWithFilter ou o db (newListFilter contactUuids) none

/-- **The driver takes a search** for a text in some columns: nothing is
asked of it, or there is no null character. -/
def Takes (columns : Option (List String)) (text : String) : Prop :=
  engine.visibleTenants = some [] ∨ columns.getD [] = [] ∨ NullFree (text :: columns.getD [])

instance (columns : Option (List String)) (text : String) :
    Decidable (engine.Takes columns text) :=
  inferInstanceAs (Decidable (_ ∨ _))

/-- The search selects the rows of its columns whose value it matches. -/
theorem newSearchFilter_iff {lower : String → String} {pattern : String}
    {columns : Option (List String)} {row : ContactFields} :
    (newSearchFilter lower pattern columns).holds row = true ↔
      row.name ∈ columns.getD [] ∧ ∃ v, row.value = some v ∧ ilike lower pattern v = true := by
  unfold newSearchFilter
  cases columns with
  | none => simp [RowFilter.never]
  | some columns =>
    cases columns with
    | nil => simp [RowFilter.never]
    | cons c cs =>
      cases hv : row.value with
      | none => simp [hv]
      | some v => simp [hv, and_comm]

variable {engine} in
/-- A term is taken as its pattern is. -/
theorem takes_pattern {columns : Option (List String)} {term : String} :
    engine.Takes columns ("%" ++ term ++ "%") ↔ engine.Takes columns term := by
  simp [Takes, nullFree_cons, String.toList_append]

variable {engine} in
/-- **A search is answered when the driver takes it.** -/
theorem findContactsWithFilter_search {lower : String → String} {pattern : String}
    {columns : Option (List String)} {ou : RowOrder Uuid} {o : RowOrder ContactFields}
    {db : Database} {limit : Option ℕ} :
    engine.findContactsWithFilter ou o db (newSearchFilter lower pattern columns) limit =
      if engine.Takes columns pattern then
        .ok (engine.contactsWithFilter ou o db (newSearchFilter lower pattern columns).holds limit)
      else .error (.python .valueError) := by
  have htakes : NullFree (if engine.visibleTenants = some [] then []
      else (newSearchFilter lower pattern columns).texts) ↔ engine.Takes columns pattern := by
    unfold Takes newSearchFilter
    by_cases htenants : engine.visibleTenants = some []
    · simp [htenants, NullFree]
    · rw [if_neg htenants, or_iff_right htenants]
      cases columns with
      | none => simp [RowFilter.never, NullFree]
      | some columns =>
        cases columns with
        | nil => simp [RowFilter.never, NullFree]
        | cons c cs => simp
  rw [findContactsWithFilter, takeTexts_bind]
  exact if_congr htakes rfl rfl

variable {engine} in
/-- Its contacts are those in scope with a row that meets the filter. -/
theorem mem_contactUuids {db : Database} {filter : ContactFields → Bool} {uuid : Uuid} :
    uuid ∈ engine.contactUuids db filter ↔
      engine.inScope db uuid = true ∧
        ∃ row ∈ db.contactFields, row.contactUuid = uuid ∧ filter row = true :=
  mem_scopedUuids

end PhonebookContactSearchEngine

end WazoDird
