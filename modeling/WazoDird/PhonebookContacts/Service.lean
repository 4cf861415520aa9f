import WazoDird.PhonebookContacts.Distinct
import WazoDird.Services.Sorting

/-!
# The phonebook service, on contacts

The contact methods of `_PhonebookService`. A body is checked and its id
dropped before a writer sees it; an import is checked as a whole first.
What a writer is answered is the `fields_dict` of the contact it wrote.
-/

namespace WazoDird

open PhonebookContactCRUD

/-- A contact as a request carries it. A line of an imported file with
more cells than its header has the others under no key. -/
abbrev RawContact := Dict (Option String) Value

/-- The items of a contact that have a key. -/
def RawContact.named (contact : RawContact) : ContactBody where
  entries := contact.entries.filterMap fun e => e.1.map (·, e.2)
  nodup := by
    have hkeys : (contact.entries.filterMap fun e => e.1.map (·, e.2)).map Prod.fst =
        (contact.entries.map Prod.fst).filterMap id := by
      simp [List.map_filterMap, List.filterMap_map, Function.comp_def]
    rw [hkeys]
    refine contact.nodup.filterMap fun a b k ha hb => ?_
    exact (Option.mem_def.1 ha).trans (Option.mem_def.1 hb).symm

namespace PhonebookService

/-- `_validate_contact`. -/
def validateContact (body : RawContact) : Except DirdError ContactBody :=
  if body.isEmpty then .error (.invalidContact "Contacts cannot be empty")
  else if some "" ∈ body.keys then .error (.invalidContact "Contacts cannot have empty keys")
  else if none ∈ body.keys then .error (.invalidContact "Contacts cannot have null keys")
  else .ok (body.named.erase "id")

/-- A body that passes the check is its items but the id. -/
theorem validateContact_ok {raw : RawContact} {body : ContactBody}
    (h : validateContact raw = .ok body) :
    body = raw.named.erase "id" ∧ none ∉ raw.keys := by
  unfold validateContact at h
  split_ifs at h with hempty hkey hnull
  cases h
  exact ⟨rfl, hnull⟩

/-- A body that passes the check has no id, and the values it came with. -/
theorem validateContact_spec {raw : RawContact} {body : ContactBody}
    (h : validateContact raw = .ok body)
    (htexts : ∀ k v, (some k, v) ∈ raw.entries → ∃ a, v = .str a) :
    body.get? "id" = none ∧ PhonebookContacts.Within (fun v => ∃ a, v = .str a) body ∧
      (body.entries ≠ [] ↔ ∃ k ∈ raw.keys, k ≠ some "id") := by
  obtain ⟨rfl, hnull⟩ := validateContact_ok h
  have hentries : ∀ k v, (k, v) ∈ (raw.named.erase "id").entries ↔
      (some k, v) ∈ raw.entries ∧ k ≠ "id" := by
    intro k v
    simp [Dict.erase, RawContact.named]
  refine ⟨?_, ?_, ?_⟩
  · rw [Dict.get?_erase, if_pos rfl]
  · intro k v hget
    exact htexts k v ((hentries k v).1 (Dict.get?_eq_some_iff.1 hget)).1
  · constructor
    · intro hne
      obtain ⟨⟨k, v⟩, he⟩ := List.exists_mem_of_ne_nil _ hne
      obtain ⟨hmem, hk⟩ := (hentries k v).1 he
      exact ⟨some k, List.mem_map_of_mem hmem, by simpa using hk⟩
    · rintro ⟨k, hk, hkid⟩
      obtain ⟨⟨k, v⟩, hmem, rfl⟩ := List.mem_map.1 hk
      cases k with
      | none => exact absurd hk hnull
      | some k => exact List.ne_nil_of_mem ((hentries k v).2 ⟨hmem, by simpa using hkid⟩)

variable (enc : Encoding) (server : Server)

/-- What a request that wrote a contact is answered. -/
def answer (r : Except DirdError WrittenContact × Database) :
    Except DirdError ContactBody × Database :=
  (r.1.map WrittenContact.fieldsDict, r.2)

/-- A write the service reports is one of a body that passes the check. -/
theorem answer_ok {r : Except DirdError WrittenContact × Database} {a : ContactBody}
    {db' : Database} (h : answer r = (.ok a, db')) :
    ∃ w, r = (.ok w, db') ∧ a = w.fieldsDict := by
  obtain ⟨r, db⟩ := r
  cases r with
  | error e => cases h
  | ok w =>
      cases h
      exact ⟨w, rfl, rfl⟩

/-- `create_contact`. -/
def createContact (db : Database) (visibleTenants : List Uuid) (key : PhonebookKey)
    (contactInfo : RawContact) : Except DirdError ContactBody × Database :=
  match validateContact contactInfo with
  | .error e => (.error e, db)
  | .ok body => answer (create enc server db (some visibleTenants) key body)

/-- `edit_contact`. -/
def editContact (db : Database) (visibleTenants : List Uuid) (key : PhonebookKey)
    (contactUuid : String) (contactInfo : RawContact) :
    Except DirdError ContactBody × Database :=
  match validateContact contactInfo with
  | .error e => (.error e, db)
  | .ok body => answer (edit enc server db (some visibleTenants) key contactUuid body)

/-- The contacts of an import that fail the check, each with its place. -/
def importErrors (contacts : List RawContact) : List ContactEntryError :=
  contacts.zipIdx.filterMap fun (contact, i) =>
    match validateContact contact with
    | .error (.invalidContact message) => some ⟨contact, message, i⟩
    | _ => none

/-- The bodies of an import that pass the check. -/
def importBodies (contacts : List RawContact) : List ContactBody :=
  contacts.filterMap fun contact => (validateContact contact).toOption

/-- An import without an error is one of bodies that all pass. -/
theorem importErrors_eq_nil {contacts : List RawContact} :
    importErrors contacts = [] ↔ ∀ raw ∈ contacts, ∃ body, validateContact raw = .ok body := by
  have hvalid : ∀ raw i, (match validateContact raw with
      | .error (.invalidContact message) => some (⟨raw, message, i⟩ : ContactEntryError)
      | _ => none) = none ↔ ∃ body, validateContact raw = .ok body := by
    intro raw i
    unfold validateContact
    split_ifs <;> simp
  rw [importErrors, List.filterMap_eq_nil_iff]
  constructor
  · intro hall raw hraw
    obtain ⟨i, hi⟩ := List.mem_iff_getElem?.1 hraw
    exact (hvalid raw i).1 (hall _ (List.mk_mem_zipIdx_iff_getElem?.2 hi))
  · rintro hall ⟨raw, i⟩ hraw
    exact (hvalid raw i).2 (hall raw (List.fst_mem_of_mem_zipIdx hraw))

/-- The bodies of an import without an error are those of all its
contacts, without the id. -/
theorem importBodies_eq {contacts : List RawContact} (h : importErrors contacts = []) :
    importBodies contacts = contacts.map fun raw => raw.named.erase "id" := by
  rw [importBodies, ← List.filterMap_eq_map]
  refine List.filterMap_congr fun raw hraw => ?_
  obtain ⟨body, hbody⟩ := importErrors_eq_nil.1 h raw hraw
  rw [hbody, (validateContact_ok hbody).1]
  rfl

/-- `import_contacts`. -/
def importContacts (db : Database) (visibleTenants : List Uuid) (key : PhonebookKey)
    (contacts : List RawContact) :
    Except DirdError (List ContactBody × List ContactEntryError) × Database :=
  if importErrors contacts ≠ [] then (.ok ([], importErrors contacts), db)
  else
    let r := createMany enc server db (some visibleTenants) key (importBodies contacts)
    (r.1.map fun (created, failed) => (created.map WrittenContact.fieldsDict, failed), r.2)

/-- `get_contact`. -/
def getContact (o : RowOrder ContactFields) (db : Database) (visibleTenants : List Uuid)
    (key : PhonebookKey) (contactUuid : String) : Except DirdError ContactInfo :=
  PhonebookContactCRUD.get o db (some visibleTenants) key contactUuid

/-- How `list_contacts` sorts, pages and searches. -/
structure ListParams where
  limit : Option ℕ := none
  offset : Option ℕ := none
  order : Option String := none
  direction : Option String := none
  orderInsensitive : Bool := false
  search : Option String := none

/-- The list is asked for whole: no limit, and no offset. -/
def ListParams.Whole (params : ListParams) : Prop :=
  params.limit.filter (· ≠ 0) = none ∧ params.offset.getD 0 = 0

/-- `list_contacts`. -/
def listContacts (lower : String → String) (text : SortText) (o : RowOrder ContactFields)
    (db : Database) (visibleTenants : List Uuid) (key : PhonebookKey) (params : ListParams) :
    Except DirdError (List ContactInfo) := do
  let results ← PhonebookContactCRUD.list lower o db (some visibleTenants) key params.search
  return page params.limit params.offset
    (sortContacts text results params.order params.direction params.orderInsensitive)

/-- `count_contact`. -/
def countContact (lower : String → String) (db : Database) (visibleTenants : List Uuid)
    (key : PhonebookKey) (search : Option String) : Except DirdError ℕ :=
  PhonebookContactCRUD.count lower db (some visibleTenants) key search

/-- A contact of one text. -/
def rawText (k v : String) : RawContact := Dict.ofList [(some k, .str v)]

theorem texts_rawText (k v : String) : ∀ e ∈ (rawText k v).entries, ∃ a, e.2 = .str a := by
  intro e he
  obtain rfl : e = (some k, .str v) := List.mem_singleton.1 he
  exact ⟨v, rfl⟩

/-- The phonebook of `onePhonebook`. -/
theorem getPhonebook_onePhonebook :
    PhonebookContactCRUD.getPhonebook PhonebookContacts.onePhonebook.db (some ["t"]) (.uuid "p") =
      .ok { id := 1, uuid := "p", name := "clients", tenantUuid := "t" } := by
  decide

end PhonebookService

end WazoDird
