import WazoDird.Common.Run
import WazoDird.Database.Queries.Base
import WazoDird.Database.Queries.ContactRows
import WazoDird.Database.Queries.Phonebook

/-!
# Writing and reading the contacts of a phonebook

`PhonebookContactCRUD` of `database/queries/phonebook.py`: creation, one
contact or a list of them, edition and deletion, and the three readers.
A list of contacts is created in one session with a savepoint for each:
a contact that is already there is passed over, and any other failure
takes the whole list back.
-/

namespace WazoDird

/-- `contact_search_filter`: the contacts with a value like the search,
or all of them. -/
def contactSearchFilter (lower : String → String) (db : Database) (search : Option String)
    (uuid : Uuid) : Bool :=
  match search.filter (· ≠ "") with
  | none => true
  | some search => db.contactFields.any fun f =>
      f.contactUuid = uuid && f.value.elim false (ilike lower ("%" ++ search ++ "%"))

namespace PhonebookContactCRUD

/-- `_get_phonebook`. -/
def getPhonebook (db : Database) (visibleTenants : Option (List Uuid)) (key : PhonebookKey) :
    Except DirdError Phonebook :=
  match db.phonebooks.find? (phonebookSelector visibleTenants key) with
  | none => .error (.noSuchPhonebook key visibleTenants)
  | some phonebook => .ok phonebook

/-- `_new_contact_filter`, over the join of the contact's phonebook. -/
def newContactFilter (db : Database) (tenantUuid phonebookUuid : Uuid) (contactUuid : String)
    (c : Contact) : Bool :=
  c.uuid = contactUuid && c.phonebookUuid = some phonebookUuid &&
    db.phonebooks.any fun p => c.phonebookUuid = some p.uuid && p.tenantUuid = tenantUuid

/-- `_get_contact`. -/
def getContact (db : Database) (tenantUuid phonebookUuid : Uuid) (contactUuid : String) :
    Except DirdError Contact :=
  match db.contacts.find? (newContactFilter db tenantUuid phonebookUuid contactUuid) with
  | none => .error (.noSuchContact contactUuid)
  | some contact => .ok contact

/-- The rows `_set_contact_fields` gives a contact: one for each item of
the body, and then, for each item of the body again, one with the id. -/
def setContactFields (enc : Encoding) (uuid : Uuid) (body : ContactBody) :
    Except DirdError (List ContactFields) := do
  let texts ← enc.columnTexts body
  return texts.map (fun (name, value) => { contactUuid := uuid, name, value }) ++
    body.entries.map fun _ => { contactUuid := uuid, name := "id", value := some uuid }

/-- A contact once its rows are set: what a writer reports of it is its
`fields_dict`. -/
structure WrittenContact where
  uuid : Uuid
  body : ContactBody
  deriving DecidableEq, Repr

/-- `fields_dict`: the values are still those of the body. -/
def WrittenContact.fieldsDict (contact : WrittenContact) : ContactBody :=
  Dict.ofList (contact.body.entries ++
    contact.body.entries.map fun _ => ("id", .str contact.uuid))

variable (enc : Encoding) (server : Server)

/-- `_create_one`, of the `i`th contact of the session. -/
def createOne (db : Database) (i : ℕ) (tenantUuid phonebookUuid : Uuid) (body : ContactBody) :
    Except DirdError (Database × WrittenContact) := do
  let hash := enc.computeContactHash body
  let handler (pgerror : String) : DirdError :=
    .contactCreation pgerror hash tenantUuid (.uuid phonebookUuid)
  let phonebook ← getPhonebook db (some [tenantUuid]) (.uuid phonebookUuid)
  let contact : Contact :=
    { uuid := server.newUuid (db.contacts.map Contact.uuid)
      phonebookUuid := some phonebook.uuid, hash := hash }
  raiseIf (db.contacts.any contact.clash) .duplicatedContact
  raiseFault (server.contactFault i) handler
  raiseIf (contact.uuid = "") .assertion
  let fields ← setContactFields enc contact.uuid body
  raiseFault (server.fieldsFault i) handler
  return ({ db with
    contacts := db.contacts ++ [contact]
    contactFields := db.contactFields ++ fields }, ⟨contact.uuid, body⟩)

/-- `create`. -/
def create (db : Database) (visibleTenants : Option (List Uuid)) (key : PhonebookKey)
    (body : ContactBody) : Except DirdError WrittenContact × Database :=
  newSession db <| do
    let phonebook ← getPhonebook db visibleTenants key
    createOne enc server db 0 phonebook.tenantUuid phonebook.uuid body

/-- Where the loop of `create_many` is: what its savepoints have left, the
contacts created and the errors collected. -/
structure Created where
  db : Database
  good : List WrittenContact := []
  errors : List ContactEntryError := []

/-- A contact of the list, as an error reports it. -/
def rawContact (body : ContactBody) : Dict (Option String) Value where
  entries := body.entries.map fun e => (some e.1, e.2)
  nodup := by
    rw [List.map_map]
    have h := body.nodup.map (Option.some_injective String)
    rwa [List.map_map] at h

/-- One turn of the loop of `create_many`. -/
def createNext (tenantUuid phonebookUuid : Uuid) (s : Created) (entry : ContactBody × ℕ) :
    Except DirdError Created :=
  let (body, i) := entry
  match createOne enc server s.db i tenantUuid phonebookUuid body with
  | .ok (db, contact) => .ok { s with db := db, good := s.good ++ [contact] }
  | .error .duplicatedContact => .ok s
  | .error (.contactCreation message _ _ _) =>
      .ok { s with errors := s.errors ++ [⟨rawContact body, message, i⟩] }
  | .error e => .error e

/-- `create_many`. -/
def createMany (db : Database) (visibleTenants : Option (List Uuid)) (key : PhonebookKey)
    (bodies : List ContactBody) :
    Except DirdError (List WrittenContact × List ContactEntryError) × Database :=
  newSession db <| do
    let phonebook ← getPhonebook db visibleTenants key
    let s ← bodies.zipIdx.foldlM (createNext enc server phonebook.tenantUuid phonebook.uuid)
      { db := db }
    raiseIf (s.errors ≠ []) (.contactsCreation "Failed to create contacts" s.errors)
    return (s.db, (s.good, s.errors))

/-- `delete`. -/
def delete (db : Database) (visibleTenants : Option (List Uuid)) (key : PhonebookKey)
    (contactUuid : String) : Except DirdError Unit × Database :=
  newSession db <| do
    let phonebook ← getPhonebook db visibleTenants key
    let contact ← getContact db phonebook.tenantUuid phonebook.uuid contactUuid
    return (db.dropContacts (·.uuid = contact.uuid), ())

/-- `edit`: the hash is flushed, then the rows are those of the new body;
these are flushed by the commit, where no error is translated. -/
def edit (db : Database) (visibleTenants : Option (List Uuid)) (key : PhonebookKey)
    (contactUuid : String) (body : ContactBody) : Except DirdError WrittenContact × Database :=
  newSession db <| do
    let hash := enc.computeContactHash body
    let phonebook ← getPhonebook db visibleTenants key
    let contact ← getContact db phonebook.tenantUuid phonebook.uuid contactUuid
    let contact' := { contact with hash := hash }
    raiseIf ((db.contacts.filter (·.uuid ≠ contact.uuid)).any contact'.clash) .duplicatedContact
    raiseFault (server.contactFault 0) fun pgerror => .contactUpdate pgerror hash
    raiseIf (contact.uuid = "") .assertion
    let fields ← setContactFields enc contact.uuid body
    raiseFault (server.fieldsFault 0) fun _ => .integrity
    return ({ db with
      contacts := db.contacts.map fun c => if c.uuid = contact.uuid then contact' else c
      contactFields := db.contactFields.filter (·.contactUuid ≠ contact.uuid) ++ fields },
      ⟨contact.uuid, body⟩)

/-- `get`. -/
def get (o : RowOrder ContactFields) (db : Database) (visibleTenants : Option (List Uuid))
    (key : PhonebookKey) (contactUuid : String) : Except DirdError ContactInfo := do
  let phonebook ← getPhonebook db visibleTenants key
  let fields := o.order <| db.contactFields.filter fun f => db.contacts.any fun c =>
    c.uuid = f.contactUuid &&
      newContactFilter db phonebook.tenantUuid phonebook.uuid contactUuid c
  raiseIf (fields = []) (.noSuchContact contactUuid)
  let contactInfo : ContactInfo := Dict.ofList (fields.map fun f => (f.name, f.value))
  raiseIf ((contactInfo.get? "id").isNone) .assertion
  return contactInfo

/-- `_query_contacts`: the contacts of a phonebook that meet a search. -/
def queryContacts (lower : String → String) (db : Database) (phonebookUuid : Uuid)
    (search : Option String) (c : Contact) : Bool :=
  c.phonebookUuid = some phonebookUuid && db.phonebooks.any (fun p => c.phonebookUuid = some p.uuid)
    && contactSearchFilter lower db search c.uuid

/-- The contacts of a phonebook that a search selects. -/
theorem queryContacts_iff {lower : String → String} {db : Database} {p : Phonebook}
    {search : Option String} {c : Contact} (hp : p ∈ db.phonebooks) :
    queryContacts lower db p.uuid search c = true ↔
      c.phonebookUuid = some p.uuid ∧ contactSearchFilter lower db search c.uuid = true := by
  simp only [queryContacts, Bool.and_eq_true, decide_eq_true_eq, List.any_eq_true]
  constructor
  · rintro ⟨⟨hcp, -⟩, hsearch⟩
    exact ⟨hcp, hsearch⟩
  · rintro ⟨hcp, hsearch⟩
    exact ⟨⟨hcp, p, hp, hcp⟩, hsearch⟩

/-- `count`. -/
def count (lower : String → String) (db : Database) (visibleTenants : Option (List Uuid))
    (key : PhonebookKey) (search : Option String) : Except DirdError ℕ := do
  let phonebook ← getPhonebook db visibleTenants key
  takeTexts search.toList
  return ((db.contacts.filter (queryContacts lower db phonebook.uuid search)).map
    Contact.uuid).dedup.length

/-- `list`. -/
def list (lower : String → String) (o : RowOrder ContactFields) (db : Database)
    (visibleTenants : Option (List Uuid)) (key : PhonebookKey) (search : Option String) :
    Except DirdError (List ContactInfo) := do
  let phonebook ← getPhonebook db visibleTenants key
  takeTexts search.toList
  let fields := o.order <| db.contactFields.filter fun f => db.contacts.any fun c =>
    c.uuid = f.contactUuid && queryContacts lower db phonebook.uuid search c
  return (fields.foldl (readRow fun _ => ∅) ∅).values

/-! ## What a writer does -/

/-- One contact written: created, edited, or deleted. -/
inductive Write where
  | created (contact : WrittenContact)
  | edited (contact : WrittenContact)
  | deleted (uuid : Uuid)
  deriving DecidableEq, Repr

/-- The body a write gives a contact. -/
def Write.body : Write → Option ContactBody
  | created contact | edited contact => some contact.body
  | deleted _ => none

/-- The row of a contact a phonebook is given. -/
def contactRow (phonebookUuid : Uuid) (contact : WrittenContact) : Contact :=
  { uuid := contact.uuid, phonebookUuid := some phonebookUuid
    hash := enc.computeContactHash contact.body }

/-- **What one write does to the database.** The writers make no other
change to it (`create_cases`, `createMany_cases`, `edit_cases`,
`delete_cases`). -/
inductive Writes (db : Database) : Write → Database → Prop
  | created {p : Phonebook} {w : WrittenContact} {fields : List ContactFields}
      (hp : p ∈ db.phonebooks) (hfields : setContactFields enc w.uuid w.body = .ok fields)
      (hnew : ∀ c ∈ db.contacts, (contactRow enc p.uuid w).clash c = false) :
      Writes db (.created w)
        { db with
          contacts := db.contacts ++ [contactRow enc p.uuid w]
          contactFields := db.contactFields ++ fields }
  | edited {p : Phonebook} {c : Contact} {body : ContactBody} {fields : List ContactFields}
      (hc : c ∈ db.contacts) (hcp : c.phonebookUuid = some p.uuid)
      (hfields : setContactFields enc c.uuid body = .ok fields)
      (hnew : ∀ d ∈ db.contacts, d.uuid ≠ c.uuid →
        { c with hash := enc.computeContactHash body }.clash d = false) :
      Writes db (.edited ⟨c.uuid, body⟩)
        { db with
          contacts := db.contacts.map fun d =>
            if d.uuid = c.uuid then { c with hash := enc.computeContactHash body } else d
          contactFields := db.contactFields.filter (·.contactUuid ≠ c.uuid) ++ fields }
  | deleted {p : Phonebook} {c : Contact} (hc : c ∈ db.contacts)
      (hcp : c.phonebookUuid = some p.uuid) :
      Writes db (.deleted c.uuid) (db.dropContacts (·.uuid = c.uuid))

section Spec

variable {enc : Encoding} {server : Server} {db db' : Database}
  {visibleTenants : Option (List Uuid)} {key : PhonebookKey} {contactUuid : String}
  {body : ContactBody} {p : Phonebook} {w : WrittenContact}

/-- The phonebook a key names is one the tenants see. -/
theorem getPhonebook_ok (h : getPhonebook db visibleTenants key = .ok p) :
    p ∈ db.phonebooks ∧ phonebookSelector visibleTenants key p = true := by
  unfold getPhonebook at h
  split at h
  · cases h
  · next q hq =>
    cases h
    exact ⟨List.mem_of_find?_eq_some hq, List.find?_some hq⟩

/-- The phonebook a uuid names has it. -/
theorem uuid_of_getPhonebook {uuid : Uuid}
    (h : getPhonebook db visibleTenants (.uuid uuid) = .ok p) : p.uuid = uuid := by
  have hsel := (getPhonebook_ok h).2
  match visibleTenants with
  | none => simpa [phonebookSelector, phonebookKeyToFilter] using hsel
  | some [] => simp [phonebookSelector] at hsel
  | some (t :: ts) =>
    simp only [phonebookSelector, phonebookKeyToFilter, Bool.and_eq_true, decide_eq_true_eq] at hsel
    exact hsel.1

/-- Which phonebook a key names depends on the phonebooks alone. -/
theorem getPhonebook_congr (h : db'.phonebooks = db.phonebooks) :
    getPhonebook db' visibleTenants key = getPhonebook db visibleTenants key := by
  rw [getPhonebook, getPhonebook, h]

/-- The contact a uuid names is one of the phonebook's. -/
theorem getContact_ok {tenantUuid phonebookUuid : Uuid} {c : Contact}
    (h : getContact db tenantUuid phonebookUuid contactUuid = .ok c) :
    c ∈ db.contacts ∧ c.uuid = contactUuid ∧ c.phonebookUuid = some phonebookUuid := by
  unfold getContact at h
  split at h
  · cases h
  · next d hd =>
    cases h
    have hsel := List.find?_some hd
    simp only [newContactFilter, Bool.and_eq_true, decide_eq_true_eq] at hsel
    exact ⟨List.mem_of_find?_eq_some hd, hsel.1.1, hsel.1.2⟩

/-- **The fields a contact is given**: the texts of its body, and the id
as often as the body has items. No other contact is given any. -/
theorem setContactFields_ok {uuid : Uuid} {fields : List ContactFields}
    (h : setContactFields enc uuid body = .ok fields) :
    (∀ f ∈ fields, f.contactUuid = uuid) ∧
    ∃ texts, enc.columnTexts body = .ok texts ∧
      fieldsOf fields uuid = texts ++ List.replicate body.entries.length ("id", some uuid) := by
  obtain ⟨texts, htexts, h⟩ := bind_eq_ok.1 h
  have hown : ∀ f ∈ fields, f.contactUuid = uuid := by
    cases h
    intro f hf
    rcases List.mem_append.1 hf with hf | hf
    · obtain ⟨e, -, rfl⟩ := List.mem_map.1 hf
      rfl
    · obtain ⟨e, -, rfl⟩ := List.mem_map.1 hf
      rfl
  cases h
  refine ⟨hown, texts, htexts, ?_⟩
  rw [fieldsOf_of_forall hown, List.map_append, List.map_map, List.map_map]
  simp [Function.comp_def, List.map_const']

/-- **What creating one contact does.** -/
theorem createOne_ok {i : ℕ} {tenantUuid phonebookUuid : Uuid}
    (h : createOne enc server db i tenantUuid phonebookUuid body = .ok (db', w)) :
    w.body = body ∧ w.uuid = server.newUuid (db.contacts.map Contact.uuid) ∧ w.uuid ≠ "" ∧
      ∃ p fields, p ∈ db.phonebooks ∧ p.uuid = phonebookUuid ∧
        setContactFields enc w.uuid body = .ok fields ∧
        (∀ c ∈ db.contacts, (contactRow enc p.uuid w).clash c = false) ∧
        db' = { db with
          contacts := db.contacts ++ [contactRow enc p.uuid w]
          contactFields := db.contactFields ++ fields } := by
  obtain ⟨p, hp, h⟩ := bind_eq_ok.1 h
  obtain ⟨⟨⟩, hclash, h⟩ := bind_eq_ok.1 h
  obtain ⟨⟨⟩, -, h⟩ := bind_eq_ok.1 h
  obtain ⟨⟨⟩, huuid, h⟩ := bind_eq_ok.1 h
  obtain ⟨fields, hfields, h⟩ := bind_eq_ok.1 h
  obtain ⟨⟨⟩, -, h⟩ := bind_eq_ok.1 h
  cases h
  refine ⟨rfl, rfl, raiseIf_ok.1 huuid, p, fields, (getPhonebook_ok hp).1,
    uuid_of_getPhonebook hp, hfields, fun c hc => ?_, rfl⟩
  have hnone := raiseIf_ok.1 hclash
  rw [Bool.not_eq_true, List.any_eq_false] at hnone
  exact Bool.eq_false_iff.2 (hnone c hc)

/-- A contact created is one write. -/
theorem writes_of_createOne {i : ℕ} {tenantUuid phonebookUuid : Uuid}
    (h : createOne enc server db i tenantUuid phonebookUuid body = .ok (db', w)) :
    Writes enc db (.created w) db' := by
  obtain ⟨rfl, -, -, p, fields, hp, -, hfields, hclash, rfl⟩ := createOne_ok h
  exact .created hp hfields hclash

/-- **What `create` does**: nothing, and it raises; or it creates one
contact of the body, in the phonebook the key names. -/
theorem create_cases {r : Except DirdError WrittenContact}
    (h : create enc server db visibleTenants key body = (r, db')) :
    (∃ e, r = .error e ∧ db' = db) ∨
    ∃ p w, r = .ok w ∧ getPhonebook db visibleTenants key = .ok p ∧
      createOne enc server db 0 p.tenantUuid p.uuid body = .ok (db', w) := by
  rcases newSession_snd h with herr | ⟨w, rfl, hbody⟩
  · exact Or.inl herr
  · obtain ⟨p, hp, hone⟩ := bind_eq_ok.1 hbody
    exact Or.inr ⟨p, w, rfl, hp, hone⟩

/-- **What one turn of the loop does**: it creates a contact of the body;
or it passes the body over, as one that is there or as an error, and
leaves the database. -/
theorem createNext_cases {tenantUuid phonebookUuid : Uuid} {s s' : Created} {i : ℕ}
    (h : createNext enc server tenantUuid phonebookUuid s (body, i) = .ok s') :
    (∃ w, createOne enc server s.db i tenantUuid phonebookUuid body = .ok (s'.db, w) ∧
      s'.good = s.good ++ [w] ∧ s'.errors = s.errors) ∨
    (createOne enc server s.db i tenantUuid phonebookUuid body = .error .duplicatedContact ∧
      s' = s) ∨
    ∃ message hash tenant key,
      createOne enc server s.db i tenantUuid phonebookUuid body =
        .error (.contactCreation message hash tenant key) ∧
      s' = { s with errors := s.errors ++ [⟨rawContact body, message, i⟩] } := by
  simp only [createNext] at h
  split at h
  · next d w hone =>
    cases h
    exact Or.inl ⟨w, hone, rfl, rfl⟩
  · next hone =>
    cases h
    exact Or.inr (Or.inl ⟨hone, rfl⟩)
  · next message hash tenant key hone =>
    cases h
    exact Or.inr (Or.inr ⟨message, hash, tenant, key, hone, rfl⟩)
  · cases h

/-- The contacts the loop has created are what it wrote. -/
theorem writes_of_loop {tenantUuid phonebookUuid : Uuid} {s s' : Created}
    {entries : List (ContactBody × ℕ)}
    (h : entries.foldlM (createNext enc server tenantUuid phonebookUuid) s = .ok s') :
    ∃ created, s'.good = s.good ++ created ∧
      (created.map WrittenContact.body).Sublist (entries.map Prod.fst) ∧
      Run (Writes enc) s.db (created.map Write.created) s'.db := by
  induction entries generalizing s with
  | nil =>
      cases h
      exact ⟨[], (List.append_nil _).symm, List.Sublist.refl _, Run.nil _⟩
  | cons entry entries ih =>
      obtain ⟨body, i⟩ := entry
      rw [List.foldlM_cons] at h
      obtain ⟨s₁, hnext, hrest⟩ := bind_eq_ok.1 h
      obtain ⟨created, hgood, hbodies, hrun⟩ := ih hrest
      rcases createNext_cases hnext with ⟨w, hone, hgood₁, -⟩ | ⟨-, rfl⟩ | ⟨m, a, t, k, -, rfl⟩
      · refine ⟨w :: created, ?_, ?_, Run.cons (writes_of_createOne hone) hrun⟩
        · rw [hgood, hgood₁, List.append_assoc, List.singleton_append]
        · rw [List.map_cons, List.map_cons, (createOne_ok hone).1]
          exact hbodies.cons_cons _
      · exact ⟨created, hgood, hbodies.cons _, hrun⟩
      · exact ⟨created, hgood, hbodies.cons _, hrun⟩

/-- **What `create_many` does**: nothing, and it raises; or it creates the
contacts it reports, one after the other, and reports no error. -/
theorem createMany_cases {bodies : List ContactBody}
    {r : Except DirdError (List WrittenContact × List ContactEntryError)}
    (h : createMany enc server db visibleTenants key bodies = (r, db')) :
    (∃ e, r = .error e ∧ db' = db) ∨
    ∃ created, r = .ok (created, []) ∧ (created.map WrittenContact.body).Sublist bodies ∧
      Run (Writes enc) db (created.map Write.created) db' := by
  rcases newSession_snd h with herr | ⟨⟨created, errors⟩, rfl, hbody⟩
  · exact Or.inl herr
  · obtain ⟨p, -, hbody⟩ := bind_eq_ok.1 hbody
    obtain ⟨s, hloop, hbody⟩ := bind_eq_ok.1 hbody
    obtain ⟨⟨⟩, herrors, hbody⟩ := bind_eq_ok.1 hbody
    cases hbody
    obtain ⟨created, hgood, hbodies, hrun⟩ := writes_of_loop hloop
    have hnone : s.errors = [] := by simpa using raiseIf_ok.1 herrors
    rw [List.nil_append] at hgood
    rw [List.zipIdx_map_fst] at hbodies
    rw [hgood, hnone]
    exact Or.inr ⟨created, rfl, hbodies, hrun⟩

/-- **What `edit` does**: nothing, and it raises; or it gives one contact
of the phonebook the body. -/
theorem edit_cases {r : Except DirdError WrittenContact}
    (h : edit enc server db visibleTenants key contactUuid body = (r, db')) :
    (∃ e, r = .error e ∧ db' = db) ∨
    ∃ p c fields, r = .ok ⟨c.uuid, body⟩ ∧ c.uuid = contactUuid ∧
      getPhonebook db visibleTenants key = .ok p ∧
      c ∈ db.contacts ∧ c.phonebookUuid = some p.uuid ∧
      setContactFields enc c.uuid body = .ok fields ∧
      (∀ d ∈ db.contacts, d.uuid ≠ c.uuid →
        { c with hash := enc.computeContactHash body }.clash d = false) ∧
      db' = { db with
        contacts := db.contacts.map fun d =>
          if d.uuid = c.uuid then { c with hash := enc.computeContactHash body } else d
        contactFields := db.contactFields.filter (·.contactUuid ≠ c.uuid) ++ fields } := by
  rcases newSession_snd h with herr | ⟨w, rfl, hbody⟩
  · exact Or.inl herr
  · obtain ⟨p, hp, hbody⟩ := bind_eq_ok.1 hbody
    obtain ⟨c, hcontact, hbody⟩ := bind_eq_ok.1 hbody
    obtain ⟨⟨⟩, hclash, hbody⟩ := bind_eq_ok.1 hbody
    obtain ⟨⟨⟩, -, hbody⟩ := bind_eq_ok.1 hbody
    obtain ⟨⟨⟩, -, hbody⟩ := bind_eq_ok.1 hbody
    obtain ⟨fields, hfields, hbody⟩ := bind_eq_ok.1 hbody
    obtain ⟨⟨⟩, -, hbody⟩ := bind_eq_ok.1 hbody
    cases hbody
    obtain ⟨hc, rfl, hcp⟩ := getContact_ok hcontact
    refine Or.inr ⟨p, c, fields, rfl, rfl, hp, hc, hcp, hfields, fun d hd hne => ?_, rfl⟩
    have hnone := raiseIf_ok.1 hclash
    rw [Bool.not_eq_true, List.any_eq_false] at hnone
    exact Bool.eq_false_iff.2 (hnone d (List.mem_filter.2 ⟨hd, by simpa using hne⟩))

/-- **What `delete` does**: nothing, and it raises; or it deletes one
contact of the phonebook. -/
theorem delete_cases {r : Except DirdError Unit}
    (h : delete db visibleTenants key contactUuid = (r, db')) :
    (∃ e, r = .error e ∧ db' = db) ∨
    (r = .ok () ∧ Writes enc db (.deleted contactUuid) db') := by
  rcases newSession_snd h with herr | ⟨⟨⟩, rfl, hbody⟩
  · exact Or.inl herr
  · obtain ⟨p, hp, hbody⟩ := bind_eq_ok.1 hbody
    obtain ⟨c, hcontact, hbody⟩ := bind_eq_ok.1 hbody
    cases hbody
    obtain ⟨hc, rfl, hcp⟩ := getContact_ok hcontact
    exact Or.inr ⟨rfl, .deleted hc hcp⟩

end Spec

end PhonebookContactCRUD

end WazoDird
