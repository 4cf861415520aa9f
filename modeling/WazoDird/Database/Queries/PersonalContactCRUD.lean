import Mathlib.Logic.Relation
import WazoDird.Database.Queries.ContactRows
import WazoDird.Database.Queries.Favorite
import WazoDird.Services.Sorting

/-!
# Writing and reading the contacts of a user

`PersonalContactCRUD` of `database/queries/personal.py`. A list of
contacts is created by hash: of those with one hash the last is written,
and one whose hash the user has is not. An edition deletes the contact
and creates it again under its uuid. The values of a personal contact
are texts, which its service checks.
-/

namespace WazoDird

/-- A personal contact as a request carries it: names and texts. -/
abbrev TextInfo := Dict String String

/-- The contact as a body of values. -/
def TextInfo.body (info : TextInfo) : ContactBody := info.map .str

/-- What the server and the language leave open in an operation on
personal contacts, beside the server's answers: the order of the rows of
a query, and the order in which a set of hashes is gone through. -/
structure PersonalServer extends Server where
  pairs : RowOrder Contact := .asStored
  hashes : RowOrder (String × TextInfo) := .asStored

/-- A server that flushes every row, in the order it is given. -/
def PersonalServer.plain : PersonalServer where
  toServer := Server.plain

namespace PersonalContactCRUD

variable (enc : Encoding) (server : PersonalServer)

/-- `hash_and_contact`: the contacts of a list under their hashes, the
last of each. -/
def hashAndContact (infos : List TextInfo) : Dict String TextInfo :=
  Dict.ofList (infos.map fun info => (enc.computeContactHash info.body, info))

/-- `_find_existing_contact_by_hash`. -/
def findExistingContactByHash (db : Database) (userUuid : Uuid) (hashes : List String) :
    Dict String Uuid :=
  if hashes.isEmpty then ∅
  else
    Dict.ofList <| (server.pairs.order (db.contacts.filter fun c =>
      c.userUuid = some userUuid && c.hash ∈ hashes)).map fun c => (c.hash, c.uuid)

/-- The rows of a contact of a uuid: one for each of its items. -/
def contactFields (uuid : Uuid) (info : TextInfo) : Except DirdError (List ContactFields) := do
  let texts ← enc.columnTexts info.body
  let contactUuid ← stringColumn 38 uuid
  return texts.map fun (name, value) => { contactUuid, name, value }

/-- Where the loop over the contacts to add is: the database, and the id
each contact was given, under its hash. -/
structure Added where
  db : Database
  ids : Dict String Uuid := ∅

/-- One turn of the loop over the contacts to add: the uuid is the id of
the contact, when it has one. The row has what the column keeps of it,
which is read back for a uuid the server made only: an id is written on
as it was given. -/
def addContact (userUuid : Uuid) (s : Added) (entry : (String × TextInfo) × ℕ) :
    Except DirdError Added := do
  let ((hash, info), i) := entry
  let given := (info.get? "id").filter (· ≠ "")
  let row ← stringColumn 38 (given.getD (server.newUuid (s.db.contacts.map Contact.uuid)))
  let contact : Contact := { uuid := row, userUuid := some userUuid, hash := hash }
  raiseIf (s.db.contacts.any contact.clash) .integrity
  raiseFault (server.contactFault i) fun _ => .integrity
  let uuid := given.getD row
  let fields ← contactFields enc uuid (info.set "id" uuid)
  raiseFault (server.fieldsFault i) fun _ => .integrity
  return {
    db := { s.db with
      contacts := s.db.contacts ++ [contact]
      contactFields := s.db.contactFields ++ fields }
    ids := s.ids.set hash uuid }

/-- The contacts of a list with the ids they were given: it is the last of
a hash that stands for it. -/
def setIds (ids : Dict String Uuid) : List TextInfo → List TextInfo
  | [] => []
  | info :: infos =>
    let hash := enc.computeContactHash info.body
    (if infos.any fun other => enc.computeContactHash other.body = hash then info
      else (ids.get? hash).elim info fun uuid => info.set "id" uuid) :: setIds ids infos

/-- `_create_personal_contacts`. -/
def createPersonalContactsIn (db : Database) (tenantUuid userUuid : Uuid) (infos : List TextInfo)
    (failOnDuplicate : Bool) : Except DirdError (Database × List TextInfo) := do
  let hashAndContact := hashAndContact enc infos
  let db := db.getDirdUser tenantUuid userUuid
  let existing := findExistingContactByHash server db userUuid hashAndContact.keys
  let toAdd := hashAndContact.entries.filter fun e => e.1 ∉ existing.keys
  raiseIf (hashAndContact.keys.any (· ∈ existing.keys) ∧ failOnDuplicate) .duplicatedContact
  let s ← (server.hashes.order toAdd).zipIdx.foldlM (addContact enc server userUuid) { db := db }
  return (s.db, setIds enc (existing.update s.ids) infos)

/-- `create_personal_contact`. -/
def createPersonalContact (db : Database) (tenantUuid userUuid : Uuid) (info : TextInfo) :
    Except DirdError (Option TextInfo) × Database :=
  newSession db <| do
    let (db, infos) ← createPersonalContactsIn enc server db tenantUuid userUuid [info] true
    return (db, infos.head?)

/-- `create_personal_contacts`. -/
def createPersonalContacts (db : Database) (tenantUuid userUuid : Uuid) (infos : List TextInfo) :
    Except DirdError (List TextInfo) × Database :=
  newSession db (createPersonalContactsIn enc server db tenantUuid userUuid infos false)

/-- The contacts a deletion selects: those of a user with a row that meets
the filter. -/
def deleteFilter (db : Database) (filter : User → ContactFields → Bool) (c : Contact) : Bool :=
  db.contactFields.any fun f => f.contactUuid = c.uuid &&
    db.users.any fun u => c.userUuid = some u.userUuid && filter u f

/-- `_delete_personal_contacts_with_filter`. -/
def deletePersonalContactsWithFilter (db : Database) (filter : User → ContactFields → Bool) :
    Database × ℕ :=
  (db.dropContacts (deleteFilter db filter), (db.contacts.filter (deleteFilter db filter)).length)

/-- `_delete_personal_contact`. -/
def deletePersonalContactIn (db : Database) (userUuid : Uuid) (contactUuid : String) :
    Except DirdError Database := do
  let (db', deleted) := deletePersonalContactsWithFilter db fun u f =>
    u.userUuid = userUuid && f.contactUuid = contactUuid
  raiseIf (deleted = 0) (.noSuchContact contactUuid)
  return db'

/-- `delete_personal_contact`. -/
def deletePersonalContact (db : Database) (userUuid : Uuid) (contactUuid : String) :
    Except DirdError Unit × Database :=
  newSession db <| do
    let db ← deletePersonalContactIn db userUuid contactUuid
    return (db, ())

/-- `delete_all_personal_contacts`. -/
def deleteAllPersonalContacts (db : Database) (userUuid : Uuid) :
    Except DirdError ℕ × Database :=
  newSession db (.ok (deletePersonalContactsWithFilter db fun u _ => u.userUuid = userUuid))

/-- `edit_personal_contact`. -/
def editPersonalContact (db : Database) (tenantUuid userUuid : Uuid) (contactId : String)
    (info : TextInfo) : Except DirdError (Option TextInfo) × Database :=
  newSession db <| do
    let db ← deletePersonalContactIn db userUuid contactId
    let hash := enc.computeContactHash info.body
    raiseIf ((findExistingContactByHash server db userUuid [hash]).entries ≠ []) .duplicatedContact
    let (db, infos) ←
      createPersonalContactsIn enc server db tenantUuid userUuid [info.set "id" contactId] false
    return (db, infos.head?)

/-- `get_personal_contact`. -/
def getPersonalContact (o : RowOrder ContactFields) (db : Database) (userUuid : Uuid)
    (contactUuid : String) : Except DirdError ContactInfo :=
  let uuids := ((db.contactFields.filter fun f => f.contactUuid = contactUuid &&
    db.contacts.any fun c => c.uuid = f.contactUuid && c.userUuid = some userUuid &&
      db.hasUser userUuid).map ContactFields.contactUuid).dedup
  match listContactsByUuid o db uuids with
  | [] => .error (.noSuchContact contactUuid)
  | contact :: _ => .ok contact

/-- How `list_personal_contacts` sorts and pages, as a request has it. -/
structure SearchParams where
  order : Option String := none
  direction : Option String := some "asc"
  limit : Option ℤ := none
  offset : ℤ := 0

/-- `list_personal_contacts`: all contacts, of whomever, when the user is
none or empty. -/
def listPersonalContacts (text : SortText) (ou : RowOrder Uuid) (o : RowOrder ContactFields)
    (db : Database) (userUuid : Option Uuid) (params : SearchParams) :
    Except DirdError (List ContactInfo) := do
  let filter (c : Contact) : Bool :=
    match userUuid.filter (· ≠ "") with
    | none => true
    | some userUuid => c.userUuid = some userUuid
  raiseIf (params.offset < 0) (.python .valueError)
  raiseIf (params.limit.any (· ≤ 0)) (.python .valueError)
  raiseIf (params.direction ≠ some "asc" ∧ params.direction ≠ some "desc") (.python .valueError)
  let contactUuids := ou.order ((db.contacts.filter filter).map Contact.uuid).dedup
  let contacts := listContactsByUuid o db contactUuids
  let order := params.order.filter (· ≠ "")
  raiseIf (contacts ≠ [] ∧ order.any fun order => contacts.all fun c => order ∉ c.keys)
    (.python .valueError)
  return page (params.limit.map Int.toNat) (some params.offset.toNat)
    (sortContacts text contacts params.order params.direction true)

/-! ## What a writer does -/

/-- The ids of a list of contacts, where they have one, are all such. -/
def IdsAre (ids : String → Prop) (infos : List TextInfo) : Prop :=
  ∀ info ∈ infos, ∀ id, info.get? "id" = some id → ids id

/-- **What one write does to the database, for a user**, where the ids
written are all such. The writers make no other change to it
(`createPersonalContactsIn_ok`, `deletePersonalContactIn_ok`). -/
inductive Writes (ids : String → Prop) (userUuid : Uuid) (db : Database) : Database → Prop
  | user (tenantUuid : Uuid) : Writes ids userUuid db (db.getDirdUser tenantUuid userUuid)
  | added {contact : Contact} {info : TextInfo} {id : String} {fields : List ContactFields}
      (huser : contact.userUuid = some userUuid)
      (hid : info.get? "id" = some id) (hids : ids id)
      (hrow : stringColumn 38 id = .ok contact.uuid)
      (hhash : contact.hash = enc.computeContactHash info.body)
      (hfields : contactFields enc id info = .ok fields)
      (hnew : ∀ c ∈ db.contacts, contact.clash c = false) :
      Writes ids userUuid db
        { db with
          contacts := db.contacts ++ [contact]
          contactFields := db.contactFields ++ fields }
  | dropped {p : Contact → Bool}
      (hp : ∀ c ∈ db.contacts, p c = true → c.userUuid = some userUuid) :
      Writes ids userUuid db (db.dropContacts p)

section Spec

open Relation

variable {enc : Encoding} {server : PersonalServer} {ids : String → Prop} {db db' : Database}
  {tenantUuid userUuid : Uuid} {contactId : String} {info : TextInfo} {infos infos' : List TextInfo}

/-- A user made, or found, and its tenant: no contact changes. -/
theorem getDirdUser_contacts (db : Database) (tenantUuid userUuid : Uuid) :
    (db.getDirdUser tenantUuid userUuid).contacts = db.contacts ∧
      (db.getDirdUser tenantUuid userUuid).contactFields = db.contactFields := by
  unfold Database.getDirdUser
  split
  · exact ⟨db.createTenant_contacts _, db.createTenant_contactFields _⟩
  · exact ⟨db.createTenant_contacts tenantUuid, db.createTenant_contactFields tenantUuid⟩

/-- The id of a contact is not in its hash. -/
theorem computeContactHash_set_id (info : TextInfo) (uuid : Uuid) :
    enc.computeContactHash (TextInfo.body (info.set "id" uuid)) =
      enc.computeContactHash info.body := by
  refine Encoding.computeContactHash_congr fun k hk => ?_
  rw [TextInfo.body, TextInfo.body, Dict.get?_map, Dict.get?_map, Dict.get?_set_of_ne _ _ hk.symm]

/-- The contacts of a list stand under their hashes. -/
theorem mem_hashAndContact {e : String × TextInfo} (h : e ∈ (hashAndContact enc infos).entries) :
    e.2 ∈ infos ∧ e.1 = enc.computeContactHash e.2.body := by
  have hmem := Dict.mem_of_get?_ofList (Dict.get?_eq_some_iff.2 h)
  obtain ⟨info, hinfos, hinfo⟩ := List.mem_map.1 hmem
  obtain ⟨hhash, rfl⟩ := Prod.mk.inj hinfo
  exact ⟨hinfos, hhash.symm⟩

/-- **The rows a contact is given**: one for each of its items, with its
text. No other contact is given any. -/
theorem contactFields_ok {id : String} {row : Uuid} {fields : List ContactFields}
    (hrow : stringColumn 38 id = .ok row) (h : contactFields enc id info = .ok fields) :
    (∀ f ∈ fields, f.contactUuid = row) ∧
      fieldsOf fields row = info.entries.map fun e => (e.1, some e.2) := by
  obtain ⟨texts, htexts, h⟩ := bind_eq_ok.1 h
  obtain ⟨row', hrow', h⟩ := bind_eq_ok.1 h
  obtain rfl := Except.ok.inj (hrow.symm.trans hrow')
  cases h
  have hown : ∀ f ∈ texts.map (fun t => (⟨row, t.1, t.2⟩ : ContactFields)),
      f.contactUuid = row := by
    intro f hf
    obtain ⟨t, -, rfl⟩ := List.mem_map.1 hf
    rfl
  refine ⟨hown, ?_⟩
  rw [fieldsOf_of_forall hown, List.map_map, ← Encoding.columnTexts_of_texts htexts]
  exact List.map_id _

/-- **A turn of the loop adds one contact**, of the hash it stands under. -/
theorem addContact_ok (hfit : ∀ a, a.toList.length ≤ 38 → ids a)
    {s s' : Added} {hash : String} {i : ℕ} (hid : ∀ id, info.get? "id" = some id → ids id)
    (hhash : hash = enc.computeContactHash info.body)
    (h : addContact enc server userUuid s ((hash, info), i) = .ok s') :
    Writes enc ids userUuid s.db s'.db := by
  obtain ⟨row, hrow, h⟩ := bind_eq_ok.1 h
  obtain ⟨⟨⟩, hclash, h⟩ := bind_eq_ok.1 h
  obtain ⟨⟨⟩, -, h⟩ := bind_eq_ok.1 h
  obtain ⟨fields, hfields, h⟩ := bind_eq_ok.1 h
  obtain ⟨⟨⟩, -, h⟩ := bind_eq_ok.1 h
  cases h
  -- the id written is the one given, or the row's own
  have hwritten : ids (((info.get? "id").filter (· ≠ "")).getD row) ∧
      stringColumn 38 (((info.get? "id").filter (· ≠ "")).getD row) = .ok row := by
    cases hgiven : (info.get? "id").filter (· ≠ "") with
    | none =>
        have hlen := length_of_stringColumn hrow
        exact ⟨hfit row hlen, stringColumn_of_length_le hlen⟩
    | some id =>
        rw [hgiven] at hrow
        exact ⟨hid id (Option.eq_some_of_filter_eq_some hgiven), hrow⟩
  refine .added rfl (Dict.get?_set_self _ _ _) hwritten.1 hwritten.2 ?_ hfields fun c hc => ?_
  · rw [hhash]
    exact (computeContactHash_set_id _ _).symm
  · have hnone := raiseIf_ok.1 hclash
    rw [Bool.not_eq_true, List.any_eq_false] at hnone
    exact Bool.eq_false_iff.2 (hnone c hc)

/-- The loop adds contacts. -/
theorem writes_of_loop (hfit : ∀ a, a.toList.length ≤ 38 → ids a)
    {entries : List ((String × TextInfo) × ℕ)} {s s' : Added}
    (hentries : ∀ e ∈ entries, (∀ id, e.1.2.get? "id" = some id → ids id) ∧
      e.1.1 = enc.computeContactHash e.1.2.body)
    (h : entries.foldlM (addContact enc server userUuid) s = .ok s') :
    ReflTransGen (Writes enc ids userUuid) s.db s'.db := by
  induction entries generalizing s with
  | nil =>
      cases h
      exact .refl
  | cons entry entries ih =>
      obtain ⟨⟨hash, info⟩, i⟩ := entry
      rw [List.foldlM_cons] at h
      obtain ⟨s₁, hnext, hrest⟩ := bind_eq_ok.1 h
      rw [List.forall_mem_cons] at hentries
      obtain ⟨⟨hid, hhash⟩, hentries⟩ := hentries
      exact .head (addContact_ok hfit hid hhash hnext) (ih hentries hrest)

/-- **What creating contacts does**: it makes the user when there is none,
and adds contacts of that user. -/
theorem createPersonalContactsIn_ok (hfit : ∀ a, a.toList.length ≤ 38 → ids a)
    (hinfos : IdsAre ids infos) {failOnDuplicate : Bool}
    (h : createPersonalContactsIn enc server db tenantUuid userUuid infos failOnDuplicate =
      .ok (db', infos')) :
    ReflTransGen (Writes enc ids userUuid) db db' := by
  obtain ⟨⟨⟩, -, h⟩ := bind_eq_ok.1 h
  obtain ⟨s, hloop, h⟩ := bind_eq_ok.1 h
  cases h
  refine .head (.user tenantUuid) (writes_of_loop hfit ?_ hloop)
  rintro ⟨e, i⟩ he
  have hmem := List.fst_mem_of_mem_zipIdx he
  rw [RowOrder.mem_order] at hmem
  obtain ⟨hinfo, hhash⟩ := mem_hashAndContact (List.mem_filter.1 hmem).1
  exact ⟨hinfos _ hinfo, hhash⟩

/-- A deletion selects contacts of a user its filter lets through. -/
theorem deleteFilter_iff {filter : User → ContactFields → Bool} {c : Contact} :
    deleteFilter db filter c = true ↔ ∃ f ∈ db.contactFields, f.contactUuid = c.uuid ∧
      ∃ u ∈ db.users, c.userUuid = some u.userUuid ∧ filter u f = true := by
  simp only [deleteFilter, List.any_eq_true, Bool.and_eq_true, decide_eq_true_eq]

/-- A deletion of a user's contacts drops contacts of that user. -/
theorem writes_of_delete {filter : User → ContactFields → Bool}
    (hfilter : ∀ u f, filter u f = true → u.userUuid = userUuid) :
    Writes enc ids userUuid db (deletePersonalContactsWithFilter db filter).1 := by
  refine .dropped fun c _ hc => ?_
  obtain ⟨f, -, -, u, -, hcu, huf⟩ := deleteFilter_iff.1 hc
  rw [hcu, hfilter u f huf]

/-- What deleting one contact does. -/
theorem deletePersonalContactIn_ok {contactUuid : String}
    (h : deletePersonalContactIn db userUuid contactUuid = .ok db') :
    Writes enc ids userUuid db db' := by
  obtain ⟨⟨⟩, -, h⟩ := bind_eq_ok.1 h
  cases h
  refine writes_of_delete fun u f huf => ?_
  rw [Bool.and_eq_true, decide_eq_true_eq, decide_eq_true_eq] at huf
  exact huf.1

/-- A session leaves the database, or what writes of its body make of it. -/
theorem writes_of_newSession {α : Type} {body : Except DirdError (Database × α)}
    (h : ∀ db' a, body = .ok (db', a) → ReflTransGen (Writes enc ids userUuid) db db') :
    ReflTransGen (Writes enc ids userUuid) db (newSession db body).2 := by
  rcases newSession_snd (Prod.eta (newSession db body)).symm with ⟨e, -, hdb⟩ | ⟨a, -, hbody⟩
  · rw [hdb]
  · exact h _ _ hbody

/-- **What `create_personal_contact` does.** -/
theorem writes_createPersonalContact (hfit : ∀ a, a.toList.length ≤ 38 → ids a)
    (hinfo : IdsAre ids [info]) :
    ReflTransGen (Writes enc ids userUuid) db
      (createPersonalContact enc server db tenantUuid userUuid info).2 := by
  refine writes_of_newSession fun db' a h => ?_
  obtain ⟨⟨db₁, infos⟩, hcreate, h⟩ := bind_eq_ok.1 h
  cases h
  exact createPersonalContactsIn_ok hfit hinfo hcreate

/-- **What `create_personal_contacts` does.** -/
theorem writes_createPersonalContacts (hfit : ∀ a, a.toList.length ≤ 38 → ids a)
    (hinfos : IdsAre ids infos) :
    ReflTransGen (Writes enc ids userUuid) db
      (createPersonalContacts enc server db tenantUuid userUuid infos).2 :=
  writes_of_newSession fun _ _ h => createPersonalContactsIn_ok hfit hinfos h

/-- **What `edit_personal_contact` does.** -/
theorem writes_editPersonalContact (hfit : ∀ a, a.toList.length ≤ 38 → ids a)
    (hid : ∀ db₁, deletePersonalContactIn db userUuid contactId = .ok db₁ → ids contactId) :
    ReflTransGen (Writes enc ids userUuid) db
      (editPersonalContact enc server db tenantUuid userUuid contactId info).2 := by
  refine writes_of_newSession fun db' a h => ?_
  obtain ⟨db₁, hdelete, h⟩ := bind_eq_ok.1 h
  obtain ⟨⟨⟩, -, h⟩ := bind_eq_ok.1 h
  obtain ⟨⟨db₂, infos⟩, hcreate, h⟩ := bind_eq_ok.1 h
  cases h
  refine .head (deletePersonalContactIn_ok hdelete) (createPersonalContactsIn_ok hfit ?_ hcreate)
  -- the id of the body is the contact's, whatever it was
  intro info' hinfo' id hget
  rw [List.mem_singleton.1 hinfo', Dict.get?_set_self] at hget
  cases hget
  exact hid db₁ hdelete

/-- **What `delete_personal_contact` does.** -/
theorem writes_deletePersonalContact :
    ReflTransGen (Writes enc ids userUuid) db (deletePersonalContact db userUuid contactId).2 := by
  refine writes_of_newSession fun db' a h => ?_
  obtain ⟨db₁, hdelete, h⟩ := bind_eq_ok.1 h
  cases h
  exact .single (deletePersonalContactIn_ok hdelete)

/-- **What `delete_all_personal_contacts` does.** -/
theorem writes_deleteAllPersonalContacts :
    ReflTransGen (Writes enc ids userUuid) db (deleteAllPersonalContacts db userUuid).2 :=
  .single (writes_of_delete fun _ _ hu => of_decide_eq_true hu)

end Spec

end PersonalContactCRUD

end WazoDird
