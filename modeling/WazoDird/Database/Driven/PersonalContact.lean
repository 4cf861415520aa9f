import WazoDird.Database.Driven.Base
import WazoDird.Database.Queries.PersonalContactCRUD

/-!
# The operations, call by call: the contacts of a user

`PersonalContactCRUD` of `database/queries/personal.py`. No flush of it
catches an error of the server. What is checked of a request is checked
before any session, and what a list is sorted by once it is closed.
-/

namespace WazoDird

/-- Nothing is deleted of a database none of whose contacts is. -/
theorem Database.dropContacts_eq_self {db : Database} {p : Contact → Bool}
    (h : db.contacts.filter p = []) : db.dropContacts p = db := by
  have hnone : ∀ c ∈ db.contacts, p c = false := fun c hc =>
    Bool.eq_false_iff.2 (List.filter_eq_nil_iff.1 h c hc)
  have hcontacts : db.contacts.filter (fun c => !p c) = db.contacts :=
    List.filter_eq_self.2 fun c hc => by rw [hnone c hc, Bool.not_false]
  have hfields : db.contactFields.filter (fun f =>
      !(db.contacts.any fun c => p c && c.uuid = f.contactUuid)) = db.contactFields := by
    refine List.filter_eq_self.2 fun f _ => ?_
    rw [Bool.not_eq_true', List.any_eq_false]
    intro c hc
    rw [hnone c hc, Bool.false_and]
    exact Bool.false_ne_true
  rw [dropContacts, hcontacts, hfields]

namespace Driven.PersonalContactCRUD

open Body

open WazoDird.PersonalContactCRUD (hashAndContact findExistingContactByHash setIds deleteFilter
  SearchParams)

variable (enc : Encoding) (server : PersonalServer) (text : SortText) (ou : RowOrder Uuid)
  (o : RowOrder ContactFields) (tenantUuid userUuid : Uuid) (contactUuid : String)
  (info : TextInfo) (infos : List TextInfo)

/-- `_find_existing_contact_by_hash`. No hash is looked for without a
query. -/
def findExisting (hashes : List String) : Body Database DirdError (Dict String Uuid) :=
  fetchIf (hashes ≠ []) fun db => .ok (findExistingContactByHash server db userUuid hashes)

/-- One turn of the loop over the contacts to add: the flush of the
contact. -/
def addContact (ids : Dict String Uuid) (entry : (String × TextInfo) × ℕ) :
    Body Database DirdError (Dict String Uuid) :=
  access fun db =>
    (WazoDird.PersonalContactCRUD.addContact enc server userUuid { db, ids } entry).map fun s =>
      (s.db, s.ids)

/-- `_create_personal_contacts`. The rows of the last contact are flushed by
what comes next, which is the commit. -/
def createPersonalContactsIn (failOnDuplicate : Bool) :
    Body Database DirdError (List TextInfo) := do
  let hashAndContact := hashAndContact enc infos
  getDirdUser tenantUuid userUuid
  let existing ← findExisting server userUuid hashAndContact.keys
  let toAdd := hashAndContact.entries.filter fun e => e.1 ∉ existing.keys
  held fun _ => raiseIf (hashAndContact.keys.any (· ∈ existing.keys) ∧ failOnDuplicate)
    .duplicatedContact
  let ids ← (server.hashes.order toAdd).zipIdx.foldlM (addContact enc server userUuid) ∅
  onlyIf (toAdd ≠ []) load
  return setIds enc (existing.update ids) infos

/-- `create_personal_contact`. -/
def createPersonalContact : Operation Database DirdError (Option TextInfo) :=
  withSession do
    let infos ← createPersonalContactsIn enc server tenantUuid userUuid [info] true
    return infos.head?

/-- `create_personal_contacts`. -/
def createPersonalContacts : Operation Database DirdError (List TextInfo) :=
  withSession (createPersonalContactsIn enc server tenantUuid userUuid infos false)

/-- `_delete_personal_contacts_with_filter`. The contacts are read, and
deleted by the next flush. -/
def deletePersonalContactsWithFilter (filter : User → ContactFields → Bool) :
    Body Database DirdError ℕ := do
  let deleted ← query fun db => (db.contacts.filter (deleteFilter db filter)).length
  onlyIf (deleted ≠ 0) (access fun db => .ok (db.dropContacts (deleteFilter db filter), ()))
  return deleted

/-- `_delete_personal_contact`. -/
def deletePersonalContactIn : Body Database DirdError Unit := do
  let deleted ← deletePersonalContactsWithFilter fun u f =>
    u.userUuid = userUuid && f.contactUuid = contactUuid
  held fun _ => raiseIf (deleted = 0) (.noSuchContact contactUuid)

/-- `delete_personal_contact`. -/
def deletePersonalContact : Operation Database DirdError Unit :=
  withSession (deletePersonalContactIn userUuid contactUuid)

/-- `delete_all_personal_contacts`. -/
def deleteAllPersonalContacts : Operation Database DirdError ℕ :=
  withSession (deletePersonalContactsWithFilter fun u _ => u.userUuid = userUuid)

/-- `edit_personal_contact`. -/
def editPersonalContact (contactId : String) : Operation Database DirdError (Option TextInfo) :=
  withSession do
    deletePersonalContactIn userUuid contactId
    let hash := enc.computeContactHash info.body
    let existing ← findExisting server userUuid [hash]
    if existing.entries ≠ [] then do
      rollback
      raise .duplicatedContact
    else
      let infos ←
        createPersonalContactsIn enc server tenantUuid userUuid [info.set "id" contactId] false
      return infos.head?

/-- The contact of a uuid, where it is the user's: the subquery of
`get_personal_contact`. -/
def ownUuids (db : Database) : List Uuid :=
  ((db.contactFields.filter fun f => f.contactUuid = contactUuid &&
    db.contacts.any fun c => c.uuid = f.contactUuid && c.userUuid = some userUuid &&
      db.hasUser userUuid).map ContactFields.contactUuid).dedup

/-- `get_personal_contact`. -/
def getPersonalContact : Operation Database DirdError ContactInfo :=
  (withSession (query fun db => listContactsByUuid o db (ownUuids userUuid contactUuid db))).andThen
    fun
    | [] => .error (.noSuchContact contactUuid)
    | contact :: _ => .ok contact

/-- `_extract_pagination_params`. -/
def checkParams (params : SearchParams) : Except DirdError Unit := do
  raiseIf (params.offset < 0) (.python .valueError)
  raiseIf (params.limit.any (· ≤ 0)) (.python .valueError)
  raiseIf (params.direction ≠ some "asc" ∧ params.direction ≠ some "desc") (.python .valueError)

/-- The contacts of a user, or of whomever. -/
def ofUser (userUuid : Option Uuid) (c : Contact) : Bool :=
  match userUuid.filter (· ≠ "") with
  | none => true
  | some userUuid => c.userUuid = some userUuid

/-- What the session of `list_personal_contacts` reads. -/
def readContacts (userUuid : Option Uuid) : Body Database DirdError (List ContactInfo) := do
  let contactUuids ← query fun db =>
    ou.order ((db.contacts.filter (ofUser userUuid)).map Contact.uuid).dedup
  fetchIf (contactUuids ≠ []) fun db => .ok (listContactsByUuid o db contactUuids)

/-- What becomes of it once the session is closed. -/
def sortAndPage (params : SearchParams) (contacts : List ContactInfo) :
    Except DirdError (List ContactInfo) := do
  let order := params.order.filter (· ≠ "")
  raiseIf (contacts ≠ [] ∧ order.any fun order => contacts.all fun c => order ∉ c.keys)
    (.python .valueError)
  return page (params.limit.map Int.toNat) (some params.offset.toNat)
    (sortContacts text contacts params.order params.direction true)

/-- `list_personal_contacts`. -/
def listPersonalContacts (userUuid : Option Uuid) (params : SearchParams) :
    Operation Database DirdError (List ContactInfo) :=
  match checkParams params with
  | .error e => .fail e
  | .ok () => (withSession (readContacts ou o userUuid)).andThen (sortAndPage text params)

/-- A call of an operation on the contacts of users. -/
inductive Call where
  | create (tenantUuid userUuid : Uuid) (info : TextInfo)
  | createMany (tenantUuid userUuid : Uuid) (infos : List TextInfo)
  | delete (userUuid : Uuid) (contactUuid : String)
  | deleteAll (userUuid : Uuid)
  | edit (tenantUuid userUuid : Uuid) (contactId : String) (info : TextInfo)
  | get (userUuid : Uuid) (contactUuid : String)
  | list (userUuid : Option Uuid) (params : SearchParams)

namespace Call

/-- What it answers. -/
def Answer : Call → Type
  | create .. | edit .. => Option TextInfo
  | createMany .. => List TextInfo
  | delete .. => Unit
  | deleteAll .. => ℕ
  | get .. => ContactInfo
  | list .. => List ContactInfo

/-- The call, as the accesses it makes. -/
def run : (call : Call) → Operation Database DirdError call.Answer
  | create tenantUuid userUuid info => createPersonalContact enc server tenantUuid userUuid info
  | createMany tenantUuid userUuid infos =>
    createPersonalContacts enc server tenantUuid userUuid infos
  | delete userUuid contactUuid => deletePersonalContact userUuid contactUuid
  | deleteAll userUuid => deleteAllPersonalContacts userUuid
  | edit tenantUuid userUuid contactId info =>
    editPersonalContact enc server tenantUuid userUuid info contactId
  | get userUuid contactUuid => getPersonalContact o userUuid contactUuid
  | list userUuid params => listPersonalContacts text ou o userUuid params

/-- The call, as what it does to the tables. -/
def done (db : Database) : (call : Call) → Except DirdError call.Answer × Database
  | create tenantUuid userUuid info =>
    WazoDird.PersonalContactCRUD.createPersonalContact enc server db tenantUuid userUuid info
  | createMany tenantUuid userUuid infos =>
    WazoDird.PersonalContactCRUD.createPersonalContacts enc server db tenantUuid userUuid infos
  | delete userUuid contactUuid =>
    WazoDird.PersonalContactCRUD.deletePersonalContact db userUuid contactUuid
  | deleteAll userUuid => WazoDird.PersonalContactCRUD.deleteAllPersonalContacts db userUuid
  | edit tenantUuid userUuid contactId info =>
    WazoDird.PersonalContactCRUD.editPersonalContact enc server db tenantUuid userUuid contactId
      info
  | get userUuid contactUuid =>
    (WazoDird.PersonalContactCRUD.getPersonalContact o db userUuid contactUuid, db)
  | list userUuid params =>
    (WazoDird.PersonalContactCRUD.listPersonalContacts text ou o db userUuid params, db)

end Call

section Spec

variable {enc : Encoding} {server : PersonalServer} {text : SortText} {ou : RowOrder Uuid}
  {o : RowOrder ContactFields} {tenantUuid userUuid : Uuid} {contactUuid : String}
  {infos : List TextInfo} {failOnDuplicate : Bool}

theorem passes_createPersonalContactsIn :
    (createPersonalContactsIn enc server tenantUuid userUuid infos failOnDuplicate).Passes :=
  (passes_getDirdUser _ _).bind fun _ => (passes_fetchIf _).bind fun _ =>
    (passes_held _).bind fun _ =>
      (passes_foldlM (fun _ _ => passes_access _) _ _).bind fun _ =>
        (passes_onlyIf passes_load).bind fun _ => passes_pure _

theorem passes_deletePersonalContactsWithFilter (filter : User → ContactFields → Bool) :
    (deletePersonalContactsWithFilter filter).Passes :=
  (passes_query _).bind fun _ => (passes_onlyIf (passes_access _)).bind fun _ => passes_pure _

theorem passes_deletePersonalContactIn : (deletePersonalContactIn userUuid contactUuid).Passes :=
  (passes_deletePersonalContactsWithFilter _).bind fun _ => passes_held _

/-- **Every operation on the contacts of users reports an outage.** -/
theorem reports_call (call : Call) : Reports (call.run enc server text ou o) := by
  cases call with
  | create =>
    exact reports_withSession (passes_createPersonalContactsIn.bind fun _ => passes_pure _)
  | createMany => exact reports_withSession passes_createPersonalContactsIn
  | delete => exact reports_withSession passes_deletePersonalContactIn
  | deleteAll => exact reports_withSession (passes_deletePersonalContactsWithFilter _)
  | edit =>
    refine reports_withSession (passes_deletePersonalContactIn.bind fun _ =>
      (passes_fetchIf _).bind fun existing => Passes.ite ?_ ?_)
    · exact passes_rollback.bind fun _ => passes_raise _
    · exact passes_createPersonalContactsIn.bind fun _ => passes_pure _
  | get => exact fun drv db => (reports_withSession (passes_query _) drv db).andThen
  | list userUuid params =>
    have hread : (readContacts ou o userUuid).Passes :=
      (passes_query _).bind fun _ => passes_fetchIf _
    change Reports (listPersonalContacts text ou o userUuid params)
    unfold listPersonalContacts
    split
    · exact Operation.reports_fail _
    · exact fun drv db => (reports_withSession hread drv db).andThen

/-! ### While the database is up -/

variable {c v : Database}

theorem gives_findExisting (hashes : List String) :
    (findExisting server userUuid hashes).Gives c v
      (.ok (v, findExistingContactByHash server v userUuid hashes)) :=
  gives_fetchIf _

/-- **The contacts of a list.** -/
theorem gives_createPersonalContactsIn :
    (createPersonalContactsIn enc server tenantUuid userUuid infos failOnDuplicate).Gives c v
      (WazoDird.PersonalContactCRUD.createPersonalContactsIn enc server v tenantUuid userUuid infos
        failOnDuplicate) := by
  refine (gives_getDirdUser _ _).bind_ok ((gives_findExisting _).bind_ok ?_)
  refine (gives_held _).bind_map fun _ _ => ?_
  have hturn : ∀ (s : WazoDird.PersonalContactCRUD.Added) (entry : (String × TextInfo) × ℕ),
      (addContact enc server userUuid s.ids entry).Gives c s.db
        ((WazoDird.PersonalContactCRUD.addContact enc server userUuid s entry).map fun s' =>
          (s'.db, s'.ids)) :=
    fun _ _ => gives_access _
  refine Gives.bind_map (gives_foldlM hturn _ { db := v.getDirdUser tenantUuid userUuid })
    fun s _ => ?_
  exact (gives_onlyIf (fun _ => gives_load) fun _ => rfl).bind_ok (gives_pure _)

/-- **The contacts a deletion selects.** -/
theorem gives_deletePersonalContactsWithFilter (filter : User → ContactFields → Bool) :
    (deletePersonalContactsWithFilter filter).Gives c v
      (.ok (WazoDird.PersonalContactCRUD.deletePersonalContactsWithFilter v filter)) := by
  refine (gives_query _).bind_ok (Gives.bind_ok (gives_onlyIf (fun _ => gives_access _) ?_)
    (gives_pure _))
  intro h
  exact Database.dropContacts_eq_self (List.length_eq_zero_iff.1 (not_not.1 h))

theorem gives_deletePersonalContactIn :
    (deletePersonalContactIn userUuid contactUuid).Gives c v
      ((WazoDird.PersonalContactCRUD.deletePersonalContactIn v userUuid contactUuid).map fun v' =>
        (v', ())) := by
  refine (gives_deletePersonalContactsWithFilter _).bind_ok ?_
  unfold WazoDird.PersonalContactCRUD.deletePersonalContactIn
  rw [except_map_eq_bind, bind_assoc]
  have hheld := gives_held (c := c) (v := v.dropContacts (deleteFilter v fun u f =>
    u.userUuid = userUuid && f.contactUuid = contactUuid)) fun _ => raiseIf
      ((WazoDird.PersonalContactCRUD.deletePersonalContactsWithFilter v fun u f =>
        u.userUuid = userUuid && f.contactUuid = contactUuid).2 = 0) (.noSuchContact contactUuid)
  rw [except_map_eq_bind] at hheld
  exact hheld

section Does

variable (db : Database) (info : TextInfo)

theorem does_create : (createPersonalContact enc server tenantUuid userUuid info).Does db
    (WazoDird.PersonalContactCRUD.createPersonalContact enc server db tenantUuid userUuid info)
    := by
  rw [WazoDird.PersonalContactCRUD.createPersonalContact, ← closed_eq_newSession]
  exact does_withSession (gives_createPersonalContactsIn.bind fun _ _ _ => gives_pure _)

theorem does_createMany : (createPersonalContacts enc server tenantUuid userUuid infos).Does db
    (WazoDird.PersonalContactCRUD.createPersonalContacts enc server db tenantUuid userUuid infos)
    := by
  rw [WazoDird.PersonalContactCRUD.createPersonalContacts, ← closed_eq_newSession]
  exact does_withSession gives_createPersonalContactsIn

theorem does_delete : (deletePersonalContact userUuid contactUuid).Does db
    (WazoDird.PersonalContactCRUD.deletePersonalContact db userUuid contactUuid) := by
  rw [WazoDird.PersonalContactCRUD.deletePersonalContact, ← closed_eq_newSession]
  have hdelete : (deletePersonalContactIn userUuid contactUuid).Gives db db _ :=
    gives_deletePersonalContactIn
  rw [except_map_eq_bind] at hdelete
  exact does_withSession hdelete

theorem does_deleteAll : (deleteAllPersonalContacts userUuid).Does db
    (WazoDird.PersonalContactCRUD.deleteAllPersonalContacts db userUuid) := by
  rw [WazoDird.PersonalContactCRUD.deleteAllPersonalContacts, ← closed_eq_newSession]
  exact does_withSession (gives_deletePersonalContactsWithFilter _)

theorem does_edit (contactId : String) :
    (editPersonalContact enc server tenantUuid userUuid info contactId).Does db
      (WazoDird.PersonalContactCRUD.editPersonalContact enc server db tenantUuid userUuid contactId
        info) := by
  rw [WazoDird.PersonalContactCRUD.editPersonalContact, ← closed_eq_newSession]
  refine does_withSession (gives_deletePersonalContactIn.bind_map fun v' _ => ?_)
  refine (gives_findExisting _).bind_ok ?_
  dsimp only
  by_cases hthere : (findExistingContactByHash server v' userUuid
      [enc.computeContactHash info.body]).entries ≠ []
  · rw [if_pos hthere, raiseIf, if_pos hthere]
    exact gives_rollback.bind_ok (gives_raise _)
  · rw [if_neg hthere, raiseIf, if_neg hthere]
    exact gives_createPersonalContactsIn.bind fun _ _ _ => gives_pure _

theorem does_get : (getPersonalContact o userUuid contactUuid).Does db
    (WazoDird.PersonalContactCRUD.getPersonalContact o db userUuid contactUuid, db) :=
  (does_query _ db).andThen

theorem does_list (userUuid : Option Uuid) (params : SearchParams) :
    (listPersonalContacts text ou o userUuid params).Does db
      (WazoDird.PersonalContactCRUD.listPersonalContacts text ou o db userUuid params, db) := by
  have hread : (readContacts ou o userUuid).Gives db db (.ok (db, listContactsByUuid o db
      (ou.order ((db.contacts.filter (ofUser userUuid)).map Contact.uuid).dedup))) :=
    (gives_query _).bind_ok (gives_fetchIf _)
  have hlist : WazoDird.PersonalContactCRUD.listPersonalContacts text ou o db userUuid params =
      checkParams params >>= fun _ => sortAndPage text params (listContactsByUuid o db
        (ou.order ((db.contacts.filter (ofUser userUuid)).map Contact.uuid).dedup)) := by
    unfold checkParams
    simp only [bind_assoc]
    rfl
  rw [hlist, listPersonalContacts]
  cases checkParams params with
  | error e => exact Operation.does_fail e
  | ok u => exact (does_withSession hread).andThen

end Does

/-- **While the database is up, an operation on the contacts of users does
what it does to the tables.** -/
theorem does_call (call : Call) (db : Database) :
    (call.run enc server text ou o).Does db (call.done enc server text ou o db) := by
  cases call with
  | create tenantUuid userUuid info => exact does_create db info
  | createMany tenantUuid userUuid infos => exact does_createMany db
  | delete userUuid contactUuid => exact does_delete db
  | deleteAll userUuid => exact does_deleteAll db
  | edit tenantUuid userUuid contactId info => exact does_edit db info contactId
  | get userUuid contactUuid => exact does_get db
  | list userUuid params => exact does_list db userUuid params

end Spec

end Driven.PersonalContactCRUD

end WazoDird
