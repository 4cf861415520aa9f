import WazoDird.Database.Driven.Base
import WazoDird.Database.Queries.PhonebookContactCRUD

/-!
# The operations, call by call: phonebooks and their contacts

`database/queries/phonebook.py`. The contacts of a list are created each
in a savepoint of its own, and what their creation raises is handled
there, or takes the whole list back.
-/

namespace WazoDird

namespace Driven

open Body

namespace PhonebookCRUD

open WazoDird.PhonebookCRUD (getByTenantAndId clash dropPhonebooks moveTenant)

variable (lower : String → String) (o : RowOrder Phonebook) (defaults : PhonebookDefaults)
  (visibleTenants : Option (List Uuid)) (search : Option String) (key : PhonebookKey)
  (tenantUuid : Uuid) (body : PhonebookBody)

/-- The flush of a row, among others. -/
def flushPhonebook (others : Database → List Phonebook) (p : Phonebook)
    (write : Database → Database) (db : Database) :
    Except DirdError (Except IntegrityError (Database × Phonebook)) := do
  takeTexts (p.name :: p.description.toList)
  return if p.name = "" then .error ⟨.checkViolation, none, ""⟩
    else if (others db).any (clash p) then .error ⟨.uniqueViolation, none, ""⟩
    else .ok (write db, p)

/-- The handlers of the flush of a phonebook, of a creation and of an
update. -/
def flushError (refused : DirdError) (e : IntegrityError) : DirdError :=
  if e.pgcode = .uniqueViolation then .duplicatedPhonebook else refused

/-- `count`. -/
def count : Operation Database DirdError ℕ :=
  withSession do
    let p ← held fun _ => phonebookSearchFilter lower visibleTenants search
    fetch fun db => do
      takeTexts search.toList
      return (db.phonebooks.filter p).length

/-- `create`. -/
def create : Operation Database DirdError Phonebook :=
  withSession do
    createTenant tenantUuid
    let phonebook : Phonebook :=
      { id := defaults.id, uuid := defaults.uuid, name := body.name
        description := body.description.getD none, tenantUuid := tenantUuid }
    flushOrRaise (flushPhonebook Database.phonebooks phonebook fun db =>
      { db with phonebooks := db.phonebooks ++ [phonebook] })
      (flushError (.phonebookCreation tenantUuid))

/-- `delete`. The row is deleted by the commit. -/
def delete : Operation Database DirdError Unit :=
  withSession do
    let phonebook ← fetch fun db => getByTenantAndId db visibleTenants key
    access fun db => .ok (dropPhonebooks db (·.uuid = phonebook.uuid), ())

/-- `edit`. -/
def edit : Operation Database DirdError Phonebook :=
  withSession do
    let phonebook ← fetch fun db => getByTenantAndId db visibleTenants key
    let phonebook' :=
      { phonebook with
        name := body.name, description := body.description.getD phonebook.description }
    flushOrRaise (flushPhonebook (fun db => db.phonebooks.filter (·.uuid ≠ phonebook.uuid))
      phonebook' fun db => { db with
        phonebooks := db.phonebooks.map fun b =>
          if b.uuid = phonebook.uuid then phonebook' else b }) (flushError .phonebookUpdate)

/-- `get`. -/
def get : Operation Database DirdError Phonebook :=
  withSession (fetch fun db => getByTenantAndId db visibleTenants key)

/-- `list`. -/
def list : Operation Database DirdError (List Phonebook) :=
  withSession do
    let p ← held fun _ => phonebookSearchFilter lower visibleTenants search
    fetch fun db => do
      takeTexts search.toList
      return o.order (db.phonebooks.filter p)

/-- `update_tenant`. -/
def updateTenant (newUuid : Uuid) : Operation Database DirdError Unit :=
  withSession do
    createTenant newUuid
    match visibleTenants with
    | none => raise .argument
    | some tenants =>
      let found ← query fun db =>
        db.phonebooks.find? fun p => phonebookKeyToFilter key p && p.tenantUuid ∈ tenants
      match found with
      | none => raise .attribute
      | some phonebook => access (moveTenant phonebook newUuid)

/-- A call of an operation on phonebooks. -/
inductive Call where
  | count (visibleTenants : Option (List Uuid)) (search : Option String)
  | create (tenantUuid : Uuid) (body : PhonebookBody)
  | delete (visibleTenants : Option (List Uuid)) (key : PhonebookKey)
  | edit (visibleTenants : Option (List Uuid)) (key : PhonebookKey) (body : PhonebookBody)
  | get (visibleTenants : Option (List Uuid)) (key : PhonebookKey)
  | list (visibleTenants : Option (List Uuid)) (search : Option String)
  | updateTenant (visibleTenants : Option (List Uuid)) (key : PhonebookKey) (newUuid : Uuid)

namespace Call

/-- What it answers. -/
def Answer : Call → Type
  | count .. => ℕ
  | create .. | edit .. | get .. => Phonebook
  | delete .. | updateTenant .. => Unit
  | list .. => List Phonebook

/-- The call, as the accesses it makes. -/
def run : (call : Call) → Operation Database DirdError call.Answer
  | count visibleTenants search => PhonebookCRUD.count lower visibleTenants search
  | create tenantUuid body => PhonebookCRUD.create defaults tenantUuid body
  | delete visibleTenants key => PhonebookCRUD.delete visibleTenants key
  | edit visibleTenants key body => PhonebookCRUD.edit visibleTenants key body
  | get visibleTenants key => PhonebookCRUD.get visibleTenants key
  | list visibleTenants search => PhonebookCRUD.list lower o visibleTenants search
  | updateTenant visibleTenants key newUuid =>
    PhonebookCRUD.updateTenant visibleTenants key newUuid

/-- The call, as what it does to the tables. -/
def done (db : Database) : (call : Call) → Except DirdError call.Answer × Database
  | count visibleTenants search =>
    (WazoDird.PhonebookCRUD.count lower db visibleTenants search, db)
  | create tenantUuid body => WazoDird.PhonebookCRUD.create db defaults tenantUuid body
  | delete visibleTenants key => WazoDird.PhonebookCRUD.delete db visibleTenants key
  | edit visibleTenants key body => WazoDird.PhonebookCRUD.edit db visibleTenants key body
  | get visibleTenants key => (WazoDird.PhonebookCRUD.get db visibleTenants key, db)
  | list visibleTenants search =>
    (WazoDird.PhonebookCRUD.list lower o db visibleTenants search, db)
  | updateTenant visibleTenants key newUuid =>
    WazoDird.PhonebookCRUD.updateTenant db visibleTenants key newUuid

end Call

section Spec

variable {lower : String → String} {o : RowOrder Phonebook} {defaults : PhonebookDefaults}

/-- **Every operation on phonebooks reports an outage.** -/
theorem reports_call (call : Call) : Reports (call.run lower o defaults) := by
  cases call with
  | count | list => exact reports_withSession ((passes_held _).bind fun _ => passes_fetch _)
  | create =>
    exact reports_withSession ((passes_createTenant _).bind fun _ => passes_flushOrRaise _ _)
  | delete => exact reports_withSession ((passes_fetch _).bind fun _ => passes_access _)
  | edit => exact reports_withSession ((passes_fetch _).bind fun _ => passes_flushOrRaise _ _)
  | get => exact reports_withSession (passes_fetch _)
  | updateTenant visibleTenants =>
    refine reports_withSession ((passes_createTenant _).bind fun _ => ?_)
    cases visibleTenants with
    | none => exact passes_raise _
    | some tenants =>
      refine (passes_query _).bind fun found => ?_
      cases found with
      | none => exact passes_raise _
      | some phonebook => exact passes_access _

/-- The flush of a row, and what its handler makes of an integrity
error. -/
theorem gives_flushPhonebook {c v : Database} (refused : DirdError)
    (others : Database → List Phonebook) (p : Phonebook) (write : Database → Database) :
    (flushOrRaise (flushPhonebook others p write) (flushError refused)).Gives c v
      (WazoDird.PhonebookCRUD.flushOrRaise refused (others v) p >>= fun _ =>
        pure (write v, p)) := by
  have hflush := gives_flushOrRaise (c := c) (v := v) (flushPhonebook others p write)
    (flushError refused)
  suffices h : (flushPhonebook others p write v >>= fun r => r.mapError (flushError refused)) =
      WazoDird.PhonebookCRUD.flushOrRaise refused (others v) p >>= fun _ => pure (write v, p) by
    rwa [h] at hflush
  unfold flushPhonebook WazoDird.PhonebookCRUD.flushOrRaise raiseIf
  rw [bind_assoc, bind_assoc]
  congr 1
  funext
  split
  · rfl
  · split <;> rfl

section Does

variable (db : Database) (visibleTenants : Option (List Uuid)) (search : Option String)
  (key : PhonebookKey) (tenantUuid : Uuid) (body : PhonebookBody)

theorem does_count : (count lower visibleTenants search).Does db
    (WazoDird.PhonebookCRUD.count lower db visibleTenants search, db) := by
  unfold count WazoDird.PhonebookCRUD.count
  cases phonebookSearchFilter lower visibleTenants search with
  | error e => exact does_read (Gives.bind_error (gives_held _))
  | ok p => exact does_read ((gives_held _).bind_ok (gives_fetch _))

theorem does_list : (list lower o visibleTenants search).Does db
    (WazoDird.PhonebookCRUD.list lower o db visibleTenants search, db) := by
  unfold list WazoDird.PhonebookCRUD.list
  cases phonebookSearchFilter lower visibleTenants search with
  | error e => exact does_read (Gives.bind_error (gives_held _))
  | ok p => exact does_read ((gives_held _).bind_ok (gives_fetch _))

theorem does_create : (create defaults tenantUuid body).Does db
    (WazoDird.PhonebookCRUD.create db defaults tenantUuid body) := by
  rw [WazoDird.PhonebookCRUD.create, ← closed_eq_newSession]
  exact does_withSession ((gives_createTenant (Or.inl rfl)).bind_ok (gives_flushPhonebook _ _ _ _))

theorem does_delete : (delete visibleTenants key).Does db
    (WazoDird.PhonebookCRUD.delete db visibleTenants key) := by
  rw [WazoDird.PhonebookCRUD.delete, ← closed_eq_newSession]
  exact does_withSession ((gives_fetch _).bind_map fun _ _ => gives_access _)

theorem does_edit : (edit visibleTenants key body).Does db
    (WazoDird.PhonebookCRUD.edit db visibleTenants key body) := by
  rw [WazoDird.PhonebookCRUD.edit, ← closed_eq_newSession]
  refine does_withSession ((gives_fetch _).bind_map fun phonebook _ => ?_)
  exact gives_flushPhonebook _ _ _ _

theorem does_updateTenant (newUuid : Uuid) : (updateTenant visibleTenants key newUuid).Does db
    (WazoDird.PhonebookCRUD.updateTenant db visibleTenants key newUuid) := by
  rw [WazoDird.PhonebookCRUD.updateTenant, ← closed_eq_newSession]
  refine does_withSession ((gives_createTenant (Or.inl rfl)).bind_ok ?_)
  cases visibleTenants with
  | none => exact gives_raise _
  | some tenants =>
    refine (gives_query _).bind_ok ?_
    dsimp only
    cases (db.createTenant newUuid).phonebooks.find? fun p =>
        phonebookKeyToFilter key p && p.tenantUuid ∈ tenants with
    | none => exact gives_raise _
    | some phonebook => exact gives_access _

end Does

/-- **While the database is up, an operation on phonebooks does what it
does to the tables.** -/
theorem does_call (call : Call) (db : Database) :
    (call.run lower o defaults).Does db (call.done lower o defaults db) := by
  cases call with
  | count visibleTenants search => exact does_count db visibleTenants search
  | create tenantUuid body => exact does_create db tenantUuid body
  | delete visibleTenants key => exact does_delete db visibleTenants key
  | edit visibleTenants key body => exact does_edit db visibleTenants key body
  | get => exact does_fetch _ db
  | list visibleTenants search => exact does_list db visibleTenants search
  | updateTenant visibleTenants key newUuid => exact does_updateTenant db visibleTenants key newUuid

end Spec

end PhonebookCRUD

namespace PhonebookContactCRUD

open WazoDird.PhonebookContactCRUD (getPhonebook getContact newContactFilter setContactFields
  queryContacts rawContact WrittenContact)

variable (lower : String → String) (o : RowOrder ContactFields) (enc : Encoding) (server : Server)
  (visibleTenants : Option (List Uuid)) (key : PhonebookKey) (contactUuid : String)
  (body : ContactBody) (search : Option String)

/-- The flush of the `i`th contact of the session. It answers the uuid. -/
def flushContact (i : ℕ) (phonebookUuid : Uuid) (hash : String) (db : Database) :
    Except DirdError (Except IntegrityError (Database × Uuid)) :=
  let contact : Contact :=
    { uuid := server.newUuid (db.contacts.map Contact.uuid)
      phonebookUuid := some phonebookUuid, hash := hash }
  if db.contacts.any contact.clash then .ok (.error ⟨.uniqueViolation, none, ""⟩)
  else (flushFault (server.contactFault i)).map fun r =>
    r.map fun _ => ({ db with contacts := db.contacts ++ [contact] }, contact.uuid)

/-- The flush of the rows of the `i`th contact. -/
def flushFields (i : ℕ) (uuid : Uuid) (write : List ContactFields → Database → Database)
    (db : Database) : Except DirdError (Except IntegrityError (Database × Unit)) := do
  let fields ← setContactFields enc uuid body
  (flushFault (server.fieldsFault i)).map fun r => r.map fun u => (write fields db, u)

/-- The handler of both flushes of `_create_one`. -/
def creationError (hash : String) (tenantUuid phonebookUuid : Uuid) (e : IntegrityError) :
    DirdError :=
  if e.pgcode = .uniqueViolation then .duplicatedContact
  else .contactCreation e.pgerror hash tenantUuid (.uuid phonebookUuid)

/-- `_create_one`. The rows there were are loaded to be replaced. -/
def createOne (i : ℕ) (tenantUuid phonebookUuid : Uuid) :
    Body Database DirdError WrittenContact := do
  let hash := enc.computeContactHash body
  let phonebook ← fetch fun db => getPhonebook db (some [tenantUuid]) (.uuid phonebookUuid)
  let uuid ← flushOrRaise (flushContact server i phonebook.uuid hash)
    (creationError hash tenantUuid phonebookUuid)
  held fun _ => raiseIf (uuid = "") .assertion
  load
  flushOrRaise (flushFields enc server body i uuid fun fields db =>
    { db with contactFields := db.contactFields ++ fields })
    (creationError hash tenantUuid phonebookUuid)
  return ⟨uuid, body⟩

/-- `create`. -/
def create : Operation Database DirdError WrittenContact :=
  withSession do
    let phonebook ← fetch fun db => getPhonebook db visibleTenants key
    createOne enc server body 0 phonebook.tenantUuid phonebook.uuid

/-- What `create_many` has done: the contacts created, and the errors. -/
abbrev Done := List WrittenContact × List ContactEntryError

/-- The creation of a contact of a list, in its savepoint. -/
def createKept (tenantUuid phonebookUuid : Uuid) (s : Done) (entry : ContactBody × ℕ) :
    Body Database DirdError Done := do
  let contact ← nested (createOne enc server entry.1 entry.2 tenantUuid phonebookUuid)
  return (s.1 ++ [contact], s.2)

/-- The handlers of a turn of `create_many`. -/
def createHandler (s : Done) (entry : ContactBody × ℕ) :
    DirdError → Option (Body Database DirdError Done)
  | .duplicatedContact => some (pure s)
  | .contactCreation message _ _ _ =>
    some (pure (s.1, s.2 ++ [⟨rawContact entry.1, message, entry.2⟩]))
  | _ => none

/-- One turn of the loop of `create_many`. -/
def createNext (tenantUuid phonebookUuid : Uuid) (s : Done) (entry : ContactBody × ℕ) :
    Body Database DirdError Done :=
  tryExcept (createKept enc server tenantUuid phonebookUuid s entry) (createHandler s entry)

/-- `create_many`. -/
def createMany (bodies : List ContactBody) : Operation Database DirdError Done :=
  withSession do
    let phonebook ← fetch fun db => getPhonebook db visibleTenants key
    let s ← bodies.zipIdx.foldlM (createNext enc server phonebook.tenantUuid phonebook.uuid)
      ([], [])
    held fun _ => raiseIf (s.2 ≠ []) (.contactsCreation "Failed to create contacts" s.2)
    return s

/-- `delete`. The row is deleted by the commit. -/
def delete : Operation Database DirdError Unit :=
  withSession do
    let phonebook ← fetch fun db => getPhonebook db visibleTenants key
    let contact ← fetch fun db =>
      getContact db phonebook.tenantUuid phonebook.uuid contactUuid
    access fun db => .ok (db.dropContacts (·.uuid = contact.uuid), ())

/-- The flush of the hash of a contact. -/
def flushHash (contact contact' : Contact) (db : Database) :
    Except DirdError (Except IntegrityError (Database × Unit)) :=
  if (db.contacts.filter (·.uuid ≠ contact.uuid)).any contact'.clash then
    .ok (.error ⟨.uniqueViolation, none, ""⟩)
  else (flushFault (server.contactFault 0)).map fun r => r.map fun u =>
    ({ db with
      contacts := db.contacts.map fun c => if c.uuid = contact.uuid then contact' else c }, u)

/-- The handler of the flush of `edit`. -/
def updateError (hash : String) (e : IntegrityError) : DirdError :=
  if e.pgcode = .uniqueViolation then .duplicatedContact else .contactUpdate e.pgerror hash

/-- `edit`. The rows are flushed by the commit, where no error is
handled. -/
def edit : Operation Database DirdError WrittenContact :=
  withSession do
    let hash := enc.computeContactHash body
    let phonebook ← fetch fun db => getPhonebook db visibleTenants key
    let contact ← fetch fun db =>
      getContact db phonebook.tenantUuid phonebook.uuid contactUuid
    flushOrRaise (flushHash server contact { contact with hash := hash }) (updateError hash)
    held fun _ => raiseIf (contact.uuid = "") .assertion
    flushOrRaise (flushFields enc server body 0 contact.uuid fun fields db =>
      { db with
        contactFields := db.contactFields.filter (·.contactUuid ≠ contact.uuid) ++ fields })
      fun _ => .integrity
    return ⟨contact.uuid, body⟩

/-- `get`. -/
def get : Operation Database DirdError ContactInfo :=
  withSession do
    let phonebook ← fetch fun db => getPhonebook db visibleTenants key
    let fields ← query fun db => o.order <| db.contactFields.filter fun f =>
      db.contacts.any fun c => c.uuid = f.contactUuid &&
        newContactFilter db phonebook.tenantUuid phonebook.uuid contactUuid c
    held fun _ => do
      raiseIf (fields = []) (.noSuchContact contactUuid)
      let contactInfo : ContactInfo := Dict.ofList (fields.map fun f => (f.name, f.value))
      raiseIf ((contactInfo.get? "id").isNone) .assertion
      return contactInfo

/-- `count`. -/
def count : Operation Database DirdError ℕ :=
  withSession do
    let phonebook ← fetch fun db => getPhonebook db visibleTenants key
    fetch fun db => do
      takeTexts search.toList
      return ((db.contacts.filter (queryContacts lower db phonebook.uuid search)).map
        Contact.uuid).dedup.length

/-- `list`. -/
def list : Operation Database DirdError (List ContactInfo) :=
  withSession do
    let phonebook ← fetch fun db => getPhonebook db visibleTenants key
    let fields ← fetch fun db => do
      takeTexts search.toList
      return o.order <| db.contactFields.filter fun f => db.contacts.any fun c =>
        c.uuid = f.contactUuid && queryContacts lower db phonebook.uuid search c
    return (fields.foldl (readRow fun _ => ∅) ∅).values

/-- A call of an operation on the contacts of a phonebook. -/
inductive Call where
  | count (visibleTenants : Option (List Uuid)) (key : PhonebookKey) (search : Option String)
  | create (visibleTenants : Option (List Uuid)) (key : PhonebookKey) (body : ContactBody)
  | createMany (visibleTenants : Option (List Uuid)) (key : PhonebookKey)
    (bodies : List ContactBody)
  | delete (visibleTenants : Option (List Uuid)) (key : PhonebookKey) (contactUuid : String)
  | edit (visibleTenants : Option (List Uuid)) (key : PhonebookKey) (contactUuid : String)
    (body : ContactBody)
  | get (visibleTenants : Option (List Uuid)) (key : PhonebookKey) (contactUuid : String)
  | list (visibleTenants : Option (List Uuid)) (key : PhonebookKey) (search : Option String)

namespace Call

/-- What it answers. -/
def Answer : Call → Type
  | count .. => ℕ
  | create .. | edit .. => WrittenContact
  | createMany .. => Done
  | delete .. => Unit
  | get .. => ContactInfo
  | list .. => List ContactInfo

/-- The call, as the accesses it makes. -/
def run : (call : Call) → Operation Database DirdError call.Answer
  | count visibleTenants key search => PhonebookContactCRUD.count lower visibleTenants key search
  | create visibleTenants key body =>
    PhonebookContactCRUD.create enc server visibleTenants key body
  | createMany visibleTenants key bodies =>
    PhonebookContactCRUD.createMany enc server visibleTenants key bodies
  | delete visibleTenants key contactUuid =>
    PhonebookContactCRUD.delete visibleTenants key contactUuid
  | edit visibleTenants key contactUuid body =>
    PhonebookContactCRUD.edit enc server visibleTenants key contactUuid body
  | get visibleTenants key contactUuid =>
    PhonebookContactCRUD.get o visibleTenants key contactUuid
  | list visibleTenants key search =>
    PhonebookContactCRUD.list lower o visibleTenants key search

/-- The call, as what it does to the tables. -/
def done (db : Database) : (call : Call) → Except DirdError call.Answer × Database
  | count visibleTenants key search =>
    (WazoDird.PhonebookContactCRUD.count lower db visibleTenants key search, db)
  | create visibleTenants key body =>
    WazoDird.PhonebookContactCRUD.create enc server db visibleTenants key body
  | createMany visibleTenants key bodies =>
    WazoDird.PhonebookContactCRUD.createMany enc server db visibleTenants key bodies
  | delete visibleTenants key contactUuid =>
    WazoDird.PhonebookContactCRUD.delete db visibleTenants key contactUuid
  | edit visibleTenants key contactUuid body =>
    WazoDird.PhonebookContactCRUD.edit enc server db visibleTenants key contactUuid body
  | get visibleTenants key contactUuid =>
    (WazoDird.PhonebookContactCRUD.get o db visibleTenants key contactUuid, db)
  | list visibleTenants key search =>
    (WazoDird.PhonebookContactCRUD.list lower o db visibleTenants key search, db)

end Call

section Spec

variable {lower : String → String} {o : RowOrder ContactFields} {enc : Encoding} {server : Server}
  {body : ContactBody} {tenantUuid phonebookUuid : Uuid} {i : ℕ}

theorem passes_createOne : (createOne enc server body i tenantUuid phonebookUuid).Passes :=
  (passes_fetch _).bind fun _ => (passes_flushOrRaise _ _).bind fun _ =>
    (passes_held _).bind fun _ => passes_load.bind fun _ =>
      (passes_flushOrRaise _ _).bind fun _ => passes_pure _

/-- **A turn of the loop passes an outage**: it is none of the errors its
handlers take. -/
theorem passes_createNext (s : Done) (entry : ContactBody × ℕ) :
    (createNext enc server tenantUuid phonebookUuid s entry).Passes := by
  refine Passes.tryExcept (passes_createOne.nested.bind fun _ => passes_pure _) fun e q hq => ?_
  unfold createHandler at hq
  split at hq
  · cases hq
    exact passes_pure _
  · cases hq
    exact passes_pure _
  · cases hq

/-- **Every operation on the contacts of a phonebook reports an outage.** -/
theorem reports_call (call : Call) : Reports (call.run lower o enc server) := by
  cases call with
  | count => exact reports_withSession ((passes_fetch _).bind fun _ => passes_fetch _)
  | create => exact reports_withSession ((passes_fetch _).bind fun _ => passes_createOne)
  | createMany =>
    exact reports_withSession <| (passes_fetch _).bind fun _ =>
      (passes_foldlM passes_createNext _ _).bind fun _ => (passes_held _).bind fun _ =>
        passes_pure _
  | delete =>
    exact reports_withSession <| (passes_fetch _).bind fun _ => (passes_fetch _).bind fun _ =>
      passes_access _
  | edit =>
    exact reports_withSession <| (passes_fetch _).bind fun _ => (passes_fetch _).bind fun _ =>
      (passes_flushOrRaise _ _).bind fun _ => (passes_held _).bind fun _ =>
        (passes_flushOrRaise _ _).bind fun _ => passes_pure _
  | get =>
    exact reports_withSession <| (passes_fetch _).bind fun _ => (passes_query _).bind fun _ =>
      passes_held _
  | list =>
    exact reports_withSession <| (passes_fetch _).bind fun _ => (passes_fetch _).bind fun _ =>
      passes_pure _

/-! ### While the database is up -/

variable {c v : Database}

/-- What a handler makes of the fault of a flush. -/
theorem flushFault_mapError {α : Type} (fault : Option FlushFault) (g : Unit → α)
    (handler : IntegrityError → DirdError) :
    ((flushFault fault).map fun r => r.map g) >>= (fun r => r.mapError handler) =
      (raiseFault fault fun pgerror => handler ⟨.other, none, pgerror⟩).map g := by
  rcases fault with _ | fault
  · rfl
  · cases fault <;> rfl

/-- The flush of a contact, and what its handler makes of an integrity
error. -/
theorem gives_flushContact (hash : String) (uuid : Uuid) :
    (flushOrRaise (flushContact server i uuid hash)
      (creationError hash tenantUuid phonebookUuid)).Gives c v
      ((do
        raiseIf (v.contacts.any (Contact.clash
          { uuid := server.newUuid (v.contacts.map Contact.uuid)
            phonebookUuid := some uuid, hash := hash })) .duplicatedContact
        raiseFault (server.contactFault i) fun pgerror =>
          .contactCreation pgerror hash tenantUuid (.uuid phonebookUuid)).map fun _ =>
        ({ v with
          contacts := v.contacts ++ [
            ({ uuid := server.newUuid (v.contacts.map Contact.uuid)
               phonebookUuid := some uuid, hash := hash } : Contact)] },
          server.newUuid (v.contacts.map Contact.uuid))) := by
  have hflush := gives_flushOrRaise (c := c) (v := v) (flushContact server i uuid hash)
    (creationError hash tenantUuid phonebookUuid)
  unfold flushContact at hflush
  dsimp only at hflush
  split at hflush
  · next hclash =>
    rw [raiseIf, if_pos hclash]
    exact hflush
  · next hclash =>
    rw [raiseIf, if_neg hclash]
    rw [flushFault_mapError] at hflush
    exact hflush

/-- The flush of the rows of a contact, and what comes after it. -/
theorem gives_flushFields_bind {β : Type} {uuid : Uuid}
    {write : List ContactFields → Database → Database} {handler : IntegrityError → DirdError}
    {f : Unit → Body Database DirdError β}
    {k : List ContactFields → Except DirdError (Database × β)}
    (hf : ∀ fields, (f ()).Gives c (write fields v) (k fields)) :
    (flushOrRaise (flushFields enc server body i uuid write) handler >>= f).Gives c v (do
      let fields ← setContactFields enc uuid body
      raiseFault (server.fieldsFault i) fun pgerror => handler ⟨.other, none, pgerror⟩
      k fields) := by
  have hflush := gives_flushOrRaise (c := c) (v := v) (flushFields enc server body i uuid write)
    handler
  have hflushed : flushFields enc server body i uuid write v =
      setContactFields enc uuid body >>= fun fields =>
        (flushFault (server.fieldsFault i)).map fun r => r.map fun u => (write fields v, u) := rfl
  rw [hflushed] at hflush
  cases hfields : setContactFields enc uuid body with
  | error e =>
    rw [hfields] at hflush
    exact hflush.bind_error
  | ok fields =>
    have hfault := flushFault_mapError (server.fieldsFault i) (fun u => (write fields v, u)) handler
    rw [hfields] at hflush
    have hgives := hfault ▸ hflush
    exact hgives.bind_map fun _ _ => hf fields

/-- **One contact of a phonebook.** -/
theorem gives_createOne : (createOne enc server body i tenantUuid phonebookUuid).Gives c v
    (WazoDird.PhonebookContactCRUD.createOne enc server v i tenantUuid phonebookUuid body) := by
  unfold createOne WazoDird.PhonebookContactCRUD.createOne
  refine (gives_fetch _).bind_map fun phonebook _ => ?_
  dsimp only
  rw [← bind_assoc]
  refine (gives_flushContact _ _).bind_map fun _ _ => ?_
  refine (gives_held _).bind_map fun _ _ => ?_
  refine gives_load.bind_ok ?_
  exact gives_flushFields_bind fun _ => gives_pure _

/-- What the loop of `create_many` has done, as it goes on. -/
def doneOf (s : WazoDird.PhonebookContactCRUD.Created) : Done := (s.good, s.errors)

/-- **A turn of the loop**: the contact is created, passed over or noted, or
what its creation raises is raised. -/
theorem gives_createNext (s : WazoDird.PhonebookContactCRUD.Created) (entry : ContactBody × ℕ) :
    (createNext enc server tenantUuid phonebookUuid (doneOf s) entry).Gives c s.db
      ((WazoDird.PhonebookContactCRUD.createNext enc server tenantUuid phonebookUuid s entry).map
        fun s' => (s'.db, doneOf s')) := by
  obtain ⟨body, i⟩ := entry
  have hone : (createOne enc server body i tenantUuid phonebookUuid).Gives c s.db
      (WazoDird.PhonebookContactCRUD.createOne enc server s.db i tenantUuid phonebookUuid body) :=
    gives_createOne
  unfold WazoDird.PhonebookContactCRUD.createNext
  dsimp only
  cases hmade : WazoDird.PhonebookContactCRUD.createOne enc server s.db i tenantUuid
      phonebookUuid body with
  | ok made =>
    rw [hmade] at hone
    have hkept : Gives (createKept enc server tenantUuid phonebookUuid (doneOf s) (body, i)) c s.db
        (.ok (made.1, (s.good ++ [made.2], s.errors))) :=
      hone.nested.bind_ok (gives_pure _)
    exact hkept.tryExcept nofun
  | error e =>
    rw [hmade] at hone
    have hraise : Runs (createKept enc server tenantUuid phonebookUuid (doneOf s) (body, i)) c s.db
        (.error e) s.db :=
      hone.nested_error.bind_error
    cases e with
    | duplicatedContact => exact hraise.tryExcept rfl (gives_pure _)
    | contactCreation message hash tenantUuid key => exact hraise.tryExcept rfl (gives_pure _)
    | _ =>
      have hgives : Gives (createKept enc server tenantUuid phonebookUuid (doneOf s) (body, i)) c
          s.db (.error _) := ⟨s.db, hraise⟩
      exact hgives.tryExcept fun e h => by cases h; rfl

section Does

variable (db : Database) (visibleTenants : Option (List Uuid)) (key : PhonebookKey)
  (contactUuid : String) (search : Option String)

theorem does_create : (create enc server visibleTenants key body).Does db
    (WazoDird.PhonebookContactCRUD.create enc server db visibleTenants key body) := by
  rw [WazoDird.PhonebookContactCRUD.create, ← closed_eq_newSession]
  exact does_withSession ((gives_fetch _).bind_map fun _ _ => gives_createOne)

theorem does_createMany (bodies : List ContactBody) :
    (createMany enc server visibleTenants key bodies).Does db
      (WazoDird.PhonebookContactCRUD.createMany enc server db visibleTenants key bodies) := by
  rw [WazoDird.PhonebookContactCRUD.createMany, ← closed_eq_newSession]
  refine does_withSession ((gives_fetch _).bind_map fun phonebook _ => ?_)
  refine Gives.bind_map (gives_foldlM gives_createNext bodies.zipIdx { db := db }) fun s _ => ?_
  refine (gives_held _).bind_map fun _ _ => ?_
  exact gives_pure (doneOf s)

theorem does_delete : (delete visibleTenants key contactUuid).Does db
    (WazoDird.PhonebookContactCRUD.delete db visibleTenants key contactUuid) := by
  rw [WazoDird.PhonebookContactCRUD.delete, ← closed_eq_newSession]
  refine does_withSession ((gives_fetch _).bind_map fun phonebook _ => ?_)
  exact (gives_fetch _).bind_map fun _ _ => gives_access _

/-- The flush of the hash of a contact, and what its handler makes of an
integrity error. -/
theorem gives_flushHash (contact contact' : Contact) (hash : String) :
    (flushOrRaise (flushHash server contact contact') (updateError hash)).Gives c v
      ((do
        raiseIf ((v.contacts.filter fun other : Contact => other.uuid ≠ contact.uuid).any
          contact'.clash) .duplicatedContact
        raiseFault (server.contactFault 0) fun pgerror => .contactUpdate pgerror hash).map fun u =>
        ({ v with
          contacts := v.contacts.map fun other : Contact =>
            if other.uuid = contact.uuid then contact' else other }, u)) := by
  have hflush := gives_flushOrRaise (c := c) (v := v) (flushHash server contact contact')
    (updateError hash)
  unfold flushHash at hflush
  split at hflush
  · next hclash =>
    rw [raiseIf, if_pos hclash]
    exact hflush
  · next hclash =>
    rw [raiseIf, if_neg hclash]
    rw [flushFault_mapError] at hflush
    exact hflush

theorem does_edit : (edit enc server visibleTenants key contactUuid body).Does db
    (WazoDird.PhonebookContactCRUD.edit enc server db visibleTenants key contactUuid body) := by
  rw [WazoDird.PhonebookContactCRUD.edit, ← closed_eq_newSession]
  refine does_withSession ((gives_fetch _).bind_map fun phonebook _ => ?_)
  refine (gives_fetch _).bind_map fun contact _ => ?_
  dsimp only
  rw [← bind_assoc (m := Except DirdError)]
  refine (gives_flushHash _ _ _).bind_map fun _ _ => ?_
  refine (gives_held _).bind_map fun _ _ => ?_
  exact gives_flushFields_bind fun _ => gives_pure _

theorem does_get : (get o visibleTenants key contactUuid).Does db
    (WazoDird.PhonebookContactCRUD.get o db visibleTenants key contactUuid, db) := by
  refine does_read ?_
  unfold WazoDird.PhonebookContactCRUD.get
  rw [except_map_eq_bind, bind_assoc]
  refine (gives_fetch _).bind_map fun phonebook _ => ?_
  refine (gives_query _).bind_ok ?_
  rw [← except_map_eq_bind]
  exact gives_held _

theorem does_count : (count lower visibleTenants key search).Does db
    (WazoDird.PhonebookContactCRUD.count lower db visibleTenants key search, db) := by
  refine does_read ?_
  unfold WazoDird.PhonebookContactCRUD.count
  rw [except_map_eq_bind, bind_assoc]
  exact (gives_fetch _).bind_map fun phonebook _ => gives_fetch _

theorem does_list : (list lower o visibleTenants key search).Does db
    (WazoDird.PhonebookContactCRUD.list lower o db visibleTenants key search, db) := by
  refine does_read ?_
  unfold WazoDird.PhonebookContactCRUD.list
  rw [except_map_eq_bind, bind_assoc]
  refine (gives_fetch _).bind_map fun phonebook _ => ?_
  generalize takeTexts search.toList = taken
  cases taken with
  | error e => exact Gives.bind_error (gives_fetch _)
  | ok u => exact (gives_fetch _).bind_ok (gives_pure _)

end Does

/-- **While the database is up, an operation on the contacts of a phonebook
does what it does to the tables.** -/
theorem does_call (call : Call) (db : Database) :
    (call.run lower o enc server).Does db (call.done lower o enc server db) := by
  cases call with
  | count visibleTenants key search => exact does_count db visibleTenants key search
  | create visibleTenants key body => exact does_create db visibleTenants key
  | createMany visibleTenants key bodies => exact does_createMany db visibleTenants key bodies
  | delete visibleTenants key contactUuid => exact does_delete db visibleTenants key contactUuid
  | edit visibleTenants key contactUuid body => exact does_edit db visibleTenants key contactUuid
  | get visibleTenants key contactUuid => exact does_get db visibleTenants key contactUuid
  | list visibleTenants key search => exact does_list db visibleTenants key search

end Spec

end PhonebookContactCRUD

end Driven

end WazoDird
