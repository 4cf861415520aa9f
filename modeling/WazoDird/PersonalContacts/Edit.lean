import WazoDird.PersonalContacts.Returned

/-!
# Editing a contact

`edit_personal_contact` deletes the contact, looks for another of the same
fields, and creates it again under its id, all in one session. In every
state a run can reach what it does is one of four things, by what the
store and the body are (`EditsAtomically`): it raises and leaves the store
as it was, or it puts the new rows in place of the old ones and touches
nothing else.
-/

namespace WazoDird

open PersonalContactCRUD

namespace PersonalContacts

/-! ## What every contact of a run has -/

/-- **Each contact of a user is of a user there is**, and has a uuid, which
the driver takes. -/
structure Sound (db : Database) : Prop where
  housed : ∀ c ∈ db.contacts, ∀ u, c.userUuid = some u → db.hasUser u = true
  named : ∀ c ∈ db.contacts, c.userUuid.isSome → c.uuid ≠ "" ∧ '\x00' ∉ c.uuid.toList

/-- One call, under a server none of whose uuids is empty. -/
def Called (enc : Encoding) (db : Database) (call : Call) (db' : Database) : Prop :=
  ∃ server : PersonalServer, (∀ uuids, server.newUuid uuids ≠ "") ∧ db' = call.run enc server db

variable {enc : Encoding} {server : PersonalServer} {db db' db₀ : Database} {call : Call}
  {calls : List Call} {tenantUuid userUuid : Uuid} {contactId : String} {info : TextInfo}

/-- No contact of a user is there where a run starts. -/
theorem Start.sound (h : Start db) : Sound db where
  housed c hc u hu := by
    rw [h.impersonal c hc] at hu
    cases hu
  named c hc hu := by
    rw [h.impersonal c hc] at hu
    cases hu

/-- What a column keeps of a text that is not empty. -/
theorem ne_empty_of_stringColumn {a b : String} (h : stringColumn 38 a = .ok b) (hne : a ≠ "") :
    b ≠ "" := by
  rw [stringColumn] at h
  split at h
  · cases h
    intro hnil
    have htake : a.toList.take 38 = [] := by
      rw [← String.toList_ofList (l := a.toList.take 38), hnil]
      rfl
    have ha : a.toList = [] := (List.take_eq_nil_iff.1 htake).resolve_left (by decide)
    exact hne (String.toList_inj.1 ha)
  · cases h

/-- What a column keeps of a text is of its characters. -/
theorem mem_of_stringColumn {a b : String} {n : ℕ} (h : stringColumn n a = .ok b) {c : Char}
    (hc : c ∈ b.toList) : c ∈ a.toList := by
  rw [stringColumn] at h
  split at h
  · cases h
    rw [String.toList_ofList] at hc
    exact List.mem_of_mem_take hc
  · cases h

/-- **A turn of the loop adds a sound contact** of a user there is. -/
theorem Sound.addContact {s s' : Added} {entry : (String × TextInfo) × ℕ}
    (hserver : ∀ uuids, server.newUuid uuids ≠ "") (h : Sound s.db)
    (huser : s.db.hasUser userUuid = true)
    (hadd : PersonalContactCRUD.addContact enc server userUuid s entry = .ok s') :
    Sound s'.db ∧ s'.db.hasUser userUuid = true := by
  obtain ⟨⟨hash, info⟩, i⟩ := entry
  obtain ⟨row, hrow, hadd⟩ := bind_eq_ok.1 hadd
  obtain ⟨⟨⟩, -, hadd⟩ := bind_eq_ok.1 hadd
  obtain ⟨⟨⟩, -, hadd⟩ := bind_eq_ok.1 hadd
  obtain ⟨fields, hfields, hadd⟩ := bind_eq_ok.1 hadd
  obtain ⟨⟨⟩, -, hadd⟩ := bind_eq_ok.1 hadd
  cases hadd
  have hgiven : ((info.get? "id").filter (· ≠ "")).getD
      (server.newUuid (s.db.contacts.map Contact.uuid)) ≠ "" := by
    cases hown : (info.get? "id").filter (· ≠ "") with
    | none => exact hserver _
    | some id => exact of_decide_eq_true (Option.filter_eq_some_iff.1 hown).2
  -- the id written is kept as the uuid of the row
  have hkept : stringColumn 38 (((info.get? "id").filter (· ≠ "")).getD row) = .ok row := by
    cases hown : (info.get? "id").filter (· ≠ "") with
    | none => exact stringColumn_of_length_le (length_of_stringColumn hrow)
    | some id =>
      rw [hown] at hrow
      exact hrow
  have hnull := (noNull_set_iff.1 ((exists_contactFields_iff hkept).1 ⟨fields, hfields⟩)).2
  refine ⟨⟨fun c hc u hu => ?_, fun c hc hu => ?_⟩, huser⟩
  · rcases List.mem_append.1 hc with hc | hc
    · exact h.housed c hc u hu
    · obtain rfl := List.mem_singleton.1 hc
      obtain rfl := Option.some.inj hu
      exact huser
  · rcases List.mem_append.1 hc with hc | hc
    · exact h.named c hc hu
    · obtain rfl := List.mem_singleton.1 hc
      exact ⟨ne_empty_of_stringColumn hrow hgiven,
        fun hin => hnull (mem_of_stringColumn hkept hin)⟩

/-- The user made, or found: no contact changes, and no user goes. -/
theorem Sound.getDirdUser (h : Sound db) : Sound (db.getDirdUser tenantUuid userUuid) := by
  obtain ⟨hcontacts, -⟩ := getDirdUser_contacts db tenantUuid userUuid
  refine ⟨fun c hc u hu => ?_, by rw [hcontacts]; exact h.named⟩
  have hhas := h.housed c (hcontacts ▸ hc) u hu
  have hcreate : (db.createTenant tenantUuid).users = db.users := by
    unfold Database.createTenant
    split <;> rfl
  unfold Database.getDirdUser
  split
  · rwa [Database.hasUser, hcreate]
  · simp only [Database.hasUser, List.any_append, hcreate, Bool.or_eq_true] at hhas ⊢
    exact Or.inl hhas

/-- **Contacts created are sound.** -/
theorem Sound.create {infos infos' : List TextInfo} {failOnDuplicate : Bool}
    (hserver : ∀ uuids, server.newUuid uuids ≠ "") (h : Sound db)
    (hcreate : createPersonalContactsIn enc server db tenantUuid userUuid infos failOnDuplicate =
      .ok (db', infos')) : Sound db' := by
  obtain ⟨⟨⟩, -, hcreate⟩ := bind_eq_ok.1 hcreate
  obtain ⟨s, hloop, hcreate⟩ := bind_eq_ok.1 hcreate
  cases hcreate
  refine (foldlM_preserves (I := fun s : Added => Sound s.db ∧ s.db.hasUser userUuid = true)
    (fun hI hadd => hI.1.addContact hserver hI.2 hadd) ⟨h.getDirdUser, ?_⟩ hloop).1
  exact PersonalImport.hasUser_getDirdUser

/-- Contacts dropped leave sound ones. -/
theorem Sound.dropContacts (h : Sound db) (p : Contact → Bool) : Sound (db.dropContacts p) :=
  ⟨fun c hc => h.housed c (List.mem_filter.1 hc).1, fun c hc => h.named c (List.mem_filter.1 hc).1⟩

/-- What a deletion leaves, when it finds a contact. -/
theorem eq_of_deletePersonalContactIn
    (h : deletePersonalContactIn db userUuid contactId = .ok db') : ∃ p, db' = db.dropContacts p := by
  obtain ⟨⟨⟩, -, h⟩ := bind_eq_ok.1 h
  cases h
  exact ⟨_, rfl⟩

/-- **A call leaves sound contacts.** -/
theorem Sound.called (h : Sound db) (hcall : Called enc db call db') : Sound db' := by
  obtain ⟨server, hserver, rfl⟩ := hcall
  -- a session that raises leaves the database as it was
  have hsession : ∀ {α : Type} {body : Except DirdError (Database × α)},
      (∀ db' a, body = .ok (db', a) → Sound db') → Sound (newSession db body).2 := by
    intro α body hbody
    rcases newSession_snd (Prod.eta (newSession db body)).symm with ⟨e, -, hdb⟩ | ⟨a, -, hok⟩
    · rw [hdb]
      exact h
    · exact hbody _ _ hok
  cases call with
  | create tenantUuid userUuid info =>
    refine hsession fun db' a hok => ?_
    obtain ⟨⟨db₁, infos⟩, hcreate, hok⟩ := bind_eq_ok.1 hok
    cases hok
    exact h.create hserver hcreate
  | createMany => exact hsession fun db' a hok => h.create hserver hok
  | edit tenantUuid userUuid contactId info =>
    refine hsession fun db' a hok => ?_
    obtain ⟨db₁, hdelete, hok⟩ := bind_eq_ok.1 hok
    obtain ⟨⟨⟩, -, hok⟩ := bind_eq_ok.1 hok
    obtain ⟨⟨db₂, infos⟩, hcreate, hok⟩ := bind_eq_ok.1 hok
    cases hok
    obtain ⟨p, rfl⟩ := eq_of_deletePersonalContactIn hdelete
    exact (h.dropContacts p).create hserver hcreate
  | delete userUuid contactUuid =>
    refine hsession fun db' a hok => ?_
    obtain ⟨db₁, hdelete, hok⟩ := bind_eq_ok.1 hok
    cases hok
    obtain ⟨p, rfl⟩ := eq_of_deletePersonalContactIn hdelete
    exact h.dropContacts p
  | deleteAll userUuid => exact h.dropContacts _

/-- **Every run keeps the contacts sound**, and the invariant. -/
theorem sound_of_run (hs : Start db₀) (hrun : Run (Called enc) db₀ calls db) :
    Kept enc (fun _ => True) db ∧ Sound db := by
  refine hrun.invariant (I := fun db => Kept enc (fun _ => True) db ∧ Sound db)
    ⟨hs.kept, hs.sound⟩ ?_
  rintro db call db' ⟨hkept, hsound⟩ hcall
  refine ⟨?_, hsound.called hcall⟩
  obtain ⟨server, -, hdb⟩ := hcall
  exact (hkept.step (fun _ _ => trivial) (fun _ _ _ _ => trivial) ⟨server, hdb⟩).1

/-! ## What an edition does -/

/-- The contact is the user's. -/
def Owns (db : Database) (userUuid : Uuid) (contactId : String) : Prop :=
  ∃ c ∈ db.contacts, c.uuid = contactId ∧ c.userUuid = some userUuid

/-- Another contact of the user has the hash of these fields. -/
def HasFields (enc : Encoding) (db : Database) (userUuid : Uuid) (contactId : String)
    (info : TextInfo) : Prop :=
  ∃ d ∈ db.contacts, d.uuid ≠ contactId ∧ d.userUuid = some userUuid ∧
    d.hash = enc.computeContactHash info.body

/-- The driver and the server take the rows: no name or text but the id has
a null character, and neither flush fails. -/
structure Takes (server : PersonalServer) (info : TextInfo) : Prop where
  noNull : ∀ e ∈ info.entries, e.1 ≠ "id" → '\x00' ∉ e.1.toList ∧ '\x00' ∉ e.2.toList
  contactFault : server.contactFault 0 = none
  fieldsFault : server.fieldsFault 0 = none

/-- **The database with one contact edited**: in place of it and its rows
are one with the hash of the new fields and one row for each of them, the id
among them. No other contact or row changes, and of the other tables only
that of the tenants may have one more. -/
def edited (enc : Encoding) (db : Database) (tenantUuid userUuid : Uuid) (contactId : String)
    (info : TextInfo) : Database :=
  { db.createTenant tenantUuid with
    contacts := db.contacts.filter (·.uuid ≠ contactId) ++
      [{ uuid := contactId, userUuid := some userUuid, hash := enc.computeContactHash info.body }]
    contactFields := db.contactFields.filter (·.contactUuid ≠ contactId) ++
      (info.set "id" contactId).entries.map fun e => ⟨contactId, e.1, some e.2⟩ }

/-- **An edition replaces the contact, or raises and changes nothing.** It
raises where the user has no such contact, where another contact of the
user has these fields, and where the rows are not taken. -/
structure EditsAtomically (enc : Encoding) (server : PersonalServer) (db : Database)
    (tenantUuid userUuid : Uuid) (contactId : String) (info : TextInfo) : Prop where
  noSuchContact : ¬ Owns db userUuid contactId →
    ∃ e, editPersonalContact enc server db tenantUuid userUuid contactId info = (.error e, db) ∧
      ('\x00' ∉ contactId.toList → e = .noSuchContact contactId)
  duplicated : Owns db userUuid contactId → HasFields enc db userUuid contactId info →
    editPersonalContact enc server db tenantUuid userUuid contactId info =
      (.error .duplicatedContact, db)
  refused : Owns db userUuid contactId → ¬ HasFields enc db userUuid contactId info →
    ¬ Takes server info →
    ∃ e, editPersonalContact enc server db tenantUuid userUuid contactId info = (.error e, db)
  replaced : Owns db userUuid contactId → ¬ HasFields enc db userUuid contactId info →
    Takes server info →
    editPersonalContact enc server db tenantUuid userUuid contactId info =
      (.ok (some (info.set "id" contactId)), edited enc db tenantUuid userUuid contactId info)

section Edit

variable {ids : String → Prop}

/-- Where there is no contact of the user, none is deleted. -/
theorem delete_of_not_owns (h : ¬ Owns db userUuid contactId) :
    deletePersonalContactIn db userUuid contactId = .error (.noSuchContact contactId) := by
  have hnone : db.contacts.filter (deleteFilter db fun u f =>
      u.userUuid = userUuid && f.contactUuid = contactId) = [] := by
    rw [List.filter_eq_nil_iff]
    intro c hc hselected
    obtain ⟨f, -, hfc, u, -, hcu, huf⟩ := deleteFilter_iff.1 hselected
    rw [Bool.and_eq_true, decide_eq_true_eq, decide_eq_true_eq] at huf
    exact h ⟨c, hc, hfc.symm.trans huf.2, hcu.trans (congrArg some huf.1)⟩
  unfold deletePersonalContactIn deletePersonalContactsWithFilter
  simp only [hnone]
  rfl

/-- The deletion selects the user's contact of a uuid: it has a row, that of
its id. -/
theorem deleteFilter_of_owns (h : Kept enc ids db) (hsound : Sound db) {c d : Contact}
    (hc : c ∈ db.contacts) (hcu : c.userUuid = some userUuid) (hd : d ∈ db.contacts) :
    deleteFilter db (fun u f => u.userUuid = userUuid && f.contactUuid = c.uuid) d = true ↔
      d.uuid = c.uuid := by
  rw [deleteFilter_iff]
  constructor
  · rintro ⟨f, -, hfd, u, -, -, huf⟩
    rw [Bool.and_eq_true, decide_eq_true_eq, decide_eq_true_eq] at huf
    exact hfd.symm.trans huf.2
  · intro hdc
    obtain rfl := eq_of_key h.uuids hd hc hdc
    obtain ⟨info, hinfo⟩ := h.stored d hd (by rw [hcu]; rfl)
    obtain ⟨id, hid, -, -⟩ := hinfo.id
    have hfield : ("id", some id) ∈ fieldsOf db.contactFields d.uuid := by
      rw [hinfo.fields]
      exact List.mem_map.2 ⟨("id", id), Dict.get?_eq_some_iff.1 hid, rfl⟩
    obtain ⟨row, hrow, hrowd, -⟩ := mem_fieldsOf.1 hfield
    obtain ⟨u, hu, huser⟩ := List.any_eq_true.1 (hsound.housed d hd userUuid hcu)
    have huser : u.userUuid = userUuid := of_decide_eq_true huser
    exact ⟨row, hrow, hrowd, u, hu, by rw [hcu, huser], by simp [huser, hrowd]⟩

/-- **Where there is one, it goes with its rows**, and nothing else does. -/
theorem delete_of_owns (h : Kept enc ids db) (hsound : Sound db)
    (hown : Owns db userUuid contactId) :
    deletePersonalContactIn db userUuid contactId =
      .ok { db with
        contacts := db.contacts.filter (·.uuid ≠ contactId)
        contactFields := db.contactFields.filter (·.contactUuid ≠ contactId) } := by
  obtain ⟨c, hc, rfl, hcu⟩ := hown
  -- the count of what is deleted is not zero, so nothing is raised
  have hselects := fun d hd => deleteFilter_of_owns (d := d) h hsound hc hcu hd
  have hsome : (db.contacts.filter (deleteFilter db fun u f =>
      u.userUuid = userUuid && f.contactUuid = c.uuid)).length ≠ 0 := by
    rw [ne_eq, List.length_eq_zero_iff]
    exact List.ne_nil_of_mem (List.mem_filter.2 ⟨hc, (hselects c hc).2 rfl⟩)
  unfold deletePersonalContactIn deletePersonalContactsWithFilter
  simp only [raiseIf, hsome, if_false, Database.dropContacts_of_uuid hc hselects]
  rfl

/-- No contact of the user has a hash exactly when none is found by it. -/
theorem findExisting_eq_nil_iff {hash : String} :
    (findExistingContactByHash server db userUuid [hash]).entries = [] ↔
      ∀ c ∈ db.contacts, c.userUuid = some userUuid → c.hash ≠ hash := by
  have hkey : ∀ k, k ∈ (findExistingContactByHash server db userUuid [hash]).keys ↔
      ∃ c ∈ db.contacts, c.userUuid = some userUuid ∧ c.hash = hash ∧ c.hash = k := by
    intro k
    rw [findExistingContactByHash, if_neg (by simp), Dict.mem_keys_ofList]
    simp [and_assoc]
  constructor
  · intro hnil c hc hu hh
    have hmem := (hkey hash).2 ⟨c, hc, hu, hh, hh⟩
    rw [Dict.keys, hnil] at hmem
    cases hmem
  · intro hnone
    rw [← List.map_eq_nil_iff (f := Prod.fst), ← Dict.keys, List.eq_nil_iff_forall_not_mem]
    intro k hk
    obtain ⟨c, hc, hu, hh, -⟩ := (hkey k).1 hk
    exact hnone c hc hu hh

/-- **One contact created**, of a hash that the user has not: one turn of
the loop. -/
theorem createPersonalContactsIn_singleton
    (hnew : ∀ c ∈ db.contacts, c.userUuid = some userUuid →
      c.hash ≠ enc.computeContactHash info.body) :
    createPersonalContactsIn enc server db tenantUuid userUuid [info] false =
      (addContact enc server userUuid { db := db.getDirdUser tenantUuid userUuid }
        ((enc.computeContactHash info.body, info), 0)).map fun s =>
          (s.db, [(s.ids.get? (enc.computeContactHash info.body)).elim info
            fun uuid => info.set "id" uuid]) := by
  have hentries : (hashAndContact enc [info]).entries =
      [(enc.computeContactHash info.body, info)] := rfl
  have hkeys : (hashAndContact enc [info]).keys = [enc.computeContactHash info.body] := rfl
  have hnil : (findExistingContactByHash server (db.getDirdUser tenantUuid userUuid) userUuid
      [enc.computeContactHash info.body]).entries = [] := by
    rw [findExisting_eq_nil_iff, (getDirdUser_contacts db tenantUuid userUuid).1]
    exact hnew
  have hnokey : (findExistingContactByHash server (db.getDirdUser tenantUuid userUuid) userUuid
      [enc.computeContactHash info.body]).keys = [] := by
    rw [Dict.keys, hnil]
    rfl
  have hnone : (findExistingContactByHash server (db.getDirdUser tenantUuid userUuid) userUuid
      [enc.computeContactHash info.body]).get? (enc.computeContactHash info.body) = none := by
    rw [Dict.get?, hnil]
    rfl
  have horder : server.hashes.order [(enc.computeContactHash info.body, info)] =
      [(enc.computeContactHash info.body, info)] :=
    List.perm_singleton.1 (server.hashes.perm _)
  unfold createPersonalContactsIn
  simp only [hentries, hkeys, hnokey, List.not_mem_nil, not_false_eq_true, decide_true,
    List.filter_cons_of_pos, List.filter_nil, horder, raiseIf]
  rw [if_neg (by simp), except_map_eq_bind]
  change (addContact enc server userUuid { db := db.getDirdUser tenantUuid userUuid }
      ((enc.computeContactHash info.body, info), 0) >>= fun s => pure s) >>= _ = _
  rw [bind_pure]
  refine bind_congr fun s => ?_
  simp [setIds, Dict.get?_update, hnone]

/-- **An edition of a contact of the user**, once that contact is gone. -/
theorem edit_of_owns (h : Kept enc ids db) (hsound : Sound db)
    (hown : Owns db userUuid contactId) {rest : Database}
    (hrest : rest = { db with
      contacts := db.contacts.filter (·.uuid ≠ contactId)
      contactFields := db.contactFields.filter (·.contactUuid ≠ contactId) })
    (hnew : ¬ HasFields enc db userUuid contactId info) :
    editPersonalContact enc server db tenantUuid userUuid contactId info = newSession db
      ((addContact enc server userUuid { db := rest.getDirdUser tenantUuid userUuid }
        ((enc.computeContactHash info.body, info.set "id" contactId), 0)).map fun s =>
          (s.db, some ((s.ids.get? (enc.computeContactHash info.body)).elim
            (info.set "id" contactId) fun uuid => (info.set "id" contactId).set "id" uuid))) := by
  have hhash : enc.computeContactHash (TextInfo.body (info.set "id" contactId)) =
      enc.computeContactHash info.body := computeContactHash_set_id info contactId
  have hnone : ∀ c ∈ rest.contacts, c.userUuid = some userUuid →
      c.hash ≠ enc.computeContactHash info.body := by
    intro c hc hu hh
    rw [hrest] at hc
    obtain ⟨hc, hne⟩ := List.mem_filter.1 hc
    exact hnew ⟨c, hc, of_decide_eq_true hne, hu, hh⟩
  have hcreate : createPersonalContactsIn enc server rest tenantUuid userUuid
      [info.set "id" contactId] false = _ :=
    createPersonalContactsIn_singleton (by rw [hhash]; exact hnone)
  rw [hhash] at hcreate
  unfold editPersonalContact
  rw [delete_of_owns h hsound hown, ← hrest]
  change newSession db (raiseIf _ _ >>= fun _ => createPersonalContactsIn _ _ _ _ _ _ _ >>= _) = _
  rw [hcreate, raiseIf, if_neg (not_not.2 (findExisting_eq_nil_iff.2 hnone))]
  -- the answer is the head of the one that was created
  generalize addContact enc server userUuid _ _ = added
  cases added with
  | error e => rfl
  | ok s => rfl

/-- **What one turn of the loop adds** of a contact of an id, when its rows
are taken and no contact there is stands in its way. -/
theorem addContact_of_takes {s : Added} {hash : String} (htakes : Takes server info)
    (hne : contactId ≠ "") (hnull : '\x00' ∉ contactId.toList)
    (hlength : contactId.toList.length ≤ 38)
    (hnew : ∀ c ∈ s.db.contacts, c.uuid ≠ contactId ∧
      (c.userUuid = some userUuid → c.hash ≠ hash)) :
    addContact enc server userUuid s ((hash, info.set "id" contactId), 0) = .ok {
      db := { s.db with
        contacts := s.db.contacts ++
          [{ uuid := contactId, userUuid := some userUuid, hash := hash }]
        contactFields := s.db.contactFields ++
          (info.set "id" contactId).entries.map fun e => ⟨contactId, e.1, some e.2⟩ }
      ids := s.ids.set hash contactId } := by
  have hown : ownId (info.set "id" contactId) = some contactId := by
    rw [ownId, Dict.get?_set_self, Option.filter, if_pos (by simpa using hne)]
  have hrow : stringColumn 38 contactId = .ok contactId := stringColumn_of_length_le hlength
  have hset : (info.set "id" contactId).set "id" contactId = info.set "id" contactId :=
    Dict.set_of_get? (Dict.get?_set_self _ _ _)
  obtain ⟨fields, hfields⟩ := (@exists_contactFields_iff enc _ _ _ hrow).2
    (noNull_set_iff.2 ⟨htakes.noNull, hnull⟩)
  obtain ⟨hof, hrows⟩ := contactFields_ok hrow hfields
  have heq : fields = (info.set "id" contactId).entries.map fun e => ⟨contactId, e.1, some e.2⟩ := by
    rw [fieldsOf_of_forall hof] at hrows
    refine List.ext_getElem (by simpa using congrArg List.length hrows) fun i hi hi' => ?_
    have hat := congrArg (fun l => l[i]?) hrows
    simp only [List.getElem?_map, List.getElem?_eq_getElem hi,
      List.getElem?_eq_getElem (show i < (info.set "id" contactId).entries.length by
        simpa using hi'), Option.map_some, Option.some.injEq, Prod.mk.injEq] at hat
    rw [List.getElem_map, ← hat.1, ← hat.2, ← hof _ (List.getElem_mem hi)]
  have hclash : (s.db.contacts.any
      ({ uuid := contactId, userUuid := some userUuid, hash := hash } : Contact).clash) =
        false := by
    rw [List.any_eq_false]
    intro c hc
    obtain ⟨huuid, hhash⟩ := hnew c hc
    simp only [Contact.clash, Bool.or_eq_true, Bool.and_eq_true, decide_eq_true_eq, not_or]
    refine ⟨Ne.symm huuid, ?_⟩
    rintro ⟨hh, ⟨-, hu⟩ | ⟨hnone, -⟩⟩
    · exact hhash hu.symm hh.symm
    · cases hnone
  rw [addContact_eq_ok ⟨htakes.contactFault, htakes.fieldsFault⟩]
  refine ⟨contactId, fields, ?_, hclash, ?_, ?_⟩
  · rw [hown, Option.getD_some, hrow]
  · rw [hown, Option.getD_some, hset, hfields]
  · rw [hown, Option.getD_some, heq]

/-- What is added was taken. -/
theorem takes_of_addContact {s s' : Added} {hash : String}
    (h : addContact enc server userUuid s ((hash, info.set "id" contactId), 0) = .ok s') :
    Takes server info := by
  obtain ⟨row, hrow, h⟩ := bind_eq_ok.1 h
  obtain ⟨⟨⟩, -, h⟩ := bind_eq_ok.1 h
  obtain ⟨⟨⟩, hcontact, h⟩ := bind_eq_ok.1 h
  obtain ⟨fields, hfields, h⟩ := bind_eq_ok.1 h
  obtain ⟨⟨⟩, hrows, -⟩ := bind_eq_ok.1 h
  obtain ⟨texts, htexts, hcolumn⟩ := bind_eq_ok.1 hfields
  obtain ⟨kept, hkept, -⟩ := bind_eq_ok.1 hcolumn
  have hnull := noNull_set_iff.1 ((exists_contactFields_iff hkept).1 ⟨fields, hfields⟩)
  refine ⟨fun e he hne => hnull.1 e ?_ hne, raiseFault_ok.1 hcontact, raiseFault_ok.1 hrows⟩
  rw [← Dict.get?_eq_some_iff, Dict.get?_set_of_ne _ _ (Ne.symm hne), Dict.get?_eq_some_iff]
  exact he

/-- The user of a contact is there, so only the tenant may be made. -/
theorem getDirdUser_of_hasUser (h : db.hasUser userUuid = true) :
    db.getDirdUser tenantUuid userUuid = db.createTenant tenantUuid := by
  rw [Database.getDirdUser, if_pos h]

/-- The tenant is made whatever the contacts are. -/
theorem createTenant_with (contacts : List Contact) (fields : List ContactFields) :
    ({ db with contacts := contacts, contactFields := fields } : Database).createTenant tenantUuid =
      { db.createTenant tenantUuid with contacts := contacts, contactFields := fields } := by
  unfold Database.createTenant
  split
  · rfl
  · rfl

/-- **An edition replaces the contact, or raises and changes nothing**, where
the invariant holds. -/
theorem Kept.editsAtomically (h : Kept enc ids db) (hsound : Sound db) :
    EditsAtomically enc server db tenantUuid userUuid contactId info := by
  have hid : Owns db userUuid contactId → contactId ≠ "" ∧ '\x00' ∉ contactId.toList ∧
      contactId.toList.length ≤ 38 ∧ db.hasUser userUuid = true := by
    rintro ⟨c, hc, rfl, hcu⟩
    have hisSome : c.userUuid.isSome := by rw [hcu]; rfl
    obtain ⟨hne, hnull⟩ := hsound.named c hc hisSome
    obtain ⟨info, hinfo⟩ := h.stored c hc hisSome
    obtain ⟨id, -, -, hrow⟩ := hinfo.id
    exact ⟨hne, hnull, length_of_stringColumn hrow, hsound.housed c hc userUuid hcu⟩
  refine ⟨fun hown => ?_, fun hown hdup => ?_, fun hown hnew htakes => ?_,
    fun hown hnew htakes => ?_⟩
  · refine ⟨.noSuchContact contactId, ?_, fun _ => rfl⟩
    unfold editPersonalContact
    rw [delete_of_not_owns hown]
    rfl
  · obtain ⟨d, hd, hne, hu, hh⟩ := hdup
    unfold editPersonalContact
    rw [delete_of_owns h hsound hown]
    change newSession db (raiseIf _ _ >>= _) = _
    rw [raiseIf, if_pos]
    · rfl
    · intro hnil
      exact findExisting_eq_nil_iff.1 hnil d
        (List.mem_filter.2 ⟨hd, by simpa using hne⟩) hu hh
  · rw [edit_of_owns h hsound hown rfl hnew]
    cases hadd : addContact enc server userUuid _ _ with
    | error e => exact ⟨e, rfl⟩
    | ok s => exact absurd (takes_of_addContact hadd) htakes
  · obtain ⟨hne, hnull, hlength, huser⟩ := hid hown
    rw [edit_of_owns h hsound hown rfl hnew, getDirdUser_of_hasUser (by exact huser),
      createTenant_with, addContact_of_takes htakes hne hnull hlength]
    · simp only [Except.map, Dict.get?_set_self, Option.elim_some,
        Dict.set_of_get? (Dict.get?_set_self info "id" contactId)]
      rfl
    · intro c hc
      obtain ⟨hc, hcid⟩ := List.mem_filter.1 hc
      exact ⟨of_decide_eq_true hcid, fun hu hh => hnew ⟨c, hc, of_decide_eq_true hcid, hu, hh⟩⟩

/-- **In every state a run reaches, an edition is atomic.** -/
theorem editsAtomically_of_run (hs : Start db₀) (hrun : Run (Called enc) db₀ calls db)
    (server : PersonalServer) (tenantUuid userUuid : Uuid) (contactId : String) (info : TextInfo) :
    EditsAtomically enc server db tenantUuid userUuid contactId info :=
  (sound_of_run hs hrun).1.editsAtomically (sound_of_run hs hrun).2

/-! ## A body the driver does not take -/

/-- The uuids of the plain server are not empty. -/
theorem plain_newUuid_ne (uuids : List Uuid) : PersonalServer.plain.newUuid uuids ≠ "" := by
  intro h
  have hnil := congrArg String.toList h
  rw [show PersonalServer.plain.newUuid uuids = longerUuid uuids from rfl, longerUuid,
    String.toList_ofList] at hnil
  cases hnil

/-- A contact of a user, created in a database without a row. -/
def createAlice : Call := .create "t" "u" (Dict.ofList [("id", "a"), ("name", "Alice")])

/-- It is a run. -/
theorem run_createAlice :
    Run (Called .plain) {} [createAlice] (createAlice.run .plain .plain {}) :=
  Run.single ⟨.plain, plain_newUuid_ne, rfl⟩

/-- The contact edited, in the state its creation leaves. -/
theorem editsAtomically_of_run_createAlice :
    EditsAtomically .plain .plain (createAlice.run .plain .plain {}) "t" "u" "a"
      (Dict.ofList [("name", "Bob")]) :=
  editsAtomically_of_run start_empty run_createAlice .plain "t" "u" "a" _

/-- An edition that raises for want of a contact, or for another of the same
fields, and for nothing else. -/
def EditsOrConflicts (enc : Encoding) (server : PersonalServer) (db : Database)
    (tenantUuid userUuid : Uuid) (contactId : String) (info : TextInfo) : Prop :=
  (∃ e, editPersonalContact enc server db tenantUuid userUuid contactId info = (.error e, db) ∧
    (¬ Owns db userUuid contactId ∨ HasFields enc db userUuid contactId info)) ∨
  editPersonalContact enc server db tenantUuid userUuid contactId info =
    (.ok (some (info.set "id" contactId)), edited enc db tenantUuid userUuid contactId info)

/-- **A name with a null character is refused**, of a contact that is the
user's only one. -/
theorem not_editsOrConflicts : ¬ ∀ db₀ calls db, Start db₀ → Run (Called .plain) db₀ calls db →
    ∀ server tenantUuid userUuid contactId info,
      EditsOrConflicts .plain server db tenantUuid userUuid contactId info := by
  intro h
  have hedit := h {} [createAlice] _ start_empty run_createAlice .plain "t" "u" "a"
    (Dict.ofList [("name", "\x00")])
  have hraises : (editPersonalContact .plain .plain (createAlice.run .plain .plain {}) "t" "u" "a"
      (Dict.ofList [("name", "\x00")])).1.isOk = false := by decide
  have hown : ∃ c ∈ (createAlice.run .plain .plain {}).contacts, c.uuid = "a" ∧
      c.userUuid = some "u" := by decide
  have hone : ∀ c ∈ (createAlice.run .plain .plain {}).contacts, c.uuid = "a" := by decide
  rcases hedit with ⟨e, -, hnot | hdup⟩ | hok
  · exact hnot hown
  · obtain ⟨d, hd, hne, -⟩ := hdup
    exact hne (hone d hd)
  · rw [hok] at hraises
    cases hraises

end Edit

end PersonalContacts

end WazoDird
