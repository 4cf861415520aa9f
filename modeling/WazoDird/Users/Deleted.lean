import WazoDird.Favorites.Isolation
import WazoDird.PersonalContacts.Batch

/-!
# A user is deleted

`_StorageCleanupService` and `delete_user`: on the event that a user is
gone its row is deleted, and the foreign keys take the rest with it. That
this leaves nothing of the user is because every row of a user, whoever
wrote it, refers to the user's (`Intact`), in a system of all the writers
of what users have: the favorites service, the personal contacts, and
those of sources and phonebooks.
-/

namespace WazoDird

open PersonalContactCRUD PersonalContacts Relation

/-- `delete_user`, with what the foreign keys delete: the favorites of the
user, and its contacts with their fields. -/
def Database.deleteUser (db : Database) (userUuid : Uuid) : Database :=
  if db.hasUser userUuid then
    { db.dropContacts (·.userUuid = some userUuid) with
      users := db.users.filter (·.userUuid ≠ userUuid)
      favorites := db.favorites.filter (·.userUuid ≠ userUuid) }
  else db

/-- What happens to what users have. -/
inductive UserEvent where
  | personal (call : Call)
  | directory (op : DirectoryOp)
  /-- `UserDeletedEvent`. -/
  | userDeleted (userUuid : Uuid)

/-- The user an event writes for, if any. -/
def UserEvent.writesFor : UserEvent → Option Uuid
  | personal call => some call.userUuid
  | directory op => op.user
  | userDeleted _ => none

/-- **One step**, under some answers of the server. -/
inductive UserStep (enc : Encoding) (db : Database) : UserEvent → Database → Prop
  | personal {call db'} (h : Step enc db call db') : UserStep enc db (.personal call) db'
  | directory (op : DirectoryOp) (a : Answers) : UserStep enc db (.directory op) (op.exec a db)
  | userDeleted (userUuid : Uuid) :
      UserStep enc db (.userDeleted userUuid) (db.deleteUser userUuid)

/-- **Every row of a user refers to the user's row.** -/
structure Intact (enc : Encoding) (db : Database) : Prop where
  kept : Kept enc (fun _ => True) db
  contacts : ∀ c ∈ db.contacts, ∀ u, c.userUuid = some u → db.hasUser u = true
  favorites : ∀ f ∈ db.favorites, db.hasUser f.userUuid = true

/-- **A step that writes for a user, or none**: rows of that user may come,
once it has its own. Those of the others may only go, and no row of a
user does. -/
structure WritesFor (user : Option Uuid) (db db' : Database) : Prop where
  hasUser : ∀ u, db.hasUser u = true → db'.hasUser u = true
  newUser : ∀ u, db'.hasUser u = true → db.hasUser u = true ∨ user = some u
  contacts : ∀ c ∈ db'.contacts, ∀ u, c.userUuid = some u →
    c ∈ db.contacts ∨ (user = some u ∧ db'.hasUser u = true)
  favorites : ∀ f ∈ db'.favorites,
    f ∈ db.favorites ∨ (user = some f.userUuid ∧ db'.hasUser f.userUuid = true)

/-- Nothing is left of a user. -/
structure Erased (userUuid : Uuid) (db : Database) : Prop where
  user : db.hasUser userUuid = false
  contacts : ∀ c ∈ db.contacts, c.userUuid ≠ some userUuid
  favorites : ∀ f ∈ db.favorites, f.userUuid ≠ userUuid
  /-- Every field left is of a contact left. -/
  fields : ∀ f ∈ db.contactFields, ∃ c ∈ db.contacts, c.uuid = f.contactUuid

/-- What a user has is as it was. -/
structure UserUntouched (userUuid : Uuid) (db db' : Database) : Prop where
  user : db'.users.filter (·.userUuid = userUuid) = db.users.filter (·.userUuid = userUuid)
  favorites : favoritesOf db' userUuid = favoritesOf db userUuid
  contacts : Untouched userUuid db db'

variable {enc : Encoding} {db db' db'' db₀ : Database} {u v : Uuid} {user : Option Uuid}
  {e : UserEvent} {events later : List UserEvent}

/-! ## Steps that write -/

/-- A step that leaves the users and brings no row of one. -/
theorem WritesFor.of_subset (husers : db'.users = db.users)
    (hcontacts : ∀ c ∈ db'.contacts, c ∈ db.contacts)
    (hfavorites : ∀ f ∈ db'.favorites, f ∈ db.favorites) : WritesFor user db db' := by
  have hhas : ∀ u, db'.hasUser u = db.hasUser u := fun u => by
    rw [Database.hasUser, husers, Database.hasUser]
  exact ⟨fun u hu => (hhas u).trans hu, fun u hu => Or.inl ((hhas u).symm.trans hu),
    fun c hc _ _ => Or.inl (hcontacts c hc), fun f hf => Or.inl (hfavorites f hf)⟩

theorem WritesFor.trans (h : WritesFor user db db') (h' : WritesFor user db' db'') :
    WritesFor user db db'' where
  hasUser u hu := h'.hasUser u (h.hasUser u hu)
  newUser u hu := (h'.newUser u hu).elim (h.newUser u) Or.inr
  contacts c hc u hu := by
    rcases h'.contacts c hc u hu with hc | hnew
    · exact (h.contacts c hc u hu).imp id fun hnew => ⟨hnew.1, h'.hasUser u hnew.2⟩
    · exact Or.inr hnew
  favorites f hf := by
    rcases h'.favorites f hf with hf | hnew
    · exact (h.favorites f hf).imp id fun hnew => ⟨hnew.1, h'.hasUser _ hnew.2⟩
    · exact Or.inr hnew

/-- A tenant made, or found: no user. -/
theorem users_createTenant (db : Database) (tenantUuid : Uuid) :
    (db.createTenant tenantUuid).users = db.users := by
  unfold Database.createTenant
  split <;> rfl

/-- A user made, or found. -/
theorem hasUser_getDirdUser {tenantUuid : Uuid} :
    (db.getDirdUser tenantUuid v).hasUser u = true ↔ db.hasUser u = true ∨ u = v := by
  unfold Database.getDirdUser
  split
  · next hv =>
    rw [Database.hasUser, users_createTenant]
    constructor
    · exact Or.inl
    · rintro (hu | rfl)
      · exact hu
      · exact hv
  · simp only [Database.hasUser, users_createTenant, List.any_append, List.any_cons, List.any_nil,
      Bool.or_false, Bool.or_eq_true, decide_eq_true_eq]
    rw [eq_comm (a := v)]

/-- **What an operation of the directory does** to the users, to their
favorites and to the contacts: it drops rows at most, or makes a favorite
of its user, which it makes or finds. -/
inductive DirectoryWrites (user : Option Uuid) (db db' : Database) : Prop
  | rows (husers : db'.users = db.users) (hcontacts : db'.contacts = db.contacts)
      (hfields : db'.contactFields = db.contactFields)
      (hfavorites : ∀ f ∈ db'.favorites, f ∈ db.favorites)
  | dropped {p : Contact → Bool} (husers : db'.users = db.users)
      (hcontacts : db'.contacts = (db.dropContacts p).contacts)
      (hfields : db'.contactFields = (db.dropContacts p).contactFields)
      (hfavorites : ∀ f ∈ db'.favorites, f ∈ db.favorites)
  | favorite {tenantUuid : Uuid} {f : Favorite} (huser : user = some f.userUuid)
      (hdb : db' = { db.getDirdUser tenantUuid f.userUuid with favorites := db.favorites ++ [f] })

theorem DirectoryWrites.refl : DirectoryWrites user db db :=
  .rows rfl rfl rfl fun _ h => h

/-- A tenant made, or found, with whatever sources and phonebooks. -/
theorem DirectoryWrites.tenant {sources : List Source} {phonebooks : List Phonebook}
    (tenantUuid : Uuid) : DirectoryWrites user db
      { db.createTenant tenantUuid with sources := sources, phonebooks := phonebooks } :=
  .rows (users_createTenant db tenantUuid) (db.createTenant_contacts tenantUuid)
    (db.createTenant_contactFields tenantUuid) fun _ hf => db.createTenant_favorites tenantUuid ▸ hf

theorem directoryWrites_createFavorite {o : RowOrder Source} {tenantUuid : Uuid}
    {backend name contactId : String} :
    DirectoryWrites (some v) db
      (FavoriteCRUD.create o db v tenantUuid backend name contactId).2 := by
  generalize hr : FavoriteCRUD.create o db v tenantUuid backend name contactId = r
  obtain ⟨r, db'⟩ := r
  rcases FavoriteCRUD.create_cases hr with ⟨e, -, rfl⟩ | ⟨s, f, -, -, rfl, rfl⟩
  · exact .refl
  · exact .favorite (f := ⟨s.uuid, contactId, v⟩) rfl rfl

theorem directoryWrites_exec (a : Answers) (op : DirectoryOp) :
    DirectoryWrites op.user db (op.exec a db) := by
  cases op with
  | createSource t backend body =>
      show DirectoryWrites none db (SourceCRUD.create db a.source backend t body).2
      generalize hr : SourceCRUD.create db a.source backend t body = r
      obtain ⟨r, db'⟩ := r
      rcases SourceCRUD.create_cases hr with ⟨e, -, rfl⟩ | ⟨s, info, -, rfl, -⟩
      · exact .refl
      · exact .tenant t
  | editSource t backend uuid body =>
      show DirectoryWrites none db (SourceCRUD.edit a.lookup db backend uuid (some [t]) body).2
      generalize hr : SourceCRUD.edit a.lookup db backend uuid (some [t]) body = r
      obtain ⟨r, db'⟩ := r
      rcases SourceCRUD.edit_cases hr with ⟨e, -, rfl⟩ | ⟨s, s', info, -, -, -, -, rfl, -⟩
      · exact .refl
      · exact .rows rfl rfl rfl fun _ h => h
  | deleteSource t backend uuid => exact .rows rfl rfl rfl fun _ hf => List.mem_of_mem_filter hf
  | createPhonebook t body =>
      show DirectoryWrites none db (PhonebookCRUD.create db a.phonebook t body).2
      generalize hr : PhonebookCRUD.create db a.phonebook t body = r
      obtain ⟨r, db'⟩ := r
      rcases PhonebookCRUD.create_cases hr with ⟨e, -, rfl⟩ | ⟨p, -, rfl, -⟩
      · exact .refl
      · exact .tenant t
  | editPhonebook t key body =>
      show DirectoryWrites none db (PhonebookCRUD.edit db (some [t]) key body).2
      generalize hr : PhonebookCRUD.edit db (some [t]) key body = r
      obtain ⟨r, db'⟩ := r
      rcases PhonebookCRUD.edit_cases hr with ⟨e, -, rfl⟩ | ⟨p, -, p', -, -, -, -, rfl⟩
      · exact .refl
      · exact .rows rfl rfl rfl fun _ h => h
  | deletePhonebook t key =>
      show DirectoryWrites none db (PhonebookCRUD.delete db (some [t]) key).2
      generalize hr : PhonebookCRUD.delete db (some [t]) key = r
      obtain ⟨r, db'⟩ := r
      rcases PhonebookCRUD.delete_cases hr with ⟨e, -, rfl⟩ | ⟨p, -, -, -, -, rfl⟩
      · exact .refl
      · exact .dropped rfl rfl rfl fun _ hf => List.mem_of_mem_filter hf
  | createFavorite t backend name contactId v => exact directoryWrites_createFavorite
  | newFavorite t name contactId v =>
      show DirectoryWrites (some v) db (FavoritesService.newFavorite a none db t name contactId v).2
      unfold FavoritesService.newFavorite
      split
      · exact .refl
      · next source _ =>
        have hcreate : DirectoryWrites (some v) db
            (FavoriteCRUD.create a.lookup db v t source.backend name contactId).2 :=
          directoryWrites_createFavorite
        split <;> next heq => rwa [heq] at hcreate
  | removeFavorite t name contactId v =>
      show DirectoryWrites (some v) db
        (FavoritesService.removeFavorite a none db t name contactId v).2
      unfold FavoritesService.removeFavorite
      split
      · exact .refl
      · have hdelete : DirectoryWrites (some v) db (FavoriteCRUD.delete db v name contactId).2 :=
          .rows rfl rfl rfl fun _ hf => List.mem_of_mem_filter hf
        split <;> next heq => rwa [heq] at hdelete

/-- **An operation of the directory** writes for its user, if it has
one. -/
theorem DirectoryWrites.writesFor (h : DirectoryWrites user db db') : WritesFor user db db' := by
  cases h with
  | rows husers hcontacts _ hfavorites =>
      exact .of_subset husers (fun _ hc => hcontacts ▸ hc) hfavorites
  | dropped husers hcontacts _ hfavorites =>
      exact .of_subset husers (fun c hc => List.mem_of_mem_filter (hcontacts ▸ hc)) hfavorites
  | @favorite tenantUuid f huser hdb =>
      subst huser hdb
      obtain ⟨hcontacts, -⟩ := getDirdUser_contacts db tenantUuid f.userUuid
      refine ⟨fun u hu => hasUser_getDirdUser.2 (Or.inl hu), fun u hu => ?_,
        fun c hc _ _ => Or.inl (hcontacts ▸ hc), fun g hg => ?_⟩
      · exact (hasUser_getDirdUser.1 hu).imp id fun h => congrArg some h.symm
      · rcases List.mem_append.1 hg with hg | hg
        · exact Or.inl hg
        · obtain rfl := List.mem_singleton.1 hg
          exact Or.inr ⟨rfl, hasUser_getDirdUser.2 (Or.inr rfl)⟩

/-- Writes for a user make no other, drop none, and leave the favorites. -/
theorem users_of_writes {ids : String → Prop}
    (h : ReflTransGen (Writes enc ids v) db db') :
    (∀ u, db.hasUser u = true → db'.hasUser u = true) ∧
      (∀ u, db'.hasUser u = true → db.hasUser u = true ∨ u = v) ∧
      db'.favorites = db.favorites := by
  induction h with
  | refl => exact ⟨fun _ h => h, fun _ h => Or.inl h, rfl⟩
  | tail _ hw ih =>
      obtain ⟨hkeep, hnew, hfavorites⟩ := ih
      cases hw with
      | user tenantUuid =>
          obtain ⟨-, -, hsame⟩ := FavoriteCRUD.getDirdUser_tables _ tenantUuid v
          refine ⟨fun u hu => hasUser_getDirdUser.2 (Or.inl (hkeep u hu)), fun u hu => ?_,
            hsame.trans hfavorites⟩
          exact (hasUser_getDirdUser.1 hu).elim (hnew u) Or.inr
      | added => exact ⟨hkeep, hnew, hfavorites⟩
      | dropped => exact ⟨hkeep, hnew, hfavorites⟩

/-- **Contacts are created for a user that is there.** -/
theorem hasUser_of_create {server : PersonalServer} {tenantUuid : Uuid}
    {infos infos' : List TextInfo} {failOnDuplicate : Bool}
    (h : createPersonalContactsIn enc server db tenantUuid v infos failOnDuplicate =
      .ok (db', infos')) : db'.hasUser v = true := by
  obtain ⟨⟨⟩, -, h⟩ := bind_eq_ok.1 h
  obtain ⟨s, hloop, h⟩ := bind_eq_ok.1 h
  cases h
  -- the loop leaves the users as it finds them
  have husers := foldlM_preserves
    (I := fun s : Added => s.db.users = (db.getDirdUser tenantUuid v).users) (by
      intro entry s s' hs hturn
      obtain ⟨row, -, h⟩ := bind_eq_ok.1 hturn
      obtain ⟨⟨⟩, -, h⟩ := bind_eq_ok.1 h
      obtain ⟨⟨⟩, -, h⟩ := bind_eq_ok.1 h
      obtain ⟨fields, -, h⟩ := bind_eq_ok.1 h
      obtain ⟨⟨⟩, -, h⟩ := bind_eq_ok.1 h
      cases h
      exact hs) rfl hloop
  rw [Database.hasUser, husers]
  exact hasUser_getDirdUser.2 (Or.inr rfl)

/-- What a call brings of its user it brings with the user's row. -/
theorem contacts_of_call {call : Call} (h : Step enc db call db') :
    ∀ c ∈ db'.contacts, c.userUuid = some call.userUuid →
      c ∈ db.contacts ∨ db'.hasUser call.userUuid = true := by
  obtain ⟨server, rfl⟩ := h
  -- a session that creates contacts for the user leaves it there
  have hsession : ∀ {α : Type} {body : Except DirdError (Database × α)},
      (∀ db' a, body = .ok (db', a) → db'.hasUser call.userUuid = true) →
      ∀ c ∈ (newSession db body).2.contacts, c.userUuid = some call.userUuid →
        c ∈ db.contacts ∨ (newSession db body).2.hasUser call.userUuid = true := by
    intro α body hbody c hc _
    rcases newSession_snd (Prod.eta (newSession db body)).symm with ⟨e, -, hdb⟩ | ⟨a, -, hok⟩
    · rw [hdb] at hc
      exact Or.inl hc
    · exact Or.inr (hbody _ _ hok)
  have hdrop : ∀ (p : Contact → Bool), ∀ c ∈ (db.dropContacts p).contacts, c ∈ db.contacts :=
    fun p c hc => List.mem_of_mem_filter hc
  cases call with
  | create tenantUuid userUuid info =>
      refine hsession fun db' a hok => ?_
      obtain ⟨⟨db₁, infos⟩, hcreate, hok⟩ := bind_eq_ok.1 hok
      cases hok
      exact hasUser_of_create hcreate
  | createMany tenantUuid userUuid infos =>
      exact hsession fun db' a hok => hasUser_of_create hok
  | edit tenantUuid userUuid contactId info =>
      refine hsession fun db' a hok => ?_
      obtain ⟨db₁, -, hok⟩ := bind_eq_ok.1 hok
      obtain ⟨⟨⟩, -, hok⟩ := bind_eq_ok.1 hok
      obtain ⟨⟨db₂, infos⟩, hcreate, hok⟩ := bind_eq_ok.1 hok
      cases hok
      exact hasUser_of_create hcreate
  | delete userUuid contactUuid =>
      intro c hc _
      refine Or.inl ?_
      rcases newSession_snd (Prod.eta (deletePersonalContact db userUuid contactUuid)).symm with
        ⟨e, -, hdb⟩ | ⟨a, -, hok⟩
      · exact hdb ▸ hc
      · obtain ⟨db₁, hdelete, hok⟩ := bind_eq_ok.1 hok
        obtain ⟨⟨⟩, -, hdelete⟩ := bind_eq_ok.1 hdelete
        cases hdelete
        have heq : db.dropContacts _ = (deletePersonalContact db userUuid contactUuid).2 :=
          (Prod.mk.inj (Except.ok.inj hok)).1
        have hmem : c ∈ (deletePersonalContact db userUuid contactUuid).2.contacts := hc
        rw [← heq] at hmem
        exact hdrop _ c hmem
  | deleteAll userUuid => exact fun c hc _ => Or.inl (hdrop _ c hc)

/-- **A call on personal contacts** writes for its user. -/
theorem writesFor_personal {call : Call} (h : Kept enc (fun _ => True) db)
    (hstep : Step enc db call db') : WritesFor (some call.userUuid) db db' := by
  have hwrites := h.writes_of_step (fun _ _ => trivial) (fun _ _ _ _ => trivial) hstep
  obtain ⟨hkeep, hnew, hfavorites⟩ := users_of_writes hwrites
  refine ⟨hkeep, fun u hu => (hnew u hu).imp id fun h => congrArg some h.symm,
    fun c hc u hu => ?_, fun f hf => Or.inl (hfavorites ▸ hf)⟩
  by_cases hcall : u = call.userUuid
  · subst hcall
    exact (contacts_of_call hstep c hc hu).imp id fun h => ⟨rfl, h⟩
  · have hsame := ((h.writes hwrites).2 u hcall).contacts
    have hmem : c ∈ db'.contacts.filter (·.userUuid = some u) :=
      List.mem_filter.2 ⟨hc, by simpa using hu⟩
    rw [hsame] at hmem
    exact Or.inl (List.mem_of_mem_filter hmem)

/-! ## The invariant -/

/-- A step that writes keeps every row of a user referring to the user's. -/
theorem Intact.writes (h : Intact enc db) (hkept : Kept enc (fun _ => True) db')
    (hw : WritesFor user db db') : Intact enc db' where
  kept := hkept
  contacts c hc u hu := (hw.contacts c hc u hu).elim
    (fun hc => hw.hasUser u (h.contacts c hc u hu)) And.right
  favorites f hf := (hw.favorites f hf).elim
    (fun hf => hw.hasUser _ (h.favorites f hf)) And.right

/-- The invariant of the personal contacts reads two tables. -/
theorem kept_congr (h : Kept enc (fun _ => True) db) (hcontacts : db'.contacts = db.contacts)
    (hfields : db'.contactFields = db.contactFields) : Kept enc (fun _ => True) db' where
  uuids := hcontacts ▸ h.uuids
  owned := by
    rw [hcontacts, hfields]
    exact h.owned
  stored c hc hu := by
    obtain ⟨info, hinfo⟩ := h.stored c (hcontacts ▸ hc) hu
    exact ⟨info, hinfo.congr (by rw [hfields])⟩
  hashes := by
    rw [hcontacts]
    exact h.hashes

/-- **An operation of the directory keeps the personal contacts**: what it
drops it drops with its fields. -/
theorem DirectoryWrites.kept (h : DirectoryWrites user db db')
    (hkept : Kept enc (fun _ => True) db) : Kept enc (fun _ => True) db' := by
  cases h with
  | rows _ hcontacts hfields _ => exact kept_congr hkept hcontacts hfields
  | @dropped p _ hcontacts hfields _ => exact kept_congr (hkept.dropped p) hcontacts hfields
  | @favorite tenantUuid f _ hdb =>
      subst hdb
      obtain ⟨hcontacts, hfields⟩ := getDirdUser_contacts db tenantUuid f.userUuid
      exact kept_congr hkept hcontacts hfields

/-- A user that is there is deleted; for another there is nothing to
delete. -/
theorem Intact.deleteUser_eq (h : Intact enc db) (u : Uuid) :
    (db.deleteUser u).users = db.users.filter (·.userUuid ≠ u) ∧
      (db.deleteUser u).favorites = db.favorites.filter (·.userUuid ≠ u) ∧
      (db.deleteUser u).contacts = (db.dropContacts (·.userUuid = some u)).contacts ∧
      (db.deleteUser u).contactFields = (db.dropContacts (·.userUuid = some u)).contactFields := by
  unfold Database.deleteUser
  split
  · exact ⟨rfl, rfl, rfl, rfl⟩
  · next hnone =>
    have hno : ∀ {c : Contact}, c ∈ db.contacts → c.userUuid ≠ some u :=
      fun hc hcu => hnone (h.contacts _ hc u hcu)
    refine ⟨?_, ?_, ?_, ?_⟩
    · refine (List.filter_eq_self.2 fun x hx => ?_).symm
      rw [Database.hasUser, List.any_eq_true] at hnone
      simpa using fun hxu : x.userUuid = u => hnone ⟨x, hx, by simpa using hxu⟩
    · refine (List.filter_eq_self.2 fun f hf => ?_).symm
      simpa using fun hfu : f.userUuid = u => hnone (hfu ▸ h.favorites f hf)
    · refine (List.filter_eq_self.2 fun c hc => ?_).symm
      simpa using hno hc
    · refine (List.filter_eq_self.2 fun f hf => ?_).symm
      rw [Bool.not_eq_true', List.any_eq_false]
      intro c hc hboth
      rw [Bool.and_eq_true, decide_eq_true_eq] at hboth
      exact hno hc hboth.1

/-- **Deleting a user keeps the invariant**, leaves nothing of the user,
and nothing else changes. -/
theorem Intact.deleted (h : Intact enc db) (u : Uuid) :
    Intact enc (db.deleteUser u) ∧ Erased u (db.deleteUser u) ∧
      ∀ v, v ≠ u → UserUntouched v db (db.deleteUser u) := by
  obtain ⟨husers, hfavorites, hcontacts, hfields⟩ := h.deleteUser_eq u
  have hkept : Kept enc (fun _ => True) (db.deleteUser u) :=
    kept_congr (h.kept.dropped _) hcontacts hfields
  have hhas : ∀ v, v ≠ u → (db.deleteUser u).hasUser v = db.hasUser v := by
    intro v hv
    rw [Database.hasUser, husers, List.any_filter, Database.hasUser]
    refine congrArg (List.any db.users) (funext fun x => ?_)
    by_cases hx : x.userUuid = v
    · simp [hx, hv]
    · simp [hx]
  have hcontact : ∀ c ∈ (db.deleteUser u).contacts, c ∈ db.contacts ∧ c.userUuid ≠ some u := by
    intro c hc
    rw [hcontacts] at hc
    obtain ⟨hc, hcu⟩ := List.mem_filter.1 hc
    exact ⟨hc, by simpa using hcu⟩
  have hfavorite : ∀ f ∈ (db.deleteUser u).favorites, f ∈ db.favorites ∧ f.userUuid ≠ u := by
    intro f hf
    rw [hfavorites] at hf
    obtain ⟨hf, hfu⟩ := List.mem_filter.1 hf
    exact ⟨hf, by simpa using hfu⟩
  refine ⟨⟨hkept, fun c hc v hcv => ?_, fun f hf => ?_⟩, ⟨?_, ?_, ?_, hkept.owned⟩, fun v hv => ?_⟩
  · obtain ⟨hc, hcu⟩ := hcontact c hc
    rw [hhas v fun hvu => hcu (hvu ▸ hcv)]
    exact h.contacts c hc v hcv
  · obtain ⟨hf, hfu⟩ := hfavorite f hf
    rw [hhas _ hfu]
    exact h.favorites f hf
  · rw [Database.hasUser, husers, List.any_eq_false]
    intro x hx
    simpa using (List.mem_filter.1 hx).2
  · exact fun c hc => (hcontact c hc).2
  · exact fun f hf => (hfavorite f hf).2
  · have hwrites : Writes enc (fun _ => True) u db (db.dropContacts (·.userUuid = some u)) :=
      .dropped fun _ _ hp => of_decide_eq_true hp
    have hdropped := h.kept.untouched hwrites hv
    refine ⟨?_, favoritesOf_filter hfavorites fun f _ hf => ?_, ⟨?_, ?_⟩⟩
    · rw [husers, List.filter_filter]
      refine List.filter_congr fun x _ => ?_
      by_cases hx : x.userUuid = v
      · simp [hx, hv]
      · simp [hx]
    · simpa [hf] using hv
    · rw [hcontacts]
      exact hdropped.contacts
    · intro c hc hcv
      rw [hfields]
      exact hdropped.fields c hc hcv

/-- **A step keeps the invariant.** -/
theorem Intact.step (h : Intact enc db) (hs : UserStep enc db e db') : Intact enc db' := by
  cases hs with
  | personal hs =>
      have hkept := (h.kept.step (fun _ _ => trivial) (fun _ _ _ _ => trivial) hs).1
      exact h.writes hkept (writesFor_personal h.kept hs)
  | directory op a =>
      have hw : DirectoryWrites op.user db (op.exec a db) := directoryWrites_exec a op
      exact h.writes (hw.kept h.kept) hw.writesFor
  | userDeleted u => exact (h.deleted u).1

/-- Nothing is left of a user whose row is not there. -/
theorem Intact.erased (h : Intact enc db) (hnone : db.hasUser u = false) : Erased u db where
  user := hnone
  contacts c hc hcu := Bool.false_ne_true (hnone.symm.trans (h.contacts c hc u hcu))
  favorites f hf hfu := Bool.false_ne_true (hnone.symm.trans (hfu ▸ h.favorites f hf))
  fields := h.kept.owned

/-- **A step that does not write for a user brings nothing of it.** -/
theorem Erased.step (h : Erased u db) (hi : Intact enc db) (hs : UserStep enc db e db')
    (he : e.writesFor ≠ some u) : Erased u db' := by
  refine (hi.step hs).erased (Bool.eq_false_iff.2 fun hu => ?_)
  -- the row of the user would have been there before
  have hold : db.hasUser u = true ∨ e.writesFor = some u := by
    cases hs with
    | personal hs => exact (writesFor_personal hi.kept hs).newUser u hu
    | directory op a => exact (directoryWrites_exec a op).writesFor.newUser u hu
    | userDeleted v =>
        obtain ⟨husers, -⟩ := hi.deleteUser_eq v
        rw [Database.hasUser, husers] at hu
        obtain ⟨x, hx, hxu⟩ := List.any_eq_true.1 hu
        exact Or.inl (List.any_eq_true.2 ⟨x, List.mem_of_mem_filter hx, hxu⟩)
  rcases hold with hold | hfor
  · exact Bool.false_ne_true (h.user.symm.trans hold)
  · exact he hfor

/-- **A deleted user stays deleted**, in any run of the writers of what
users have that starts with none: after the event nothing is left of it,
no other user has lost or won anything, and no step that does not write
for it again brings anything of it back. -/
theorem user_deleted (hstart : Start db₀) (hnone : db₀.favorites = [])
    (hrun : Run (UserStep enc) db₀ events db)
    (hrest : Run (Guarded (fun _ e => e.writesFor ≠ some u) (UserStep enc)) (db.deleteUser u)
      later db') :
    Erased u db' ∧ ∀ v, v ≠ u → UserUntouched v db (db.deleteUser u) := by
  have hi₀ : Intact enc db₀ := by
    refine ⟨hstart.kept, fun c hc v hcv => ?_, fun f hf => ?_⟩
    · have himpersonal := hstart.impersonal c hc
      rw [hcv] at himpersonal
      cases himpersonal
    · rw [hnone] at hf
      cases hf
  have hi : Intact enc db := hrun.invariant hi₀ fun h hs => h.step hs
  obtain ⟨hi₁, herased, hothers⟩ := hi.deleted u
  have hboth := hrest.invariant (I := fun db => Intact enc db ∧ Erased u db) ⟨hi₁, herased⟩
    fun h hs => ⟨h.1.step hs.2, h.2.step h.1 hs.2 hs.1⟩
  exact ⟨hboth.2, hothers⟩

/-- A user with a favorite is deleted, and then another. -/
theorem user_deleted_alice : ∃ db db' : Database,
    db.favorites = [⟨"sa", "c1", "alice"⟩] ∧ Erased "alice" db' ∧
      UserUntouched "bob" db (db.deleteUser "alice") := by
  have hrun : Run (UserStep .plain) {} _ _ :=
    .cons (.directory (.createSource "a" "csv" (namedSource "sa" "dir")) newestFirst) <|
    .single (.directory (.newFavorite "a" "dir" "c1" "alice") newestFirst)
  have hstart : Start {} := ⟨List.nodup_nil, fun _ hf => absurd hf List.not_mem_nil,
    fun _ hc => absurd hc List.not_mem_nil⟩
  have h := user_deleted (u := "alice") hstart rfl hrun
    (.single (a := .userDeleted "bob") ⟨Option.some_ne_none _ ∘ Eq.symm, .userDeleted "bob"⟩)
  exact ⟨_, _, rfl, h.1, h.2 "bob" (by decide)⟩

end WazoDird
