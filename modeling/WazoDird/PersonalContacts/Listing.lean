import Mathlib.Data.List.Dedup
import WazoDird.Database.Queries.PersonalContactCRUD
import WazoDird.Favorites.Ids
import WazoDird.SourceManager.Model

/-!
# The personal list of a user

`list_contacts` and `list_contacts_raw` of the personal service, and the
endpoint of `default_json` that formats what the first lists. The query
behind them filters by user when it is given one, and lists everyone's
contacts when the user is none or empty; the endpoint hands on whatever
user the token's metadata has.
-/

namespace WazoDird

open PersonalContactCRUD

/-- What is around a request that lists personal contacts: how texts are
compared, folded and formatted, the order of the rows of each query, and
the plugins there are. -/
structure ListingWorld where
  py : TextOps
  lower : String → String
  text : SortText
  contactUuids : RowOrder Uuid := .asStored
  fields : RowOrder ContactFields := .asStored
  sources : RowOrder Source := .asStored
  favorites : RowOrder (String × String) := .asStored
  installed : String → Bool
  cache : PluginCache := ∅
  now : ℕ := 0

namespace PersonalBackend

/-- `_remove_empty_values`. -/
def removeEmptyValues (contact : ContactInfo) : Fields where
  entries := contact.entries.filterMap fun e =>
    (e.2.filter (· ≠ "")).map fun value => (e.1, .str value)
  nodup := by
    have hsub : ((contact.entries.filterMap fun e =>
        (e.2.filter (· ≠ "")).map fun value => (e.1, Value.str value)).map Prod.fst).Sublist
          (contact.entries.map Prod.fst) := by
      induction contact.entries with
      | nil => exact List.Sublist.refl _
      | cons e l ih =>
          rw [List.filterMap_cons]
          cases e.2.filter (· ≠ "") with
          | none => exact ih.cons _
          | some value => exact ih.cons_cons _
    exact contact.nodup.sublist hsub

/-- The class of the results of a personal source, as `load` makes it. -/
def resultClass (config : SourceInfo) : ResultClass :=
  makeResultClass "personal" config.name (some "id") (some config.formatColumns)
    true true

/-- `format_contacts`. -/
def formatContacts (py : TextOps) (config : SourceInfo) (contacts : List ContactInfo) :
    Except PyError (List ViewResult) :=
  contacts.mapM fun contact => do
    let result ← (resultClass config).make py (removeEmptyValues contact)
    return { result with isPersonal := (resultClass config).isPersonal }

end PersonalBackend

namespace PersonalService

variable (w : ListingWorld)

/-- `_find_personal_source`. -/
def findPersonalSource (db : Database) (tenantUuid : Uuid) :
    Except DirdError (Option SourceInfo) := do
  let sources ← SourceCRUD.list w.lower w.sources db (some "personal") (some [tenantUuid]) {}
  return sources.head?

/-- `list_contacts_raw`. -/
def listContactsRaw (db : Database) (userUuid : Option Uuid) (params : SearchParams) :
    Except DirdError (List ContactInfo) :=
  listPersonalContacts w.text w.contactUuids w.fields db userUuid params

/-- `list_contacts`. -/
def listContacts (db : Database) (tenantUuid : Uuid) (userUuid : Option Uuid) :
    Except DirdError (List ViewResult) := do
  match ← findPersonalSource w db tenantUuid with
  | none => return []
  | some personalSource =>
    let contacts ← listContactsRaw w db userUuid {}
    match ← (SourceManager.get w.installed false w.now w.sources db w.cache personalSource.uuid).1
    with
    | none => .error .attribute
    | some source =>
      (PersonalBackend.formatContacts w.py source.config contacts).mapError .python

end PersonalService

/-- `Personal.get` of `default_json`, once the profile is found: the user
is what the token's metadata has. -/
def Personal.get (w : ListingWorld) (db : Database) (tenantUuid : Uuid) (profile : ProfileConfig)
    (userUuid : Option Uuid) : Except DirdError FormattedResults := do
  match profile.display with
  | none => .error .attribute
  | some display =>
    let rawResults ← PersonalService.listContacts w db tenantUuid userUuid
    let favorites := (FavoritesService.favoriteIds w.favorites db profile userUuid).byName
    return ResultFormatter.formatResults display favorites rawResults

namespace PersonalContacts

/-- The contact is another user's. -/
def Contact.ofAnother (userUuid : Option Uuid) (c : Contact) : Bool :=
  c.userUuid.isSome && c.userUuid ≠ userUuid

/-- **Two databases that differ only in contacts of other users**: every
other table is the same, and so are the contacts that are not another
user's, with their rows. -/
structure SameBut (userUuid : Option Uuid) (db db' : Database) : Prop where
  tables : { db with contacts := [], contactFields := [] } =
    { db' with contacts := [], contactFields := [] }
  contacts : (db.contacts.filter fun c => !Contact.ofAnother userUuid c) =
    db'.contacts.filter fun c => !Contact.ofAnother userUuid c
  fields : (db.contactFields.filter fun f => db.contacts.any fun c =>
      c.uuid = f.contactUuid && !Contact.ofAnother userUuid c) =
    db'.contactFields.filter fun f => db'.contacts.any fun c =>
      c.uuid = f.contactUuid && !Contact.ofAnother userUuid c

/-- **The personal list of a user depends on that user's contacts alone**,
in all three of its forms. -/
def ListsOwn (userUuid : Option Uuid) : Prop :=
  ∀ db db', SameBut userUuid db db' → ∀ (w : ListingWorld) tenantUuid profile params,
    PersonalService.listContactsRaw w db userUuid params =
      PersonalService.listContactsRaw w db' userUuid params ∧
    PersonalService.listContacts w db tenantUuid userUuid =
      PersonalService.listContacts w db' tenantUuid userUuid ∧
    Personal.get w db tenantUuid profile userUuid = Personal.get w db' tenantUuid profile userUuid

section

variable {w : ListingWorld} {db db' : Database} {userUuid : Option Uuid} {uuid : Uuid}

/-- The rows of a list of contacts that are not another user's are the
same in both databases. -/
theorem SameBut.listContactsByUuid_eq (h : SameBut userUuid db db') {o : RowOrder ContactFields}
    {uuids : List Uuid}
    (hmine : ∀ uuid ∈ uuids, ∃ c ∈ db.contacts, c.uuid = uuid ∧
      Contact.ofAnother userUuid c = false) :
    listContactsByUuid o db uuids = listContactsByUuid o db' uuids := by
  have hrows : ∀ {d : Database}, (∀ uuid ∈ uuids, ∃ c ∈ d.contacts, c.uuid = uuid ∧
      Contact.ofAnother userUuid c = false) →
      d.contactFields.filter (·.contactUuid ∈ uuids) =
        (d.contactFields.filter fun f => d.contacts.any fun c =>
          c.uuid = f.contactUuid && !Contact.ofAnother userUuid c).filter
            (·.contactUuid ∈ uuids) := by
    intro d hd
    rw [List.filter_filter]
    refine List.filter_congr fun f _ => ?_
    by_cases hf : f.contactUuid ∈ uuids
    · obtain ⟨c, hc, hcf, hown⟩ := hd _ hf
      have hany : (d.contacts.any fun c =>
          c.uuid = f.contactUuid && !Contact.ofAnother userUuid c) = true :=
        List.any_eq_true.2 ⟨c, hc, by simp [hcf, hown]⟩
      simp [hf, hany]
    · simp [hf]
  have hmine' : ∀ uuid ∈ uuids, ∃ c ∈ db'.contacts, c.uuid = uuid ∧
      Contact.ofAnother userUuid c = false := by
    intro uuid huuid
    obtain ⟨c, hc, hcu, hown⟩ := hmine uuid huuid
    have hmem : c ∈ db.contacts.filter fun c => !Contact.ofAnother userUuid c :=
      List.mem_filter.2 ⟨hc, by simp [hown]⟩
    rw [h.contacts] at hmem
    exact ⟨c, (List.mem_filter.1 hmem).1, hcu, hown⟩
  rw [listContactsByUuid, listContactsByUuid, hrows hmine, hrows hmine', h.fields]

/-- **With a user, the query lists the user's contacts.** -/
theorem SameBut.listPersonalContacts_eq (h : SameBut (some uuid) db db') (huuid : uuid ≠ "")
    {text : SortText} {ou : RowOrder Uuid} {o : RowOrder ContactFields} {params : SearchParams} :
    listPersonalContacts text ou o db (some uuid) params =
      listPersonalContacts text ou o db' (some uuid) params := by
  have hfilter : (some uuid).filter (· ≠ "") = some uuid := by simp [Option.filter, huuid]
  have hown : ∀ {d : Database}, d.contacts.filter (·.userUuid = some uuid) =
      (d.contacts.filter fun c => !Contact.ofAnother (some uuid) c).filter
        (·.userUuid = some uuid) := by
    intro d
    rw [List.filter_filter]
    refine List.filter_congr fun c _ => ?_
    by_cases hc : c.userUuid = some uuid
    · simp [hc, Contact.ofAnother]
    · simp [hc]
  have hcontacts : db.contacts.filter (·.userUuid = some uuid) =
      db'.contacts.filter (·.userUuid = some uuid) := by
    rw [hown, h.contacts, ← hown]
  have hlist : listContactsByUuid o db
        (ou.order ((db.contacts.filter (·.userUuid = some uuid)).map Contact.uuid).dedup) =
      listContactsByUuid o db'
        (ou.order ((db'.contacts.filter (·.userUuid = some uuid)).map Contact.uuid).dedup) := by
    rw [← hcontacts]
    refine h.listContactsByUuid_eq fun uuid' huuid' => ?_
    rw [RowOrder.mem_order, List.mem_dedup, List.mem_map] at huuid'
    obtain ⟨c, hc, rfl⟩ := huuid'
    obtain ⟨hc, hcu⟩ := List.mem_filter.1 hc
    exact ⟨c, hc, rfl, by simp [Contact.ofAnother, of_decide_eq_true hcu]⟩
  simp only [listPersonalContacts, hfilter, hlist]

/-- What reads the other tables alone answers the same. -/
theorem SameBut.eq_of_tables {α : Type} (h : SameBut userUuid db db') {f : Database → α}
    (hf : ∀ d, f d = f { d with contacts := [], contactFields := [] }) : f db = f db' := by
  rw [hf db, hf db', h.tables]

/-- **With a user, all three forms of the list are the user's.** -/
theorem listsOwn_of_user (huuid : uuid ≠ "") : ListsOwn (some uuid) := by
  intro db db' h w tenantUuid profile params
  have hraw : ∀ params, PersonalService.listContactsRaw w db (some uuid) params =
      PersonalService.listContactsRaw w db' (some uuid) params :=
    fun params => h.listPersonalContacts_eq huuid
  have hfind : PersonalService.findPersonalSource w db tenantUuid =
      PersonalService.findPersonalSource w db' tenantUuid :=
    h.eq_of_tables (f := fun d => PersonalService.findPersonalSource w d tenantUuid) fun _ => rfl
  have hget : ∀ u, SourceManager.get w.installed false w.now w.sources db w.cache u =
      SourceManager.get w.installed false w.now w.sources db' w.cache u := fun u =>
    h.eq_of_tables (f := fun d => SourceManager.get w.installed false w.now w.sources d w.cache u)
      fun _ => rfl
  have hlist : PersonalService.listContacts w db tenantUuid (some uuid) =
      PersonalService.listContacts w db' tenantUuid (some uuid) := by
    simp only [PersonalService.listContacts, hraw, hfind, hget]
  have hfavorites : FavoritesService.favoriteIds w.favorites db profile (some uuid) =
      FavoritesService.favoriteIds w.favorites db' profile (some uuid) :=
    h.eq_of_tables (f := fun d => FavoritesService.favoriteIds w.favorites d profile (some uuid))
      fun _ => rfl
  refine ⟨hraw params, hlist, ?_⟩
  simp only [Personal.get, hlist, hfavorites]

/-! ## Without a user -/

/-- A world without a source. -/
def bareWorld : ListingWorld where
  py := plainText
  lower := id
  text := ⟨id, id⟩
  installed _ := false

/-- One contact, of one user. -/
def oneContact : Database where
  contacts := [{ uuid := "c", userUuid := some "v" }]
  contactFields := [⟨"c", "name", some "Alice"⟩]

/-- An empty database, and one with a contact of some user, differ only in
a contact of another user. -/
theorem sameBut_oneContact (huser : userUuid ≠ some "v") : SameBut userUuid {} oneContact := by
  have hother : ∀ c ∈ oneContact.contacts, Contact.ofAnother userUuid c = true := by
    intro c hc
    rw [List.mem_singleton.1 hc]
    simp [Contact.ofAnother, huser.symm]
  refine ⟨rfl, ?_, ?_⟩
  · refine (List.filter_eq_nil_iff.2 fun c hc => ?_).symm
    simp [hother c hc]
  · refine (List.filter_eq_nil_iff.2 fun f _ => ?_).symm
    rw [Bool.not_eq_true, List.any_eq_false]
    intro c hc
    simp [hother c hc]

/-- **Without a user the list is everyone's.** -/
theorem not_listsOwn (huser : userUuid.filter (· ≠ "") = none) : ¬ ListsOwn userUuid := by
  intro h
  have hother : userUuid ≠ some "v" := by
    rintro rfl
    cases huser
  have hraw := (h {} oneContact (sameBut_oneContact hother) bareWorld "t" { name := "default" }
    {}).1
  simp only [PersonalService.listContactsRaw, listPersonalContacts, huser] at hraw
  revert hraw
  decide

/-- **The personal list is the user's own exactly when there is a user.** -/
theorem listsOwn_iff (userUuid : Option Uuid) :
    ListsOwn userUuid ↔ ∃ uuid, userUuid = some uuid ∧ uuid ≠ "" := by
  constructor
  · intro h
    cases hfilter : userUuid.filter (· ≠ "") with
    | none => exact absurd h (not_listsOwn hfilter)
    | some uuid =>
        obtain ⟨rfl, hne⟩ := Option.filter_eq_some_iff.1 hfilter
        exact ⟨uuid, rfl, by simpa using hne⟩
  · rintro ⟨uuid, rfl, huuid⟩
    exact listsOwn_of_user huuid

/-- A token without a user. -/
theorem not_listsOwn_none : ¬ ∀ userUuid, ListsOwn userUuid := fun h =>
  not_listsOwn rfl (h none)

end

end PersonalContacts

end WazoDird
