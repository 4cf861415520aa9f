import WazoDird.Common.Dict
import WazoDird.Common.Except
import WazoDird.Common.Value

/-!
# The tables, and a session on them

The rows of `database/models.py` that the directory's services read and
write, the database they make, and `newSession`, which commits what its
body did or, when the body raises, leaves the database as it was.

A query returns its rows in no particular order, so every query here
takes the order in which the server answers it (`RowOrder`); what is
proved of a query is proved for every such order.
-/

namespace WazoDird

/-- A uuid, as its text: the columns holding one are strings. -/
abbrev Uuid := String

/-- `dird_tenant`. -/
structure Tenant where
  uuid : Uuid
  country : Option String := none
  deriving DecidableEq, Repr

/-- `dird_user`. -/
structure User where
  userUuid : Uuid
  tenantUuid : Uuid
  deriving DecidableEq, Repr

/-- `dird_phonebook`. -/
structure Phonebook where
  id : ℕ
  uuid : Uuid
  name : String
  description : Option String := none
  tenantUuid : Uuid
  deriving DecidableEq, Repr

/-- `dird_source`. The column `name` is the attribute `_name`; what a
source is called is `Database.sourceName`. -/
structure Source where
  uuid : Uuid
  rawName : String
  tenantUuid : Uuid
  backend : String
  searchedColumns : List String := []
  firstMatchedColumns : List String := []
  formatColumns : Dict String String := ∅
  extraFields : Dict String Value := ∅
  phonebookUuid : Option Uuid := none
  deriving DecidableEq, Repr

/-- `dird_favorite`, whose three columns are its primary key. -/
structure Favorite where
  sourceUuid : Uuid
  contactId : String
  userUuid : Uuid
  deriving DecidableEq, Repr

/-- `dird_contact`: a contact of a user or of a phonebook. -/
structure Contact where
  uuid : Uuid
  userUuid : Option Uuid := none
  phonebookUuid : Option Uuid := none
  hash : String := ""
  deriving DecidableEq, Repr

/-- `dird_contact_fields`: one name and value of a contact. The `value`
column is nullable. -/
structure ContactFields where
  contactUuid : Uuid
  name : String
  value : Option String
  deriving DecidableEq, Repr

/-- **The database**: its tables, each the list of its rows. -/
structure Database where
  tenants : List Tenant := []
  users : List User := []
  phonebooks : List Phonebook := []
  sources : List Source := []
  favorites : List Favorite := []
  contacts : List Contact := []
  contactFields : List ContactFields := []
  deriving DecidableEq, Repr

/-- The order in which the server returns the rows of a query. Without
an `ORDER BY` it is unspecified: any permutation of the rows. -/
structure RowOrder (α : Type*) where
  order : List α → List α
  perm : ∀ l, (order l).Perm l

namespace RowOrder

variable {α : Type*}

/-- The rows as the table holds them. -/
def asStored : RowOrder α := ⟨id, fun _ => List.Perm.refl _⟩

/-- The rows newest first. -/
def newestFirst : RowOrder α := ⟨List.reverse, List.reverse_perm⟩

/-- One row of the answer put first. -/
def front [DecidableEq α] (x : α) : RowOrder α where
  order l := if x ∈ l then x :: l.erase x else l
  perm l := by
    split
    · next h => exact (List.perm_cons_erase h).symm
    · exact List.Perm.refl l

/-- The rows of a condition put last. -/
def last (p : α → Bool) : RowOrder α where
  order l := l.filter (fun x => !p x) ++ l.filter p
  perm l := List.perm_append_comm.trans (List.filter_append_perm p l)

@[simp] theorem mem_order (o : RowOrder α) {x : α} {l : List α} : x ∈ o.order l ↔ x ∈ l :=
  (o.perm l).mem_iff

/-- `query.first()`: the first row in the order of the answer. -/
def first (o : RowOrder α) (l : List α) : Option α := (o.order l).head?

/-- The row `first` takes is one of the query's. -/
theorem mem_of_first {o : RowOrder α} {l : List α} {x : α} (h : o.first l = some x) : x ∈ l :=
  o.mem_order.1 (List.mem_of_head? h)

/-- A query of one row has it first. -/
theorem first_singleton (o : RowOrder α) (x : α) : o.first [x] = some x := by
  rw [first, List.perm_singleton.1 (o.perm [x])]
  rfl

/-- A query without a row has no first one. -/
theorem first_eq_none {o : RowOrder α} {l : List α} : o.first l = none ↔ l = [] := by
  rw [first, List.head?_eq_none_iff]
  exact ⟨fun h => List.Perm.eq_nil ((o.perm l).symm.trans (h ▸ List.Perm.refl _)),
    fun h => List.Perm.eq_nil ((o.perm l).trans (h ▸ List.Perm.refl _))⟩

end RowOrder

/-- `PhonebookKey`: a phonebook named by its uuid or by its number. -/
inductive PhonebookKey where
  | uuid (uuid : Uuid)
  | id (id : ℕ)
  deriving DecidableEq, Repr

/-- `ContactEntryError`: one contact of an import that could not be
created, with its place in the list. A line of the file with more cells
than the header has them under no key at all. -/
structure ContactEntryError where
  contact : Dict (Option String) Value
  message : String
  index : ℕ
  deriving DecidableEq, Repr

/-- What an operation of the directory raises. -/
inductive DirdError where
  /-- `NoSuchSource`. -/
  | noSuchSource (uuid : Uuid)
  /-- `DuplicatedSourceException`, with the name of the body. -/
  | duplicatedSource (name : Option String)
  /-- `InvalidSourceConfigError`, of a foreign key. -/
  | invalidSourceConfig
  /-- `NoSuchPhonebook`, with the key and the tenants it was looked up in. -/
  | noSuchPhonebook (key : PhonebookKey) (tenantsInScope : Option (List Uuid))
  /-- `DuplicatedPhonebookException`. -/
  | duplicatedPhonebook
  /-- `PhonebookCreationError`, with the tenant of its details. -/
  | phonebookCreation (tenantUuid : Uuid)
  /-- `PhonebookUpdateError`. -/
  | phonebookUpdate
  /-- `InvalidPhonebookException`, with the field that failed. -/
  | invalidPhonebook (field : String)
  /-- `NoSuchFavorite`. -/
  | noSuchFavorite (sourceName contactId : String)
  /-- `DuplicatedFavoriteException`. -/
  | duplicatedFavorite
  /-- `_FavoritesService.NoSuchSourceException`. -/
  | noSuchSourceName (sourceName : String)
  /-- An assertion of the code failed. -/
  | assertion
  /-- An attribute was read on none. -/
  | attribute
  /-- A query was given an argument it cannot be built from. -/
  | argument
  /-- An integrity error the operation does not translate. -/
  | integrity
  /-- A text longer than its column. -/
  | data
  /-- `NoSuchContact`. -/
  | noSuchContact (uuid : String)
  /-- `DuplicatedContactException`. -/
  | duplicatedContact
  /-- `InvalidContactException`, with its message. -/
  | invalidContact (message : String)
  /-- `ContactCreationError`, of one contact. -/
  | contactCreation (message hash : String) (tenantUuid : Uuid) (key : PhonebookKey)
  /-- `ContactCreationError`, of an import. -/
  | contactsCreation (message : String) (errors : List ContactEntryError)
  /-- `ContactUpdateError`. -/
  | contactUpdate (message hash : String)
  /-- `NoSuchDisplay`. -/
  | noSuchDisplay (uuid : Uuid)
  /-- `NoSuchTenant`. -/
  | noSuchTenant (uuid : Option Uuid)
  /-- `NoSuchProfileAPIException`. -/
  | noSuchProfileAPI (uuid : Uuid)
  /-- `NoSuchProfile`, with the name it was looked up by. -/
  | noSuchProfile (name : String)
  /-- `DuplicatedProfileException`. -/
  | duplicatedProfile (name : String)
  /-- `DatabaseServiceUnavailable`. -/
  | databaseServiceUnavailable
  /-- What the language, or the driver, raises. -/
  | python (error : PyError)
  deriving DecidableEq, Repr

/-- Raise under a condition. -/
def raiseIf (q : Prop) [Decidable q] (e : DirdError) : Except DirdError Unit :=
  if q then .error e else .ok ()

/-- A condition under which nothing was raised. -/
theorem raiseIf_ok {q : Prop} [Decidable q] {e : DirdError} : raiseIf q e = .ok () ↔ ¬ q := by
  by_cases hq : q <;> simp [raiseIf, hq]

/-- What was raised under a condition. -/
theorem raiseIf_error {q : Prop} [Decidable q] {e e' : DirdError} :
    raiseIf q e = .error e' ↔ q ∧ e = e' := by
  by_cases hq : q <;> simp [raiseIf, hq]

/-- No text has a null character. -/
def NullFree (texts : List String) : Prop := ∀ text ∈ texts, '\x00' ∉ text.toList

instance (texts : List String) : Decidable (NullFree texts) :=
  inferInstanceAs (Decidable (∀ text ∈ texts, _))

theorem nullFree_cons {text : String} {texts : List String} :
    NullFree (text :: texts) ↔ '\x00' ∉ text.toList ∧ NullFree texts :=
  List.forall_mem_cons

theorem nullFree_append {texts texts' : List String} :
    NullFree (texts ++ texts') ↔ NullFree texts ∧ NullFree texts' :=
  List.forall_mem_append

/-- The driver takes the texts of a query: it refuses a null character,
before anything is sent. -/
def takeTexts (texts : List String) : Except DirdError Unit :=
  raiseIf (¬ NullFree texts) (.python .valueError)

/-- The texts that the driver takes. -/
theorem takeTexts_ok {texts : List String} : takeTexts texts = .ok () ↔ NullFree texts :=
  raiseIf_ok.trans not_not

/-- What follows the texts is asked when they are taken. -/
theorem takeTexts_bind {α : Type} {texts : List String} {x : Except DirdError α} :
    (takeTexts texts >>= fun _ => x) = if NullFree texts then x else .error (.python .valueError) := by
  unfold takeTexts raiseIf
  by_cases h : NullFree texts
  · rw [if_neg (not_not.2 h), if_pos h]
    rfl
  · rw [if_pos h, if_neg h]
    rfl

/-- What follows the texts that are taken. -/
theorem takeTexts_bind_of {α : Type} {texts : List String} (h : NullFree texts)
    (x : Except DirdError α) : (takeTexts texts >>= fun _ => x) = x :=
  takeTexts_bind.trans (if_pos h)

/-- A uuid longer than all of a list. -/
def longerUuid (uuids : List Uuid) : Uuid := String.ofList ('x' :: uuids.flatMap String.toList)

theorem longerUuid_not_mem (uuids : List Uuid) : longerUuid uuids ∉ uuids := by
  intro hmem
  have hle : (longerUuid uuids).toList.length ≤ (uuids.flatMap String.toList).length := by
    rw [List.flatMap_def]
    exact (List.sublist_flatten_of_mem (List.mem_map_of_mem hmem)).length_le
  rw [longerUuid, String.toList_ofList, List.length_cons] at hle
  omega

/-- **`BaseDAO.new_session`**: commit what the body did, or roll back and
raise what it raised. -/
def newSession {α : Type} (db : Database) (body : Except DirdError (Database × α)) :
    Except DirdError α × Database :=
  match body with
  | .ok (db', a) => (.ok a, db')
  | .error e => (.error e, db)

@[simp] theorem newSession_error {α : Type} (db : Database) (e : DirdError) :
    newSession (α := α) db (.error e) = (.error e, db) := rfl

/-- **A session that fails changes nothing**, and one that succeeds leaves
what its body left. -/
theorem newSession_snd {α : Type} {db db' : Database} {body : Except DirdError (Database × α)}
    {r : Except DirdError α} (h : newSession db body = (r, db')) :
    (∃ e, r = .error e ∧ db' = db) ∨ (∃ a, r = .ok a ∧ body = .ok (db', a)) := by
  unfold newSession at h
  split at h
  · next d a =>
    obtain ⟨rfl, rfl⟩ := Prod.mk.inj h
    exact Or.inr ⟨a, rfl, rfl⟩
  · next e =>
    obtain ⟨rfl, rfl⟩ := Prod.mk.inj h
    exact Or.inl ⟨e, rfl, rfl⟩

namespace Database

/-- `BaseDAO._create_tenant`: a tenant that is already there makes the
flush fail, and the rollback leaves what the session had found. -/
def createTenant (db : Database) (uuid : Uuid) : Database :=
  if db.tenants.any (·.uuid = uuid) then db
  else { db with tenants := db.tenants ++ [{ uuid := uuid }] }

/-! Nothing else of the database changes. -/

@[simp] theorem createTenant_sources (db : Database) (uuid : Uuid) :
    (db.createTenant uuid).sources = db.sources := by
  unfold createTenant
  split <;> rfl

@[simp] theorem createTenant_phonebooks (db : Database) (uuid : Uuid) :
    (db.createTenant uuid).phonebooks = db.phonebooks := by
  unfold createTenant
  split <;> rfl

@[simp] theorem createTenant_favorites (db : Database) (uuid : Uuid) :
    (db.createTenant uuid).favorites = db.favorites := by
  unfold createTenant
  split <;> rfl

@[simp] theorem createTenant_contacts (db : Database) (uuid : Uuid) :
    (db.createTenant uuid).contacts = db.contacts := by
  unfold createTenant
  split <;> rfl

@[simp] theorem createTenant_contactFields (db : Database) (uuid : Uuid) :
    (db.createTenant uuid).contactFields = db.contactFields := by
  unfold createTenant
  split <;> rfl

/-- The phonebook a primary key names: `session.query(Phonebook).get(uuid)`. -/
def getPhonebook (db : Database) (uuid : Uuid) : Option Phonebook :=
  db.phonebooks.find? (·.uuid = uuid)

/-- The phonebook a primary key names is one of the table's. -/
theorem mem_of_getPhonebook {db : Database} {uuid : Uuid} {p : Phonebook}
    (h : db.getPhonebook uuid = some p) : p ∈ db.phonebooks ∧ p.uuid = uuid :=
  ⟨List.mem_of_find?_eq_some h, by simpa using List.find?_some h⟩

/-- **`Source.name`**: a phonebook source is called what its phonebook is
called, any other what its own column says. -/
def sourceName (db : Database) (s : Source) : Option String :=
  if s.backend = "phonebook" then (s.phonebookUuid.bind db.getPhonebook).map Phonebook.name
  else some s.rawName

/-- What a source is called depends on the phonebooks alone. -/
theorem sourceName_congr {db db' : Database} (h : db'.phonebooks = db.phonebooks) (s : Source) :
    db'.sourceName s = db.sourceName s := by
  have hget : db'.getPhonebook = db.getPhonebook := by
    funext uuid
    rw [getPhonebook, getPhonebook, h]
  rw [sourceName, sourceName, hget]

/-- A source keeps its name when its phonebook keeps its own. -/
theorem sourceName_of_phonebook {db db' : Database} {s : Source} {name : String}
    (h : ∀ uuid p, s.phonebookUuid = some uuid → db.getPhonebook uuid = some p →
      ∃ p', db'.getPhonebook uuid = some p' ∧ p'.name = p.name)
    (hname : db.sourceName s = some name) : db'.sourceName s = some name := by
  unfold sourceName at hname ⊢
  split at hname
  · next hb =>
    rw [if_pos hb]
    obtain ⟨p, hp, rfl⟩ := Option.map_eq_some_iff.1 hname
    obtain ⟨uuid, huuid, hget⟩ := Option.bind_eq_some_iff.1 hp
    obtain ⟨p', hp', hn⟩ := h uuid p huuid hget
    rw [huuid, Option.bind_some, hp', Option.map_some, hn]
  · next hb => rw [if_neg hb, hname]

end Database

end WazoDird
