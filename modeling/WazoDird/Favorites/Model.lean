import WazoDird.Common.Run
import WazoDird.Database.Queries.Favorite
import WazoDird.Database.Queries.Phonebook

/-!
# The favorites service, among the other writers of its tables

`new_favorite` and `remove_favorite` of the favorites service, and one
step relation for everything that writes the tables a favorite depends
on: sources and phonebooks created, edited and deleted on behalf of a
tenant, favorites created through the service or directly.

`owner` says which tenant a user belongs to, which is the authentication
service's to know: a request for a user is made on behalf of the user's
own tenant.
-/

namespace WazoDird

/-- What the server answers during one operation: how it lowers a text,
the order of the rows of each query, and what it fills in. -/
structure Answers where
  lower : String → String
  listed : RowOrder Source
  lookup : RowOrder Source
  source : SourceDefaults
  phonebook : PhonebookDefaults

/-- The events the service publishes. -/
inductive FavoriteEvent where
  /-- `FavoriteAddedEvent`. -/
  | added (sourceName contactId : String) (wazoUuid : Option String) (tenantUuid userUuid : Uuid)
  /-- `FavoriteDeletedEvent`. -/
  | deleted (sourceName contactId : String) (wazoUuid : Option String) (tenantUuid userUuid : Uuid)
  deriving DecidableEq, Repr

namespace FavoritesService

/-- `_available_sources`. -/
def availableSources (a : Answers) (db : Database) (tenantUuid : Uuid) :
    Except DirdError (List SourceInfo) :=
  SourceCRUD.list a.lower a.listed db none (some [tenantUuid]) {}

/-- The first available source of a name. -/
def matchingSource (a : Answers) (db : Database) (tenantUuid : Uuid) (sourceName : String) :
    Except DirdError SourceInfo := do
  let sources ← availableSources a db tenantUuid
  match sources.find? (·.name = sourceName) with
  | none => .error (.noSuchSourceName sourceName)
  | some source => .ok source

/-- `new_favorite`. The source is found among the tenant's, and then
looked up again by its name and backend alone. -/
def newFavorite (a : Answers) (wazoUuid : Option String) (db : Database) (tenantUuid : Uuid)
    (sourceName contactId : String) (userUuid : Uuid) :
    Except DirdError FavoriteEvent × Database :=
  match matchingSource a db tenantUuid sourceName with
  | .error e => (.error e, db)
  | .ok source =>
    match FavoriteCRUD.create a.lookup db userUuid tenantUuid source.backend sourceName
        contactId with
    | (.error e, db') => (.error e, db')
    | (.ok _, db') => (.ok (.added sourceName contactId wazoUuid tenantUuid userUuid), db')

/-- `remove_favorite`. -/
def removeFavorite (a : Answers) (wazoUuid : Option String) (db : Database) (tenantUuid : Uuid)
    (sourceName contactId : String) (userUuid : Uuid) :
    Except DirdError FavoriteEvent × Database :=
  match matchingSource a db tenantUuid sourceName with
  | .error e => (.error e, db)
  | .ok _ =>
    match FavoriteCRUD.delete db userUuid sourceName contactId with
    | (.error e, db') => (.error e, db')
    | (.ok _, db') => (.ok (.deleted sourceName contactId wazoUuid tenantUuid userUuid), db')

end FavoritesService

/-- **An operation on behalf of a tenant.** -/
inductive DirectoryOp where
  | createSource (tenant : Uuid) (backend : String) (body : SourceBody)
  | editSource (tenant : Uuid) (backend : String) (sourceUuid : Uuid) (body : SourceBody)
  | deleteSource (tenant : Uuid) (backend : String) (sourceUuid : Uuid)
  | createPhonebook (tenant : Uuid) (body : PhonebookBody)
  | editPhonebook (tenant : Uuid) (key : PhonebookKey) (body : PhonebookBody)
  | deletePhonebook (tenant : Uuid) (key : PhonebookKey)
  /-- `FavoriteCRUD.create`, called directly. -/
  | createFavorite (tenant : Uuid) (backend sourceName contactId : String) (userUuid : Uuid)
  | newFavorite (tenant : Uuid) (sourceName contactId : String) (userUuid : Uuid)
  | removeFavorite (tenant : Uuid) (sourceName contactId : String) (userUuid : Uuid)
  deriving DecidableEq

namespace DirectoryOp

/-- The tenant on whose behalf an operation is. -/
def tenant : DirectoryOp → Uuid
  | createSource t .. | editSource t .. | deleteSource t .. | createPhonebook t ..
  | editPhonebook t .. | deletePhonebook t .. | createFavorite t .. | newFavorite t ..
  | removeFavorite t .. => t

/-- The user an operation is for, when it is for one. -/
def user : DirectoryOp → Option Uuid
  | createFavorite _ _ _ _ u | newFavorite _ _ _ u | removeFavorite _ _ _ u => some u
  | _ => none

/-- The database an operation leaves. -/
def exec (a : Answers) (db : Database) : DirectoryOp → Database
  | createSource t backend body => (SourceCRUD.create db a.source backend t body).2
  | editSource t backend uuid body => (SourceCRUD.edit a.lookup db backend uuid (some [t]) body).2
  | deleteSource t backend uuid => (SourceCRUD.delete db backend uuid (some [t])).2
  | createPhonebook t body => (PhonebookCRUD.create db a.phonebook t body).2
  | editPhonebook t key body => (PhonebookCRUD.edit db (some [t]) key body).2
  | deletePhonebook t key => (PhonebookCRUD.delete db (some [t]) key).2
  | createFavorite t backend name contact u =>
      (FavoriteCRUD.create a.lookup db u t backend name contact).2
  | newFavorite t name contact u => (FavoritesService.newFavorite a none db t name contact u).2
  | removeFavorite t name contact u =>
      (FavoritesService.removeFavorite a none db t name contact u).2

end DirectoryOp

/-- **One operation**: some answers of the server, and the user, if any,
one of the tenant's. -/
def DirectoryStep (owner : Uuid → Uuid) (db : Database) (op : DirectoryOp) (db' : Database) :
    Prop :=
  (∀ u, op.user = some u → owner u = op.tenant) ∧ ∃ a, op.exec a db = db'

/-- The favorites of a user: the source and the contact of each. -/
def favoritesOf (db : Database) (userUuid : Uuid) : List (Uuid × String) :=
  (db.favorites.filter (·.userUuid = userUuid)).map fun f => (f.sourceUuid, f.contactId)

/-- **No other tenant's source answers the lookup of a new favorite**:
every source of the name and backend it is looked up by belongs to the
tenant. `new_favorite` looks it up by the backend of one of the tenant's
own sources of that name. -/
def SourceResolved (db : Database) : DirectoryOp → Prop
  | .createFavorite t backend name _ _ =>
      ∀ s ∈ db.sources, db.sourceName s = some name → s.backend = backend → s.tenantUuid = t
  | .newFavorite t name _ _ =>
      ∀ own ∈ db.sources, own.tenantUuid = t → db.sourceName own = some name →
        ∀ s ∈ db.sources, db.sourceName s = some name → s.backend = own.backend → s.tenantUuid = t
  | _ => True

instance (db : Database) (op : DirectoryOp) : Decidable (SourceResolved db op) :=
  match op with
  | .createFavorite t backend name _ _ => inferInstanceAs (Decidable
      (∀ s ∈ db.sources, db.sourceName s = some name → s.backend = backend → s.tenantUuid = t))
  | .newFavorite t name _ _ => inferInstanceAs (Decidable
      (∀ own ∈ db.sources, own.tenantUuid = t → db.sourceName own = some name →
        ∀ s ∈ db.sources, db.sourceName s = some name → s.backend = own.backend →
          s.tenantUuid = t))
  | .createSource .. | .editSource .. | .deleteSource .. | .createPhonebook ..
  | .editPhonebook .. | .deletePhonebook .. | .removeFavorite .. => isTrue trivial

end WazoDird
