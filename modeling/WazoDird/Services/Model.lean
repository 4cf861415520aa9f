import WazoDird.Common.Run
import WazoDird.Database.Queries.Phonebook
import WazoDird.SourceManager.Model

/-!
# The source and phonebook services

The services that change what a source is, and the plugin cache they
share with the source manager. `_SourceService.edit` invalidates what it
edited; `_SourceService.delete` and the phonebook service, whose edit
renames the sources of a phonebook and whose delete drops them, touch
the database alone.

Calls come one after the other here; what `get` and `edit` do while
others are under way is in `SourceManager/Freshness.lean`.
-/

namespace WazoDird

/-- The database, and the plugins the source manager holds. -/
structure ServiceState where
  db : Database
  sources : PluginCache := ∅

/-- What the world answers during one call: the order of the rows of a
query, what the server fills in, whether the plugin's `load` raises, and
the moment. -/
structure ServiceAnswers where
  rows : RowOrder Source
  source : SourceDefaults
  phonebook : PhonebookDefaults
  raises : Bool
  now : ℕ

namespace SourceService

/-- `create`. -/
def create (a : ServiceAnswers) (s : ServiceState) (backend : String) (tenantUuid : Uuid)
    (body : SourceBody) : Except DirdError SourceInfo × ServiceState :=
  let (r, db) := SourceCRUD.create s.db a.source backend tenantUuid body
  (r, { s with db := db })

/-- `delete`. -/
def delete (s : ServiceState) (backend : String) (sourceUuid : Uuid)
    (visibleTenants : List Uuid) : Except DirdError Unit × ServiceState :=
  let (r, db) := SourceCRUD.delete s.db backend sourceUuid (some visibleTenants)
  (r, { s with db := db })

/-- `edit`: what raises in the database is not followed by the
invalidation. -/
def edit (a : ServiceAnswers) (s : ServiceState) (backend : String) (sourceUuid : Uuid)
    (visibleTenants : List Uuid) (body : SourceBody) :
    Except DirdError SourceInfo × ServiceState :=
  match SourceCRUD.edit a.rows s.db backend sourceUuid (some visibleTenants) body with
  | (.error e, db) => (.error e, { s with db := db })
  | (.ok info, db) =>
    (.ok info, { db := db, sources := SourceManager.invalidate s.sources sourceUuid })

end SourceService

namespace PhonebookService

/-- `_PhonebookSchema().load`: the name is between 1 and 255 characters
long. -/
def load (body : PhonebookBody) : Except DirdError PhonebookBody :=
  if 1 ≤ body.name.length ∧ body.name.length ≤ 255 then .ok body
  else .error (.invalidPhonebook "name")

/-- `create_phonebook`. -/
def createPhonebook (a : ServiceAnswers) (s : ServiceState) (tenantUuid : Uuid)
    (info : PhonebookBody) : Except DirdError Phonebook × ServiceState :=
  match load info with
  | .error e => (.error e, s)
  | .ok body =>
    let (r, db) := PhonebookCRUD.create s.db a.phonebook tenantUuid body
    (r, { s with db := db })

/-- `edit_phonebook`. -/
def editPhonebook (s : ServiceState) (visibleTenants : List Uuid) (key : PhonebookKey)
    (info : PhonebookBody) : Except DirdError Phonebook × ServiceState :=
  match load info with
  | .error e => (.error e, s)
  | .ok body =>
    let (r, db) := PhonebookCRUD.edit s.db (some visibleTenants) key body
    (r, { s with db := db })

/-- `delete_phonebook`. -/
def deletePhonebook (s : ServiceState) (visibleTenants : List Uuid) (key : PhonebookKey) :
    Except DirdError Unit × ServiceState :=
  let (r, db) := PhonebookCRUD.delete s.db (some visibleTenants) key
  (r, { s with db := db })

/-- The schema changes nothing of what it accepts. -/
theorem load_ok {body body' : PhonebookBody} (h : load body = .ok body') : body' = body := by
  unfold load at h
  split at h
  · cases h; rfl
  · cases h

end PhonebookService

/-! ## What a call does to the database and the cache -/

section Spec

variable {a : ServiceAnswers} {s s' : ServiceState} {backend : String} {sourceUuid tenant : Uuid}
  {tenants : List Uuid} {key : PhonebookKey}

theorem SourceService.create_spec {body : SourceBody} {r : Except DirdError SourceInfo}
    (h : create a s backend tenant body = (r, s')) :
    s'.sources = s.sources ∧ SourceCRUD.create s.db a.source backend tenant body = (r, s'.db) := by
  cases h
  exact ⟨rfl, rfl⟩

theorem SourceService.delete_spec {r : Except DirdError Unit}
    (h : delete s backend sourceUuid tenants = (r, s')) :
    s'.sources = s.sources ∧
      SourceCRUD.delete s.db backend sourceUuid (some tenants) = (r, s'.db) := by
  cases h
  exact ⟨rfl, rfl⟩

/-- An edit that raises leaves the cache as it was, one that returns has
dropped the entry. -/
theorem SourceService.edit_spec {body : SourceBody} {r : Except DirdError SourceInfo}
    (h : edit a s backend sourceUuid tenants body = (r, s')) :
    SourceCRUD.edit a.rows s.db backend sourceUuid (some tenants) body = (r, s'.db) ∧
      ((∃ e, r = .error e ∧ s'.sources = s.sources) ∨
      ∃ info, r = .ok info ∧ s'.sources = SourceManager.invalidate s.sources sourceUuid) := by
  unfold edit at h
  split at h
  · next e db hedit =>
    cases h
    exact ⟨hedit, Or.inl ⟨e, rfl, rfl⟩⟩
  · next info db hedit =>
    cases h
    exact ⟨hedit, Or.inr ⟨info, rfl, rfl⟩⟩

theorem PhonebookService.createPhonebook_spec {body : PhonebookBody}
    {r : Except DirdError Phonebook} (h : createPhonebook a s tenant body = (r, s')) :
    s' = s ∨ s'.sources = s.sources ∧
      PhonebookCRUD.create s.db a.phonebook tenant body = (r, s'.db) := by
  unfold createPhonebook at h
  split at h
  · cases h; exact Or.inl rfl
  · next hload =>
    rw [load_ok hload] at h
    cases h
    exact Or.inr ⟨rfl, rfl⟩

theorem PhonebookService.editPhonebook_spec {body : PhonebookBody}
    {r : Except DirdError Phonebook} (h : editPhonebook s tenants key body = (r, s')) :
    s' = s ∨ s'.sources = s.sources ∧
      PhonebookCRUD.edit s.db (some tenants) key body = (r, s'.db) := by
  unfold editPhonebook at h
  split at h
  · cases h; exact Or.inl rfl
  · next hload =>
    rw [load_ok hload] at h
    cases h
    exact Or.inr ⟨rfl, rfl⟩

/-- An edit that returns is one of the database. -/
theorem PhonebookService.editPhonebook_ok {body : PhonebookBody} {p : Phonebook}
    (h : editPhonebook s tenants key body = (.ok p, s')) :
    PhonebookCRUD.edit s.db (some tenants) key body = (.ok p, s'.db) := by
  unfold editPhonebook at h
  split at h
  · cases h
  · next hload =>
    rw [load_ok hload] at h
    obtain ⟨hr, hs⟩ := Prod.mk.inj h
    exact Prod.ext hr (hs ▸ rfl)

theorem PhonebookService.deletePhonebook_spec {r : Except DirdError Unit}
    (h : deletePhonebook s tenants key = (r, s')) :
    s'.sources = s.sources ∧ PhonebookCRUD.delete s.db (some tenants) key = (r, s'.db) := by
  cases h
  exact ⟨rfl, rfl⟩

end Spec

/-- **A call**, with what it answered: it returned, or it raised. -/
inductive ServiceCall where
  | get (sourceUuid : Uuid) (result : Except DirdError (Option Plugin))
  | createSource (backend : String) (tenantUuid : Uuid) (body : SourceBody)
      (result : Except DirdError SourceInfo)
  | editSource (backend : String) (sourceUuid : Uuid) (visibleTenants : List Uuid)
      (body : SourceBody) (result : Except DirdError SourceInfo)
  | deleteSource (backend : String) (sourceUuid : Uuid) (visibleTenants : List Uuid)
      (result : Except DirdError Unit)
  | createPhonebook (tenantUuid : Uuid) (body : PhonebookBody)
      (result : Except DirdError Phonebook)
  | editPhonebook (visibleTenants : List Uuid) (key : PhonebookKey) (body : PhonebookBody)
      (result : Except DirdError Phonebook)
  | deletePhonebook (visibleTenants : List Uuid) (key : PhonebookKey)
      (result : Except DirdError Unit)

/-- **One call**, under some answers of the world. -/
inductive ServiceStep (installed : String → Bool) :
    ServiceState → ServiceCall → ServiceState → Prop
  | get {s u r sources} (a : ServiceAnswers)
      (h : SourceManager.get installed a.raises a.now a.rows s.db s.sources u = (r, sources)) :
      ServiceStep installed s (.get u r) { s with sources := sources }
  | createSource {s s' backend tenant body r} (a : ServiceAnswers)
      (h : SourceService.create a s backend tenant body = (r, s')) :
      ServiceStep installed s (.createSource backend tenant body r) s'
  | editSource {s s' backend u tenants body r} (a : ServiceAnswers)
      (h : SourceService.edit a s backend u tenants body = (r, s')) :
      ServiceStep installed s (.editSource backend u tenants body r) s'
  | deleteSource {s s' backend u tenants r}
      (h : SourceService.delete s backend u tenants = (r, s')) :
      ServiceStep installed s (.deleteSource backend u tenants r) s'
  | createPhonebook {s s' tenant body r} (a : ServiceAnswers)
      (h : PhonebookService.createPhonebook a s tenant body = (r, s')) :
      ServiceStep installed s (.createPhonebook tenant body r) s'
  | editPhonebook {s s' tenants key body r}
      (h : PhonebookService.editPhonebook s tenants key body = (r, s')) :
      ServiceStep installed s (.editPhonebook tenants key body r) s'
  | deletePhonebook {s s' tenants key r}
      (h : PhonebookService.deletePhonebook s tenants key = (r, s')) :
      ServiceStep installed s (.deletePhonebook tenants key r) s'

/-- A call that removed the source of a uuid: its own deletion, or that of
the phonebook behind it. -/
def ServiceCall.Removed (u : Uuid) (db : Database) : ServiceCall → Prop
  | .deleteSource _ v _ (.ok ()) => v = u
  | .deletePhonebook tenants key (.ok ()) => ∃ p x,
      PhonebookCRUD.getByTenantAndId db (some tenants) key = .ok p ∧
      x ∈ db.sources ∧ x.uuid = u ∧ x.phonebookUuid = some p.uuid
  | _ => False

/-- A call that created a source of a uuid. -/
def ServiceCall.Created (u : Uuid) : ServiceCall → Prop
  | .createSource _ _ _ (.ok info) => info.uuid = u
  | _ => False

/-- **The cache cannot miss the call**: a call that removes the source of
the uuid comes when its plugin is not cached, one that edited the
phonebook behind it did not change the name the cached plugin has, and
no other source called by the uuid is loaded. -/
def CacheAware (installed : String → Bool) (u : Uuid) (s : ServiceState) : ServiceCall → Prop
  | .get v _ => v ≠ u → s.sources.cached v = none → ∀ x ∈ s.db.sources, x.uuid = v →
      installed x.backend = true → s.db.sourceName x ≠ some u
  | .deleteSource backend v tenants _ =>
      (∃ x ∈ s.db.sources, SourceCRUD.multiTenantFilter backend v (some tenants) x = true ∧
        x.uuid = u) → s.sources.cached u = none
  | .deletePhonebook tenants key _ => ∀ p x,
      PhonebookCRUD.getByTenantAndId s.db (some tenants) key = .ok p →
      x ∈ s.db.sources → x.uuid = u → x.phonebookUuid = some p.uuid → s.sources.cached u = none
  | .editPhonebook tenants key body (.ok _) => ∀ p x q,
      PhonebookCRUD.getByTenantAndId s.db (some tenants) key = .ok p →
      x ∈ s.db.sources → x.uuid = u → x.phonebookUuid = some p.uuid →
      s.sources.cached u = some q → q.name = body.name
  | .editPhonebook _ _ _ (.error _) => True
  | .createSource .. | .editSource .. | .createPhonebook .. => True

end WazoDird
