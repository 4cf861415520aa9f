import WazoDird.Common.PyUuid
import WazoDird.Database.Queries.PhonebookSource
import WazoDird.Services.Model

/-!
# The views of the phonebook sources

`PhonebookList.post` and `PhonebookItem.put` of
`phonebook_backend/http.py`, within the handlers of `SourceList` and
`SourceItem`. Both come to the check of the phonebook a source is to hang
on, the one as it makes the source and the other as it changes one, and
the check raises `NoSuchPhonebook`. The first view turns that into the
error of the API. The second expects the foreign key's error, which the
check has forestalled, and lets what the check raises through: so the two
agree exactly on the phonebooks there are (`refusesAlike_iff`).
-/

namespace WazoDird

/-- What a view of the phonebook sources raises. -/
inductive SourceViewError where
  /-- `NoSuchPhonebookAPIException`. -/
  | noSuchPhonebookAPI (resource : String) (visibleTenants : List Uuid)
      (phonebookKey : PhonebookKey)
  /-- `InvalidSourceConfigAPIError`. -/
  | invalidSourceConfigAPI
  /-- What no handler takes. -/
  | raised (e : DirdError)
  deriving DecidableEq, Repr

/-- The handler of `SourceList.post` and `SourceItem.put`. -/
def SourceViewError.handled : SourceViewError → SourceViewError
  | .raised .invalidSourceConfig => .invalidSourceConfigAPI
  | e => e

/-- What `SourceSchema().load` leaves of a body: the uuid, the tenant and
the name are for dumping only, and the phonebook's uuid is a uuid. -/
structure PhonebookSourceArgs where
  searchedColumns : List String := []
  firstMatchedColumns : List String := []
  formatColumns : Dict String String := ∅
  phonebookUuid : Bytes
  length_phonebookUuid : phonebookUuid.length = 16

namespace PhonebookSourceArgs

/-- `stringify_uuid`. -/
def stringifyUuid (args : PhonebookSourceArgs) : Uuid := PyUuid.str args.phonebookUuid

/-- The body the service is given. -/
def body (args : PhonebookSourceArgs) : SourceBody :=
  { searchedColumns := args.searchedColumns, firstMatchedColumns := args.firstMatchedColumns
    formatColumns := args.formatColumns, phonebookUuid := some args.stringifyUuid }

end PhonebookSourceArgs

namespace PhonebookList

/-- The handler of `_create_new_source`. -/
def translate (sourceData : PhonebookSourceArgs) (tenantUuid : Uuid) :
    DirdError → SourceViewError
  | .noSuchPhonebook _ _ =>
    .noSuchPhonebookAPI "/backends/phonebook/sources" [tenantUuid]
      (.uuid sourceData.stringifyUuid)
  | e => .raised e

/-- `_create_new_source`. -/
def createNewSource (a : ServiceAnswers) (s : ServiceState) (sourceData : PhonebookSourceArgs)
    (tenantUuid : Uuid) : Except SourceViewError SourceInfo × ServiceState :=
  let (r, s) := SourceService.create a s "phonebook" tenantUuid sourceData.body
  (r.mapError (translate sourceData tenantUuid), s)

/-- `post`, by a token of the tenant. -/
def post (a : ServiceAnswers) (s : ServiceState) (tenantUuid : Uuid)
    (args : PhonebookSourceArgs) : Except SourceViewError SourceInfo × ServiceState :=
  let (r, s) := createNewSource a s args tenantUuid
  (r.mapError SourceViewError.handled, s)

end PhonebookList

namespace PhonebookItem

/-- The handler of `_edit_source`, on the server's text of the foreign key
that failed. -/
def translate (pgerror : String) : DirdError → SourceViewError
  -- the service has popped the uuid that the handler then looks up
  | .invalidSourceConfig =>
    if inText "phonebook_uuid" pgerror then .raised (.python .keyError)
    else .raised .invalidSourceConfig
  | e => .raised e

/-- `_edit_source`. -/
def editSource (a : ServiceAnswers) (pgerror : String) (s : ServiceState) (sourceUuid : Uuid)
    (visibleTenants : List Uuid) (sourceData : PhonebookSourceArgs) :
    Except SourceViewError SourceInfo × ServiceState :=
  let (r, s) := SourceService.edit a s "phonebook" sourceUuid visibleTenants sourceData.body
  (r.mapError (translate pgerror), s)

/-- `put`, by a token that sees some tenants. -/
def put (a : ServiceAnswers) (pgerror : String) (s : ServiceState) (sourceUuid : Uuid)
    (visibleTenants : List Uuid) (args : PhonebookSourceArgs) :
    Except SourceViewError Unit × ServiceState :=
  let (r, s) := editSource a pgerror s sourceUuid visibleTenants args
  ((r.mapError SourceViewError.handled).map fun _ => (), s)

end PhonebookItem

/-! ## What the views are to do -/

/-- A view refused a phonebook: with the error of the API, and without
touching the sources. -/
def Refused {α : Type} (s : ServiceState) (uuid : Uuid)
    (answer : Except SourceViewError α × ServiceState) : Prop :=
  (∃ resource tenants, answer.1 = .error (.noSuchPhonebookAPI resource tenants (.uuid uuid))) ∧
    answer.2.db.sources = s.db.sources

/-- **A source reads from a phonebook**: whatever is served of it is a
plugin configured on that phonebook. -/
def ReadsFrom (s : ServiceState) (sourceUuid phonebookUuid : Uuid) : Prop :=
  ∀ (installed : String → Bool) (now : ℕ) (o : RowOrder Source), installed "phonebook" = true →
    ∃ plugin, (SourceManager.get installed false now o s.db s.sources sourceUuid).1 =
        .ok (some plugin) ∧
      plugin.config.uuid = sourceUuid ∧ plugin.config.phonebookUuid = some phonebookUuid

/-- The creation of a source does what is asked of it. -/
def PhonebookList.Meets (a : ServiceAnswers) (s : ServiceState) (tenantUuid : Uuid)
    (args : PhonebookSourceArgs) : Prop :=
  (¬ Designates s.db tenantUuid args.stringifyUuid →
    Refused s args.stringifyUuid (post a s tenantUuid args)) ∧
  (Designates s.db tenantUuid args.stringifyUuid →
    ∃ info s', post a s tenantUuid args = (.ok info, s') ∧
      ReadsFrom s' info.uuid args.stringifyUuid)

/-- The edition of a source does what is asked of it. -/
def PhonebookItem.Meets (a : ServiceAnswers) (pgerror : String) (s : ServiceState) (x : Source)
    (visibleTenants : List Uuid) (args : PhonebookSourceArgs) : Prop :=
  (¬ Designates s.db x.tenantUuid args.stringifyUuid →
    Refused s args.stringifyUuid (put a pgerror s x.uuid visibleTenants args)) ∧
  (Designates s.db x.tenantUuid args.stringifyUuid →
    ∃ s', put a pgerror s x.uuid visibleTenants args = (.ok (), s') ∧
      ReadsFrom s' x.uuid args.stringifyUuid)

/-- **A bad phonebook is refused alike**, and a good one taken, by the
creation of a source and by the edition of one of the same tenant. -/
def RefusesAlike (a : ServiceAnswers) (pgerror : String) (s : ServiceState) (x : Source)
    (visibleTenants : List Uuid) (args : PhonebookSourceArgs) : Prop :=
  PhonebookList.Meets a s x.tenantUuid args ∧
    PhonebookItem.Meets a pgerror s x visibleTenants args

/-- What `uuid_generate_v4()` gives is new. -/
structure SourceDefaults.Fresh (defaults : SourceDefaults) (s : ServiceState) : Prop where
  uuid : ∀ x ∈ s.db.sources, x.uuid ≠ defaults.uuid
  name : ∀ x ∈ s.db.sources, x.rawName ≠ defaults.name
  uncached : s.sources.cached defaults.uuid = none

/-! ## What is served of a source on a phonebook -/

/-- A source stored on a phonebook reads from it, once no plugin of it is
held. -/
theorem readsFrom_of_storedOn {s : ServiceState} {v u : Uuid} (h : StoredOn s.db v u)
    (hmiss : s.sources.cached v = none) : ReadsFrom s v u := by
  intro installed now o hi
  obtain ⟨info, hread, hiu, hib, hip⟩ := SourceCRUD.getByUuid_of_storedOn h o
  refine ⟨⟨info, now⟩, ?_, hiu, hip⟩
  rw [SourceManager.get_of_miss now hmiss hread (hib ▸ hi)]

/-! ## What the views do -/

namespace PhonebookSourceArgs

variable (args : PhonebookSourceArgs)

/-- The service is given the uuid. -/
theorem body_phonebookUuid : args.body.phonebookUuid = some args.stringifyUuid := rfl

/-- The text of a uuid is not empty. -/
theorem stringifyUuid_ne_empty : args.stringifyUuid ≠ "" := by
  intro h
  have hlist := congrArg String.toList h
  rw [stringifyUuid, PyUuid.str, String.toList_ofList] at hlist
  simp [PyUuid.text] at hlist

/-- The uuid of a body counts as given. -/
theorem filter_stringifyUuid :
    args.body.phonebookUuid.filter (· ≠ "") = some args.stringifyUuid := by
  rw [body_phonebookUuid, Option.filter_some, if_pos (by simpa using args.stringifyUuid_ne_empty)]

end PhonebookSourceArgs

section Views

variable {a : ServiceAnswers} {pgerror : String} {s : ServiceState} {x : Source} {tenant : Uuid}
  {tenants : List Uuid} {args : PhonebookSourceArgs}

/-- The creation of a source turns what the check raises into the error of
the API. -/
theorem PhonebookList.post_of_not_designates (h : ¬ Designates s.db tenant args.stringifyUuid) :
    post a s tenant args =
      (.error (.noSuchPhonebookAPI "/backends/phonebook/sources" [tenant]
        (.uuid args.stringifyUuid)), s) := by
  rw [post, createNewSource, SourceService.create,
    SourceCRUD.create_of_not_designates args.body_phonebookUuid h]
  rfl

/-- **A good phonebook is taken by the creation of a source**, which then
reads from it. -/
theorem PhonebookList.post_of_designates (hc : SourceConstraints s.db) (hfresh : a.source.Fresh s)
    (h : Designates s.db tenant args.stringifyUuid) :
    ∃ info s', post a s tenant args = (.ok info, s') ∧
      ReadsFrom s' info.uuid args.stringifyUuid := by
  obtain ⟨info, db', hcreate, hiu, hstored⟩ := SourceCRUD.create_of_designates hc hfresh.uuid
    hfresh.name rfl args.body_phonebookUuid h
  refine ⟨info, { s with db := db' }, ?_, ?_⟩
  · rw [post, createNewSource, SourceService.create, hcreate]
    rfl
  · rw [hiu]
    exact readsFrom_of_storedOn hstored hfresh.uncached

/-- The edition of a source lets it through. -/
theorem PhonebookItem.put_of_not_designates (hkeys : s.db.sourceUuids.Nodup)
    (hx : x ∈ s.db.sources) (hb : x.backend = "phonebook") (ht : x.tenantUuid ∈ tenants)
    (h : ¬ Designates s.db x.tenantUuid args.stringifyUuid) :
    put a pgerror s x.uuid tenants args =
      (.error (.raised (.noSuchPhonebook (.uuid args.stringifyUuid) (some [x.tenantUuid]))), s) := by
  have hscope := SourceCRUD.multiTenantFilter_eq_true.2 ⟨hb, rfl, ht⟩
  rw [put, editSource, SourceService.edit,
    SourceCRUD.edit_of_not_designates a.rows hkeys hx hscope hb args.filter_stringifyUuid h]
  rfl

/-- **A good phonebook is taken by the edition of a source**, which then
reads from it. -/
theorem PhonebookItem.put_of_designates (hc : SourceConstraints s.db) (hx : x ∈ s.db.sources)
    (hb : x.backend = "phonebook") (ht : x.tenantUuid ∈ tenants)
    (h : Designates s.db x.tenantUuid args.stringifyUuid) :
    ∃ s', put a pgerror s x.uuid tenants args = (.ok (), s') ∧
      ReadsFrom s' x.uuid args.stringifyUuid := by
  have hscope := SourceCRUD.multiTenantFilter_eq_true.2 ⟨hb, rfl, ht⟩
  obtain ⟨info, db', hedit, hstored⟩ := SourceCRUD.edit_of_designates a.rows hc hx hscope hb
    args.filter_stringifyUuid h
  refine ⟨{ db := db', sources := SourceManager.invalidate s.sources x.uuid }, ?_, ?_⟩
  · rw [put, editSource, SourceService.edit, hedit]
    rfl
  · -- the plugin of the former configuration is gone
    exact readsFrom_of_storedOn hstored ((Dict.cached_erase _ _ _).trans (if_pos rfl))

/-- The creation of a source does what is asked of it. -/
theorem PhonebookList.meets (hc : SourceConstraints s.db) (hfresh : a.source.Fresh s) :
    Meets a s tenant args := by
  refine ⟨fun h => ?_, post_of_designates hc hfresh⟩
  rw [post_of_not_designates h]
  exact ⟨⟨_, _, rfl⟩, rfl⟩

/-- The edition of one does it of the phonebooks there are alone. -/
theorem PhonebookItem.meets_iff (hc : SourceConstraints s.db) (hx : x ∈ s.db.sources)
    (hb : x.backend = "phonebook") (ht : x.tenantUuid ∈ tenants) :
    Meets a pgerror s x tenants args ↔ Designates s.db x.tenantUuid args.stringifyUuid := by
  constructor
  · rintro ⟨hrefuse, -⟩
    by_contra h
    obtain ⟨⟨_, _, herr⟩, -⟩ := hrefuse h
    rw [put_of_not_designates hc.sources hx hb ht h] at herr
    cases herr
  · intro h
    exact ⟨fun hnot => absurd h hnot, fun _ => put_of_designates hc hx hb ht h⟩

/-- **The creation and the edition of a phonebook source agree** exactly
where the uuid designates a phonebook of the source's tenant. -/
theorem refusesAlike_iff (hc : SourceConstraints s.db) (hfresh : a.source.Fresh s)
    (hx : x ∈ s.db.sources) (hb : x.backend = "phonebook") (ht : x.tenantUuid ∈ tenants) :
    RefusesAlike a pgerror s x tenants args ↔
      Designates s.db x.tenantUuid args.stringifyUuid :=
  (and_iff_right (PhonebookList.meets hc hfresh)).trans (PhonebookItem.meets_iff hc hx hb ht)

end Views

/-! ## A phonebook that is not there -/

/-- A source on a phonebook. -/
def sourceOnBook : Source :=
  { uuid := "source", rawName := "raw", tenantUuid := "tenant", backend := "phonebook"
    phonebookUuid := some "00000000-0000-0000-0000-000000000000" }

/-- A tenant of that phonebook and that source. -/
def onePhonebook : ServiceState where
  db :=
    { tenants := [⟨"tenant", none⟩]
      phonebooks := [⟨1, "00000000-0000-0000-0000-000000000000", "book", none, "tenant"⟩]
      sources := [sourceOnBook] }

/-- The rows as they are stored, and new texts. -/
def newTexts : ServiceAnswers where
  rows := .asStored
  source := ⟨"new", "new"⟩
  phonebook := ⟨"new", 2⟩
  raises := false
  now := 0

/-- A body on the phonebook of some octet, repeated. -/
def onOctet (octet : UInt8) : PhonebookSourceArgs where
  phonebookUuid := List.replicate 16 octet
  length_phonebookUuid := List.length_replicate

theorem sourceConstraints_onePhonebook : SourceConstraints onePhonebook.db where
  phonebooks := by decide
  sources := by decide
  names := by decide

theorem fresh_newTexts : newTexts.source.Fresh onePhonebook where
  uuid := by decide
  name := by decide
  uncached := rfl

/-- The phonebook there is is taken. -/
theorem refusesAlike_onOctet_zero :
    RefusesAlike newTexts "" onePhonebook sourceOnBook ["tenant"] (onOctet 0) :=
  (refusesAlike_iff sourceConstraints_onePhonebook fresh_newTexts (List.mem_singleton_self _) rfl
    (List.mem_singleton_self _)).2 ⟨_, List.mem_singleton_self _, by decide, rfl⟩

/-- **Another is not refused alike**: the edition of the source lets
`NoSuchPhonebook` through. -/
theorem not_refusesAlike_onOctet_one :
    ¬ RefusesAlike newTexts "" onePhonebook sourceOnBook ["tenant"] (onOctet 1) := by
  intro h
  obtain ⟨p, hp, hu, -⟩ := (PhonebookItem.meets_iff sourceConstraints_onePhonebook
    (List.mem_singleton_self _) rfl (List.mem_singleton_self _)).1 h.2
  obtain rfl := List.mem_singleton.1 hp
  exact absurd hu (by decide)

end WazoDird
