import WazoDird.Common.Like
import WazoDird.Common.Table
import WazoDird.Database.Model

/-!
# Sources

`database/queries/source.py`: the sources a tenant configures, created,
edited, deleted and listed within the tenants a caller may see. The
integrity constraints of `dird_source` are the primary key, the name
being unique within a tenant, and the composite key to the phonebook,
whose `ON DELETE CASCADE` is in `Queries/Phonebook.lean`.
-/

namespace WazoDird

/-- `SourceBody`: what a request says of a source. `extraFields` are the
settings of the backend, which the columns do not name. -/
structure SourceBody where
  uuid : Option Uuid := none
  name : Option String := none
  searchedColumns : List String := []
  firstMatchedColumns : List String := []
  formatColumns : Dict String String := ∅
  phonebookUuid : Option Uuid := none
  extraFields : Dict String Value := ∅
  deriving DecidableEq, Repr

/-- `SourceInfo`: a source as the services see it, and the configuration
a plugin is loaded with. -/
structure SourceInfo where
  uuid : Uuid
  backend : String
  name : String
  tenantUuid : Uuid
  searchedColumns : List String := []
  firstMatchedColumns : List String := []
  formatColumns : Dict String String := ∅
  phonebookUuid : Option Uuid := none
  phonebookName : Option String := none
  phonebookDescription : Option String := none
  extraFields : Dict String Value := ∅
  deriving DecidableEq, Repr

/-- What the server fills in where an inserted source is silent: the
defaults of `uuid` and `name`, both `uuid_generate_v4()`. -/
structure SourceDefaults where
  uuid : Uuid
  name : String
  deriving DecidableEq, Repr

/-- The parameters of a listing. -/
structure SourceListParams where
  uuid : Option Uuid := none
  name : Option String := none
  search : Option String := none
  offset : Option ℕ := none
  limit : Option ℕ := none
  deriving DecidableEq, Repr

/-- The texts of a listing's filter. -/
def SourceListParams.texts (params : SourceListParams) : List String :=
  params.uuid.toList ++ params.name.toList ++ params.search.toList

/-- The primary keys of `dird_source`. -/
def Database.sourceUuids (db : Database) : List Uuid := db.sources.map Source.uuid

namespace SourceCRUD

/-- `_from_db_format`. Reading the name or the description of a phonebook
that is not there raises. -/
def fromDbFormat (db : Database) (source : Source) : Except DirdError SourceInfo :=
  match db.sourceName source with
  | none => .error .attribute
  | some name =>
    let attrs : SourceInfo :=
      { uuid := source.uuid, backend := source.backend, name := name
        tenantUuid := source.tenantUuid, searchedColumns := source.searchedColumns
        firstMatchedColumns := source.firstMatchedColumns, formatColumns := source.formatColumns
        extraFields := source.extraFields }
    match source.phonebookUuid with
    | none => .ok attrs
    | some uuid => match db.getPhonebook uuid with
      | none => .error .attribute
      | some phonebook =>
        .ok { attrs with
          phonebookUuid := some uuid, phonebookName := some phonebook.name
          phonebookDescription := phonebook.description }

/-- `_update_to_db_format`. -/
def updateToDbFormat (db : Database) (source : Source) (body : SourceBody) :
    Except DirdError Source :=
  let columns (source : Source) : Source :=
    { source with
      searchedColumns := body.searchedColumns, firstMatchedColumns := body.firstMatchedColumns
      formatColumns := body.formatColumns, extraFields := body.extraFields }
  if source.backend = "phonebook" then
    if (source.phonebookUuid.bind db.getPhonebook).isSome then .ok (columns source)
    else .error .assertion
  else match body.name with
    | none => .error .assertion
    | some name => if name = "" then .error .assertion
        else .ok (columns { source with rawName := name })

/-- The phonebook a phonebook source is given, which must be one of the
source's own tenant. -/
def checkPhonebook (db : Database) (tenantUuid phonebookUuid : Uuid) :
    Except DirdError Phonebook :=
  match db.getPhonebook phonebookUuid with
  | none => .error (.noSuchPhonebook (.uuid phonebookUuid) (some [tenantUuid]))
  | some phonebook =>
    if phonebook.tenantUuid = tenantUuid then .ok phonebook
    else .error (.noSuchPhonebook (.uuid phonebookUuid) (some [tenantUuid]))

/-- `_create_new_source`. -/
def createNewSource (db : Database) (defaults : SourceDefaults) (backend : String)
    (tenantUuid : Uuid) (body : SourceBody) : Except DirdError Source :=
  let source : Source :=
    { uuid := body.uuid.getD defaults.uuid, rawName := defaults.name, tenantUuid := tenantUuid
      backend := backend }
  if backend = "phonebook" then
    match body.phonebookUuid with
    | none => .error .assertion
    | some phonebookUuid => do
      let _ ← checkPhonebook db tenantUuid phonebookUuid
      updateToDbFormat db { source with phonebookUuid := some phonebookUuid } body
  else updateToDbFormat db source body

/-- `_update_source`. An empty phonebook uuid counts as none given. -/
def updateSource (db : Database) (source : Source) (body : SourceBody) :
    Except DirdError Source :=
  if source.backend = "phonebook" then
    match body.phonebookUuid.filter (· ≠ "") with
    | none => updateToDbFormat db source body
    | some phonebookUuid => do
      let _ ← checkPhonebook db source.tenantUuid phonebookUuid
      updateToDbFormat db { source with phonebookUuid := some phonebookUuid } body
  else updateToDbFormat db source body

/-- Two rows the unique constraints of `dird_source` do not admit
together. -/
def clash (s t : Source) : Bool :=
  s.uuid = t.uuid || (s.rawName = t.rawName && s.tenantUuid = t.tenantUuid)

/-- `flush_and_handle`: the row against the other rows of the table. -/
def flushAndHandle (others : List Source) (source : Source) (body : SourceBody) :
    Except DirdError Unit :=
  if others.any (clash source) then .error (.duplicatedSource body.name) else .ok ()

/-- `_multi_tenant_filter`. -/
def multiTenantFilter (backend : String) (sourceUuid : Uuid)
    (visibleTenants : Option (List Uuid)) (s : Source) : Bool :=
  s.backend = backend && s.uuid = sourceUuid &&
    (visibleTenants.elim true (s.tenantUuid ∈ ·))

/-- `_list_filter`. -/
def listFilter (lower : String → String) (db : Database) (backend : Option String)
    (visibleTenants : Option (List Uuid)) (params : SourceListParams) (s : Source) : Bool :=
  visibleTenants.elim true (s.tenantUuid ∈ ·) &&
    backend.elim true (s.backend = ·) &&
    params.uuid.elim true (s.uuid = ·) &&
    params.name.elim true (fun name => db.sourceName s = some name) &&
    params.search.elim true (fun search =>
      (db.sourceName s).elim false (ilike lower ("%" ++ search ++ "%")))

/-- `list_`: the sources in scope, in the order of the answer, cut to the
page asked for. -/
def list (lower : String → String) (o : RowOrder Source) (db : Database)
    (backend : Option String) (visibleTenants : Option (List Uuid))
    (params : SourceListParams) : Except DirdError (List SourceInfo) := do
  takeTexts (backend.toList ++ params.texts)
  let rows := o.order (db.sources.filter (listFilter lower db backend visibleTenants params))
  let rows := rows.drop (params.offset.getD 0)
  let rows := params.limit.elim rows rows.take
  rows.mapM (fromDbFormat db)

/-- `count`: however many the page asked for has. -/
def count (lower : String → String) (db : Database) (backend : Option String)
    (visibleTenants : Option (List Uuid)) (params : SourceListParams) : Except DirdError ℕ := do
  takeTexts (backend.toList ++ params.texts)
  return (db.sources.filter (listFilter lower db backend visibleTenants params)).length

/-- `create`. -/
def create (db : Database) (defaults : SourceDefaults) (backend : String) (tenantUuid : Uuid)
    (body : SourceBody) : Except DirdError SourceInfo × Database :=
  newSession db <| do
    let db := db.createTenant tenantUuid
    let source ← createNewSource db defaults backend tenantUuid body
    flushAndHandle db.sources source body
    let db := { db with sources := db.sources ++ [source] }
    return (db, ← fromDbFormat db source)

/-- The database without the sources of a list of uuids: their favorites
go with them, by `ON DELETE CASCADE`. -/
def dropSources (db : Database) (p : Source → Bool) : Database :=
  { db with
    sources := db.sources.filter (fun s => !p s)
    favorites := db.favorites.filter fun f =>
      !(db.sources.any fun s => p s && s.uuid = f.sourceUuid) }

/-- `delete`. Deleting no row raises, once the session is over. -/
def delete (db : Database) (backend : String) (sourceUuid : Uuid)
    (visibleTenants : Option (List Uuid)) : Except DirdError Unit × Database :=
  let p := multiTenantFilter backend sourceUuid visibleTenants
  let db' := dropSources db p
  (if db.sources.any p then .ok () else .error (.noSuchSource sourceUuid), db')

/-- `edit`. -/
def edit (o : RowOrder Source) (db : Database) (backend : String) (sourceUuid : Uuid)
    (visibleTenants : Option (List Uuid)) (body : SourceBody) :
    Except DirdError SourceInfo × Database :=
  newSession db <|
    match o.first (db.sources.filter (multiTenantFilter backend sourceUuid visibleTenants)) with
    | none => .error (.noSuchSource sourceUuid)
    | some source => do
      let source' ← updateSource db source body
      flushAndHandle (db.sources.filter (·.uuid ≠ source.uuid)) source' body
      let db := { db with
        sources := db.sources.map fun s => if s.uuid = source.uuid then source' else s }
      return (db, ← fromDbFormat db source')

/-- `get`. -/
def get (o : RowOrder Source) (db : Database) (backend : String) (sourceUuid : Uuid)
    (visibleTenants : Option (List Uuid)) : Except DirdError SourceInfo :=
  match o.first (db.sources.filter (multiTenantFilter backend sourceUuid visibleTenants)) with
  | none => .error (.noSuchSource sourceUuid)
  | some source => fromDbFormat db source

/-- `get_by_uuid`. -/
def getByUuid (o : RowOrder Source) (db : Database) (uuid : Uuid) : Except DirdError SourceInfo :=
  match o.first (db.sources.filter (·.uuid = uuid)) with
  | none => .error (.noSuchSource uuid)
  | some source => fromDbFormat db source

/-! ## What an operation does -/

section Spec

variable {db db' : Database} {defaults : SourceDefaults} {backend : String}
  {sourceUuid tenantUuid : Uuid} {visibleTenants : Option (List Uuid)} {body : SourceBody}
  {source source' : Source} {o : RowOrder Source} {lower : String → String}

/-- Two rows agree on what a body does not set. -/
structure SameIdentity (s t : Source) : Prop where
  uuid : s.uuid = t.uuid
  tenantUuid : s.tenantUuid = t.tenantUuid
  backend : s.backend = t.backend

/-- The phonebook of a source, when it has one, is one of its tenant. -/
def PhonebookInTenant (db : Database) (s : Source) : Prop :=
  ∀ uuid, s.phonebookUuid = some uuid →
    ∃ p ∈ db.phonebooks, p.uuid = uuid ∧ p.tenantUuid = s.tenantUuid

theorem updateToDbFormat_ok (h : updateToDbFormat db source body = .ok source') :
    SameIdentity source' source ∧ source'.phonebookUuid = source.phonebookUuid := by
  unfold updateToDbFormat at h
  split at h
  · split at h
    · cases h; exact ⟨⟨rfl, rfl, rfl⟩, rfl⟩
    · cases h
  · split at h
    · cases h
    · split at h
      · cases h
      · cases h; exact ⟨⟨rfl, rfl, rfl⟩, rfl⟩

theorem checkPhonebook_ok {uuid : Uuid} {p : Phonebook}
    (h : checkPhonebook db tenantUuid uuid = .ok p) :
    p ∈ db.phonebooks ∧ p.uuid = uuid ∧ p.tenantUuid = tenantUuid := by
  unfold checkPhonebook at h
  split at h
  · cases h
  · next q hq =>
    obtain ⟨hmem, hu⟩ := Database.mem_of_getPhonebook hq
    split at h
    · next ht => cases h; exact ⟨hmem, hu, ht⟩
    · cases h

/-- **A source made from a body** is of the backend and tenant asked for,
and hangs on a phonebook of that tenant or on none. -/
theorem createNewSource_ok (h : createNewSource db defaults backend tenantUuid body = .ok source) :
    source.uuid = body.uuid.getD defaults.uuid ∧ source.tenantUuid = tenantUuid ∧
      source.backend = backend ∧ PhonebookInTenant db source := by
  unfold createNewSource at h
  split at h
  · split at h
    · cases h
    · next uuid hb =>
      obtain ⟨p, hp, hs⟩ := bind_eq_ok.1 h
      obtain ⟨⟨hu, ht, hbk⟩, hpb⟩ := updateToDbFormat_ok hs
      obtain ⟨hmem, hpu, hten⟩ := checkPhonebook_ok hp
      refine ⟨hu, ht, hbk, fun v hv => ⟨p, hmem, ?_, hten.trans ht.symm⟩⟩
      rw [hpb] at hv
      cases hv
      exact hpu
  · obtain ⟨⟨hu, ht, hbk⟩, hpb⟩ := updateToDbFormat_ok h
    refine ⟨hu, ht, hbk, fun v hv => ?_⟩
    rw [hpb] at hv
    cases hv

/-- **A source changed by a body** keeps its identity, and its phonebook
stays in its tenant. -/
theorem updateSource_ok (h : updateSource db source body = .ok source') :
    SameIdentity source' source ∧ (PhonebookInTenant db source → PhonebookInTenant db source') := by
  have hkeep : ∀ {s : Source}, updateToDbFormat db s body = .ok source' →
      SameIdentity source' s ∧ (PhonebookInTenant db s → PhonebookInTenant db source') := by
    intro s hs
    obtain ⟨hid, hpb⟩ := updateToDbFormat_ok hs
    refine ⟨hid, fun hps v hv => ?_⟩
    rw [hid.tenantUuid]
    exact hps v (hpb ▸ hv)
  unfold updateSource at h
  split at h
  · split at h
    · exact hkeep h
    · next uuid hb =>
      obtain ⟨p, hcheck, hs⟩ := bind_eq_ok.1 h
      obtain ⟨hmem, hpu, hten⟩ := checkPhonebook_ok hcheck
      obtain ⟨⟨hu, ht, hbk⟩, hpt⟩ := hkeep hs
      refine ⟨⟨hu, ht, hbk⟩, fun _ => hpt fun v hv => ?_⟩
      cases hv
      exact ⟨p, hmem, hpu, hten⟩
  · exact hkeep h

/-- A row that is flushed clashes with no other. -/
theorem not_clash_of_flush {others : List Source} (h : flushAndHandle others source body = .ok ()) :
    ∀ s ∈ others, clash source s = false := by
  unfold flushAndHandle at h
  split at h
  · cases h
  · next hany => simpa using hany

/-- **A creation that returns** added the row its body makes, which
clashes with none. -/
theorem create_ok {info : SourceInfo}
    (h : create db defaults backend tenantUuid body = (.ok info, db')) :
    ∃ source, createNewSource (db.createTenant tenantUuid) defaults backend tenantUuid body =
        .ok source ∧
      (∀ s ∈ db.sources, clash source s = false) ∧
      db' = { db.createTenant tenantUuid with sources := db.sources ++ [source] } ∧
      fromDbFormat db' source = .ok info := by
  rcases newSession_snd h with ⟨e, herr, -⟩ | ⟨i, hi, hbody⟩
  · cases herr
  · cases hi
    obtain ⟨source, hsource, hbody⟩ := bind_eq_ok.1 hbody
    obtain ⟨⟨⟩, hflush, hbody⟩ := bind_eq_ok.1 hbody
    obtain ⟨info', hinfo, hbody⟩ := bind_eq_ok.1 hbody
    cases hbody
    refine ⟨source, hsource, ?_, by rw [Database.createTenant_sources], hinfo⟩
    rw [← db.createTenant_sources tenantUuid]
    exact not_clash_of_flush hflush

/-- **What a creation does**: nothing, and it raises; or it adds one row,
of a new uuid, to what `_create_tenant` left. -/
theorem create_cases {r : Except DirdError SourceInfo}
    (h : create db defaults backend tenantUuid body = (r, db')) :
    (∃ e, r = .error e ∧ db' = db) ∨
    ∃ source info, r = .ok info ∧
      db' = { db.createTenant tenantUuid with sources := db.sources ++ [source] } ∧
      fromDbFormat db' source = .ok info ∧
      source.uuid = body.uuid.getD defaults.uuid ∧ source.tenantUuid = tenantUuid ∧
      source.backend = backend ∧ PhonebookInTenant db source ∧
      ∀ s ∈ db.sources, s.uuid ≠ source.uuid := by
  rcases newSession_snd h with herr | ⟨info, rfl, -⟩
  · exact Or.inl herr
  · obtain ⟨source, hsource, hclash, rfl, hinfo⟩ := create_ok h
    obtain ⟨hu, ht, hbk, hpt⟩ := createNewSource_ok hsource
    refine Or.inr ⟨source, info, rfl, rfl, hinfo, hu, ht, hbk, ?_, fun s hs hsu => ?_⟩
    · simpa only [PhonebookInTenant, Database.createTenant_phonebooks] using hpt
    · have hnone := hclash s hs
      simp [clash, hsu] at hnone

/-- **An edit that returns** replaced the one row in scope, and what it
wrote clashes with no other. -/
theorem edit_ok {info : SourceInfo}
    (h : edit o db backend sourceUuid visibleTenants body = (.ok info, db')) :
    ∃ source ∈ db.sources, ∃ source',
      multiTenantFilter backend sourceUuid visibleTenants source = true ∧
      updateSource db source body = .ok source' ∧
      (∀ s ∈ db.sources, s.uuid ≠ source.uuid → clash source' s = false) ∧
      db' = { db with
        sources := db.sources.map fun s => if s.uuid = source.uuid then source' else s } ∧
      fromDbFormat db' source' = .ok info := by
  rcases newSession_snd h with ⟨e, herr, -⟩ | ⟨i, hi, hbody⟩
  · cases herr
  · cases hi
    split at hbody
    · cases hbody
    · next source hfirst =>
      obtain ⟨source', hsource', hbody⟩ := bind_eq_ok.1 hbody
      obtain ⟨⟨⟩, hflush, hbody⟩ := bind_eq_ok.1 hbody
      obtain ⟨info', hinfo, hbody⟩ := bind_eq_ok.1 hbody
      cases hbody
      obtain ⟨hmem, hfilter⟩ := List.mem_filter.1 (RowOrder.mem_of_first hfirst)
      refine ⟨source, hmem, source', hfilter, hsource', fun s hs hne => ?_, rfl, hinfo⟩
      exact not_clash_of_flush hflush s (List.mem_filter.2 ⟨hs, by simpa using hne⟩)

/-- **What an edit does**: nothing, and it raises; or it replaces the one
row in scope, keeping its identity. -/
theorem edit_cases {r : Except DirdError SourceInfo}
    (h : edit o db backend sourceUuid visibleTenants body = (r, db')) :
    (∃ e, r = .error e ∧ db' = db) ∨
    ∃ source source' info, r = .ok info ∧ source ∈ db.sources ∧
      multiTenantFilter backend sourceUuid visibleTenants source = true ∧
      updateSource db source body = .ok source' ∧
      db' = { db with
        sources := db.sources.map fun s => if s.uuid = source.uuid then source' else s } ∧
      fromDbFormat db' source' = .ok info := by
  rcases newSession_snd h with herr | ⟨info, rfl, -⟩
  · exact Or.inl herr
  · obtain ⟨source, hmem, source', hfilter, hup, -, hdb, hinfo⟩ := edit_ok h
    exact Or.inr ⟨source, source', info, rfl, hmem, hfilter, hup, hdb, hinfo⟩

/-- **What a deletion does**: it drops the sources in scope, and raises
when there is none. -/
theorem delete_eq : delete db backend sourceUuid visibleTenants =
    (if db.sources.any (multiTenantFilter backend sourceUuid visibleTenants) then .ok ()
      else .error (.noSuchSource sourceUuid),
      dropSources db (multiTenantFilter backend sourceUuid visibleTenants)) := rfl

/-- The source an operation in scope reaches. -/
theorem multiTenantFilter_eq_true {s : Source} {tenants : List Uuid} :
    multiTenantFilter backend sourceUuid (some tenants) s = true ↔
      s.backend = backend ∧ s.uuid = sourceUuid ∧ s.tenantUuid ∈ tenants := by
  simp [multiTenantFilter, and_assoc]

/-- The row of a key in scope is the one an operation reaches. -/
theorem filter_multiTenantFilter (hkeys : db.sourceUuids.Nodup) (hx : source ∈ db.sources)
    (hscope : multiTenantFilter backend source.uuid visibleTenants source = true) :
    db.sources.filter (multiTenantFilter backend source.uuid visibleTenants) = [source] := by
  refine filter_of_key hkeys hx hscope fun t ht => ?_
  simp only [multiTenantFilter, Bool.and_eq_true, decide_eq_true_eq] at ht
  exact ht.1.2

/-- The favorites of the sources that stay stay. -/
theorem mem_favorites_dropSources {p : Source → Bool} {f : Favorite} :
    f ∈ (dropSources db p).favorites ↔
      f ∈ db.favorites ∧ ∀ s ∈ db.sources, p s = true → s.uuid ≠ f.sourceUuid := by
  simp [dropSources]

/-- A service representation shows the row's identity and its name. -/
theorem fromDbFormat_ok {info : SourceInfo} (h : fromDbFormat db source = .ok info) :
    info.uuid = source.uuid ∧ info.backend = source.backend ∧
      info.tenantUuid = source.tenantUuid ∧ db.sourceName source = some info.name := by
  unfold fromDbFormat at h
  split at h
  · cases h
  · next name hname =>
    split at h
    · cases h; exact ⟨rfl, rfl, rfl, hname⟩
    · split at h
      · cases h
      · cases h; exact ⟨rfl, rfl, rfl, hname⟩

/-- An edit changes no key and no backend, and what it edits is stored. -/
theorem edit_stored {info : SourceInfo}
    (h : edit o db backend sourceUuid visibleTenants body = (.ok info, db')) :
    sourceUuid ∈ db.sourceUuids ∧ db'.sourceUuids = db.sourceUuids ∧
      ∀ y ∈ db'.sources, ∃ x ∈ db.sources, x.uuid = y.uuid ∧ x.backend = y.backend := by
  rcases edit_cases h with ⟨e, herr, -⟩ | ⟨x, x', -, -, hx, hxf, hup, rfl, -⟩
  · cases herr
  · obtain ⟨hid, -⟩ := updateSource_ok hup
    simp only [multiTenantFilter, Bool.and_eq_true, decide_eq_true_eq] at hxf
    refine ⟨List.mem_map.2 ⟨x, hx, hxf.1.2⟩, keys_replace hid.uuid, fun y hy => ?_⟩
    obtain ⟨z, hz, rfl⟩ := List.mem_map.1 hy
    split
    · exact ⟨x, hx, hid.uuid.symm, hid.backend.symm⟩
    · exact ⟨z, hz, rfl, rfl⟩

/-- A creation adds one key, which was not there. -/
theorem create_stored {info : SourceInfo}
    (h : create db defaults backend tenantUuid body = (.ok info, db')) :
    info.uuid ∉ db.sourceUuids ∧ db'.sourceUuids = db.sourceUuids ++ [info.uuid] ∧
      ∃ x, x.uuid = info.uuid ∧ db'.sources = db.sources ++ [x] := by
  rcases create_cases h with ⟨e, herr, -⟩ | ⟨x, i, hi, rfl, hf, -, -, -, -, hnew⟩
  · cases herr
  · cases hi
    obtain ⟨hiu, -⟩ := fromDbFormat_ok hf
    refine ⟨fun hmem => ?_, ?_, x, hiu.symm, rfl⟩
    · obtain ⟨y, hy, hyu⟩ := List.mem_map.1 hmem
      exact hnew y hy (hyu.trans hiu)
    · rw [hiu]
      exact List.map_append

/-- What a listing shows is a row that its filter lets through. -/
theorem row_of_list {infos : List SourceInfo} {params : SourceListParams} {backend : Option String}
    {tenants : Option (List Uuid)} (h : list lower o db backend tenants params = .ok infos)
    {info : SourceInfo} (hi : info ∈ infos) :
    ∃ s ∈ db.sources, listFilter lower db backend tenants params s = true ∧
      fromDbFormat db s = .ok info := by
  obtain ⟨⟨⟩, -, h⟩ := bind_eq_ok.1 h
  obtain ⟨s, hs, hinfo⟩ := mem_of_mapM_eq_ok h hi
  have hrow : s ∈ o.order (db.sources.filter (listFilter lower db backend tenants params)) := by
    cases hl : params.limit with
    | none => exact List.mem_of_mem_drop (by simpa [hl] using hs)
    | some n => exact List.mem_of_mem_drop (List.mem_of_mem_take (by simpa [hl] using hs))
  obtain ⟨hmem, hfilter⟩ := List.mem_filter.1 (o.mem_order.1 hrow)
  exact ⟨s, hmem, hfilter, hinfo⟩

/-- **What a listing shows is in the table**, and within the tenants it
was asked for. -/
theorem mem_list {infos : List SourceInfo} {params : SourceListParams} {tenants : List Uuid}
    (h : list lower o db none (some tenants) params = .ok infos) {info : SourceInfo}
    (hi : info ∈ infos) :
    ∃ s ∈ db.sources, s.tenantUuid ∈ tenants ∧ fromDbFormat db s = .ok info := by
  obtain ⟨s, hmem, hfilter, hinfo⟩ := row_of_list h hi
  refine ⟨s, hmem, ?_, hinfo⟩
  simp only [listFilter, Option.elim_some, Bool.and_eq_true, decide_eq_true_eq] at hfilter
  exact hfilter.1.1.1.1

end Spec

/-! ## What one uuid finds -/

section ByUuid

variable {db : Database} {o : RowOrder Source} {u : Uuid} {info : SourceInfo}

/-- What `get_by_uuid` finds is the row of that uuid, as the service shows
it. -/
theorem getByUuid_ok (h : getByUuid o db u = .ok info) :
    info.uuid = u ∧ ∃ s ∈ db.sources, s.uuid = u ∧ s.backend = info.backend ∧
      db.sourceName s = some info.name := by
  unfold getByUuid at h
  split at h
  · cases h
  · next s hs =>
    obtain ⟨hmem, hu⟩ := List.mem_filter.1 (RowOrder.mem_of_first hs)
    obtain ⟨hiu, hib, -, hname⟩ := fromDbFormat_ok h
    have hu : s.uuid = u := by simpa using hu
    exact ⟨hiu.trans hu, s, hmem, hu, hib.symm, hname⟩

/-- `get_by_uuid` reports a missing source only when no row has the
uuid. -/
theorem getByUuid_noSuchSource {v : Uuid} (h : getByUuid o db u = .error (.noSuchSource v)) :
    ∀ s ∈ db.sources, s.uuid ≠ u := by
  unfold getByUuid at h
  split at h
  · next hs =>
    have hnil := RowOrder.first_eq_none.1 hs
    intro s hmem hu
    have hrow : s ∈ db.sources.filter (·.uuid = u) := List.mem_filter.2 ⟨hmem, by simpa using hu⟩
    rw [hnil] at hrow
    cases hrow
  · next s hs =>
    exfalso
    unfold fromDbFormat at h
    split at h
    · cases h
    · split at h
      · cases h
      · split at h <;> cases h

/-- The row of a uuid is what `get_by_uuid` shows. -/
theorem getByUuid_of_mem {s : Source} (hkeys : db.sourceUuids.Nodup) (hs : s ∈ db.sources)
    (o : RowOrder Source) : getByUuid o db s.uuid = fromDbFormat db s := by
  rw [getByUuid, filter_key hkeys hs, RowOrder.first_singleton]

/-- A uuid no row has is reported missing. -/
theorem getByUuid_of_not_mem (o : RowOrder Source) (h : u ∉ db.sourceUuids) :
    getByUuid o db u = .error (.noSuchSource u) := by
  have hnil : db.sources.filter (·.uuid = u) = [] := by
    rw [List.filter_eq_nil_iff]
    intro s hs hu
    exact h (List.mem_map.2 ⟨s, hs, by simpa using hu⟩)
  rw [getByUuid, hnil, RowOrder.first_eq_none.2 rfl]

end ByUuid

end SourceCRUD

end WazoDird
