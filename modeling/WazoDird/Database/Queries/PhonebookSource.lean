import WazoDird.Database.Queries.Source

/-!
# Sources on a phonebook

The phonebook a body gives its source must be one of the source's tenant.
Of such a body the creation and the edition of a phonebook source go
through, and of any other they raise `NoSuchPhonebook` and change nothing.
-/

namespace WazoDird

/-- A uuid designates a phonebook of a tenant. -/
def Designates (db : Database) (tenantUuid uuid : Uuid) : Prop :=
  ∃ p ∈ db.phonebooks, p.uuid = uuid ∧ p.tenantUuid = tenantUuid

/-- What the unique constraints keep of the two tables. -/
structure SourceConstraints (db : Database) : Prop where
  phonebooks : (db.phonebooks.map Phonebook.uuid).Nodup
  sources : db.sourceUuids.Nodup
  names : ∀ x ∈ db.sources, ∀ t ∈ db.sources, x.uuid ≠ t.uuid →
    x.tenantUuid = t.tenantUuid → x.rawName ≠ t.rawName

/-- **A source is stored on a phonebook**, one that is there. -/
structure StoredOn (db : Database) (sourceUuid phonebookUuid : Uuid) : Prop where
  keyed : db.sourceUuids.Nodup
  row : ∃ x ∈ db.sources, x.uuid = sourceUuid ∧ x.backend = "phonebook" ∧
    x.phonebookUuid = some phonebookUuid
  phonebook : ∃ p, db.getPhonebook phonebookUuid = some p

namespace SourceCRUD

variable {db : Database} {tenant u : Uuid} {p : Phonebook} {x source : Source} {body : SourceBody}

/-- A phonebook of the tenant passes the check. -/
theorem checkPhonebook_of_designates (hkeys : (db.phonebooks.map Phonebook.uuid).Nodup)
    (h : Designates db tenant u) :
    ∃ p, db.getPhonebook u = some p ∧ checkPhonebook db tenant u = .ok p := by
  obtain ⟨p, hp, rfl, ht⟩ := h
  have hget : db.getPhonebook p.uuid = some p := find?_key hkeys hp
  refine ⟨p, hget, ?_⟩
  rw [checkPhonebook, hget]
  exact if_pos ht

/-- Any other uuid does not. -/
theorem checkPhonebook_of_not_designates (h : ¬ Designates db tenant u) :
    checkPhonebook db tenant u = .error (.noSuchPhonebook (.uuid u) (some [tenant])) := by
  unfold checkPhonebook
  split
  · rfl
  · next p hp =>
    obtain ⟨hmem, hu⟩ := Database.mem_of_getPhonebook hp
    exact if_neg fun ht => h ⟨p, hmem, hu, ht⟩

/-- A source on a phonebook takes the columns of a body. -/
theorem updateToDbFormat_phonebook (hb : source.backend = "phonebook")
    (hu : source.phonebookUuid = some u) (hp : db.getPhonebook u = some p) :
    updateToDbFormat db source body =
      .ok { source with
        searchedColumns := body.searchedColumns, firstMatchedColumns := body.firstMatchedColumns
        formatColumns := body.formatColumns, extraFields := body.extraFields } := by
  have hsome : (source.phonebookUuid.bind db.getPhonebook).isSome = true := by
    rw [hu, Option.bind_some, hp]
    rfl
  rw [updateToDbFormat, if_pos hb, if_pos hsome]

/-- A source on a phonebook is shown with it. -/
theorem fromDbFormat_phonebook (hb : source.backend = "phonebook")
    (hu : source.phonebookUuid = some u) (hp : db.getPhonebook u = some p) :
    ∃ info, fromDbFormat db source = .ok info ∧ info.uuid = source.uuid ∧
      info.backend = "phonebook" ∧ info.phonebookUuid = some u := by
  have hname : db.sourceName source = some p.name := by
    rw [Database.sourceName, if_pos hb, hu, Option.bind_some, hp]
    rfl
  rw [fromDbFormat, hname, hu]
  dsimp only
  rw [hp]
  exact ⟨_, rfl, rfl, hb, rfl⟩

/-- **A phonebook source is made from a body** that gives it a phonebook of
its tenant. -/
theorem createNewSource_phonebook (defaults : SourceDefaults)
    (hkeys : (db.phonebooks.map Phonebook.uuid).Nodup) (hbody : body.phonebookUuid = some u)
    (h : Designates db tenant u) :
    ∃ p source, db.getPhonebook u = some p ∧
      createNewSource db defaults "phonebook" tenant body = .ok source ∧
      source.rawName = defaults.name ∧ source.phonebookUuid = some u := by
  obtain ⟨p, hp, hcheck⟩ := checkPhonebook_of_designates hkeys h
  rw [createNewSource, if_pos rfl, hbody]
  dsimp only
  rw [bind_eq_ok.2 ⟨p, hcheck, updateToDbFormat_phonebook rfl rfl hp⟩]
  exact ⟨p, _, hp, rfl, rfl, rfl⟩

/-- **A phonebook source is changed by a body** that gives it a phonebook
of its tenant. -/
theorem updateSource_phonebook (hkeys : (db.phonebooks.map Phonebook.uuid).Nodup)
    (hb : source.backend = "phonebook") (hbody : body.phonebookUuid.filter (· ≠ "") = some u)
    (h : Designates db source.tenantUuid u) :
    ∃ p source', db.getPhonebook u = some p ∧ updateSource db source body = .ok source' ∧
      source'.rawName = source.rawName ∧ source'.phonebookUuid = some u := by
  obtain ⟨p, hp, hcheck⟩ := checkPhonebook_of_designates hkeys h
  have hgiven : ({ source with phonebookUuid := some u } : Source).backend = "phonebook" := hb
  rw [updateSource, if_pos hb, hbody]
  dsimp only
  rw [bind_eq_ok.2 ⟨p, hcheck, updateToDbFormat_phonebook hgiven rfl hp⟩]
  exact ⟨p, _, hp, rfl, rfl, rfl⟩

/-- What the making of a source raises is raised by its creation. -/
theorem create_error {defaults : SourceDefaults} {backend : String} {e : DirdError}
    (h : createNewSource (db.createTenant tenant) defaults backend tenant body = .error e) :
    create db defaults backend tenant body = (.error e, db) := by
  rw [create]
  dsimp only
  rw [h]
  rfl

/-- A row that clashes with none is created. -/
theorem create_row {defaults : SourceDefaults} {backend : String} {info : SourceInfo}
    (h : createNewSource (db.createTenant tenant) defaults backend tenant body = .ok source)
    (hclash : ∀ y ∈ db.sources, clash source y = false)
    (hinfo : fromDbFormat { db.createTenant tenant with sources := db.sources ++ [source] } source =
      .ok info) :
    create db defaults backend tenant body =
      (.ok info, { db.createTenant tenant with sources := db.sources ++ [source] }) := by
  have hflush : flushAndHandle (db.createTenant tenant).sources source body = .ok () := by
    rw [Database.createTenant_sources, flushAndHandle, if_neg]
    simpa using hclash
  rw [← db.createTenant_sources tenant] at hinfo ⊢
  simp only [create, h, hflush, hinfo, bind, Except.bind]
  rfl

/-- What the change of the row in scope raises is raised by its edition. -/
theorem edit_error {backend : String} {visibleTenants : Option (List Uuid)} {e : DirdError}
    (o : RowOrder Source) (hkeys : db.sourceUuids.Nodup) (hx : x ∈ db.sources)
    (hscope : multiTenantFilter backend x.uuid visibleTenants x = true)
    (h : updateSource db x body = .error e) :
    edit o db backend x.uuid visibleTenants body = (.error e, db) := by
  rw [edit, filter_multiTenantFilter hkeys hx hscope, RowOrder.first_singleton]
  dsimp only
  rw [h]
  rfl

/-- The row in scope, changed into one that clashes with no other. -/
theorem edit_row {backend : String} {visibleTenants : Option (List Uuid)} {info : SourceInfo}
    (o : RowOrder Source) (hkeys : db.sourceUuids.Nodup) (hx : x ∈ db.sources)
    (hscope : multiTenantFilter backend x.uuid visibleTenants x = true)
    (h : updateSource db x body = .ok source)
    (hclash : ∀ y ∈ db.sources, y.uuid ≠ x.uuid → clash source y = false)
    (hinfo : fromDbFormat { db with
      sources := db.sources.map fun s => if s.uuid = x.uuid then source else s } source = .ok info) :
    edit o db backend x.uuid visibleTenants body =
      (.ok info, { db with
        sources := db.sources.map fun s => if s.uuid = x.uuid then source else s }) := by
  have hflush : flushAndHandle (db.sources.filter (·.uuid ≠ x.uuid)) source body = .ok () := by
    rw [flushAndHandle, if_neg]
    simpa using hclash
  rw [edit, filter_multiTenantFilter hkeys hx hscope, RowOrder.first_singleton]
  simp only [h, hflush, hinfo, bind, Except.bind]
  rfl

/-- **The creation of a source refuses** what designates no phonebook. -/
theorem create_of_not_designates {defaults : SourceDefaults} (hbody : body.phonebookUuid = some u)
    (h : ¬ Designates db tenant u) :
    create db defaults "phonebook" tenant body =
      (.error (.noSuchPhonebook (.uuid u) (some [tenant])), db) := by
  have hnot : ¬ Designates (db.createTenant tenant) tenant u := by
    simpa only [Designates, Database.createTenant_phonebooks] using h
  refine create_error ?_
  rw [createNewSource, if_pos rfl, hbody]
  dsimp only
  rw [checkPhonebook_of_not_designates hnot]
  rfl

/-- **So does its edition.** -/
theorem edit_of_not_designates {visibleTenants : Option (List Uuid)} (o : RowOrder Source)
    (hkeys : db.sourceUuids.Nodup) (hx : x ∈ db.sources)
    (hscope : multiTenantFilter "phonebook" x.uuid visibleTenants x = true)
    (hb : x.backend = "phonebook") (hbody : body.phonebookUuid.filter (· ≠ "") = some u)
    (h : ¬ Designates db x.tenantUuid u) :
    edit o db "phonebook" x.uuid visibleTenants body =
      (.error (.noSuchPhonebook (.uuid u) (some [x.tenantUuid])), db) := by
  refine edit_error o hkeys hx hscope ?_
  rw [updateSource, if_pos hb, hbody]
  dsimp only
  rw [checkPhonebook_of_not_designates h]
  rfl

/-- **The creation of a source takes** what designates a phonebook. -/
theorem create_of_designates {defaults : SourceDefaults} (hc : SourceConstraints db)
    (huuid : ∀ y ∈ db.sources, y.uuid ≠ defaults.uuid)
    (hname : ∀ y ∈ db.sources, y.rawName ≠ defaults.name) (hnone : body.uuid = none)
    (hbody : body.phonebookUuid = some u) (h : Designates db tenant u) :
    ∃ info db', create db defaults "phonebook" tenant body = (.ok info, db') ∧
      info.uuid = defaults.uuid ∧ StoredOn db' defaults.uuid u := by
  have hthere : Designates (db.createTenant tenant) tenant u := by
    simpa only [Designates, Database.createTenant_phonebooks] using h
  have hkeys : ((db.createTenant tenant).phonebooks.map Phonebook.uuid).Nodup := by
    rw [Database.createTenant_phonebooks]
    exact hc.phonebooks
  obtain ⟨p, source, hp, hnew, hraw, hpu⟩ := createNewSource_phonebook defaults hkeys hbody hthere
  obtain ⟨hsu, -, hsb, -⟩ := createNewSource_ok hnew
  rw [hnone, Option.getD_none] at hsu
  have hclash : ∀ y ∈ db.sources, clash source y = false := by
    intro y hy
    simp [clash, hsu, hraw, (huuid y hy).symm, (hname y hy).symm]
  let db' : Database := { db.createTenant tenant with sources := db.sources ++ [source] }
  have hp' : db'.getPhonebook u = some p := hp
  obtain ⟨info, hinfo, hiu, -⟩ := fromDbFormat_phonebook hsb hpu hp'
  refine ⟨info, db', create_row hnew hclash hinfo, hiu.trans hsu, ?_, ?_, p, hp'⟩
  · exact keys_append hc.sources fun y hy => hsu ▸ huuid y hy
  · exact ⟨source, List.mem_append_right _ (List.mem_singleton_self _), hsu, hsb, hpu⟩

/-- **So does its edition.** -/
theorem edit_of_designates {visibleTenants : Option (List Uuid)} (o : RowOrder Source)
    (hc : SourceConstraints db) (hx : x ∈ db.sources)
    (hscope : multiTenantFilter "phonebook" x.uuid visibleTenants x = true)
    (hb : x.backend = "phonebook") (hbody : body.phonebookUuid.filter (· ≠ "") = some u)
    (h : Designates db x.tenantUuid u) :
    ∃ info db', edit o db "phonebook" x.uuid visibleTenants body = (.ok info, db') ∧
      StoredOn db' x.uuid u := by
  obtain ⟨p, x', hp, hup, hraw, hpu⟩ := updateSource_phonebook hc.phonebooks hb hbody h
  obtain ⟨⟨hu, hten, hb'⟩, -⟩ := updateSource_ok hup
  -- the row keeps its name and its tenant, so it clashes with no other
  have hclash : ∀ y ∈ db.sources, y.uuid ≠ x.uuid → clash x' y = false := by
    intro y hy hne
    have hnames := hc.names x hx y hy hne.symm
    simp only [clash, hu, hraw, hten, Bool.or_eq_false_iff, Bool.and_eq_false_iff,
      decide_eq_false_iff_not]
    by_cases hsame : x.tenantUuid = y.tenantUuid
    · exact ⟨hne.symm, Or.inl (hnames hsame)⟩
    · exact ⟨hne.symm, Or.inr hsame⟩
  let db' : Database :=
    { db with sources := db.sources.map fun y => if y.uuid = x.uuid then x' else y }
  have hp' : db'.getPhonebook u = some p := hp
  obtain ⟨info, hinfo, -⟩ := fromDbFormat_phonebook (hb'.trans hb) hpu hp'
  refine ⟨info, db', edit_row o hc.sources hx hscope hup hclash hinfo, ?_, ?_, p, hp'⟩
  · rw [Database.sourceUuids, keys_replace hu]
    exact hc.sources
  · exact ⟨x', List.mem_map.2 ⟨x, hx, if_pos rfl⟩, hu, hb'.trans hb, hpu⟩

/-- What `get_by_uuid` shows of a source stored on a phonebook. -/
theorem getByUuid_of_storedOn {v : Uuid} (h : StoredOn db v u) (o : RowOrder Source) :
    ∃ info, getByUuid o db v = .ok info ∧ info.uuid = v ∧ info.backend = "phonebook" ∧
      info.phonebookUuid = some u := by
  obtain ⟨hkeys, ⟨x, hx, rfl, hb, hu⟩, p, hp⟩ := h
  rw [getByUuid_of_mem hkeys hx]
  exact fromDbFormat_phonebook hb hu hp

end SourceCRUD

end WazoDird
