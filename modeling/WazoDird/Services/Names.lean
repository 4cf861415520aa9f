import WazoDird.Services.Coherence

/-!
# The names of a tenant's sources

The unique constraint of `dird_source` is on its column `name`, which is
what a source is called only when it hangs on no phonebook: a phonebook
source is called what its phonebook is called, and no constraint compares
the two. `NameFree` says of a call that the name it asks for is not one
that only the constraint's absence would let through; along every run of
such calls the names a tenant's sources are reported with are distinct,
and one call that is not such a call ends that.
-/

namespace WazoDird

variable {installed : String → Bool} {s s' : ServiceState} {db db' : Database}
  {c : ServiceCall} {l : List ServiceCall} {x : Source}

/-- What `list` or `get` reports of a source. -/
def SourceCRUD.Reported (db : Database) (info : SourceInfo) : Prop :=
  (∃ lower o backend tenants params infos,
    SourceCRUD.list lower o db backend tenants params = .ok infos ∧ info ∈ infos) ∨
  ∃ o backend u tenants, SourceCRUD.get o db backend u tenants = .ok info

/-- **Source names are unique inside a tenant**: no two sources of one
tenant are reported with the same name. -/
def NamesUnique (db : Database) : Prop :=
  ∀ i j, SourceCRUD.Reported db i → SourceCRUD.Reported db j →
    i.tenantUuid = j.tenantUuid → i.name = j.name → i.uuid = j.uuid

/-- **A name designates one source**, at most, of those listed of a
tenant. -/
def NamesDesignate (db : Database) : Prop :=
  ∀ lower o tenant infos name, SourceCRUD.list lower o db none (some [tenant]) {} = .ok infos →
    (infos.filter (·.name = name)).length ≤ 1

/-- What a source of a backend, a phonebook and a body's name is called. -/
def SourceCRUD.bodyName (db : Database) (backend : String) (phonebookUuid : Option Uuid)
    (name : Option String) : Option String :=
  if backend = "phonebook" then (phonebookUuid.bind db.getPhonebook).map Phonebook.name else name

/-- A source called what its phonebook is called. -/
def OnPhonebook (p : Phonebook) (x : Source) : Prop :=
  x.backend = "phonebook" ∧ x.phonebookUuid = some p.uuid

instance (p : Phonebook) (x : Source) : Decidable (OnPhonebook p x) :=
  inferInstanceAs (Decidable (_ ∧ _))

/-- No source of a tenant, among some, has a name that the constraint
would not refuse: that of one of two sources of which one at least is a
phonebook source. -/
def FreeAmong (db : Database) (others : List Source) (backend : String) (tenant : Uuid)
    (name : Option String) : Prop :=
  ∀ t ∈ others, t.tenantUuid = tenant → (backend = "phonebook" ∨ t.backend = "phonebook") →
    db.sourceName t ≠ name

instance (db : Database) (others : List Source) (backend : String) (tenant : Uuid)
    (name : Option String) : Decidable (FreeAmong db others backend tenant name) :=
  inferInstanceAs (Decidable (∀ t ∈ others, t.tenantUuid = tenant →
    (backend = "phonebook" ∨ t.backend = "phonebook") → db.sourceName t ≠ name))

/-- **The call asks for no name the constraint does not guard**: a source
created or edited is not given the name of a source of its tenant on the
other side of the constraint, and a phonebook with a source on it is not
given the name of another source of that tenant. A call that raised gave
no name. -/
def NameFree (db : Database) : ServiceCall → Prop
  | .createSource backend tenant body (.ok _) =>
      FreeAmong db db.sources backend tenant
        (SourceCRUD.bodyName db backend body.phonebookUuid body.name)
  | .editSource backend u tenants body (.ok _) => ∀ x ∈ db.sources,
      SourceCRUD.multiTenantFilter backend u (some tenants) x = true →
      FreeAmong db (db.sources.filter (·.uuid ≠ u)) backend x.tenantUuid
        (SourceCRUD.bodyName db backend
          ((body.phonebookUuid.filter (· ≠ "")).or x.phonebookUuid) body.name)
  | .editPhonebook tenants key body (.ok _) => ∀ p ∈ db.phonebooks,
      PhonebookCRUD.getByTenantAndId db (some tenants) key = .ok p →
      ∀ x ∈ db.sources, OnPhonebook p x →
        FreeAmong db (db.sources.filter fun t => ¬ OnPhonebook p t) "phonebook" x.tenantUuid
          (some body.name)
  | _ => True

instance (db : Database) : (c : ServiceCall) → Decidable (NameFree db c)
  | .createSource backend tenant body (.ok _) => inferInstanceAs (Decidable
      (FreeAmong db db.sources backend tenant
        (SourceCRUD.bodyName db backend body.phonebookUuid body.name)))
  | .editSource backend u tenants body (.ok _) => inferInstanceAs (Decidable
      (∀ x ∈ db.sources, SourceCRUD.multiTenantFilter backend u (some tenants) x = true →
        FreeAmong db (db.sources.filter (·.uuid ≠ u)) backend x.tenantUuid
          (SourceCRUD.bodyName db backend
            ((body.phonebookUuid.filter (· ≠ "")).or x.phonebookUuid) body.name)))
  | .editPhonebook tenants key body (.ok _) => inferInstanceAs (Decidable
      (∀ p ∈ db.phonebooks, PhonebookCRUD.getByTenantAndId db (some tenants) key = .ok p →
        ∀ x ∈ db.sources, OnPhonebook p x →
          FreeAmong db (db.sources.filter fun t => ¬ OnPhonebook p t) "phonebook" x.tenantUuid
            (some body.name)))
  | .createSource _ _ _ (.error _) | .editSource _ _ _ _ (.error _)
  | .editPhonebook _ _ _ (.error _) | .get .. | .deleteSource .. | .createPhonebook ..
  | .deletePhonebook .. => isTrue trivial

namespace SourceCRUD

variable {defaults : SourceDefaults} {backend : String} {tenant : Uuid} {body : SourceBody}
  {source source' : Source}

/-- A source not called by a phonebook is called what its column says. -/
theorem sourceName_raw (h : x.backend ≠ "phonebook") : db.sourceName x = some x.rawName :=
  if_neg h

/-- What a row written from a body is called. -/
theorem updateToDbFormat_name (h : updateToDbFormat db source body = .ok source') :
    db.sourceName source' = bodyName db source.backend source.phonebookUuid body.name := by
  unfold updateToDbFormat at h
  split at h
  · next hb =>
    rw [bodyName, if_pos hb]
    split at h
    · cases h
      exact if_pos hb
    · cases h
  · next hb =>
    rw [bodyName, if_neg hb]
    split at h
    · cases h
    · next name hname =>
      split at h
      · cases h
      · cases h
        rw [hname]
        exact sourceName_raw hb

theorem createNewSource_name (h : createNewSource db defaults backend tenant body = .ok source) :
    db.sourceName source = bodyName db backend body.phonebookUuid body.name := by
  unfold createNewSource at h
  split at h
  · split at h
    · cases h
    · next hpb =>
      obtain ⟨p, -, hs⟩ := bind_eq_ok.1 h
      rw [updateToDbFormat_name hs, hpb]
  · next hb =>
    rw [updateToDbFormat_name h, bodyName, bodyName, if_neg hb, if_neg hb]

theorem updateSource_name (h : updateSource db source body = .ok source') :
    db.sourceName source' = bodyName db source.backend
      ((body.phonebookUuid.filter (· ≠ "")).or source.phonebookUuid) body.name := by
  unfold updateSource at h
  split at h
  · split at h
    · next hnone => rw [updateToDbFormat_name h, hnone, Option.none_or]
    · next uuid huuid =>
      obtain ⟨p, -, hs⟩ := bind_eq_ok.1 h
      rw [updateToDbFormat_name hs, huuid, Option.some_or]
  · next hb => rw [updateToDbFormat_name h, bodyName, bodyName, if_neg hb, if_neg hb]

/-- A source can be reported: a phonebook source has a phonebook, and the
phonebook of a source is there. -/
def Readable (db : Database) (x : Source) : Prop :=
  (x.backend = "phonebook" → x.phonebookUuid ≠ none) ∧
    ∀ u, x.phonebookUuid = some u → ∃ p, db.getPhonebook u = some p

theorem readable_iff : Readable db x ↔ ∃ info, fromDbFormat db x = .ok info := by
  unfold fromDbFormat
  constructor
  · rintro ⟨hsome, hthere⟩
    cases hpb : x.phonebookUuid with
    | none =>
      have hb : x.backend ≠ "phonebook" := fun hb => hsome hb hpb
      rw [sourceName_raw hb]
      exact ⟨_, rfl⟩
    | some u =>
      obtain ⟨p, hp⟩ := hthere u hpb
      have hname : ∃ name, db.sourceName x = some name := by
        by_cases hb : x.backend = "phonebook"
        · exact ⟨p.name, by rw [Database.sourceName, if_pos hb, hpb, Option.bind_some, hp]; rfl⟩
        · exact ⟨x.rawName, sourceName_raw hb⟩
      obtain ⟨name, hname⟩ := hname
      simp [hname, hp]
  · rintro ⟨info, h⟩
    split at h
    · cases h
    · next name hname =>
      refine ⟨fun hb hpb => ?_, fun u hpb => ?_⟩
      · rw [Database.sourceName, if_pos hb, hpb] at hname
        cases hname
      · rw [hpb] at h
        cases hp : db.getPhonebook u with
        | none => simp [hp] at h
        | some p => exact ⟨p, rfl⟩

end SourceCRUD

/-! ## What is reported is what is stored -/

/-- The sources of the table have distinct keys and can be reported. -/
structure SourcesSound (db : Database) : Prop where
  keyed : db.sourceUuids.Nodup
  readable : ∀ x ∈ db.sources, SourceCRUD.Readable db x

/-- No two rows of a tenant are called the same. -/
def RowsUnique (db : Database) : Prop :=
  ∀ x ∈ db.sources, ∀ t ∈ db.sources, x.tenantUuid = t.tenantUuid →
    db.sourceName x = db.sourceName t → x.uuid = t.uuid

/-- What is reported is a row, as it is read. -/
theorem SourceCRUD.Reported.row {info : SourceInfo} (h : SourceCRUD.Reported db info) :
    ∃ x ∈ db.sources, SourceCRUD.fromDbFormat db x = .ok info := by
  rcases h with
    ⟨lower, o, backend, tenants, params, infos, hlist, hi⟩ | ⟨o, backend, u, tenants, hget⟩
  · obtain ⟨x, hx, -, hinfo⟩ := SourceCRUD.row_of_list hlist hi
    exact ⟨x, hx, hinfo⟩
  · unfold SourceCRUD.get at hget
    split at hget
    · cases hget
    · next x hx => exact ⟨x, (List.mem_filter.1 (RowOrder.mem_of_first hx)).1, hget⟩

/-- A row that can be reported is, by its uuid. -/
theorem reported_of_mem (h : SourcesSound db) (hx : x ∈ db.sources) :
    ∃ info, SourceCRUD.Reported db info ∧ SourceCRUD.fromDbFormat db x = .ok info := by
  obtain ⟨info, hinfo⟩ := SourceCRUD.readable_iff.1 (h.readable x hx)
  refine ⟨info, Or.inr ⟨.asStored, x.backend, x.uuid, none, ?_⟩, hinfo⟩
  have hscope : SourceCRUD.multiTenantFilter x.backend x.uuid none x = true := by
    simp [SourceCRUD.multiTenantFilter]
  rw [SourceCRUD.get, SourceCRUD.filter_multiTenantFilter h.keyed hx hscope,
    RowOrder.first_singleton]
  exact hinfo

/-- **The names reported are unique when those of the rows are.** -/
theorem namesUnique_iff (h : SourcesSound db) : NamesUnique db ↔ RowsUnique db := by
  constructor
  · intro hn x hx t ht hten hname
    obtain ⟨i, hi, hxi⟩ := reported_of_mem h hx
    obtain ⟨j, hj, htj⟩ := reported_of_mem h ht
    obtain ⟨hiu, -, hit, hin⟩ := SourceCRUD.fromDbFormat_ok hxi
    obtain ⟨hju, -, hjt, hjn⟩ := SourceCRUD.fromDbFormat_ok htj
    have hnames : i.name = j.name := Option.some.inj (hin.symm.trans (hname.trans hjn))
    exact hiu.symm.trans ((hn i j hi hj (hit.trans (hten.trans hjt.symm)) hnames).trans hju)
  · intro hr i j hi hj hten hname
    obtain ⟨x, hx, hxi⟩ := hi.row
    obtain ⟨t, ht, htj⟩ := hj.row
    obtain ⟨hiu, -, hit, hin⟩ := SourceCRUD.fromDbFormat_ok hxi
    obtain ⟨hju, -, hjt, hjn⟩ := SourceCRUD.fromDbFormat_ok htj
    have hrows := hr x hx t ht (hit.symm.trans (hten.trans hjt)) (by rw [hin, hjn, hname])
    exact hiu.trans (hrows.trans hju.symm)

/-- A listing of one tenant holds a name once. -/
theorem namesDesignate_of_rowsUnique (h : SourcesSound db) (hr : RowsUnique db) :
    NamesDesignate db := by
  intro lower o tenant infos name hlist
  have hrows : infos.map (fun i => some i.name) = (o.order (db.sources.filter
      (SourceCRUD.listFilter lower db none (some [tenant]) {}))).map db.sourceName :=
    map_eq_of_mapM_eq_ok (fun hi => (SourceCRUD.fromDbFormat_ok hi).2.2.2.symm) hlist
  have hnodup : (o.order (db.sources.filter
      (SourceCRUD.listFilter lower db none (some [tenant]) {}))).Nodup :=
    (o.perm _).nodup_iff.2 (h.keyed.of_map.filter _)
  have hnames : (infos.map fun i => some i.name).Nodup := by
    rw [hrows]
    refine hnodup.map_on fun x hx t ht hxt => ?_
    obtain ⟨hx, hxf⟩ := List.mem_filter.1 (o.mem_order.1 hx)
    obtain ⟨ht, htf⟩ := List.mem_filter.1 (o.mem_order.1 ht)
    have hxten : x.tenantUuid = tenant := by simpa [SourceCRUD.listFilter] using hxf
    have htten : t.tenantUuid = tenant := by simpa [SourceCRUD.listFilter] using htf
    exact eq_of_key h.keyed hx ht (hr x hx t ht (hxten.trans htten.symm) hxt)
  have honly : ∀ i ∈ infos.filter (·.name = name), some i.name = some name := by
    intro i hi
    simpa using (List.mem_filter.1 hi).2
  have hsame : (infos.filter (·.name = name)).map (fun i => some i.name) =
      List.replicate (infos.filter (·.name = name)).length (some name) :=
    List.eq_replicate_iff.2 ⟨List.length_map _, by
      rintro n hn
      obtain ⟨i, hi, rfl⟩ := List.mem_map.1 hn
      exact honly i hi⟩
  have hfew := hnames.sublist ((List.filter_sublist (p := (·.name = name))).map _)
  rw [hsame, List.nodup_replicate] at hfew
  exact hfew

/-! ## What a call does to the names -/

/-- Fewer sources, under the names they had, are as unique. -/
theorem RowsUnique.mono (h : RowsUnique db) (hsub : ∀ x ∈ db'.sources, x ∈ db.sources)
    (hname : ∀ x ∈ db'.sources, db'.sourceName x = db.sourceName x) : RowsUnique db' := by
  intro x hx t ht hten hxt
  rw [hname x hx, hname t ht] at hxt
  exact h x (hsub x hx) t (hsub t ht) hten hxt

/-- What the phonebooks of the sources keep, the sources keep. -/
theorem SourceCRUD.Readable.mono (h : SourceCRUD.Readable db x)
    (hkeep : ∀ u p, x.phonebookUuid = some u → db.getPhonebook u = some p →
      ∃ p', db'.getPhonebook u = some p') : SourceCRUD.Readable db' x := by
  refine ⟨h.1, fun u hu => ?_⟩
  obtain ⟨p, hp⟩ := h.2 u hu
  exact hkeep u p hu hp

/-- A source that can be reported is called the same when its phonebook
is. -/
theorem sourceName_eq_of_phonebook (h : SourceCRUD.Readable db x)
    (hkeep : ∀ u p, x.phonebookUuid = some u → db.getPhonebook u = some p →
      ∃ p', db'.getPhonebook u = some p' ∧ p'.name = p.name) :
    db'.sourceName x = db.sourceName x := by
  obtain ⟨info, hinfo⟩ := SourceCRUD.readable_iff.1 h
  rw [(SourceCRUD.fromDbFormat_ok hinfo).2.2.2]
  exact Database.sourceName_of_phonebook hkeep (SourceCRUD.fromDbFormat_ok hinfo).2.2.2

/-- **A row written** keeps the names unique exactly when it clashes with
no other on the side the constraint leaves open. -/
theorem rowsUnique_write (h : RowsUnique db) (hphonebooks : db'.phonebooks = db.phonebooks)
    (hmem : ∀ t, t ∈ db'.sources ↔ t = x ∨ t ∈ db.sources ∧ t.uuid ≠ x.uuid)
    (hclash : ∀ t ∈ db.sources, t.uuid ≠ x.uuid → SourceCRUD.clash x t = false) :
    RowsUnique db' ↔ FreeAmong db (db.sources.filter (·.uuid ≠ x.uuid)) x.backend x.tenantUuid
      (db.sourceName x) := by
  have hname := Database.sourceName_congr hphonebooks
  constructor
  · intro hu t ht hten _ hsame
    obtain ⟨ht, hne⟩ := List.mem_filter.1 ht
    have hne : t.uuid ≠ x.uuid := by simpa using hne
    refine hne (hu t ((hmem t).2 (Or.inr ⟨ht, hne⟩)) x ((hmem x).2 (Or.inl rfl)) hten ?_)
    rw [hname, hname, hsame]
  · intro hfree
    -- a row beside the one written, of its tenant, is called otherwise
    have hother : ∀ t ∈ db.sources, t.uuid ≠ x.uuid → t.tenantUuid = x.tenantUuid →
        db.sourceName t ≠ db.sourceName x := by
      intro t ht hne hten hsame
      have hmemf : t ∈ db.sources.filter (·.uuid ≠ x.uuid) :=
        List.mem_filter.2 ⟨ht, by simpa using hne⟩
      by_cases hside : x.backend = "phonebook" ∨ t.backend = "phonebook"
      · exact hfree t hmemf hten hside hsame
      · -- both are called what their columns say, which the constraint keeps apart
        obtain ⟨hxb, htb⟩ := not_or.1 hside
        rw [SourceCRUD.sourceName_raw hxb, SourceCRUD.sourceName_raw htb] at hsame
        have hno := hclash t ht hne
        simp [SourceCRUD.clash, Option.some.inj hsame, hten] at hno
    intro y hy t ht hten hyt
    rw [hname, hname] at hyt
    rcases (hmem y).1 hy with rfl | ⟨hy, hyx⟩ <;> rcases (hmem t).1 ht with rfl | ⟨ht, htx⟩
    · rfl
    · exact absurd hyt.symm (hother t ht htx hten.symm)
    · exact absurd hyt (hother y hy hyx hten)
    · exact h y hy t ht hten hyt

/-- The phonebooks of the sources outlast a call: a phonebook goes only
with the sources that hang on it. -/
theorem phonebooks_step (hstep : ServiceStep installed s c s') (hx : x ∈ s'.db.sources) {u : Uuid}
    {p : Phonebook} (hxu : x.phonebookUuid = some u) (hp : s.db.getPhonebook u = some p) :
    ∃ p', s'.db.getPhonebook u = some p' := by
  have same : s'.db.phonebooks = s.db.phonebooks → ∃ p', s'.db.getPhonebook u = some p' := by
    intro h
    rw [Database.getPhonebook, h]
    exact ⟨p, hp⟩
  cases hstep with
  | get a hget => exact same rfl
  | createSource a hcreate =>
    obtain ⟨-, hcreate⟩ := SourceService.create_spec hcreate
    rcases SourceCRUD.create_cases hcreate with ⟨e, -, hdb⟩ | ⟨y, info, -, hdb, -⟩
    · exact same (by rw [hdb])
    · exact same (by rw [hdb]; exact Database.createTenant_phonebooks _ _)
  | editSource a hedit =>
    obtain ⟨hedit, -⟩ := SourceService.edit_spec hedit
    rcases SourceCRUD.edit_cases hedit with ⟨e, -, hdb⟩ | ⟨y, y', info, -, -, -, -, hdb, -⟩
    · exact same (by rw [hdb])
    · exact same (by rw [hdb])
  | deleteSource hdelete =>
    obtain ⟨-, hdelete⟩ := SourceService.delete_spec hdelete
    exact same (by rw [← (Prod.mk.inj hdelete).2]; rfl)
  | createPhonebook a hcreate =>
    rcases PhonebookService.createPhonebook_spec hcreate with rfl | ⟨-, hcreate⟩
    · exact same rfl
    · rcases PhonebookCRUD.create_cases hcreate with ⟨e, -, hdb⟩ | ⟨q, -, hdb, -⟩
      · exact same (by rw [hdb])
      · exact ⟨p, by rw [hdb]; exact PhonebookCRUD.getPhonebook_added hp⟩
  | editPhonebook hedit =>
    rcases PhonebookService.editPhonebook_spec hedit with rfl | ⟨-, hedit⟩
    · exact same rfl
    · rcases PhonebookCRUD.edit_cases hedit with ⟨e, -, hdb⟩ | ⟨q, -, q', -, -, -, hq', hdb⟩
      · exact same (by rw [hdb])
      · rw [hdb, PhonebookCRUD.getPhonebook_edited (by rw [hq']), hp]
        exact ⟨_, rfl⟩
  | deletePhonebook hdelete =>
    obtain ⟨-, hdelete⟩ := PhonebookService.deletePhonebook_spec hdelete
    rcases PhonebookCRUD.delete_cases hdelete with ⟨e, -, hdb⟩ | ⟨q, hq, -, -, -, hdb⟩
    · exact same (by rw [hdb])
    · rw [hdb] at hx ⊢
      have hne : u ≠ q.uuid := by
        rintro rfl
        exact ((PhonebookCRUD.mem_sources_dropPhonebooks hq).1 hx).2 hxu
      exact ⟨p, by rw [PhonebookCRUD.getPhonebook_dropped hne, hp]⟩

/-- A source after a call was one before, or is the one the call reports. -/
theorem sources_step (hstep : ServiceStep installed s c s') (hx : x ∈ s'.db.sources) :
    x ∈ s.db.sources ∨ ∃ info, SourceCRUD.fromDbFormat s'.db x = .ok info := by
  cases hstep with
  | get a hget => exact Or.inl hx
  | createSource a hcreate =>
    obtain ⟨-, hcreate⟩ := SourceService.create_spec hcreate
    rcases SourceCRUD.create_cases hcreate with ⟨e, -, hdb⟩ | ⟨y, info, -, hdb, hinfo, -⟩
    · exact Or.inl (hdb ▸ hx)
    · rw [hdb] at hx
      rcases List.mem_append.1 hx with hx | hx
      · exact Or.inl hx
      · exact Or.inr ⟨info, List.mem_singleton.1 hx ▸ hinfo⟩
  | editSource a hedit =>
    obtain ⟨hedit, -⟩ := SourceService.edit_spec hedit
    rcases SourceCRUD.edit_cases hedit with ⟨e, -, hdb⟩ | ⟨y, y', info, -, -, -, -, hdb, hinfo⟩
    · exact Or.inl (hdb ▸ hx)
    · rw [hdb] at hx
      obtain ⟨z, hz, rfl⟩ := List.mem_map.1 hx
      split
      · exact Or.inr ⟨info, hinfo⟩
      · exact Or.inl hz
  | deleteSource hdelete =>
    obtain ⟨-, hdelete⟩ := SourceService.delete_spec hdelete
    rw [← (Prod.mk.inj hdelete).2] at hx
    exact Or.inl (List.mem_of_mem_filter hx)
  | createPhonebook a hcreate =>
    rcases PhonebookService.createPhonebook_spec hcreate with rfl | ⟨-, hcreate⟩
    · exact Or.inl hx
    · exact Or.inl ((called_createPhonebook (u := "") (n := "") hcreate).1 ▸ hx)
  | editPhonebook hedit =>
    rcases PhonebookService.editPhonebook_spec hedit with rfl | ⟨-, hedit⟩
    · exact Or.inl hx
    · rcases PhonebookCRUD.edit_cases hedit with ⟨e, -, hdb⟩ | ⟨q, -, q', -, -, -, -, hdb⟩
      · exact Or.inl (hdb ▸ hx)
      · rw [hdb] at hx
        exact Or.inl hx
  | deletePhonebook hdelete =>
    obtain ⟨-, hdelete⟩ := PhonebookService.deletePhonebook_spec hdelete
    rcases PhonebookCRUD.delete_cases hdelete with ⟨e, -, hdb⟩ | ⟨q, hq, -, -, -, hdb⟩
    · exact Or.inl (hdb ▸ hx)
    · rw [hdb] at hx
      exact Or.inl ((PhonebookCRUD.mem_sources_dropPhonebooks hq).1 hx).1

/-- **Every call keeps the sources sound.** -/
theorem sound_step (h : SourcesSound s.db) (hstep : ServiceStep installed s c s') :
    SourcesSound s'.db := by
  refine ⟨(keyed_step hstep h.keyed).1, fun x hx => ?_⟩
  rcases sources_step hstep hx with hold | hinfo
  · exact (h.readable x hold).mono fun u p hu hp => phonebooks_step hstep hx hu hp
  · exact SourceCRUD.readable_iff.2 hinfo

/-- A source created, against the names there are. -/
theorem names_createSource (h : RowsUnique db) {defaults : SourceDefaults} {backend : String}
    {tenant : Uuid} {body : SourceBody} {info : SourceInfo}
    (hcreate : SourceCRUD.create db defaults backend tenant body = (.ok info, db')) :
    RowsUnique db' ↔ FreeAmong db db.sources backend tenant
      (SourceCRUD.bodyName db backend body.phonebookUuid body.name) := by
  obtain ⟨x, hx, hclash, hdb, -⟩ := SourceCRUD.create_ok hcreate
  obtain ⟨-, hxt, hxb, -⟩ := SourceCRUD.createNewSource_ok hx
  have hphonebooks : db'.phonebooks = db.phonebooks := by
    rw [hdb]
    exact db.createTenant_phonebooks tenant
  have hget : (db.createTenant tenant).getPhonebook = db.getPhonebook := by
    funext u
    rw [Database.getPhonebook, Database.getPhonebook, db.createTenant_phonebooks]
  have hname := SourceCRUD.createNewSource_name hx
  rw [Database.sourceName_congr (db.createTenant_phonebooks tenant), SourceCRUD.bodyName, hget]
    at hname
  have hnew : ∀ t ∈ db.sources, t.uuid ≠ x.uuid := by
    intro t ht hu
    have hno := hclash t ht
    simp [SourceCRUD.clash, hu] at hno
  have hall : db.sources.filter (·.uuid ≠ x.uuid) = db.sources :=
    List.filter_eq_self.2 fun t ht => by simpa using hnew t ht
  have hmem : ∀ t, t ∈ db'.sources ↔ t = x ∨ t ∈ db.sources ∧ t.uuid ≠ x.uuid := by
    intro t
    rw [hdb, List.mem_append, List.mem_singleton, or_comm]
    exact or_congr_right (iff_self_and.2 fun ht => hnew t ht)
  rw [rowsUnique_write h hphonebooks hmem fun t ht _ => hclash t ht, hall, hxb, hxt, hname,
    SourceCRUD.bodyName]

/-- A source edited, against the names of the others. -/
theorem names_editSource (hkeyed : db.sourceUuids.Nodup) (h : RowsUnique db) {o : RowOrder Source}
    {backend : String} {u : Uuid} {tenants : List Uuid} {body : SourceBody} {info : SourceInfo}
    (hedit : SourceCRUD.edit o db backend u (some tenants) body = (.ok info, db')) :
    RowsUnique db' ↔ ∀ x ∈ db.sources,
      SourceCRUD.multiTenantFilter backend u (some tenants) x = true →
      FreeAmong db (db.sources.filter (·.uuid ≠ u)) backend x.tenantUuid
        (SourceCRUD.bodyName db backend
          ((body.phonebookUuid.filter (· ≠ "")).or x.phonebookUuid) body.name) := by
  obtain ⟨x, hx, x', hxf, hup, hclash, rfl, -⟩ := SourceCRUD.edit_ok hedit
  obtain ⟨⟨hu, ht, hb⟩, -⟩ := SourceCRUD.updateSource_ok hup
  obtain ⟨hxb, hxu, -⟩ := SourceCRUD.multiTenantFilter_eq_true.1 hxf
  let written : Database := { db with
    sources := db.sources.map fun s => if s.uuid = x.uuid then x' else s }
  have hwrite : RowsUnique written ↔ _ := rowsUnique_write (x := x') h rfl (fun t => ?_)
    fun t ht hne => hclash t ht (hu ▸ hne)
  · rw [hwrite, hu, ht, hb, hxb, hxu, SourceCRUD.updateSource_name hup, hxb]
    constructor
    · intro hfree y hy hyf
      obtain rfl := eq_of_key hkeyed hx hy
        (hxu.trans (SourceCRUD.multiTenantFilter_eq_true.1 hyf).2.1.symm)
      exact hfree
    · intro hfree
      exact hfree x hx hxf
  · -- the row written, and those of another key
    rw [List.mem_map]
    constructor
    · rintro ⟨y, hy, rfl⟩
      split
      · exact Or.inl rfl
      · next hne => exact Or.inr ⟨hy, hu ▸ hne⟩
    · rintro (rfl | ⟨hy, hne⟩)
      · exact ⟨x, hx, if_pos rfl⟩
      · exact ⟨t, hy, if_neg (hu ▸ hne)⟩

/-- What a source is called once a phonebook is edited: the phonebook's
new name, if it is called by it. -/
theorem sourceName_edited {p p' : Phonebook} (hu : p'.uuid = p.uuid)
    (hphonebooks : db'.phonebooks = db.phonebooks.map fun b => if b.uuid = p.uuid then p' else b)
    (h : SourceCRUD.Readable db x) :
    db'.sourceName x = if OnPhonebook p x then some p'.name else db.sourceName x := by
  have hget : ∀ u, db'.getPhonebook u =
      (db.getPhonebook u).map fun b : Phonebook => if b.uuid = p.uuid then p' else b := by
    intro u
    rw [← PhonebookCRUD.getPhonebook_edited hu u, Database.getPhonebook, hphonebooks]
    rfl
  split
  · next hon =>
    obtain ⟨q, hq⟩ := h.2 p.uuid hon.2
    rw [Database.sourceName, if_pos hon.1, hon.2, Option.bind_some, hget, hq, Option.map_some,
      if_pos (Database.mem_of_getPhonebook hq).2, Option.map_some]
  · next hoff =>
    by_cases hb : x.backend = "phonebook"
    · refine sourceName_eq_of_phonebook h fun u q hxu hq => ⟨q, ?_, rfl⟩
      have hne : q.uuid ≠ p.uuid := by
        rw [(Database.mem_of_getPhonebook hq).2]
        rintro rfl
        exact hoff ⟨hb, hxu⟩
      rw [hget, hq, Option.map_some, if_neg hne]
    · rw [SourceCRUD.sourceName_raw hb, SourceCRUD.sourceName_raw hb]

/-- A phonebook edited, against the names of the sources off it. -/
theorem names_editPhonebook (hs : SourcesSound db) (h : RowsUnique db) {tenants : List Uuid}
    {key : PhonebookKey} {body : PhonebookBody} {q : Phonebook}
    (hedit : PhonebookCRUD.edit db (some tenants) key body = (.ok q, db')) :
    RowsUnique db' ↔ ∀ p ∈ db.phonebooks,
      PhonebookCRUD.getByTenantAndId db (some tenants) key = .ok p →
      ∀ x ∈ db.sources, OnPhonebook p x →
        FreeAmong db (db.sources.filter fun t => ¬ OnPhonebook p t) "phonebook" x.tenantUuid
          (some body.name) := by
  rcases PhonebookCRUD.edit_cases hedit with ⟨e, he, -⟩ | ⟨p, hp, p', -, -, hget, hp', hdb⟩
  · cases he
  have hu : p'.uuid = p.uuid := by rw [hp']
  have hphonebooks :
      db'.phonebooks = db.phonebooks.map fun b => if b.uuid = p.uuid then p' else b := by
    rw [hdb]
  have hname : ∀ x ∈ db.sources, db'.sourceName x =
      if OnPhonebook p x then some body.name else db.sourceName x := by
    intro x hx
    rw [sourceName_edited hu hphonebooks (hs.readable x hx), hp']
  have hsources : db'.sources = db.sources := by rw [hdb]
  constructor
  · intro hu r _ hr x hx hon t ht hten _ htn
    obtain rfl := Except.ok.inj (hget.symm.trans hr)
    obtain ⟨ht, hoff⟩ := List.mem_filter.1 ht
    have hoff : ¬ OnPhonebook p t := by simpa using hoff
    have huuid := hu x (hsources ▸ hx) t (hsources ▸ ht) hten.symm (by
      rw [hname x hx, hname t ht, if_pos hon, if_neg hoff, htn])
    exact hoff (eq_of_key hs.keyed hx ht huuid ▸ hon)
  · intro hfree x hx t ht hten hxt
    rw [hsources] at hx ht
    rw [hname x hx, hname t ht] at hxt
    -- a source on the phonebook and one off it are told apart by the condition
    have apart : ∀ {y z}, y ∈ db.sources → z ∈ db.sources → y.tenantUuid = z.tenantUuid →
        OnPhonebook p y → ¬ OnPhonebook p z → db.sourceName z ≠ some body.name := by
      intro y z hy hz hyz hon hoff
      exact hfree p hp hget y hy hon z (List.mem_filter.2 ⟨hz, by simpa using hoff⟩) hyz.symm
        (Or.inl rfl)
    by_cases hxon : OnPhonebook p x <;> by_cases hton : OnPhonebook p t
    · refine h x hx t ht hten ?_
      rw [Database.sourceName, Database.sourceName, if_pos hxon.1, if_pos hton.1, hxon.2, hton.2]
    · rw [if_pos hxon, if_neg hton] at hxt
      exact absurd hxt.symm (apart hx ht hten hxon hton)
    · rw [if_neg hxon, if_pos hton] at hxt
      exact absurd hxt (apart ht hx hten.symm hton hxon)
    · rw [if_neg hxon, if_neg hton] at hxt
      exact h x hx t ht hten hxt

/-! ### The calls that ask for no name -/

/-- Names stay unique where sources only go and the phonebooks of those
that stay keep their names. -/
theorem RowsUnique.fewer (hs : SourcesSound db) (h : RowsUnique db)
    (hsub : ∀ x ∈ db'.sources, x ∈ db.sources)
    (hkeep : ∀ x ∈ db'.sources, ∀ u p, x.phonebookUuid = some u → db.getPhonebook u = some p →
      ∃ p', db'.getPhonebook u = some p' ∧ p'.name = p.name) : RowsUnique db' :=
  h.mono hsub fun x hx => sourceName_eq_of_phonebook (hs.readable x (hsub x hx)) (hkeep x hx)

/-- A source deleted. -/
theorem names_deleteSource (hs : SourcesSound db) (h : RowsUnique db) {backend : String}
    {u : Uuid} {tenants : List Uuid} {r : Except DirdError Unit}
    (hdelete : SourceCRUD.delete db backend u tenants = (r, db')) : RowsUnique db' := by
  have hdb := (Prod.mk.inj hdelete).2
  refine h.fewer hs (fun x hx => ?_) fun x hx u p _ hp => ⟨p, ?_, rfl⟩
  · rw [← hdb] at hx
    exact List.mem_of_mem_filter hx
  · rw [← hdb]
    exact hp

/-- A phonebook created: no source is on it yet. -/
theorem names_createPhonebook (hs : SourcesSound db) (h : RowsUnique db)
    {a : PhonebookDefaults} {tenant : Uuid} {body : PhonebookBody}
    {r : Except DirdError Phonebook}
    (hcreate : PhonebookCRUD.create db a tenant body = (r, db')) : RowsUnique db' := by
  rcases PhonebookCRUD.create_cases hcreate with ⟨e, -, rfl⟩ | ⟨q, -, hdb, -⟩
  · exact h
  · refine h.fewer hs (fun x hx => ?_) fun x hx u p _ hp => ⟨p, ?_, rfl⟩
    · exact (called_createPhonebook (u := "") (n := "") hcreate).1 ▸ hx
    · rw [hdb]
      exact PhonebookCRUD.getPhonebook_added hp

/-- The sources of a phonebook go with it. -/
theorem names_deletePhonebook (hs : SourcesSound db) (h : RowsUnique db) {tenants : List Uuid}
    {key : PhonebookKey} {r : Except DirdError Unit}
    (hdelete : PhonebookCRUD.delete db (some tenants) key = (r, db')) : RowsUnique db' := by
  rcases PhonebookCRUD.delete_cases hdelete with ⟨e, -, rfl⟩ | ⟨q, hq, -, -, -, hdb⟩
  · exact h
  · have hmem : ∀ x, x ∈ db'.sources → x ∈ db.sources ∧ x.phonebookUuid ≠ some q.uuid := by
      intro x hx
      rw [hdb] at hx
      exact (PhonebookCRUD.mem_sources_dropPhonebooks hq).1 hx
    refine h.fewer hs (fun x hx => (hmem x hx).1) fun x hx u p hxu hp => ⟨p, ?_, rfl⟩
    have hne : u ≠ q.uuid := by
      rintro rfl
      exact (hmem x hx).2 hxu
    rw [hdb, PhonebookCRUD.getPhonebook_dropped hne, hp]

/-! ### Every call -/

/-- **One call keeps the names unique exactly when it asks for none that
the constraint does not guard.** -/
theorem names_step (hs : SourcesSound s.db) (h : RowsUnique s.db)
    (hstep : ServiceStep installed s c s') : RowsUnique s'.db ↔ NameFree s.db c := by
  -- a call that raised, or asked for nothing
  have same : NameFree s.db c → s'.db = s.db → (RowsUnique s'.db ↔ NameFree s.db c) := by
    intro hfree hdb
    exact iff_of_true (hdb ▸ h) hfree
  cases hstep with
  | get a hget => exact same trivial rfl
  | @createSource _ backend tenant body r a hcreate =>
    obtain ⟨-, hcreate⟩ := SourceService.create_spec hcreate
    cases r with
    | error e =>
      rcases SourceCRUD.create_cases hcreate with ⟨e, -, hdb⟩ | ⟨x, info, hr, -⟩
      · exact same trivial hdb
      · cases hr
    | ok info => exact names_createSource h hcreate
  | @editSource _ backend u tenants body r a hedit =>
    obtain ⟨hedit, -⟩ := SourceService.edit_spec hedit
    cases r with
    | error e =>
      rcases SourceCRUD.edit_cases hedit with ⟨e, -, hdb⟩ | ⟨x, x', info, hr, -⟩
      · exact same trivial hdb
      · cases hr
    | ok info => exact names_editSource hs.keyed h hedit
  | deleteSource hdelete =>
    obtain ⟨-, hdelete⟩ := SourceService.delete_spec hdelete
    exact iff_of_true (names_deleteSource hs h hdelete) trivial
  | createPhonebook a hcreate =>
    rcases PhonebookService.createPhonebook_spec hcreate with rfl | ⟨-, hcreate⟩
    · exact same trivial rfl
    · exact iff_of_true (names_createPhonebook hs h hcreate) trivial
  | @editPhonebook _ tenants key body r hedit =>
    cases r with
    | error e =>
      rcases PhonebookService.editPhonebook_spec hedit with rfl | ⟨-, hedit⟩
      · exact same trivial rfl
      · rcases PhonebookCRUD.edit_cases hedit with ⟨e, -, hdb⟩ | ⟨q, -, q', hr, -⟩
        · exact same trivial hdb
        · cases hr
    | ok q => exact names_editPhonebook hs h (PhonebookService.editPhonebook_ok hedit)
  | deletePhonebook hdelete =>
    obtain ⟨-, hdelete⟩ := PhonebookService.deletePhonebook_spec hdelete
    exact iff_of_true (names_deletePhonebook hs h hdelete) trivial

/-! ## Every run -/

/-- The calls that ask for no name the constraint does not guard. -/
abbrev NameFreeStep (installed : String → Bool) :
    ServiceState → ServiceCall → ServiceState → Prop :=
  Guarded (fun s c => NameFree s.db c) (ServiceStep installed)

theorem sourcesSound_empty : SourcesSound {} :=
  ⟨List.nodup_nil, fun _ hx => absurd hx List.not_mem_nil⟩

/-- Every state such calls reach is sound, and its names unique. -/
theorem rowsUnique_of_run (h : Run (NameFreeStep installed) { db := {} } l s) :
    SourcesSound s.db ∧ RowsUnique s.db := by
  refine h.invariant (I := fun s => SourcesSound s.db ∧ RowsUnique s.db)
    ⟨sourcesSound_empty, fun _ hx => absurd hx List.not_mem_nil⟩ ?_
  rintro s c s' ⟨hs, hr⟩ ⟨hfree, hstep⟩
  exact ⟨sound_step hs hstep, (names_step hs hr hstep).2 hfree⟩

/-- **Source names are unique inside a tenant**, along every run of calls
that ask for no name the constraint does not guard, and a name designates
one source; one call more keeps them unique exactly when it is such a
call. -/
theorem namesUnique_of_run (h : Run (NameFreeStep installed) { db := {} } l s) :
    NamesUnique s.db ∧ NamesDesignate s.db ∧
      ∀ c s', ServiceStep installed s c s' → (NamesUnique s'.db ↔ NameFree s.db c) := by
  obtain ⟨hs, hr⟩ := rowsUnique_of_run h
  refine ⟨(namesUnique_iff hs).2 hr, namesDesignate_of_rowsUnique hs hr, fun c s' hstep => ?_⟩
  rw [namesUnique_iff (sound_step hs hstep)]
  exact names_step hs hr hstep

/-- A phonebook source behind the phonebook the server numbers first. -/
def onDefault (uuid : Uuid) : SourceBody :=
  { uuid := some uuid, phonebookUuid := some asStored.phonebook.uuid }

/-- Names stay unique while a phonebook, a source on it, and a csv source
of another name are created, and the phonebook is given a third name; the
name of the csv source would have ended that. -/
theorem namesUnique_of_run_renamed : ∃ l s,
    Run (NameFreeStep fun _ => true) { db := {} } l s ∧ s.db.sources.length = 2 ∧
    NamesUnique s.db ∧ ∃ c s', ServiceStep (fun _ => true) s c s' ∧ ¬ NamesUnique s'.db := by
  have hfirst : NameFreeStep (fun _ => true) { db := {} }
      (.createPhonebook "t" { name := "clients" } _) _ :=
    ⟨trivial, .createPhonebook asStored rfl⟩
  have hrun := Run.cons hfirst <|
    Run.cons (a := .createSource "phonebook" "t" (onDefault "s1") _)
    ⟨by decide, .createSource asStored rfl⟩ <|
    Run.cons (a := .createSource "csv" "t" { uuid := some "s2", name := some "others" } _)
    ⟨by decide, .createSource asStored rfl⟩ <|
    Run.single (a := .editPhonebook ["t"] (.id 2) { name := "customers" } _)
    ⟨by decide, .editPhonebook rfl⟩
  obtain ⟨hunique, -, hexact⟩ := namesUnique_of_run hrun
  refine ⟨_, _, hrun, rfl, hunique, .editPhonebook ["t"] (.id 2) { name := "others" }
    (.ok { id := 2, uuid := "default", name := "others", tenantUuid := "t" }), _,
    .editPhonebook rfl, fun h => ?_⟩
  exact absurd ((hexact (.editPhonebook ["t"] (.id 2) { name := "others" }
    (.ok { id := 2, uuid := "default", name := "others", tenantUuid := "t" })) _
    (.editPhonebook rfl)).1 h) (by decide)

/-- **The constraint lets a shared name through**: a phonebook `clients`,
a source on it, and a csv source created under the same name are two
sources of one tenant reported with one name. -/
theorem not_namesUnique_phonebook : ∃ l s,
    Run (ServiceStep fun _ => true) { db := {} } l s ∧ ¬ NamesUnique s.db ∧
      ¬ NamesDesignate s.db := by
  have hfirst : ServiceStep (fun _ => true) { db := {} }
      (.createPhonebook "t" { name := "clients" } _) _ := .createPhonebook asStored rfl
  have hrun := Run.cons hfirst <|
    Run.cons (a := .createSource "phonebook" "t" (onDefault "s1") _) (.createSource asStored rfl) <|
    Run.single (a := .createSource "csv" "t" { uuid := some "s2", name := some "clients" } _)
    (.createSource asStored rfl)
  refine ⟨_, _, hrun, fun hunique => ?_, fun hdesignate => ?_⟩
  · have hsame := hunique _ _ (Or.inr ⟨.asStored, "phonebook", "s1", none, rfl⟩)
      (Or.inr ⟨.asStored, "csv", "s2", none, rfl⟩) rfl rfl
    revert hsame
    decide
  · have hone := hdesignate id .asStored "t" _ "clients" rfl
    revert hone
    decide

end WazoDird
