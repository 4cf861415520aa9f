import WazoDird.Services.Model

/-!
# The plugin cache against the database

`Coherent` says that what is cached under a uuid is the plugin of the
stored source of that uuid, under the name the source has now. A get
keeps it, and so does an edit, which invalidates. A deletion and a
phonebook's edit keep it only when the cache has nothing to miss
(`CacheAware`): they never tell the source manager.
-/

namespace WazoDird

variable {installed : String → Bool} {s s' s₁ s₂ s₃ : ServiceState} {db db' db₀ : Database}
  {c : ServiceCall} {l l' : List ServiceCall} {u v : Uuid} {n : String}
  {r : Except DirdError (Option Plugin)}

/-- A source is stored under a uuid and has a name. -/
def Called (db : Database) (u : Uuid) (n : String) : Prop :=
  ∃ x ∈ db.sources, x.uuid = u ∧ db.sourceName x = some n

/-- **What is cached is stored**, and has the name it is stored with. -/
structure Coherent (u : Uuid) (s : ServiceState) : Prop where
  keyed : s.db.sourceUuids.Nodup
  cached : ∀ p, s.sources.cached u = some p → p.config.uuid = u ∧ Called s.db u p.name

/-! ## What the database keeps -/

/-- The name `SourceCRUD` reports is the stored one. -/
theorem name_of_getByUuid (hkeyed : db.sourceUuids.Nodup) (hn : Called db u n)
    {o : RowOrder Source} {info : SourceInfo}
    (hread : SourceCRUD.getByUuid o db u = .ok info) : info.name = n := by
  obtain ⟨-, x, hx, hxu, -, hxn⟩ := SourceCRUD.getByUuid_ok hread
  obtain ⟨y, hy, hyu, hyn⟩ := hn
  obtain rfl := eq_of_key hkeyed hx hy (hxu.trans hyu.symm)
  exact Option.some.inj (hxn.symm.trans hyn)

/-- Rows dropped, but not the row of the uuid. -/
theorem called_dropSources {p : Source → Bool} (hn : Called db u n)
    (hp : ∀ x ∈ db.sources, p x = true → x.uuid ≠ u) : Called (SourceCRUD.dropSources db p) u n := by
  obtain ⟨x, hx, hxu, hxn⟩ := hn
  refine ⟨x, List.mem_filter.2 ⟨hx, ?_⟩, hxu, ?_⟩
  · by_contra hdrop
    exact hp x hx (by simpa using hdrop) hxu
  · rw [← hxn]
    exact Database.sourceName_congr rfl x

/-- A source created leaves the others as they are. -/
theorem called_create {defaults : SourceDefaults} {backend : String} {tenant : Uuid}
    {body : SourceBody} {info : SourceInfo}
    (h : SourceCRUD.create db defaults backend tenant body = (.ok info, db')) (hn : Called db u n) :
    Called db' u n := by
  rcases SourceCRUD.create_cases h with ⟨e, herr, -⟩ | ⟨x, -, -, rfl, -⟩
  · cases herr
  · obtain ⟨y, hy, hyu, hyn⟩ := hn
    refine ⟨y, List.mem_append_left _ hy, hyu, ?_⟩
    rw [← hyn]
    exact Database.sourceName_congr (db.createTenant_phonebooks tenant) y

/-- A source edited leaves the others as they are. -/
theorem called_edit {o : RowOrder Source} {backend : String} {tenants : Option (List Uuid)}
    {body : SourceBody} {info : SourceInfo}
    (h : SourceCRUD.edit o db backend v tenants body = (.ok info, db')) (hne : v ≠ u)
    (hn : Called db u n) : Called db' u n := by
  rcases SourceCRUD.edit_cases h with ⟨e, herr, -⟩ | ⟨x, x', -, -, hx, hxf, -, rfl, -⟩
  · cases herr
  · obtain ⟨y, hy, hyu, hyn⟩ := hn
    simp only [SourceCRUD.multiTenantFilter, Bool.and_eq_true, decide_eq_true_eq] at hxf
    have hyx : y.uuid ≠ x.uuid := fun hc => hne (hxf.1.2.symm.trans (hc.symm.trans hyu))
    refine ⟨y, List.mem_map.2 ⟨y, hy, if_neg hyx⟩, hyu, ?_⟩
    rw [← hyn]
    exact Database.sourceName_congr rfl y

/-- A phonebook created leaves the sources as they are. -/
theorem called_createPhonebook {defaults : PhonebookDefaults} {tenant : Uuid}
    {body : PhonebookBody} {res : Except DirdError Phonebook}
    (h : PhonebookCRUD.create db defaults tenant body = (res, db')) :
    db'.sources = db.sources ∧ (Called db u n → Called db' u n) := by
  rcases PhonebookCRUD.create_cases h with ⟨e, -, rfl⟩ | ⟨p, -, rfl, -⟩
  · exact ⟨rfl, id⟩
  · have hsources := db.createTenant_sources tenant
    refine ⟨hsources, ?_⟩
    rintro ⟨y, hy, hyu, hyn⟩
    refine ⟨y, hsources ▸ hy, hyu, Database.sourceName_of_phonebook (fun uuid q _ hq => ?_) hyn⟩
    exact ⟨q, PhonebookCRUD.getPhonebook_added hq, rfl⟩

/-- A phonebook edited changes the names of its sources alone, and these
to its own. -/
theorem called_editPhonebook {tenants : List Uuid} {key : PhonebookKey} {body : PhonebookBody}
    {res : Except DirdError Phonebook}
    (h : PhonebookCRUD.edit db (some tenants) key body = (res, db'))
    (hname : ∀ p x, PhonebookCRUD.getByTenantAndId db (some tenants) key = .ok p →
      x ∈ db.sources → x.uuid = u → x.phonebookUuid = some p.uuid → n = body.name) :
    db'.sources = db.sources ∧ (Called db u n → Called db' u n) := by
  rcases PhonebookCRUD.edit_cases h with ⟨e, -, rfl⟩ | ⟨p, -, p', -, -, hp, hp', rfl⟩
  · exact ⟨rfl, id⟩
  · refine ⟨rfl, ?_⟩
    rintro ⟨y, hy, hyu, hyn⟩
    have hu : p'.uuid = p.uuid := by rw [hp']
    by_cases hyp : y.phonebookUuid = some p.uuid
    · -- the source hangs on the edited phonebook, and is now called as it is
      have hnb := hname p y hp hy hyu hyp
      refine ⟨y, hy, hyu, ?_⟩
      unfold Database.sourceName at hyn ⊢
      split at hyn
      · next hb =>
        obtain ⟨q, hq, -⟩ := Option.map_eq_some_iff.1 hyn
        rw [hyp, Option.bind_some] at hq
        have hqu := (Database.mem_of_getPhonebook hq).2
        rw [if_pos hb, hyp, Option.bind_some, PhonebookCRUD.getPhonebook_edited hu, hq,
          Option.map_some, if_pos hqu, Option.map_some, hnb, hp']
      · next hb => rw [if_neg hb, hyn]
    · refine ⟨y, hy, hyu, Database.sourceName_of_phonebook (fun uuid q huuid hq => ?_) hyn⟩
      have hqu := (Database.mem_of_getPhonebook hq).2
      have hne : ¬ q.uuid = p.uuid := fun hc => hyp (by rw [huuid, ← hqu, hc])
      exact ⟨q, by rw [PhonebookCRUD.getPhonebook_edited hu, hq, Option.map_some, if_neg hne], rfl⟩

/-- A phonebook deleted takes its own sources, and leaves the others as
they are. -/
theorem called_deletePhonebook {tenants : List Uuid} {key : PhonebookKey}
    {res : Except DirdError Unit} (h : PhonebookCRUD.delete db (some tenants) key = (res, db'))
    (hbehind : ∀ p x, PhonebookCRUD.getByTenantAndId db (some tenants) key = .ok p →
      x ∈ db.sources → x.uuid = u → x.phonebookUuid ≠ some p.uuid) :
    Called db u n → Called db' u n := by
  rcases PhonebookCRUD.delete_cases h with ⟨e, -, rfl⟩ | ⟨p, hp, -, -, hget, rfl⟩
  · exact id
  · rintro ⟨y, hy, hyu, hyn⟩
    have hyp := hbehind p y hget hy hyu
    refine ⟨y, (PhonebookCRUD.mem_sources_dropPhonebooks hp).2 ⟨hy, hyp⟩, hyu,
      Database.sourceName_of_phonebook (fun uuid q huuid hq => ⟨q, ?_, rfl⟩) hyn⟩
    have hne : uuid ≠ p.uuid := fun hc => hyp (by rw [huuid, hc])
    rw [PhonebookCRUD.getPhonebook_dropped hne, hq]

/-! ## One call -/

/-- **Keys stay keys**, and a uuid is stored that was not only by the call
that created it. -/
theorem keyed_step (hstep : ServiceStep installed s c s') (h : s.db.sourceUuids.Nodup) :
    s'.db.sourceUuids.Nodup ∧
      ∀ u, u ∈ s'.db.sourceUuids → u ∈ s.db.sourceUuids ∨ c.Created u := by
  -- what holds of keys that only go
  have kept : ∀ {db' : Database}, db'.sourceUuids.Sublist s.db.sourceUuids →
      db'.sourceUuids.Nodup ∧ ∀ u, u ∈ db'.sourceUuids → u ∈ s.db.sourceUuids ∨ c.Created u :=
    fun hsub => ⟨h.sublist hsub, fun _ hu => Or.inl (hsub.subset hu)⟩
  cases hstep with
  | get a hget => exact kept (List.Sublist.refl _)
  | createSource a hcreate =>
    obtain ⟨-, hcreate⟩ := SourceService.create_spec hcreate
    rcases SourceCRUD.create_cases hcreate with ⟨e, -, hdb⟩ | ⟨x, info, rfl, -⟩
    · exact kept (hdb ▸ List.Sublist.refl _)
    · obtain ⟨hnew, hkeys, -⟩ := SourceCRUD.create_stored hcreate
      rw [hkeys]
      refine ⟨?_, fun u hu => ?_⟩
      · rw [List.nodup_append]
        refine ⟨h, List.nodup_singleton _, ?_⟩
        rintro u hu v hv rfl
        exact hnew (List.mem_singleton.1 hv ▸ hu)
      · exact (List.mem_append.1 hu).imp id fun hu => (List.mem_singleton.1 hu).symm
  | editSource a hedit =>
    obtain ⟨hedit, -⟩ := SourceService.edit_spec hedit
    rcases SourceCRUD.edit_cases hedit with ⟨e, -, hdb⟩ | ⟨x, x', info, rfl, -⟩
    · exact kept (hdb ▸ List.Sublist.refl _)
    · exact kept ((SourceCRUD.edit_stored hedit).2.1 ▸ List.Sublist.refl _)
  | deleteSource hdelete =>
    obtain ⟨-, hdelete⟩ := SourceService.delete_spec hdelete
    have hdb := (Prod.mk.inj hdelete).2
    exact kept (hdb ▸ List.filter_sublist.map _)
  | createPhonebook a hcreate =>
    rcases PhonebookService.createPhonebook_spec hcreate with rfl | ⟨-, hcreate⟩
    · exact kept (List.Sublist.refl _)
    · have hsources := (called_createPhonebook (u := "") (n := "") hcreate).1
      exact kept (by rw [Database.sourceUuids, hsources]; exact List.Sublist.refl _)
  | editPhonebook hedit =>
    rcases PhonebookService.editPhonebook_spec hedit with rfl | ⟨-, hedit⟩
    · exact kept (List.Sublist.refl _)
    · refine kept ?_
      rcases PhonebookCRUD.edit_cases hedit with ⟨e, -, hdb⟩ | ⟨p, -, p', -, -, -, -, hdb⟩
      · exact hdb ▸ List.Sublist.refl _
      · exact hdb ▸ List.Sublist.refl _
  | deletePhonebook hdelete =>
    obtain ⟨-, hdelete⟩ := PhonebookService.deletePhonebook_spec hdelete
    rcases PhonebookCRUD.delete_cases hdelete with ⟨e, -, hdb⟩ | ⟨p, -, -, -, -, hdb⟩
    · exact kept (hdb ▸ List.Sublist.refl _)
    · exact kept (hdb ▸ List.filter_sublist.map _)

/-- **A get keeps the cache coherent**, when no other source called by the
uuid is loaded. -/
theorem coherent_get (h : Coherent u s) {a : ServiceAnswers} {v : Uuid}
    {r : Except DirdError (Option Plugin)} {sources : PluginCache}
    (hget : SourceManager.get installed a.raises a.now a.rows s.db s.sources v = (r, sources))
    (haware : v ≠ u → s.sources.cached v = none → ∀ x ∈ s.db.sources, x.uuid = v →
      installed x.backend = true → s.db.sourceName x ≠ some u) :
    ∀ p, sources.cached u = some p → p.config.uuid = u ∧ Called s.db u p.name := by
  rcases SourceManager.get_cases hget with ⟨-, -, -, rfl⟩ | ⟨hmiss, ⟨-, -, -, -, rfl⟩ |
    ⟨-, rfl⟩ | ⟨config, hread, hi, -, rfl⟩⟩
  · exact h.cached
  · exact h.cached
  · intro p hp
    rw [Dict.cached_set] at hp
    split at hp
    · cases hp
    · exact h.cached p hp
  · obtain ⟨hcu, x, hx, hxu, hxb, hxn⟩ := SourceCRUD.getByUuid_ok hread
    intro p hp
    rw [Dict.cached_set] at hp
    split at hp
    · next hvu =>
      cases hp
      exact ⟨hcu.trans hvu, x, hx, hxu.trans hvu, hxn⟩
    · next hne =>
      cases ha : a.raises with
      | true => exact h.cached p (by simpa [ha] using hp)
      | false =>
        -- the plugin is stored under its name too, which is not the uuid
        have hname : config.name ≠ u := fun hc =>
          haware hne hmiss x hx hxu (hxb ▸ hi) (hc ▸ hxn)
        rw [ha, if_neg (by simp), Dict.cached_set, if_neg hname] at hp
        exact h.cached p hp

/-- **One call keeps the cache coherent**, when the cache cannot miss
it. -/
theorem coherent_step (h : Coherent u s)
    (hstep : Guarded (CacheAware installed u) (ServiceStep installed) s c s') : Coherent u s' := by
  obtain ⟨haware, hstep⟩ := hstep
  refine ⟨(keyed_step hstep h.keyed).1, ?_⟩
  obtain ⟨hkeyed, hcached⟩ := h
  -- a call that leaves the cache alone
  have kept : s'.sources = s.sources → (∀ q n, s.sources.cached u = some q → q.name = n →
      Called s.db u n → Called s'.db u n) →
      ∀ p, s'.sources.cached u = some p → p.config.uuid = u ∧ Called s'.db u p.name := by
    intro hsources hcalled p hp
    rw [hsources] at hp
    exact ⟨(hcached p hp).1, hcalled p _ hp rfl (hcached p hp).2⟩
  cases hstep with
  | get a hget => exact coherent_get ⟨hkeyed, hcached⟩ hget haware
  | createSource a hcreate =>
    obtain ⟨hsources, hcreate⟩ := SourceService.create_spec hcreate
    refine kept hsources fun q n _ _ hn => ?_
    rcases SourceCRUD.create_cases hcreate with ⟨e, -, hdb⟩ | ⟨x, info, rfl, -⟩
    · exact hdb ▸ hn
    · exact called_create hcreate hn
  | @editSource _ backend v tenants body r a hedit =>
    obtain ⟨hedit, ⟨e, rfl, hsources⟩ | ⟨info, rfl, hsources⟩⟩ := SourceService.edit_spec hedit
    · rcases SourceCRUD.edit_cases hedit with ⟨e, -, hdb⟩ | ⟨x, x', info, hr, -⟩
      · exact kept hsources fun q n _ _ hn => hdb ▸ hn
      · cases hr
    · intro p hp
      rw [hsources, SourceManager.invalidate, Dict.cached_erase] at hp
      split at hp
      · cases hp
      · next hne => exact ⟨(hcached p hp).1, called_edit hedit hne (hcached p hp).2⟩
  | @deleteSource _ backend v tenants r hdelete =>
    obtain ⟨hsources, hdelete⟩ := SourceService.delete_spec hdelete
    have hdb := (Prod.mk.inj hdelete).2
    refine kept hsources fun q n hq _ hn => hdb ▸ called_dropSources hn fun x hx hpx hxu => ?_
    have hnone := haware ⟨x, hx, hpx, hxu⟩
    rw [hq] at hnone
    cases hnone
  | createPhonebook a hcreate =>
    rcases PhonebookService.createPhonebook_spec hcreate with rfl | ⟨hsources, hcreate⟩
    · exact hcached
    · exact kept hsources fun q n _ _ hn => (called_createPhonebook hcreate).2 hn
  | @editPhonebook _ tenants key body r hedit =>
    rcases PhonebookService.editPhonebook_spec hedit with rfl | ⟨hsources, hedit⟩
    · exact hcached
    · cases r with
      | error e =>
        rcases PhonebookCRUD.edit_cases hedit with ⟨e, -, hdb⟩ | ⟨p, -, p', hr, -⟩
        · exact kept hsources fun q n _ _ hn => hdb ▸ hn
        · cases hr
      | ok p' =>
        refine kept hsources fun q n hq hqn hn => (called_editPhonebook hedit ?_).2 hn
        intro p x hp hx hxu hxp
        exact hqn.symm.trans (haware p x q hp hx hxu hxp hq)
  | deletePhonebook hdelete =>
    obtain ⟨hsources, hdelete⟩ := PhonebookService.deletePhonebook_spec hdelete
    refine kept hsources fun q n hq _ hn => called_deletePhonebook hdelete ?_ hn
    intro p x hp hx hxu hxp
    have hnone := haware p x hp hx hxu hxp
    rw [hq] at hnone
    cases hnone

/-- What a call removed is not stored after it. -/
theorem not_stored_of_removed (hstep : ServiceStep installed s c s')
    (hkeyed : s.db.sourceUuids.Nodup) (hremoved : c.Removed u s.db) :
    u ∉ s'.db.sourceUuids := by
  intro hu
  obtain ⟨y, hy, hyu⟩ := List.mem_map.1 hu
  cases hstep with
  | @deleteSource _ backend v tenants r hdelete =>
    obtain ⟨-, hdelete⟩ := SourceService.delete_spec hdelete
    rw [SourceCRUD.delete_eq] at hdelete
    obtain ⟨hr, hdb⟩ := Prod.mk.inj hdelete
    cases r with
    | error e => exact hremoved
    | ok =>
      obtain rfl : v = u := hremoved
      split at hr
      · next hany =>
        obtain ⟨x, hx, hxp⟩ := List.any_eq_true.1 hany
        have hxu := (SourceCRUD.multiTenantFilter_eq_true.1 hxp).2.1
        rw [← hdb] at hy
        obtain ⟨hys, hyp⟩ := List.mem_filter.1 hy
        obtain rfl := eq_of_key hkeyed hx hys (hxu.trans hyu.symm)
        rw [hxp] at hyp
        cases hyp
      · cases hr
  | @deletePhonebook _ tenants key r hdelete =>
    obtain ⟨-, hdelete⟩ := PhonebookService.deletePhonebook_spec hdelete
    cases r with
    | error e => exact hremoved
    | ok =>
      obtain ⟨p, x, hp, hx, hxu, hxp⟩ := hremoved
      rcases PhonebookCRUD.delete_cases hdelete with ⟨e, he, -⟩ | ⟨q, hq, -, -, hget, hdb⟩
      · cases he
      · obtain rfl := Except.ok.inj (hp.symm.trans hget)
        rw [hdb] at hy
        obtain ⟨hys, hyp⟩ := (PhonebookCRUD.mem_sources_dropPhonebooks hq).1 hy
        obtain rfl := eq_of_key hkeyed hx hys (hxu.trans hyu.symm)
        exact hyp hxp
  | _ => exact hremoved

/-! ## Every run -/

/-- The calls the cache cannot miss. -/
abbrev AwareStep (installed : String → Bool) (u : Uuid) :
    ServiceState → ServiceCall → ServiceState → Prop :=
  Guarded (CacheAware installed u) (ServiceStep installed)

theorem coherent_of_run (hkeys : db₀.sourceUuids.Nodup)
    (h : Run (AwareStep installed u) { db := db₀ } l s) : Coherent u s :=
  h.invariant ⟨hkeys, fun _ hp => by cases hp⟩ coherent_step

/-- What is not stored stays so until it is created. -/
theorem not_stored_of_run (h : Run (AwareStep installed u) s l s') (hu : u ∉ s.db.sourceUuids)
    (hkeyed : s.db.sourceUuids.Nodup) (hl : ∀ d ∈ l, ¬ d.Created u) :
    s'.db.sourceUuids.Nodup ∧ u ∉ s'.db.sourceUuids := by
  induction h with
  | nil => exact ⟨hkeyed, hu⟩
  | snoc _ hs ih =>
    obtain ⟨hk, hn⟩ := ih fun d hd => hl d (List.mem_append_left _ hd)
    obtain ⟨hk', hstored⟩ := keyed_step hs.2 hk
    refine ⟨hk', fun hu' => ?_⟩
    rcases hstored u hu' with hu' | hc
    · exact hn hu'
    · exact hl _ (List.mem_append_right _ (List.mem_singleton_self _)) hc

/-- **Deletions and renames reach the gets that follow**, along every run
of calls the cache cannot miss: a get of a source that was deleted, or
whose phonebook was, answers none until one of that uuid is created; and
the plugin a get answers with has the name the source now has. -/
theorem services_reach_gets (hkeys : db₀.sourceUuids.Nodup)
    (hrun : Run (AwareStep installed u) { db := db₀ } l s) (hcall : AwareStep installed u s c s₁)
    (hlater : Run (AwareStep installed u) s₁ l' s₂)
    (hget : AwareStep installed u s₂ (.get u r) s₃) :
    (c.Removed u s.db → (∀ d ∈ l', ¬ d.Created u) → r = .ok none) ∧
    ∀ p, r = .ok (some p) → p.config.uuid = u ∧
      ∀ o info, SourceCRUD.getByUuid o s₂.db u = .ok info → p.name = info.name := by
  have hcoh₀ := coherent_of_run hkeys hrun
  have hcoh : Coherent u s₂ := hlater.invariant (coherent_step hcoh₀ hcall) coherent_step
  cases hget.2 with
  | get a h =>
    constructor
    · intro hremoved hnew
      have hgone := not_stored_of_removed hcall.2 hcoh₀.keyed hremoved
      have hgone₂ := (not_stored_of_run hlater hgone (keyed_step hcall.2 hcoh₀.keyed).1 hnew).2
      rcases SourceManager.get_cases h with ⟨p, hp, -, -⟩ | ⟨-, ⟨e, he, hread, -, -⟩ | ⟨hr, -⟩ |
        ⟨config, hread, -, -, -⟩⟩
      · obtain ⟨-, x, hx, hxu, -⟩ := hcoh.cached p hp
        exact absurd (List.mem_map.2 ⟨x, hx, hxu⟩) hgone₂
      · rw [SourceCRUD.getByUuid_of_not_mem _ hgone₂] at hread
        exact absurd (Except.error.inj hread).symm (he u)
      · exact hr
      · obtain ⟨-, x, hx, hxu, -⟩ := SourceCRUD.getByUuid_ok hread
        exact absurd (List.mem_map.2 ⟨x, hx, hxu⟩) hgone₂
    · rintro p rfl
      have hp : p.config.uuid = u ∧ Called s₂.db u p.name := by
        rcases SourceManager.get_cases h with ⟨q, hq, hr, -⟩ | ⟨-, ⟨e, -, -, hr, -⟩ | ⟨hr, -⟩ |
          ⟨config, hread, -, hr, -⟩⟩
        · cases hr
          exact hcoh.cached p hq
        · cases hr
        · cases hr
        · cases hr
          obtain ⟨hcu, x, hx, hxu, -, hxn⟩ := SourceCRUD.getByUuid_ok hread
          exact ⟨hcu, x, hx, hxu, hxn⟩
      exact ⟨hp.1, fun o info hread => (name_of_getByUuid hcoh.keyed hp.2 hread).symm⟩

/-! ## What the cache misses -/

/-- A server that returns rows as stored, under plugins that load. -/
def asStored : ServiceAnswers where
  rows := .asStored
  source := ⟨"default", "default"⟩
  phonebook := ⟨"default", 2⟩
  raises := false
  now := 0

/-- A csv source, and a phonebook source behind the phonebook `old`. -/
def twoSources : Database where
  phonebooks := [{ id := 1, uuid := "p1", name := "old", tenantUuid := "t" }]
  sources := [{ uuid := "s1", rawName := "csv", tenantUuid := "t", backend := "csv" },
    { uuid := "s2", rawName := "x", tenantUuid := "t", backend := "phonebook",
      phonebookUuid := some "p1" }]

/-- A source deleted before it was ever loaded is not found. -/
theorem deleted_source_not_found : ∃ s₁ s₃ r,
    AwareStep (fun _ => true) "s1" { db := twoSources } (.deleteSource "csv" "s1" ["t"] (.ok ()))
      s₁ ∧
    AwareStep (fun _ => true) "s1" s₁ (.get "s1" r) s₃ ∧ r = .ok none := by
  have hdelete : AwareStep (fun _ => true) "s1" { db := twoSources }
      (.deleteSource "csv" "s1" ["t"] (.ok ())) _ := ⟨fun _ => rfl, .deleteSource rfl⟩
  have hget : AwareStep (fun _ => true) "s1"
      { db := SourceCRUD.dropSources twoSources
          (SourceCRUD.multiTenantFilter "csv" "s1" (some ["t"])) } (.get "s1" _) _ :=
    ⟨fun hne => absurd rfl hne, .get asStored rfl⟩
  have hkeys : twoSources.sourceUuids.Nodup := by decide
  have hboth := services_reach_gets hkeys (Run.nil _) hdelete (Run.nil _) hget
  exact ⟨_, _, _, hdelete, hget, hboth.1 rfl fun _ hd => by cases hd⟩

/-- **The cache misses both**: once its plugin is loaded, a deleted source
is still answered for, and a phonebook source whose phonebook is renamed
is answered for under its old name. -/
theorem deletes_and_renames_missed : ∃ l s s₁ s₂ p q,
    Run (ServiceStep fun _ => true) { db := twoSources }
      (l ++ [.deleteSource "csv" "s1" ["t"] (.ok ()),
        .editPhonebook ["t"] (.uuid "p1") { name := "new" }
          (.ok { id := 1, uuid := "p1", name := "new", tenantUuid := "t" })]) s ∧
    ServiceStep (fun _ => true) s (.get "s1" (.ok (some p))) s₁ ∧
    ServiceStep (fun _ => true) s (.get "s2" (.ok (some q))) s₂ ∧ q.name = "old" ∧
    (SourceCRUD.getByUuid .asStored s.db "s2").toOption.map SourceInfo.name = some "new" := by
  exact ⟨[.get "s1" _, .get "s2" _], _, _, _, _, _,
    Run.cons (.get asStored rfl) <| Run.cons (.get asStored rfl) <|
      Run.cons (.deleteSource rfl) <| Run.single (.editPhonebook rfl),
    .get asStored rfl, .get asStored rfl, rfl, rfl⟩

end WazoDird
