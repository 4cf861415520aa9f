import WazoDird.Common.Except
import WazoDird.Common.Table
import WazoDird.Database.Queries.Profile

/-!
# The rows a profile is made of

What `_associate_all_services` leaves of a body: one row for each service
of it, of the service of that name and with what is kept of its body, and
under that row one for each of its sources (`Associated`). It goes through
when no service of the body lists a source twice, or one that is not
there, and the database takes their names.
-/

namespace WazoDird

/-- **What the declared keys say** of the tables of profiles. -/
structure Directory.Sound (d : Directory) : Prop where
  profiles : (d.profiles.map Profile.uuid).Nodup
  services : (d.services.map Service.uuid).Nodup
  profile : ∀ s ∈ d.profileServices, ∃ p ∈ d.profiles,
    p.uuid = s.profileUuid ∧ p.tenantUuid = s.profileTenantUuid
  profileService : ∀ a ∈ d.profileServiceSources, ∃ s ∈ d.profileServices,
    s.uuid = a.profileServiceUuid ∧ s.profileTenantUuid = a.profileTenantUuid

/-- A source of a tenant. -/
def Directory.HasSource (d : Directory) (tenantUuid sourceUuid : Uuid) : Prop :=
  ∃ x ∈ d.sources, x.uuid = sourceUuid ∧ x.tenantUuid = tenantUuid

/-- **What the database takes of a service of a body**: its name has no null
character, and its sources are of the tenant, none listed twice. -/
def Directory.Takes (d : Directory) (tenantUuid : Uuid) (e : String × ServiceConfig) : Prop :=
  '\x00' ∉ e.1.toList ∧ e.2.sources.Nodup ∧ ∀ u ∈ e.2.sources, d.HasSource tenantUuid u

/-- The row of a source of a service. -/
def sourceRow (tenantUuid profileServiceUuid sourceUuid : Uuid) : ProfileServiceSource where
  profileServiceUuid := profileServiceUuid
  profileTenantUuid := tenantUuid
  sourceUuid := sourceUuid
  sourceTenantUuid := tenantUuid

variable {d d₀ d' : Directory} {tenantUuid profileUuid profileServiceUuid : Uuid}
  {e : String × ServiceConfig} {s : ProfileService} {server : ProfileServer}

/-- **A row holds a service of a body**: its service has the name, it keeps
what is kept of the body, and it has the sources. -/
structure ServiceRow (d : Directory) (tenantUuid profileUuid : Uuid)
    (e : String × ServiceConfig) (s : ProfileService) : Prop where
  mem : s ∈ d.profileServices
  profile : s.profileUuid = profileUuid
  tenant : s.profileTenantUuid = tenantUuid
  config : s.config = e.2.config
  name : ∃ service ∈ d.services, service.uuid = s.serviceUuid ∧ service.name = e.1
  sources : d.profileServiceSources.filter (·.profileServiceUuid = s.uuid) =
    e.2.sources.map (sourceRow tenantUuid s.uuid)
  there : ∀ u ∈ e.2.sources, d.HasSource tenantUuid u

/-- **What associating the services of a body leaves**: a row for each of
them, and no other table changed. -/
structure Associated (d₀ : Directory) (tenantUuid profileUuid : Uuid)
    (done : List (String × ServiceConfig)) (d : Directory) : Prop where
  kept : { d with
    services := d₀.services, profileServices := d₀.profileServices
    profileServiceSources := d₀.profileServiceSources } = d₀
  services : (d.services.map Service.uuid).Nodup
  grown : d₀.services ⊆ d.services ∧ d₀.profileServiceSources ⊆ d.profileServiceSources
  rows : ∃ rows, d.profileServices = d₀.profileServices ++ rows ∧
    List.Forall₂ (ServiceRow d tenantUuid profileUuid) done rows
  profileService : ∀ a ∈ d.profileServiceSources, ∃ s ∈ d.profileServices,
    s.uuid = a.profileServiceUuid ∧ s.profileTenantUuid = a.profileTenantUuid

namespace Associated

variable {done : List (String × ServiceConfig)}

/-- Nothing is associated to begin with. -/
theorem nil (h : d.Sound) : Associated d tenantUuid profileUuid [] d :=
  ⟨rfl, h.services, ⟨List.Subset.refl _, List.Subset.refl _⟩,
    ⟨[], (List.append_nil _).symm, .nil⟩, h.profileService⟩

theorem toDatabase (h : Associated d₀ tenantUuid profileUuid done d) :
    d.toDatabase = d₀.toDatabase :=
  (congrArg Directory.toDatabase h.kept :)

theorem profiles (h : Associated d₀ tenantUuid profileUuid done d) : d.profiles = d₀.profiles :=
  (congrArg Directory.profiles h.kept :)

theorem displays (h : Associated d₀ tenantUuid profileUuid done d) : d.displays = d₀.displays :=
  (congrArg Directory.displays h.kept :)

theorem hasSource_iff (h : Associated d₀ tenantUuid profileUuid done d) {u : Uuid} :
    d.HasSource tenantUuid u ↔ d₀.HasSource tenantUuid u := by
  unfold Directory.HasSource
  rw [h.toDatabase]

end Associated

/-! ## The rows of a service -/

namespace ProfileCRUD

theorem textColumn_eq_ok {t t' : String} :
    textColumn t = .ok t' ↔ '\x00' ∉ t.toList ∧ t' = t := by
  unfold textColumn
  split
  · next h => exact iff_of_false (fun h' => by cases h') fun h' => h'.1 h
  · next h => rw [Except.ok.injEq, eq_comm, and_iff_right h]

/-- What one source leaves. -/
theorem createProfileServiceSource_eq_ok {u : Uuid} :
    createProfileServiceSource tenantUuid profileServiceUuid d u = .ok d' ↔
      ((∀ a ∈ d.profileServiceSources, a.profileServiceUuid = profileServiceUuid →
        a.sourceUuid ≠ u) ∧ d.HasSource tenantUuid u) ∧
      d' = { d with
        profileServiceSources := d.profileServiceSources ++
          [sourceRow tenantUuid profileServiceUuid u] } := by
  unfold createProfileServiceSource Directory.HasSource
  simp only [bind_eq_ok, pure, Except.pure, Except.ok.injEq, List.any_eq_true,
    Bool.and_eq_true, decide_eq_true_eq]
  constructor
  · rintro ⟨⟨⟩, hnew, ⟨⟩, hthere, rfl⟩
    rw [raiseIf_ok] at hnew hthere
    exact ⟨⟨fun a ha hpsu hu => hnew ⟨a, ha, hpsu, hu⟩, not_not.1 hthere⟩, rfl⟩
  · rintro ⟨⟨hnew, hthere⟩, rfl⟩
    exact ⟨(), raiseIf_ok.2 fun ⟨a, ha, hpsu, hu⟩ => hnew a ha hpsu hu, (),
      raiseIf_ok.2 (not_not.2 hthere), rfl⟩

/-- **What the sources of a service leave**: a row each, when none is there
already, none is listed twice, and all are of the tenant. -/
theorem foldlM_sources_eq_ok {sources : List Uuid} :
    sources.foldlM (createProfileServiceSource tenantUuid profileServiceUuid) d = .ok d' ↔
      (sources.Nodup ∧ (∀ u ∈ sources, d.HasSource tenantUuid u) ∧
        ∀ a ∈ d.profileServiceSources, a.profileServiceUuid = profileServiceUuid →
          a.sourceUuid ∉ sources) ∧
      d' = { d with
        profileServiceSources := d.profileServiceSources ++
          sources.map (sourceRow tenantUuid profileServiceUuid) } := by
  induction sources generalizing d with
  | nil =>
    refine ⟨fun h => ⟨⟨List.nodup_nil, nofun, fun _ _ _ => List.not_mem_nil⟩, ?_⟩, fun h => ?_⟩
    · cases h
      rw [List.map_nil, List.append_nil]
    · rw [h.2, List.map_nil, List.append_nil]
      rfl
  | cons u sources ih =>
    rw [List.foldlM_cons, bind_eq_ok]
    simp only [createProfileServiceSource_eq_ok, ih]
    constructor
    · rintro ⟨_, ⟨⟨hnew, hthere⟩, rfl⟩, ⟨hnodup, hrest, hnone⟩, rfl⟩
      have hu : u ∉ sources := hnone (sourceRow tenantUuid profileServiceUuid u)
        (List.mem_append_right _ List.mem_cons_self) rfl
      refine ⟨⟨List.nodup_cons.2 ⟨hu, hnodup⟩, List.forall_mem_cons.2 ⟨hthere, hrest⟩, ?_⟩, ?_⟩
      · intro a ha hpsu hmem
        obtain rfl | hmem := List.mem_cons.1 hmem
        · exact hnew a ha hpsu rfl
        · exact hnone a (List.mem_append_left _ ha) hpsu hmem
      · rw [List.append_assoc, List.map_cons, List.singleton_append]
    · rintro ⟨⟨hnodup, hall, hnone⟩, rfl⟩
      rw [List.nodup_cons] at hnodup
      rw [List.forall_mem_cons] at hall
      refine ⟨_, ⟨⟨fun a ha hpsu hu => hnone a ha hpsu (hu ▸ List.mem_cons_self), hall.1⟩, rfl⟩,
        ⟨hnodup.2, hall.2, ?_⟩, ?_⟩
      · intro a ha hpsu hmem
        obtain ha | ha := List.mem_append.1 ha
        · exact hnone a ha hpsu (List.mem_cons_of_mem _ hmem)
        · obtain rfl := List.mem_singleton.1 ha
          exact hnodup.1 hmem
      · rw [List.append_assoc, List.map_cons, List.singleton_append]

/-- `_create_service` adds to the services at most. -/
theorem createService_kept {name : String} {u : Uuid}
    (h : createService server d name = .ok (d', u)) :
    ∃ services, d' = { d with services := services } := by
  unfold createService at h
  obtain ⟨_, -, hrest⟩ := bind_eq_ok.1 h
  split at hrest <;> cases hrest <;> exact ⟨_, rfl⟩

/-- What `_create_service` leaves: a service of the name, with its uuid. -/
theorem createService_ok {name : String} {u : Uuid}
    (hnodup : (d.services.map Service.uuid).Nodup)
    (h : createService server d name = .ok (d', u)) :
    ∃ services, d' = { d with services := services } ∧ d.services ⊆ services ∧
      (services.map Service.uuid).Nodup ∧ ∃ x ∈ services, x.uuid = u ∧ x.name = name := by
  unfold createService at h
  obtain ⟨_, hname, hrest⟩ := bind_eq_ok.1 h
  obtain ⟨-, rfl⟩ := textColumn_eq_ok.1 hname
  split at hrest
  · next service hfind =>
    cases hrest
    exact ⟨d.services, rfl, List.Subset.refl _, hnodup, service, List.mem_of_find?_eq_some hfind,
      rfl, by simpa using List.find?_some hfind⟩
  · cases hrest
    refine ⟨_, rfl, List.subset_append_left _ _, ?_, _,
      List.mem_append_right _ List.mem_cons_self, rfl, rfl⟩
    refine keys_append hnodup fun b hb heq => server.uuids.fresh (d.services.map Service.uuid) ?_
    have heq : b.uuid = server.uuids.generate (d.services.map Service.uuid) := heq
    exact heq ▸ List.mem_map_of_mem hb

/-- `_create_service` goes through when the database takes the name. -/
theorem exists_createService_eq_ok {name : String} :
    (∃ r, createService server d name = .ok r) ↔ '\x00' ∉ name.toList := by
  unfold createService
  constructor
  · rintro ⟨r, h⟩
    obtain ⟨name', hname, -⟩ := bind_eq_ok.1 h
    exact (textColumn_eq_ok.1 hname).1
  · intro hnul
    rw [show textColumn name = .ok name from textColumn_eq_ok.2 ⟨hnul, rfl⟩]
    dsimp only [bind, Except.bind]
    split
    · exact ⟨_, rfl⟩
    · exact ⟨_, rfl⟩

/-- **One more service**: a row of a new uuid, of a service of that name,
and a row for each of its sources. -/
theorem associateService_eq_ok :
    associateService server tenantUuid profileUuid d e = .ok d' ↔
      ∃ mid serviceUuid, createService server d e.1 = .ok (mid, serviceUuid) ∧
        e.2.sources.foldlM (createProfileServiceSource tenantUuid
          (server.uuids.generate (mid.profileServices.map ProfileService.uuid)))
          { mid with
            profileServices := mid.profileServices ++
              [{ uuid := server.uuids.generate (mid.profileServices.map ProfileService.uuid)
                 profileUuid := profileUuid, profileTenantUuid := tenantUuid
                 serviceUuid := serviceUuid, config := e.2.config }] } = .ok d' := by
  unfold associateService createProfileService
  rw [bind_eq_ok]
  exact ⟨fun ⟨⟨mid, u⟩, h, h'⟩ => ⟨mid, u, h, h'⟩, fun ⟨mid, u, h, h'⟩ => ⟨⟨mid, u⟩, h, h'⟩⟩

/-- **Associating services changes no other table.** -/
theorem associateAllServices_kept {services : Dict String ServiceConfig}
    (h : associateAllServices server d tenantUuid profileUuid services = .ok d') :
    { d' with
      services := d.services, profileServices := d.profileServices
      profileServiceSources := d.profileServiceSources } = d := by
  let kept (s : Directory) : Prop := { s with
    services := d.services, profileServices := d.profileServices
    profileServiceSources := d.profileServiceSources } = d
  have hstep : ∀ {e s s'}, kept s →
      associateService server tenantUuid profileUuid s e = .ok s' → kept s' := by
    intro e s s' hs hstep
    obtain ⟨mid, _, hservice, hsources⟩ := associateService_eq_ok.1 hstep
    obtain ⟨services, rfl⟩ := createService_kept hservice
    obtain ⟨-, rfl⟩ := foldlM_sources_eq_ok.1 hsources
    exact hs
  have h0 : kept d := rfl
  exact foldlM_preserves hstep h0 h

end ProfileCRUD

namespace Associated

variable {done : List (String × ServiceConfig)}

/-- The row of a new uuid has no source yet. -/
theorem sources_of_fresh (server : ProfileServer)
    (h : Associated d₀ tenantUuid profileUuid done d) :
    ∀ a ∈ d.profileServiceSources,
      a.profileServiceUuid ≠ server.uuids.generate (d.profileServices.map ProfileService.uuid) := by
  intro a ha heq
  obtain ⟨s, hs, hu, -⟩ := h.profileService a ha
  have hmem : s.uuid ∈ d.profileServices.map ProfileService.uuid := List.mem_map_of_mem hs
  rw [hu, heq] at hmem
  exact server.uuids.fresh _ hmem

/-- **Associating one more service** leaves a row for it, and those before
it as they were. -/
theorem step (h : Associated d₀ tenantUuid profileUuid done d)
    (hstep : ProfileCRUD.associateService server tenantUuid profileUuid d e = .ok d') :
    Associated d₀ tenantUuid profileUuid (done ++ [e]) d' := by
  obtain ⟨mid, serviceUuid, hservice, hsources⟩ := ProfileCRUD.associateService_eq_ok.1 hstep
  obtain ⟨services, rfl, hsub, hnodup, hnamed⟩ := ProfileCRUD.createService_ok h.services hservice
  obtain ⟨⟨-, hthere, -⟩, rfl⟩ := ProfileCRUD.foldlM_sources_eq_ok.1 hsources
  obtain ⟨rows, hrows, hall⟩ := h.rows
  have hfresh := server.uuids.fresh (d.profileServices.map ProfileService.uuid)
  have hnone := h.sources_of_fresh server
  set u := server.uuids.generate (d.profileServices.map ProfileService.uuid) with hu
  have hnew : ∀ u', (e.2.sources.map (sourceRow tenantUuid u)).filter
      (·.profileServiceUuid = u') = if u' = u then e.2.sources.map (sourceRow tenantUuid u)
        else [] := by
    intro u'
    split
    · next heq => exact List.filter_eq_self.2 (by simp [heq, sourceRow])
    · next hne =>
      refine List.filter_eq_nil_iff.2 fun a ha => ?_
      obtain ⟨_, -, rfl⟩ := List.mem_map.1 ha
      exact fun h => hne (of_decide_eq_true h).symm
  refine ⟨h.kept, hnodup, ⟨fun _ hx => hsub (h.grown.1 hx), fun _ hx =>
    List.mem_append_left _ (h.grown.2 hx)⟩, ⟨rows ++ [_], by rw [hrows, List.append_assoc], ?_⟩, ?_⟩
  · refine List.rel_append ?_ (.cons ?_ .nil)
    · -- the rows before
      refine List.Forall₂.imp (fun e' s hs => ?_) hall
      obtain ⟨service, hservice, hname⟩ := hs.name
      have hne : s.uuid ≠ u := fun heq => hfresh (heq ▸ List.mem_map_of_mem hs.mem)
      refine { hs with
        mem := List.mem_append_left _ hs.mem
        name := ⟨service, hsub hservice, hname⟩
        sources := ?_ }
      rw [List.filter_append, hs.sources, hnew, if_neg hne, List.append_nil]
    · refine ⟨List.mem_append_right _ List.mem_cons_self, rfl, rfl, rfl, hnamed, ?_, hthere⟩
      have hold : d.profileServiceSources.filter (·.profileServiceUuid = u) = [] :=
        List.filter_eq_nil_iff.2 fun a ha h => hnone a ha (of_decide_eq_true h)
      rw [List.filter_append, hold, hnew, if_pos rfl, List.nil_append]
  · intro a ha
    obtain ha | ha := List.mem_append.1 ha
    · obtain ⟨s, hs, hkey⟩ := h.profileService a ha
      exact ⟨s, List.mem_append_left _ hs, hkey⟩
    · obtain ⟨_, -, rfl⟩ := List.mem_map.1 ha
      exact ⟨_, List.mem_append_right _ List.mem_cons_self, rfl, rfl⟩

/-- **One more service goes through** when the database takes its name, and
its sources are listed once and of the tenant. -/
theorem exists_step (h : Associated d₀ tenantUuid profileUuid done d) :
    (∃ d', ProfileCRUD.associateService server tenantUuid profileUuid d e = .ok d') ↔
      d₀.Takes tenantUuid e := by
  simp only [ProfileCRUD.associateService_eq_ok]
  constructor
  · rintro ⟨d', mid, serviceUuid, hservice, hsources⟩
    have hnul := ProfileCRUD.exists_createService_eq_ok.1 ⟨_, hservice⟩
    obtain ⟨services, rfl, -⟩ := ProfileCRUD.createService_ok h.services hservice
    obtain ⟨⟨hnodup, hthere, -⟩, -⟩ := ProfileCRUD.foldlM_sources_eq_ok.1 hsources
    exact ⟨hnul, hnodup, fun u hu => h.hasSource_iff.1 (hthere u hu)⟩
  · rintro ⟨hnul, hnodup, hthere⟩
    obtain ⟨⟨mid, serviceUuid⟩, hservice⟩ :=
      ProfileCRUD.exists_createService_eq_ok.2 hnul
    obtain ⟨services, rfl, -⟩ := ProfileCRUD.createService_ok h.services hservice
    refine ⟨_, _, serviceUuid, hservice, ProfileCRUD.foldlM_sources_eq_ok.2 ⟨⟨hnodup, ?_, ?_⟩, rfl⟩⟩
    · exact fun u hu => h.hasSource_iff.2 (hthere u hu)
    · exact fun a ha heq => absurd heq (h.sources_of_fresh server a ha)

end Associated

namespace ProfileCRUD

variable {services : Dict String ServiceConfig}

/-- **What the services of a body leave.** -/
theorem associateAllServices_ok (hd : d.Sound)
    (h : associateAllServices server d tenantUuid profileUuid services = .ok d') :
    Associated d tenantUuid profileUuid services.entries d' :=
  foldlM_invariant (fun h hstep => h.step hstep) (Associated.nil hd) h

/-- **The services of a body go through** when each of them does. -/
theorem exists_associateAllServices_eq_ok (hd : d.Sound) :
    (∃ d', associateAllServices server d tenantUuid profileUuid services = .ok d') ↔
      ∀ e ∈ services.entries, d.Takes tenantUuid e :=
  exists_foldlM_eq_ok (fun h hstep => h.step hstep) (fun h => h.exists_step) (Associated.nil hd)

end ProfileCRUD

/-- **Associating services keeps the keys sound**, of a profile that is
there. -/
theorem Associated.sound {done : List (String × ServiceConfig)} (hd : d₀.Sound)
    (hp : ∃ p ∈ d₀.profiles, p.uuid = profileUuid ∧ p.tenantUuid = tenantUuid)
    (h : Associated d₀ tenantUuid profileUuid done d) : d.Sound where
  profiles := h.profiles ▸ hd.profiles
  services := h.services
  profile s hs := by
    obtain ⟨rows, hrows, hall⟩ := h.rows
    rw [hrows] at hs
    rw [h.profiles]
    obtain hs | hs := List.mem_append.1 hs
    · exact hd.profile s hs
    · obtain ⟨e, -, hrow⟩ := exists_of_forall₂ hall.flip hs
      rw [hrow.profile, hrow.tenant]
      exact hp
  profileService := h.profileService

/-! ## Reading the rows -/

/-- **A service shows a body**: it has what is kept of it, and its
sources. -/
def ServiceInfo.Shows (info : ServiceInfo) (config : ServiceConfig) : Prop :=
  info.config = config.config ∧
    ∀ u, u ∈ info.sources.map ProfileSourceInfo.uuid ↔ u ∈ config.sources

/-- The sources of a row are those of its body. -/
theorem ServiceRow.mem_sourcesOf (h : ServiceRow d tenantUuid profileUuid e s)
    (server : ProfileServer) {u : Uuid} :
    u ∈ (ProfileCRUD.sourcesOf server d s).map ProfileSourceInfo.uuid ↔ u ∈ e.2.sources := by
  have hrows : d.profileServiceSources.filter (fun a =>
      a.profileServiceUuid = s.uuid && a.profileTenantUuid = s.profileTenantUuid) =
      e.2.sources.map (sourceRow tenantUuid s.uuid) := by
    rw [← h.sources]
    refine List.filter_congr fun a ha => ?_
    by_cases hu : a.profileServiceUuid = s.uuid
    · have hrow : a ∈ e.2.sources.map (sourceRow tenantUuid s.uuid) :=
        h.sources ▸ List.mem_filter.2 ⟨ha, decide_eq_true hu⟩
      obtain ⟨_, -, rfl⟩ := List.mem_map.1 hrow
      simp [sourceRow, h.tenant]
    · simp [hu]
  simp only [ProfileCRUD.sourcesOf, hrows, List.mem_map, List.mem_filterMap,
    RowOrder.mem_order, Option.map_eq_some_iff]
  constructor
  · rintro ⟨_, ⟨_, ⟨v, hv, rfl⟩, x, hx, rfl⟩, rfl⟩
    have hkey := List.find?_some hx
    rw [ProfileServiceSource.isOf, Bool.and_eq_true] at hkey
    have huuid : x.uuid = v := of_decide_eq_true hkey.1
    exact huuid ▸ hv
  · intro hu
    obtain ⟨x, hx, hkey⟩ := h.there u hu
    cases hfind : d.sources.find? (sourceRow tenantUuid s.uuid u).isOf with
    | none =>
      exact absurd (List.find?_eq_none.1 hfind x hx)
        (by simp [ProfileServiceSource.isOf, sourceRow, hkey])
    | some y =>
      have hkey := List.find?_some hfind
      rw [ProfileServiceSource.isOf, Bool.and_eq_true] at hkey
      have hy : y.uuid = u := of_decide_eq_true hkey.1
      exact ⟨_, ⟨_, ⟨u, hu, rfl⟩, y, hfind, rfl⟩, hy⟩

/-- The row of a service shows what the body says of it. -/
theorem ServiceRow.shows (h : ServiceRow d tenantUuid profileUuid e s) (server : ProfileServer) :
    ServiceInfo.Shows ⟨s.config, ProfileCRUD.sourcesOf server d s⟩ e.2 :=
  ⟨h.config, fun _ => h.mem_sourcesOf server⟩

/-- **The services of a profile are those of the body it was made of**, when
it had none before. -/
theorem Associated.servicesOf {entries : List (String × ServiceConfig)}
    (h : Associated d₀ tenantUuid profileUuid entries d) (hkeys : (entries.map Prod.fst).Nodup)
    (hnone : ∀ s ∈ d₀.profileServices, s.profileUuid ≠ profileUuid) {profile : Profile}
    (hprofile : profile.uuid = profileUuid) (htenant : profile.tenantUuid = tenantUuid)
    (server : ProfileServer) (k : String) :
    Option.Rel ServiceInfo.Shows ((ProfileCRUD.servicesOf server d profile).get? k)
      (Dict.lookup k entries) := by
  obtain ⟨rows, hrows, hall⟩ := h.rows
  let shown (s : ProfileService) : Option (String × ServiceInfo) :=
    (d.services.find? (·.uuid = s.serviceUuid)).map fun service =>
      (service.name, ⟨s.config, ProfileCRUD.sourcesOf server d s⟩)
  -- each row is shown under the name it was made for
  have hshown : ∀ e s, ServiceRow d tenantUuid profileUuid e s →
      shown s = some (e.1, ⟨s.config, ProfileCRUD.sourcesOf server d s⟩) := by
    intro e s hs
    obtain ⟨service, hmem, huuid, hname⟩ := hs.name
    have hfind : d.services.find? (·.uuid = s.serviceUuid) = some service := by
      rw [← huuid]
      exact find?_key h.services hmem
    show (d.services.find? (·.uuid = s.serviceUuid)).map _ = _
    rw [hfind, ← hname]
    rfl
  have hlist : List.Forall₂ (fun x e => x.1 = e.1 ∧ ServiceInfo.Shows x.2 e.2)
      (rows.filterMap shown) entries := by
    clear hrows hkeys h
    induction hall with
    | nil => exact .nil
    | @cons e s entries rows hs _ ih =>
      rw [List.filterMap_cons_some (hshown e s hs)]
      exact .cons ⟨rfl, hs.shows server⟩ ih
  have hfilter : d.profileServices.filter (fun s =>
      s.profileUuid = profile.uuid && s.profileTenantUuid = profile.tenantUuid) = rows := by
    rw [hrows, List.filter_append, List.filter_eq_nil_iff.2, List.filter_eq_self.2,
      List.nil_append]
    · intro s hs
      obtain ⟨e, -, hrow⟩ := exists_of_forall₂ hall.flip hs
      simp [hrow.profile, hrow.tenant, hprofile, htenant]
    · intro s hs
      simp [hprofile, hnone s hs]
  have hnodup : ((rows.filterMap shown).map Prod.fst).Nodup := by
    have hnames : List.Forall₂ Eq ((rows.filterMap shown).map Prod.fst) (entries.map Prod.fst) := by
      rw [List.forall₂_map_left_iff, List.forall₂_map_right_iff]
      exact hlist.imp fun _ _ hx => hx.1
    rw [List.forall₂_eq_eq_eq] at hnames
    rwa [hnames]
  unfold ProfileCRUD.servicesOf
  rw [hfilter, Dict.get?_ofList_of_perm ((server.profileServices.perm rows).filterMap shown) hnodup]
  exact Dict.lookup_rel hlist k

/-! ## The row of a profile -/

/-- **The display of a profile is there.** -/
def Profile.HasDisplay (d : Directory) (profile : Profile) : Prop :=
  ∃ b ∈ d.displays, profile.displayUuid = some b.uuid ∧
    profile.displayTenantUuid = some b.tenantUuid

instance (d : Directory) (profile : Profile) : Decidable (profile.HasDisplay d) :=
  inferInstanceAs (Decidable (∃ b ∈ d.displays, profile.displayUuid = some b.uuid ∧
    profile.displayTenantUuid = some b.tenantUuid))

namespace ProfileCRUD

variable {others : List Profile} {profile : Profile} {body : ProfileBody} {u : Uuid}
  {visibleTenants : Option (List Uuid)}

/-- The display a profile shows is the one its row names. -/
theorem displayOf_eq_some {b : Display} (h : displayOf d profile = some b) :
    b ∈ d.displays ∧ profile.displayUuid = some b.uuid ∧
      profile.displayTenantUuid = some b.tenantUuid := by
  have hkey := List.find?_some h
  rw [Bool.and_eq_true, decide_eq_true_eq, decide_eq_true_eq] at hkey
  exact ⟨List.mem_of_find?_eq_some h, hkey⟩

/-- A profile shows a display when its display is there. -/
theorem exists_displayOf : (∃ b, displayOf d profile = some b) ↔ profile.HasDisplay d := by
  constructor
  · rintro ⟨b, hb⟩
    exact ⟨b, displayOf_eq_some hb⟩
  · rintro ⟨b, hb, hu, ht⟩
    rw [← Option.isSome_iff_exists, displayOf, List.find?_isSome]
    exact ⟨b, hb, by rw [hu, ht]; simp⟩

/-- **What the database takes of a profile row**: a name without a null
character and not taken in its tenant, and a display that is there, or
none. -/
theorem flush_eq_ok : flush d others profile = .ok () ↔
    '\x00' ∉ profile.name.toList ∧ (∀ b ∈ others, b.uuid ≠ profile.uuid) ∧
      (∀ b ∈ others, b.name = profile.name → b.tenantUuid ≠ profile.tenantUuid) ∧
      (profile.displayUuid = none ∨ profile.HasDisplay d) := by
  have hdisplay : (∃ b ∈ d.displays, profile.displayUuid = some b.uuid ∧
      profile.displayTenantUuid = some b.tenantUuid) ↔
      ∃ uuid, profile.displayUuid = some uuid ∧ d.displays.any (fun b => b.uuid = uuid &&
        profile.displayTenantUuid = some b.tenantUuid) = true := by
    simp only [List.any_eq_true, Bool.and_eq_true, decide_eq_true_eq]
    constructor
    · rintro ⟨b, hb, hu, ht⟩
      exact ⟨b.uuid, hu, b, hb, rfl, ht⟩
    · rintro ⟨_, hu, b, hb, rfl, ht⟩
      exact ⟨b, hb, hu, ht⟩
  unfold flush Profile.HasDisplay
  rw [hdisplay]
  simp only [bind_eq_ok, List.any_eq_true, Bool.and_eq_true, decide_eq_true_eq]
  constructor
  · rintro ⟨_, hname, ⟨⟩, huuid, ⟨⟩, hfree, h⟩
    rw [raiseIf_ok] at huuid hfree
    refine ⟨(textColumn_eq_ok.1 hname).1, fun b hb heq => huuid ⟨b, hb, heq⟩,
      fun b hb hn ht => hfree ⟨b, hb, hn, ht⟩, ?_⟩
    split at h
    · next hu => exact Or.inl hu
    · next uuid hu => exact Or.inr ⟨uuid, hu, not_not.1 (raiseIf_ok.1 h)⟩
  · rintro ⟨hname, huuid, hfree, h⟩
    refine ⟨_, textColumn_eq_ok.2 ⟨hname, rfl⟩, (),
      raiseIf_ok.2 fun ⟨b, hb, heq⟩ => huuid b hb heq, (),
      raiseIf_ok.2 fun ⟨b, hb, hn, ht⟩ => hfree b hb hn ht, ?_⟩
    obtain hu | ⟨uuid, hu, hthere⟩ := h
    · rw [hu]
    · rw [hu]
      exact raiseIf_ok.2 (not_not.2 hthere)

/-- The row a creation makes. -/
def newProfile (server : ProfileServer) (d : Directory) (tenantUuid : Uuid) (body : ProfileBody) :
    Profile where
  uuid := server.uuids.generate (d.profiles.map Profile.uuid)
  tenantUuid := tenantUuid
  name := body.name
  displayUuid := body.display
  displayTenantUuid := some tenantUuid

/-- The row of a creation is of a new uuid. -/
theorem newProfile_uuid_ne (server : ProfileServer) (d : Directory) (tenantUuid : Uuid)
    (body : ProfileBody) :
    ∀ b ∈ d.profiles, b.uuid ≠ (newProfile server d tenantUuid body).uuid := by
  intro b hb heq
  have hmem : b.uuid ∈ d.profiles.map Profile.uuid := List.mem_map_of_mem hb
  exact server.uuids.fresh _ (heq ▸ hmem)

/-- The database once the row of a creation is there. -/
def withProfile (d : Directory) (tenantUuid : Uuid) (profile : Profile) : Directory :=
  { d.createTenant tenantUuid with profiles := d.profiles ++ [profile] }

/-- **When a creation succeeds**: its row is taken, and its services. -/
theorem create_eq_ok : create server d tenantUuid body = (.ok u, d') ↔
    flush d d.profiles (newProfile server d tenantUuid body) = .ok () ∧
      associateAllServices server
        (withProfile d tenantUuid (newProfile server d tenantUuid body)) tenantUuid
        (newProfile server d tenantUuid body).uuid body.services = .ok d' ∧
      u = (newProfile server d tenantUuid body).uuid := by
  unfold create createProfile
  rw [Directory.newSession_eq_ok]
  simp only [bind_eq_ok, pure, Except.pure, Except.ok.injEq, Prod.mk.injEq]
  constructor
  · rintro ⟨_, ⟨⟨⟩, hflush, rfl⟩, _, hall, rfl, rfl⟩
    exact ⟨hflush, hall, rfl⟩
  · rintro ⟨hflush, hall, rfl⟩
    exact ⟨_, ⟨(), hflush, rfl⟩, _, hall, rfl, rfl⟩

/-- The row an edition makes of a profile. -/
def editedProfile (profile : Profile) (name : String) (display : Uuid) : Profile :=
  { profile with
    name := name, displayUuid := some display, displayTenantUuid := some profile.tenantUuid }

/-- The database once the row of an edition is there, and the services of
the profile are not. -/
def withEdited (d : Directory) (profileUuid : Uuid) (profile : Profile) : Directory :=
  { d.dropProfileServices (·.profileUuid = profileUuid) with
    profiles := d.profiles.map fun b => if b.uuid = profile.uuid then profile else b }

/-- **When an edition succeeds**: its profile is found, its body has a
display, its row is taken, and its services. -/
theorem edit_eq_ok : edit server d visibleTenants profileUuid body = (.ok (), d') ↔
    ∃ p profile display, buildFilter visibleTenants profileUuid = .ok p ∧
      server.profiles.first (d.profiles.filter p) = some profile ∧
      body.display = some display ∧
      flush d (d.profiles.filter (·.uuid ≠ profile.uuid))
        (editedProfile profile body.name display) = .ok () ∧
      associateAllServices server (withEdited d profileUuid
        (editedProfile profile body.name display)) profile.tenantUuid profileUuid body.services =
        .ok d' := by
  unfold edit
  constructor
  · intro h
    split at h
    · cases h
    · next p hp =>
      have h := Directory.newSession_eq_ok.1 h
      dsimp only at h
      cases hfirst : server.profiles.first ((d.dropProfileServices
        (·.profileUuid = profileUuid)).profiles.filter p) with
      | none =>
        rw [hfirst] at h
        cases h
      | some profile =>
        cases hdisplay : body.display with
        | none =>
          rw [hfirst, hdisplay] at h
          cases h
        | some display =>
          rw [hfirst, hdisplay] at h
          obtain ⟨⟨⟩, hflush, h⟩ := bind_eq_ok.1 h
          obtain ⟨_, hall, h⟩ := bind_eq_ok.1 h
          cases h
          exact ⟨p, profile, display, hp, hfirst, rfl, hflush, hall⟩
  · rintro ⟨p, profile, display, hp, hfirst, hdisplay, hflush, hall⟩
    rw [hp]
    refine Directory.newSession_eq_ok.2 ?_
    have hfirst : server.profiles.first ((d.dropProfileServices
      (·.profileUuid = profileUuid)).profiles.filter p) = some profile := hfirst
    dsimp only
    rw [hfirst, hdisplay]
    exact bind_eq_ok.2 ⟨(), hflush, bind_eq_ok.2 ⟨d', hall, rfl⟩⟩

/-- An edition that raises changes nothing. -/
theorem edit_eq_error {err : DirdError}
    (h : edit server d visibleTenants profileUuid body = (.error err, d')) : d' = d := by
  unfold edit at h
  split at h
  · exact (Prod.mk.inj h).2.symm
  · exact (Directory.newSession_eq_error.1 h).2

end ProfileCRUD

end WazoDird
