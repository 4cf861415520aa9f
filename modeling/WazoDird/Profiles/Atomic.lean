import WazoDird.Database.Driven.Outage
import WazoDird.Profiles.Rows

/-!
# Editing a profile is atomic

`ProfileCRUD.edit` deletes the services of the profile before it looks for
the profile, and makes those of the body after it has flushed the row, so
most of what it raises comes when part of the database is changed. Here
the body may lack any key it reads (`RawProfileBody`), the database is one
that the operations lead to, and what an edition leaves of the rows of
other profiles and of other tenants is read off the keys of the tables
(`Directory.Keyed`).
-/

namespace WazoDird

/-! ## Bodies that lack keys -/

/-- `body['display']`. -/
inductive RawDisplay where
  | missing
  | null
  /-- A display without a uuid. -/
  | noUuid
  | uuid (u : Option Uuid)

/-- `body['display']['uuid']`. -/
def RawDisplay.item : RawDisplay → Except DirdError (Option Uuid)
  | missing | noUuid => .error (.python .keyError)
  | null => .error (.python .typeError)
  | uuid u => .ok u

/-- What a body says of a service. Its sources may be missing, and the uuid
of each of them. -/
structure RawServiceConfig where
  config : Dict String Value := ∅
  sources : Option (List (Option Uuid)) := none

/-- **A body of any keys.** A name may be missing or null. -/
structure RawProfileBody where
  name : Option (Option String) := none
  display : RawDisplay := .missing
  services : Option (Dict String RawServiceConfig) := none

/-- `body[key]`, of a key that may be missing. -/
def bodyItem {α : Type} : Option α → Except DirdError α
  | none => .error (.python .keyError)
  | some value => .ok value

/-- `str(source.get('uuid'))`. -/
def sourceText (uuid : Option Uuid) : Uuid := uuid.getD "None"

/-- What a body that has its keys says of a service. -/
def ServiceConfig.raw (service : ServiceConfig) : RawServiceConfig where
  config := service.config
  sources := some (service.sources.map some)

/-- A body that has its keys, but maybe for the display. -/
def ProfileBody.raw (body : ProfileBody) : RawProfileBody where
  name := some (some body.name)
  display := body.display.elim .missing fun u => .uuid (some u)
  services := some (body.services.map ServiceConfig.raw)

namespace ProfileCRUD

variable (server : ProfileServer)

/-- The flush of a profile row whose name may be null, which the table
refuses. -/
def flushRaw (d : Directory) (others : List Profile) (profile : Profile) (name : Option String) :
    Except DirdError Profile :=
  match name with
  | none => .error .integrity
  | some name => do
    flush d others { profile with name := name }
    return { profile with name := name }

/-- One service of a body that may lack its sources. -/
def associateRawService (tenantUuid profileUuid : Uuid) (d : Directory)
    (entry : String × RawServiceConfig) : Except DirdError Directory := do
  let (d, serviceUuid) ← createService server d entry.1
  let (d, profileServiceUuid) :=
    createProfileService server d tenantUuid profileUuid serviceUuid { config := entry.2.config }
  let sources ← bodyItem entry.2.sources
  (sources.map sourceText).foldlM (createProfileServiceSource tenantUuid profileServiceUuid) d

/-- **`edit`**, key by key. -/
def editRaw (d : Directory) (visibleTenants : Option (List Uuid)) (profileUuid : Uuid)
    (body : RawProfileBody) : Except DirdError Unit × Directory :=
  match buildFilter visibleTenants profileUuid with
  | .error e => (.error e, d)
  | .ok p => d.newSession <| do
    let d := d.dropProfileServices (·.profileUuid = profileUuid)
    match server.profiles.first (d.profiles.filter p) with
    | none => .error (.noSuchProfileAPI profileUuid)
    | some profile =>
      let name ← bodyItem body.name
      let display ← body.display.item
      let profile' ← flushRaw d (d.profiles.filter (·.uuid ≠ profile.uuid)) { profile with
        displayUuid := display, displayTenantUuid := some profile.tenantUuid } name
      let d := { d with
        profiles := d.profiles.map fun b => if b.uuid = profile.uuid then profile' else b }
      let services ← bodyItem body.services
      let d ← services.entries.foldlM
        (associateRawService server profile.tenantUuid profileUuid) d
      return (d, ())

variable {server} {d : Directory} {tenantUuid profileUuid : Uuid}

/-- A service that has its sources is associated as one. -/
theorem associateRawService_raw (d : Directory) (entry : String × ServiceConfig) :
    associateRawService server tenantUuid profileUuid d (entry.1, entry.2.raw) =
      associateService server tenantUuid profileUuid d entry := by
  have hsources : (entry.2.sources.map some).map sourceText = entry.2.sources := by
    rw [List.map_map]
    exact List.map_id _
  unfold associateRawService associateService
  cases createService server d entry.1 with
  | error e => rfl
  | ok made =>
    dsimp only [bind, Except.bind, bodyItem, ServiceConfig.raw]
    rw [hsources]
    rfl

/-- Services that have their sources are associated as such. -/
theorem foldlM_associateRawService (d : Directory) (services : Dict String ServiceConfig) :
    (services.map ServiceConfig.raw).entries.foldlM
      (associateRawService server tenantUuid profileUuid) d =
      associateAllServices server d tenantUuid profileUuid services := by
  rw [Dict.map, List.foldlM_map, associateAllServices]
  congr 1
  funext d entry
  exact associateRawService_raw d entry

/-- The flush of a row that has a name. -/
theorem flushRaw_some (others : List Profile) (profile : Profile) (name : String) :
    flushRaw d others profile (some name) =
      (flush d others { profile with name := name }).map fun _ => { profile with name := name } := by
  unfold flushRaw
  dsimp only
  cases flush d others { profile with name := name } <;> rfl

/-- **An edition by a body that has its keys** is an edition. -/
theorem editRaw_raw (d : Directory) (visibleTenants : Option (List Uuid)) (profileUuid : Uuid)
    (body : ProfileBody) :
    editRaw server d visibleTenants profileUuid body.raw =
      edit server d visibleTenants profileUuid body := by
  unfold editRaw edit
  cases buildFilter visibleTenants profileUuid with
  | error e => rfl
  | ok p =>
    dsimp only
    congr 1
    cases server.profiles.first
      ((d.dropProfileServices (·.profileUuid = profileUuid)).profiles.filter p) with
    | none => rfl
    | some profile =>
      cases hdisplay : body.display with
      | none =>
        simp only [ProfileBody.raw, hdisplay, Option.elim, RawDisplay.item, bodyItem]
        rfl
      | some display =>
        simp only [ProfileBody.raw, hdisplay, Option.elim, RawDisplay.item, bodyItem]
        dsimp only [bind, Except.bind]
        rw [flushRaw_some]
        cases flush (d.dropProfileServices (·.profileUuid = profileUuid))
          ((d.dropProfileServices (·.profileUuid = profileUuid)).profiles.filter
            (·.uuid ≠ profile.uuid)) { profile with
              name := body.name, displayUuid := some display
              displayTenantUuid := some profile.tenantUuid } with
        | error e => rfl
        | ok _ =>
          dsimp only [Except.map]
          rw [foldlM_associateRawService]

end ProfileCRUD

/-! ## The keys of the tables -/

namespace Directory

/-- The keys of the profiles: their uuid and their tenant. -/
def profileKeys (d : Directory) : List (Uuid × Uuid) :=
  d.profiles.map fun p => (p.uuid, p.tenantUuid)

/-- **What the declared keys say** of the profiles and of their services. -/
structure Keyed (d : Directory) : Prop where
  profiles : (d.profileKeys.map Prod.fst).Nodup
  profileServices : (d.profileServices.map ProfileService.uuid).Nodup
  profile : ∀ s ∈ d.profileServices, (s.profileUuid, s.profileTenantUuid) ∈ d.profileKeys

variable {d d' : Directory}

theorem keyed_nil : Keyed {} :=
  ⟨List.nodup_nil, List.nodup_nil, fun _ h => nomatch h⟩

/-- The keys are those of tables that did not change. -/
theorem Keyed.congr (h : d.Keyed) (hkeys : d'.profileKeys = d.profileKeys)
    (hservices : d'.profileServices = d.profileServices) : d'.Keyed := by
  obtain ⟨hprofiles, hnodup, hprofile⟩ := h
  exact ⟨hkeys ▸ hprofiles, hservices ▸ hnodup, by rwa [hkeys, hservices]⟩

/-- A uuid is of one profile. -/
theorem Keyed.uuids (h : d.Keyed) : (d.profiles.map Profile.uuid).Nodup := by
  have hkeys := h.profiles
  rwa [profileKeys, List.map_map] at hkeys

/-- A profile of a uuid is of one tenant. -/
theorem Keyed.tenant_eq (h : d.Keyed) {s : ProfileService} {profile : Profile}
    (hs : s ∈ d.profileServices) (hprofile : profile ∈ d.profiles)
    (huuid : s.profileUuid = profile.uuid) : s.profileTenantUuid = profile.tenantUuid := by
  have hkey : (profile.uuid, profile.tenantUuid) ∈ d.profileKeys :=
    List.mem_map_of_mem (f := fun p => (p.uuid, p.tenantUuid)) hprofile
  have hnodup : (d.profileKeys.map Prod.fst).Nodup := h.profiles
  exact congrArg Prod.snd (eq_of_key hnodup (h.profile s hs) hkey huuid)

/-- The keys stay when profiles go with their services. -/
theorem Keyed.dropProfiles (h : d.Keyed) (p : Profile → Bool) : (d.dropProfiles p).Keyed where
  profiles := h.profiles.sublist ((List.filter_sublist.map _).map _)
  profileServices := keys_filter h.profileServices _
  profile s hs := by
    obtain ⟨hs, hkept⟩ := List.mem_filter.1 hs
    obtain ⟨profile, hprofile, hkey⟩ := List.mem_map.1 (h.profile s hs)
    refine List.mem_map.2 ⟨profile, List.mem_filter.2 ⟨hprofile, ?_⟩, hkey⟩
    rw [Bool.not_eq_true'] at hkept ⊢
    obtain ⟨huuid, htenant⟩ := Prod.mk.inj hkey
    by_contra hp
    refine Bool.eq_false_iff.1 hkept (List.any_eq_true.2 ⟨profile, hprofile, ?_⟩)
    simp [Bool.not_eq_false _ ▸ hp, huuid, htenant]

/-- The keys stay when services go with their sources. -/
theorem Keyed.dropProfileServices (h : d.Keyed) (p : ProfileService → Bool) :
    (d.dropProfileServices p).Keyed where
  profiles := h.profiles
  profileServices := keys_filter h.profileServices _
  profile s hs := h.profile s (List.mem_filter.1 hs).1

end Directory

/-! ## What the services of a body add -/

/-- **What a body adds for a profile**: services at the end of theirs, and
rows of the profile at the end of the other two tables. -/
structure Directory.Grown (d₀ : Directory) (tenantUuid profileUuid : Uuid) (d : Directory) :
    Prop where
  kept : { d with
    services := d₀.services, profileServices := d₀.profileServices
    profileServiceSources := d₀.profileServiceSources } = d₀
  services : d₀.services <+: d.services
  nodup : (d.profileServices.map ProfileService.uuid).Nodup
  rows : ∃ rows, d.profileServices = d₀.profileServices ++ rows ∧
    ∀ s ∈ rows, s.profileUuid = profileUuid ∧ s.profileTenantUuid = tenantUuid
  sources : ∃ rows, d.profileServiceSources = d₀.profileServiceSources ++ rows ∧
    ∀ a ∈ rows, a.profileTenantUuid = tenantUuid ∧
      ∃ s ∈ d.profileServices, s.profileUuid = profileUuid ∧ s.uuid = a.profileServiceUuid

namespace ProfileCRUD

variable {server : ProfileServer} {d d₀ d' : Directory} {tenantUuid profileUuid : Uuid}
  {entry : String × RawServiceConfig} {body : RawProfileBody}
  {visibleTenants : Option (List Uuid)}

/-- `_create_service` adds its service at the end, if any. -/
theorem createService_prefix {name : String} {u : Uuid}
    (h : createService server d name = .ok (d', u)) :
    ∃ services, d' = { d with services := services } ∧ d.services <+: services := by
  unfold createService at h
  obtain ⟨_, -, hrest⟩ := bind_eq_ok.1 h
  split at hrest
  · cases hrest
    exact ⟨_, rfl, List.prefix_refl _⟩
  · cases hrest
    exact ⟨_, rfl, List.prefix_append _ _⟩

/-- **One service of a body adds rows of the profile.** -/
theorem grown_associateRawService (hd : d₀.Grown tenantUuid profileUuid d)
    (h : associateRawService server tenantUuid profileUuid d entry = .ok d') :
    d₀.Grown tenantUuid profileUuid d' := by
  obtain ⟨⟨mid, serviceUuid⟩, hservice, h⟩ := bind_eq_ok.1 h
  obtain ⟨sources, -, h⟩ := bind_eq_ok.1 h
  obtain ⟨services, rfl, hprefix⟩ := createService_prefix hservice
  obtain ⟨-, rfl⟩ := foldlM_sources_eq_ok.1 h
  obtain ⟨rows, hrows, hall⟩ := hd.rows
  obtain ⟨sourceRows, hsources, hallSources⟩ := hd.sources
  obtain ⟨u, hu⟩ : ∃ u, u = server.uuids.generate (d.profileServices.map ProfileService.uuid) :=
    ⟨_, rfl⟩
  have hfresh := server.uuids.fresh (d.profileServices.map ProfileService.uuid)
  refine ⟨hd.kept, hd.services.trans hprefix, ?_,
    ⟨rows ++ [⟨u, profileUuid, tenantUuid, serviceUuid, entry.2.config⟩], ?_, ?_⟩,
    ⟨sourceRows ++ (sources.map sourceText).map (sourceRow tenantUuid u), ?_, ?_⟩⟩
  · refine keys_append hd.nodup fun b hb heq => hfresh ?_
    have heq : b.uuid = server.uuids.generate (d.profileServices.map ProfileService.uuid) := heq
    exact heq ▸ List.mem_map_of_mem hb
  · rw [← List.append_assoc, ← hrows, hu]
  · rw [List.forall_mem_append, List.forall_mem_singleton]
    exact ⟨hall, rfl, rfl⟩
  · rw [← List.append_assoc, ← hsources, hu]
  · rw [List.forall_mem_append]
    refine ⟨fun a ha => ?_, fun a ha => ?_⟩
    · obtain ⟨htenant, s, hs, hkey⟩ := hallSources a ha
      exact ⟨htenant, s, List.mem_append_left _ hs, hkey⟩
    · obtain ⟨_, -, rfl⟩ := List.mem_map.1 ha
      exact ⟨rfl, _, List.mem_append_right _ List.mem_cons_self, rfl, hu.symm⟩

/-- **The services of a body add rows of the profile.** -/
theorem grown_of_services {entries : List (String × RawServiceConfig)}
    (hd : (d.profileServices.map ProfileService.uuid).Nodup)
    (h : entries.foldlM (associateRawService server tenantUuid profileUuid) d = .ok d') :
    d.Grown tenantUuid profileUuid d' := by
  refine foldlM_preserves grown_associateRawService ?_ h
  exact ⟨rfl, List.prefix_refl _, hd, ⟨[], (List.append_nil _).symm, fun _ h => nomatch h⟩,
    ⟨[], (List.append_nil _).symm, fun _ h => nomatch h⟩⟩

/-- **What an edition that succeeds leaves**: a profile of the uuid was
there, its row is changed but in its keys, its services are dropped, and
rows of the profile are added. -/
theorem editRaw_eq_ok (hd : d.Keyed)
    (h : editRaw server d visibleTenants profileUuid body = (.ok (), d')) :
    ∃ profile ∈ d.profiles, profile.uuid = profileUuid ∧ ∃ profile', profile'.uuid = profileUuid ∧
      profile'.tenantUuid = profile.tenantUuid ∧
      (withEdited d profileUuid profile').Grown profile.tenantUuid profileUuid d' := by
  unfold editRaw at h
  split at h
  · cases h
  · next p hp =>
    have h := Directory.newSession_eq_ok.1 h
    dsimp only at h
    split at h
    · cases h
    · next profile hfirst =>
      obtain ⟨hprofile, hfound⟩ := List.mem_filter.1 (RowOrder.mem_of_first hfirst)
      have huuid : profile.uuid = profileUuid := by
        unfold buildFilter at hp
        split at hp <;> cases hp
        · rw [Bool.and_eq_true] at hfound
          exact of_decide_eq_true hfound.1
        · exact of_decide_eq_true hfound
      obtain ⟨name, -, h⟩ := bind_eq_ok.1 h
      obtain ⟨display, -, h⟩ := bind_eq_ok.1 h
      obtain ⟨profile', hflush, h⟩ := bind_eq_ok.1 h
      obtain ⟨services, -, h⟩ := bind_eq_ok.1 h
      obtain ⟨d'', hservices, h⟩ := bind_eq_ok.1 h
      cases h
      -- the row is flushed with its name and its display changed, not its keys
      have hkey : profile'.uuid = profile.uuid ∧ profile'.tenantUuid = profile.tenantUuid := by
        cases name with
        | none => cases hflush
        | some name =>
          rw [flushRaw_some] at hflush
          obtain ⟨_, -, hrow⟩ := bind_eq_ok.1 (except_map_eq_bind.symm.trans hflush)
          cases hrow
          exact ⟨rfl, rfl⟩
      have hnodup : ((withEdited d profileUuid profile').profileServices.map
        ProfileService.uuid).Nodup := keys_filter hd.profileServices _
      have hrun : services.entries.foldlM (associateRawService server profile.tenantUuid profileUuid)
          (withEdited d profileUuid profile') = .ok d' := by
        rw [← hservices, withEdited, hkey.1]
        rfl
      exact ⟨profile, hprofile, huuid, profile', hkey.1.trans huuid, hkey.2,
        grown_of_services hnodup hrun⟩

/-- An edition that raises changes nothing. -/
theorem editRaw_eq_error {e : DirdError}
    (h : editRaw server d visibleTenants profileUuid body = (.error e, d')) : d' = d := by
  unfold editRaw at h
  split at h
  · exact (Prod.mk.inj h).2.symm
  · exact (Directory.newSession_eq_error.1 h).2

end ProfileCRUD

/-! ## The rows of others -/

namespace Directory

/-- A source row under a service of another profile. -/
def OfOther (d : Directory) (profileUuid : Uuid) (a : ProfileServiceSource) : Bool :=
  (d.profileServices.filter (·.profileUuid ≠ profileUuid)).any fun s =>
    s.uuid = a.profileServiceUuid && s.profileTenantUuid = a.profileTenantUuid

/-- **The rows of the other profiles stay**: their own, those of their
services, and those of the sources of these. -/
structure OthersKept (d : Directory) (profileUuid : Uuid) (d' : Directory) : Prop where
  profiles : d'.profiles.filter (·.uuid ≠ profileUuid) = d.profiles.filter (·.uuid ≠ profileUuid)
  profileServices : d'.profileServices.filter (·.profileUuid ≠ profileUuid) =
    d.profileServices.filter (·.profileUuid ≠ profileUuid)
  sources : d'.profileServiceSources.filter (d'.OfOther profileUuid) =
    d.profileServiceSources.filter (d.OfOther profileUuid)

/-- **The rows of a tenant stay**, of the tables of profiles. -/
structure TenantKept (d : Directory) (tenantUuid : Uuid) (d' : Directory) : Prop where
  profiles : d'.profiles.filter (·.tenantUuid = tenantUuid) =
    d.profiles.filter (·.tenantUuid = tenantUuid)
  profileServices : d'.profileServices.filter (·.profileTenantUuid = tenantUuid) =
    d.profileServices.filter (·.profileTenantUuid = tenantUuid)
  sources : d'.profileServiceSources.filter (·.profileTenantUuid = tenantUuid) =
    d.profileServiceSources.filter (·.profileTenantUuid = tenantUuid)

/-- **An edition of a profile is atomic**: what it leaves of a database,
whether it raises or not. -/
structure EditsAtomically (d : Directory) (profileUuid : Uuid)
    (out : Except DirdError Unit × Directory) : Prop where
  /-- What raises leaves the whole database. -/
  raises : ∀ e, out.1 = .error e → out.2 = d
  others : d.OthersKept profileUuid out.2
  /-- Of every tenant that is not the profile's. -/
  tenants : ∀ tenantUuid, (∀ profile ∈ d.profiles, profile.uuid = profileUuid →
    profile.tenantUuid ≠ tenantUuid) → d.TenantKept tenantUuid out.2
  /-- The other tables stay, and services, which are of no tenant, are only
  added. -/
  tables : out.2.toDatabase = d.toDatabase
  displays : out.2.displays = d.displays ∧ out.2.displayColumns = d.displayColumns
  services : d.services <+: out.2.services

variable {d d' : Directory} {tenantUuid profileUuid : Uuid} {profile profile' : Profile}

theorem editsAtomically_self (d : Directory) (profileUuid : Uuid) (r : Except DirdError Unit) :
    d.EditsAtomically profileUuid (r, d) where
  raises _ _ := rfl
  others := ⟨rfl, rfl, rfl⟩
  tenants _ _ := ⟨rfl, rfl, rfl⟩
  tables := rfl
  displays := ⟨rfl, rfl⟩
  services := List.prefix_refl _

/-- Replacing what is kept by no test changes nothing that is. -/
theorem filter_map_replace {α : Type} {l : List α} {p : α → Bool} {q : α → Prop}
    [DecidablePred q] {x : α} (hp : ∀ b ∈ l, q b → p b = false) (hx : p x = false) :
    (l.map fun b => if q b then x else b).filter p = l.filter p := by
  induction l with
  | nil => rfl
  | cons b l ih =>
    rw [List.forall_mem_cons] at hp
    rw [List.map_cons]
    by_cases hq : q b
    · rw [if_pos hq, List.filter_cons_of_neg (by simp [hx]), ih hp.2,
        List.filter_cons_of_neg (by simp [hp.1 hq])]
    · rw [if_neg hq, List.filter_cons, List.filter_cons, ih hp.2]

/-- What is filtered out first is not kept anyway. -/
theorem filter_of_filter {α : Type} {l : List α} {p q : α → Bool}
    (h : ∀ b ∈ l, p b = true → q b = true) : (l.filter q).filter p = l.filter p := by
  rw [List.filter_filter]
  refine List.filter_congr fun b hb => ?_
  cases hp : p b with
  | false => simp
  | true => simp [h b hb hp]

/-- A row of the edited database's dropped services is one of the profile. -/
theorem exists_of_dropped {a : ProfileServiceSource}
    (h : (d.profileServices.any fun s => s.profileUuid = profileUuid &&
      s.uuid = a.profileServiceUuid && s.profileTenantUuid = a.profileTenantUuid) = true) :
    ∃ s ∈ d.profileServices, s.profileUuid = profileUuid ∧ s.uuid = a.profileServiceUuid ∧
      s.profileTenantUuid = a.profileTenantUuid := by
  obtain ⟨s, hs, hkey⟩ := List.any_eq_true.1 h
  simp only [Bool.and_eq_true, decide_eq_true_eq] at hkey
  exact ⟨s, hs, hkey.1.1, hkey.1.2, hkey.2⟩

/-- A source row under a service of the profile is under no other's. -/
theorem not_ofOther (hnodup : (d.profileServices.map ProfileService.uuid).Nodup)
    {s : ProfileService} (hs : s ∈ d.profileServices) (hsProfile : s.profileUuid = profileUuid)
    {a : ProfileServiceSource} (hkey : s.uuid = a.profileServiceUuid) :
    ¬ d.OfOther profileUuid a = true := by
  intro hother
  obtain ⟨s', hs', hkey'⟩ := List.any_eq_true.1 hother
  obtain ⟨hs', hne⟩ := List.mem_filter.1 hs'
  rw [Bool.and_eq_true, decide_eq_true_eq] at hkey'
  have heq : s' = s := eq_of_key hnodup hs' hs (hkey'.1.trans hkey.symm)
  exact of_decide_eq_true hne (heq ▸ hsProfile)

section Edited

variable (hd : d.Keyed) (hprofile : profile ∈ d.profiles) (huuid : profile.uuid = profileUuid)
  (huuid' : profile'.uuid = profileUuid) (htenant' : profile'.tenantUuid = profile.tenantUuid)
  (h : (ProfileCRUD.withEdited d profileUuid profile').Grown profile.tenantUuid profileUuid d')

include hd hprofile huuid huuid' htenant' h

omit hprofile huuid htenant' in
/-- **An edition leaves the rows of the other profiles.** -/
theorem othersKept_of_grown : d.OthersKept profileUuid d' := by
  obtain ⟨rows, hrows, hall⟩ := h.rows
  obtain ⟨sourceRows, hsources, hallSources⟩ := h.sources
  have hprofiles : d'.profiles = _ := (congrArg Directory.profiles h.kept :)
  have hservices : d'.profileServices.filter (·.profileUuid ≠ profileUuid) =
      d.profileServices.filter (·.profileUuid ≠ profileUuid) := by
    have hnone : rows.filter (·.profileUuid ≠ profileUuid) = [] :=
      List.filter_eq_nil_iff.2 fun s hs => by simp [(hall s hs).1]
    rw [hrows, List.filter_append, hnone, List.append_nil]
    exact filter_of_filter fun s _ hs => by simpa using hs
  have hother : d'.OfOther profileUuid = d.OfOther profileUuid := by
    funext a
    rw [OfOther, OfOther, hservices]
  refine ⟨?_, hservices, ?_⟩
  · rw [hprofiles]
    refine filter_map_replace (fun b _ hb => ?_) ?_
    · simp [hb, huuid']
    · simp [huuid']
  · -- a row that is added is under a service of the profile, whose key no other has
    have hnone : sourceRows.filter (d'.OfOther profileUuid) = [] := by
      refine List.filter_eq_nil_iff.2 fun a ha => ?_
      obtain ⟨-, s, hs, hsProfile, hsKey⟩ := hallSources a ha
      exact not_ofOther h.nodup hs hsProfile hsKey
    rw [hsources, List.filter_append, hnone, List.append_nil, hother]
    refine filter_of_filter fun a ha hother => ?_
    rw [Bool.not_eq_true']
    refine Bool.eq_false_iff.2 fun hdropped => ?_
    obtain ⟨s, hs, hsProfile, hsKey, -⟩ := exists_of_dropped hdropped
    exact not_ofOther hd.profileServices hs hsProfile hsKey hother

/-- **An edition leaves the rows of the other tenants.** -/
theorem tenantKept_of_grown (htenant : profile.tenantUuid ≠ tenantUuid) :
    d.TenantKept tenantUuid d' := by
  obtain ⟨rows, hrows, hall⟩ := h.rows
  obtain ⟨sourceRows, hsources, hallSources⟩ := h.sources
  have hprofiles : d'.profiles = _ := (congrArg Directory.profiles h.kept :)
  have hof {s : ProfileService} (hs : s ∈ d.profileServices)
      (hsProfile : s.profileUuid = profileUuid) :
      s.profileTenantUuid ≠ tenantUuid := by
    rw [hd.tenant_eq hs hprofile (hsProfile.trans huuid.symm)]
    exact htenant
  refine ⟨?_, ?_, ?_⟩
  · rw [hprofiles]
    refine filter_map_replace (fun b hb hkey => ?_) ?_
    · have heq : b = profile := eq_of_key hd.uuids hb hprofile
        (hkey.trans (huuid'.trans huuid.symm))
      simp [heq, htenant]
    · simp [htenant', htenant]
  · have hnone : rows.filter (·.profileTenantUuid = tenantUuid) = [] :=
      List.filter_eq_nil_iff.2 fun s hs => by simp [(hall s hs).2, htenant]
    rw [hrows, List.filter_append, hnone, List.append_nil]
    refine filter_of_filter fun s hs hkey => ?_
    simpa using fun hsProfile => hof hs hsProfile (of_decide_eq_true hkey)
  · have hnone : sourceRows.filter (·.profileTenantUuid = tenantUuid) = [] :=
      List.filter_eq_nil_iff.2 fun a ha => by simp [(hallSources a ha).1, htenant]
    rw [hsources, List.filter_append, hnone, List.append_nil]
    refine filter_of_filter fun a ha hkey => ?_
    rw [Bool.not_eq_true']
    refine Bool.eq_false_iff.2 fun hdropped => ?_
    obtain ⟨s, hs, hsProfile, -, hsTenant⟩ := exists_of_dropped hdropped
    exact hof hs hsProfile (hsTenant.trans (of_decide_eq_true hkey))

/-- An edition keeps the keys. -/
theorem keyed_of_grown : d'.Keyed := by
  obtain ⟨rows, hrows, hall⟩ := h.rows
  have hprofiles : d'.profiles = _ := (congrArg Directory.profiles h.kept :)
  have hkeys : d'.profileKeys = d.profileKeys := by
    rw [profileKeys, hprofiles]
    refine (List.map_map ..).trans (List.map_congr_left fun b hb => ?_)
    dsimp only [Function.comp_apply]
    split
    · next hkey =>
      have heq : b = profile := eq_of_key hd.uuids hb hprofile (hkey.trans (huuid'.trans huuid.symm))
      rw [heq, huuid, huuid', htenant']
    · rfl
  refine ⟨hkeys ▸ hd.profiles, h.nodup, fun s hs => ?_⟩
  rw [hkeys]
  rw [hrows] at hs
  rcases List.mem_append.1 hs with hold | hnew
  · exact hd.profile s (List.mem_filter.1 hold).1
  · obtain ⟨hsProfile, hsTenant⟩ := hall s hnew
    rw [hsProfile, hsTenant, ← huuid]
    exact List.mem_map_of_mem (f := fun p => (p.uuid, p.tenantUuid)) hprofile

end Edited

/-! ## Runs -/

/-- **What is done to the database**: an operation of its layer, an edition
of a profile by any body, or the deletion of a user that a caller commits. -/
inductive Change where
  | crud (server : Driven.DatabaseServer) (op : Driven.CrudOp)
  | editProfile (server : ProfileServer) (visibleTenants : Option (List Uuid))
      (profileUuid : Uuid) (body : RawProfileBody)
  | deleteUser (userUuid : Uuid)

/-- What a change leaves, whether it returns or raises. -/
def change (d : Directory) : Change → Directory
  | .crud server op => (op.done server d).2
  | .editProfile server visibleTenants profileUuid body =>
    (ProfileCRUD.editRaw server d visibleTenants profileUuid body).2
  | .deleteUser userUuid => d.withTables (Driven.dropUser userUuid d.toDatabase)

/-- **The database after a run of changes**, of an empty one. -/
def changed (changes : List Change) : Directory := changes.foldl change {}

/-- The other tables have no part in the keys of profiles. -/
theorem Keyed.withTables (hd : d.Keyed) (db : Database) : (d.withTables db).Keyed :=
  hd.congr rfl rfl

/-- An edition keeps the keys, whether it raises or not. -/
theorem Keyed.editRaw (hd : d.Keyed) (server : ProfileServer) (visibleTenants : Option (List Uuid))
    (profileUuid : Uuid) (body : RawProfileBody) :
    (ProfileCRUD.editRaw server d visibleTenants profileUuid body).2.Keyed := by
  cases hedit : ProfileCRUD.editRaw server d visibleTenants profileUuid body with
  | mk r d' =>
    cases r with
    | error e =>
      rw [ProfileCRUD.editRaw_eq_error hedit]
      exact hd
    | ok _ =>
      obtain ⟨profile, hprofile, huuid, profile', huuid', htenant', hgrown⟩ :=
        ProfileCRUD.editRaw_eq_ok hd hedit
      exact keyed_of_grown hd hprofile huuid huuid' htenant' hgrown

/-- A creation keeps the keys: its profile is of a new uuid, and what it
adds for it is of that uuid. -/
theorem Keyed.create (hd : d.Keyed) (server : ProfileServer) (tenantUuid : Uuid)
    (body : ProfileBody) : (ProfileCRUD.create server d tenantUuid body).2.Keyed := by
  cases hcreate : ProfileCRUD.create server d tenantUuid body with
  | mk r d' =>
    cases r with
    | error e =>
      obtain ⟨-, rfl⟩ := newSession_eq_error.1 hcreate
      exact hd
    | ok u =>
      obtain ⟨-, hall, -⟩ := ProfileCRUD.create_eq_ok.1 hcreate
      rw [← ProfileCRUD.foldlM_associateRawService] at hall
      have hnodup : ((ProfileCRUD.withProfile d tenantUuid (ProfileCRUD.newProfile server d tenantUuid
        body)).profileServices.map ProfileService.uuid).Nodup := hd.profileServices
      have hgrown := ProfileCRUD.grown_of_services hnodup hall
      obtain ⟨rows, hrows, hrowsAll⟩ := hgrown.rows
      have hprofiles : d'.profiles = _ := (congrArg Directory.profiles hgrown.kept :)
      have hkeys : d'.profileKeys = d.profileKeys ++
          [((ProfileCRUD.newProfile server d tenantUuid body).uuid, tenantUuid)] := by
        rw [profileKeys, hprofiles]
        exact List.map_append
      refine ⟨?_, hgrown.nodup, fun s hs => ?_⟩
      · rw [hkeys]
        refine keys_append hd.profiles fun key hkey heq => ?_
        obtain ⟨profile, hprofile, rfl⟩ := List.mem_map.1 hkey
        exact ProfileCRUD.newProfile_uuid_ne server d tenantUuid body profile hprofile heq
      · rw [hkeys]
        rw [hrows] at hs
        rcases List.mem_append.1 hs with hold | hnew
        · exact List.mem_append_left _ (hd.profile s hold)
        · obtain ⟨hsProfile, hsTenant⟩ := hrowsAll s hnew
          rw [hsProfile, hsTenant]
          exact List.mem_append_right _ List.mem_cons_self

/-- Deleting displays changes no key. -/
theorem Keyed.dropDisplays (hd : d.Keyed) (p : Display → Bool) : (d.dropDisplays p).Keyed := by
  refine hd.congr ?_ rfl
  refine (List.map_map ..).trans (List.map_congr_left fun b _ => ?_)
  dsimp only [Function.comp_apply]
  split <;> rfl

/-- **Every operation of the database layer keeps the keys.** -/
theorem Keyed.done (hd : d.Keyed) (server : Driven.DatabaseServer) (op : Driven.CrudOp) :
    (op.done server d).2.Keyed := by
  cases op with
  | profile call =>
    cases call with
    | create tenantUuid body => exact hd.create server.profile tenantUuid body
    | delete visibleTenants profileUuid =>
      change (ProfileCRUD.delete d visibleTenants profileUuid).2.Keyed
      unfold ProfileCRUD.delete
      split
      · exact hd
      · exact hd.dropProfiles _
    | edit visibleTenants profileUuid body =>
      change (ProfileCRUD.edit server.profile d visibleTenants profileUuid body).2.Keyed
      rw [← ProfileCRUD.editRaw_raw]
      exact hd.editRaw server.profile visibleTenants profileUuid body.raw
    | count | get | list => exact hd
  | display call =>
    cases call with
    | create tenantUuid body uuid =>
      change (DisplayCRUD.create server.uuids server.columns d tenantUuid body uuid).2.Keyed
      unfold DisplayCRUD.create
      dsimp only
      split
      · exact hd
      · exact hd.congr rfl rfl
    | edit visibleTenants displayUuid body =>
      change (DisplayCRUD.edit server.displays d visibleTenants displayUuid body).2.Keyed
      unfold DisplayCRUD.edit
      split
      · exact hd
      · split
        · exact hd
        · exact hd.congr rfl rfl
    | delete visibleTenants displayUuid =>
      change (DisplayCRUD.delete d visibleTenants displayUuid).2.Keyed
      unfold DisplayCRUD.delete
      split
      · exact hd
      · exact hd.dropDisplays _
    | count | get | list => exact hd
  | createTenant | createOrEditTenant | getTenant | deleteUser | source | favorite | phonebook
  | phonebookContact | personalContact => exact hd.withTables _

/-- **Every database that a run leads to has its keys.** -/
theorem keyed_changed (changes : List Change) : (changed changes).Keyed := by
  induction changes using List.reverseRecOn with
  | nil => exact keyed_nil
  | append_singleton changes c ih =>
    rw [changed, List.foldl_append, List.foldl_cons, List.foldl_nil]
    change (change (changed changes) c).Keyed
    cases c with
    | crud server op => exact ih.done server op
    | editProfile server visibleTenants profileUuid body =>
      exact ih.editRaw server visibleTenants profileUuid body
    | deleteUser userUuid => exact ih.withTables _

/-- **Editing a profile is atomic** in every database that a run leads to,
by every body: what raises changes nothing, and no row of another profile
or of another tenant is ever changed. -/
theorem profile_edited_atomically (changes : List Change) (server : ProfileServer)
    (visibleTenants : Option (List Uuid)) (profileUuid : Uuid) (body : RawProfileBody) :
    (changed changes).EditsAtomically profileUuid
      (ProfileCRUD.editRaw server (changed changes) visibleTenants profileUuid body) := by
  have hd := keyed_changed changes
  cases hedit : ProfileCRUD.editRaw server (changed changes) visibleTenants profileUuid body with
  | mk r d' =>
    cases r with
    | error e =>
      rw [ProfileCRUD.editRaw_eq_error hedit]
      exact editsAtomically_self _ _ _
    | ok _ =>
      obtain ⟨profile, hprofile, huuid, profile', huuid', htenant', hgrown⟩ :=
        ProfileCRUD.editRaw_eq_ok hd hedit
      exact {
        raises := fun e he => by cases he
        others := othersKept_of_grown hd huuid' hgrown
        tenants := fun tenantUuid hother => tenantKept_of_grown hd hprofile huuid huuid' htenant'
          hgrown (hother profile hprofile huuid)
        tables := (congrArg Directory.toDatabase hgrown.kept :)
        displays := ⟨(congrArg Directory.displays hgrown.kept :),
          (congrArg Directory.displayColumns hgrown.kept :)⟩
        services := hgrown.services }

end Directory

end WazoDird
