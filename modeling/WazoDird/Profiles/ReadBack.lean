import WazoDird.Profiles.Rows

/-!
# Profiles read back as written

A creation makes all the rows of a profile, and an edition all but its
own; a read puts them together again. What is read is what was written
whenever the writing goes through, and of a body whose display and sources
are there, and whose name is free, that is a matter of what the database
takes (`ProfileBody.Storable`), and for an edition of whether the body has
a display at all.
-/

namespace WazoDird

/-- **A profile shows a body**: its name, its display or none, and its
services, each with what is kept of it and its sources, and no other. -/
def ProfileInfo.Shows (info : ProfileInfo) (body : ProfileBody) : Prop :=
  info.name = body.name ∧ info.display.map DisplayInfo.uuid = body.display ∧
    ∀ k, Option.Rel ServiceInfo.Shows (info.services.get? k) (body.services.get? k)

/-- The tenants of a request include one. -/
def Sees (visibleTenants : Option (List Uuid)) (tenantUuid : Uuid) : Prop :=
  ∀ tenants, visibleTenants = some tenants → tenantUuid ∈ tenants

/-- A body is read back under a uuid, by whoever sees its tenant. -/
def ReadsBack (d : Directory) (tenantUuid profileUuid : Uuid) (body : ProfileBody) : Prop :=
  ∀ server visibleTenants, Sees visibleTenants tenantUuid →
    ∃ info, ProfileCRUD.get server d visibleTenants profileUuid = .ok info ∧ info.Shows body

/-- **A body fits a tenant**: its display and its sources are there, and
its name is none of other profiles. -/
structure ProfileBody.Fits (d : Directory) (tenantUuid : Uuid) (others : List Profile)
    (body : ProfileBody) : Prop where
  display : ∀ u, body.display = some u → ∃ b ∈ d.displays, b.uuid = u ∧ b.tenantUuid = tenantUuid
  sources : ∀ e ∈ body.services.entries, ∀ u ∈ e.2.sources, d.HasSource tenantUuid u
  name : ∀ b ∈ others, b.name = body.name → b.tenantUuid ≠ tenantUuid

/-- **What the database takes of a body**: no name in it has a null
character, and no service lists a source twice. -/
def ProfileBody.Storable (body : ProfileBody) : Prop :=
  '\x00' ∉ body.name.toList ∧
    ∀ e ∈ body.services.entries, '\x00' ∉ e.1.toList ∧ e.2.sources.Nodup

namespace ProfileCRUD

variable {server : ProfileServer} {d d' : Directory} {tenantUuid profileUuid u : Uuid}
  {visibleTenants : Option (List Uuid)} {body : ProfileBody} {profile : Profile}

/-! ## One profile has a uuid -/

/-- A request that sees the tenant of a profile finds it by its uuid. -/
theorem first_of_sees (hkeys : (d.profiles.map Profile.uuid).Nodup) (hp : profile ∈ d.profiles)
    (h : Sees visibleTenants profile.tenantUuid) :
    ∃ p, buildFilter visibleTenants profile.uuid = .ok p ∧
      ∀ o : RowOrder Profile, o.first (d.profiles.filter p) = some profile := by
  have hone : ∀ p : Profile → Bool, p profile = true → (∀ b, p b = true → b.uuid = profile.uuid) →
      ∀ o : RowOrder Profile, o.first (d.profiles.filter p) = some profile := by
    intro p hpp hpu o
    rw [filter_of_key hkeys hp hpp hpu, RowOrder.first_singleton]
  cases visibleTenants with
  | none => exact ⟨_, rfl, hone _ (decide_eq_true rfl) fun b hb => of_decide_eq_true hb⟩
  | some tenants =>
    have hmem := h tenants rfl
    cases tenants with
    | nil => cases hmem
    | cons t tenants =>
      refine ⟨_, rfl, hone _ ?_ fun b hb => ?_⟩
      · rw [decide_eq_true rfl, decide_eq_true hmem]
        rfl
      · rw [Bool.and_eq_true] at hb
        exact of_decide_eq_true hb.1

/-- A read by a uuid shows the profile. -/
theorem get_of_sees (hkeys : (d.profiles.map Profile.uuid).Nodup) (hp : profile ∈ d.profiles)
    (h : Sees visibleTenants profile.tenantUuid) :
    get server d visibleTenants profile.uuid = .ok (dump server d profile) := by
  obtain ⟨p, hfilter, hfirst⟩ := first_of_sees hkeys hp h
  unfold get
  rw [hfilter]
  dsimp only [bind, Except.bind]
  rw [hfirst server.profiles]

/-! ## What is read of what was associated -/

/-- **A profile whose services were just associated shows its body**, when
its row does. -/
theorem readsBack_of_associated {d₀ : Directory}
    (h : Associated d₀ tenantUuid profileUuid body.services.entries d)
    (hkeys : (d₀.profiles.map Profile.uuid).Nodup) (hp : profile ∈ d₀.profiles)
    (huuid : profile.uuid = profileUuid) (htenant : profile.tenantUuid = tenantUuid)
    (hnone : ∀ s ∈ d₀.profileServices, s.profileUuid ≠ profileUuid)
    (hname : profile.name = body.name) (hdisplayUuid : profile.displayUuid = body.display)
    (hdisplay : profile.displayUuid = none ∨ profile.HasDisplay d₀) :
    ReadsBack d tenantUuid profileUuid body := by
  intro server visibleTenants hsees
  rw [← h.profiles] at hkeys hp
  rw [← htenant] at hsees
  refine ⟨_, huuid ▸ get_of_sees hkeys hp hsees, hname, ?_, ?_⟩
  · show ((displayOf d profile).map _).map _ = _
    rw [← hdisplayUuid]
    cases hb : displayOf d profile with
    | some b => exact (displayOf_eq_some hb).2.1.symm
    | none =>
      obtain hnil | hthere := hdisplay
      · exact hnil.symm
      · rw [Profile.HasDisplay, ← h.displays] at hthere
        obtain ⟨b, hb'⟩ := exists_displayOf.2 hthere
        exact nomatch hb.symm.trans hb'
  · exact h.servicesOf body.services.nodup hnone huuid htenant server

/-- A body whose sources are there is taken, service by service, when no
service has a name or sources that are not. -/
theorem takes_iff
    (h : ∀ e ∈ body.services.entries, ∀ u ∈ e.2.sources, d.HasSource tenantUuid u) :
    (∀ e ∈ body.services.entries, d.Takes tenantUuid e) ↔
      ∀ e ∈ body.services.entries, '\x00' ∉ e.1.toList ∧ e.2.sources.Nodup :=
  forall₂_congr fun e he => and_congr_right fun _ => and_iff_left (h e he)

/-! ## Creations -/

/-- The row of a creation leaves the keys sound. -/
theorem sound_withProfile (hd : d.Sound) (tenantUuid : Uuid)
    (hnew : ∀ b ∈ d.profiles, b.uuid ≠ profile.uuid) :
    (withProfile d tenantUuid profile).Sound where
  profiles := keys_append hd.profiles hnew
  services := hd.services
  profile s hs := by
    obtain ⟨p, hp, hkey⟩ := hd.profile s hs
    exact ⟨p, List.mem_append_left _ hp, hkey⟩
  profileService := hd.profileService

/-- The row of a creation leaves the sources. -/
theorem hasSource_withProfile {t : Uuid} :
    (withProfile d tenantUuid profile).HasSource t u ↔ d.HasSource t u := by
  unfold Directory.HasSource withProfile Directory.createTenant
  rw [Database.createTenant_sources]

/-- **A creation reads back** when its body can be stored. -/
theorem create_readsBack_iff (hd : d.Sound) (h : body.Fits d tenantUuid d.profiles) :
    (∃ u d', create server d tenantUuid body = (.ok u, d') ∧
      ReadsBack d' tenantUuid u body) ↔ body.Storable := by
  have hnew := newProfile_uuid_ne server d tenantUuid body
  have hsound := sound_withProfile hd tenantUuid hnew
  have hall : (∃ d', associateAllServices server (withProfile d tenantUuid _) tenantUuid
      (newProfile server d tenantUuid body).uuid body.services = .ok d') ↔ _ :=
    exists_associateAllServices_eq_ok hsound
  rw [takes_iff fun e he u hu => hasSource_withProfile.2 (h.sources e he u hu)] at hall
  constructor
  · rintro ⟨u, d', hcreate, -⟩
    obtain ⟨hflush, hservices, -⟩ := create_eq_ok.1 hcreate
    exact ⟨(flush_eq_ok.1 hflush).1, hall.1 ⟨d', hservices⟩⟩
  · rintro ⟨hname, hservices⟩
    obtain ⟨d', hd'⟩ := hall.2 hservices
    have hdisplay : (newProfile server d tenantUuid body).displayUuid = none ∨
        (newProfile server d tenantUuid body).HasDisplay d := by
      cases hu : body.display with
      | none => exact Or.inl hu
      | some u =>
        obtain ⟨b, hb, hbu, hbt⟩ := h.display u hu
        exact Or.inr ⟨b, hb, hu.trans (hbu ▸ rfl), hbt ▸ rfl⟩
    refine ⟨_, d', create_eq_ok.2 ⟨flush_eq_ok.2 ⟨hname, hnew, h.name, hdisplay⟩, hd', rfl⟩, ?_⟩
    refine readsBack_of_associated (associateAllServices_ok hsound hd') hsound.profiles
      (List.mem_append_right _ List.mem_cons_self) rfl rfl ?_ rfl rfl hdisplay
    intro s hs heq
    obtain ⟨p, hp, hpu, -⟩ := hd.profile s hs
    exact hnew p hp (hpu.trans heq)

/-! ## Editions -/

/-- An edition replaces the row of its profile. -/
theorem mem_withEdited {q : Profile} (hp : profile ∈ d.profiles) (hq : q.uuid = profile.uuid) :
    q ∈ (withEdited d profileUuid q).profiles :=
  List.mem_map.2 ⟨profile, hp, if_pos hq.symm⟩

/-- The row of an edition leaves the keys sound. -/
theorem sound_withEdited (hd : d.Sound) (hp : profile ∈ d.profiles) (name : String)
    (display : Uuid) :
    (withEdited d profile.uuid (editedProfile profile name display)).Sound where
  profiles := by
    rw [withEdited, keys_replace rfl]
    exact hd.profiles
  services := hd.services
  profile s hs := by
    obtain ⟨hs, -⟩ := List.mem_filter.1 hs
    obtain ⟨p, hmem, hu, ht⟩ := hd.profile s hs
    refine ⟨_, List.mem_map_of_mem hmem, ?_⟩
    split
    · next heq =>
      have hsame : p = profile := eq_of_key hd.profiles hmem hp heq
      exact ⟨heq.symm.trans hu, hsame ▸ ht⟩
    · exact ⟨hu, ht⟩
  profileService a ha := by
    obtain ⟨ha, hkept⟩ := List.mem_filter.1 ha
    obtain ⟨s, hs, hkey⟩ := hd.profileService a ha
    refine ⟨s, List.mem_filter.2 ⟨hs, ?_⟩, hkey⟩
    rw [Bool.not_eq_true', List.any_eq_false] at hkept
    have hs := hkept s hs
    simpa [hkey] using hs

/-- **An edition reads back** when its body can be stored and has a
display. -/
theorem edit_readsBack_iff (hd : d.Sound) (hp : profile ∈ d.profiles)
    (hsees : Sees visibleTenants profile.tenantUuid)
    (h : body.Fits d profile.tenantUuid (d.profiles.filter (·.uuid ≠ profile.uuid))) :
    (∃ d', edit server d visibleTenants profile.uuid body = (.ok (), d') ∧
      ReadsBack d' profile.tenantUuid profile.uuid body) ↔
      body.Storable ∧ body.display ≠ none := by
  obtain ⟨p, hfilter, hfirst⟩ := first_of_sees hd.profiles hp hsees
  have hfirst := hfirst server.profiles
  have hall : ∀ display, (∃ d', associateAllServices server
      (withEdited d profile.uuid (editedProfile profile body.name display)) profile.tenantUuid
      profile.uuid body.services = .ok d') ↔ _ := fun display =>
    (exists_associateAllServices_eq_ok (sound_withEdited hd hp body.name display)).trans
      (takes_iff h.sources)
  constructor
  · rintro ⟨d', hedit, -⟩
    obtain ⟨p', profile', display, hfilter', hfirst', hdisplay, hflush, hservices⟩ :=
      edit_eq_ok.1 hedit
    obtain rfl := Except.ok.inj (hfilter.symm.trans hfilter')
    obtain rfl := Option.some.inj (hfirst.symm.trans hfirst')
    exact ⟨⟨(flush_eq_ok.1 hflush).1, (hall display).1 ⟨d', hservices⟩⟩, by
      rw [hdisplay]
      exact Option.some_ne_none _⟩
  · rintro ⟨⟨hname, hservices⟩, hdisplay⟩
    obtain ⟨display, hdisplay⟩ := Option.ne_none_iff_exists'.1 hdisplay
    obtain ⟨d', hd'⟩ := (hall display).2 hservices
    obtain ⟨b, hb, hbu, hbt⟩ := h.display display hdisplay
    have hthere : (editedProfile profile body.name display).HasDisplay d :=
      ⟨b, hb, congrArg some hbu.symm, congrArg some hbt.symm⟩
    have hother : ∀ b ∈ d.profiles.filter (·.uuid ≠ profile.uuid), b.uuid ≠ profile.uuid :=
      fun b hb => of_decide_eq_true (List.mem_filter.1 hb).2
    refine ⟨d', edit_eq_ok.2 ⟨p, profile, display, hfilter, hfirst, hdisplay,
      flush_eq_ok.2 ⟨hname, hother, h.name, Or.inr hthere⟩, hd'⟩, ?_⟩
    have hsound := sound_withEdited hd hp body.name display
    have hrow : editedProfile profile body.name display ∈ (withEdited d profile.uuid _).profiles :=
      mem_withEdited hp rfl
    refine readsBack_of_associated (associateAllServices_ok hsound hd') hsound.profiles
      hrow rfl rfl ?_ rfl hdisplay.symm (Or.inr hthere)
    intro s hs
    simpa using (List.mem_filter.1 hs).2

end ProfileCRUD

/-- **When a profile reads back as written**: of a body that fits its
tenant, a creation does when the database takes the body, and an edition
when the body has a display besides. -/
theorem profile_reads_back_iff (server : ProfileServer) (d : Directory) (hd : d.Sound)
    (body : ProfileBody) :
    (∀ tenantUuid, body.Fits d tenantUuid d.profiles →
      ((∃ u d', ProfileCRUD.create server d tenantUuid body = (.ok u, d') ∧
        ReadsBack d' tenantUuid u body) ↔ body.Storable)) ∧
    (∀ visibleTenants, ∀ profile ∈ d.profiles, Sees visibleTenants profile.tenantUuid →
      body.Fits d profile.tenantUuid (d.profiles.filter (·.uuid ≠ profile.uuid)) →
      ((∃ d', ProfileCRUD.edit server d visibleTenants profile.uuid body = (.ok (), d') ∧
        ReadsBack d' profile.tenantUuid profile.uuid body) ↔
        body.Storable ∧ body.display ≠ none)) :=
  ⟨fun _ h => ProfileCRUD.create_readsBack_iff hd h,
    fun _ _ hp hsees h => ProfileCRUD.edit_readsBack_iff hd hp hsees h⟩

/-- A tenant with a display, a source, and a profile on both. -/
private def oneProfile : Directory where
  tenants := [{ uuid := "t" }]
  sources := [{ uuid := "s", rawName := "phones", tenantUuid := "t", backend := "csv" }]
  displays := [⟨"d", "t", "default"⟩]
  profiles := [⟨"p", "t", "default", some "t", some "d"⟩]
  services := [⟨"v", "lookup"⟩]
  profileServices :=
    [{ uuid := "w", profileUuid := "p", profileTenantUuid := "t", serviceUuid := "v" }]
  profileServiceSources := [⟨"w", "t", "s", "t"⟩]

/-- A body with a display and one service. -/
private def salesBody : ProfileBody where
  name := "sales"
  display := some "d"
  services := Dict.ofList [("reverse", { sources := ["s"] })]

private theorem oneProfile_sound : oneProfile.Sound :=
  ⟨by decide, by decide, by decide, by decide⟩

/-- Such a body is read back, made or put in the place of another. -/
theorem profile_reads_back_sales :
    (∃ u d', ProfileCRUD.create .plain oneProfile "t" salesBody = (.ok u, d') ∧
      ReadsBack d' "t" u salesBody) ∧
    ∃ d', ProfileCRUD.edit .plain oneProfile none "p" salesBody = (.ok (), d') ∧
      ReadsBack d' "t" "p" salesBody := by
  have hdisplay : ∀ u, salesBody.display = some u →
      ∃ b ∈ oneProfile.displays, b.uuid = u ∧ b.tenantUuid = "t" := by
    rintro _ ⟨⟩
    decide
  have hsources : ∀ e ∈ salesBody.services.entries, ∀ u ∈ e.2.sources,
      oneProfile.HasSource "t" u := by
    unfold Directory.HasSource
    decide
  have hstorable : salesBody.Storable := ⟨by decide, by decide⟩
  have h := profile_reads_back_iff .plain oneProfile oneProfile_sound salesBody
  exact ⟨(h.1 "t" ⟨hdisplay, hsources, by decide⟩).2 hstorable,
    (h.2 none ⟨"p", "t", "default", some "t", some "d"⟩ List.mem_cons_self nofun
      ⟨hdisplay, hsources, by decide⟩).2 ⟨hstorable, nofun⟩⟩

/-- **An edition without a display fails**, whatever else it says. -/
theorem profile_not_edited : ¬ ∀ (server : ProfileServer) (d : Directory), d.Sound →
    ∀ (body : ProfileBody) (visibleTenants : Option (List Uuid)), ∀ profile ∈ d.profiles,
      Sees visibleTenants profile.tenantUuid →
      body.Fits d profile.tenantUuid (d.profiles.filter (·.uuid ≠ profile.uuid)) →
      ∃ d', ProfileCRUD.edit server d visibleTenants profile.uuid body = (.ok (), d') ∧
        ReadsBack d' profile.tenantUuid profile.uuid body := by
  intro h
  obtain ⟨d', hedit, -⟩ := h .plain oneProfile oneProfile_sound { name := "sales" } none
    ⟨"p", "t", "default", some "t", some "d"⟩ List.mem_cons_self nofun
    ⟨nofun, nofun, by decide⟩
  have hraises : (ProfileCRUD.edit .plain oneProfile none "p" { name := "sales" }).1 =
      .error (.python .keyError) := rfl
  rw [show ProfileCRUD.edit .plain oneProfile none "p" { name := "sales" } = _ from hedit]
    at hraises
  cases hraises

end WazoDird
