import WazoDird.Common.Run
import WazoDird.Profiles.Rows
import WazoDird.Views.ResultFormatter

/-!
# The display of a profile

`DisplayAwareResource` of `helpers.py`, which the views make a profile's
columns with, on what the stores say of the profile. A profile that never
had a display, and one whose display was deleted, say none under that
name, and the default of the lookup is for a name that is not there.
-/

namespace WazoDird

/-- A column, as the views have it. -/
def DisplayColumnBody.toColumn (c : DisplayColumnBody) : DisplayColumn where
  title := c.title
  type := c.type
  default := c.default
  field := c.field

namespace DisplayAwareResource

/-- `_make_display`. -/
def makeDisplay (display : DisplayInfo) : Option (List DisplayColumn) :=
  if display.columns.isEmpty then none else some (display.columns.map DisplayColumnBody.toColumn)

/-- `build_display`: the columns are an attribute read on none where the
profile has no display. -/
def buildDisplay (profile : ProfileInfo) : Except DirdError (Option (List DisplayColumn)) :=
  match profile.display with
  | none => .error .attribute
  | some display => .ok (makeDisplay display)

end DisplayAwareResource

/-! ## What the stores are asked -/

/-- A call of the stores of displays and profiles. -/
inductive ProfileCall where
  | createDisplay (server : UuidServer) (oc : RowOrder DisplayColumnRow) (tenantUuid : Uuid)
      (body : DisplayBody) (uuid : Option Uuid)
  | editDisplay (o : RowOrder Display) (visibleTenants : Option (List Uuid)) (displayUuid : Uuid)
      (body : DisplayBody)
  | deleteDisplay (visibleTenants : Option (List Uuid)) (displayUuid : Uuid)
  | createProfile (server : ProfileServer) (tenantUuid : Uuid) (body : ProfileBody)
  | editProfile (server : ProfileServer) (visibleTenants : Option (List Uuid)) (profileUuid : Uuid)
      (body : ProfileBody)
  | deleteProfile (visibleTenants : Option (List Uuid)) (profileUuid : Uuid)

namespace Directory

/-- What a call leaves, whether it returns or raises. -/
def exec (d : Directory) : ProfileCall → Directory
  | .createDisplay server oc tenantUuid body uuid =>
    (DisplayCRUD.create server oc d tenantUuid body uuid).2
  | .editDisplay o visibleTenants displayUuid body =>
    (DisplayCRUD.edit o d visibleTenants displayUuid body).2
  | .deleteDisplay visibleTenants displayUuid =>
    (DisplayCRUD.delete d visibleTenants displayUuid).2
  | .createProfile server tenantUuid body => (ProfileCRUD.create server d tenantUuid body).2
  | .editProfile server visibleTenants profileUuid body =>
    (ProfileCRUD.edit server d visibleTenants profileUuid body).2
  | .deleteProfile visibleTenants profileUuid =>
    (ProfileCRUD.delete d visibleTenants profileUuid).2

/-- **A result shows the columns of a profile's display**, none standing
for no column. -/
def ShowsColumns (d : Directory) (profile : Profile) (r : Option (List DisplayColumn)) : Prop :=
  r ≠ some [] ∧ (r.getD []).Perm ((d.displayColumns.filter fun c =>
    profile.displayUuid = some c.displayUuid).map fun c => c.toColumn)

/-- What profiles say beside their displays. -/
def profilesShown (server : ProfileServer) (d : Directory) :
    List (Uuid × Uuid × String × Dict String ServiceInfo) :=
  d.profiles.map fun p => (p.uuid, p.tenantUuid, p.name, ProfileCRUD.servicesOf server d p)

/-- **The profiles are usable**: what is found by name is built a display
of, of the columns stored for it, and deleting a display changes nothing
else of any profile. -/
structure ProfilesUsable (d : Directory) : Prop where
  builds : ∀ server lower tenantUuid name info,
    ProfileService.getByName server lower d tenantUuid name = .ok info →
      ∃ profile ∈ d.profiles, profile.uuid = info.uuid ∧ profile.tenantUuid = tenantUuid ∧
        profile.name = name ∧
        ∃ r, DisplayAwareResource.buildDisplay info = .ok r ∧ d.ShowsColumns profile r
  deletes : ∀ server visibleTenants displayUuid,
    profilesShown server (d.exec (.deleteDisplay visibleTenants displayUuid)) =
      profilesShown server d

/-- **Each profile has its display**, when it has a name that can be asked
for. -/
def AllDisplayed (d : Directory) : Prop :=
  ∀ p ∈ d.profiles, NullFree [p.name] → p.HasDisplay d

/-- **A call keeps the displays of profiles**: it creates none without
one, and deletes none a profile is on, of a name that can be asked for. -/
def KeepsDisplays (d : Directory) : ProfileCall → Prop
  | .createProfile server tenantUuid body =>
    body.display ≠ none ∨ ∃ e, (ProfileCRUD.create server d tenantUuid body).1 = .error e
  | .deleteDisplay visibleTenants displayUuid =>
    ∀ q, DisplayCRUD.buildFilter visibleTenants displayUuid = .ok q →
      ∀ b ∈ d.displays, q b = true → ∀ p ∈ d.profiles, NullFree [p.name] →
        ¬ (p.displayUuid = some b.uuid ∧ p.displayTenantUuid = some b.tenantUuid)
  | _ => True

variable {d d' : Directory}

/-- Deleting a display changes no profile but in its display. -/
theorem profilesShown_deleteDisplay (server : ProfileServer) (visibleTenants : Option (List Uuid))
    (displayUuid : Uuid) :
    profilesShown server (d.exec (.deleteDisplay visibleTenants displayUuid)) =
      profilesShown server d := by
  show profilesShown server (DisplayCRUD.delete d visibleTenants displayUuid).2 = _
  unfold DisplayCRUD.delete
  split
  · rfl
  · next q hq =>
    show (List.map _ (List.map _ d.profiles)) = _
    rw [List.map_map]
    refine List.map_congr_left fun p _ => ?_
    dsimp only [Function.comp_apply]
    split <;> rfl

variable {server : ProfileServer} {lower : String → String} {tenantUuid : Uuid} {name : String}
  {info : ProfileInfo} {p : Profile}

/-- What is found by name is a profile of that name, of the tenant. -/
theorem getByName_ok (h : ProfileService.getByName server lower d tenantUuid name = .ok info) :
    ∃ p ∈ d.profiles, p.tenantUuid = tenantUuid ∧ p.name = name ∧ NullFree [p.name] ∧
      info = ProfileCRUD.dump server d p := by
  obtain ⟨infos, hlist, h⟩ := bind_eq_ok.1 h
  obtain ⟨⟨⟩, hname, hlist⟩ := bind_eq_ok.1 hlist
  have hname : NullFree [name] := takeTexts_ok.1 hname
  cases hlist
  split at h
  · next info' rest hinfos =>
    cases h
    obtain ⟨p, hp, rfl⟩ := List.mem_map.1 (hinfos ▸ List.mem_cons_self)
    have hp := (RowOrder.mem_order _).1 (List.mem_of_mem_drop hp)
    obtain ⟨hp, hfilter⟩ := List.mem_filter.1 hp
    simp only [ProfileCRUD.listFilter, Option.elim, Bool.and_true, Bool.and_eq_true,
      decide_eq_true_eq, List.mem_singleton] at hfilter
    exact ⟨p, hp, hfilter.1, hfilter.2, hfilter.2 ▸ hname, rfl⟩
  · cases h

/-- A profile is found by its name, by a server that answers it first. -/
theorem getByName_front (lower : String → String) (hp : p ∈ d.profiles)
    (hname : NullFree [p.name]) :
    ProfileService.getByName { ProfileServer.plain with profiles := .front p } lower d
      p.tenantUuid p.name =
      .ok (ProfileCRUD.dump { ProfileServer.plain with profiles := .front p } d p) := by
  have hmem : p ∈ d.profiles.filter
      (ProfileCRUD.listFilter lower (some [p.tenantUuid]) { name := some p.name }) :=
    List.mem_filter.2 ⟨hp, by simp [ProfileCRUD.listFilter]⟩
  have htexts : NullFree (ProfileCRUD.listTexts (some [p.tenantUuid]) { name := some p.name }) :=
    hname
  unfold ProfileService.getByName ProfileCRUD.list DirectoryListParams.page
  rw [takeTexts_bind, if_pos htexts]
  dsimp only [RowOrder.front]
  rw [if_pos hmem]
  rfl

/-- **The columns built of a display** are those stored for it. -/
theorem showsColumns_makeDisplay {b : Display} (o : RowOrder DisplayColumnRow)
    (h : p.displayUuid = some b.uuid) :
    d.ShowsColumns p (DisplayAwareResource.makeDisplay (DisplayCRUD.dump o d b)) := by
  have hfilter : d.displayColumns.filter (fun c => p.displayUuid = some c.displayUuid) =
      d.displayColumns.filter (·.displayUuid = b.uuid) :=
    List.filter_congr fun c _ => by rw [h]; simp [eq_comm]
  have hperm := (o.perm (d.displayColumns.filter (·.displayUuid = b.uuid))).map
    fun c => c.toColumn
  unfold ShowsColumns DisplayAwareResource.makeDisplay DisplayCRUD.dump
  rw [hfilter]
  dsimp only
  rw [List.map_map, List.isEmpty_map]
  split
  · next hnil =>
    rw [List.isEmpty_iff.1 hnil] at hperm
    exact ⟨nofun, hperm⟩
  · next hne =>
    refine ⟨fun heq => hne ?_, hperm⟩
    rw [Option.some.injEq, List.map_eq_nil_iff] at heq
    exact List.isEmpty_iff.2 heq

/-- **The profiles are usable when each that can be asked for has its
display.** -/
theorem profilesUsable_iff : d.ProfilesUsable ↔ d.AllDisplayed := by
  constructor
  · intro h p hp hname
    obtain ⟨-, -, -, -, -, r, hr, -⟩ := h.builds _ id _ _ _ (getByName_front id hp hname)
    rw [← ProfileCRUD.exists_displayOf]
    unfold DisplayAwareResource.buildDisplay ProfileCRUD.dump at hr
    cases hb : ProfileCRUD.displayOf d p with
    | none => rw [hb] at hr; cases hr
    | some b => exact ⟨b, rfl⟩
  · refine fun h => ⟨?_, profilesShown_deleteDisplay⟩
    intro server lower tenantUuid name info hinfo
    obtain ⟨p, hp, ht, hn, hname, rfl⟩ := getByName_ok hinfo
    obtain ⟨b, hb⟩ := ProfileCRUD.exists_displayOf.2 (h p hp hname)
    refine ⟨p, hp, rfl, ht, hn, _, ?_, showsColumns_makeDisplay server.columns
      (ProfileCRUD.displayOf_eq_some hb).2.1⟩
    unfold DisplayAwareResource.buildDisplay ProfileCRUD.dump
    rw [hb]
    rfl

/-! ## What a call leaves of the displays -/

/-- A creation leaves the displays and adds its row. -/
theorem createProfile_ok {body : ProfileBody} {u : Uuid}
    (h : ProfileCRUD.create server d tenantUuid body = (.ok u, d')) :
    d'.displays = d.displays ∧
      d'.profiles = d.profiles ++ [ProfileCRUD.newProfile server d tenantUuid body] ∧
      NullFree [body.name] ∧
      (body.display = none ∨ (ProfileCRUD.newProfile server d tenantUuid body).HasDisplay d) := by
  obtain ⟨hflush, hall, -⟩ := ProfileCRUD.create_eq_ok.1 h
  have hkept := ProfileCRUD.associateAllServices_kept hall
  obtain ⟨hname, -, -, hdisplay⟩ := ProfileCRUD.flush_eq_ok.1 hflush
  exact ⟨(congrArg Directory.displays hkept :), (congrArg Directory.profiles hkept :),
    List.forall_mem_singleton.2 hname, hdisplay⟩

/-- An edition leaves the displays, and each profile as it was or with a
display that is there. -/
theorem editProfile_ok {visibleTenants : Option (List Uuid)} {profileUuid : Uuid}
    {body : ProfileBody}
    (h : ProfileCRUD.edit server d visibleTenants profileUuid body = (.ok (), d')) :
    d'.displays = d.displays ∧ ∀ p ∈ d'.profiles, p ∈ d.profiles ∨ p.HasDisplay d := by
  obtain ⟨_, profile, display, -, -, -, hflush, hall⟩ := ProfileCRUD.edit_eq_ok.1 h
  have hkept := ProfileCRUD.associateAllServices_kept hall
  refine ⟨(congrArg Directory.displays hkept :), fun p hp => ?_⟩
  have hprofiles := (congrArg Directory.profiles hkept :)
  have hp : p ∈ (ProfileCRUD.withEdited d profileUuid
    (ProfileCRUD.editedProfile profile body.name display)).profiles := hprofiles ▸ hp
  obtain ⟨b, hb, rfl⟩ := List.mem_map.1 hp
  split
  · obtain hnone | hthere := (ProfileCRUD.flush_eq_ok.1 hflush).2.2.2
    · cases hnone
    · exact Or.inr hthere
  · exact Or.inl hb

/-- A profile has its display among more displays, whatever the other
tables. -/
theorem hasDisplay_mono (h : p.HasDisplay d) (hsub : ∀ b ∈ d.displays, ∃ b' ∈ d'.displays,
    b'.uuid = b.uuid ∧ b'.tenantUuid = b.tenantUuid) : p.HasDisplay d' := by
  obtain ⟨b, hb, hu, ht⟩ := h
  obtain ⟨b', hb', hu', ht'⟩ := hsub b hb
  exact ⟨b', hb', by rw [hu, hu'], by rw [ht, ht']⟩

/-- **Deleting displays leaves each profile its own** when none is on those
deleted. -/
theorem allDisplayed_dropDisplays (h : d.AllDisplayed) (q : Display → Bool) :
    (d.dropDisplays q).AllDisplayed ↔
      ∀ b ∈ d.displays, q b = true → ∀ p ∈ d.profiles, NullFree [p.name] →
        ¬ (p.displayUuid = some b.uuid ∧ p.displayTenantUuid = some b.tenantUuid) := by
  have hon : ∀ p : Profile, (d.displays.any fun y => q y && p.displayUuid = some y.uuid &&
      p.displayTenantUuid = some y.tenantUuid) = true ↔
      ∃ b ∈ d.displays, q b = true ∧ p.displayUuid = some b.uuid ∧
        p.displayTenantUuid = some b.tenantUuid := by
    intro p
    simp only [List.any_eq_true, Bool.and_eq_true, decide_eq_true_eq, and_assoc]
  constructor
  · intro hall b hb hq p hp hname hkey
    have hnulled := hall _ (List.mem_map_of_mem hp)
    rw [if_pos ((hon p).2 ⟨b, hb, hq, hkey⟩)] at hnulled
    obtain ⟨_, -, hu, -⟩ := hnulled hname
    cases hu
  · intro hnone p' hp'
    obtain ⟨p, hp, rfl⟩ := List.mem_map.1 hp'
    intro hname
    -- a profile keeps its name whether its display goes or not
    have hname : NullFree [p.name] := by
      revert hname
      split <;> exact id
    rw [if_neg fun hany => ?_]
    · obtain ⟨b, hb, hkey⟩ := h p hp hname
      refine ⟨b, List.mem_filter.2 ⟨hb, ?_⟩, hkey⟩
      rw [Bool.not_eq_true']
      exact Bool.eq_false_iff.2 fun hq => hnone b hb hq p hp hname hkey
    · obtain ⟨b, hb, hq, hkey⟩ := (hon p).1 hany
      exact hnone b hb hq p hp hname hkey

/-- **A profile made without a display** is the only one that is left
without its own. -/
theorem allDisplayed_createProfile (h : d.AllDisplayed) (server : ProfileServer)
    (tenantUuid : Uuid) (body : ProfileBody) :
    (ProfileCRUD.create server d tenantUuid body).2.AllDisplayed ↔
      body.display ≠ none ∨ ∃ e, (ProfileCRUD.create server d tenantUuid body).1 = .error e := by
  cases hcreate : ProfileCRUD.create server d tenantUuid body with
  | mk r d' =>
    cases r with
    | error e =>
      obtain ⟨-, rfl⟩ := Directory.newSession_eq_error.1 hcreate
      exact iff_of_true h (Or.inr ⟨e, rfl⟩)
    | ok u =>
      obtain ⟨hdisplays, hprofiles, hname, hdisplay⟩ := createProfile_ok hcreate
      have hsame : ∀ {p : Profile}, p.HasDisplay d' ↔ p.HasDisplay d := by
        intro p
        rw [Profile.HasDisplay, Profile.HasDisplay, hdisplays]
      dsimp only
      simp only [AllDisplayed, hprofiles, hsame, List.forall_mem_append, List.forall_mem_singleton,
        reduceCtorEq, exists_false, or_false]
      refine (and_iff_right h).trans ((forall_prop_of_true hname).trans ?_)
      constructor
      · rintro ⟨b, -, hu, -⟩ hnone
        rw [ProfileCRUD.newProfile, hnone] at hu
        cases hu
      · exact fun hne => hdisplay.resolve_left hne

/-- An edition leaves each profile its display, or with one that is there. -/
theorem allDisplayed_editProfile (h : d.AllDisplayed) (server : ProfileServer)
    (visibleTenants : Option (List Uuid)) (profileUuid : Uuid) (body : ProfileBody) :
    (ProfileCRUD.edit server d visibleTenants profileUuid body).2.AllDisplayed := by
  cases hedit : ProfileCRUD.edit server d visibleTenants profileUuid body with
  | mk r d' =>
    cases r with
    | error e =>
      rw [ProfileCRUD.edit_eq_error hedit]
      exact h
    | ok u =>
      obtain ⟨hdisplays, hprofiles⟩ := editProfile_ok hedit
      intro p hp hname
      exact hasDisplay_mono ((hprofiles p hp).elim (fun hp => h p hp hname) id) fun b hb =>
        ⟨b, hdisplays ▸ hb, rfl, rfl⟩

/-- **A call leaves each profile its display** when it keeps them. -/
theorem allDisplayed_exec (h : d.AllDisplayed) (c : ProfileCall) :
    (d.exec c).AllDisplayed ↔ d.KeepsDisplays c := by
  cases c with
  | createDisplay server oc tenantUuid body uuid =>
    refine iff_of_true ?_ trivial
    show (DisplayCRUD.create server oc d tenantUuid body uuid).2.AllDisplayed
    unfold DisplayCRUD.create
    dsimp only
    split
    · exact h
    · exact fun p hp hname => hasDisplay_mono (h p hp hname) fun b hb =>
        ⟨b, List.mem_append_left _ hb, rfl, rfl⟩
  | editDisplay o visibleTenants displayUuid body =>
    refine iff_of_true ?_ trivial
    show (DisplayCRUD.edit o d visibleTenants displayUuid body).2.AllDisplayed
    unfold DisplayCRUD.edit
    split
    · exact h
    · split
      · exact h
      · refine fun p hp hname => hasDisplay_mono (h p hp hname) fun b hb => ?_
        exact ⟨_, List.mem_map_of_mem hb, by split <;> rfl, by split <;> rfl⟩
  | deleteDisplay visibleTenants displayUuid =>
    show (DisplayCRUD.delete d visibleTenants displayUuid).2.AllDisplayed ↔
      ∀ q, DisplayCRUD.buildFilter visibleTenants displayUuid = .ok q →
        ∀ b ∈ d.displays, q b = true → ∀ p ∈ d.profiles, NullFree [p.name] →
          ¬ (p.displayUuid = some b.uuid ∧ p.displayTenantUuid = some b.tenantUuid)
    unfold DisplayCRUD.delete
    cases DisplayCRUD.buildFilter visibleTenants displayUuid with
    | error e => exact iff_of_true h fun q hq => by cases hq
    | ok q =>
      simp only [Except.ok.injEq, forall_eq']
      exact allDisplayed_dropDisplays h q
  | createProfile server tenantUuid body =>
    exact allDisplayed_createProfile h server tenantUuid body
  | editProfile server visibleTenants profileUuid body =>
    exact iff_of_true (allDisplayed_editProfile h server visibleTenants profileUuid body) trivial
  | deleteProfile visibleTenants profileUuid =>
    refine iff_of_true ?_ trivial
    show (ProfileCRUD.delete d visibleTenants profileUuid).2.AllDisplayed
    unfold ProfileCRUD.delete
    split
    · exact h
    · exact fun p hp => h p (List.mem_of_mem_filter hp)

end Directory

/-- **When the profiles stay usable**: in every state of a run they are,
exactly when every call of it keeps their displays. -/
theorem profiles_usable_iff (d : Directory) (hd : ∀ p ∈ d.profiles, p.HasDisplay d)
    (l : List ProfileCall) :
    (∀ s ∈ l.scanl Directory.exec d, s.ProfilesUsable) ↔
      Along Directory.exec Directory.KeepsDisplays d l := by
  simp only [Directory.profilesUsable_iff]
  exact forall_scanl_iff (I := Directory.AllDisplayed)
    (fun h => Directory.allDisplayed_exec h _) fun p hp _ => hd p hp

/-- The calls of a tenant that makes a display, puts a profile on it, edits
both, and deletes another display. -/
private def displayedCalls : List ProfileCall :=
  [.createDisplay .longest .asStored "t" ⟨"d", [{ title := some "Name" }]⟩ (some "d"),
    .createProfile .plain "t" { name := "default", display := some "d" },
    .createDisplay .longest .asStored "t" ⟨"e", [{ title := some "Phone" }]⟩ (some "e"),
    .editDisplay .asStored none "d" ⟨"d", [{ title := some "Last" }]⟩,
    .editProfile .plain none "x" { name := "default" },
    .deleteDisplay (some ["t"]) "e"]

/-- The profiles of such a tenant are usable throughout. -/
theorem profiles_usable_displayed :
    Along Directory.exec Directory.KeepsDisplays {} displayedCalls ∧
      ∀ s ∈ displayedCalls.scanl Directory.exec {}, s.ProfilesUsable := by
  have hkeeps : Along Directory.exec Directory.KeepsDisplays {} displayedCalls := by
    refine ⟨trivial, Or.inl nofun, trivial, trivial, trivial, ?_, trivial⟩
    intro q hq
    cases hq
    decide
  exact ⟨hkeeps, (profiles_usable_iff {} (fun _ h => nomatch h) displayedCalls).2 hkeeps⟩

/-- **A profile created without a display is not usable.** -/
theorem profiles_not_usable :
    ¬ ∀ l : List ProfileCall, ∀ s ∈ l.scanl Directory.exec {}, s.ProfilesUsable := by
  intro h
  have hlast := h [.createProfile .plain "t" { name := "default" }] _
    (List.mem_cons_of_mem _ List.mem_cons_self)
  rw [Directory.profilesUsable_iff, Directory.AllDisplayed] at hlast
  exact absurd hlast (by decide)

end WazoDird
