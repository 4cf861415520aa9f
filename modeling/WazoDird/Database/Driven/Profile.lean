import WazoDird.Database.Driven.Base
import WazoDird.Database.Queries.Profile

/-!
# The operations, call by call: displays and profiles

`database/queries/display.py` and `database/queries/profile.py`. What a
schema dumps of a row is loaded as it is dumped, and what is added to a
session and not flushed is flushed by its commit.
-/

namespace WazoDird

namespace Driven

open Body

/-- `BaseDAO._create_tenant`, on the whole database. -/
def createDirectoryTenant (uuid : Uuid) : Body Directory DirdError Unit :=
  createTenantWith fun d => (insertTenant uuid d.toDatabase).map fun r =>
    r.map fun (db, u) => ({ d with toDatabase := db }, u)

theorem gives_createDirectoryTenant (d : Directory) (uuid : Uuid) :
    (createDirectoryTenant uuid).Gives d d (.ok (d.createTenant uuid, ())) := by
  have hattempt := gives_attempt (c := d) (v := d) fun d : Directory =>
    (insertTenant uuid d.toDatabase).map fun r =>
      r.map fun (db, u) => (({ d with toDatabase := db } : Directory), u)
  unfold Directory.createTenant Database.createTenant
  unfold insertTenant at hattempt
  split
  · next hany =>
    rw [if_pos hany] at hattempt
    exact hattempt.bind_ok gives_rollback
  · next hany =>
    rw [if_neg hany] at hattempt
    exact hattempt.bind_ok (gives_pure ())

/-- An operation in the scope of some tenants: of an empty list nothing is
asked. -/
def withFilter {α β : Type} (filter : Except DirdError α)
    (op : α → Operation Directory DirdError β) : Operation Directory DirdError β :=
  match filter with
  | .error e => .fail e
  | .ok p => op p

theorem reports_withFilter {α β : Type} {filter : Except DirdError α}
    {op : α → Operation Directory DirdError β} (h : ∀ p, Reports (op p)) :
    Reports (withFilter filter op) := by
  cases filter with
  | error e => exact Operation.reports_fail e
  | ok p => exact h p

namespace DisplayCRUD

open WazoDird.DisplayCRUD (listFilter buildFilter dump addColumns)

variable (lower : String → String) (server : UuidServer) (o : RowOrder Display)
  (oc : RowOrder DisplayColumnRow) (visibleTenants : Option (List Uuid))
  (params : DirectoryListParams)
  (tenantUuid displayUuid : Uuid) (body : DisplayBody) (uuid : Option Uuid)

/-- `_add_display`. -/
def addDisplay (d : Directory) : Except DirdError (Directory × Display) :=
  let display : Display :=
    { uuid := uuid.getD (server.generate (d.displays.map Display.uuid))
      tenantUuid := tenantUuid, name := body.name }
  if d.displays.any (·.uuid = display.uuid) then .error .integrity
  else .ok ({ d with displays := d.displays ++ [display] }, display)

/-- `count`. -/
def count : Operation Directory DirdError ℕ :=
  withSession (fetch fun d => WazoDird.DisplayCRUD.count lower d visibleTenants params)

/-- `create`. -/
def create : Operation Directory DirdError DisplayInfo :=
  withSession do
    createDirectoryTenant tenantUuid
    let display ← access (addDisplay server tenantUuid body uuid)
    access fun d => .ok (addColumns d display.uuid body.columns, ())
    query fun d => dump oc d display

/-- `delete`. -/
def delete : Operation Directory DirdError Unit :=
  withFilter (buildFilter visibleTenants displayUuid) fun p =>
    (withSession (access fun d => .ok (d.dropDisplays p, d.displays.any p))).andThen fun deleted =>
      if deleted then .ok () else .error (.noSuchDisplay displayUuid)

/-- `edit`. The name and the columns are flushed by the commit. -/
def edit : Operation Directory DirdError Unit :=
  withFilter (buildFilter visibleTenants displayUuid) fun p => withSession do
    match ← query fun d => o.first (d.displays.filter p) with
    | none => raise (.noSuchDisplay displayUuid)
    | some display =>
      access fun d => .ok ({ d with
        displayColumns := d.displayColumns.filter (·.displayUuid ≠ displayUuid) }, ())
      access fun d => .ok (addColumns { d with
        displays := d.displays.map fun b =>
          if b.uuid = display.uuid then { b with name := body.name } else b }
        displayUuid body.columns, ())

/-- `get`. -/
def get : Operation Directory DirdError DisplayInfo :=
  withFilter (buildFilter visibleTenants displayUuid) fun p => withSession do
    match ← query fun d => o.first (d.displays.filter p) with
    | none => raise (.noSuchDisplay displayUuid)
    | some display => query fun d => dump oc d display

/-- `list_`. -/
def list : Operation Directory DirdError (List DisplayInfo) :=
  withSession do
    let rows ← fetch fun d => do
      takeTexts params.texts
      return params.page (o.order (d.displays.filter (listFilter lower visibleTenants params)))
    queryEach (fun row d => dump oc d row) rows

/-- A call of an operation on displays. -/
inductive Call where
  | count (visibleTenants : Option (List Uuid)) (params : DirectoryListParams)
  | create (tenantUuid : Uuid) (body : DisplayBody) (uuid : Option Uuid)
  | delete (visibleTenants : Option (List Uuid)) (displayUuid : Uuid)
  | edit (visibleTenants : Option (List Uuid)) (displayUuid : Uuid) (body : DisplayBody)
  | get (visibleTenants : Option (List Uuid)) (displayUuid : Uuid)
  | list (visibleTenants : Option (List Uuid)) (params : DirectoryListParams)

namespace Call

/-- What it answers. -/
def Answer : Call → Type
  | count .. => ℕ
  | create .. | get .. => DisplayInfo
  | delete .. | edit .. => Unit
  | list .. => List DisplayInfo

/-- The call, as the accesses it makes. -/
def run : (call : Call) → Operation Directory DirdError call.Answer
  | count visibleTenants params => DisplayCRUD.count lower visibleTenants params
  | create tenantUuid body uuid => DisplayCRUD.create server oc tenantUuid body uuid
  | delete visibleTenants displayUuid => DisplayCRUD.delete visibleTenants displayUuid
  | edit visibleTenants displayUuid body => DisplayCRUD.edit o visibleTenants displayUuid body
  | get visibleTenants displayUuid => DisplayCRUD.get o oc visibleTenants displayUuid
  | list visibleTenants params => DisplayCRUD.list lower o oc visibleTenants params

/-- The call, as what it does to the tables. -/
def done (d : Directory) : (call : Call) → Except DirdError call.Answer × Directory
  | count visibleTenants params =>
    (WazoDird.DisplayCRUD.count lower d visibleTenants params, d)
  | create tenantUuid body uuid =>
    WazoDird.DisplayCRUD.create server oc d tenantUuid body uuid
  | delete visibleTenants displayUuid => WazoDird.DisplayCRUD.delete d visibleTenants displayUuid
  | edit visibleTenants displayUuid body =>
    WazoDird.DisplayCRUD.edit o d visibleTenants displayUuid body
  | get visibleTenants displayUuid =>
    (WazoDird.DisplayCRUD.get o oc d visibleTenants displayUuid, d)
  | list visibleTenants params =>
    (WazoDird.DisplayCRUD.list lower o oc d visibleTenants params, d)

end Call

section Spec

variable {lower : String → String} {server : UuidServer} {o : RowOrder Display}
  {oc : RowOrder DisplayColumnRow}

/-- **Every operation on displays reports an outage.** -/
theorem reports_call (call : Call) : Reports (call.run lower server o oc) := by
  cases call with
  | count => exact reports_withSession (passes_fetch _)
  | list =>
    exact reports_withSession ((passes_fetch _).bind fun _ => passes_queryEach _ _)
  | create =>
    exact reports_withSession <| (passes_createTenantWith _).bind fun _ =>
      (passes_access _).bind fun _ => (passes_access _).bind fun _ => passes_query _
  | delete =>
    exact reports_withFilter fun p drv d => (reports_withSession (passes_access _) drv d).andThen
  | edit =>
    refine reports_withFilter fun p => reports_withSession ((passes_query _).bind fun found => ?_)
    cases found with
    | none => exact passes_raise _
    | some display => exact (passes_access _).bind fun _ => passes_access _
  | get =>
    refine reports_withFilter fun p => reports_withSession ((passes_query _).bind fun found => ?_)
    cases found with
    | none => exact passes_raise _
    | some display => exact passes_query _

section Does

variable (d : Directory) (visibleTenants : Option (List Uuid)) (tenantUuid displayUuid : Uuid)
  (body : DisplayBody) (uuid : Option Uuid)

theorem does_create : (create server oc tenantUuid body uuid).Does d
    (WazoDird.DisplayCRUD.create server oc d tenantUuid body uuid) := by
  rw [WazoDird.DisplayCRUD.create, ← closed_eq_directory_newSession]
  refine does_withSession ((gives_createDirectoryTenant d tenantUuid).bind_ok ?_)
  have hadd := gives_access (c := d) (v := d.createTenant tenantUuid)
    (addDisplay server tenantUuid body uuid)
  unfold addDisplay at hadd
  dsimp only at hadd ⊢
  split
  · next hany =>
    rw [if_pos hany] at hadd
    exact hadd.bind_error
  · next hany =>
    rw [if_neg hany] at hadd
    exact hadd.bind_ok ((gives_access _).bind_ok (gives_query _))

theorem does_delete : (delete visibleTenants displayUuid).Does d
    (WazoDird.DisplayCRUD.delete d visibleTenants displayUuid) := by
  unfold delete WazoDird.DisplayCRUD.delete
  cases buildFilter visibleTenants displayUuid with
  | error e => exact Operation.does_fail e
  | ok p => exact (does_withSession (gives_access _)).andThen

theorem does_edit : (edit o visibleTenants displayUuid body).Does d
    (WazoDird.DisplayCRUD.edit o d visibleTenants displayUuid body) := by
  unfold edit WazoDird.DisplayCRUD.edit
  cases buildFilter visibleTenants displayUuid with
  | error e => exact Operation.does_fail e
  | ok p =>
    dsimp only
    rw [← closed_eq_directory_newSession]
    refine does_withSession ((gives_query _).bind_ok ?_)
    cases o.first (d.displays.filter p) with
    | none => exact gives_raise _
    | some display => exact (gives_access _).bind_ok (gives_access _)

theorem does_get : (get o oc visibleTenants displayUuid).Does d
    (WazoDird.DisplayCRUD.get o oc d visibleTenants displayUuid, d) := by
  unfold get WazoDird.DisplayCRUD.get
  cases buildFilter visibleTenants displayUuid with
  | error e => exact Operation.does_fail e
  | ok p =>
    refine does_read ((gives_query _).bind_ok ?_)
    dsimp only [bind, Except.bind]
    cases o.first (d.displays.filter p) with
    | none => exact gives_raise _
    | some display => exact gives_query _

theorem does_list (params : DirectoryListParams) : (list lower o oc visibleTenants params).Does d
    (WazoDird.DisplayCRUD.list lower o oc d visibleTenants params, d) :=
  does_page _ _ _ d

end Does

/-- **While the database is up, an operation on displays does what it does
to the tables.** -/
theorem does_call (call : Call) (d : Directory) :
    (call.run lower server o oc).Does d (call.done lower server o oc d) := by
  cases call with
  | count => exact does_fetch _ d
  | create tenantUuid body uuid => exact does_create d tenantUuid body uuid
  | delete visibleTenants displayUuid => exact does_delete d visibleTenants displayUuid
  | edit visibleTenants displayUuid body => exact does_edit d visibleTenants displayUuid body
  | get visibleTenants displayUuid => exact does_get d visibleTenants displayUuid
  | list visibleTenants params => exact does_list d visibleTenants params

end Spec

end DisplayCRUD

namespace ProfileCRUD

open WazoDird.ProfileCRUD (listFilter listTexts buildFilter dump createProfileService)

variable (lower : String → String) (server : ProfileServer) (visibleTenants : Option (List Uuid))
  (params : DirectoryListParams) (tenantUuid profileUuid : Uuid) (body : ProfileBody)

/-- The flush of a row, among others. -/
def flushProfile (others : Directory → List Profile) (row : Directory → Profile)
    (write : Profile → Directory → Directory) (d : Directory) :
    Except DirdError (Except IntegrityError (Directory × Profile)) := do
  let profile := row d
  let _ ← textColumn profile.name
  .ok <|
    if (others d).any (·.uuid = profile.uuid) then
      .error ⟨.uniqueViolation, some "dird_profile_pkey", ""⟩
    else if (others d).any fun b => b.name = profile.name && b.tenantUuid = profile.tenantUuid then
      .error ⟨.uniqueViolation, some "dird_profile_tenant_name", ""⟩
    else if profile.displayUuid.any fun uuid => !(d.displays.any fun b =>
        b.uuid = uuid && profile.displayTenantUuid = some b.tenantUuid) then
      .error ⟨.foreignKeyViolation, some "dird_profile_display_uuid_tenant_fkey", ""⟩
    else .ok (write profile d, profile)

/-- The handler of the flush of a profile, of a name and a display. -/
def flushError (name : String) (display : Option Uuid) (e : IntegrityError) : DirdError :=
  if e.constraintName = some "dird_profile_display_uuid_tenant_fkey" then
    .noSuchDisplay (display.getD "None")
  else if e.constraintName = some "dird_profile_tenant_name" then .duplicatedProfile name
  else .integrity

/-- `_create_profile`. -/
def createProfile : Body Directory DirdError Profile :=
  flushOrRaise (flushProfile Directory.profiles
    (fun d =>
      { uuid := server.uuids.generate (d.profiles.map Profile.uuid), tenantUuid := tenantUuid
        name := body.name, displayUuid := body.display, displayTenantUuid := some tenantUuid })
    fun profile d => { d with profiles := d.profiles ++ [profile] })
    (flushError body.name body.display)

/-- `_create_service`. -/
def createService (name : String) : Body Directory DirdError Uuid := do
  let found ← fetch fun d => do
    let name ← textColumn name
    return d.services.find? (·.name = name)
  match found with
  | some service => return service.uuid
  | none =>
    access fun d =>
      let service : Service :=
        { uuid := server.uuids.generate (d.services.map Service.uuid), name := name }
      .ok ({ d with services := d.services ++ [service] }, service.uuid)

/-- The flush of a source of a service. -/
def flushSource (profileServiceUuid sourceUuid : Uuid) (d : Directory) :
    Except DirdError (Except IntegrityError (Directory × Unit)) :=
  .ok <|
    if d.profileServiceSources.any fun a =>
        a.profileServiceUuid = profileServiceUuid && a.sourceUuid = sourceUuid then
      .error ⟨.uniqueViolation, some "dird_profile_service_source_pkey", ""⟩
    else if !(d.sources.any fun x => x.uuid = sourceUuid && x.tenantUuid = tenantUuid) then
      .error ⟨.foreignKeyViolation, some "dird_profile_service_source_source_uuid_tenant_fkey", ""⟩
    else .ok ({ d with
      profileServiceSources := d.profileServiceSources ++
        [{ profileServiceUuid := profileServiceUuid, profileTenantUuid := tenantUuid
           sourceUuid := sourceUuid, sourceTenantUuid := tenantUuid }] }, ())

/-- The handler of `_create_profile_service_source`. -/
def sourceError (sourceUuid : Uuid) (e : IntegrityError) : DirdError :=
  if e.constraintName = some "dird_profile_service_source_source_uuid_tenant_fkey" then
    .noSuchSource sourceUuid
  else .integrity

/-- `_create_profile_service_source`. -/
def createProfileServiceSource (profileServiceUuid : Uuid) (_ : Unit) (sourceUuid : Uuid) :
    Body Directory DirdError Unit :=
  flushOrRaise (flushSource tenantUuid profileServiceUuid sourceUuid) (sourceError sourceUuid)

/-- One service of a body. -/
def associateService (_ : Unit) (entry : String × ServiceConfig) :
    Body Directory DirdError Unit := do
  let serviceUuid ← createService server entry.1
  let profileServiceUuid ← access fun d =>
    .ok (createProfileService server d tenantUuid profileUuid serviceUuid entry.2)
  entry.2.sources.foldlM (createProfileServiceSource tenantUuid profileServiceUuid) ()

/-- `_associate_all_services`. -/
def associateAllServices (services : Dict String ServiceConfig) : Body Directory DirdError Unit :=
  services.entries.foldlM (associateService server tenantUuid profileUuid) ()

/-- `count`. -/
def count : Operation Directory DirdError ℕ :=
  withSession (fetch fun d => WazoDird.ProfileCRUD.count lower d visibleTenants params)

/-- `create`. -/
def create : Operation Directory DirdError Uuid :=
  withSession do
    createDirectoryTenant tenantUuid
    let profile ← createProfile server tenantUuid body
    associateAllServices server tenantUuid profile.uuid body.services
    return profile.uuid

/-- `delete`. -/
def delete : Operation Directory DirdError Unit :=
  withFilter (buildFilter visibleTenants profileUuid) fun p =>
    (withSession (access fun d => .ok (d.dropProfiles p, d.profiles.any p))).andThen fun deleted =>
      if deleted then .ok () else .error (.noSuchProfileAPI profileUuid)

/-- `edit`. -/
def edit : Operation Directory DirdError Unit :=
  withFilter (buildFilter visibleTenants profileUuid) fun p => withSession do
    access fun d => .ok (d.dropProfileServices (·.profileUuid = profileUuid), ())
    match ← query fun d => server.profiles.first (d.profiles.filter p) with
    | none => raise (.noSuchProfileAPI profileUuid)
    | some profile =>
      match body.display with
      | none => raise (.python .keyError)
      | some display =>
        let profile' := { profile with
          name := body.name, displayUuid := some display
          displayTenantUuid := some profile.tenantUuid }
        let _ ← flushOrRaise (flushProfile (fun d => d.profiles.filter (·.uuid ≠ profile.uuid))
          (fun _ => profile') fun profile' d => { d with
            profiles := d.profiles.map fun b => if b.uuid = profile.uuid then profile' else b })
          (flushError body.name (some display))
        associateAllServices server profile.tenantUuid profileUuid body.services

/-- `get`. -/
def get : Operation Directory DirdError ProfileInfo :=
  withFilter (buildFilter visibleTenants profileUuid) fun p => withSession do
    match ← query fun d => server.profiles.first (d.profiles.filter p) with
    | none => raise (.noSuchProfileAPI profileUuid)
    | some profile => query fun d => dump server d profile

/-- `list_`. -/
def list : Operation Directory DirdError (List ProfileInfo) :=
  withSession do
    let rows ← fetch fun d => do
      takeTexts (listTexts visibleTenants params)
      return params.page (server.profiles.order
        (d.profiles.filter (listFilter lower visibleTenants params)))
    queryEach (fun row d => dump server d row) rows

/-- A call of an operation on profiles. -/
inductive Call where
  | count (visibleTenants : Option (List Uuid)) (params : DirectoryListParams)
  | create (tenantUuid : Uuid) (body : ProfileBody)
  | delete (visibleTenants : Option (List Uuid)) (profileUuid : Uuid)
  | edit (visibleTenants : Option (List Uuid)) (profileUuid : Uuid) (body : ProfileBody)
  | get (visibleTenants : Option (List Uuid)) (profileUuid : Uuid)
  | list (visibleTenants : Option (List Uuid)) (params : DirectoryListParams)

namespace Call

/-- What it answers. -/
def Answer : Call → Type
  | count .. => ℕ
  | create .. => Uuid
  | delete .. | edit .. => Unit
  | get .. => ProfileInfo
  | list .. => List ProfileInfo

/-- The call, as the accesses it makes. -/
def run : (call : Call) → Operation Directory DirdError call.Answer
  | count visibleTenants params => ProfileCRUD.count lower visibleTenants params
  | create tenantUuid body => ProfileCRUD.create server tenantUuid body
  | delete visibleTenants profileUuid => ProfileCRUD.delete visibleTenants profileUuid
  | edit visibleTenants profileUuid body => ProfileCRUD.edit server visibleTenants profileUuid body
  | get visibleTenants profileUuid => ProfileCRUD.get server visibleTenants profileUuid
  | list visibleTenants params => ProfileCRUD.list lower server visibleTenants params

/-- The call, as what it does to the tables. -/
def done (d : Directory) : (call : Call) → Except DirdError call.Answer × Directory
  | count visibleTenants params =>
    (WazoDird.ProfileCRUD.count lower d visibleTenants params, d)
  | create tenantUuid body => WazoDird.ProfileCRUD.create server d tenantUuid body
  | delete visibleTenants profileUuid => WazoDird.ProfileCRUD.delete d visibleTenants profileUuid
  | edit visibleTenants profileUuid body =>
    WazoDird.ProfileCRUD.edit server d visibleTenants profileUuid body
  | get visibleTenants profileUuid =>
    (WazoDird.ProfileCRUD.get server d visibleTenants profileUuid, d)
  | list visibleTenants params =>
    (WazoDird.ProfileCRUD.list server lower d visibleTenants params, d)

end Call

section Spec

variable {lower : String → String} {server : ProfileServer} {tenantUuid profileUuid : Uuid}

theorem passes_createService (name : String) : (createService server name).Passes := by
  refine (passes_fetch _).bind fun found => ?_
  cases found with
  | some service => exact passes_pure _
  | none => exact passes_access _

theorem passes_associateService (u : Unit) (entry : String × ServiceConfig) :
    (associateService server tenantUuid profileUuid u entry).Passes := by
  refine (passes_createService entry.1).bind fun _ => (passes_access _).bind fun _ => ?_
  exact passes_foldlM (fun _ _ => passes_flushOrRaise _ _) _ _

theorem passes_associateAllServices (services : Dict String ServiceConfig) :
    (associateAllServices server tenantUuid profileUuid services).Passes :=
  passes_foldlM passes_associateService _ _

/-- **Every operation on profiles reports an outage**, in whichever service
or source of the body it comes. -/
theorem reports_call (call : Call) : Reports (call.run lower server) := by
  cases call with
  | count => exact reports_withSession (passes_fetch _)
  | list => exact reports_withSession ((passes_fetch _).bind fun _ => passes_queryEach _ _)
  | create =>
    exact reports_withSession <| (passes_createTenantWith _).bind fun _ =>
      (passes_flushOrRaise _ _).bind fun _ =>
        (passes_associateAllServices _).bind fun _ => passes_pure _
  | delete =>
    exact reports_withFilter fun p drv d => (reports_withSession (passes_access _) drv d).andThen
  | edit visibleTenants profileUuid body =>
    refine reports_withFilter fun p => reports_withSession ((passes_access _).bind fun _ =>
      (passes_query _).bind fun found => ?_)
    cases found with
    | none => exact passes_raise _
    | some profile =>
      cases body.display with
      | none => exact passes_raise _
      | some display =>
        exact (passes_flushOrRaise _ _).bind fun _ => passes_associateAllServices _
  | get =>
    refine reports_withFilter fun p => reports_withSession ((passes_query _).bind fun found => ?_)
    cases found with
    | none => exact passes_raise _
    | some profile => exact passes_query _

/-! ### While the database is up -/

variable {c v : Directory}

/-- The flush of a profile, and what its handler makes of an integrity
error. -/
theorem gives_flushProfile (others : Directory → List Profile) (row : Directory → Profile)
    (write : Profile → Directory → Directory) :
    (flushOrRaise (flushProfile others row write)
      (flushError (row v).name (row v).displayUuid)).Gives c v
      ((WazoDird.ProfileCRUD.flush v (others v) (row v)).map fun _ =>
        (write (row v) v, row v)) := by
  have hflush := gives_flushOrRaise (c := c) (v := v) (flushProfile others row write)
    (flushError (row v).name (row v).displayUuid)
  suffices h : (flushProfile others row write v >>=
      fun r => r.mapError (flushError (row v).name (row v).displayUuid)) =
      (WazoDird.ProfileCRUD.flush v (others v) (row v)).map fun _ => (write (row v) v, row v) by
    rwa [h] at hflush
  unfold flushProfile WazoDird.ProfileCRUD.flush
  dsimp only
  generalize row v = profile
  cases textColumn profile.name with
  | error e => rfl
  | ok t =>
    simp only [bind, Except.bind]
    by_cases huuid : (others v).any (·.uuid = profile.uuid) = true
    · rw [if_pos huuid, raiseIf, if_pos huuid]
      rfl
    rw [if_neg huuid, raiseIf, if_neg huuid]
    by_cases hname : ((others v).any fun b =>
        b.name = profile.name && b.tenantUuid = profile.tenantUuid) = true
    · rw [if_pos hname, raiseIf, if_pos hname]
      rfl
    rw [if_neg hname, raiseIf, if_neg hname]
    cases profile.displayUuid with
    | none => rfl
    | some uuid =>
      simp only [Option.any_some]
      by_cases hthere : (v.displays.any fun b =>
          b.uuid = uuid && profile.displayTenantUuid = some b.tenantUuid) = true
      · rw [if_neg (by rw [hthere]; exact Bool.false_ne_true), raiseIf, if_neg (not_not.2 hthere)]
        rfl
      · rw [if_pos (by rw [Bool.eq_false_of_not_eq_true hthere]; rfl), raiseIf, if_pos hthere]
        rfl

/-- The profile of a body. -/
theorem gives_createProfile (body : ProfileBody) :
    (createProfile server tenantUuid body).Gives c v
      (WazoDird.ProfileCRUD.createProfile server v tenantUuid body) := by
  have hflush := gives_flushProfile (c := c) (v := v) Directory.profiles
    (fun d =>
      { uuid := server.uuids.generate (d.profiles.map Profile.uuid), tenantUuid := tenantUuid
        name := body.name, displayUuid := body.display, displayTenantUuid := some tenantUuid })
    fun profile d => { d with profiles := d.profiles ++ [profile] }
  rw [except_map_eq_bind] at hflush
  exact hflush

/-- The service of a name. -/
theorem gives_createService (name : String) : (createService server name).Gives c v
    (WazoDird.ProfileCRUD.createService server v name) := by
  have hfetch := gives_fetch (c := c) (v := v) fun d => do
    let name ← textColumn name
    return d.services.find? (·.name = name)
  unfold createService WazoDird.ProfileCRUD.createService
  by_cases hnull : '\x00' ∈ name.toList
  · rw [textColumn, if_pos hnull] at hfetch ⊢
    exact hfetch.bind_error
  · rw [textColumn, if_neg hnull] at hfetch ⊢
    refine hfetch.bind_ok ?_
    dsimp only [bind, Except.bind]
    cases v.services.find? (·.name = name) with
    | some service => exact gives_pure _
    | none => exact gives_access _

/-- A source of a service. -/
theorem gives_createProfileServiceSource (profileServiceUuid : Uuid) (u : Unit)
    (sourceUuid : Uuid) :
    (createProfileServiceSource tenantUuid profileServiceUuid u sourceUuid).Gives c v
      ((WazoDird.ProfileCRUD.createProfileServiceSource tenantUuid profileServiceUuid v
        sourceUuid).map fun d => (d, ())) := by
  have hflush := gives_flushOrRaise (c := c) (v := v)
    (flushSource tenantUuid profileServiceUuid sourceUuid) (sourceError sourceUuid)
  suffices h : (flushSource tenantUuid profileServiceUuid sourceUuid v >>=
      fun r => r.mapError (sourceError sourceUuid)) =
      (WazoDird.ProfileCRUD.createProfileServiceSource tenantUuid profileServiceUuid v
        sourceUuid).map fun d => (d, ()) by
    rwa [h] at hflush
  unfold flushSource WazoDird.ProfileCRUD.createProfileServiceSource
  by_cases hthere : (v.profileServiceSources.any fun a =>
      a.profileServiceUuid = profileServiceUuid && a.sourceUuid = sourceUuid) = true
  · rw [if_pos hthere, raiseIf, if_pos hthere]
    rfl
  rw [if_neg hthere, raiseIf, if_neg hthere]
  cases hsource : v.sources.any fun x => x.uuid = sourceUuid && x.tenantUuid = tenantUuid <;> rfl

/-- One service of a body. -/
theorem gives_associateService (u : Unit) (entry : String × ServiceConfig) :
    (associateService server tenantUuid profileUuid u entry).Gives c v
      ((WazoDird.ProfileCRUD.associateService server tenantUuid profileUuid v entry).map
        fun d => (d, ())) := by
  unfold associateService WazoDird.ProfileCRUD.associateService
  have hservice : (createService server entry.1).Gives c v
      ((WazoDird.ProfileCRUD.createService server v entry.1)) := gives_createService entry.1
  cases hmade : WazoDird.ProfileCRUD.createService server v entry.1 with
  | error e =>
    rw [hmade] at hservice
    exact hservice.bind_error
  | ok made =>
    rw [hmade] at hservice
    refine hservice.bind_ok ((gives_access _).bind_ok ?_)
    exact gives_foldlM (fun _ sourceUuid => gives_createProfileServiceSource _ () sourceUuid) _ _

/-- **The services of a body.** -/
theorem gives_associateAllServices (services : Dict String ServiceConfig) :
    (associateAllServices server tenantUuid profileUuid services).Gives c v
      ((WazoDird.ProfileCRUD.associateAllServices server v tenantUuid profileUuid services).map
        fun d => (d, ())) :=
  gives_foldlM (fun _ entry => gives_associateService () entry) _ _

section Does

variable (d : Directory) (visibleTenants : Option (List Uuid)) (body : ProfileBody)

theorem does_create (tenantUuid : Uuid) : (create server tenantUuid body).Does d
    (WazoDird.ProfileCRUD.create server d tenantUuid body) := by
  rw [WazoDird.ProfileCRUD.create, ← closed_eq_directory_newSession]
  refine does_withSession ((gives_createDirectoryTenant d tenantUuid).bind_ok ?_)
  refine (gives_createProfile body).bind fun v' profile _ => ?_
  exact (gives_associateAllServices body.services).bind_map fun _ _ => gives_pure _

theorem does_delete (profileUuid : Uuid) : (delete visibleTenants profileUuid).Does d
    (WazoDird.ProfileCRUD.delete d visibleTenants profileUuid) := by
  unfold delete WazoDird.ProfileCRUD.delete
  cases buildFilter visibleTenants profileUuid with
  | error e => exact Operation.does_fail e
  | ok p => exact (does_withSession (gives_access _)).andThen

theorem does_edit (profileUuid : Uuid) : (edit server visibleTenants profileUuid body).Does d
    (WazoDird.ProfileCRUD.edit server d visibleTenants profileUuid body) := by
  unfold edit WazoDird.ProfileCRUD.edit
  cases buildFilter visibleTenants profileUuid with
  | error e => exact Operation.does_fail e
  | ok p =>
    dsimp only
    rw [← closed_eq_directory_newSession]
    refine does_withSession ((gives_access _).bind_ok ((gives_query _).bind_ok ?_))
    cases server.profiles.first
        ((d.dropProfileServices (·.profileUuid = profileUuid)).profiles.filter p) with
    | none => exact gives_raise _
    | some profile =>
      cases hdisplay : body.display with
      | none => exact gives_raise _
      | some display =>
        have hflush := gives_flushProfile (c := d)
          (v := d.dropProfileServices (·.profileUuid = profileUuid))
          (fun d => d.profiles.filter (·.uuid ≠ profile.uuid))
          (fun _ => { profile with
            name := body.name, displayUuid := some display
            displayTenantUuid := some profile.tenantUuid })
          fun profile' d => { d with
            profiles := d.profiles.map fun b => if b.uuid = profile.uuid then profile' else b }
        dsimp only at hflush ⊢
        cases hx : WazoDird.ProfileCRUD.flush (d.dropProfileServices (·.profileUuid = profileUuid))
            ((d.dropProfileServices (·.profileUuid = profileUuid)).profiles.filter
              (·.uuid ≠ profile.uuid))
            { profile with
              name := body.name, displayUuid := some display
              displayTenantUuid := some profile.tenantUuid } with
        | error e =>
          rw [hx] at hflush
          exact hflush.bind_error
        | ok u =>
          rw [hx] at hflush
          refine hflush.bind_ok ?_
          exact except_map_eq_bind ▸ gives_associateAllServices body.services

theorem does_get (profileUuid : Uuid) : (get server visibleTenants profileUuid).Does d
    (WazoDird.ProfileCRUD.get server d visibleTenants profileUuid, d) := by
  unfold get WazoDird.ProfileCRUD.get
  cases buildFilter visibleTenants profileUuid with
  | error e => exact Operation.does_fail e
  | ok p =>
    refine does_read ((gives_query _).bind_ok ?_)
    dsimp only [bind, Except.bind]
    cases server.profiles.first (d.profiles.filter p) with
    | none => exact gives_raise _
    | some profile => exact gives_query _

end Does

/-- **While the database is up, an operation on profiles does what it does
to the tables.** -/
theorem does_call (call : Call) (d : Directory) :
    (call.run lower server).Does d (call.done lower server d) := by
  cases call with
  | count => exact does_fetch _ d
  | create tenantUuid body => exact does_create d body tenantUuid
  | delete visibleTenants profileUuid => exact does_delete d visibleTenants profileUuid
  | edit visibleTenants profileUuid body => exact does_edit d visibleTenants body profileUuid
  | get visibleTenants profileUuid => exact does_get d visibleTenants profileUuid
  | list => exact does_page _ _ _ d

end Spec

end ProfileCRUD

end Driven

end WazoDird
