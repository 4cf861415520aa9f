import WazoDird.Database.Queries.Display

/-!
# Profiles

`database/queries/profile.py`. A profile is a row, one row for each of
its services, which hold their options, and one for each source of a
service. It is created and edited by different code: an edition deletes
the services of the profile and then, like a creation, makes those of the
body.
-/

namespace WazoDird

/-- What a body says of a service: its sources, and what is kept of the
rest. -/
structure ServiceConfig where
  config : Dict String Value := ∅
  sources : List Uuid := []
  deriving DecidableEq

/-- What a request says of a profile. It may have no display. -/
structure ProfileBody where
  name : String
  display : Option Uuid := none
  services : Dict String ServiceConfig := ∅
  deriving DecidableEq

/-- `SourceSchema`: a source as a profile shows it. A name that cannot be
read is left out. -/
structure ProfileSourceInfo where
  uuid : Uuid
  tenantUuid : Uuid
  backend : String
  name : Option String
  deriving DecidableEq, Repr

/-- A service as a profile shows it: what is kept of its body, and its
sources. -/
structure ServiceInfo where
  config : Dict String Value
  sources : List ProfileSourceInfo
  deriving DecidableEq

/-- `ProfileSchema`: a profile as the services see it. -/
structure ProfileInfo where
  uuid : Uuid
  tenantUuid : Uuid
  name : String
  display : Option DisplayInfo
  services : Dict String ServiceInfo
  deriving DecidableEq

/-- What the server leaves open in an operation on profiles: the uuids it
gives, and the orders in which it answers. -/
structure ProfileServer where
  uuids : UuidServer
  profiles : RowOrder Profile := .asStored
  columns : RowOrder DisplayColumnRow := .asStored
  profileServices : RowOrder ProfileService := .asStored
  profileServiceSources : RowOrder ProfileServiceSource := .asStored

/-- A server that answers in the order of its tables. -/
def ProfileServer.plain : ProfileServer where
  uuids := .longest

/-- What a text column keeps: the driver refuses a null character. -/
def textColumn (s : String) : Except DirdError String :=
  if '\x00' ∈ s.toList then .error (.python .valueError) else .ok s

namespace ProfileCRUD

variable (server : ProfileServer)

/-! ## What a profile shows -/

/-- `profile.display`. -/
def displayOf (d : Directory) (profile : Profile) : Option Display :=
  d.displays.find? fun b =>
    profile.displayUuid = some b.uuid && profile.displayTenantUuid = some b.tenantUuid

/-- `profile_service.sources`. -/
def sourcesOf (d : Directory) (service : ProfileService) : List ProfileSourceInfo :=
  let rows := server.profileServiceSources.order (d.profileServiceSources.filter fun a =>
    a.profileServiceUuid = service.uuid && a.profileTenantUuid = service.profileTenantUuid)
  rows.filterMap fun a =>
    (d.sources.find? a.isOf).map fun x =>
      { uuid := x.uuid, tenantUuid := x.tenantUuid, backend := x.backend
        name := d.sourceName x }

/-- `profile.services`, each under the name of its service. -/
def servicesOf (d : Directory) (profile : Profile) : Dict String ServiceInfo :=
  let rows := server.profileServices.order (d.profileServices.filter fun s =>
    s.profileUuid = profile.uuid && s.profileTenantUuid = profile.tenantUuid)
  Dict.ofList <| rows.filterMap fun s =>
    (d.services.find? (·.uuid = s.serviceUuid)).map fun service =>
      (service.name, { config := s.config, sources := sourcesOf server d s })

/-- `ProfileSchema.dump`. -/
def dump (d : Directory) (profile : Profile) : ProfileInfo where
  uuid := profile.uuid
  tenantUuid := profile.tenantUuid
  name := profile.name
  display := (displayOf d profile).map (DisplayCRUD.dump server.columns d)
  services := servicesOf server d profile

/-! ## Reads -/

/-- `_build_filter`. An empty tenant list finds no profile. -/
def buildFilter (visibleTenants : Option (List Uuid)) (profileUuid : Uuid) :
    Except DirdError (Profile → Bool) :=
  match visibleTenants with
  | some [] => .error (.noSuchProfileAPI profileUuid)
  | some tenants => .ok fun b => b.uuid = profileUuid && b.tenantUuid ∈ tenants
  | none => .ok fun b => b.uuid = profileUuid

/-- `_list_filter`. -/
def listFilter (lower : String → String) (visibleTenants : Option (List Uuid))
    (params : DirectoryListParams) (b : Profile) : Bool :=
  visibleTenants.elim true (b.tenantUuid ∈ ·) &&
    params.uuid.elim true (b.uuid = ·) &&
    params.name.elim true (b.name = ·) &&
    params.search.elim true fun search => ilike lower ("%" ++ search ++ "%") b.name

/-- The texts of a listing's filter: in the scope of no tenant it is
`false`. -/
def listTexts (visibleTenants : Option (List Uuid)) (params : DirectoryListParams) :
    List String :=
  if visibleTenants = some [] then [] else params.texts

/-- `count`. -/
def count (lower : String → String) (d : Directory) (visibleTenants : Option (List Uuid))
    (params : DirectoryListParams) : Except DirdError ℕ := do
  takeTexts (listTexts visibleTenants params)
  return (d.profiles.filter (listFilter lower visibleTenants params)).length

/-- `list_`. -/
def list (lower : String → String) (d : Directory) (visibleTenants : Option (List Uuid))
    (params : DirectoryListParams) : Except DirdError (List ProfileInfo) := do
  takeTexts (listTexts visibleTenants params)
  return (params.page (server.profiles.order
    (d.profiles.filter (listFilter lower visibleTenants params)))).map (dump server d)

/-- `get`. -/
def get (d : Directory) (visibleTenants : Option (List Uuid)) (profileUuid : Uuid) :
    Except DirdError ProfileInfo := do
  let p ← buildFilter visibleTenants profileUuid
  match server.profiles.first (d.profiles.filter p) with
  | none => .error (.noSuchProfileAPI profileUuid)
  | some profile => .ok (dump server d profile)

/-! ## Writes -/

/-- The flush of a profile row: its name and its display against the
constraints of `dird_profile`. -/
def flush (d : Directory) (others : List Profile) (profile : Profile) : Except DirdError Unit := do
  let _ ← textColumn profile.name
  raiseIf (others.any (·.uuid = profile.uuid)) .integrity
  raiseIf (others.any fun b => b.name = profile.name && b.tenantUuid = profile.tenantUuid)
    (.duplicatedProfile profile.name)
  match profile.displayUuid with
  | none => .ok ()
  | some uuid =>
    raiseIf (¬ d.displays.any fun b => b.uuid = uuid &&
      profile.displayTenantUuid = some b.tenantUuid) (.noSuchDisplay uuid)

/-- `_create_profile`. -/
def createProfile (d : Directory) (tenantUuid : Uuid) (body : ProfileBody) :
    Except DirdError (Directory × Profile) := do
  let profile : Profile :=
    { uuid := server.uuids.generate (d.profiles.map Profile.uuid), tenantUuid := tenantUuid
      name := body.name, displayUuid := body.display, displayTenantUuid := some tenantUuid }
  flush d d.profiles profile
  return ({ d with profiles := d.profiles ++ [profile] }, profile)

/-- `_create_service`: the service of a name, which is made when there is
none. -/
def createService (d : Directory) (name : String) : Except DirdError (Directory × Uuid) := do
  let name ← textColumn name
  match d.services.find? (·.name = name) with
  | some service => return (d, service.uuid)
  | none =>
    let service : Service :=
      { uuid := server.uuids.generate (d.services.map Service.uuid), name := name }
    return ({ d with services := d.services ++ [service] }, service.uuid)

/-- `_create_profile_service`. -/
def createProfileService (d : Directory) (tenantUuid profileUuid serviceUuid : Uuid)
    (config : ServiceConfig) : Directory × Uuid :=
  let service : ProfileService :=
    { uuid := server.uuids.generate (d.profileServices.map ProfileService.uuid)
      profileUuid := profileUuid, profileTenantUuid := tenantUuid, serviceUuid := serviceUuid
      config := config.config }
  ({ d with profileServices := d.profileServices ++ [service] }, service.uuid)

/-- `_create_profile_service_source`: the row against the primary key of
`dird_profile_service_source`, and against the sources of the tenant. -/
def createProfileServiceSource (tenantUuid profileServiceUuid : Uuid) (d : Directory)
    (sourceUuid : Uuid) : Except DirdError Directory := do
  raiseIf (d.profileServiceSources.any fun a =>
    a.profileServiceUuid = profileServiceUuid && a.sourceUuid = sourceUuid) .integrity
  raiseIf (¬ d.sources.any fun x => x.uuid = sourceUuid && x.tenantUuid = tenantUuid)
    (.noSuchSource sourceUuid)
  return { d with
    profileServiceSources := d.profileServiceSources ++
      [{ profileServiceUuid := profileServiceUuid, profileTenantUuid := tenantUuid
         sourceUuid := sourceUuid, sourceTenantUuid := tenantUuid }] }

/-- One service of a body. -/
def associateService (tenantUuid profileUuid : Uuid) (d : Directory)
    (entry : String × ServiceConfig) : Except DirdError Directory := do
  let (d, serviceUuid) ← createService server d entry.1
  let (d, profileServiceUuid) :=
    createProfileService server d tenantUuid profileUuid serviceUuid entry.2
  entry.2.sources.foldlM (createProfileServiceSource tenantUuid profileServiceUuid) d

/-- `_associate_all_services`. -/
def associateAllServices (d : Directory) (tenantUuid profileUuid : Uuid)
    (services : Dict String ServiceConfig) : Except DirdError Directory :=
  services.entries.foldlM (associateService server tenantUuid profileUuid) d

/-- `create`: what is returned beside the body is the uuid. -/
def create (d : Directory) (tenantUuid : Uuid) (body : ProfileBody) :
    Except DirdError Uuid × Directory :=
  d.newSession <| do
    let (d, profile) ← createProfile server (d.createTenant tenantUuid) tenantUuid body
    let d ← associateAllServices server d tenantUuid profile.uuid body.services
    return (d, profile.uuid)

/-- `delete`. Deleting no row raises, once the session is over. -/
def delete (d : Directory) (visibleTenants : Option (List Uuid)) (profileUuid : Uuid) :
    Except DirdError Unit × Directory :=
  match buildFilter visibleTenants profileUuid with
  | .error e => (.error e, d)
  | .ok p =>
    (if d.profiles.any p then .ok () else .error (.noSuchProfileAPI profileUuid), d.dropProfiles p)

/-- `edit`: `body['display']['uuid']` is read of a body that may have no
display. -/
def edit (d : Directory) (visibleTenants : Option (List Uuid)) (profileUuid : Uuid)
    (body : ProfileBody) : Except DirdError Unit × Directory :=
  match buildFilter visibleTenants profileUuid with
  | .error e => (.error e, d)
  | .ok p => d.newSession <| do
    let d := d.dropProfileServices (·.profileUuid = profileUuid)
    match server.profiles.first (d.profiles.filter p) with
    | none => .error (.noSuchProfileAPI profileUuid)
    | some profile =>
      match body.display with
      | none => .error (.python .keyError)
      | some display =>
        let profile' := { profile with
          name := body.name, displayUuid := some display
          displayTenantUuid := some profile.tenantUuid }
        flush d (d.profiles.filter (·.uuid ≠ profile.uuid)) profile'
        let d := { d with
          profiles := d.profiles.map fun b => if b.uuid = profile.uuid then profile' else b }
        let d ← associateAllServices server d profile.tenantUuid profileUuid body.services
        return (d, ())

end ProfileCRUD

/-- `_ProfileService.get_by_name`: the first of the profiles of a name. -/
def ProfileService.getByName (server : ProfileServer) (lower : String → String) (d : Directory)
    (tenantUuid : Uuid) (name : String) : Except DirdError ProfileInfo := do
  match ← ProfileCRUD.list server lower d (some [tenantUuid]) { name := some name } with
  | profile :: _ => .ok profile
  | [] => .error (.noSuchProfile name)

end WazoDird
