import WazoDird.Database.Queries.Profile
import WazoDird.Database.Queries.Source

/-!
# The tenant-created events

`plugins/config_service/plugin.py`: what a new tenant is given. The
handler makes five sources, a display and a profile, each in a
transaction of its own. What one of them raises is logged, and the
handler goes on without it; and the process may stop between any two.
-/

namespace WazoDird

/-- The `data` of a tenant-created event. The name is as the handler's
f-strings show it. -/
structure TenantEvent where
  uuid : Uuid
  name : String
  deriving DecidableEq, Repr

namespace ConfigService

/-! ## What is made -/

/-- `DEFAULT_DISPLAY_COLUMNS`. -/
def defaultDisplayColumns : List DisplayColumnBody :=
  [{ field := some "name", title := some "Nom", type := some "name" },
    { field := some "firstname", title := some "Prénom", type := some "firstname" },
    { field := some "lastname", title := some "Nom de famille", type := some "lastname" },
    { field := some "phone", title := some "Numéro", type := some "number"
      numberDisplay := some "\x7bname\x7d" },
    { field := some "phone_mobile", title := some "Mobile", type := some "number"
      numberDisplay := some "\x7bname\x7d (mobile)" },
    { field := some "voicemail", title := some "Boîte vocale", type := some "voicemail" },
    { field := some "favorite", title := some "Favoris", type := some "favorite" },
    { field := some "email", title := some "E-mail", type := some "email" }]

/-- The `auth` of the automatic sources, which read one key file or
another. -/
def auth (keyFile : String) : Value :=
  .dict [("host", .str "localhost"), ("port", .int 9497), ("prefix", .none),
    ("https", .bool false), ("key_file", .str keyFile), ("version", .str "0.1")]

/-- The `confd` of the automatic sources. -/
def confd : Value :=
  .dict [("host", .str "localhost"), ("port", .int 9486), ("prefix", .none),
    ("https", .bool false), ("version", .str "1.1")]

/-- The key file of the Wazo, Office 365 and Google backends. -/
def wazoKeyFile : String := "/var/lib/wazo-auth-keys/wazo-dird-wazo-backend-key.yml"

/-- `CONFERENCE_SOURCE_BODY`. -/
def conferenceSourceBody : SourceBody where
  searchedColumns := ["name", "extensions", "incalls"]
  firstMatchedColumns := ["extensions", "incalls"]
  formatColumns := Dict.ofList [("phone", "\x7bextensions[0]\x7d"), ("reverse", "\x7bname\x7d")]
  extraFields := Dict.ofList
    [("auth", auth "/var/lib/wazo-auth-keys/wazo-dird-conference-backend-key.yml"),
      ("confd", confd)]

/-- `PERSONAL_SOURCE_BODY`. -/
def personalSourceBody : SourceBody where
  name := some "personal"
  searchedColumns := ["firstname", "lastname", "number", "mobile", "fax"]
  firstMatchedColumns := ["number", "mobile"]
  formatColumns := Dict.ofList
    [("phone", "\x7bnumber\x7d"), ("name", "\x7bfirstname\x7d \x7blastname\x7d"),
      ("phone_mobile", "\x7bmobile\x7d"), ("reverse", "\x7bfirstname\x7d \x7blastname\x7d")]

/-- `WAZO_SOURCE_BODY`. -/
def wazoSourceBody : SourceBody where
  searchedColumns := ["firstname", "lastname", "full_name", "exten"]
  firstMatchedColumns := ["exten", "mobile_phone_number"]
  formatColumns := Dict.ofList
    [("phone", "\x7bexten\x7d"), ("name", "\x7bfirstname\x7d \x7blastname\x7d"),
      ("reverse", "\x7bfirstname\x7d \x7blastname\x7d")]
  extraFields := Dict.ofList [("auth", auth wazoKeyFile), ("confd", confd)]

/-- `OFFICE_365_SOURCE_BODY`. -/
def office365SourceBody : SourceBody where
  searchedColumns := ["givenName", "surname", "businessPhones", "homePhones", "mobilePhone"]
  firstMatchedColumns := ["businessPhones", "mobilePhone", "homePhones"]
  formatColumns := Dict.ofList
    [("name", "\x7bgivenName\x7d \x7bsurname\x7d"), ("phone_mobile", "\x7bmobilePhone\x7d"),
      ("reverse", "\x7bgivenName\x7d \x7bsurname\x7d"),
      ("phone", "\x7bnumbers_except_label[mobilePhone][0]\x7d")]
  extraFields := Dict.ofList
    [("auth", auth wazoKeyFile),
      ("endpoint", .str "https://graph.microsoft.com/v1.0/me/contacts")]

/-- `GOOGLE_SOURCE_BODY`. -/
def googleSourceBody : SourceBody where
  searchedColumns := ["name", "numbers", "familyName", "givenName"]
  firstMatchedColumns := ["numbers"]
  formatColumns := Dict.ofList
    [("phone_mobile", "\x7bnumbers_by_label[mobile]\x7d"), ("reverse", "\x7bname\x7d"),
      ("phone", "\x7bnumbers_except_label[mobile][0]\x7d")]
  extraFields := Dict.ofList [("auth", auth wazoKeyFile)]

/-- The name an automatic row is given. -/
def autoName (kind name : String) : String := "auto_" ++ kind ++ "_" ++ name

/-- A body under the name of its backend. -/
def named (backend name : String) (body : SourceBody) : String × SourceBody :=
  (backend, { body with name := some (autoName backend name) })

/-- The sources of `_auto_create_sources`, each with its backend, in
turn. -/
def autoSources (name : String) : List (String × SourceBody) :=
  [named "conference" name conferenceSourceBody, ("personal", personalSourceBody),
    named "wazo" name wazoSourceBody, named "office365" name office365SourceBody,
    named "google" name googleSourceBody]

/-- The body of `_auto_create_display`. -/
def autoDisplay (name : String) : DisplayBody where
  name := "auto_" ++ name
  columns := defaultDisplayColumns

/-- The body of `_auto_create_profile`. -/
def autoProfile (display : Option Uuid) (sources : List Uuid) : ProfileBody where
  name := "default"
  display := display
  services := Dict.ofList
    [("lookup", { sources := sources }), ("favorites", { sources := sources }),
      ("reverse", { sources := sources
                    config := Dict.ofList [("options", .dict [("timeout", .float (1 / 2))])] })]

/-! ## How it is made -/

variable (server : ProfileServer) (tenantUuid : Uuid)

/-- `_add_source`: what the creation raises leaves no source. -/
def addSource (d : Directory) (entry : String × SourceBody) : Option Uuid × Directory :=
  match SourceCRUD.create d.toDatabase ⟨server.uuids.generate d.sourceUuids, ""⟩ entry.1
      tenantUuid entry.2 with
  | (.ok source, db) => (some source.uuid, { d with toDatabase := db })
  | (.error _, db) => (none, { d with toDatabase := db })

/-- `_auto_create_sources`: the sources that were made. -/
def autoCreateSources : Directory → List (String × SourceBody) → List Uuid × Directory
  | d, [] => ([], d)
  | d, entry :: entries =>
    let (source, d) := addSource server tenantUuid d entry
    let (sources, d) := autoCreateSources d entries
    (source.toList ++ sources, d)

/-- `_auto_create_display`: what the creation raises leaves no display. -/
def autoCreateDisplay (d : Directory) (name : String) : Option Uuid × Directory :=
  match DisplayCRUD.create server.uuids server.columns d tenantUuid (autoDisplay name) with
  | (.ok display, d) => (some display.uuid, d)
  | (.error _, d) => (none, d)

/-- `_auto_create_profile`. -/
def autoCreateProfile (d : Directory) (display : Option Uuid) (sources : List Uuid) : Directory :=
  (ProfileCRUD.create server d tenantUuid (autoProfile display sources)).2

end ConfigService

/-- **A handling of an event**: how many of its seven steps it takes before
it stops, the seventh being the last. -/
structure Handling where
  event : TenantEvent
  server : ProfileServer
  steps : ℕ

/-- `_on_new_tenant_event`, as far as a handling takes it. -/
def ConfigService.onNewTenantEvent (h : Handling) (d : Directory) : Directory :=
  let (sources, d) := autoCreateSources h.server h.event.uuid d
    ((autoSources h.event.name).take h.steps)
  if h.steps ≤ 5 then d
  else
    let (display, d) := autoCreateDisplay h.server h.event.uuid d h.event.name
    if h.steps ≤ 6 then d
    else autoCreateProfile h.server h.event.uuid d display sources

/-- The database, and the events handled to the end so far. -/
structure TenantsState where
  directory : Directory
  handled : List TenantEvent := []

/-- A handling. -/
def TenantsState.exec (s : TenantsState) (h : Handling) : TenantsState where
  directory := ConfigService.onNewTenantEvent h s.directory
  handled := if h.steps ≤ 6 then s.handled else s.handled ++ [h.event]

end WazoDird
