import WazoDird.Services.Model

/-!
# The clients of confd

`plugin_helpers/confd_client_registry.py`, and what goes through it: the
`load` of the user and conference plugins, and the listing of the contacts
of one of their sources. A client and the renewer of its token are made
from the configuration a source has when they are first asked for, and
kept under the uuid of the source. The registry is not the cache of the
source manager, and what an edition invalidates there is not here.
-/

namespace WazoDird

/-- A client of confd: what it was made with, and the tenant it was set
to. -/
structure MadeConfdClient where
  confd : Dict String Value
  tenantUuid : Option Uuid := none
  deriving DecidableEq

/-- A token renewer: what its client was made with. -/
structure TokenRenewer where
  auth : Dict String Value
  deriving DecidableEq

/-- `RegisteredClient`. -/
structure RegisteredClient where
  client : MadeConfdClient
  tokenRenewer : TokenRenewer
  deriving DecidableEq

/-- `_Registry`: the clients, and the renewers that were started and not
stopped, each with the source it was started for. -/
structure Registry where
  clients : Dict Uuid RegisteredClient := ∅
  running : List (Uuid × TokenRenewer) := []

/-- `parse_config_file`: what is read of a key file. -/
abbrev KeyFiles := Value → Dict String Value

/-- A mapping, as keyword arguments and `dict` take one. -/
def Value.mapping : Value → Except PyError (Dict String Value)
  | .dict l => .ok (Dict.ofList l)
  | _ => .error .typeError

/-- `d[key]`. -/
def Dict.item {α : Type} (d : Dict String α) (key : String) : Except PyError α :=
  (d.get? key).elim (.error .keyError) .ok

namespace Registry

/-- What `_add_client` makes of a configuration: nothing when its key file
is not read. -/
def addClient (keyFiles : KeyFiles) (tenantUuid : Uuid) (config : Dict String Value) :
    Except PyError (Option RegisteredClient) := do
  let confd ← (← config.item "confd").mapping
  let auth ← (← config.item "auth").mapping
  match (auth.get? "key_file").filter Value.truthy with
  | none => return some { client := { confd := confd }, tokenRenewer := { auth := auth } }
  | some path =>
    let keyFile := keyFiles path
    if keyFile.isEmpty then return none
    let username ← keyFile.item "service_id"
    let password ← keyFile.item "service_key"
    let auth := ((auth.erase "key_file").set "username" username).set "password" password
    return some {
      client := { confd := confd, tenantUuid := some tenantUuid }
      tokenRenewer := { auth := auth } }

/-- **`get`**: the client of the source, made when there is none. -/
def get (keyFiles : KeyFiles) (registry : Registry) (config : SourceInfo) :
    Except PyError MadeConfdClient × Registry :=
  match registry.clients.get? config.uuid with
  | some registered => (.ok registered.client, registry)
  | none =>
    match addClient keyFiles config.tenantUuid config.extraFields with
    | .error e => (.error e, registry)
    | .ok none => (.error .keyError, registry)
    | .ok (some registered) =>
      (.ok registered.client,
        { clients := registry.clients.set config.uuid registered
          running := registry.running ++ [(config.uuid, registered.tokenRenewer)] })

end Registry

/-- The database, the plugins the source manager holds, the registry, and
the client each plugin holds, under the moment its configuration was
read. -/
structure ConfdState extends ServiceState where
  clock : ℕ := 0
  registry : Registry := {}
  held : Dict ℕ MadeConfdClient := ∅

/-- The backends whose plugins ask the registry for a client. -/
def usesConfd (backend : String) : Bool := backend = "wazo" || backend = "conference"

/-- **`SourceManager.get`**, whose plugins ask for a client when they are
loaded: a plugin whose client cannot be had does not load. -/
def ConfdState.get (installed : String → Bool) (a : ServiceAnswers) (keyFiles : KeyFiles)
    (s : ConfdState) (sourceUuid : Uuid) : Except DirdError (Option Plugin) × ConfdState :=
  let manager (raises : Bool) :=
    SourceManager.get installed raises s.clock a.rows s.db s.sources sourceUuid
  match s.sources.cached sourceUuid, SourceCRUD.getByUuid a.rows s.db sourceUuid with
  | none, .ok config =>
    if installed config.backend && usesConfd config.backend then
      match s.registry.get keyFiles config with
      | (.error _, registry) =>
        let (r, sources) := manager true
        (r, { s with sources := sources, clock := s.clock + 1, registry := registry })
      | (.ok client, registry) =>
        let (r, sources) := manager a.raises
        (r, { s with
          sources := sources, clock := s.clock + 1, registry := registry
          held := s.held.set s.clock client })
    else
      let (r, sources) := manager a.raises
      (r, { s with sources := sources, clock := s.clock + 1 })
  | _, _ =>
    let (r, sources) := manager a.raises
    (r, { s with sources := sources, clock := s.clock + 1 })

/-- The listing of the contacts of a source, `WazoContactList.get` and
`ConferenceContactList.get`, up to the client it asks. -/
def ConfdState.listContacts (rows : RowOrder Source) (keyFiles : KeyFiles) (s : ConfdState)
    (backend : String) (sourceUuid : Uuid) (visibleTenants : List Uuid) :
    Except DirdError MadeConfdClient × ConfdState :=
  match SourceCRUD.get rows s.db backend sourceUuid (some visibleTenants) with
  | .error e => (.error e, s)
  | .ok config =>
    match s.registry.get keyFiles config with
    | (.error e, registry) => (.error (.python e), { s with registry := registry })
    | (.ok client, registry) => (.ok client, { s with registry := registry })

/-- **A call**, with what it answered. -/
inductive ConfdCall where
  | get (sourceUuid : Uuid) (result : Except DirdError (Option Plugin))
  | listContacts (backend : String) (sourceUuid : Uuid) (visibleTenants : List Uuid)
      (result : Except DirdError MadeConfdClient)
  | createSource (backend : String) (tenantUuid : Uuid) (body : SourceBody)
      (result : Except DirdError SourceInfo)
  | editSource (backend : String) (sourceUuid : Uuid) (visibleTenants : List Uuid)
      (body : SourceBody) (result : Except DirdError SourceInfo)
  | deleteSource (backend : String) (sourceUuid : Uuid) (visibleTenants : List Uuid)
      (result : Except DirdError Unit)

/-- **One call**, under some answers of the world. -/
inductive ConfdStep (installed : String → Bool) : ConfdState → ConfdCall → ConfdState → Prop
  | get {s u r s'} (a : ServiceAnswers) (keyFiles : KeyFiles)
      (h : s.get installed a keyFiles u = (r, s')) : ConfdStep installed s (.get u r) s'
  | listContacts {s backend u tenants r s'} (rows : RowOrder Source) (keyFiles : KeyFiles)
      (hb : usesConfd backend = true)
      (h : s.listContacts rows keyFiles backend u tenants = (r, s')) :
      ConfdStep installed s (.listContacts backend u tenants r) s'
  | createSource {s backend tenant body r t} (a : ServiceAnswers)
      (h : SourceService.create a s.toServiceState backend tenant body = (r, t)) :
      ConfdStep installed s (.createSource backend tenant body r) { s with toServiceState := t }
  | editSource {s backend u tenants body r t} (a : ServiceAnswers)
      (h : SourceService.edit a s.toServiceState backend u tenants body = (r, t)) :
      ConfdStep installed s (.editSource backend u tenants body r) { s with toServiceState := t }
  | deleteSource {s backend u tenants r t}
      (h : SourceService.delete s.toServiceState backend u tenants = (r, t)) :
      ConfdStep installed s (.deleteSource backend u tenants r) { s with toServiceState := t }

end WazoDird
