import WazoDird.Database.Queries.Profile

/-!
# The services that ask the sources of a profile

`BaseService` of `helpers.py`: what the lookup, reverse and favorites
services have in common. The profile is as its service reads it; the
sources are asked of the source manager one after the other, and those it
does not have are passed over.
-/

namespace WazoDird

namespace BaseService

variable {σ : Type*}

/-- `get_service_config`: a profile that does not have the service has
nothing of it. -/
def getServiceConfig (profile : ProfileInfo) (serviceName : String) : ServiceInfo :=
  (profile.services.get? serviceName).getD ⟨∅, []⟩

/-- `source_from_profile`, by what the source manager answers for each
uuid. -/
def sourceFromProfile (manager : Uuid → Option σ) (profile : ProfileInfo)
    (serviceName : String) : List σ :=
  (getServiceConfig profile serviceName).sources.filterMap fun source => manager source.uuid

/-- `service_config.get('options') or {}`, which the schema of a profile
makes a dictionary, and of it `.get('timeout')`. -/
def timeoutOption (config : ServiceInfo) : Value :=
  match config.config.get? "options" with
  | some (.dict options) => ((options.find? (·.1 = "timeout")).map Prod.snd).getD .none
  | _ => .none

end BaseService

/-- The `args` a source is asked with: who asks, and with which token. -/
structure SourceArgs where
  token : Option String
  userUuid : Option Uuid
  /-- The same, for the plugins that read it under this name. -/
  xivoUserUuid : Option Uuid
  deriving DecidableEq, Repr

/-- The `args` a service makes for a request that has none. -/
def SourceArgs.ofRequest (token : Option String) (userUuid : Option Uuid) : SourceArgs where
  token := token
  userUuid := userUuid
  xivoUserUuid := userUuid

end WazoDird
