import WazoDird.Database.Directory
import WazoDird.Database.Queries.ContactRows

/-!
# Tenants

`database/queries/tenant.py`: a tenant is looked up, and created with its
country or given another.
-/

namespace WazoDird

/-- `TenantDict`, as a tenant is edited with it: the country may be
missing, and it may be none. -/
structure TenantBody where
  country : Option (Option String) := none
  deriving DecidableEq, Repr

namespace TenantCRUD

variable (server : UuidServer)

/-- `_get`. No tenant has no uuid. -/
def getTenant (uuid : Option Uuid) (db : Database) : Except DirdError Tenant :=
  match db.tenants.find? (fun t => some t.uuid = uuid) with
  | none => .error (.noSuchTenant uuid)
  | some tenant => .ok tenant

/-- What the column of the country keeps. -/
def countryColumn (country : Option String) : Except DirdError (Option String) :=
  country.elim (.ok none) fun country => (stringColumn 2 country).map some

/-- The flush of a new tenant. Its uuid is the one given, or the server's. -/
def insertRow (uuid : Option Uuid) (country : Option String) (db : Database) :
    Except DirdError (Database × Tenant) := do
  let row ← stringColumn 36 (uuid.getD (server.generate (db.tenants.map Tenant.uuid)))
  let kept ← countryColumn country
  raiseIf (db.tenants.any (·.uuid = row)) .integrity
  return ({ db with tenants := db.tenants ++ [{ uuid := row, country := kept }] },
    { uuid := uuid.getD row, country := country })

/-- The flush of a tenant that is there, and has another country. -/
def updateCountry (tenant : Tenant) (country : Option String) (db : Database) :
    Except DirdError (Database × Unit) := do
  let kept ← countryColumn country
  return ({ db with
    tenants := db.tenants.map fun t =>
      if t.uuid = tenant.uuid then { t with country := kept } else t }, ())

/-- `create_or_edit`. A body without a country leaves a tenant that is
there as it is; of one that is not there, no tenant is bound to return. -/
def createOrEdit (db : Database) (uuid : Option Uuid) (body : TenantBody) :
    Except DirdError Tenant × Database :=
  newSession db <|
    match getTenant uuid db, body.country with
    | .error _, none => .error (.python .unboundLocalError)
    | .error _, some country => insertRow server uuid country db
    | .ok tenant, none => .ok (db, tenant)
    | .ok tenant, some country =>
      if country = tenant.country then .ok (db, tenant)
      else do
        let (db, ()) ← updateCountry tenant country db
        return (db, { tenant with country := country })

/-- `create`. -/
def create (db : Database) (uuid : Option Uuid) (country : Option String) :
    Except DirdError Tenant × Database :=
  createOrEdit server db uuid { country := some country }

end TenantCRUD

end WazoDird
