import WazoDird.Common.Table
import WazoDird.Database.Model

/-!
# The tables of profiles and displays

The rows of `database/models.py` a profile is made of: its own, that of
its display with the columns of it, one for each of its services, and one
for each source of a service. What a deletion takes with it is here too,
as the foreign keys declare it: the services of a profile and the sources
of a service go with it, and a profile whose display goes has none.
-/

namespace WazoDird

/-- `dird_display`. -/
structure Display where
  uuid : Uuid
  tenantUuid : Uuid
  name : String
  deriving DecidableEq, Repr

/-- What a body says of a column. Each text may be missing. -/
structure DisplayColumnBody where
  field : Option String := none
  title : Option String := none
  type : Option String := none
  default : Option String := none
  numberDisplay : Option String := none
  deriving DecidableEq, Repr

/-- `dird_display_column`. Nothing reads its uuid. -/
structure DisplayColumnRow extends DisplayColumnBody where
  displayUuid : Uuid
  deriving DecidableEq, Repr

/-- `dird_profile`. -/
structure Profile where
  uuid : Uuid
  tenantUuid : Uuid
  name : String
  displayTenantUuid : Option Uuid := none
  displayUuid : Option Uuid := none
  deriving DecidableEq, Repr

/-- `dird_service`. -/
structure Service where
  uuid : Uuid
  name : String
  deriving DecidableEq, Repr

/-- `dird_profile_service`. -/
structure ProfileService where
  uuid : Uuid
  profileUuid : Uuid
  profileTenantUuid : Uuid
  serviceUuid : Uuid
  config : Dict String Value := ∅
  deriving DecidableEq, Repr

/-- `dird_profile_service_source`. -/
structure ProfileServiceSource where
  profileServiceUuid : Uuid
  profileTenantUuid : Uuid
  sourceUuid : Uuid
  sourceTenantUuid : Uuid
  deriving DecidableEq, Repr

/-- The source that a row names. -/
def ProfileServiceSource.isOf (a : ProfileServiceSource) (s : Source) : Bool :=
  s.uuid = a.sourceUuid && s.tenantUuid = a.sourceTenantUuid

/-- **The whole database**: the tables of the directory's services, and
those of profiles and displays. -/
structure Directory extends Database where
  displays : List Display := []
  displayColumns : List DisplayColumnRow := []
  profiles : List Profile := []
  services : List Service := []
  profileServices : List ProfileService := []
  profileServiceSources : List ProfileServiceSource := []
  deriving DecidableEq, Repr

/-- **`uuid_generate_v4()`**, as the default of a primary key: what it
gives is none of the keys there are. -/
structure UuidServer where
  generate : List Uuid → Uuid
  fresh : ∀ used, generate used ∉ used

/-- A server whose uuids are longer than those there are. -/
def UuidServer.longest : UuidServer := ⟨longerUuid, longerUuid_not_mem⟩

/-- **`BaseDAO.new_session`**, on the whole database. -/
def Directory.newSession {α : Type} (d : Directory) (body : Except DirdError (Directory × α)) :
    Except DirdError α × Directory :=
  match body with
  | .ok (d', a) => (.ok a, d')
  | .error e => (.error e, d)

namespace Directory

variable {α : Type} {d d' : Directory} {body : Except DirdError (Directory × α)}

@[simp] theorem newSession_error (e : DirdError) :
    d.newSession (α := α) (.error e) = (.error e, d) := rfl

/-- A session that returns left what its body left. -/
theorem newSession_eq_ok {a : α} :
    d.newSession body = (.ok a, d') ↔ body = .ok (d', a) := by
  unfold newSession
  split
  · rw [Prod.mk.injEq, Except.ok.injEq, Except.ok.injEq, Prod.mk.injEq, and_comm]
  · simp

/-- A session that raises leaves the database as it was. -/
theorem newSession_eq_error {e : DirdError} :
    d.newSession body = (.error e, d') ↔ body = .error e ∧ d' = d := by
  unfold newSession
  split
  · simp
  · rw [Prod.mk.injEq, Except.error.injEq, Except.error.injEq, eq_comm (a := d)]

variable (d)

/-- `BaseDAO._create_tenant`. -/
def createTenant (uuid : Uuid) : Directory :=
  { d with toDatabase := d.toDatabase.createTenant uuid }

/-- The database once its other tables are changed: a source whose key is
no more there is one of no service. -/
def withTables (db : Database) : Directory :=
  { d with
    toDatabase := db
    profileServiceSources := d.profileServiceSources.filter fun a =>
      !d.sources.any a.isOf || db.sources.any a.isOf }

/-- The database without the profile services of a predicate, nor their
sources. -/
def dropProfileServices (p : ProfileService → Bool) : Directory :=
  { d with
    profileServices := d.profileServices.filter fun s => !p s
    profileServiceSources := d.profileServiceSources.filter fun a =>
      !(d.profileServices.any fun s =>
        p s && s.uuid = a.profileServiceUuid && s.profileTenantUuid = a.profileTenantUuid) }

/-- The database without the profiles of a predicate, nor their services. -/
def dropProfiles (p : Profile → Bool) : Directory :=
  { d.dropProfileServices (fun s => d.profiles.any fun b =>
      p b && b.uuid = s.profileUuid && b.tenantUuid = s.profileTenantUuid) with
    profiles := d.profiles.filter fun b => !p b }

/-- The database without the displays of a predicate, nor their columns: a
profile on one is on none, in both columns of its key. -/
def dropDisplays (p : Display → Bool) : Directory :=
  { d with
    displays := d.displays.filter fun b => !p b
    displayColumns := d.displayColumns.filter fun c =>
      !(d.displays.any fun b => p b && b.uuid = c.displayUuid)
    profiles := d.profiles.map fun b =>
      if d.displays.any fun y =>
          p y && b.displayUuid = some y.uuid && b.displayTenantUuid = some y.tenantUuid then
        { b with displayUuid := none, displayTenantUuid := none }
      else b }

end Directory

end WazoDird
