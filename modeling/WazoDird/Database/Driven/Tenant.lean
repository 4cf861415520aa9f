import WazoDird.Database.Driven.Base
import WazoDird.Database.Queries.Tenant

/-!
# The operations, call by call: tenants

`database/queries/tenant.py`. What `create_or_edit` does it does in the
`finally` clause of its lookup, and the clause is run whatever the lookup
raised: where that is the driver's error there is no tenant to add, and
what the clause raises takes its place. So the operation reports every
outage but one of its lookup (`reportsAt_createOrEdit_iff`).
-/

namespace WazoDird

namespace Driven.TenantCRUD

open Body WazoDird.TenantCRUD

variable (server : UuidServer) (uuid : Option Uuid) (body : TenantBody)

/-- What `tenant` is bound to once the lookup is over. -/
inductive Bound where
  /-- A tenant that is there, given a country. -/
  | found (tenant : Tenant) (country : Option String)
  /-- A new one. -/
  | made (country : Option String)
  deriving DecidableEq, Repr

/-- The tenant that is looked up, where there is one. -/
def lookupTenant : Body Database DirdError (Option Tenant) := do
  return some (← fetch (getTenant uuid))

/-- `except NoSuchTenant`. -/
def notFound : DirdError → Option (Body Database DirdError (Option Tenant))
  | .noSuchTenant _ => some (pure none)
  | _ => none

/-- The `try` clause of `create_or_edit`, and the handler of it. A country
that is missing raises too, but once a tenant is bound the `finally`
clause returns it. -/
def lookup : Body Database DirdError Bound := do
  let found ← tryExcept (lookupTenant uuid) notFound
  match found, body.country with
  | some tenant, country => return .found tenant (country.getD tenant.country)
  | none, some country => return .made country
  | none, none => raise (.python .keyError)

/-- The flush of what is bound, and the tenant it returns. -/
def save : Bound → Body Database DirdError Tenant
  | .found tenant country => do
    onlyIf (country ≠ tenant.country) (access (updateCountry tenant country))
    return { tenant with country := country }
  | .made country => access (insertRow server uuid country)

/-- The `finally` clause of `create_or_edit`. Where the lookup raised,
`tenant` is not bound. -/
def finish : Except (Raised DirdError) Bound → Body Database DirdError Tenant
  | .ok bound => save server uuid bound
  | .error _ => raise (.python .unboundLocalError)

/-- `create_or_edit`. -/
def createOrEdit : Operation Database DirdError Tenant :=
  withSession (finallyReturn (lookup uuid body) (finish server uuid))

/-- `create`. -/
def create (country : Option String) : Operation Database DirdError Tenant :=
  createOrEdit server uuid { country := some country }

/-- `get`. -/
def get (tenantUuid : Uuid) : Operation Database DirdError Tenant :=
  withSession (fetch (getTenant (some tenantUuid)))

section Spec

variable {server : UuidServer} {uuid : Option Uuid} {body : TenantBody} {drv : Driver}
  {db : Database}

theorem reports_get (tenantUuid : Uuid) : Reports (get tenantUuid) :=
  reports_withSession (passes_fetch _)

theorem passes_lookup : (lookup uuid body).Passes := by
  refine Passes.bind (Passes.tryExcept ((passes_fetch _).bind fun t => passes_pure _) ?_) ?_
  · intro e q hq
    unfold notFound at hq
    split at hq
    · cases hq
      exact passes_pure none
    · cases hq
  · intro found
    split
    · exact passes_pure _
    · exact passes_pure _
    · exact passes_raise _

theorem passes_save (bound : Bound) : (save server uuid bound).Passes := by
  cases bound with
  | found tenant country =>
    exact (passes_onlyIf (passes_access _)).bind fun _ => passes_pure _
  | made country => exact passes_access _

theorem passes_finish (r : Except (Raised DirdError) Bound) : (finish server uuid r).Passes := by
  cases r with
  | ok bound => exact passes_save bound
  | error e => exact passes_raise _

variable {s : Session Database} {k : ℕ}

/-- The lookup raises the outage of its only access. -/
theorem lookup_of_outage (h : drv.outage? s.calls = some k) :
    lookup uuid body drv s = (.error .operational, { s with calls := k + 1 }) := by
  have hfetch : lookupTenant uuid drv s = (.error .operational, { s with calls := k + 1 }) :=
    bind_of_error (access_of_outage h)
  refine bind_of_error ?_
  rw [tryExcept, hfetch]

/-- And no other. -/
theorem lookup_ne_operational (h : drv.outage? s.calls = none) :
    (lookup uuid body drv s).1 ≠ .error .operational := by
  have hfound : ∃ found, tryExcept (lookupTenant uuid) notFound drv s =
      (.ok found, accessed drv s) := by
    cases hget : getTenant uuid s.view with
    | ok t =>
      have hfetch : lookupTenant uuid drv s = (.ok (some t), accessed drv s) :=
        bind_of_ok (access_of_ok h (by rw [hget]; rfl))
      exact ⟨some t, by rw [tryExcept, hfetch]⟩
    | error e =>
      have hfetch : lookupTenant uuid drv s = (.error (.error e), accessed drv s) :=
        bind_of_error (access_of_error h (by rw [hget]; rfl))
      unfold getTenant at hget
      split at hget
      · cases hget
        exact ⟨none, by rw [tryExcept, hfetch]; rfl⟩
      · cases hget
  obtain ⟨found, hfound⟩ := hfound
  unfold lookup
  rw [bind_of_ok hfound]
  cases found with
  | some tenant =>
    intro h
    cases h
  | none => cases body.country <;> simp [raise, pure]

/-- An outage of the lookup is raised as the `finally` clause makes it. -/
theorem createOrEdit_of_outage (h : drv.outage? 0 = some k) :
    createOrEdit server uuid body drv db =
      ⟨.error (.error (.python .unboundLocalError)), db, k + 1⟩ := by
  have hrun : (finallyReturn (lookup uuid body) (finish server uuid)).thenCommit drv (.fresh db) =
      (.error (.error (.python .unboundLocalError)), { Session.fresh db with calls := k + 1 }) :=
    thenCommit_of_error (finallyReturn_of_eq (lookup_of_outage h))
  exact Operation.newSession_of_eq hrun

/-- **`create_or_edit` reports every outage but one of its lookup.** -/
theorem reportsAt_createOrEdit_iff :
    ReportsAt (createOrEdit server uuid body) drv db ↔ ¬ drv.FailsIn 0 (drv.next 0) := by
  rw [← Driver.outage?_eq_none]
  cases hout : drv.outage? 0 with
  | none =>
    refine iff_of_true (Operation.reportsAt_newSession ?_) rfl
    exact (passes_lookup drv _).finallyReturn (lookup_ne_operational hout)
      fun r => passes_finish r
  | some k =>
    refine iff_of_false (fun h => ?_) (by simp)
    obtain ⟨hle, -, hdown⟩ := Driver.outage?_eq_some hout
    have hop : createOrEdit server uuid body drv db = _ := createOrEdit_of_outage hout
    have hreport := h (by rw [hop]; exact ⟨k, Nat.lt_succ_self k, hle, hdown⟩)
    rw [hop] at hreport
    cases hreport.1

/-- **`create` reports the same outages.** -/
theorem reportsAt_create_iff {country : Option String} :
    ReportsAt (create server uuid country) drv db ↔ ¬ drv.FailsIn 0 (drv.next 0) :=
  reportsAt_createOrEdit_iff

/-! ## While the driver is up -/

/-- What the lookup gives. -/
theorem gives_lookup (uuid : Option Uuid) (body : TenantBody) (c v : Database) :
    (lookup uuid body).Gives c v (match getTenant uuid v, body.country with
      | .ok tenant, country => .ok (v, .found tenant (country.getD tenant.country))
      | .error _, some country => .ok (v, .made country)
      | .error _, none => .error (.python .keyError)) := by
  have hfound : (tryExcept (lookupTenant uuid) notFound).Gives c v
      (.ok (v, (getTenant uuid v).toOption)) := by
    cases hget : getTenant uuid v with
    | ok tenant =>
      have hfetch := gives_fetch (c := c) (v := v) (getTenant uuid)
      rw [hget] at hfetch
      exact (hfetch.bind_ok (gives_pure (some tenant))).tryExcept nofun
    | error e =>
      have hnone : e = .noSuchTenant uuid := by
        unfold getTenant at hget
        split at hget
        · exact (Except.error.inj hget).symm
        · cases hget
      subst hnone
      exact (runs_fetch_error hget).bind_error.tryExcept rfl (gives_pure none)
  refine hfound.bind_ok ?_
  cases getTenant uuid v with
  | ok tenant => exact gives_pure _
  | error e =>
    cases body.country with
    | some country => exact gives_pure _
    | none => exact gives_raise _

/-- What the flush of a tenant that is there gives. -/
theorem gives_save_found (server : UuidServer) (uuid : Option Uuid) (c v : Database)
    (tenant : Tenant) (country : Option String) :
    (save server uuid (.found tenant country)).Gives c v
      (if country = tenant.country then .ok (v, tenant)
        else do
          let (v, ()) ← updateCountry tenant country v
          return (v, { tenant with country := country })) := by
  by_cases hsame : country = tenant.country
  · subst hsame
    rw [if_pos rfl]
    exact (gives_onlyIf (fun h => absurd rfl h) fun _ => rfl).bind_ok (gives_pure tenant)
  · rw [if_neg hsame]
    refine Gives.bind ?_ fun _ _ _ => gives_pure _
    rw [onlyIf_of_pos (show country ≠ tenant.country from hsame)]
    exact gives_access _

/-- **While the driver is up, `create_or_edit` creates or edits.** -/
theorem does_createOrEdit :
    (createOrEdit server uuid body).Does db (WazoDird.TenantCRUD.createOrEdit server db uuid body)
    := by
  rw [WazoDird.TenantCRUD.createOrEdit, ← closed_eq_newSession]
  refine does_withSession ?_
  have hlookup := gives_lookup uuid body db db
  cases hget : getTenant uuid db with
  | ok tenant =>
    rw [hget] at hlookup
    refine Runs.finallyReturn hlookup ?_
    have hsave := gives_save_found server uuid db db tenant
    cases hc : body.country with
    | none =>
      have hkept := hsave tenant.country
      rwa [if_pos rfl] at hkept
    | some country => exact hsave country
  | error e =>
    rw [hget] at hlookup
    cases hc : body.country with
    | none =>
      rw [hc] at hlookup
      obtain ⟨v', hlookup⟩ := hlookup
      exact hlookup.finallyReturn (gives_raise _)
    | some country =>
      rw [hc] at hlookup
      exact Runs.finallyReturn hlookup (gives_access _)

end Spec

end Driven.TenantCRUD

end WazoDird
