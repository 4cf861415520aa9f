import WazoDird.Common.Session.Operation
import WazoDird.Database.Directory
import WazoDird.Database.Queries.ContactRows
import WazoDird.Database.Queries.Favorite

/-!
# The operations, call by call: sessions, users and tenants

`database/queries/base.py` and `database/queries/tenant.py` once more, as
the accesses their sessions make: what each operation asks of the driver,
in which order, and which errors it handles on the way. What the accesses
do to the tables is what the operations do (`Operation.Does`); here is
also what they do while the database is down.
-/

namespace WazoDird

/-- The codes of the integrity errors of the server. -/
inductive Pgcode where
  | uniqueViolation
  | foreignKeyViolation
  | checkViolation
  | other
  deriving DecidableEq, Repr

/-- `exc.IntegrityError`, as a handler reads it. -/
structure IntegrityError where
  pgcode : Pgcode
  constraintName : Option String := none
  pgerror : String := ""
  deriving DecidableEq, Repr

/-- What a body answers, with what it made of the database or without, as
`BaseDAO.new_session` closes it. -/
def closed {σ α : Type} (db : σ) : Except DirdError (σ × α) → Except DirdError α × σ
  | .ok (db', a) => (.ok a, db')
  | .error e => (.error e, db)

theorem closed_eq_newSession {α : Type} (db : Database) (r : Except DirdError (Database × α)) :
    closed db r = newSession db r := by
  cases r <;> rfl

theorem closed_eq_directory_newSession {α : Type} (d : Directory)
    (r : Except DirdError (Directory × α)) : closed d r = d.newSession r := by
  cases r <;> rfl

namespace Driven

open Body

variable {σ α : Type}

/-- `with self.new_session() as s`. -/
def withSession (p : Body σ DirdError α) : Operation σ DirdError α :=
  Operation.newSession .databaseServiceUnavailable p

/-- **A session does what its body gives.** -/
theorem does_withSession {p : Body σ DirdError α} {db : σ} {r : Except DirdError (σ × α)}
    (h : p.Gives db db r) : (withSession p).Does db (closed db r) := by
  cases r with
  | error e => exact Operation.does_newSession_error h
  | ok va => exact Operation.does_newSession_ok h

/-- A session that reads answers what it reads, and changes nothing. -/
theorem does_read {p : Body σ DirdError α} {db : σ} {r : Except DirdError α}
    (h : p.Gives db db (r.map fun a => (db, a))) : (withSession p).Does db (r, db) := by
  cases r with
  | error e => exact does_withSession h
  | ok a => exact does_withSession h

theorem does_fetch (f : σ → Except DirdError α) (db : σ) :
    (withSession (fetch f)).Does db (f db, db) :=
  does_read (gives_fetch f)

theorem does_query (f : σ → α) (db : σ) : (withSession (query f)).Does db (.ok (f db), db) :=
  does_withSession (gives_query f)

/-- A listing of rows that the driver takes, each loaded as it is dumped. -/
theorem does_page (texts : List String) (rows : σ → List α) (dump : α → σ → β) (db : σ) :
    (withSession do
      let page ← fetch fun db => do
        takeTexts texts
        return rows db
      queryEach dump page).Does db
      (do
        takeTexts texts
        return (rows db).map fun a => dump a db, db) := by
  refine does_read ?_
  generalize takeTexts texts = taken
  cases taken with
  | error e => exact Gives.bind_error (gives_fetch _)
  | ok u => exact (gives_fetch _).bind_ok (gives_queryEach dump _)

/-- `OperationalError` is reported as `DatabaseServiceUnavailable`. -/
abbrev ReportsAt (op : Operation σ DirdError α) (drv : Driver) (db : σ) : Prop :=
  Operation.ReportsAt .databaseServiceUnavailable op drv db

/-- `OperationalError` is reported as `DatabaseServiceUnavailable`, in every
run. -/
abbrev Reports (op : Operation σ DirdError α) : Prop :=
  Operation.Reports .databaseServiceUnavailable op

theorem reports_withSession {p : Body σ DirdError α} (h : p.Passes) : Reports (withSession p) :=
  Operation.reports_newSession h

/-- A flush of rows, with the fault the server has for it. -/
def flushFault (fault : Option FlushFault) : Except DirdError (Except IntegrityError Unit) :=
  match fault with
  | none => .ok (.ok ())
  | some (.integrity pgerror) => .ok (.error ⟨.other, none, pgerror⟩)
  | some .operational => .error .databaseServiceUnavailable
  | some (.other e) => .error (.python e)

/-! ## Tenants, of every session -/

/-- The insertion of a tenant. -/
def insertTenant (uuid : Uuid) (db : Database) :
    Except DirdError (Except IntegrityError (Database × Unit)) :=
  .ok <| if db.tenants.any (·.uuid = uuid) then .error ⟨.uniqueViolation, none, ""⟩
    else .ok ({ db with tenants := db.tenants ++ [{ uuid := uuid }] }, ())

/-- `BaseDAO._create_tenant`: an integrity error is dropped, and with it
what the transaction had done. -/
def createTenantWith (insert : σ → Except DirdError (Except IntegrityError (σ × Unit))) :
    Body σ DirdError Unit := do
  match ← attempt insert with
  | .ok () => return ()
  | .error _ => rollback

/-- `BaseDAO._create_tenant`. -/
def createTenant (uuid : Uuid) : Body Database DirdError Unit :=
  createTenantWith (insertTenant uuid)

theorem passes_createTenantWith
    (insert : σ → Except DirdError (Except IntegrityError (σ × Unit))) :
    (createTenantWith insert).Passes := by
  refine (passes_attempt insert).bind fun r => ?_
  cases r with
  | ok a => exact passes_pure ()
  | error e => exact passes_rollback

theorem passes_createTenant (uuid : Uuid) : (createTenant uuid).Passes := passes_createTenantWith _

/-- The tenant is there afterwards: as the first thing of a transaction, or
where it was not. -/
theorem gives_createTenant {c v : Database} {uuid : Uuid}
    (h : v = c ∨ v.tenants.any (·.uuid = uuid) = false) :
    (createTenant uuid).Gives c v (.ok (v.createTenant uuid, ())) := by
  have hattempt := gives_attempt (c := c) (v := v) (insertTenant uuid)
  unfold insertTenant Database.createTenant at *
  split
  · next hany =>
    rw [if_pos hany] at hattempt
    rcases h with rfl | h
    · exact hattempt.bind_ok gives_rollback
    · rw [hany] at h
      cases h
  · next hany =>
    rw [if_neg hany] at hattempt
    exact hattempt.bind_ok (gives_pure ())

/-! ## Users -/

/-- The insertion of a user. -/
def insertUser (userUuid tenantUuid : Uuid) (db : Database) : Except DirdError (Database × Unit) :=
  .ok ({ db with users := db.users ++ [{ userUuid := userUuid, tenantUuid := tenantUuid }] }, ())

/-- `BaseDAO._get_dird_user`. -/
def getDirdUser (tenantUuid userUuid : Uuid) : Body Database DirdError Unit := do
  let user ← query fun db => db.users.any (·.userUuid = userUuid)
  let tenant ← query fun db => db.tenants.any (·.uuid = tenantUuid)
  onlyIf (tenant = false) (createTenant tenantUuid)
  onlyIf (user = false) (access (insertUser userUuid tenantUuid))

theorem passes_getDirdUser (tenantUuid userUuid : Uuid) :
    (getDirdUser tenantUuid userUuid).Passes :=
  (passes_query _).bind fun _ => (passes_query _).bind fun _ =>
    (passes_onlyIf (passes_createTenant _)).bind fun _ => passes_onlyIf (passes_access _)

/-- The user is there afterwards, and a tenant of the uuid. -/
theorem gives_getDirdUser {c v : Database} (tenantUuid userUuid : Uuid) :
    (getDirdUser tenantUuid userUuid).Gives c v (.ok (v.getDirdUser tenantUuid userUuid, ())) := by
  have hmade : (onlyIf (v.tenants.any (·.uuid = tenantUuid) = false)
      (createTenant tenantUuid)).Gives c v (.ok (v.createTenant tenantUuid, ())) := by
    refine gives_onlyIf (fun h => gives_createTenant (Or.inr h)) fun h => ?_
    rw [Database.createTenant, if_pos (Bool.of_not_eq_false h)]
  refine (gives_query _).bind_ok ((gives_query _).bind_ok (hmade.bind_ok ?_))
  unfold Database.getDirdUser Database.hasUser
  refine gives_onlyIf (fun h => ?_) fun h => ?_
  · rw [if_neg (by rw [h]; exact Bool.false_ne_true)]
    exact gives_access _
  · rw [if_pos (Bool.of_not_eq_false h)]

/-- The database without a user, nor what the foreign keys delete with it:
its favorites, and its contacts with their rows. -/
def dropUser (userUuid : Uuid) (db : Database) : Database :=
  { db.dropContacts (·.userUuid = some userUuid) with
    users := db.users.filter (·.userUuid ≠ userUuid)
    favorites := db.favorites.filter (·.userUuid ≠ userUuid) }

/-- `delete_user`, in the session of its caller. -/
def deleteUser (userUuid : Uuid) : Operation Database DirdError Unit :=
  .inSession (access fun db => .ok (dropUser userUuid db, ()))

/-- **`delete_user` reports every outage but one of its deletion**, which is
raised as the driver's. -/
theorem reportsAt_deleteUser_iff {userUuid : Uuid} {drv : Driver} {db : Database} :
    ReportsAt (deleteUser userUuid) drv db ↔ ¬ drv.FailsIn 0 (drv.next 0) :=
  Operation.reportsAt_inSession_access_iff

end Driven

end WazoDird
