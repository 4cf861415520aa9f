import WazoDird.Database.Driven.PersonalContact
import WazoDird.Database.Driven.Phonebook
import WazoDird.Database.Driven.Profile
import WazoDird.Database.Driven.Source
import WazoDird.Database.Driven.Tenant
import WazoDird.Database.Queries.Scoping

/-!
# What an outage of the database is reported as

Every operation of the database layer, on the whole database, with a
driver any call of which may find it down. An outage changes nothing
(`CrudOp.unchanged_of_outage`), and it is reported as unavailability, but
for that of the first access of three operations: `create` and
`create_or_edit` of a tenant, whose `finally` clause raises in its place,
and `delete_user`, which opens no session (`CrudOp.reportsAt_run_iff`).
-/

namespace WazoDird

/-- What an operation on the tables of the services does to the whole
database. -/
def Directory.onTables {α : Type} (d : Directory) (out : Except DirdError α × Database) :
    Except DirdError α × Directory :=
  (out.1, d.withTables out.2)

namespace Driven

/-- What the language and the server leave open in the operations. -/
structure DatabaseServer where
  lower : String → String
  text : SortText
  enc : Encoding
  uuids : UuidServer
  contacts : Server
  personal : PersonalServer
  profile : ProfileServer
  phonebookDefaults : PhonebookDefaults
  sourceDefaults : SourceDefaults
  sources : RowOrder Source := .asStored
  favorites : RowOrder (String × String) := .asStored
  phonebooks : RowOrder Phonebook := .asStored
  displays : RowOrder Display := .asStored
  columns : RowOrder DisplayColumnRow := .asStored
  contactUuids : RowOrder Uuid := .asStored
  fields : RowOrder ContactFields := .asStored

/-- A server that answers in the order of its tables, and takes texts as
they are. -/
def DatabaseServer.plain : DatabaseServer where
  lower := id
  text := ⟨id, id⟩
  enc := .plain
  uuids := .longest
  contacts := .plain
  personal := .plain
  profile := .plain
  phonebookDefaults := ⟨"phonebook", 1⟩
  sourceDefaults := ⟨"source", "source"⟩

/-- **An operation of the database layer.** -/
inductive CrudOp where
  | createTenant (uuid : Option Uuid) (country : Option String)
  | createOrEditTenant (uuid : Option Uuid) (body : TenantBody)
  | getTenant (uuid : Uuid)
  | deleteUser (uuid : Uuid)
  | source (call : SourceCRUD.Call)
  | favorite (call : FavoriteCRUD.Call)
  | profile (call : ProfileCRUD.Call)
  | display (call : DisplayCRUD.Call)
  | phonebook (call : PhonebookCRUD.Call)
  | phonebookContact (call : PhonebookContactCRUD.Call)
  | personalContact (call : PersonalContactCRUD.Call)

/-- An operation on the tables of the services, on the whole database. -/
def onTables {α : Type} (op : Operation Database DirdError α) :
    Operation Directory DirdError α :=
  op.zoom Directory.toDatabase Directory.withTables

namespace CrudOp

/-- What it answers. -/
def Answer : CrudOp → Type
  | createTenant .. | createOrEditTenant .. | getTenant .. => Tenant
  | deleteUser .. => Unit
  | source call => call.Answer
  | favorite call => call.Answer
  | profile call => call.Answer
  | display call => call.Answer
  | phonebook call => call.Answer
  | phonebookContact call => call.Answer
  | personalContact call => call.Answer

variable (server : DatabaseServer)

/-- The operation, as the accesses it makes. -/
def run : (op : CrudOp) → Operation Directory DirdError op.Answer
  | createTenant uuid country => onTables (TenantCRUD.create server.uuids uuid country)
  | createOrEditTenant uuid body => onTables (TenantCRUD.createOrEdit server.uuids uuid body)
  | getTenant uuid => onTables (TenantCRUD.get uuid)
  | deleteUser uuid => onTables (Driven.deleteUser uuid)
  | source call => onTables (call.run server.lower server.sources server.sourceDefaults)
  | favorite call => onTables (call.run server.sources server.favorites)
  | profile call => call.run server.lower server.profile
  | display call => call.run server.lower server.uuids server.displays server.columns
  | phonebook call => onTables (call.run server.lower server.phonebooks server.phonebookDefaults)
  | phonebookContact call =>
    onTables (call.run server.lower server.fields server.enc server.contacts)
  | personalContact call => onTables
    (call.run server.enc server.personal server.text server.contactUuids server.fields)

/-- The operation, as what it does to the tables. What `delete_user` does is
committed by its caller. -/
def done (d : Directory) : (op : CrudOp) → Except DirdError op.Answer × Directory
  | createTenant uuid country =>
    d.onTables (WazoDird.TenantCRUD.create server.uuids d.toDatabase uuid country)
  | createOrEditTenant uuid body =>
    d.onTables (WazoDird.TenantCRUD.createOrEdit server.uuids d.toDatabase uuid body)
  | getTenant uuid =>
    d.onTables (WazoDird.TenantCRUD.getTenant (some uuid) d.toDatabase, d.toDatabase)
  | deleteUser _ => d.onTables (.ok (), d.toDatabase)
  | source call =>
    d.onTables (call.done server.lower server.sources server.sourceDefaults d.toDatabase)
  | favorite call => d.onTables (call.done server.sources server.favorites d.toDatabase)
  | profile call => call.done server.lower server.profile d
  | display call => call.done server.lower server.uuids server.displays server.columns d
  | phonebook call =>
    d.onTables (call.done server.lower server.phonebooks server.phonebookDefaults d.toDatabase)
  | phonebookContact call =>
    d.onTables (call.done server.lower server.fields server.enc server.contacts d.toDatabase)
  | personalContact call => d.onTables
    (call.done server.enc server.personal server.text server.contactUuids server.fields
      d.toDatabase)

/-- The operations whose first access has no handler of an outage, or one
that drops it. -/
def Unguarded : CrudOp → Prop
  | createTenant .. | createOrEditTenant .. | deleteUser .. => True
  | _ => False

variable {server : DatabaseServer} {drv : Driver} {d : Directory}

theorem reportsAt_onTables_iff {α : Type} {op : Operation Database DirdError α} :
    ReportsAt (onTables op) drv d ↔ ReportsAt op drv d.toDatabase :=
  Operation.reportsAt_zoom_iff Directory.withTables_self fun _ => rfl

theorem reportsAt_onTables {α : Type} {op : Operation Database DirdError α} (h : Reports op) :
    ReportsAt (onTables op) drv d :=
  reportsAt_onTables_iff.2 (h drv d.toDatabase)

/-- The other operations report every outage. -/
theorem reportsAt_of_guarded {op : CrudOp} (h : ¬ op.Unguarded) :
    ReportsAt (op.run server) drv d := by
  cases op with
  | createTenant | createOrEditTenant | deleteUser => exact absurd trivial h
  | getTenant uuid => exact reportsAt_onTables (TenantCRUD.reports_get uuid)
  | source call => exact reportsAt_onTables (SourceCRUD.reports_call call)
  | favorite call => exact reportsAt_onTables (FavoriteCRUD.reports_call call)
  | profile call => exact ProfileCRUD.reports_call call drv d
  | display call => exact DisplayCRUD.reports_call call drv d
  | phonebook call => exact reportsAt_onTables (PhonebookCRUD.reports_call call)
  | phonebookContact call => exact reportsAt_onTables (PhonebookContactCRUD.reports_call call)
  | personalContact call => exact reportsAt_onTables (PersonalContactCRUD.reports_call call)

/-- The unguarded ones report all but that of their first access. -/
theorem reportsAt_iff_of_unguarded {op : CrudOp} (h : op.Unguarded) :
    ReportsAt (op.run server) drv d ↔ ¬ drv.FailsIn 0 (drv.next 0) := by
  cases op with
  | createTenant => exact reportsAt_onTables_iff.trans TenantCRUD.reportsAt_create_iff
  | createOrEditTenant => exact reportsAt_onTables_iff.trans TenantCRUD.reportsAt_createOrEdit_iff
  | deleteUser => exact reportsAt_onTables_iff.trans reportsAt_deleteUser_iff
  | _ => exact h.elim

/-- **An operation reports an outage exactly if this is none of the first
access of an unguarded one**: wherever else a call finds the database
down, what is raised is unavailability, and nothing is changed. -/
theorem reportsAt_run_iff (server : DatabaseServer) (op : CrudOp) (drv : Driver)
    (d : Directory) :
    ReportsAt (op.run server) drv d ↔ ¬ (op.Unguarded ∧ drv.FailsIn 0 (drv.next 0)) := by
  by_cases h : op.Unguarded
  · rw [reportsAt_iff_of_unguarded h, and_iff_right h]
  · exact iff_of_true (reportsAt_of_guarded h) fun hfirst => h hfirst.1

/-- **Two outages that are not reported**, each of a first call. The lookup
of a tenant is answered by a variable that is not bound, and the deletion
of a user by the error of the driver. -/
theorem unreported_outages :
    let drv : Driver := { down := fun k => k = 0 }
    let edit := (createOrEditTenant (some "tenant") { country := some (some "CA") }).run .plain
    let delete := (deleteUser "user").run .plain
    (edit drv {}).result = .error (.error (.python .unboundLocalError)) ∧
      ¬ ReportsAt edit drv {} ∧
      (delete drv {}).result = .error .operational ∧ ¬ ReportsAt delete drv {} := by
  refine ⟨rfl, fun h => ?_, rfl, fun h => ?_⟩
  · have hreport := (h (by decide)).1
    cases hreport
  · have hreport := (h (by decide)).1
    cases hreport

/-- **An outage changes nothing**, whatever is raised. -/
theorem unchanged_of_outage (server : DatabaseServer) (op : CrudOp)
    (hfails : drv.FailsIn 0 (op.run server drv d).calls) : (op.run server drv d).state = d := by
  by_cases hreports : ReportsAt (op.run server) drv d
  · exact (hreports hfails).2
  · obtain ⟨hop, hfirst⟩ := not_not.1 (mt (reportsAt_run_iff server op drv d).2 hreports)
    obtain ⟨k, hk⟩ := Option.ne_none_iff_exists'.1 (mt Driver.outage?_eq_none.1 (not_not.2 hfirst))
    cases op with
    | createTenant uuid country =>
      have hrun : TenantCRUD.create server.uuids uuid country drv d.toDatabase = _ :=
        TenantCRUD.createOrEdit_of_outage hk
      change d.withTables (TenantCRUD.create server.uuids uuid country drv d.toDatabase).state = d
      rw [hrun, Directory.withTables_self]
    | createOrEditTenant uuid body =>
      have hrun : TenantCRUD.createOrEdit server.uuids uuid body drv d.toDatabase = _ :=
        TenantCRUD.createOrEdit_of_outage hk
      change d.withTables (TenantCRUD.createOrEdit server.uuids uuid body drv d.toDatabase).state
        = d
      rw [hrun, Directory.withTables_self]
    | deleteUser uuid =>
      have hrun : Driven.deleteUser uuid drv d.toDatabase = _ :=
        Operation.inSession_access_of_outage hk
      change d.withTables (Driven.deleteUser uuid drv d.toDatabase).state = d
      rw [hrun, Directory.withTables_self]
    | _ => exact hop.elim

/-- **While the database is up, an operation does what it does to the
tables**: what it is proved to do there, it does through these accesses. -/
theorem does_run (op : CrudOp) : (op.run server).Does d (op.done server d) := by
  cases op with
  | createTenant | createOrEditTenant => exact TenantCRUD.does_createOrEdit.zoom
  | getTenant uuid => exact (does_fetch _ d.toDatabase).zoom
  | deleteUser uuid => exact (Operation.does_inSession (Body.gives_access _)).zoom
  | source call => exact (SourceCRUD.does_call call d.toDatabase).zoom
  | favorite call => exact (FavoriteCRUD.does_call call d.toDatabase).zoom
  | profile call => exact ProfileCRUD.does_call call d
  | display call => exact DisplayCRUD.does_call call d
  | phonebook call => exact (PhonebookCRUD.does_call call d.toDatabase).zoom
  | phonebookContact call => exact (PhonebookContactCRUD.does_call call d.toDatabase).zoom
  | personalContact call => exact (PersonalContactCRUD.does_call call d.toDatabase).zoom

end CrudOp

end Driven

end WazoDird
