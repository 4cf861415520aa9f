import WazoDird.Common.Session.Gives

/-!
# Operations on a database that may be down

An operation opens a session for its body and closes it with a commit;
what the driver raises becomes unavailability, and every error rolls back.
An operation whose body passes an outage reports it, and changes nothing
(`Operation.reportsAt_newSession`); while the driver is up it does what
its body gives (`Operation.does_newSession`).
-/

namespace WazoDird

/-- What an operation did: its answer, what is committed, and how many
calls it made of the driver. -/
structure Outcome (σ ε α : Type) where
  result : Except (Raised ε) α
  state : σ
  calls : ℕ

/-- **An operation**, on what is committed. -/
def Operation (σ ε α : Type) : Type := Driver → σ → Outcome σ ε α

namespace Operation

variable {σ τ ε α β : Type}

/-- An operation that raises before any session. -/
def fail (e : ε) : Operation σ ε α := fun _ db => ⟨.error (.error e), db, 0⟩

/-- A body, in the session of a caller: nothing is committed for it. -/
def inSession (p : Body σ ε α) : Operation σ ε α := fun drv db =>
  let run := p drv (.fresh db)
  ⟨run.1, run.2.committed, run.2.calls⟩

/-- An outage, raised as another error. -/
def translate (unavailable : ε) : Except (Raised ε) α → Except (Raised ε) α
  | .error .operational => .error (.error unavailable)
  | r => r

/-- **A session of its own**, closed by a commit. An outage is raised as
unavailability, any other error as it is, and both roll back. -/
def newSession (unavailable : ε) (p : Body σ ε α) : Operation σ ε α := fun drv db =>
  let run := p.thenCommit drv (.fresh db)
  ⟨translate unavailable run.1, run.2.committed, run.2.calls⟩

/-- What is done with the answer once the session is closed. -/
def andThen (op : Operation σ ε α) (f : α → Except ε β) : Operation σ ε β := fun drv db =>
  let o := op drv db
  ⟨o.result >>= fun a => (f a).mapError .error, o.state, o.calls⟩

/-- An operation on a part of the database. -/
def zoom (get : τ → σ) (put : τ → σ → τ) (op : Operation σ ε α) : Operation τ ε α := fun drv d =>
  let o := op drv (get d)
  ⟨o.result, put d o.state, o.calls⟩

/-! ## Operations that report an outage -/

/-- **An outage is reported**: where a call finds the database down, what
is raised is unavailability, and nothing is changed. -/
def ReportsAt (unavailable : ε) (op : Operation σ ε α) (drv : Driver) (db : σ) : Prop :=
  drv.FailsIn 0 (op drv db).calls →
    (op drv db).result = .error (.error unavailable) ∧ (op drv db).state = db

/-- Every run of it does. -/
def Reports (unavailable : ε) (op : Operation σ ε α) : Prop :=
  ∀ drv db, ReportsAt unavailable op drv db

variable {unavailable : ε} {p : Body σ ε α} {op : Operation σ ε α} {drv : Driver} {db : σ}

theorem reports_fail (e : ε) : Reports unavailable (fail e : Operation σ ε α) :=
  fun _ _ h => absurd h Driver.not_failsIn_self

/-- A session of which the run of the body is known. -/
theorem newSession_of_eq {r : Except (Raised ε) α} {s : Session σ}
    (h : p.thenCommit drv (.fresh db) = (r, s)) :
    newSession unavailable p drv db = ⟨translate unavailable r, s.committed, s.calls⟩ := by
  rw [newSession, h]

/-- A body that commits at its end is committed once. -/
theorem newSession_thenCommit :
    newSession unavailable p.thenCommit = newSession unavailable p := by
  unfold newSession
  rw [Body.thenCommit_thenCommit]

/-- **A session whose body passes an outage reports it.** -/
theorem reportsAt_newSession (h : p.PassesAt drv (.fresh db)) :
    ReportsAt unavailable (newSession unavailable p) drv db := by
  obtain ⟨hiff, hcommitted⟩ := h.thenCommit
  intro hfails
  have hraise := hiff.2 hfails
  exact ⟨congrArg (translate unavailable) hraise, hcommitted hraise⟩

theorem reports_newSession (h : p.Passes) : Reports unavailable (newSession unavailable p) :=
  fun drv db => reportsAt_newSession (h drv (.fresh db))

/-- An outage of an access in the session of a caller is raised as it is. -/
theorem inSession_access_of_outage {g : σ → Except ε (σ × α)} {k : ℕ}
    (h : drv.outage? 0 = some k) :
    inSession (Body.access g) drv db = ⟨.error .operational, db, k + 1⟩ := by
  rw [inSession, Body.access_of_outage (s := .fresh db) h]
  rfl

/-- **An access in the session of a caller reports no outage.** -/
theorem reportsAt_inSession_access_iff {g : σ → Except ε (σ × α)} :
    ReportsAt unavailable (inSession (Body.access g)) drv db ↔ ¬ drv.FailsIn 0 (drv.next 0) := by
  rw [← Driver.outage?_eq_none]
  cases hout : drv.outage? 0 with
  | none =>
    have hpasses := Body.passes_access g drv (.fresh db)
    refine iff_of_true (fun hfails => ?_) rfl
    have hraise : (Body.access g drv (.fresh db)).1 = .error .operational :=
      hpasses.operational_iff.2 hfails
    cases hg : g db with
    | error e =>
      rw [Body.access_of_error (s := .fresh db) hout hg] at hraise
      cases hraise
    | ok va =>
      rw [Body.access_of_ok (s := .fresh db) hout hg] at hraise
      cases hraise
  | some k =>
    refine iff_of_false (fun h => ?_) (by simp)
    obtain ⟨hle, -, hdown⟩ := Driver.outage?_eq_some hout
    have hop : inSession (Body.access g) drv db = _ := inSession_access_of_outage hout
    have hreport := h (by rw [hop]; exact ⟨k, Nat.lt_succ_self k, hle, hdown⟩)
    rw [hop] at hreport
    cases hreport.1

/-- What is done once the session is closed changes no report. -/
theorem ReportsAt.andThen {f : α → Except ε β} (h : ReportsAt unavailable op drv db) :
    ReportsAt unavailable (op.andThen f) drv db := by
  intro hfails
  obtain ⟨hresult, hstate⟩ := h hfails
  refine ⟨?_, hstate⟩
  change ((op drv db).result >>= fun a => (f a).mapError .error) = _
  rw [hresult]
  rfl

/-- An operation on a part reports of the whole what it does of the part. -/
theorem reportsAt_zoom_iff {get : τ → σ} {put : τ → σ → τ} {d : τ} (hput : put d (get d) = d)
    (hget : ∀ s, get (put d s) = s) :
    ReportsAt unavailable (op.zoom get put) drv d ↔ ReportsAt unavailable op drv (get d) := by
  constructor
  · intro h hfails
    obtain ⟨hresult, hstate⟩ := h hfails
    exact ⟨hresult, (hget _).symm.trans (congrArg get hstate)⟩
  · intro h hfails
    obtain ⟨hresult, hstate⟩ := h hfails
    exact ⟨hresult, (congrArg (put d) hstate).trans hput⟩

/-! ## Operations while the driver is up -/

/-- **What an operation does**, while the driver is up. -/
def Does (op : Operation σ ε α) (db : σ) (out : Except ε α × σ) : Prop :=
  ∀ drv : Driver, drv.Up →
    (op drv db).result = out.1.mapError .error ∧ (op drv db).state = out.2

theorem does_fail (e : ε) : Does (fail e : Operation σ ε α) db (.error e, db) :=
  fun _ _ => ⟨rfl, rfl⟩

/-- **A session does what its body gives**, and nothing when it raises. -/
theorem does_newSession_ok {db' : σ} {a : α} (h : p.Gives db db (.ok (db', a))) :
    Does (newSession unavailable p) db (.ok a, db') := by
  intro drv hup
  obtain ⟨s, hrun, hs⟩ := h drv _ hup (Body.holds_fresh db)
  have hclose : ∃ s', p.thenCommit drv (.fresh db) = (.ok a, s') ∧ s'.committed = db' := by
    cases hbegun : s.begun with
    | false =>
      refine ⟨s, Body.thenCommit_of_ok hrun (Body.commit_of_not_begun hbegun), ?_⟩
      rw [hs.committed, hs.begun hbegun]
    | true =>
      exact ⟨_, Body.thenCommit_of_ok hrun (Body.commit_of_begun hbegun (hup.outage? _)), hs.view⟩
  obtain ⟨s', hrun', hs'⟩ := hclose
  rw [newSession_of_eq hrun']
  exact ⟨rfl, hs'⟩

theorem does_newSession_error {e : ε} (h : p.Gives db db (.error e)) :
    Does (newSession unavailable p) db (.error e, db) := by
  intro drv hup
  obtain ⟨v', h⟩ := h
  obtain ⟨s, hrun, hs⟩ := h drv _ hup (Body.holds_fresh db)
  rw [newSession_of_eq (Body.thenCommit_of_error hrun)]
  exact ⟨rfl, hs.committed⟩

/-- A body in the session of a caller answers what it gives, and commits
nothing. -/
theorem does_inSession {r : Except ε (σ × α)} (h : p.Gives db db r) :
    Does (inSession p) db (r.map Prod.snd, db) := by
  intro drv hup
  have hrun : ∃ s, p drv (.fresh db) = ((r.map Prod.snd).mapError .error, s) ∧
      s.committed = db := by
    cases r with
    | error e =>
      obtain ⟨v', h⟩ := h
      obtain ⟨s, hrun, hs⟩ := h drv _ hup (Body.holds_fresh db)
      exact ⟨s, hrun, hs.committed⟩
    | ok va =>
      obtain ⟨s, hrun, hs⟩ := h drv _ hup (Body.holds_fresh db)
      exact ⟨s, hrun, hs.committed⟩
  obtain ⟨s, hrun, hs⟩ := hrun
  rw [inSession, hrun]
  exact ⟨rfl, hs⟩

/-- An operation on a part does to the whole what it does to the part. -/
theorem Does.zoom {get : τ → σ} {put : τ → σ → τ} {d : τ} {out : Except ε α × σ}
    (h : Does op (get d) out) : Does (op.zoom get put) d (out.1, put d out.2) := by
  intro drv hup
  obtain ⟨hresult, hstate⟩ := h drv hup
  refine ⟨hresult, ?_⟩
  change put d (op drv (get d)).state = _
  rw [hstate]

/-- What is done with the answer once the session is closed. -/
theorem Does.andThen {f : α → Except ε β} {r : Except ε α} {db' : σ} (h : Does op db (r, db')) :
    Does (op.andThen f) db (r >>= f, db') := by
  intro drv hup
  obtain ⟨hresult, hstate⟩ := h drv hup
  refine ⟨?_, hstate⟩
  change ((op drv db).result >>= fun a => (f a).mapError .error) = _
  rw [hresult]
  cases r <;> rfl

end Operation

end WazoDird
