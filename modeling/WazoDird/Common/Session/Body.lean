import WazoDird.Common.Except

/-!
# Sessions on a database that may be down

The body of a session makes accesses to a database, each of them one or
more calls of the driver, any of which may find the database down. A body
passes an outage when it raises the driver's error exactly if one of its
calls failed, and commits nothing (`Body.PassesAt`): each access does, and
each way of putting bodies together that catches no outage keeps it.
-/

namespace WazoDird

/-- What a body raises: the error of a driver whose database is down, or
an error of another kind. -/
inductive Raised (ε : Type) where
  | operational
  | error (e : ε)
  deriving DecidableEq, Repr

/-- **A driver**: the calls that find the database down, and how many calls
an access takes beyond the one it begins with. -/
structure Driver where
  down : ℕ → Bool
  more : ℕ → ℕ := fun _ => 0

namespace Driver

variable (drv : Driver) {m n p k : ℕ}

/-- Some call from one number up to another finds the database down. -/
def FailsIn (m n : ℕ) : Prop := ∃ k < n, m ≤ k ∧ drv.down k = true

instance : Decidable (drv.FailsIn m n) :=
  inferInstanceAs (Decidable (∃ k < n, m ≤ k ∧ drv.down k = true))

/-- The number of the call after an access. -/
def next (n : ℕ) : ℕ := n + (drv.more n + 1)

/-- The call of an access that finds the database down. -/
def outage? (n : ℕ) : Option ℕ := (List.range' n (drv.more n + 1)).find? drv.down

/-- A driver that is never down. -/
def Up : Prop := ∀ k, drv.down k = false

variable {drv}

@[simp] theorem not_failsIn_self : ¬ drv.FailsIn n n :=
  fun ⟨_, hlt, hle, _⟩ => absurd hlt (Nat.not_lt.2 hle)

/-- A stretch of calls fails in its first part, or in its second. -/
theorem failsIn_append (hmn : m ≤ n) (hnp : n ≤ p) :
    drv.FailsIn m p ↔ drv.FailsIn m n ∨ drv.FailsIn n p := by
  constructor
  · rintro ⟨k, hk, hmk, hdown⟩
    rcases Nat.lt_or_ge k n with hkn | hkn
    · exact Or.inl ⟨k, hkn, hmk, hdown⟩
    · exact Or.inr ⟨k, hk, hkn, hdown⟩
  · rintro (⟨k, hk, hmk, hdown⟩ | ⟨k, hk, hnk, hdown⟩)
    · exact ⟨k, by omega, hmk, hdown⟩
    · exact ⟨k, hk, by omega, hdown⟩

theorem lt_next : n < drv.next n := by
  unfold next
  omega

/-- An access that no call of which fails. -/
theorem outage?_eq_none : drv.outage? n = none ↔ ¬ drv.FailsIn n (drv.next n) := by
  rw [outage?, List.find?_eq_none]
  constructor
  · rintro h ⟨k, hk, hnk, hdown⟩
    refine h k (List.mem_range'_1.2 ⟨hnk, hk⟩) hdown
  · intro h k hk hdown
    obtain ⟨hnk, hk⟩ := List.mem_range'_1.1 hk
    exact h ⟨k, hk, hnk, hdown⟩

/-- The call that fails is one of the access. -/
theorem outage?_eq_some (h : drv.outage? n = some k) :
    n ≤ k ∧ k < drv.next n ∧ drv.down k = true := by
  obtain ⟨hnk, hk⟩ := List.mem_range'_1.1 (List.mem_of_find?_eq_some h)
  exact ⟨hnk, hk, List.find?_some h⟩

theorem Up.outage? (h : drv.Up) (n : ℕ) : drv.outage? n = none := by
  rw [outage?_eq_none]
  rintro ⟨k, -, -, hdown⟩
  rw [h k] at hdown
  cases hdown

end Driver

/-- **A session**: what is committed, what its transaction makes of it,
whether the driver has begun one, and how many calls were made. -/
structure Session (σ : Type) where
  committed : σ
  view : σ
  begun : Bool := false
  calls : ℕ := 0

/-- A session none of whose calls is made. -/
def Session.fresh {σ : Type} (db : σ) : Session σ := { committed := db, view := db }

/-- **The body of a session.** -/
def Body (σ ε α : Type) : Type := Driver → Session σ → Except (Raised ε) α × Session σ

namespace Body

variable {σ ε ι α β : Type}

instance : Monad (Body σ ε) where
  pure a := fun _ s => (.ok a, s)
  bind p f := fun drv s =>
    match p drv s with
    | (.ok a, s') => f a drv s'
    | (.error e, s') => (.error e, s')

/-- Raise an error. -/
def raise (e : ε) : Body σ ε α := fun _ s => (.error (.error e), s)

/-- What the session holds already, and reads without the driver. -/
def held (f : σ → Except ε α) : Body σ ε α := fun _ s => ((f s.view).mapError .error, s)

/-- **An access to the database.** A call of it that finds the database
down raises, and no other call is made. -/
def access (f : σ → Except ε (σ × α)) : Body σ ε α := fun drv s =>
  match drv.outage? s.calls with
  | some k => (.error .operational, { s with calls := k + 1 })
  | none =>
    let s := { s with begun := true, calls := drv.next s.calls }
    match f s.view with
    | .error e => (.error (.error e), s)
    | .ok (view, a) => (.ok a, { s with view := view })

/-- A query, and what is made of its rows. -/
def fetch (f : σ → Except ε α) : Body σ ε α := access fun v => (f v).map fun a => (v, a)

/-- A query. -/
def query (f : σ → α) : Body σ ε α := access fun v => .ok (v, f v)

/-- What the session holds, once it is loaded if it must be. -/
def fetchIf (c : Prop) [Decidable c] (f : σ → Except ε α) : Body σ ε α :=
  if c then fetch f else held f

/-- An access whose answer the session holds. -/
def load : Body σ ε Unit := query fun _ => ()

/-- A flush whose integrity error is caught. Any other error is raised. -/
def attempt (f : σ → Except ε (Except ι (σ × α))) : Body σ ε (Except ι α) :=
  access fun v => (f v).map fun r =>
    match r with
    | .error e => (v, .error e)
    | .ok (v', a) => (v', .ok a)

/-- A flush whose integrity error is raised as another. -/
def flushOrRaise (f : σ → Except ε (Except ι (σ × α))) (handler : ι → ε) : Body σ ε α := do
  match ← attempt f with
  | .ok a => return a
  | .error e => raise (handler e)

/-- A body of which nothing is done unless a condition holds. -/
def onlyIf (c : Prop) [Decidable c] (p : Body σ ε Unit) : Body σ ε Unit :=
  if c then p else pure ()

/-- A query for each of a list. -/
def queryEach (f : α → σ → β) : List α → Body σ ε (List β)
  | [] => pure []
  | a :: l => do
    let b ← query (f a)
    let bs ← queryEach f l
    return b :: bs

/-- Take back what the transaction did. -/
def rollback : Body σ ε Unit :=
  fun _ s => (.ok (), { s with view := s.committed, begun := false })

/-- Commit what the transaction did. Where none is begun, no call is
made. -/
def commit : Body σ ε Unit := fun drv s =>
  if s.begun then
    match drv.outage? s.calls with
    | some k => (.error .operational, { s with calls := k + 1 })
    | none =>
      (.ok (), { committed := s.view, view := s.view, calls := drv.next s.calls })
  else (.ok (), s)

/-- A body, and then a commit. -/
def thenCommit (p : Body σ ε α) : Body σ ε α := do
  let a ← p
  commit
  return a

/-- `try … except`: the errors a handler takes, it answers for. -/
def tryExcept (p : Body σ ε α) (handler : ε → Option (Body σ ε α)) : Body σ ε α := fun drv s =>
  match p drv s with
  | (.error (.error e), s') =>
    match handler e with
    | some q => q drv s'
    | none => (.error (.error e), s')
  | (r, s') => (r, s')

/-- `try … finally`, where the clause returns: whatever was raised, an
outage too, is dropped for what the clause does. -/
def finallyReturn (p : Body σ ε α) (clause : Except (Raised ε) α → Body σ ε β) : Body σ ε β :=
  fun drv s =>
    let (r, s') := p drv s
    clause r drv s'

/-- A body whose error takes back what it did. -/
def restoring (p : Body σ ε α) : Body σ ε α := fun drv s =>
  match p drv s with
  | (.error e, s') => (.error e, { s' with view := s.view, begun := s.begun })
  | (.ok a, s') => (.ok a, s')

/-- **A savepoint**: set, and released when the body is through. -/
def nested (p : Body σ ε α) : Body σ ε α := do
  load
  restoring do
    let a ← p
    load
    return a

/-! ## What a run of each form does -/

variable {p q : Body σ ε α} {f : α → Body σ ε β} {g : σ → Except ε (σ × α)} {drv : Driver}
  {s s' : Session σ} {a : α} {e : Raised ε} {k : ℕ}

theorem bind_of_ok (h : p drv s = (.ok a, s')) : (p >>= f) drv s = f a drv s' := by
  change (match p drv s with | (.ok a, s') => f a drv s' | (.error e, s') => (.error e, s')) = _
  rw [h]

theorem bind_of_error (h : p drv s = (.error e, s')) : (p >>= f) drv s = (.error e, s') := by
  change (match p drv s with | (.ok a, s') => f a drv s' | (.error e, s') => (.error e, s')) = _
  rw [h]

theorem access_of_outage (h : drv.outage? s.calls = some k) :
    access g drv s = (.error .operational, { s with calls := k + 1 }) := by
  rw [access, h]

/-- The session once an access is made. -/
def accessed (drv : Driver) (s : Session σ) : Session σ :=
  { s with begun := true, calls := drv.next s.calls }

theorem access_of_error {e : ε} (h : drv.outage? s.calls = none) (hg : g s.view = .error e) :
    access g drv s = (.error (.error e), accessed drv s) := by
  simp only [access, h, hg, accessed]

theorem access_of_ok {v : σ} (h : drv.outage? s.calls = none) (hg : g s.view = .ok (v, a)) :
    access g drv s = (.ok a, { accessed drv s with view := v }) := by
  simp only [access, h, hg, accessed]

theorem commit_of_not_begun (h : s.begun = false) :
    (commit : Body σ ε Unit) drv s = (.ok (), s) := by
  rw [commit, h]
  rfl

theorem commit_of_outage (hs : s.begun = true) (h : drv.outage? s.calls = some k) :
    (commit : Body σ ε Unit) drv s = (.error .operational, { s with calls := k + 1 }) := by
  rw [commit, if_pos hs, h]

theorem commit_of_begun (hs : s.begun = true) (h : drv.outage? s.calls = none) :
    (commit : Body σ ε Unit) drv s =
      (.ok (), { committed := s.view, view := s.view, calls := drv.next s.calls }) := by
  rw [commit, if_pos hs, h]

theorem onlyIf_of_pos {b : Prop} [Decidable b] {p : Body σ ε Unit} (h : b) : onlyIf b p = p :=
  if_pos h

/-! ## Bodies that pass an outage -/

/-- **A run of a body passes an outage**: it raises the driver's error
exactly when one of its calls finds the database down, and commits
nothing. -/
structure PassesAt (p : Body σ ε α) (drv : Driver) (s : Session σ) : Prop where
  calls_le : s.calls ≤ (p drv s).2.calls
  operational_iff :
    (p drv s).1 = .error .operational ↔ drv.FailsIn s.calls (p drv s).2.calls
  committed : (p drv s).2.committed = s.committed

/-- Every run of it does. -/
def Passes (p : Body σ ε α) : Prop := ∀ drv s, PassesAt p drv s

/-- A run of which the outcome is known. -/
theorem PassesAt.of_eq {r : Except (Raised ε) α} (h : p drv s = (r, s'))
    (hle : s.calls ≤ s'.calls) (hiff : r = .error .operational ↔ drv.FailsIn s.calls s'.calls)
    (hcommitted : s'.committed = s.committed) : PassesAt p drv s := by
  refine ⟨?_, ?_, ?_⟩ <;> rw [h]
  · exact hle
  · exact hiff
  · exact hcommitted

/-- What the outcome of such a run is. -/
theorem PassesAt.eq {r : Except (Raised ε) α} (hp : PassesAt p drv s) (h : p drv s = (r, s')) :
    s.calls ≤ s'.calls ∧ (r = .error .operational ↔ drv.FailsIn s.calls s'.calls) ∧
      s'.committed = s.committed := by
  obtain ⟨hle, hiff, hcommitted⟩ := hp
  rw [h] at hle hiff hcommitted
  exact ⟨hle, hiff, hcommitted⟩

/-- A run that makes no call, and raises no outage. -/
theorem PassesAt.of_calls_eq {r : Except (Raised ε) α} (h : p drv s = (r, s'))
    (hcalls : s'.calls = s.calls) (hraise : r ≠ .error .operational)
    (hcommitted : s'.committed = s.committed) : PassesAt p drv s :=
  .of_eq h (Nat.le_of_eq hcalls.symm) (iff_of_false hraise (hcalls ▸ Driver.not_failsIn_self))
    hcommitted

theorem passes_pure (a : α) : Passes (pure a : Body σ ε α) :=
  fun _ _ => .of_calls_eq rfl rfl nofun rfl

theorem passes_raise (e : ε) : Passes (raise e : Body σ ε α) :=
  fun _ _ => .of_calls_eq rfl rfl (by simp) rfl

theorem passes_held (g : σ → Except ε α) : Passes (held g) := by
  refine fun _ s => .of_calls_eq rfl rfl ?_ rfl
  cases g s.view <;> simp [Except.mapError]

theorem passes_rollback : Passes (rollback : Body σ ε Unit) :=
  fun _ _ => .of_calls_eq rfl rfl nofun rfl

/-- **An access passes an outage.** -/
theorem passes_access (g : σ → Except ε (σ × α)) : Passes (access g) := by
  intro drv s
  cases hout : drv.outage? s.calls with
  | some k =>
    obtain ⟨hle, -, hdown⟩ := Driver.outage?_eq_some hout
    exact .of_eq (access_of_outage hout) (Nat.le_succ_of_le hle)
      (iff_of_true rfl ⟨k, Nat.lt_succ_self k, hle, hdown⟩) rfl
  | none =>
    have hnot := Driver.outage?_eq_none.1 hout
    cases hg : g s.view with
    | error e =>
      exact .of_eq (access_of_error hout hg) (Nat.le_of_lt Driver.lt_next)
        (iff_of_false (by simp) hnot) rfl
    | ok va =>
      exact .of_eq (access_of_ok hout hg) (Nat.le_of_lt Driver.lt_next)
        (iff_of_false nofun hnot) rfl

/-- **One body after another.** -/
theorem PassesAt.bind (hp : PassesAt p drv s)
    (hf : ∀ a s', p drv s = (.ok a, s') → PassesAt (f a) drv s') :
    PassesAt (p >>= f) drv s := by
  cases hrun : p drv s with
  | mk r s' =>
    obtain ⟨hle, hiff, hcommitted⟩ := hp.eq hrun
    cases r with
    | error e =>
      refine .of_eq (bind_of_error hrun) hle ?_ hcommitted
      rw [← hiff, Except.error.injEq, Except.error.injEq]
    | ok a =>
      have hnot : ¬ drv.FailsIn s.calls s'.calls := fun h => nomatch hiff.2 h
      cases hrun' : f a drv s' with
      | mk r' s'' =>
        obtain ⟨hle', hiff', hcommitted'⟩ := (hf a s' hrun).eq hrun'
        refine .of_eq ((bind_of_ok hrun).trans hrun') (Nat.le_trans hle hle') ?_
          (hcommitted'.trans hcommitted)
        rw [hiff', Driver.failsIn_append hle hle', or_iff_right hnot]

theorem Passes.bind (hp : Passes p) (hf : ∀ a, Passes (f a)) : Passes (p >>= f) :=
  fun drv s => (hp drv s).bind fun a s' _ => hf a drv s'

theorem Passes.ite {c : Prop} [Decidable c] (hp : Passes p) (hq : Passes q) :
    Passes (if c then p else q) := by
  split
  · exact hp
  · exact hq

theorem passes_fetch (g : σ → Except ε α) : Passes (fetch g) := passes_access _

theorem passes_query (g : σ → α) : Passes (query g : Body σ ε α) := passes_access _

theorem passes_fetchIf {c : Prop} [Decidable c] (g : σ → Except ε α) : Passes (fetchIf c g) :=
  (passes_fetch g).ite (passes_held g)

theorem passes_load : Passes (load : Body σ ε Unit) := passes_query _

theorem passes_queryEach (g : α → σ → β) (l : List α) :
    Passes (queryEach g l : Body σ ε (List β)) := by
  induction l with
  | nil => exact passes_pure []
  | cons a l ih => exact (passes_query _).bind fun _ => ih.bind fun _ => passes_pure _

theorem passes_attempt (g : σ → Except ε (Except ι (σ × α))) : Passes (attempt g) :=
  passes_access _

/-- Raising an integrity error as another raises no outage as another. -/
theorem passes_flushOrRaise (g : σ → Except ε (Except ι (σ × α))) (handler : ι → ε) :
    Passes (flushOrRaise g handler) := by
  refine (passes_attempt g).bind fun r => ?_
  cases r with
  | ok a => exact passes_pure a
  | error e => exact passes_raise (handler e)

theorem passes_onlyIf {c : Prop} [Decidable c] {p : Body σ ε Unit} (hp : Passes p) :
    Passes (onlyIf c p) :=
  hp.ite (passes_pure ())

/-- **A handler of other errors passes an outage.** -/
theorem Passes.tryExcept {handler : ε → Option (Body σ ε α)} (hp : Passes p)
    (hh : ∀ e q, handler e = some q → Passes q) : Passes (tryExcept p handler) := by
  intro drv s
  cases hrun : p drv s with
  | mk r s' =>
    obtain ⟨hle, hiff, hcommitted⟩ := (hp drv s).eq hrun
    rcases r with (_ | e) | a
    · exact .of_eq (by rw [Body.tryExcept, hrun]) hle hiff hcommitted
    · cases hcatch : handler e with
      | none => exact .of_eq (by simp only [Body.tryExcept, hrun, hcatch]) hle hiff hcommitted
      | some q =>
        have hnot : ¬ drv.FailsIn s.calls s'.calls := fun h => by simpa using hiff.2 h
        have htry : Body.tryExcept p handler drv s = q drv s' := by
          simp only [Body.tryExcept, hrun, hcatch]
        cases hrun' : q drv s' with
        | mk r' s'' =>
          obtain ⟨hle', hiff', hcommitted'⟩ := (hh e q hcatch drv s').eq hrun'
          refine .of_eq (htry.trans hrun') (Nat.le_trans hle hle') ?_ (hcommitted'.trans hcommitted)
          rw [hiff', Driver.failsIn_append hle hle', or_iff_right hnot]
    · exact .of_eq (by rw [Body.tryExcept, hrun]) hle hiff hcommitted

theorem finallyReturn_of_eq {clause : Except (Raised ε) α → Body σ ε β} {r : Except (Raised ε) α}
    (h : p drv s = (r, s')) : finallyReturn p clause drv s = clause r drv s' := by
  rw [finallyReturn, h]

/-- **A clause that is run whatever was raised**: an outage that was raised
before it passes only if there is none. -/
theorem PassesAt.finallyReturn {clause : Except (Raised ε) α → Body σ ε β} (hp : PassesAt p drv s)
    (hup : (p drv s).1 ≠ .error .operational) (hclause : ∀ r, Passes (clause r)) :
    PassesAt (finallyReturn p clause) drv s := by
  have hnot := mt hp.operational_iff.2 hup
  cases hrun : p drv s with
  | mk r s' =>
    obtain ⟨hle, -, hcommitted⟩ := hp.eq hrun
    rw [hrun] at hnot
    cases hrun' : clause r drv s' with
    | mk r' s'' =>
      obtain ⟨hle', hiff', hcommitted'⟩ := (hclause r drv s').eq hrun'
      refine .of_eq ((finallyReturn_of_eq hrun).trans hrun') (Nat.le_trans hle hle') ?_
        (hcommitted'.trans hcommitted)
      rw [hiff', Driver.failsIn_append hle hle', or_iff_right hnot]

theorem Passes.restoring (hp : Passes p) : Passes (restoring p) := by
  intro drv s
  cases hrun : p drv s with
  | mk r s' =>
    obtain ⟨hle, hiff, hcommitted⟩ := (hp drv s).eq hrun
    cases r with
    | error e =>
      have hrestored : Body.restoring p drv s =
          (.error e, { s' with view := s.view, begun := s.begun }) := by
        rw [Body.restoring, hrun]
      exact .of_eq hrestored hle hiff hcommitted
    | ok a => exact .of_eq (by rw [Body.restoring, hrun]) hle hiff hcommitted

/-- **A savepoint passes an outage**, of the body or of the savepoint. -/
theorem Passes.nested (hp : Passes p) : Passes (nested p) :=
  passes_load.bind fun _ =>
    (hp.bind fun a => passes_load.bind fun _ => passes_pure a).restoring

/-- **A loop passes an outage**, of whichever turn. -/
theorem passes_foldlM {step : β → α → Body σ ε β} (h : ∀ b a, Passes (step b a)) (l : List α)
    (b : β) : Passes (l.foldlM step b) := by
  induction l generalizing b with
  | nil => exact passes_pure b
  | cons a l ih =>
    rw [List.foldlM_cons]
    exact (h b a).bind ih

/-! ## The commit of what a body did -/

theorem thenCommit_of_error (h : p drv s = (.error e, s')) :
    thenCommit p drv s = (.error e, s') := bind_of_error h

theorem thenCommit_of_commit_error {s'' : Session σ} (h : p drv s = (.ok a, s'))
    (h' : (commit : Body σ ε Unit) drv s' = (.error e, s'')) :
    thenCommit p drv s = (.error e, s'') :=
  (bind_of_ok h).trans (bind_of_error h')

theorem thenCommit_of_ok {s'' : Session σ} (h : p drv s = (.ok a, s'))
    (h' : (commit : Body σ ε Unit) drv s' = (.ok (), s'')) :
    thenCommit p drv s = (.ok a, s'') :=
  (bind_of_ok h).trans (bind_of_ok h')

/-- **A commit after a body that passes an outage**: one that fails commits
nothing, and no other call of the body failed before it. -/
theorem PassesAt.thenCommit (hp : PassesAt p drv s) :
    ((thenCommit p drv s).1 = .error .operational ↔
      drv.FailsIn s.calls (thenCommit p drv s).2.calls) ∧
    ((thenCommit p drv s).1 = .error .operational →
      (thenCommit p drv s).2.committed = s.committed) := by
  cases hrun : p drv s with
  | mk r s' =>
    obtain ⟨hle, hiff, hcommitted⟩ := hp.eq hrun
    cases r with
    | error e =>
      rw [thenCommit_of_error hrun]
      exact ⟨hiff, fun _ => hcommitted⟩
    | ok a =>
      have hnot : ¬ drv.FailsIn s.calls s'.calls := fun h => nomatch hiff.2 h
      cases hbegun : s'.begun with
      | false =>
        rw [thenCommit_of_ok hrun (commit_of_not_begun hbegun)]
        exact ⟨iff_of_false nofun hnot, nofun⟩
      | true =>
        cases hcall : drv.outage? s'.calls with
        | some k =>
          obtain ⟨hk, -, hdown⟩ := Driver.outage?_eq_some hcall
          rw [thenCommit_of_commit_error hrun (commit_of_outage hbegun hcall)]
          exact ⟨iff_of_true rfl ⟨k, Nat.lt_succ_self k, Nat.le_trans hle hk, hdown⟩,
            fun _ => hcommitted⟩
        | none =>
          rw [thenCommit_of_ok hrun (commit_of_begun hbegun hcall)]
          refine ⟨iff_of_false nofun ?_, nofun⟩
          rw [Driver.failsIn_append hle (Nat.le_of_lt Driver.lt_next), or_iff_right hnot]
          exact Driver.outage?_eq_none.1 hcall

/-- **A second commit makes no call.** -/
theorem thenCommit_thenCommit (p : Body σ ε α) : p.thenCommit.thenCommit = p.thenCommit := by
  funext drv s
  cases hrun : p drv s with
  | mk r s' =>
    cases r with
    | error e =>
      have hbody := thenCommit_of_error hrun
      rw [hbody, thenCommit_of_error hbody]
    | ok a =>
      cases hbegun : s'.begun with
      | false =>
        have hbody := thenCommit_of_ok hrun (commit_of_not_begun hbegun)
        rw [hbody, thenCommit_of_ok hbody (commit_of_not_begun hbegun)]
      | true =>
        cases hcall : drv.outage? s'.calls with
        | some k =>
          have hbody := thenCommit_of_commit_error hrun (commit_of_outage hbegun hcall)
          rw [hbody, thenCommit_of_error hbody]
        | none =>
          have hbody := thenCommit_of_ok hrun (commit_of_begun hbegun hcall)
          rw [hbody, thenCommit_of_ok hbody (commit_of_not_begun rfl)]

end Body

end WazoDird
