import Mathlib.Logic.Function.Basic
import WazoDird.Common.Run
import WazoDird.SourceManager.Model

/-!
# The source manager under concurrent calls

Any number of threads call `get`, `invalidate` and the source service's
`edit` and `create`, one atomic step at a time: taking the lock, checking
the cache, reading the database, loading, storing under the name, storing
under the uuid, releasing. `edit` commits and then invalidates, and any
step of any thread may come in between.

A clock counts the steps. A call of `get` remembers when it started, a
plugin when its configuration was read and an edit when it committed;
nothing in the code reads these. An edit or a creation that raises
changes nothing and takes no step.
-/

namespace WazoDird

/-- Where a thread is. -/
inductive Pc where
  | idle
  /-- `get` is called, and waits for the lock. -/
  | getCalled (u : Uuid) (since : ℕ)
  /-- `get` holds the lock, and is to check the cache. -/
  | getLocked (u : Uuid) (since : ℕ)
  /-- Nothing is cached: `get` is to read the database. -/
  | getMissed (u : Uuid) (since : ℕ)
  /-- The configuration is read, and a plugin is to be made of it. -/
  | getRead (u : Uuid) (since : ℕ) (source : Plugin)
  /-- The plugin is loaded, and to be stored under its name. -/
  | getLoaded (u : Uuid) (since : ℕ) (source : Plugin)
  /-- `_load_source` has returned: its result is to be stored. -/
  | getBuilt (u : Uuid) (since : ℕ) (source : Option Plugin)
  /-- The entry is to be read and the lock released. -/
  | getStored (u : Uuid) (since : ℕ)
  /-- `get` has released the lock, and is to return. -/
  | getReleased (u : Uuid) (since : ℕ) (source : Option Plugin)
  /-- `invalidate` is called, for an edit committed at some moment or on
  its own, and waits for the lock. -/
  | dropCalled (u : Uuid) (commit : Option ℕ)
  /-- `invalidate` holds the lock, and is to drop the entry. -/
  | dropLocked (u : Uuid) (commit : Option ℕ)
  /-- The entry is dropped, and the lock is to be released. -/
  | dropPopped (u : Uuid) (commit : Option ℕ)
  /-- The lock is released, and the call is to return. -/
  | dropReleased (u : Uuid) (commit : Option ℕ)

namespace Pc

/-- Whether a thread is within the critical section. -/
def locked : Pc → Bool
  | getLocked .. | getMissed .. | getRead .. | getLoaded .. | getBuilt .. | getStored ..
  | dropLocked .. | dropPopped .. => true
  | idle | getCalled .. | getReleased .. | dropCalled .. | dropReleased .. => false

/-- The moment a call remembers: when a get started, when an edit
committed. -/
def stamp : Pc → Option ℕ
  | idle => none
  | getCalled _ k | getLocked _ k | getMissed _ k | getRead _ k _ | getLoaded _ k _
  | getBuilt _ k _ | getStored _ k | getReleased _ k _ => some k
  | dropCalled _ c | dropLocked _ c | dropPopped _ c | dropReleased _ c => c

end Pc

/-- **The state**: the database, the cache and its lock, the threads, and
the number of steps so far. -/
structure ManagerState where
  db : Database
  sources : PluginCache := ∅
  lock : Option ℕ := none
  threads : ℕ → Pc := fun _ => .idle
  clock : ℕ := 0

/-- What a step shows. -/
inductive ManagerEvent where
  /-- A step within a call. -/
  | internal (t : ℕ)
  | getStarted (t : ℕ) (u : Uuid)
  /-- `get` returns, having started at a moment. -/
  | getReturned (t : ℕ) (u : Uuid) (since : ℕ) (source : Option Plugin)
  | getRaised (t : ℕ) (u : Uuid)
  | invalidateStarted (t : ℕ) (u : Uuid)
  | invalidateReturned (t : ℕ) (u : Uuid)
  | editCommitted (t : ℕ) (u : Uuid)
  /-- `edit` returns, having committed at a moment. -/
  | editReturned (t : ℕ) (u : Uuid) (committedAt : ℕ)
  | created (t : ℕ) (u : Uuid)

/-- The step writes no configuration, and calls the manager for none but
the uuids of a set. -/
def ManagerEvent.OnlyAsks (asked : Set Uuid) : ManagerEvent → Prop
  | editCommitted .. | created .. => False
  | getStarted _ u | invalidateStarted _ u => u ∈ asked
  | internal .. | getReturned .. | getRaised .. | invalidateReturned .. | editReturned .. => True

namespace ManagerState

/-- A thread moves on, and the clock with it. -/
def move (s : ManagerState) (t : ℕ) (pc : Pc) : ManagerState :=
  { s with threads := Function.update s.threads t pc, clock := s.clock + 1 }

variable (s : ManagerState) (t t' : ℕ) (pc : Pc)

@[simp] theorem move_db : (s.move t pc).db = s.db := rfl
@[simp] theorem move_sources : (s.move t pc).sources = s.sources := rfl
@[simp] theorem move_lock : (s.move t pc).lock = s.lock := rfl
@[simp] theorem move_clock : (s.move t pc).clock = s.clock + 1 := rfl
theorem move_threads :
    (s.move t pc).threads t' = if t' = t then pc else s.threads t' := by
  simp [move, Function.update_apply]

@[simp] theorem move_threads_self : (s.move t pc).threads t = pc := by
  rw [move_threads, if_pos rfl]

variable {s t pc} in
/-- What holds of every thread, and of where one moves to, holds of every
thread after the move. -/
theorem forall_move {P : Pc → Prop} (h : ∀ t', P (s.threads t')) (hpc : P pc) (t' : ℕ) :
    P ((s.move t pc).threads t') := by
  rw [move_threads]
  split
  · exact hpc
  · exact h t'

end ManagerState

open ManagerState in
/-- **One step of one thread.** -/
inductive ManagerStep (installed : String → Bool) :
    ManagerState → ManagerEvent → ManagerState → Prop
  | getStart {s t} (u : Uuid) (h : s.threads t = .idle) :
      ManagerStep installed s (.getStarted t u) (s.move t (.getCalled u s.clock))
  | getAcquire {s t u k} (h : s.threads t = .getCalled u k) (hl : s.lock = none) :
      ManagerStep installed s (.internal t) { s.move t (.getLocked u k) with lock := some t }
  | hit {s t u k p} (h : s.threads t = .getLocked u k) (hc : s.sources.cached u = some p) :
      ManagerStep installed s (.internal t) (s.move t (.getStored u k))
  | miss {s t u k} (h : s.threads t = .getLocked u k) (hc : s.sources.cached u = none) :
      ManagerStep installed s (.internal t) (s.move t (.getMissed u k))
  | read {s t u k o config} (h : s.threads t = .getMissed u k)
      (hr : SourceCRUD.getByUuid o s.db u = .ok config) :
      ManagerStep installed s (.internal t) (s.move t (.getRead u k ⟨config, s.clock⟩))
  | readNothing {s t u k o v} (h : s.threads t = .getMissed u k)
      (hr : SourceCRUD.getByUuid o s.db u = .error (.noSuchSource v)) :
      ManagerStep installed s (.internal t) (s.move t (.getBuilt u k none))
  /-- Any other failure of the query, the server being away included. -/
  | readRaises {s t u k} (h : s.threads t = .getMissed u k) :
      ManagerStep installed s (.getRaised t u) { s.move t .idle with lock := none }
  | notInstalled {s t u k p} (h : s.threads t = .getRead u k p)
      (hi : installed p.config.backend = false) :
      ManagerStep installed s (.internal t) (s.move t (.getBuilt u k none))
  | loadRaises {s t u k p} (h : s.threads t = .getRead u k p)
      (hi : installed p.config.backend = true) :
      ManagerStep installed s (.internal t) (s.move t (.getBuilt u k (some p)))
  | load {s t u k p} (h : s.threads t = .getRead u k p)
      (hi : installed p.config.backend = true) :
      ManagerStep installed s (.internal t) (s.move t (.getLoaded u k p))
  | storeName {s t u k p} (h : s.threads t = .getLoaded u k p) :
      ManagerStep installed s (.internal t)
        { s.move t (.getBuilt u k (some p)) with sources := s.sources.set p.name (some p) }
  | storeUuid {s t u k r} (h : s.threads t = .getBuilt u k r) :
      ManagerStep installed s (.internal t)
        { s.move t (.getStored u k) with sources := s.sources.set u r }
  | getRelease {s t u k} (h : s.threads t = .getStored u k) :
      ManagerStep installed s (.internal t)
        { s.move t (.getReleased u k (s.sources.cached u)) with lock := none }
  | getReturn {s t u k r} (h : s.threads t = .getReleased u k r) :
      ManagerStep installed s (.getReturned t u k r) (s.move t .idle)
  | invalidateStart {s t} (u : Uuid) (h : s.threads t = .idle) :
      ManagerStep installed s (.invalidateStarted t u) (s.move t (.dropCalled u none))
  | editCommit {s t u o backend tenants body info db'} (h : s.threads t = .idle)
      (he : SourceCRUD.edit o s.db backend u tenants body = (.ok info, db')) :
      ManagerStep installed s (.editCommitted t u)
        { s.move t (.dropCalled u (some s.clock)) with db := db' }
  | dropAcquire {s t u c} (h : s.threads t = .dropCalled u c) (hl : s.lock = none) :
      ManagerStep installed s (.internal t) { s.move t (.dropLocked u c) with lock := some t }
  | pop {s t u c} (h : s.threads t = .dropLocked u c) :
      ManagerStep installed s (.internal t)
        { s.move t (.dropPopped u c) with sources := SourceManager.invalidate s.sources u }
  | dropRelease {s t u c} (h : s.threads t = .dropPopped u c) :
      ManagerStep installed s (.internal t) { s.move t (.dropReleased u c) with lock := none }
  | invalidateReturn {s t u} (h : s.threads t = .dropReleased u none) :
      ManagerStep installed s (.invalidateReturned t u) (s.move t .idle)
  | editReturn {s t u c} (h : s.threads t = .dropReleased u (some c)) :
      ManagerStep installed s (.editReturned t u c) (s.move t .idle)
  | create {s t defaults backend tenant body info db'} (h : s.threads t = .idle)
      (hc : SourceCRUD.create s.db defaults backend tenant body = (.ok info, db')) :
      ManagerStep installed s (.created t info.uuid) { s.move t .idle with db := db' }

/-! ## A get on its own

A get that no other thread comes between does what `SourceManager.get`
says, so the machine has the sequential method among its runs. Runs may
be restricted to the steps that meet a condition, as long as the steps of
that get do. -/

section Alone

variable {installed : String → Bool} {guard : Database → ManagerEvent → Prop}
  {s s₁ s₂ s' : ManagerState} {t n : ℕ} {u : Uuid} {r : Option Plugin} {sources : PluginCache}
  {o : RowOrder Source} {raises : Bool} {l : List ManagerEvent} {e : ManagerEvent} {pc pc' : Pc}

/-- The steps that meet a condition on the database and the event. -/
abbrev GuardedStep (installed : String → Bool) (guard : Database → ManagerEvent → Prop) :
    ManagerState → ManagerEvent → ManagerState → Prop :=
  Guarded (fun s e => guard s.db e) (ManagerStep installed)

/-- Where a run in which one thread alone moves has come. -/
structure Alone (installed : String → Bool) (guard : Database → ManagerEvent → Prop)
    (s : ManagerState) (t : ℕ) (l : List ManagerEvent) (n : ℕ) (pc : Pc) (s₁ : ManagerState) :
    Prop where
  run : Run (GuardedStep installed guard) s l s₁
  db : s₁.db = s.db
  clock : s₁.clock = s.clock + n
  thread : s₁.threads t = pc
  others : ∀ t' ≠ t, s₁.threads t' = s.threads t'

/-- One more step of the thread. -/
theorem Alone.next (h : Alone installed guard s t l n pc s₁)
    (hstep : ManagerStep installed s₁ e s₂) (he : guard s.db e)
    (hmove : s₂.threads = (s₁.move t pc').threads) (hdb : s₂.db = s₁.db)
    (hclock : s₂.clock = s₁.clock + 1) :
    Alone installed guard s t (l ++ [e]) (n + 1) pc' s₂ := by
  have he' : guard s₁.db e := by rw [h.db]; exact he
  refine ⟨h.run.snoc ⟨he', hstep⟩, hdb.trans h.db, ?_, ?_, fun t' ht => ?_⟩
  · rw [hclock, h.clock, Nat.add_assoc]
  · rw [hmove, ManagerState.move_threads_self]
  · rw [hmove, ManagerState.move_threads, if_neg ht, h.others t' ht]

/-- A get that was alone: it returned, and left the manager idle with a
cache. -/
structure GetAlone (installed : String → Bool) (guard : Database → ManagerEvent → Prop)
    (s : ManagerState) (t : ℕ) (u : Uuid) (r : Option Plugin) (sources : PluginCache)
    (l : List ManagerEvent) (s' : ManagerState) : Prop where
  run : Run (GuardedStep installed guard) s l s'
  returned : .getReturned t u s.clock r ∈ l
  db : s'.db = s.db
  sources : s'.sources = sources
  lock : s'.lock = none
  threads : ∀ t', s'.threads t' = s.threads t'

/-- From an entry to read, a get releases the lock and returns. -/
theorem Alone.getReturn (hguard : ∀ e, e.OnlyAsks {u} → guard s.db e) (hidle : s.threads t = .idle)
    (h : Alone installed guard s t l n (.getStored u s.clock) s₁)
    (hr : s₁.sources.cached u = r) (hc : s₁.sources = sources) :
    ∃ l' s', GetAlone installed guard s t u r sources l' s' := by
  subst hr
  have hrelease := h.next (.getRelease h.thread) (hguard _ trivial) rfl rfl rfl
  have hreturn := hrelease.next (.getReturn hrelease.thread) (hguard _ trivial) rfl rfl rfl
  refine ⟨_, _, hreturn.run, by simp, hreturn.db, hc, rfl, fun t' => ?_⟩
  by_cases ht : t' = t
  · rw [ht, hidle, hreturn.thread]
  · exact hreturn.others t' ht

/-- From a result to store, a get stores it under the uuid and returns
it. -/
theorem Alone.getStore (hguard : ∀ e, e.OnlyAsks {u} → guard s.db e) (hidle : s.threads t = .idle)
    (h : Alone installed guard s t l n (.getBuilt u s.clock r) s₁)
    (hc : s₁.sources.set u r = sources) :
    ∃ l' s', GetAlone installed guard s t u r sources l' s' := by
  have hstore := h.next (.storeUuid h.thread) (hguard _ trivial) rfl rfl rfl
  exact hstore.getReturn hguard hidle (Dict.cached_set_self ..) hc

/-- **A get nothing comes between is the sequential `get`**: it returns
what that returns and leaves the cache it leaves. -/
theorem get_alone (guard : Database → ManagerEvent → Prop)
    (hguard : ∀ e, e.OnlyAsks {u} → guard s.db e) (hidle : s.threads t = .idle)
    (hlock : s.lock = none)
    (h : SourceManager.get installed raises (s.clock + 3) o s.db s.sources u = (.ok r, sources)) :
    ∃ l s', GetAlone installed guard s t u r sources l s' := by
  have hidle' : Alone installed guard s t [] 0 .idle s :=
    ⟨Run.nil s, rfl, rfl, hidle, fun _ _ => rfl⟩
  have hcalled := hidle'.next (.getStart u hidle) (hguard _ rfl) rfl rfl rfl
  have hlocked := hcalled.next (.getAcquire hcalled.thread hlock) (hguard _ trivial) rfl rfl rfl
  unfold SourceManager.get at h
  split at h
  · next p hp =>
    cases h
    have hhit := hlocked.next (.hit hlocked.thread hp) (hguard _ trivial) rfl rfl rfl
    exact hhit.getReturn hguard hidle hp rfl
  · next hp =>
    have hmissed := hlocked.next (.miss hlocked.thread hp) (hguard _ trivial) rfl rfl rfl
    split at h
    · cases h
    · next source cache hload =>
      simp only [Dict.cached_set_self, Prod.mk.injEq, Except.ok.injEq] at h
      obtain ⟨rfl, rfl⟩ := h
      unfold SourceManager.loadSource at hload
      split at hload
      · next v hread =>
        cases hload
        have hnothing := hmissed.next (.readNothing hmissed.thread hread) (hguard _ trivial) rfl
          rfl rfl
        exact hnothing.getStore hguard hidle rfl
      · cases hload
      · next config hread =>
        have hdone := hmissed.next (.read hmissed.thread hread) (hguard _ trivial) rfl rfl rfl
        split at hload
        · next hi =>
          cases hload
          cases raises with
          | true =>
            have hraised := hdone.next (.loadRaises hdone.thread hi) (hguard _ trivial) rfl rfl rfl
            exact hraised.getStore hguard hidle rfl
          | false =>
            have hloaded := hdone.next (.load hdone.thread hi) (hguard _ trivial) rfl rfl rfl
            have hnamed := hloaded.next (.storeName hloaded.thread) (hguard _ trivial) rfl rfl rfl
            exact hnamed.getStore hguard hidle rfl
        · next hi =>
          cases hload
          have hi : installed config.backend = false := by simpa using hi
          have hnone := hdone.next (.notInstalled hdone.thread hi) (hguard _ trivial) rfl rfl rfl
          exact hnone.getStore hguard hidle rfl

/-- **An edit nothing comes between** commits and drops the entry, and is
then to return. -/
theorem edit_alone (guard : Database → ManagerEvent → Prop) {db' : Database} {backend : String}
    {tenants : Option (List Uuid)} {body : SourceBody} {info : SourceInfo}
    (hguard : ∀ e, guard s.db e) (hguard' : ∀ e, guard db' e) (hidle : s.threads t = .idle)
    (hlock : s.lock = none)
    (he : SourceCRUD.edit o s.db backend u tenants body = (.ok info, db')) :
    ∃ l s₁, Run (GuardedStep installed guard) s l s₁ ∧
      s₁.threads t = .dropReleased u (some s.clock) ∧ s₁.db = db' ∧ s₁.lock = none ∧
      s₁.sources = SourceManager.invalidate s.sources u ∧
      ∀ t' ≠ t, s₁.threads t' = s.threads t' := by
  have hcommit := @ManagerStep.editCommit installed _ _ _ _ _ _ _ _ _ hidle he
  have hcalled : Alone installed guard { s.move t (.dropCalled u (some s.clock)) with db := db' } t
      [] 0 (.dropCalled u (some s.clock)) { s.move t (.dropCalled u (some s.clock)) with db := db' } :=
    ⟨Run.nil _, rfl, rfl, ManagerState.move_threads_self .., fun _ _ => rfl⟩
  have hlocked := hcalled.next (.dropAcquire hcalled.thread hlock) (hguard' _) rfl rfl rfl
  have hpopped := hlocked.next (.pop hlocked.thread) (hguard' _) rfl rfl rfl
  have hreleased := hpopped.next (.dropRelease hpopped.thread) (hguard' _) rfl rfl rfl
  refine ⟨_, _, Run.cons ⟨hguard _, hcommit⟩ hreleased.run, hreleased.thread, hreleased.db, rfl,
    rfl, fun t' ht => ?_⟩
  rw [hreleased.others t' ht]
  exact (ManagerState.move_threads ..).trans (if_neg ht)

end Alone

end WazoDird
