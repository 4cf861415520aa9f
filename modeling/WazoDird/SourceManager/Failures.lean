import WazoDird.SourceManager.Unload

/-!
# Loads that fail

`_add_source_with_config` catches what a plugin's `load` raises and returns
the plugin all the same, so `get` stores it under the uuid of its source
and answers with it, then and on every later call, until the source is
invalidated. No load is tried again, so the manager serves only plugins
that were loaded in the runs where no load raises.
-/

namespace WazoDird

namespace UnloadState

variable {installed : String → Bool} {s : UnloadState} {c : ManagerCall} {p : Plugin} {u : Uuid}
  {o : RowOrder Source} {db : Database} {raises : Bool} {l : List ManagerCall}

variable (installed) in
/-- The plugin whose `load` raises in a call. -/
def fails (s : UnloadState) : ManagerCall → Option Plugin
  | .get u o db true => s.loading installed u o db
  | .get _ _ _ false | .invalidate _ => none

variable (installed) in
/-- What a get answers. -/
def answer (s : UnloadState) (u : Uuid) (o : RowOrder Source) (db : Database) (raises : Bool) :
    Except DirdError (Option Plugin) :=
  (SourceManager.get installed raises s.clock o db s.sources u).1

/-- **A get that loads a plugin answers with it**, whether its `load`
raised or not. -/
theorem answer_of_loading (h : s.loading installed u o db = some p) :
    s.answer installed u o db raises = .ok (some p) := by
  obtain ⟨-, hat, hmiss, hread, hi⟩ := loading_eq_some h
  obtain ⟨config, readAt⟩ := p
  cases hat
  simp [answer, SourceManager.get, hmiss, SourceManager.loadSource, hread, hi,
    SourceManager.addSourceWithConfig]

/-- A get of what is cached answers with that. -/
theorem answer_of_cached (h : s.sources.cached u = some p) :
    s.answer installed u o db raises = .ok (some p) := by
  simp [answer, SourceManager.get, h]

/-- The call in which a `load` raises is a get that loads. -/
theorem exists_of_fails (h : s.fails installed c = some p) :
    ∃ u o db, c = .get u o db true ∧ s.loading installed u o db = some p := by
  cases c with
  | invalidate u => cases h
  | get u o db raises =>
    cases raises with
    | false => cases h
    | true => exact ⟨u, o, db, rfl, h⟩

/-- A failed plugin is cached under the uuid of its source, as one that was
loaded. -/
theorem cached_of_fails (h : s.fails installed c = some p) :
    (s.exec installed c).sources.cached p.config.uuid = some p := by
  obtain ⟨u, o, db, rfl, hload⟩ := exists_of_fails h
  obtain ⟨rfl, -⟩ := loading_eq_some hload
  have hcached : (s.exec installed (.get p.config.uuid o db true)).sources.cached p.config.uuid =
    _ := s.cached_get true p.config.uuid o db p.config.uuid
  rw [hcached, hload]
  exact if_pos (Or.inl rfl)

/-- **A failed plugin is served on**, to the end of a run that does not
drop its source's uuid, whatever a `load` would do by then. -/
theorem failed_served_on (h : s.fails installed c = some p)
    (hkept : Kept installed (s.exec installed c) l p.config.uuid) :
    (run installed (s.exec installed c) l).answer installed p.config.uuid o db raises =
      .ok (some p) := by
  have hat : p.readAt < (s.exec installed c).clock := by
    obtain ⟨u, o, db, rfl, hload⟩ := exists_of_fails h
    rw [(loading_eq_some hload).2.1]
    exact Nat.lt_succ_self _
  exact answer_of_cached ((cached_run hat).2 ⟨cached_of_fails h, hkept⟩)

variable (installed) in
/-- **No load of a run raises.** -/
def NoneFails (l : List ManagerCall) : Prop :=
  ∀ l₁ c l₂, l = l₁ ++ c :: l₂ → (run installed {} l₁).fails installed c = none

variable (installed) in
/-- The plugins whose `load` raised in a run. -/
def FailedIn (l : List ManagerCall) (p : Plugin) : Prop :=
  ∃ l₁ c l₂, l = l₁ ++ c :: l₂ ∧ (run installed {} l₁).fails installed c = some p

variable (installed) in
/-- A source whose load failed in a run, and did not succeed since. -/
def LastFailed (l : List ManagerCall) (u : Uuid) : Prop :=
  ∃ l₁ c l₂ p, l = l₁ ++ c :: l₂ ∧ (run installed {} l₁).fails installed c = some p ∧
    p.config.uuid = u ∧ ∀ l₃ c' l₄, l₂ = l₃ ++ c' :: l₄ →
      ∀ q, (run installed {} (l₁ ++ c :: l₃)).loads installed c' = some q → q.config.uuid ≠ u

variable (installed) in
/-- **A get serves only what was loaded**, and after a failed load tries
again. -/
structure ServesLoaded (l : List ManagerCall) (u : Uuid) (o : RowOrder Source) (db : Database)
    (raises : Bool) : Prop where
  /-- The plugin it answers with is none whose `load` raised. -/
  served : ∀ p, (run installed {} l).answer installed u o db raises = .ok (some p) →
    ¬ FailedIn installed (l ++ [.get u o db raises]) p
  /-- The load is tried again, and its plugin is served when it succeeds. -/
  retried : ∀ config, LastFailed installed l u → SourceCRUD.getByUuid o db u = .ok config →
    installed config.backend = true →
    (run installed {} l).loading installed u o db = some ⟨config, (run installed {} l).clock⟩ ∧
      (raises = false → (run installed {} l).answer installed u o db raises =
        .ok (some ⟨config, (run installed {} l).clock⟩))

/-- **Every get of a run serves only what was loaded exactly when no load
of the run raises.** -/
theorem servesLoaded_iff (installed : String → Bool) (l : List ManagerCall) :
    (∀ l₁ u o db raises l₂, l = l₁ ++ .get u o db raises :: l₂ →
      ServesLoaded installed l₁ u o db raises) ↔ NoneFails installed l := by
  constructor
  · rintro h l₁ c l₂ rfl
    refine Option.eq_none_iff_forall_ne_some.2 fun p hp => ?_
    cases c with
    | invalidate u => cases hp
    | get u o db raises =>
      cases raises with
      | false => cases hp
      | true =>
        have hload : (run installed {} l₁).loading installed u o db = some p := hp
        exact (h l₁ u o db true l₂ rfl).served p (answer_of_loading hload) ⟨l₁, _, [], rfl, hp⟩
  · rintro hnone l₁ u o db raises l₂ rfl
    constructor
    · rintro p - ⟨l₃, c, l₄, hl, hp⟩
      have hsplit : l₁ ++ .get u o db raises :: l₂ = l₃ ++ c :: (l₄ ++ l₂) := by
        rw [← List.singleton_append, ← List.append_assoc, hl, List.append_assoc]
        rfl
      rw [hnone l₃ c (l₄ ++ l₂) hsplit] at hp
      cases hp
    · rintro config ⟨l₃, c, l₄, p, rfl, hp, -⟩ - -
      rw [hnone l₃ c (l₄ ++ .get u o db raises :: l₂) (by simp)] at hp
      cases hp

/-- One source, with a backend that is installed. -/
private def failingSource : Database where
  tenants := [{ uuid := "t", country := none }]
  sources := [{ uuid := "u", rawName := "phone", tenantUuid := "t", backend := "csv" }]

/-- **A plugin whose load failed is served**, and not loaded again by a
get whose load would succeed. -/
theorem serves_failed : ¬ ∀ (installed : String → Bool) (l : List ManagerCall) l₁ u o db raises l₂,
    l = l₁ ++ .get u o db raises :: l₂ → ServesLoaded installed l₁ u o db raises := by
  intro h
  have hserves := h (fun _ => true)
    [.get "u" .asStored failingSource true, .get "u" .asStored failingSource false]
    [.get "u" .asStored failingSource true] "u" .asStored failingSource false [] rfl
  have hfailed : FailedIn (fun _ => true)
      ([.get "u" .asStored failingSource true] ++ [.get "u" .asStored failingSource false]) _ :=
    ⟨[], .get "u" .asStored failingSource true, [.get "u" .asStored failingSource false], rfl, rfl⟩
  exact hserves.served _ rfl hfailed

end UnloadState

end WazoDird
