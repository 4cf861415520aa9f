import WazoDird.SourceManager.Concurrent

/-!
# Whose plugin a get serves

Over a database that does not change, an entry of the cache is either
the plugin of the source it is read for, or that of a source called by
the key: `_add_source_with_config` stores a plugin under its name, where
everything else is keyed by uuid. So gets of some uuids, with any
invalidations in any interleaving, serve each its own source exactly when
no stored source among them is named by another's uuid
(`manager_serves_iff`).
-/

namespace WazoDird

variable {installed : String → Bool} {asked : Set Uuid} {db : Database} {s s' : ManagerState}
  {e : ManagerEvent} {t : ℕ} {u k : Uuid} {p : Plugin}

/-- What an entry of the cache holds: the plugin of its key, or that of
an asked source its key is the name of. -/
def Entry (installed : String → Bool) (asked : Set Uuid) (db : Database) (k : Uuid)
    (p : Plugin) : Prop :=
  BuiltFrom db k p ∨
    ∃ u ∈ asked, BuiltFrom db u p ∧ installed p.config.backend = true ∧ p.name = k

/-- What a thread of a get has in hand. -/
def PcServes (installed : String → Bool) (asked : Set Uuid) (db : Database) : Pc → Prop
  | .getCalled u _ | .getLocked u _ | .getMissed u _ | .getStored u _ => u ∈ asked
  | .getRead u _ p => u ∈ asked ∧ BuiltFrom db u p
  | .getLoaded u _ p => u ∈ asked ∧ BuiltFrom db u p ∧ installed p.config.backend = true
  | .getBuilt u _ r => u ∈ asked ∧ ∀ p, r = some p → BuiltFrom db u p
  | .getReleased u _ r => u ∈ asked ∧ ∀ p, r = some p → Entry installed asked db u p
  | .idle | .dropCalled .. | .dropLocked .. | .dropPopped .. | .dropReleased .. => True

/-- **The invariant of serving.** -/
structure Serves (installed : String → Bool) (asked : Set Uuid) (db : Database)
    (s : ManagerState) : Prop where
  fixed : s.db = db
  threads : ∀ t, PcServes installed asked db (s.threads t)
  cached : ∀ k p, s.sources.cached k = some p → Entry installed asked db k p

/-- One step keeps the invariant. -/
theorem serves_step (h : Serves installed asked db s)
    (hstep : Guarded (fun _ e => e.OnlyAsks asked) (ManagerStep installed) s e s') :
    Serves installed asked db s' := by
  obtain ⟨hasks, hstep⟩ := hstep
  obtain ⟨hdb, hthreads, hcached⟩ := h
  -- what a thread has in hand, read off where it is
  have hat : ∀ {t pc}, s.threads t = pc → PcServes installed asked db pc :=
    fun h => h ▸ hthreads _
  cases hstep with
  | getStart u h => exact ⟨hdb, ManagerState.forall_move hthreads hasks, hcached⟩
  | @getAcquire t u k h hl =>
    have hu : u ∈ asked := hat h
    exact ⟨hdb, ManagerState.forall_move hthreads hu, hcached⟩
  | @hit t u k p h hc =>
    have hu : u ∈ asked := hat h
    exact ⟨hdb, ManagerState.forall_move hthreads hu, hcached⟩
  | @miss t u k h hc =>
    have hu : u ∈ asked := hat h
    exact ⟨hdb, ManagerState.forall_move hthreads hu, hcached⟩
  | read h hr =>
    exact ⟨hdb, ManagerState.forall_move hthreads ⟨hat h, _, hdb ▸ hr⟩, hcached⟩
  | readNothing h hr =>
    exact ⟨hdb, ManagerState.forall_move hthreads ⟨hat h, fun _ hp => by cases hp⟩, hcached⟩
  | readRaises h => exact ⟨hdb, ManagerState.forall_move hthreads trivial, hcached⟩
  | notInstalled h hi =>
    exact ⟨hdb, ManagerState.forall_move hthreads ⟨(hat h).1, fun _ hp => by cases hp⟩, hcached⟩
  | loadRaises h hi =>
    refine ⟨hdb, ManagerState.forall_move hthreads ⟨(hat h).1, fun q hq => ?_⟩, hcached⟩
    cases hq
    exact (hat h).2
  | load h hi => exact ⟨hdb, ManagerState.forall_move hthreads ⟨(hat h).1, (hat h).2, hi⟩, hcached⟩
  | @storeName t u k p h =>
    obtain ⟨hu, hbuilt, hi⟩ := hat h
    refine ⟨hdb, ManagerState.forall_move hthreads ⟨hu, fun q hq => ?_⟩, fun k' q hq => ?_⟩
    · cases hq
      exact hbuilt
    · dsimp only at hq
      rw [Dict.cached_set] at hq
      split at hq
      · next hk =>
        cases hq
        exact Or.inr ⟨u, hu, hbuilt, hi, hk⟩
      · exact hcached k' q hq
  | @storeUuid t u k r h =>
    obtain ⟨hu, hbuilt⟩ := hat h
    refine ⟨hdb, ManagerState.forall_move hthreads hu, fun k' q hq => ?_⟩
    dsimp only at hq
    rw [Dict.cached_set] at hq
    split at hq
    · next hk => exact Or.inl (hk ▸ hbuilt q hq)
    · exact hcached k' q hq
  | getRelease h =>
    exact ⟨hdb, ManagerState.forall_move hthreads ⟨hat h, fun q hq => hcached _ q hq⟩, hcached⟩
  | getReturn h => exact ⟨hdb, ManagerState.forall_move hthreads trivial, hcached⟩
  | invalidateStart u h => exact ⟨hdb, ManagerState.forall_move hthreads trivial, hcached⟩
  | editCommit h he => exact absurd hasks id
  | dropAcquire h hl => exact ⟨hdb, ManagerState.forall_move hthreads trivial, hcached⟩
  | pop h =>
    refine ⟨hdb, ManagerState.forall_move hthreads trivial, fun k' q hq => ?_⟩
    dsimp only [SourceManager.invalidate] at hq
    rw [Dict.cached_erase] at hq
    split at hq
    · cases hq
    · exact hcached k' q hq
  | dropRelease h => exact ⟨hdb, ManagerState.forall_move hthreads trivial, hcached⟩
  | invalidateReturn h => exact ⟨hdb, ManagerState.forall_move hthreads trivial, hcached⟩
  | editReturn h => exact ⟨hdb, ManagerState.forall_move hthreads trivial, hcached⟩
  | create h hc => exact absurd hasks id

/-- The steps that ask for one uuid of a set ask for the set's. -/
theorem onlyAsks_of_mem (hu : u ∈ asked) (e : ManagerEvent) (h : e.OnlyAsks {u}) :
    e.OnlyAsks asked := by
  cases e with
  | getStarted t v =>
    obtain rfl : v = u := h
    exact hu
  | invalidateStarted t v =>
    obtain rfl : v = u := h
    exact hu
  | editCommitted t v => exact h
  | created t v => exact h
  | _ => exact trivial

/-- The runs over a fixed database that ask for a set of uuids. -/
abbrev ServingRun (installed : String → Bool) (asked : Set Uuid) (db : Database) :
    List ManagerEvent → ManagerState → Prop :=
  Run (Guarded (fun _ e => e.OnlyAsks asked) (ManagerStep installed)) { db := db }

/-- Every state of such a run serves. -/
theorem serves_of_run {l : List ManagerEvent} (h : ServingRun installed asked db l s) :
    Serves installed asked db s :=
  h.invariant ⟨rfl, fun _ => trivial, fun _ _ hc => by cases hc⟩ serves_step

/-- What a get returns is an entry of its uuid. -/
theorem entry_of_returned {l : List ManagerEvent} {since : ℕ}
    (h : ServingRun installed asked db l s) (hret : .getReturned t u since (some p) ∈ l) :
    u ∈ asked ∧ Entry installed asked db u p := by
  obtain ⟨l₁, s₁, s₂, hrun, -, hstep⟩ := h.exists_step hret
  cases hstep with
  | getReturn h =>
    have := (serves_of_run hrun).threads t
    rw [h] at this
    exact ⟨this.1, this.2 p rfl⟩

/-- **A source named by another's uuid is served in its place**: two gets,
one after the other, do it. -/
theorem served_by_name {o : RowOrder Source} {info : SourceInfo} (hu : u ∈ asked)
    (hread : SourceCRUD.getByUuid o db u = .ok info) (hi : installed info.backend = true)
    (hname : info.name ∈ asked) (hne : info.name ≠ u) :
    ∃ l s t since p, ServingRun installed asked db l s ∧
      .getReturned t info.name since (some p) ∈ l ∧ p.config = info := by
  obtain ⟨l₁, s₁, h₁⟩ := get_alone (s := { db := db }) (t := 0)
    (fun _ e => e.OnlyAsks asked) (onlyAsks_of_mem hu) rfl rfl
    (SourceManager.get_of_miss 3 rfl hread hi)
  -- the second get finds what the first stored under the name
  have hcached : s₁.sources.cached info.name = some ⟨info, 3⟩ := by
    rw [h₁.sources, Dict.cached_set, if_neg hne.symm, Dict.cached_set_self]
  have hget : SourceManager.get installed false (s₁.clock + 3) o s₁.db s₁.sources info.name =
      (.ok (some ⟨info, 3⟩), s₁.sources) := by
    simp [SourceManager.get, hcached]
  obtain ⟨l₂, s₂, h₂⟩ := get_alone (fun _ e => e.OnlyAsks asked) (onlyAsks_of_mem hname)
    ((h₁.threads 0).trans rfl) h₁.lock hget
  exact ⟨l₁ ++ l₂, s₂, 0, s₁.clock, _, h₁.run.append h₂.run,
    List.mem_append_right _ h₂.returned, rfl⟩

/-- **Every get serves its own source exactly when no source asked for is
named by another uuid asked for**, whatever the sources stored, the order
in which the server returns them, and the interleaving of the gets and
invalidations. -/
theorem manager_serves_iff (installed : String → Bool) (asked : Set Uuid) (db : Database) :
    (∀ l s t u since p, ServingRun installed asked db l s →
      .getReturned t u since (some p) ∈ l → BuiltFrom db u p) ↔
    ∀ o u info, u ∈ asked → SourceCRUD.getByUuid o db u = .ok info →
      installed info.backend = true → info.name ∈ asked → info.name = u := by
  constructor
  · intro h o u info hu hread hi hname
    by_contra hne
    obtain ⟨l, s, t, since, p, hrun, hret, rfl⟩ := served_by_name hu hread hi hname hne
    obtain ⟨o', hbuilt⟩ := h l s t p.config.name since p hrun hret
    exact hne ((SourceCRUD.getByUuid_ok hbuilt).1.symm.trans (SourceCRUD.getByUuid_ok hread).1)
  · intro h l s t u since p hrun hret
    obtain ⟨hu, hbuilt | ⟨v, hv, hbuilt, hi, hname⟩⟩ := entry_of_returned hrun hret
    · exact hbuilt
    · obtain ⟨o, hread⟩ := hbuilt
      obtain rfl := (h o v p.config hv hread hi (by rwa [← hname] at hu)).symm.trans hname
      exact ⟨o, hread⟩

/-- Two sources, the first named by the uuid of the second. -/
def swappedSources : Database where
  sources := [{ uuid := "s1", rawName := "s2", tenantUuid := "t", backend := "csv" },
    { uuid := "s2", rawName := "other", tenantUuid := "t", backend := "csv" }]

/-- **`get` of one source returns the plugin of another**: once the source
named `s2` is loaded, a get of the uuid `s2` answers with it. -/
theorem manager_serves_another : ∃ l s t since p,
    ServingRun (fun _ => true) {u | u = "s1" ∨ u = "s2"} swappedSources l s ∧
    .getReturned t "s2" since (some p) ∈ l ∧ p.config.uuid = "s1" := by
  have hread : SourceCRUD.getByUuid .asStored swappedSources "s1" =
      .ok { uuid := "s1", backend := "csv", name := "s2", tenantUuid := "t" } := by rfl
  obtain ⟨l, s, t, since, p, hrun, hret, hp⟩ := @served_by_name (fun _ => true)
    {u | u = "s1" ∨ u = "s2"} _ _ _ _ (Or.inl rfl) hread rfl (Or.inr rfl) (by decide)
  exact ⟨l, s, t, since, p, hrun, hret, by rw [hp]⟩

end WazoDird
