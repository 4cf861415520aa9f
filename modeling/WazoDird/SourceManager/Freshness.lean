import WazoDird.SourceManager.Concurrent

/-!
# Edits and the plugin cache

`edit` commits and only then invalidates, so between its two steps a get
may store what it read before. What holds is that once the invalidation
has dropped the entry no plugin read before the commit is in the cache
or in a thread's hands (`Fresh`), and every later step keeps that:
whatever is read after is newer. A source that is stored stays so, and a
get of it finds it (`Finds`).

The argument needs the lock (`Exclusive`): the invalidation drops the
entry while no get holds a plugin it is about to store.
-/

namespace WazoDird

variable {installed : String → Bool} {s s' s₀ : ManagerState} {e : ManagerEvent} {t : ℕ}
  {u : Uuid} {k c : ℕ} {p : Plugin}

/-- No source but the one of a uuid is called by it. -/
def NotNamed (u : Uuid) (db : Database) : Prop :=
  ∀ x ∈ db.sources, db.sourceName x = some u → x.uuid = u

instance (u : Uuid) (db : Database) : Decidable (NotNamed u db) :=
  inferInstanceAs (Decidable (∀ x ∈ db.sources, db.sourceName x = some u → x.uuid = u))

/-- The steps taken where no other source is named by the uuid. -/
abbrev NamedApart (installed : String → Bool) (u : Uuid) :
    ManagerState → ManagerEvent → ManagerState → Prop :=
  Guarded (fun s _ => NotNamed u s.db) (ManagerStep installed)

/-! ## The critical section -/

/-- **Mutual exclusion**: a thread in the critical section is the one
that holds the lock. -/
def Exclusive (s : ManagerState) : Prop :=
  ∀ t, (s.threads t).locked = true → s.lock = some t

/-- A thread that moves without touching the lock, into the critical
section only from within. -/
theorem Exclusive.move (h : Exclusive s) {pc : Pc}
    (hpc : pc.locked = true → (s.threads t).locked = true) : Exclusive (s.move t pc) := by
  intro t' ht'
  rw [ManagerState.move_threads] at ht'
  split at ht'
  · next htt => exact htt ▸ h t (hpc ht')
  · exact h t' ht'

/-- A thread that takes the free lock. -/
theorem Exclusive.acquire (h : Exclusive s) (hl : s.lock = none) (pc : Pc) :
    Exclusive { s.move t pc with lock := some t } := by
  intro t' ht'
  have ht' : ((s.move t pc).threads t').locked = true := ht'
  rw [ManagerState.move_threads] at ht'
  split at ht'
  · next htt => rw [htt]
  · have := h t' ht'
    rw [hl] at this
    cases this

/-- The thread in the critical section leaves it, and frees the lock. -/
theorem Exclusive.release (h : Exclusive s) (ht : (s.threads t).locked = true) {pc : Pc}
    (hpc : pc.locked = false) : Exclusive { s.move t pc with lock := none } := by
  intro t' ht'
  have ht' : ((s.move t pc).threads t').locked = true := ht'
  rw [ManagerState.move_threads] at ht'
  split at ht'
  · rw [hpc] at ht'
    cases ht'
  · next hne =>
    have heq := (h t' ht').symm.trans (h t ht)
    exact absurd (Option.some.inj heq) hne

theorem exclusive_step (h : Exclusive s) (hstep : ManagerStep installed s e s') :
    Exclusive s' := by
  cases hstep with
  | getAcquire _ hl => exact h.acquire hl _
  | dropAcquire _ hl => exact h.acquire hl _
  | readRaises ht => exact h.release (by rw [ht]; rfl) rfl
  | getRelease ht => exact h.release (by rw [ht]; rfl) rfl
  | dropRelease ht => exact h.release (by rw [ht]; rfl) rfl
  | getStart u ht => exact h.move (fun hc => by cases hc)
  | hit ht => exact h.move (fun _ => by rw [ht]; rfl)
  | miss ht => exact h.move (fun _ => by rw [ht]; rfl)
  | read ht => exact h.move (fun _ => by rw [ht]; rfl)
  | readNothing ht => exact h.move (fun _ => by rw [ht]; rfl)
  | notInstalled ht => exact h.move (fun _ => by rw [ht]; rfl)
  | loadRaises ht => exact h.move (fun _ => by rw [ht]; rfl)
  | load ht => exact h.move (fun _ => by rw [ht]; rfl)
  | storeName ht => exact h.move (fun _ => by rw [ht]; rfl)
  | storeUuid ht => exact h.move (fun _ => by rw [ht]; rfl)
  | getReturn ht => exact h.move (fun hc => by cases hc)
  | invalidateStart u ht => exact h.move (fun hc => by cases hc)
  | editCommit ht => exact h.move (fun hc => by cases hc)
  | pop ht => exact h.move (fun _ => by rw [ht]; rfl)
  | invalidateReturn ht => exact h.move (fun hc => by cases hc)
  | editReturn ht => exact h.move (fun hc => by cases hc)
  | create ht => exact h.move (fun hc => by cases hc)

/-! ## The moments calls remember -/

/-- Every moment a call remembers is past. -/
def Stamped (s : ManagerState) : Prop :=
  ∀ t n, (s.threads t).stamp = some n → n < s.clock

/-- A thread that moves keeps its moment, or takes the present one. -/
theorem Stamped.move (h : Stamped s) {pc : Pc}
    (hpc : ∀ n, pc.stamp = some n → (s.threads t).stamp = some n ∨ n = s.clock) :
    Stamped (s.move t pc) := by
  intro t' n hn
  rw [ManagerState.move_threads] at hn
  have hlt : n < s.clock ∨ n = s.clock := by
    split at hn
    · exact (hpc n hn).imp (h t n) id
    · exact Or.inl (h t' n hn)
  show n < s.clock + 1
  omega

/-- Every step takes the clock on by one. -/
theorem clock_step (hstep : ManagerStep installed s e s') : s'.clock = s.clock + 1 := by
  cases hstep <;> rfl

theorem stamped_step (h : Stamped s) (hstep : ManagerStep installed s e s') : Stamped s' := by
  have keep : ∀ {t : ℕ} {pc pc' : Pc}, s.threads t = pc → pc'.stamp = pc.stamp →
      Stamped (s.move t pc') := by
    intro t pc pc' ht hpc
    refine h.move fun n hn => Or.inl ?_
    rw [ht, ← hpc]
    exact hn
  have idle : ∀ t, Stamped (s.move t .idle) := fun t => h.move fun n hn => by cases hn
  cases hstep with
  | getStart u ht => exact h.move fun n hn => Or.inr (Option.some.inj hn).symm
  | editCommit ht => exact h.move fun n hn => Or.inr (Option.some.inj hn).symm
  | invalidateStart u ht => exact h.move fun n hn => by cases hn
  | readRaises => exact idle _
  | getReturn => exact idle _
  | invalidateReturn => exact idle _
  | editReturn => exact idle _
  | create => exact idle _
  | getAcquire ht => exact keep ht rfl
  | hit ht => exact keep ht rfl
  | miss ht => exact keep ht rfl
  | read ht => exact keep ht rfl
  | readNothing ht => exact keep ht rfl
  | notInstalled ht => exact keep ht rfl
  | loadRaises ht => exact keep ht rfl
  | load ht => exact keep ht rfl
  | storeName ht => exact keep ht rfl
  | storeUuid ht => exact keep ht rfl
  | getRelease ht => exact keep ht rfl
  | dropAcquire ht => exact keep ht rfl
  | pop ht => exact keep ht rfl
  | dropRelease ht => exact keep ht rfl

/-! ## Nothing old in the cache or in a thread's hands -/

/-- What a thread holds of a source is of that source, and not read
before a moment `c`; what a get started since `k` is to return likewise. -/
def PcFresh (u : Uuid) (c k : ℕ) : Pc → Prop
  | .getRead v _ p | .getLoaded v _ p | .getBuilt v _ (some p) =>
      p.config.uuid = v ∧ (p.name = u → v = u) ∧ (v = u → c ≤ p.readAt)
  | .getReleased v since (some p) => v = u → k ≤ since → p.config.uuid = u ∧ c ≤ p.readAt
  | _ => True

/-- **Nothing read before `c` is left**: neither in the cache under the
uuid, nor in the hands of a get that may store it there or, having
started since `k`, return it. -/
structure Fresh (u : Uuid) (c k : ℕ) (s : ManagerState) : Prop where
  past : c ≤ s.clock
  cached : ∀ p, s.sources.cached u = some p → p.config.uuid = u ∧ c ≤ p.readAt
  threads : ∀ t, PcFresh u c k (s.threads t)

/-- A later `k` asks for less. -/
theorem Fresh.mono (h : Fresh u c k s) {k' : ℕ} (hk : k ≤ k') : Fresh u c k' s := by
  refine ⟨h.past, h.cached, fun t => ?_⟩
  have ht := h.threads t
  revert ht
  cases s.threads t with
  | getReleased v since r =>
    cases r with
    | none => exact id
    | some p => exact fun ht hv hs => ht hv (hk.trans hs)
  | getBuilt v since r => cases r <;> exact id
  | _ => exact id

/-- **What is read later is newer**: a step leaves nothing old where
nothing old was. -/
theorem fresh_step (h : Fresh u c k s) (hstep : NamedApart installed u s e s') :
    Fresh u c k s' := by
  obtain ⟨hnamed, hstep⟩ := hstep
  obtain ⟨hpast, hcached, hthreads⟩ := h
  have hpast' : c ≤ s.clock + 1 := by omega
  have hat : ∀ {t pc}, s.threads t = pc → PcFresh u c k pc := fun h => h ▸ hthreads _
  have hmoved : ∀ {t : ℕ} {pc : Pc}, PcFresh u c k pc →
      ∀ t', PcFresh u c k ((s.move t pc).threads t') :=
    fun hpc => ManagerState.forall_move hthreads hpc
  cases hstep with
  | getStart => exact ⟨hpast', hcached, hmoved trivial⟩
  | getAcquire => exact ⟨hpast', hcached, hmoved trivial⟩
  | hit => exact ⟨hpast', hcached, hmoved trivial⟩
  | miss => exact ⟨hpast', hcached, hmoved trivial⟩
  | @read t v since o config ht hr =>
    obtain ⟨huuid, x, hx, hxu, -, hname⟩ := SourceCRUD.getByUuid_ok hr
    refine ⟨hpast', hcached, hmoved ⟨huuid, fun hn => ?_, fun _ => hpast⟩⟩
    have hn : config.name = u := hn
    exact hxu.symm.trans (hnamed x hx (hn ▸ hname))
  | readNothing => exact ⟨hpast', hcached, hmoved trivial⟩
  | readRaises => exact ⟨hpast', hcached, hmoved trivial⟩
  | notInstalled => exact ⟨hpast', hcached, hmoved trivial⟩
  | @loadRaises t v since p ht =>
    have hp : p.config.uuid = v ∧ (p.name = u → v = u) ∧ (v = u → c ≤ p.readAt) := hat ht
    exact ⟨hpast', hcached, hmoved hp⟩
  | @load t v since p ht =>
    have hp : p.config.uuid = v ∧ (p.name = u → v = u) ∧ (v = u → c ≤ p.readAt) := hat ht
    exact ⟨hpast', hcached, hmoved hp⟩
  | @storeName t v since p ht =>
    have hp : p.config.uuid = v ∧ (p.name = u → v = u) ∧ (v = u → c ≤ p.readAt) := hat ht
    refine ⟨hpast', fun q hq => ?_, hmoved hp⟩
    dsimp only at hq
    rw [Dict.cached_set] at hq
    split at hq
    · next hn =>
      cases hq
      exact ⟨hp.1.trans (hp.2.1 hn), hp.2.2 (hp.2.1 hn)⟩
    · exact hcached q hq
  | @storeUuid t v since r ht =>
    refine ⟨hpast', fun q hq => ?_, hmoved trivial⟩
    dsimp only at hq
    rw [Dict.cached_set] at hq
    split at hq
    · next hv =>
      have hbuilt : s.threads t = .getBuilt v since (some q) := hq ▸ ht
      have hp : q.config.uuid = v ∧ (q.name = u → v = u) ∧ (v = u → c ≤ q.readAt) := hat hbuilt
      exact ⟨hp.1.trans hv, hp.2.2 hv⟩
    · exact hcached q hq
  | @getRelease t v since ht =>
    refine ⟨hpast', hcached, hmoved ?_⟩
    cases hc : s.sources.cached v with
    | none => exact trivial
    | some q => exact fun hv _ => hcached q (hv ▸ hc)
  | getReturn => exact ⟨hpast', hcached, hmoved trivial⟩
  | invalidateStart => exact ⟨hpast', hcached, hmoved trivial⟩
  | editCommit => exact ⟨hpast', hcached, hmoved trivial⟩
  | dropAcquire => exact ⟨hpast', hcached, hmoved trivial⟩
  | pop =>
    refine ⟨hpast', fun q hq => ?_, hmoved trivial⟩
    dsimp only [SourceManager.invalidate] at hq
    rw [Dict.cached_erase] at hq
    split at hq
    · cases hq
    · exact hcached q hq
  | dropRelease => exact ⟨hpast', hcached, hmoved trivial⟩
  | invalidateReturn => exact ⟨hpast', hcached, hmoved trivial⟩
  | editReturn => exact ⟨hpast', hcached, hmoved trivial⟩
  | create => exact ⟨hpast', hcached, hmoved trivial⟩

/-! ## Once the entry is dropped -/

/-- The uuid whose entry a thread has dropped, for an edit committed at a
moment. -/
def Pc.dropped : Pc → Option (Uuid × ℕ)
  | .dropPopped u (some c) | .dropReleased u (some c) => some (u, c)
  | _ => none

/-- The uuid of the source a thread is editing, from its commit on. -/
def Pc.editing : Pc → Option Uuid
  | .dropCalled u (some _) | .dropLocked u (some _) | .dropPopped u (some _)
  | .dropReleased u (some _) => some u
  | _ => none

/-- **What holds throughout a run**: the lock excludes, the moments are
past, what is held of a source is its own, an edited source is stored,
and from the drop of an entry until its edit returns nothing read before
the commit is left. -/
structure Consistent (u : Uuid) (s : ManagerState) : Prop where
  exclusive : Exclusive s
  stamped : Stamped s
  own : Fresh u 0 0 s
  edited : ∀ t, (s.threads t).editing = some u → u ∈ s.db.sourceUuids
  settled : ∀ t c, (s.threads t).dropped = some (u, c) → Fresh u (c + 1) s.clock s

theorem consistent_start (u : Uuid) (db : Database) : Consistent u { db := db } := by
  refine ⟨fun t h => ?_, fun t n h => ?_, ⟨Nat.le_refl _, fun p h => ?_, fun _ => trivial⟩,
    fun t h => ?_, fun t c h => ?_⟩
  all_goals cases h

/-- **The drop leaves nothing old**: the entry is gone, and since the
thread holds the lock no get holds a plugin. -/
theorem Consistent.pop (h : Consistent u s) (ht : s.threads t = .dropLocked u (some c)) :
    Fresh u (c + 1) (s.clock + 1) { s.move t (.dropPopped u (some c)) with
      sources := SourceManager.invalidate s.sources u } := by
  have hc : c < s.clock := h.stamped t c (by rw [ht]; rfl)
  have hlock : s.lock = some t := h.exclusive t (by rw [ht]; rfl)
  have halone : ∀ t' ≠ t, (s.threads t').locked = false := by
    intro t' hne
    by_contra hlocked
    have heq := h.exclusive t' (by simpa using hlocked)
    exact hne (Option.some.inj (heq.symm.trans hlock))
  refine ⟨?_, fun p hp => ?_, fun t' => ?_⟩
  · show c + 1 ≤ s.clock + 1
    omega
  · dsimp only [SourceManager.invalidate] at hp
    rw [Dict.cached_erase, if_pos rfl] at hp
    cases hp
  · show PcFresh u (c + 1) (s.clock + 1) ((s.move t _).threads t')
    rw [ManagerState.move_threads]
    split
    · exact trivial
    · next hne =>
      have hfree := halone t' hne
      have hstamp := h.stamped t'
      revert hfree hstamp
      cases s.threads t' with
      | getReleased v since r =>
        intro _ hstamp
        have hsince : since < s.clock := hstamp since rfl
        cases r with
        | none => exact trivial
        | some p =>
          intro _ hlater
          omega
      | getRead v since p => exact fun hfree => by cases hfree
      | getLoaded v since p => exact fun hfree => by cases hfree
      | getBuilt v since r => exact fun hfree => by cases hfree
      | _ => exact fun _ _ => trivial

/-- A step of a thread that has dropped an entry, or drops it now: in
both cases nothing old is left. -/
theorem Consistent.settled_step (h : Consistent u s) (hstep : NamedApart installed u s e s') {t : ℕ}
    (hd : (s'.threads t).dropped = some (u, c)) : Fresh u (c + 1) s'.clock s' := by
  have hclock : s'.clock = s.clock + 1 := clock_step hstep.2
  -- a thread that had dropped it before is settled by the invariant
  have before : (s.threads t).dropped = some (u, c) → Fresh u (c + 1) s'.clock s' := by
    intro hdt
    exact (fresh_step (h.settled t c hdt) hstep).mono (by omega)
  have moved : ∀ {t' : ℕ} {pc : Pc}, (((s.move t' pc).threads t).dropped = some (u, c)) →
      (pc.dropped = some (u, c) → (s.threads t').dropped = some (u, c)) →
      Fresh u (c + 1) s'.clock s' := by
    intro t' pc hdt hpc
    rw [ManagerState.move_threads] at hdt
    split at hdt
    · next htt => exact before (htt ▸ hpc hdt)
    · exact before hdt
  have hstep' := hstep.2
  cases hstep' with
  | @pop t' v c' ht =>
    by_cases htt : t = t'
    · subst htt
      have hpc : Pc.dropped (.dropPopped v c') = some (u, c) := by
        have hd : ((s.move t (.dropPopped v c')).threads t).dropped = some (u, c) := hd
        rwa [ManagerState.move_threads_self] at hd
      cases c' with
      | none => cases hpc
      | some c' =>
        obtain ⟨rfl, rfl⟩ : v = u ∧ c' = c := by simpa [Pc.dropped] using hpc
        exact h.pop ht
    · refine before ?_
      have hd : ((s.move t' (.dropPopped v c')).threads t).dropped = some (u, c) := hd
      rwa [ManagerState.move_threads, if_neg htt] at hd
  | @dropRelease t' v c' ht =>
    refine moved hd fun hpc => ?_
    rw [ht]
    cases c' <;> exact hpc
  | _ => exact moved hd (fun hpc => by cases hpc)

/-! ## Finding what is stored -/

/-- What is stored stays stored. -/
theorem stored_step (h : u ∈ s.db.sourceUuids) (hstep : ManagerStep installed s e s') :
    u ∈ s'.db.sourceUuids := by
  cases hstep with
  | editCommit ht he => exact (SourceCRUD.edit_stored he).2.1 ▸ h
  | create ht hc =>
    show u ∈ Database.sourceUuids _
    rw [(SourceCRUD.create_stored hc).2.1]
    exact List.mem_append_left _ h
  | _ => exact h

/-- A source being edited is stored. -/
theorem edited_step (h : ∀ t, (s.threads t).editing = some u → u ∈ s.db.sourceUuids)
    (hstep : ManagerStep installed s e s') (t : ℕ) (ht : (s'.threads t).editing = some u) :
    u ∈ s'.db.sourceUuids := by
  have moved : ∀ {t' : ℕ} {pc : Pc}, ((s.move t' pc).threads t).editing = some u →
      (pc.editing = some u → (s.threads t').editing = some u) → u ∈ s'.db.sourceUuids := by
    intro t' pc hmove hpc
    rw [ManagerState.move_threads] at hmove
    split at hmove
    · exact stored_step (h t' (hpc hmove)) hstep
    · exact stored_step (h t hmove) hstep
  cases hstep with
  | @editCommit t' v o backend tenants body info db' hidle he =>
    have hstep := @ManagerStep.editCommit installed _ _ _ _ _ _ _ _ _ hidle he
    by_cases htt : t = t'
    · have hpc : ((s.move t' (.dropCalled v (some s.clock))).threads t).editing = some u := ht
      rw [htt, ManagerState.move_threads_self] at hpc
      obtain rfl : v = u := Option.some.inj hpc
      exact stored_step (SourceCRUD.edit_stored he).1 hstep
    · have hpc : ((s.move t' (.dropCalled v (some s.clock))).threads t).editing = some u := ht
      rw [ManagerState.move_threads, if_neg htt] at hpc
      exact stored_step (h t hpc) hstep
  | @dropAcquire t' v c ht' hl =>
    refine moved ht fun hpc => ?_
    rw [ht']
    cases c <;> exact hpc
  | @pop t' v c ht' =>
    refine moved ht fun hpc => ?_
    rw [ht']
    cases c <;> exact hpc
  | @dropRelease t' v c ht' =>
    refine moved ht fun hpc => ?_
    rw [ht']
    cases c <;> exact hpc
  | _ => exact moved ht fun hpc => by cases hpc

/-- One step keeps all of it. -/
theorem consistent_step (h : Consistent u s) (hstep : NamedApart installed u s e s') :
    Consistent u s' :=
  ⟨exclusive_step h.exclusive hstep.2, stamped_step h.stamped hstep.2, fresh_step h.own hstep,
    edited_step h.edited hstep.2, fun _ _ hd => h.settled_step hstep hd⟩

/-- The source of a uuid is stored, and its backend is installed. -/
structure Usable (installed : String → Bool) (u : Uuid) (db : Database) : Prop where
  stored : u ∈ db.sourceUuids
  installed : ∀ x ∈ db.sources, x.uuid = u → installed x.backend = true

/-- A step leaves it so: backends do not change, and no second source
takes the uuid. -/
theorem usable_step (h : Usable installed u s.db) (hstep : ManagerStep installed s e s') :
    Usable installed u s'.db := by
  refine ⟨stored_step h.stored hstep, ?_⟩
  cases hstep with
  | editCommit ht he =>
    intro y hy hyu
    obtain ⟨x, hx, hxu, hxb⟩ := (SourceCRUD.edit_stored he).2.2 y hy
    exact hxb ▸ h.installed x hx (hxu.trans hyu)
  | create ht hc =>
    intro y hy hyu
    obtain ⟨hnew, -, x, hxu, hx⟩ := SourceCRUD.create_stored hc
    have hy : y ∈ s.db.sources ++ [x] := hx ▸ hy
    rcases List.mem_append.1 hy with hy | hy
    · exact h.installed y hy hyu
    · obtain rfl := List.mem_singleton.1 hy
      exact absurd (hxu ▸ hyu ▸ h.stored) hnew
  | _ => exact h.installed

/-- What a get started since `k` comes to: it never finds nothing. -/
def PcFinds (installed : String → Bool) (u : Uuid) (k : ℕ) (sources : PluginCache) : Pc → Prop
  | .getRead v since p => v = u → k ≤ since → installed p.config.backend = true
  | .getBuilt v since r | .getReleased v since r => v = u → k ≤ since → r.isSome
  | .getStored v since => v = u → k ≤ since → (sources.cached v).isSome
  | _ => True

/-- **The source is found**: it is stored, and no get of it that started
since `k` is about to return nothing. -/
structure Finds (installed : String → Bool) (u : Uuid) (k : ℕ) (s : ManagerState) : Prop where
  usable : Usable installed u s.db
  exclusive : Exclusive s
  threads : ∀ t, PcFinds installed u k s.sources (s.threads t)

/-- One step keeps it found. -/
theorem finds_step (h : Finds installed u k s) (hstep : ManagerStep installed s e s') :
    Finds installed u k s' := by
  have hexcl := exclusive_step h.exclusive hstep
  have husable' := usable_step h.usable hstep
  obtain ⟨husable, hlock, hthreads⟩ := h
  have hat : ∀ {t pc}, s.threads t = pc → PcFinds installed u k s.sources pc := fun h => h ▸ hthreads _
  have hmoved : ∀ {t : ℕ} {pc : Pc}, PcFinds installed u k s.sources pc →
      ∀ t', PcFinds installed u k s.sources ((s.move t pc).threads t') :=
    fun hpc => ManagerState.forall_move hthreads hpc
  -- the cache changes under the lock, so no other thread is about to read its entry
  have hwritten : ∀ {t : ℕ} {pc : Pc} {sources : PluginCache}, (s.threads t).locked = true →
      PcFinds installed u k sources pc →
      ∀ t', PcFinds installed u k sources ((s.move t pc).threads t') := by
    intro t pc sources hlocked hpc t'
    rw [ManagerState.move_threads]
    split
    · exact hpc
    · next hne =>
      have ht' := hthreads t'
      have hfree : (s.threads t').locked = false := by
        by_contra hl
        have heq := (hlock t' (by simpa using hl)).symm.trans (hlock t hlocked)
        exact hne (Option.some.inj heq)
      revert ht' hfree
      cases s.threads t' with
      | getStored v since => exact fun _ hfree => by cases hfree
      | _ => exact fun ht' _ => ht'
  cases hstep with
  | getStart => exact ⟨husable', hexcl, hmoved trivial⟩
  | getAcquire => exact ⟨husable', hexcl, hmoved trivial⟩
  | hit ht hc =>
    refine ⟨husable', hexcl, hmoved fun _ _ => ?_⟩
    rw [hc]
    rfl
  | miss => exact ⟨husable', hexcl, hmoved trivial⟩
  | @read t v since o config ht hr =>
    refine ⟨husable', hexcl, hmoved fun hv _ => ?_⟩
    obtain ⟨-, x, hx, hxu, hxb, -⟩ := SourceCRUD.getByUuid_ok hr
    exact hxb ▸ husable.installed x hx (hxu.trans hv)
  | @readNothing t v since o w ht hr =>
    refine ⟨husable', hexcl, hmoved fun hv _ => ?_⟩
    obtain ⟨x, hx, hxu⟩ := List.mem_map.1 husable.stored
    exact absurd (hxu.trans hv.symm) (SourceCRUD.getByUuid_noSuchSource hr x hx)
  | readRaises => exact ⟨husable', hexcl, hmoved trivial⟩
  | @notInstalled t v since p ht hi =>
    refine ⟨husable', hexcl, hmoved fun hv hs => ?_⟩
    have hp : v = u → k ≤ since → installed p.config.backend = true := hat ht
    rw [hp hv hs] at hi
    cases hi
  | loadRaises => exact ⟨husable', hexcl, hmoved fun _ _ => rfl⟩
  | load => exact ⟨husable', hexcl, hmoved trivial⟩
  | storeName ht =>
    exact ⟨husable', hexcl, hwritten (by rw [ht]; rfl) fun _ _ => rfl⟩
  | @storeUuid t v since r ht =>
    refine ⟨husable', hexcl, hwritten (by rw [ht]; rfl) fun hv hs => ?_⟩
    have hr : v = u → k ≤ since → r.isSome := hat ht
    rw [Dict.cached_set_self]
    exact hr hv hs
  | @getRelease t v since ht =>
    have hr : v = u → k ≤ since → (s.sources.cached v).isSome := hat ht
    exact ⟨husable', hexcl, hmoved hr⟩
  | getReturn => exact ⟨husable', hexcl, hmoved trivial⟩
  | invalidateStart => exact ⟨husable', hexcl, hmoved trivial⟩
  | editCommit ht he => exact ⟨husable', hexcl, hmoved trivial⟩
  | dropAcquire => exact ⟨husable', hexcl, hmoved trivial⟩
  | pop ht => exact ⟨husable', hexcl, hwritten (by rw [ht]; rfl) trivial⟩
  | dropRelease => exact ⟨husable', hexcl, hmoved trivial⟩
  | invalidateReturn => exact ⟨husable', hexcl, hmoved trivial⟩
  | editReturn => exact ⟨husable', hexcl, hmoved trivial⟩
  | create ht hc => exact ⟨husable', hexcl, hmoved trivial⟩

end WazoDird
