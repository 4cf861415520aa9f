import WazoDird.SourceManager.Freshness

/-!
# What a get serves after an edit

Every plugin is read from the database at some moment of a run, and a
thread within an edit remembers the moment of its commit. Over a run that
records its states both moments are states of the run, so a get that
starts after an edit has returned serves a plugin built from what is
stored in a state past the edit's commit (`edits_reach_gets`).
-/

namespace WazoDird

variable {installed : String → Bool} {s s' : ManagerState} {e e' : ManagerEvent} {t : ℕ}
  {u : Uuid} {c : ℕ} {p : Plugin}

/-! ## What was read, and what was committed -/

/-- The plugin a thread has in hand. -/
def Pc.held : Pc → Option Plugin
  | .getRead _ _ p | .getLoaded _ _ p => some p
  | .getBuilt _ _ r | .getReleased _ _ r => r
  | _ => none

/-- A plugin is cached, or in the hands of a thread. -/
def ManagerState.Holds (s : ManagerState) (p : Plugin) : Prop :=
  (∃ k, s.sources.cached k = some p) ∨ ∃ t, (s.threads t).held = some p

/-- **Every plugin is read from the database**: one held after a step was
held before it, or is what the step read. -/
theorem holds_step (hstep : ManagerStep installed s e s') (hp : s'.Holds p) :
    s.Holds p ∨ BuiltFrom s.db p.config.uuid p ∧ s.clock = p.readAt := by
  rcases hp with ⟨k, hk⟩ | ⟨t, ht⟩
  · cases hstep with
    | @storeName t v since q hq =>
      dsimp only at hk
      rw [Dict.cached_set] at hk
      split at hk
      · cases hk
        exact Or.inl (Or.inr ⟨t, by rw [hq]; rfl⟩)
      · exact Or.inl (Or.inl ⟨k, hk⟩)
    | @storeUuid t v since r hr =>
      dsimp only at hk
      rw [Dict.cached_set] at hk
      split at hk
      · exact Or.inl (Or.inr ⟨t, by rw [hr]; exact hk⟩)
      · exact Or.inl (Or.inl ⟨k, hk⟩)
    | pop =>
      dsimp only [SourceManager.invalidate] at hk
      rw [Dict.cached_erase] at hk
      split at hk
      · cases hk
      · exact Or.inl (Or.inl ⟨k, hk⟩)
    | _ => exact Or.inl (Or.inl ⟨k, hk⟩)
  · -- a thread that moved has what it had, the entry it found, or what it read
    have moved : ∀ {t' : ℕ} {pc : Pc}, ((s.move t' pc).threads t).held = some p →
        (pc.held = some p → s.Holds p ∨ BuiltFrom s.db p.config.uuid p ∧ s.clock = p.readAt) →
        s.Holds p ∨ BuiltFrom s.db p.config.uuid p ∧ s.clock = p.readAt := by
      intro t' pc hmove hpc
      rw [ManagerState.move_threads] at hmove
      split at hmove
      · exact hpc hmove
      · exact Or.inl (Or.inr ⟨t, hmove⟩)
    have kept : ∀ {t' : ℕ} {pc : Pc}, s.threads t' = pc → pc.held = some p →
        s.Holds p ∨ BuiltFrom s.db p.config.uuid p ∧ s.clock = p.readAt :=
      fun hpc hheld => Or.inl (Or.inr ⟨_, by rw [hpc]; exact hheld⟩)
    cases hstep with
    | @read t' v since o config hmissed hr =>
      refine moved ht fun hpc => Or.inr ?_
      cases hpc
      exact ⟨⟨o, (SourceCRUD.getByUuid_ok hr).1.symm ▸ hr⟩, rfl⟩
    | loadRaises hq => exact moved ht fun hpc => kept hq hpc
    | load hq => exact moved ht fun hpc => kept hq hpc
    | storeName hq => exact moved ht fun hpc => kept hq hpc
    | @getRelease t' v since hq => exact moved ht fun hpc => Or.inl (Or.inl ⟨v, hpc⟩)
    | _ => exact moved ht fun hpc => by cases hpc

/-- The edit a thread is within, from its commit on: the uuid of its
source, and the moment of the commit. -/
def Pc.commit : Pc → Option (Uuid × ℕ)
  | .dropCalled u (some c) | .dropLocked u (some c) | .dropPopped u (some c)
  | .dropReleased u (some c) => some (u, c)
  | _ => none

/-- A thread that is within an edit was so before the step, or the step
is its commit. -/
theorem commit_step (hstep : ManagerStep installed s e s')
    (hc : (s'.threads t).commit = some (u, c)) :
    (s.threads t).commit = some (u, c) ∨ e = .editCommitted t u ∧ s.clock = c := by
  have moved : ∀ {t' : ℕ} {pc : Pc}, ((s.move t' pc).threads t).commit = some (u, c) →
      (t = t' → pc.commit = some (u, c) →
        (s.threads t).commit = some (u, c) ∨ e = .editCommitted t u ∧ s.clock = c) →
      (s.threads t).commit = some (u, c) ∨ e = .editCommitted t u ∧ s.clock = c := by
    intro t' pc hmove hpc
    rw [ManagerState.move_threads] at hmove
    split at hmove
    · next htt => exact hpc htt hmove
    · exact Or.inl hmove
  cases hstep with
  | editCommit hidle he =>
    refine moved hc fun htt hpc => Or.inr ?_
    cases hpc
    exact ⟨htt ▸ rfl, rfl⟩
  | @dropAcquire t' v c' ht' hl =>
    refine moved hc fun htt hpc => Or.inl ?_
    rw [htt, ht']
    cases c' <;> exact hpc
  | @pop t' v c' ht' =>
    refine moved hc fun htt hpc => Or.inl ?_
    rw [htt, ht']
    cases c' <;> exact hpc
  | @dropRelease t' v c' ht' =>
    refine moved hc fun htt hpc => Or.inl ?_
    rw [htt, ht']
    cases c' <;> exact hpc
  | _ => exact moved hc fun _ hpc => by cases hpc

/-! ## Every run -/

section Runs

variable {db₀ : Database} {l l' : List ManagerEvent} {s₁ s₂ : ManagerState} {g since : ℕ}
  {r : Option Plugin} {h h' : List (ManagerState × ManagerEvent)} {x : ManagerState}

/-- A run through the states it records, no other source being named by
the uuid in any of them. -/
abbrev RecordedRun (installed : String → Bool) (u : Uuid) :
    ManagerState → List (ManagerState × ManagerEvent) → ManagerState → Prop :=
  Run (Recorded (NamedApart installed u))

/-- **Every plugin held was read at a moment of the run**, from what was
stored then. -/
theorem read_of_holds (hrun : RecordedRun installed u { db := db₀ } h s) (hp : s.Holds p) :
    ∃ x e, (x, e) ∈ h ∧ x.clock = p.readAt ∧ BuiltFrom x.db p.config.uuid p := by
  induction hrun with
  | nil =>
    rcases hp with ⟨k, hk⟩ | ⟨t, ht⟩
    · cases hk
    · cases ht
  | @snoc s s' h xe _ hs ih =>
    obtain ⟨rfl, -, hs⟩ := hs
    rcases holds_step hs hp with hp | ⟨hbuilt, hclock⟩
    · obtain ⟨x, e, hx, hread⟩ := ih hp
      exact ⟨x, e, List.mem_append_left _ hx, hread⟩
    · exact ⟨xe.1, xe.2, List.mem_append_right _ (List.mem_singleton_self _), hclock, hbuilt⟩

/-- An edit a thread is within was committed at the moment it remembers. -/
theorem committed_of_commit (hrun : RecordedRun installed u { db := db₀ } h s) {v : Uuid}
    (hc : (s.threads t).commit = some (v, c)) : ∃ x, (x, .editCommitted t v) ∈ h ∧ x.clock = c := by
  induction hrun with
  | nil => cases hc
  | @snoc s s' h xe _ hs ih =>
    obtain ⟨rfl, -, hs⟩ := hs
    rcases commit_step hs hc with hc | ⟨he, hclock⟩
    · obtain ⟨x, hx, hclock⟩ := ih hc
      exact ⟨x, List.mem_append_left _ hx, hclock⟩
    · exact ⟨xe.1, List.mem_append_right _ (List.mem_singleton.2 (Prod.ext rfl he.symm)), hclock⟩

/-- The clock does not go back. -/
theorem clock_le_of_run (hrun : RecordedRun installed u s h s') : s.clock ≤ s'.clock := by
  refine hrun.invariant (I := fun x => s.clock ≤ x.clock) (Nat.le_refl _) fun hle hs => ?_
  obtain ⟨rfl, -, hs⟩ := hs
  have hclock := clock_step hs
  omega

theorem consistent_of_run (h : Run (NamedApart installed u) { db := db₀ } l s) : Consistent u s :=
  h.invariant (consistent_start u db₀) consistent_step

/-- What a get returns is of its source. -/
theorem uuid_of_returned (hrun : Run (NamedApart installed u) { db := db₀ } l s)
    (hget : NamedApart installed u s (.getReturned g u since (some p)) s') : p.config.uuid = u := by
  cases hget.2 with
  | getReturn hg =>
    have hown := (consistent_of_run hrun).own.threads g
    rw [hg] at hown
    exact (hown rfl (Nat.zero_le _)).1

/-- Where nothing old is left, a get started later returns nothing old. -/
theorem readAt_of_returned (hfresh : Fresh u c k s₁)
    (hlater : Run (NamedApart installed u) s₁ l' s)
    (hget : NamedApart installed u s (.getReturned g u since (some p)) s') (hsince : k ≤ since) :
    c ≤ p.readAt := by
  have hfresh' : Fresh u c k s := hlater.invariant hfresh fresh_step
  cases hget.2 with
  | getReturn hg =>
    have hpc := hfresh'.threads g
    rw [hg] at hpc
    exact (hpc rfl hsince).2

/-- **A stored source of an installed backend is found** by every get
that starts later. -/
theorem found_of_usable (hcons : Consistent u s₁) (husable : Usable installed u s₁.db)
    (hlater : Run (NamedApart installed u) s₁ l' s)
    (hget : NamedApart installed u s (.getReturned g u since r) s') (hsince : s₁.clock ≤ since) :
    r.isSome := by
  have hstart : Finds installed u s₁.clock s₁ := by
    refine ⟨husable, hcons.exclusive, fun t => ?_⟩
    -- the gets under way started before
    have hstamp := hcons.stamped t
    revert hstamp
    cases s₁.threads t with
    | getRead v k p =>
      intro hstamp _ hk
      have : k < s₁.clock := hstamp k rfl
      omega
    | getBuilt v k r =>
      intro hstamp _ hk
      have : k < s₁.clock := hstamp k rfl
      omega
    | getStored v k =>
      intro hstamp _ hk
      have : k < s₁.clock := hstamp k rfl
      omega
    | getReleased v k r =>
      intro hstamp _ hk
      have : k < s₁.clock := hstamp k rfl
      omega
    | _ => exact fun _ => trivial
  have hfinds : Finds installed u s₁.clock s :=
    hlater.invariant hstart fun h hs => finds_step h hs.2
  cases hget.2 with
  | getReturn hg =>
    have hpc := hfinds.threads g
    rw [hg] at hpc
    exact hpc rfl hsince

/-- What a get of a stored source answers: a plugin of that source, or
none when its backend is not installed. -/
def Served (installed : String → Bool) (u : Uuid) (db : Database) (r : Option Plugin) : Prop :=
  (∀ p, r = some p → p.config.uuid = u) ∧
    (r = none → ∃ x ∈ db.sources, x.uuid = u ∧ installed x.backend = false)

theorem served_of_stored (hrun : Run (NamedApart installed u) { db := db₀ } l s₁)
    (hstored : u ∈ s₁.db.sourceUuids) (hlater : Run (NamedApart installed u) s₁ l' s)
    (hget : NamedApart installed u s (.getReturned g u since r) s') (hsince : s₁.clock ≤ since) :
    Served installed u s₁.db r := by
  refine ⟨fun p hp => uuid_of_returned (hrun.append hlater) (hp ▸ hget), fun hnone => ?_⟩
  by_contra hinst
  push Not at hinst
  have husable : Usable installed u s₁.db :=
    ⟨hstored, fun x hx hxu => by simpa using hinst x hx hxu⟩
  have hsome := found_of_usable (consistent_of_run hrun) husable hlater hget hsince
  rw [hnone] at hsome
  cases hsome

/-- What a run records is past. -/
theorem clock_lt_of_mem (hrun : RecordedRun installed u s h s') (hx : (x, e) ∈ h) :
    x.clock < s'.clock := by
  induction hrun with
  | nil => cases hx
  | @snoc t s' h xe _ hs ih =>
    obtain ⟨rfl, -, hs⟩ := hs
    have hclock := clock_step hs
    rcases List.mem_append.1 hx with hmem | hmem
    · have hlt := ih hmem
      omega
    · obtain rfl := List.mem_singleton.1 hmem
      exact hclock ▸ Nat.lt_succ_self _

/-- A plugin is built from what is stored under a uuid at a moment of a
run, later than another: the state the run records there. -/
def BuiltAfter (c : ℕ) (u : Uuid) (h : List (ManagerState × ManagerEvent)) (p : Plugin) : Prop :=
  ∃ x e, (x, e) ∈ h ∧ c < x.clock ∧ x.clock = p.readAt ∧ BuiltFrom x.db u p

/-- What a get returns was read at a moment of the run. -/
theorem read_of_returned (hrun : RecordedRun installed u { db := db₀ } h s)
    (hget : NamedApart installed u s (.getReturned g u since (some p)) s') :
    ∃ x e, (x, e) ∈ h ∧ x.clock = p.readAt ∧ BuiltFrom x.db u p := by
  have huuid := uuid_of_returned hrun.of_recorded hget
  cases hget.2 with
  | getReturn hg => exact huuid ▸ read_of_holds hrun (Or.inr ⟨g, by rw [hg]; rfl⟩)

/-- A source that a step creates was not stored before it, so what a get
of it returns was read after. -/
theorem builtAfter_created {v : Uuid} (hrun : RecordedRun installed u { db := db₀ } h s)
    (hnew : v ∉ s.db.sourceUuids) (hstep : NamedApart installed u s e s₁)
    (hlater : RecordedRun installed u s₁ h' s₂) (hx : (x, e') ∈ h ++ (s, e) :: h')
    (hread : x.clock = p.readAt) (hbuilt : BuiltFrom x.db v p) :
    BuiltAfter s.clock v (h ++ (s, e) :: h') p := by
  refine ⟨x, e', hx, ?_, hread, hbuilt⟩
  have hstored : v ∈ x.db.sourceUuids := by
    obtain ⟨o, hr⟩ := hbuilt
    obtain ⟨-, y, hy, hyv, -⟩ := SourceCRUD.getByUuid_ok hr
    exact List.mem_map.2 ⟨y, hy, hyv⟩
  rcases List.mem_append.1 hx with hmem | hmem
  · -- stored then, it would be stored when it is created
    obtain ⟨-, h₂, -, -, hfrom⟩ := hrun.through_recorded hmem
    exact absurd (hfrom.of_recorded.invariant (I := fun y => v ∈ y.db.sourceUuids) hstored
      fun hy hs => stored_step hy hs.2) hnew
  · rcases List.mem_cons.1 hmem with heq | hmem
    · cases heq
      exact absurd hstored hnew
    · obtain ⟨h₁, -, -, hto, -⟩ := hlater.through_recorded hmem
      have hclock := clock_step hstep.2
      have hle := clock_le_of_run hto
      omega

/-- **No edit is lost by the plugin cache**, in any interleaving: a get
that starts after an edit of its source has returned serves that source,
built from what is stored at a moment after the edit's commit; and one
that starts after its source was created finds it, built from what is
stored after that. -/
theorem edits_reach_gets (hrun : RecordedRun installed u { db := db₀ } h s)
    (hstep : NamedApart installed u s e s₁) (hlater : RecordedRun installed u s₁ h' s₂)
    (hget : NamedApart installed u s₂ (.getReturned g u since r) s') (hsince : s₁.clock ≤ since) :
    (∀ t c, e = .editReturned t u c →
      (∃ x, (x, .editCommitted t u) ∈ h ∧ x.clock = c) ∧ Served installed u s₁.db r ∧
        ∀ p, r = some p → BuiltAfter c u (h ++ (s, e) :: h') p) ∧
    (∀ t, e = .created t u → Served installed u s₁.db r ∧
      ∀ p, r = some p → BuiltAfter s.clock u (h ++ (s, e) :: h') p) := by
  have hwhole : RecordedRun installed u { db := db₀ } (h ++ (s, e) :: h') s₂ :=
    hrun.append (.cons ⟨rfl, hstep⟩ hlater)
  have hrun₁ := hrun.of_recorded.snoc hstep
  constructor
  · rintro t c rfl
    have hcons := consistent_of_run hrun.of_recorded
    cases hstep.2 with
    | editReturn ht =>
      have hstored : u ∈ s.db.sourceUuids := hcons.edited t (by rw [ht]; rfl)
      have hfresh : Fresh u (c + 1) s.clock s := hcons.settled t c (by rw [ht]; rfl)
      refine ⟨committed_of_commit hrun (by rw [ht]; rfl),
        served_of_stored hrun₁ hstored hlater.of_recorded hget hsince, ?_⟩
      rintro p rfl
      obtain ⟨x, e, hx, hread, hbuilt⟩ := read_of_returned hwhole hget
      have hafter : c + 1 ≤ p.readAt := readAt_of_returned (fresh_step hfresh hstep)
        hlater.of_recorded hget ((Nat.le_succ _).trans hsince)
      exact ⟨x, e, hx, hread ▸ hafter, hread, hbuilt⟩
  · rintro t rfl
    cases hstep.2 with
    | @create _ _ _ _ _ info _ ht hc =>
      obtain ⟨hnew, huuids, -⟩ := SourceCRUD.create_stored hc
      have hstored : info.uuid ∈ Database.sourceUuids _ :=
        huuids ▸ List.mem_append_right _ (List.mem_singleton_self _)
      refine ⟨served_of_stored hrun₁ hstored hlater.of_recorded hget hsince, ?_⟩
      rintro p rfl
      obtain ⟨x, e, hx, hread, hbuilt⟩ := read_of_returned hwhole hget
      exact builtAfter_created hrun hnew hstep hlater hx hread hbuilt

end Runs

/-- A database with one source. -/
def oneSource : Database where
  sources := [{ uuid := "s1", rawName := "csv", tenantUuid := "t", backend := "csv" }]

/-- `oneSource`, its source renamed. -/
def oneSourceRenamed : Database where
  sources := [{ uuid := "s1", rawName := "renamed", tenantUuid := "t", backend := "csv" }]

/-- **The plugin cached before an edit is not served after it**: one get
caches the source, an edit renames it, and the next get serves it renamed,
as read after the commit. -/
theorem edit_reaches_get : ∃ h₀ s₀ h₁ s s₁ h' s₂ s' since old new,
    RecordedRun (fun _ => true) "s1" { db := oneSource } h₀ s₀ ∧
    s₀.sources.cached "s1" = some old ∧ old.config.name = "csv" ∧ old.readAt < s₀.clock ∧
    RecordedRun (fun _ => true) "s1" { db := oneSource } (h₀ ++ h₁) s ∧
    NamedApart (fun _ => true) "s1" s (.editReturned 0 "s1" s₀.clock) s₁ ∧
    RecordedRun (fun _ => true) "s1" s₁ h' s₂ ∧
    NamedApart (fun _ => true) "s1" s₂ (.getReturned 1 "s1" since (some new)) s' ∧
    s₁.clock ≤ since ∧ new.config.name = "renamed" ∧
    (∃ x, (x, .editCommitted 0 "s1") ∈ h₀ ++ h₁ ∧ x.clock = s₀.clock) ∧
    Served (fun _ => true) "s1" s₁.db (some new) ∧
    ∀ p, some new = some p → BuiltAfter s₀.clock "s1"
      ((h₀ ++ h₁) ++ (s, .editReturned 0 "s1" s₀.clock) :: h') p := by
  -- the first get caches the source under its old name
  have hread₀ : SourceCRUD.getByUuid .asStored oneSource "s1" =
      .ok { uuid := "s1", backend := "csv", name := "csv", tenantUuid := "t" } := by rfl
  obtain ⟨l₀, s₀, hfirst⟩ := get_alone (s := { db := oneSource }) (t := 1)
    (fun db _ => NotNamed "s1" db) (fun _ _ => by decide) rfl rfl
    (@SourceManager.get_of_miss (fun _ => true) _ _ _ _ _ 3 rfl hread₀ rfl)
  obtain ⟨h₀, -, hrun₀⟩ := hfirst.run.exists_recorded
  have hcached : s₀.sources.cached "s1" =
      some ⟨{ uuid := "s1", backend := "csv", name := "csv", tenantUuid := "t" }, 3⟩ := by
    rw [hfirst.sources, Dict.cached_set_self]
  obtain ⟨x, e, hx, hxread, -⟩ := read_of_holds hrun₀ (Or.inl ⟨"s1", hcached⟩)
  -- the edit renames it
  have hedit : SourceCRUD.edit .asStored s₀.db "csv" "s1" none { name := some "renamed" } =
      (.ok { uuid := "s1", backend := "csv", name := "renamed", tenantUuid := "t" },
        oneSourceRenamed) := by
    rw [hfirst.db]
    rfl
  have hnamed₀ : NotNamed "s1" s₀.db := by rw [hfirst.db]; decide
  obtain ⟨l₁, s, hrun₁, ht, hdb, hlock, hsources, hothers⟩ :=
    @edit_alone (fun _ => true) s₀ 0 _ _ (fun db _ => NotNamed "s1" db) _ _ _ _ _
      (fun _ => hnamed₀) (fun _ => by decide) (hfirst.threads 0) hfirst.lock hedit
  obtain ⟨h₁, -, hrun₁⟩ := hrun₁.exists_recorded
  have hnamed : NotNamed "s1" s.db := by rw [hdb]; decide
  have hreturn : NamedApart (fun _ => true) "s1" s (.editReturned 0 "s1" s₀.clock)
      (s.move 0 .idle) := ⟨hnamed, .editReturn ht⟩
  -- the next get finds nothing cached
  have hidle : (s.move 0 .idle).threads 1 = .idle := by
    rw [ManagerState.move_threads, if_neg (by decide)]
    exact (hothers 1 (by decide)).trans (hfirst.threads 1)
  have hmiss : s.sources.cached "s1" = none := by
    show s.sources.cached "s1" = none
    rw [hsources]
    exact (Dict.cached_erase ..).trans (if_pos rfl)
  have hread : SourceCRUD.getByUuid .asStored s.db "s1" =
      .ok { uuid := "s1", backend := "csv", name := "renamed", tenantUuid := "t" } := by
    rw [hdb]
    rfl
  obtain ⟨l', s', hlater⟩ := get_alone (s := s.move 0 .idle) (t := 1)
    (fun db _ => NotNamed "s1" db) (fun _ _ => hnamed) hidle hlock
    (@SourceManager.get_of_miss (fun _ => true) _ _ _ _ _ ((s.move 0 .idle).clock + 3) hmiss hread
      rfl)
  obtain ⟨k, s₂, s₃, hrun', hreturned⟩ := hlater.run.exists_step hlater.returned
  obtain ⟨h', -, hrun'⟩ := hrun'.exists_recorded
  have hrun := hrun₀.append hrun₁
  have hserved := (edits_reach_gets hrun hreturn hrun' hreturned (Nat.le_refl _)).1 0 _ rfl
  exact ⟨h₀, s₀, h₁, s, _, h', s₂, s₃, _, _, _, hrun₀, hcached, rfl,
    hxread ▸ clock_lt_of_mem hrun₀ hx, hrun, hreturn, hrun', hreturned, Nat.le_refl _, rfl, hserved⟩

end WazoDird
