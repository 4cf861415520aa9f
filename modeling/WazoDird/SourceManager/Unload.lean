import WazoDird.Common.Run
import WazoDird.SourceManager.Model

/-!
# Unloading the plugins

`unload_sources` goes over the values of the cache, and a plugin is a
value once for each key it is under: its uuid, its name, both or none. So
how often a plugin is unloaded is how many of its two keys are left alone
from its load to the end of the run, and reached by the loop, which an
`unload` that raises ends.
-/

namespace WazoDird

variable (installed : String → Bool)

/-- A call of the source manager. A get comes with what it finds: the
database, the order of its answer, and whether the plugin's `load`
raises. -/
inductive ManagerCall where
  | get (sourceUuid : Uuid) (o : RowOrder Source) (db : Database) (raises : Bool)
  | invalidate (sourceUuid : Uuid)

/-- The cache between two calls, the moment, and the plugins whose `load`
returned. -/
structure UnloadState where
  sources : PluginCache := ∅
  clock : ℕ := 0
  loaded : List Plugin := []

namespace UnloadState

/-- The plugin a get loads: there is none in the cache, and its source and
its backend are there. -/
def loading (s : UnloadState) (u : Uuid) (o : RowOrder Source) (db : Database) : Option Plugin :=
  match s.sources.cached u, SourceCRUD.getByUuid o db u with
  | none, .ok config => if installed config.backend then some ⟨config, s.clock⟩ else none
  | _, _ => none

/-- The plugin a call loads, when its `load` returns. -/
def loads (s : UnloadState) : ManagerCall → Option Plugin
  | .get u o db false => s.loading installed u o db
  | .get _ _ _ true | .invalidate _ => none

/-- One call. -/
def exec (s : UnloadState) (c : ManagerCall) : UnloadState where
  sources := match c with
    | .get u o db raises => (SourceManager.get installed raises s.clock o db s.sources u).2
    | .invalidate u => SourceManager.invalidate s.sources u
  clock := s.clock + 1
  loaded := s.loaded ++ (s.loads installed c).toList

/-- A run of calls. -/
def run (s : UnloadState) (l : List ManagerCall) : UnloadState := l.foldl (exec installed) s

end UnloadState

/-- The entries a loop over the cache reaches: an `unload` that raises ends
it. -/
def SourceManager.reached (raises : Plugin → Bool) :
    List (Uuid × Option Plugin) → List (Uuid × Option Plugin)
  | [] => []
  | e :: l => e :: (if e.2.any raises then [] else reached raises l)

/-- **`unload_sources`**: the plugins whose `unload` is called, in turn. -/
def SourceManager.unloadSources (raises : Plugin → Bool) (sources : PluginCache) : List Plugin :=
  (reached raises sources.entries).filterMap Prod.snd

/-- **The loop reaches a key**: no plugin under an earlier key has an
`unload` that raises. -/
def SourceManager.Reached (raises : Plugin → Bool) (sources : PluginCache) (k : Uuid) : Prop :=
  ∃ l v l', sources.entries = l ++ (k, v) :: l' ∧ ∀ e ∈ l, e.2.any raises = false

/-- **A call drops what is under a key**: it invalidates it, or it loads
and stores the plugin of a source of that name. -/
def UnloadState.Drops (s : UnloadState) (c : ManagerCall) (k : Uuid) : Prop :=
  c = .invalidate k ∨ ∃ p, s.loads installed c = some p ∧ p.name = k

/-- **A key is left alone**, call after call. -/
def UnloadState.Kept (s : UnloadState) (l : List ManagerCall) (k : Uuid) : Prop :=
  Along (exec installed) (fun s c => ¬ s.Drops installed c k) s l

/-! ## How often a plugin is a value -/

/-- A list without repetition has one element when exactly one value is
in it. -/
theorem length_eq_one_iff_existsUnique {κ : Type} {l : List κ} (hl : l.Nodup) :
    l.length = 1 ↔ ∃! k, k ∈ l := by
  rw [List.length_eq_one_iff]
  constructor
  · rintro ⟨k, rfl⟩
    exact ⟨k, List.mem_singleton.2 rfl, fun _ => List.mem_singleton.1⟩
  · rintro ⟨k, hk, hunique⟩
    obtain ⟨l₁, l₂, rfl⟩ := List.append_of_mem hk
    have hl₁ : l₁ = [] := by
      refine List.eq_nil_iff_forall_not_mem.2 fun k' hk' => ?_
      have heq := hunique k' (List.mem_append_left _ hk')
      exact (List.nodup_append.1 hl).2.2 k' hk' k List.mem_cons_self heq
    have hl₂ : l₂ = [] := by
      refine List.eq_nil_iff_forall_not_mem.2 fun k' hk' => ?_
      have heq := hunique k' (List.mem_append_right _ (List.mem_cons_of_mem k hk'))
      exact (List.nodup_cons.1 (List.nodup_append.1 hl).2.1).1 (heq ▸ hk')
    exact ⟨k, by rw [hl₁, hl₂, List.nil_append]⟩

/-- A value is there as often as it is under a key. -/
theorem count_filterMap_snd {α κ : Type} [DecidableEq α] (l : List (κ × Option α)) (a : α) :
    (l.filterMap Prod.snd).count a = ((l.filter (·.2 = some a)).map Prod.fst).length := by
  induction l with
  | nil => rfl
  | cons e l ih =>
    obtain ⟨k, v⟩ := e
    cases v with
    | none => simpa using ih
    | some b =>
      by_cases hb : b = a
      · simpa [hb] using ih
      · simpa [hb] using ih

/-- Under distinct keys, a value is there once when it is under one key. -/
theorem count_filterMap_snd_eq_one {α κ : Type} [DecidableEq α] {l : List (κ × Option α)} {a : α}
    (hl : (l.map Prod.fst).Nodup) :
    (l.filterMap Prod.snd).count a = 1 ↔ ∃! k, (k, some a) ∈ l := by
  have hnodup : ((l.filter (·.2 = some a)).map Prod.fst).Nodup :=
    hl.sublist (List.filter_sublist.map _)
  have hmem : ∀ k, k ∈ (l.filter (·.2 = some a)).map Prod.fst ↔ (k, some a) ∈ l := by
    intro k
    simp only [List.mem_map, List.mem_filter, decide_eq_true_eq]
    constructor
    · rintro ⟨⟨k', v⟩, ⟨he, rfl⟩, rfl⟩
      exact he
    · exact fun he => ⟨_, ⟨he, rfl⟩, rfl⟩
  rw [count_filterMap_snd, length_eq_one_iff_existsUnique hnodup]
  exact existsUnique_congr hmem

section Values

variable {raises : Plugin → Bool} {sources : PluginCache} {k : Uuid} {p : Plugin}

theorem SourceManager.reached_sublist (raises : Plugin → Bool)
    (l : List (Uuid × Option Plugin)) : (reached raises l).Sublist l := by
  induction l with
  | nil => exact List.Sublist.refl _
  | cons e l ih =>
    rw [reached]
    split
    · exact (List.nil_sublist l).cons_cons e
    · exact ih.cons_cons e

/-- The loop reaches an entry when no plugin before it raises. -/
theorem SourceManager.mem_reached_iff {l : List (Uuid × Option Plugin)}
    {e : Uuid × Option Plugin} :
    e ∈ reached raises l ↔ ∃ l₁ l₂, l = l₁ ++ e :: l₂ ∧ ∀ e' ∈ l₁, e'.2.any raises = false := by
  induction l with
  | nil => simp [reached]
  | cons e₀ l ih =>
    rw [reached, List.mem_cons]
    constructor
    · rintro (rfl | h)
      · exact ⟨[], l, rfl, fun _ h => nomatch h⟩
      · split at h
        · cases h
        · next hraises =>
          obtain ⟨l₁, l₂, rfl, hall⟩ := ih.1 h
          refine ⟨e₀ :: l₁, l₂, rfl, fun e' he' => ?_⟩
          obtain rfl | he' := List.mem_cons.1 he'
          · exact Bool.eq_false_iff.2 hraises
          · exact hall e' he'
    · rintro ⟨_ | ⟨e₁, l₁⟩, l₂, hl, hall⟩
      · cases hl
        exact Or.inl rfl
      · cases hl
        rw [if_neg (Bool.eq_false_iff.1 (hall e₀ List.mem_cons_self))]
        exact Or.inr (ih.2 ⟨l₁, l₂, rfl, fun e' he' => hall e' (List.mem_cons_of_mem _ he')⟩)

/-- A plugin is cached under a key when it is an entry. -/
theorem Dict.cached_eq_some_iff : sources.cached k = some p ↔ (k, some p) ∈ sources.entries := by
  rw [Dict.cached, Option.join_eq_some_iff, Dict.get?_eq_some_iff]

/-- The loop comes to a plugin where it is cached under a key it
reaches. -/
theorem SourceManager.mem_reached :
    (k, some p) ∈ reached raises sources.entries ↔
      sources.cached k = some p ∧ Reached raises sources k := by
  rw [Dict.cached_eq_some_iff, mem_reached_iff]
  constructor
  · rintro ⟨l₁, l₂, hl, hall⟩
    exact ⟨by rw [hl]; exact List.mem_append_right _ List.mem_cons_self, l₁, _, l₂, hl, hall⟩
  · rintro ⟨he, l₁, v, l₂, hl, hall⟩
    have hv : (k, v) ∈ sources.entries := by
      rw [hl]
      exact List.mem_append_right _ List.mem_cons_self
    rw [Dict.eq_of_nodup_keys sources.nodup he hv]
    exact ⟨l₁, l₂, hl, hall⟩

/-- A plugin is unloaded once when the loop reaches one of the keys it is
cached under. -/
theorem SourceManager.count_unloadSources :
    (unloadSources raises sources).count p = 1 ↔
      ∃! k, sources.cached k = some p ∧ Reached raises sources k := by
  have hnodup := sources.nodup.sublist ((reached_sublist raises sources.entries).map Prod.fst)
  rw [unloadSources, count_filterMap_snd_eq_one hnodup]
  exact existsUnique_congr fun _ => mem_reached

end Values

/-! ## What a call leaves under a key -/

section Calls

variable {installed : String → Bool} {s : UnloadState} {c : ManagerCall} {k : Uuid} {p : Plugin}

namespace UnloadState

/-- **What a get loads**: the plugin of the source of that uuid, read at
that moment. -/
theorem loading_eq_some {u : Uuid} {o : RowOrder Source} {db : Database}
    (h : s.loading installed u o db = some p) :
    p.config.uuid = u ∧ p.readAt = s.clock ∧ s.sources.cached u = none ∧
      SourceCRUD.getByUuid o db u = .ok p.config ∧ installed p.config.backend = true := by
  unfold loading at h
  split at h
  · next hmiss hread =>
    split at h
    · next hi =>
      cases h
      exact ⟨(SourceCRUD.getByUuid_ok hread).1, rfl, hmiss, hread, hi⟩
    · cases h
  · cases h

/-- **What a get leaves in the cache**: what it loads, under the source's
uuid and, unless `load` raises, its name, and all else as it was. -/
theorem cached_get (s : UnloadState) (raises : Bool) (u : Uuid) (o : RowOrder Source)
    (db : Database) (k : Uuid) :
    (SourceManager.get installed raises s.clock o db s.sources u).2.cached k =
      match s.loading installed u o db with
      | none => s.sources.cached k
      | some p => if k = u ∨ (raises = false ∧ k = p.name) then some p
          else s.sources.cached k := by
  unfold SourceManager.get loading
  cases hmiss : s.sources.cached u with
  | some q => rfl
  | none =>
    have hnothing : (s.sources.set u none).cached k = s.sources.cached k := by
      rw [Dict.cached_set]
      split
      · next hk => rw [← hk, hmiss]
      · rfl
    unfold SourceManager.loadSource
    cases SourceCRUD.getByUuid o db u with
    | error e => cases e <;> first | rfl | exact hnothing
    | ok config =>
      by_cases hi : installed config.backend = true
      · cases raises <;>
          simp only [hi, if_true, SourceManager.addSourceWithConfig, Dict.cached_set, Plugin.name,
            true_and, Bool.false_eq_true, if_false] <;> grind
      · simp only [hi, Bool.false_eq_true, if_false]
        exact hnothing

/-- What a call loads is of that moment. -/
theorem readAt_of_loads (h : s.loads installed c = some p) : p.readAt = s.clock := by
  cases c with
  | get u o db raises =>
    cases raises with
    | true => cases h
    | false => exact (loading_eq_some h).2.1
  | invalidate u => cases h

/-- **A call leaves an older plugin under a key** when it does not drop
it. -/
theorem cached_exec (hp : p.readAt < s.clock) :
    (s.exec installed c).sources.cached k = some p ↔
      s.sources.cached k = some p ∧ ¬ s.Drops installed c k := by
  cases c with
  | invalidate u =>
    have hcached : (s.exec installed (.invalidate u)).sources.cached k =
      if u = k then none else s.sources.cached k := Dict.cached_erase _ _ _
    have hdrops : s.Drops installed (.invalidate u) k ↔ u = k := by
      constructor
      · rintro (h | ⟨q, hq, -⟩)
        · exact ManagerCall.invalidate.inj h
        · cases hq
      · exact fun h => Or.inl (h ▸ rfl)
    rw [hcached, hdrops]
    by_cases hk : u = k <;> simp [hk]
  | get u o db raises =>
    have hcached : (s.exec installed (.get u o db raises)).sources.cached k = _ :=
      s.cached_get raises u o db k
    rw [hcached]
    cases hload : s.loading installed u o db with
    | none =>
      have hdrops : ¬ s.Drops installed (.get u o db raises) k := by
        rintro (h | ⟨q, hq, -⟩)
        · cases h
        · cases raises with
          | true => cases hq
          | false => cases hload.symm.trans hq
      exact (and_iff_left hdrops).symm
    | some q =>
      obtain ⟨-, hat, hmiss, -⟩ := loading_eq_some hload
      have hne : some q ≠ some p := by
        rintro ⟨⟩
        omega
      have hdrops : s.Drops installed (.get u o db raises) k ↔ raises = false ∧ k = q.name := by
        constructor
        · rintro (h | ⟨q', hq', rfl⟩)
          · cases h
          · cases raises with
            | true => cases hq'
            | false =>
              obtain rfl := Option.some.inj (hload.symm.trans hq')
              exact ⟨rfl, rfl⟩
        · rintro ⟨rfl, rfl⟩
          exact Or.inr ⟨q, hload, rfl⟩
      rw [hdrops]
      dsimp only
      by_cases hu : k = u
      · rw [if_pos (Or.inl hu), hu, hmiss]
        refine iff_of_false hne ?_
        rintro ⟨h, -⟩
        cases h
      · by_cases hname : raises = false ∧ k = q.name
        · rw [if_pos (Or.inr hname)]
          exact iff_of_false hne (fun h => h.2 hname)
        · rw [if_neg (not_or.2 ⟨hu, hname⟩)]
          exact (and_iff_left hname).symm

/-- Every plugin in the cache was read before. -/
def Past (s : UnloadState) : Prop := ∀ k p, s.sources.cached k = some p → p.readAt < s.clock

theorem past_exec (h : s.Past) (c : ManagerCall) : (s.exec installed c).Past := by
  intro k p hp
  show p.readAt < s.clock + 1
  by_cases hold : s.sources.cached k = some p
  · exact (h k p hold).trans (Nat.lt_succ_self _)
  · cases c with
    | invalidate u =>
      have hp : (s.sources.erase u).cached k = some p := hp
      rw [Dict.cached_erase] at hp
      split at hp
      · cases hp
      · exact absurd hp hold
    | get u o db raises =>
      have hp := (s.cached_get raises u o db k).symm.trans hp
      split at hp
      · exact absurd hp hold
      · next q hload =>
        split at hp
        · cases hp
          rw [(loading_eq_some hload).2.1]
          exact Nat.lt_succ_self _
        · exact absurd hp hold

/-- **What a call loads is under two keys**, and under no other. -/
theorem cached_of_loads (hs : s.Past) (h : s.loads installed c = some p) :
    (s.exec installed c).sources.cached k = some p ↔ k = p.config.uuid ∨ k = p.name := by
  cases c with
  | invalidate u => cases h
  | get u o db raises =>
    cases raises with
    | true => cases h
    | false =>
      have hload : s.loading installed u o db = some p := h
      obtain ⟨hu, hat, -⟩ := loading_eq_some hload
      have hcached : (s.exec installed (.get u o db false)).sources.cached k = _ :=
        s.cached_get false u o db k
      rw [hcached, hload, hu]
      dsimp only
      split
      · next hk => exact iff_of_true rfl (hk.imp id And.right)
      · next hk =>
        refine iff_of_false (fun hp => ?_) fun hk' => hk (hk'.imp id fun h => ⟨rfl, h⟩)
        have := hs k p hp
        omega

/-! ## What a run leaves under a key -/

theorem past_run (h : s.Past) (l : List ManagerCall) : (run installed s l).Past := by
  induction l generalizing s with
  | nil => exact h
  | cons c l ih => exact ih (past_exec h c)

/-- **A run leaves an older plugin under a key** when every call of it
does. -/
theorem cached_run {l : List ManagerCall} (hp : p.readAt < s.clock) :
    (run installed s l).sources.cached k = some p ↔
      s.sources.cached k = some p ∧ Kept installed s l k := by
  induction l generalizing s with
  | nil => exact (and_iff_left trivial).symm
  | cons c l ih =>
    have hlater : p.readAt < (s.exec installed c).clock := hp.trans (Nat.lt_succ_self _)
    have hih : (run installed (s.exec installed c) l).sources.cached k = some p ↔ _ := ih hlater
    rw [cached_exec hp, and_assoc] at hih
    exact hih

/-- What was loaded in a run is what a call of it loaded. -/
theorem mem_loaded_run {l : List ManagerCall} :
    p ∈ (run installed s l).loaded ↔ p ∈ s.loaded ∨
      ∃ l₁ c l₂, l = l₁ ++ c :: l₂ ∧ (run installed s l₁).loads installed c = some p := by
  induction l generalizing s with
  | nil => simp [run]
  | cons c l ih =>
    have hih : p ∈ (run installed (s.exec installed c) l).loaded ↔ _ := ih
    have hloaded : p ∈ (s.exec installed c).loaded ↔
        p ∈ s.loaded ∨ s.loads installed c = some p := by
      show p ∈ s.loaded ++ (s.loads installed c).toList ↔ _
      rw [List.mem_append, Option.mem_toList]
    refine hih.trans ?_
    rw [hloaded, or_assoc]
    refine or_congr_right ⟨?_, ?_⟩
    · rintro (h | ⟨l₁, c', l₂, rfl, h⟩)
      · exact ⟨[], c, l, rfl, h⟩
      · exact ⟨c :: l₁, c', l₂, rfl, h⟩
    · rintro ⟨_ | ⟨c₁, l₁⟩, c', l₂, hl, h⟩
      · cases hl
        exact Or.inl h
      · cases hl
        exact Or.inr ⟨l₁, c', l₂, rfl, h⟩

end UnloadState

end Calls

/-! ## Unloaded once -/

/-- **When every loaded plugin is unloaded once**: each was left alone to
the end, and reached by the loop, under exactly one of its source's uuid
and its name. -/
theorem SourceManager.unloaded_once_iff (installed : String → Bool) (raises : Plugin → Bool)
    (l : List ManagerCall) :
    (∀ p ∈ (UnloadState.run installed {} l).loaded,
      (unloadSources raises (UnloadState.run installed {} l).sources).count p = 1) ↔
    ∀ l₁ c l₂ p, l = l₁ ++ c :: l₂ →
      (UnloadState.run installed {} l₁).loads installed c = some p →
      ∃! k, (k = p.config.uuid ∨ k = p.name) ∧
        UnloadState.Kept installed (UnloadState.run installed {} (l₁ ++ [c])) l₂ k ∧
        Reached raises (UnloadState.run installed {} l).sources k := by
  have hpast : ∀ l₁, (UnloadState.run installed {} l₁).Past :=
    UnloadState.past_run fun k p h => nomatch h
  -- what a load leaves to the end, key by key
  have hkeys : ∀ l₁ c l₂ p k, l = l₁ ++ c :: l₂ →
      (UnloadState.run installed {} l₁).loads installed c = some p →
      ((UnloadState.run installed {} l).sources.cached k = some p ↔
        (k = p.config.uuid ∨ k = p.name) ∧
          UnloadState.Kept installed (UnloadState.run installed {} (l₁ ++ [c])) l₂ k) := by
    rintro l₁ c l₂ p k rfl hload
    have hrun : UnloadState.run installed {} (l₁ ++ c :: l₂) = UnloadState.run installed
        ((UnloadState.run installed {} l₁).exec installed c) l₂ := List.foldl_append
    have hat : p.readAt < ((UnloadState.run installed {} l₁).exec installed c).clock := by
      rw [UnloadState.readAt_of_loads hload]
      exact Nat.lt_succ_self _
    have hone : UnloadState.run installed {} (l₁ ++ [c]) =
        (UnloadState.run installed {} l₁).exec installed c := List.foldl_append
    rw [hrun, UnloadState.cached_run hat, UnloadState.cached_of_loads (hpast l₁) hload, hone]
  constructor
  · rintro h l₁ c l₂ p rfl hload
    have hmem := UnloadState.mem_loaded_run.2 (Or.inr ⟨l₁, c, l₂, rfl, hload⟩)
    refine (existsUnique_congr fun k => ?_).1 (count_unloadSources.1 (h p hmem))
    rw [hkeys l₁ c l₂ p k rfl hload, and_assoc]
  · intro h p hp
    obtain hp | ⟨l₁, c, l₂, rfl, hload⟩ := UnloadState.mem_loaded_run.1 hp
    · cases hp
    · refine count_unloadSources.2 ((existsUnique_congr fun k => ?_).1 (h l₁ c l₂ p rfl hload))
      rw [hkeys l₁ c l₂ p k rfl hload, and_assoc]

/-- One source, whose name is not its uuid. -/
private def phoneSource : Database where
  tenants := [{ uuid := "t", country := none }]
  sources := [{ uuid := "u", rawName := "phone", tenantUuid := "t", backend := "csv" }]

/-- **A plugin got once is unloaded twice**: it is in the cache under its
uuid and under its name. -/
theorem SourceManager.not_unloaded_once :
    ¬ ∀ (installed : String → Bool) (raises : Plugin → Bool) (l : List ManagerCall),
      ∀ p ∈ (UnloadState.run installed {} l).loaded,
        (unloadSources raises (UnloadState.run installed {} l).sources).count p = 1 := by
  intro h
  have hrun : ∀ p ∈ (UnloadState.run (fun _ => true) {}
      [.get "u" .asStored phoneSource false]).loaded,
      (unloadSources (fun _ => false) (UnloadState.run (fun _ => true) {}
        [.get "u" .asStored phoneSource false]).sources).count p = 1 := h _ _ _
  exact absurd hrun (by decide)

end WazoDird
